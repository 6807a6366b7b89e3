import SdkEventBridge.Library.Serial
import SdkEventBridge.App.Registration
import SdkEventBridge.Model.Process

set_option relaxedAutoImplicit false
set_option autoImplicit false

/-!
# What leaves the process

A call of the application does in the process what it does alone, except that a response leaves
only if the bridge has the object that sends it. Every handler responds at most once, so that a
bridge that is stopped loses one response at most.

## Main definitions

* `outputs`, `publications`, `sportResponses`, `switcherResponses`, `delivered` — what is seen of
  the process.
* `Host.sends` — the outputs that leave.
* `SentUntil` — what a bridge has sent, and what of it was lost.

## Main results

* `call_app` — one call of the application.
* `respondsOnce_program` — every handler responds at most once.
* `SentUntil.append` — one more call of a sender.
-/

namespace SdkEventBridge

open PlanarNorm Resumption Run App

/-! ## What is seen of the process -/

namespace ProcessOutput

variable {K : Type}

/-- The output of the application. -/
def output? : ProcessOutput K → Option (Output K)
  | .app output => some output
  | .delivered _ => none

/-- The message, if one was delivered. -/
def message? : ProcessOutput K → Option Message
  | .app _ => none
  | .delivered message => some message

end ProcessOutput

section Observed

variable {K : Type}

/-- A message on `/cmd_vel_origin` or `/cmd_ctl`. -/
def Output.isPublication : Output K → Bool
  | .twist _ | .command _ => true
  | .sportResponse _ | .switcherResponse _ => false

/-- What the application put out, oldest first. -/
def outputs (trace : List (ProcessOutput K)) : List (Output K) :=
  trace.filterMap ProcessOutput.output?

/-- The messages on `/cmd_vel_origin` and `/cmd_ctl`, oldest first. -/
def publications (trace : List (Output K)) : List (Output K) := trace.filter Output.isPublication

/-- The sport responses, oldest first. -/
def sportResponses (trace : List (Output K)) : List Response :=
  trace.filterMap Output.sportResponse?

/-- The responses of the motion switcher, oldest first. -/
def switcherResponses (trace : List (Output K)) : List Response :=
  trace.filterMap Output.switcherResponse?

/-- The messages that were delivered, in order. -/
def delivered (trace : List (ProcessOutput K)) : List Message :=
  trace.filterMap ProcessOutput.message?

/-- The outputs of two pieces. -/
@[simp] theorem outputs_append (xs ys : List (ProcessOutput K)) :
    outputs (xs ++ ys) = outputs xs ++ outputs ys := List.filterMap_append

/-- The publications of two pieces. -/
@[simp] theorem publications_append (xs ys : List (Output K)) :
    publications (xs ++ ys) = publications xs ++ publications ys := List.filter_append ..

/-- The sport responses of two pieces. -/
@[simp] theorem sportResponses_append (xs ys : List (Output K)) :
    sportResponses (xs ++ ys) = sportResponses xs ++ sportResponses ys := List.filterMap_append

/-- The motion switcher's responses of two pieces. -/
@[simp] theorem switcherResponses_append (xs ys : List (Output K)) :
    switcherResponses (xs ++ ys) = switcherResponses xs ++ switcherResponses ys :=
  List.filterMap_append

/-- The messages delivered in two pieces. -/
@[simp] theorem delivered_append (xs ys : List (ProcessOutput K)) :
    delivered (xs ++ ys) = delivered xs ++ delivered ys := List.filterMap_append

end Observed
/-! ## One call of the application -/

section Sending

variable {K : Type} [Field K] [LinearOrder K] [HasHypot K] (sdk : UnitreeSdk K)
  (config : BridgeConfig)

/-- What leaves the process: a response only if the bridge has the object that sends it. -/
def Host.sends (host : Host K) : Output K → Bool
  | .sportResponse _ => host.lifecycle.sport.sportServerStub
  | .switcherResponse _ => host.lifecycle.switcher.responsePublisher
  | .twist _ | .command _ => true

/-- A call of the application does in the process what it does alone, and what it puts out is what
is sent.

**Proof sketch.** Case analysis on the call. A response passes if the sender is there, which is what
`sends` tests; every other output passes. -/
theorem call_app (e : Time) (p : Process K) (i : Call) :
    (Process.call sdk config e p (.app i)).1 = { p with app := (App.call sdk e p.app i).1 } ∧
      outputs (Process.call sdk config e p (.app i)).2 =
        (App.call sdk e p.app i).2.filter p.host.sends ∧
      delivered (Process.call sdk config e p (.app i)).2 = [] := by
  cases i with
  | cmdVel op =>
    refine ⟨rfl, ?_, ?_⟩ <;>
      simp [Process.call, App.call, outputs, delivered, List.filterMap_map, List.filter_map,
        Function.comp_def, ProcessOutput.output?, ProcessOutput.message?, Host.sends]
  | sendSportResponse response =>
    refine ⟨rfl, ?_⟩
    cases h : p.host.lifecycle.sport.sportServerStub <;>
      simp [Process.call, App.call, outputs, delivered, Host.sends, h, ProcessOutput.output?,
        ProcessOutput.message?]
  | writeSwitcherResponse response =>
    refine ⟨rfl, ?_⟩
    cases h : p.host.lifecycle.switcher.responsePublisher <;>
      simp [Process.call, App.call, outputs, delivered, Host.sends, h, ProcessOutput.output?,
        ProcessOutput.message?]
  | _ => exact ⟨rfl, rfl, rfl⟩

omit [Field K] [LinearOrder K] [HasHypot K] in
/-- The host lets every publication out. -/
theorem publications_sent (host : Host K) (trace : List (Output K)) :
    publications (trace.filter host.sends) = publications trace := by
  rw [publications, publications, List.filter_filter]
  refine List.filter_congr fun output _ => ?_
  cases output <;> rfl

omit [Field K] [LinearOrder K] [HasHypot K] in
/-- The host lets the sport responses out while the server stub is there. -/
theorem sportResponses_sent (host : Host K) (trace : List (Output K)) :
    sportResponses (trace.filter host.sends) =
      if host.lifecycle.sport.sportServerStub then sportResponses trace else [] := by
  rw [sportResponses, List.filterMap_filter]
  cases h : host.lifecycle.sport.sportServerStub with
  | false =>
    simp only [Bool.false_eq_true, if_false, List.filterMap_eq_nil_iff]
    rintro output -
    cases output with
    | sportResponse response => simp [Host.sends, h]
    | _ => exact ite_self _
  | true =>
    simp only [if_true, sportResponses]
    refine List.filterMap_congr ?_
    rintro output -
    cases output with
    | sportResponse response => simp [Host.sends, h]
    | _ => exact ite_self _

omit [Field K] [LinearOrder K] [HasHypot K] in
/-- The host lets the motion switcher's responses out while their publisher is there. -/
theorem switcherResponses_sent (host : Host K) (trace : List (Output K)) :
    switcherResponses (trace.filter host.sends) =
      if host.lifecycle.switcher.responsePublisher then switcherResponses trace else [] := by
  rw [switcherResponses, List.filterMap_filter]
  cases h : host.lifecycle.switcher.responsePublisher with
  | false =>
    simp only [Bool.false_eq_true, if_false, List.filterMap_eq_nil_iff]
    rintro output -
    cases output with
    | switcherResponse response => simp [Host.sends, h]
    | _ => exact ite_self _
  | true =>
    simp only [if_true, switcherResponses]
    refine List.filterMap_congr ?_
    rintro output -
    cases output with
    | switcherResponse response => simp [Host.sends, h]
    | _ => exact ite_self _

/-- Everything was sent, or the sender has stopped, was `quiet` since, and one response was lost. -/
def SentUntil (ended quiet : Prop) (sent all : List Response) : Prop :=
  sent = all ∨ ended ∧ quiet ∧ ∃ lost, all = sent ++ [lost]

section SentUntil

variable {ended ended' quiet quiet' : Prop} {sent all : List Response}

/-- At most one response is lost, and none before the sender has stopped. -/
theorem SentUntil.lost (h : SentUntil ended quiet sent all) :
    ∃ lost, all = sent ++ lost ∧ lost.length ≤ 1 ∧ (¬ ended → lost = []) := by
  rcases h with rfl | ⟨hended, -, lost, rfl⟩
  · exact ⟨[], by simp, by simp, fun _ => rfl⟩
  · exact ⟨[lost], rfl, by simp, fun hnot => absurd hended hnot⟩

/-- What was sent up to an end is so up to a later one. -/
theorem SentUntil.mono (h : SentUntil ended quiet sent all) (hended : ended → ended')
    (hquiet : ended → quiet → quiet') : SentUntil ended' quiet' sent all :=
  h.imp_right fun hlost => ⟨hended hlost.1, hquiet hlost.1 hlost.2.1, hlost.2.2⟩

/-- One more call of the sender, which is `up` or not. If it sends a response, the sender does not
start again and has nothing more to send.

**Proof sketch.** If all has been sent, a sender that is up sends the new response too; one that is
down loses it, and it is the only one. If a response was lost already, the program responds no more,
so there is no new one. -/
theorem SentUntil.append {up : Bool} {never : Prop} {more : List Response}
    (h : SentUntil (up = false ∧ never) quiet sent all) (hlength : more.length ≤ 1)
    (hmore : more ≠ [] → never ∧ quiet') (hquiet : quiet → more = [] ∧ quiet') :
    SentUntil (up = false ∧ never) quiet' (sent ++ if up then more else []) (all ++ more) := by
  rcases h with rfl | ⟨hended, hq, lost, rfl⟩
  · cases up with
    | true => exact Or.inl rfl
    | false =>
      cases more with
      | nil => exact Or.inl (by simp)
      | cons response rest =>
        obtain ⟨hnever, hq'⟩ := hmore (by simp)
        obtain rfl : rest = [] := by simpa using hlength
        exact Or.inr ⟨⟨rfl, hnever⟩, hq', response, by simp⟩
  · obtain ⟨rfl, hq'⟩ := hquiet hq
    exact Or.inr ⟨hended, hq', lost, by simp⟩

end SentUntil

end Sending

/-! ## Responses -/

/-- The calls that send a response. -/
def Call.Responds : Call → Prop
  | .sendSportResponse _ | .writeSwitcherResponse _ => True
  | .cmdVel _ | .isJointsLocked | .isActivelyMoving | .setRobotPosture _ | .getRobotPosture
  | .resetMotionSwitcher | .buildInterceptResponseData _ _ | .publishCommand _ | .sleepFor => False

/-- A call that does not respond sends no response. -/
theorem Call.answers_of_not_responds {i : Call} (h : ¬ i.Responds) :
    i.sportAnswer = [] ∧ i.switcherAnswer = [] := by
  cases i with
  | sendSportResponse response => exact absurd trivial h
  | writeSwitcherResponse response => exact absurd trivial h
  | _ => exact ⟨rfl, rfl⟩

/-- A call sends one response at most. -/
theorem Call.length_answers (i : Call) :
    i.sportAnswer.length ≤ 1 ∧ i.switcherAnswer.length ≤ 1 := by
  cases i <;> simp [Call.sportAnswer, Call.switcherAnswer]

section Responses

variable {K : Type} [Field K] [LinearOrder K] (sdk : UnitreeSdk K)

/-- **Every handler responds at most once.**

**Proof sketch.** Case analysis on the handler. A sport handler carries out its command, which sends
no response, waits if it has to, and sends one. A motion switcher handler answers, passes a granted
mode change on, and writes one response. The reset callback and the loop send none.
`Prog.Calls.seq_readsOnce` puts the parts together. -/
theorem respondsOnce_program (input : AppInput) :
    (program sdk input).ReadsOnce Call.Responds := by
  cases input with
  | sportRequest request =>
    rw [program_sportRequest]
    refine Prog.Calls.seq_readsOnce ?_ ?_
    · cases sportCommand sdk request with
      | move p => exact ⟨id, fun _ => calls_updatePostureFromMove sdk p id id⟩
      | _ => simp [Call.Responds]
    · refine Prog.Calls.seq_readsOnce ?_ (Prog.readsOnce_of_calls fun _ => trivial)
      split_ifs <;> simp [Call.Responds]
  | switcherRequest request =>
    rw [program_switcherRequest]
    refine fun app => ⟨fun hresponds => absurd hresponds id, ?_⟩
    refine Prog.Calls.seq_readsOnce ?_ (Prog.readsOnce_of_calls fun _ => trivial)
    cases switcherOp sdk app.motionSwitcherBridge request <;> simp [callIfSome, Call.Responds]
  | reset => exact Prog.Calls.readsOnce (by simp [program, resetCallback, Call.Responds])
  | loop => exact Prog.Calls.readsOnce (calls_loopIteration id id id fun _ => id)

end Responses
end SdkEventBridge
