import SdkEventBridge.Process.Simulation

set_option relaxedAutoImplicit false
set_option autoImplicit false

/-!
# What the process answers

Every delivered request leads to its FSM command and to one response, in order. A command can only
be missing while its request is being handled; a response can also be lost, when its bridge is
stopped, but then it is the last one. Until `main` has dropped its handle this is read off the
interleaved run that matches the process.

## Main definitions

* `sportDelivered`, `switcherDelivered` — the requests that were delivered.
* `Owes` — what a server thread has still to emit.
* `AnswersDelivered` — commands and responses against the requests.

## Main results

* `Matches.answers` — the answers up to the end of `main`.
-/

namespace SdkEventBridge

open PlanarNorm Resumption Run App

/-! ## Commands and responses of the sport thread -/

namespace SportMessage

/-- The command, if the message is one. -/
def command? : SportMessage → Option Int32
  | .command fsm => some fsm
  | .response _ => none

/-- The response, if the message is one. -/
def response? : SportMessage → Option Response
  | .command _ => none
  | .response r => some r

end SportMessage

/-- The FSM command a call publishes. -/
def Call.commands (i : Call) : List Int32 := i.sportMessage.filterMap SportMessage.command?

/-- The response a call sends is among what it puts on the sport topics. -/
theorem Call.sportAnswer_eq (i : Call) :
    i.sportAnswer = i.sportMessage.filterMap SportMessage.response? := by
  cases i <;> rfl

section Observed

variable {K : Type}

/-- The commands are among the messages on the sport topics. -/
theorem commands_sportMessages (trace : List (Output K)) :
    commands trace = (sportMessages trace).filterMap SportMessage.command? := by
  rw [commands, sportMessages, List.filterMap_filterMap]
  refine List.filterMap_congr fun output _ => ?_
  cases output <;> rfl

/-- The sport responses are among the messages on the sport topics. -/
theorem sportResponses_sportMessages (trace : List (Output K)) :
    sportResponses trace = (sportMessages trace).filterMap SportMessage.response? := by
  rw [sportResponses, sportMessages, List.filterMap_filterMap]
  refine List.filterMap_congr fun output _ => ?_
  cases output <;> rfl

/-- Commands are publications. -/
theorem commands_publications (trace : List (Output K)) :
    commands (publications trace) = commands trace := by
  rw [commands, commands, publications, List.filterMap_filter]
  refine List.filterMap_congr fun output _ => ?_
  cases output <;> rfl

/-- The identities of the motion switcher's responses. -/
theorem map_switcherResponses (trace : List (Output K)) :
    (switcherResponses trace).map Response.identity = switcherIdentities trace :=
  List.map_filterMap

/-- The sport requests that were delivered, in order. -/
def sportDelivered (trace : List (ProcessOutput K)) : List Request :=
  (delivered trace).filterMap fun message => message.input.sportRequest?

/-- The motion switcher requests that were delivered, in order. -/
def switcherDelivered (trace : List (ProcessOutput K)) : List Request :=
  (delivered trace).filterMap fun message => message.input.switcherRequest?

/-- The sport requests delivered in two pieces. -/
@[simp] theorem sportDelivered_append (xs ys : List (ProcessOutput K)) :
    sportDelivered (xs ++ ys) = sportDelivered xs ++ sportDelivered ys := by
  rw [sportDelivered, delivered_append, List.filterMap_append]
  rfl

/-- The motion switcher requests delivered in two pieces. -/
@[simp] theorem switcherDelivered_append (xs ys : List (ProcessOutput K)) :
    switcherDelivered (xs ++ ys) = switcherDelivered xs ++ switcherDelivered ys := by
  rw [switcherDelivered, delivered_append, List.filterMap_append]
  rfl

variable (sdk : UnitreeSdk K)

/-- The FSM command of a sport request, if the `/cmd_ctl` table has one. -/
def commandFor (request : Request) : Option Int32 :=
  (sdk.sportApi? request.apiId32).bind cmdCtlTable

/-- The command a sport request leads to. -/
theorem command?_messagesFor (request : Request) :
    (messagesFor sdk request).filterMap SportMessage.command? =
      (commandFor sdk request).toList := by
  rw [messagesFor, ← commandFor]
  cases commandFor sdk request <;> rfl

/-- The response a sport request leads to. -/
theorem response?_messagesFor (request : Request) :
    (messagesFor sdk request).filterMap SportMessage.response? = [sportResponse sdk request] := by
  rw [messagesFor, ← commandFor]
  cases commandFor sdk request <;> rfl

end Observed

/-- The items of one kind among those that were emitted and those that are due, if a request leads
to at most one of them. -/
theorem filterMap_owed {α β : Type} {f : Request → List α} {emitted due : List α}
    {requests : List Request} (howed : emitted ++ due = requests.flatMap f)
    (hlatest : due <:+ (requests.getLast?.map f).getD []) (g : α → Option β)
    (hone : ∀ request, ((f request).filterMap g).length ≤ 1) :
    emitted.filterMap g ++ due.filterMap g = requests.flatMap (fun r => (f r).filterMap g) ∧
      (due.filterMap g).length ≤ 1 := by
  refine ⟨?_, ?_⟩
  · rw [← List.filterMap_append, howed, List.filterMap_flatMap]
  · refine (hlatest.filterMap g).length_le.trans ?_
    cases requests.getLast? with
    | none => exact Nat.zero_le 1
    | some request => exact hone request

/-- What is missing of what was to be sent: the one response that was lost, or what is due.

**Proof sketch.** Either all has been sent, and what is missing is due; an idle program owes
nothing. Or the sender has ended and one response was lost; then the program calls nothing that
responds, so nothing is due and the lost one is all that is missing. -/
theorem SentUntil.missing {K α : Type} [Field K] [LinearOrder K] {ended : Prop} {p : AppProg K}
    {sent all : List Response} {pay : Call → List α} {due : List α} (g : Response → α)
    (h : SentUntil ended (p.Calls fun i => ¬ i.Responds) sent all)
    (hdue : p.Settles pay (fun _ _ => []) due) (hpay : ∀ i : Call, ¬ i.Responds → pay i = [])
    (hlength : due.length ≤ 1) :
    ∃ missing, sent.map g ++ missing = all.map g ++ due ∧ missing.length ≤ 1 ∧
      (¬ ended → p = .done → missing = []) := by
  rcases h with rfl | ⟨hended, hquiet, lost, rfl⟩
  · refine ⟨due, rfl, hlength, fun _ hdone => ?_⟩
    subst hdone
    exact hdue
  · have : Nonempty (App K) := ⟨App.init⟩
    obtain rfl := hdue.eq_nil (hquiet.mono hpay)
    exact ⟨[g lost], by simp, by simp, fun hnot => absurd hended hnot⟩

section Answers

variable {K : Type} [Field K] [LinearOrder K] [HasHypot K] (sdk : UnitreeSdk K)
  (config : BridgeConfig) (n : ℕ)

/-! ## What the threads owe -/

/-- What a server thread has still to do pays `due`: it is the rest of a handler that does, or a
message that is still to be delivered, and then nothing is due. -/
def Owes {α : Type} (pay : Call → List α) (p : ProcessProg K) (due : List α) : Prop :=
  (∃ q : AppProg K, p = inProcess q ∧ q.Settles pay (fun _ _ => []) due) ∨
    due = [] ∧ ∃ message, p = messageProgram sdk message

/-- The commands and responses of the process, against the requests that were delivered. A thread
that is idle has nothing left to emit; whether a response was lost depends on the bridge. -/
structure AnswersDelivered (c : ProcessPool K) : Prop where
  fsmCommands : ∃ unpublished,
    commands (outputs c.trace) ++ unpublished =
      (sportDelivered c.trace).flatMap (fun request => (commandFor sdk request).toList) ∧
    unpublished.length ≤ 1 ∧ Owes sdk Call.commands (c.prog .sport) unpublished
  sport : ∃ unsent,
    sportResponses (outputs c.trace) ++ unsent =
      (sportDelivered c.trace).map (sportResponse sdk) ∧
    unsent.length ≤ 1 ∧
      (c.prog .sport = .done → c.state.host.lifecycle.sport.started = true → unsent = [])
  switcher : ∃ unsent,
    (switcherResponses (outputs c.trace)).map Response.identity ++ unsent =
      (switcherDelivered c.trace).map Request.identity ∧
    unsent.length ≤ 1 ∧
      (c.prog .switcher = .done → c.state.host.lifecycle.switcher.started = true → unsent = [])

variable {sdk config n} {c : ProcessPool K}

omit [Field K] [LinearOrder K] [HasHypot K] in
/-- An idle thread owes nothing. -/
theorem Owes.eq_nil_of_done {α : Type} {pay : Call → List α} {due : List α}
    (h : Owes sdk pay (.done : ProcessProg K) due) : due = [] := by
  rcases h with ⟨q, hq, hdue⟩ | ⟨hnil, -⟩
  · obtain rfl := (Prog.lift_eq_done_iff _ _).mp hq.symm
    exact hdue
  · exact hnil

/-- Before anything was delivered. -/
theorem Starting.answers {k : ℕ} (h : Starting sdk config n k c) : AnswersDelivered sdk c := by
  have howes : Owes sdk Call.commands (c.prog .sport) [] := by
    rcases h.servers .sport (by simp) with hdone | ⟨message, -, hmessage⟩
    · exact Or.inl ⟨.done, hdone, rfl⟩
    · exact Or.inr ⟨rfl, message, hmessage⟩
  constructor
  · rw [h.trace]
    exact ⟨[], rfl, Nat.zero_le 1, howes⟩
  · rw [h.trace]
    exact ⟨[], rfl, Nat.zero_le 1, fun _ _ => rfl⟩
  · rw [h.trace]
    exact ⟨[], rfl, Nat.zero_le 1, fun _ _ => rfl⟩

variable {ls : List (Label Thread AppInput Time)} {rest : List (MainStep K)}

/-- The requests that were handled in the interleaved run are those that were delivered. -/
theorem Matches.requests (h : Matches sdk config n c ls rest) {f : AppInput → Option Request}
    (hloop : f .loop = none) :
    (appLog sdk ls).filterMap (fun ev => ev.job?.bind f) =
      (delivered c.trace).filterMap fun message => f message.input := by
  have hinputs : (inputs sdk ls).filterMap f =
      ((inputs sdk ls).filter fun input => decide (input ≠ .loop)).filterMap f := by
    rw [List.filterMap_filter]
    refine List.filterMap_congr fun input _ => ?_
    by_cases hinput : input = .loop <;> simp [hinput, hloop]
  rw [inputs, List.filterMap_filterMap] at hinputs
  rw [hinputs, ← inputs, h.handled, List.filterMap_map]
  rfl

/-- What a server thread of the interleaved run owes, the process owes. -/
theorem Matches.owes (h : Matches sdk config n c ls rest) {α : Type} {pay : Call → List α}
    {t : Thread} (ht : t ≠ .loop) {due : List α}
    (hdue : ((interleaved sdk ls).prog t).Settles pay (fun _ _ => []) due) :
    Owes sdk pay (c.prog t) due := by
  rcases h.servers t ht with hlift | ⟨hdone, message, -, hmessage⟩
  · exact Or.inl ⟨_, hlift, hdue⟩
  · rw [hdone] at hdue
    exact Or.inr ⟨hdue, message, hmessage⟩

/-- What the sport thread has emitted in the interleaved run, and what it owes. -/
theorem Matches.owed_sport (h : Matches sdk config n c ls rest) :
    ∃ due, sportMessages (interleaved sdk ls).trace ++ due =
        (sportDelivered c.trace).flatMap (messagesFor sdk) ∧
      due <:+ ((sportDelivered c.trace).getLast?.map (messagesFor sdk)).getD [] ∧
      ((interleaved sdk ls).prog .sport).Settles Call.sportMessage (fun _ _ => []) due := by
  have howed := System.owed_by_jobs (S := appSystem sdk) (s := App.init) (thread_sport_iff sdk)
    (settles_messagesFor sdk) (fun _ => calls_not_sport sdk) (call_sportMessages sdk) ls
  have hrequests := h.requests (f := AppInput.sportRequest?) rfl
  rw [appLog] at hrequests
  rw [hrequests] at howed
  exact howed

/-- The same for the identities of the responses of the motion switcher thread.

**Proof sketch.** A handler of the motion switcher thread owes the identity of its request and
nothing else, and no other thread answers for it. `System.owed_by_jobs` turns this into a balance
over the interleaved run, whose requests are the delivered ones. -/
theorem Matches.owed_switcher (h : Matches sdk config n c ls rest) :
    ∃ due, switcherIdentities (interleaved sdk ls).trace ++ due =
        (switcherDelivered c.trace).flatMap (fun request => [request.identity]) ∧
      due <:+ ((switcherDelivered c.trace).getLast?.map fun r => [r.identity]).getD [] ∧
      ((interleaved sdk ls).prog .switcher).Settles
        (fun i => i.switcherAnswer.map Response.identity) (fun _ _ => []) due := by
  have hjob : ∀ input request, input.switcherRequest? = some request →
      (program sdk input).Settles (fun i => i.switcherAnswer.map Response.identity)
        (fun _ _ => []) [request.identity] := by
    intro input request hinput
    cases input with
    | switcherRequest request' =>
      obtain rfl : request' = request := Option.some.inj hinput
      exact settles_switcherIdentities sdk request'
    | _ => simp [AppInput.switcherRequest?] at hinput
  have howed := System.owed_by_jobs (S := appSystem sdk) (s := App.init)
    (thread_switcher_iff sdk) hjob
    (fun _ hne => (calls_not_switcher sdk hne).mono fun _ hi => by rw [hi.2.1]; rfl)
    (call_switcherIdentities sdk) ls
  have hrequests := h.requests (f := AppInput.switcherRequest?) rfl
  rw [appLog] at hrequests
  rw [hrequests] at howed
  exact howed

/-- Up to the end of `main` the answers are those of the interleaved run.

**Proof sketch.** What is due of commands and of responses follows from the balance of the
interleaved run by keeping one kind of message. Commands are published by the process as by the
interleaved run. Responses are sent until the bridge is stopped, so `SentUntil.missing` gives what
is missing of them; if the bridge is still started the sender has not ended. -/
theorem Matches.answers (h : Matches sdk config n c ls rest) : AnswersDelivered sdk c := by
  obtain ⟨due, howed, hlatest, hsettles⟩ := h.owed_sport
  constructor
  · obtain ⟨hcommands, hlength⟩ := filterMap_owed howed hlatest SportMessage.command?
      fun request => by
        rw [command?_messagesFor]
        exact Option.length_toList_le
    simp only [command?_messagesFor] at hcommands
    refine ⟨due.filterMap SportMessage.command?, ?_, hlength,
      h.owes (by simp) (hsettles.filterMap SportMessage.command?)⟩
    rw [← commands_publications, h.published, commands_publications, commands_sportMessages]
    exact hcommands
  · obtain ⟨hresponses, hlength⟩ := filterMap_owed howed hlatest SportMessage.response?
      fun request => by
        rw [response?_messagesFor]
        exact Nat.le_refl 1
    simp only [response?_messagesFor, ← List.map_eq_flatMap] at hresponses
    rw [← sportResponses_sportMessages] at hresponses
    obtain ⟨missing, hmissing, hone, hnone⟩ := h.sport.missing id
      (hsettles.filterMap SportMessage.response?)
      (fun i hi => (Call.sportAnswer_eq i).symm.trans (Call.answers_of_not_responds hi).1) hlength
    rw [List.map_id, List.map_id, hresponses] at hmissing
    refine ⟨missing, hmissing, hone, fun hidle hstarted => hnone ?_ (h.idle (by simp) hidle)⟩
    have hup := h.wellFormed.sportServerStub.trans hstarted
    exact fun hended => Bool.false_ne_true (hended.1.symm.trans hup)
  · obtain ⟨due, howed, hlatest, hsettles⟩ := h.owed_switcher
    have hlength : due.length ≤ 1 := by
      refine hlatest.length_le.trans ?_
      cases (switcherDelivered c.trace).getLast? <;> simp
    obtain ⟨missing, hmissing, hone, hnone⟩ := h.switcher.missing Response.identity hsettles
      (fun i hi => by rw [(Call.answers_of_not_responds hi).2]; rfl) hlength
    rw [map_switcherResponses (interleaved sdk ls).trace, howed, ← List.map_eq_flatMap] at hmissing
    refine ⟨missing, hmissing, hone, fun hidle hstarted => hnone ?_ (h.idle (by simp) hidle)⟩
    have hup := h.wellFormed.responsePublisher.trans hstarted
    exact fun hended => Bool.false_ne_true (hended.1.symm.trans hup)

end Answers

end SdkEventBridge
