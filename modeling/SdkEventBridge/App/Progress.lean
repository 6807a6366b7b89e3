import SdkEventBridge.Library.Progress
import SdkEventBridge.App.Protocol

set_option relaxedAutoImplicit false
set_option autoImplicit false

/-!
# Every input is handled in a bounded number of calls

No thread of the process waits for another one. A sport request is answered when its thread has
made five calls, a motion switcher request after three, a reset is over after two and an iteration
of the main loop after four, whatever the other threads do meanwhile.

## Main definitions

* `callBound` — how many calls a thread makes for one input.

## Main results

* `App.within_program` — the bound on each program.
* `App.handled_in_time` — the bound on the handling of an input, and its answer.
-/

namespace SdkEventBridge

open PlanarNorm Resumption Run

/-- How many calls a thread makes for one input at most. -/
def callBound : Thread → ℕ
  | .sport => 5
  | .switcher => 3
  | .reset => 2
  | .loop => 4

namespace App

section Bound

variable {K : Type} [Field K] [LinearOrder K] (sdk : UnitreeSdk K)

/-- Only the requests that are delayed have a second call at their end, and none of them has more
than three before. -/
theorem within_sportRequest (request : Request) :
    (program sdk (.sportRequest request)).Within 5 := by
  have hrespond : (respond sdk request : AppProg K).Within 2 := by
    unfold respond
    split_ifs <;> simp [Prog.one]
  have hactions : ((sportCommand sdk request).actions sdk).Within 3 := by
    cases sportCommand sdk request with
    | move p =>
      refine fun app app' => ?_
      dsimp only
      split_ifs <;> simp
    | _ => simp [Prog.one]
  rw [program_sportRequest]
  exact hactions.seq hrespond

/-- A motion switcher request takes three calls at most: the answer, a mode change and the
response. -/
theorem within_switcherRequest (request : Request) :
    (program sdk (.switcherRequest request)).Within 3 := by
  rw [program_switcherRequest]
  intro app
  have hop : ∀ op, (callIfSome op : AppProg K).Within 1 := by
    intro op
    cases op <;> simp [callIfSome]
  exact (hop _).seq (m := 1) (Prog.within_one _)

omit [Field K] [LinearOrder K] in
/-- An iteration of the loop takes four calls at most. -/
theorem within_loopIteration : (loopIteration : AppProg K).Within 4 := by
  refine fun app app' => ?_
  dsimp only
  split_ifs
  · exact (Prog.within_one _).mono (Nat.le_succ 1)
  · intro app''
    dsimp only
    split_ifs <;> simp [loopSetPosture]

/-- The bound on each program. -/
theorem within_program [HasHypot K] (input : AppInput) :
    (program sdk input).Within (callBound ((appSystem sdk).thread input)) := by
  cases input with
  | sportRequest request => exact within_sportRequest sdk request
  | switcherRequest request => exact within_switcherRequest sdk request
  | reset => exact fun _ _ => Prog.within_done
  | loop => exact within_loopIteration

end Bound

section Answers

variable {K : Type} [Field K] [LinearOrder K] [HasHypot K] (sdk : UnitreeSdk K)

/-- The identities of the motion switcher responses. -/
def switcherIdentities (outputs : List (Output K)) : List RequestIdentity :=
  outputs.filterMap fun output => output.switcherResponse?.map Response.identity

/-- A call sends on behalf of the motion switcher thread what it answers with. -/
theorem call_switcherIdentities (e : Time) (app : App K) (i : Call) :
    switcherIdentities (App.call sdk e app i).2 = i.switcherAnswer.map Response.identity := by
  rw [← call_switcherAnswer sdk e app i, List.map_filterMap, switcherIdentities]

/-- The identities an input owes: for a motion switcher request, its own. -/
def owedIdentities (input : AppInput) : List RequestIdentity :=
  (input.switcherRequest?.map Request.identity).toList

omit [HasHypot K] in
/-- A motion switcher request is answered under its own identity. -/
theorem settles_switcherIdentities (request : Request) :
    (program sdk (.switcherRequest request)).Settles
      (fun i => i.switcherAnswer.map Response.identity) (fun _ _ => []) [request.identity] := by
  rw [program_switcherRequest]
  refine ⟨[request.identity], rfl, fun app => ?_⟩
  dsimp only
  rw [List.append_nil]
  cases switcherOp sdk app.motionSwitcherBridge request with
  | none => exact ⟨[], rfl, fun _ => rfl⟩
  | some op => exact ⟨[request.identity], rfl, fun _ => ⟨[], rfl, fun _ => rfl⟩⟩

variable (ls ms : List (Label Thread AppInput Time)) {request : Request}

/-- The command and the response of a sport request come in time.

**Proof sketch.** `System.job_done` says that within the bound the thread is idle and has paid what
the handler owes, which are the messages of the request. No other thread emits sport messages, so
they are what the trace gained. -/
theorem sport_in_time (hidle : (interleaved sdk ls).prog .sport = .done)
    (hle : callBound .sport ≤ advances .sport ms) :
    ∃ pre, pre <+: ms ∧
      let after := interleaved sdk (ls ++ .start (.sportRequest request) :: pre)
      after.prog .sport = .done ∧
      sportMessages after.trace =
        sportMessages (interleaved sdk ls).trace ++ messagesFor sdk request := by
  have hthread : (appSystem sdk).thread (.sportRequest request) = .sport := rfl
  obtain ⟨pre, hpre, hdone, hpaid⟩ := System.job_done (S := appSystem sdk)
    (settles_owedMessages sdk) hidle hthread (within_program sdk (.sportRequest request)) ms hle
  have hothers := fun u (hu : u ≠ Thread.sport) => System.calls_of_others (S := appSystem sdk)
    (c := Pool.idle App.init) (fun _ => calls_not_sport sdk) (fun _ _ => trivial) ls hu
  have htrace := System.trace_eq_payments (S := appSystem sdk) (c := interleaved sdk ls)
    (fun _ => calls_not_sport sdk) hothers (call_sportMessages sdk)
    (.start (.sportRequest request) :: pre)
  refine ⟨pre, hpre, ?_, ?_⟩
  · rw [interleaved, run_append]
    exact hdone
  · rw [hpaid] at htrace
    rw [interleaved, run_append]
    exact htrace

/-- The response to a motion switcher request comes in time.

**Proof sketch.** As for sport requests: the handler owes the identity of its request, within the
bound it has paid it, and no other thread answers for the motion switcher. -/
theorem switcher_in_time (hidle : (interleaved sdk ls).prog .switcher = .done)
    (hle : callBound .switcher ≤ advances .switcher ms) :
    ∃ pre, pre <+: ms ∧
      let after := interleaved sdk (ls ++ .start (.switcherRequest request) :: pre)
      after.prog .switcher = .done ∧
      switcherIdentities after.trace =
        switcherIdentities (interleaved sdk ls).trace ++ [request.identity] := by
  have hjob : ∀ input, (appSystem sdk).thread input = .switcher →
      ((appSystem sdk).program input).Settles (fun i => i.switcherAnswer.map Response.identity)
        (fun _ _ => []) (owedIdentities input) := by
    intro input hthread
    cases input with
    | switcherRequest request => exact settles_switcherIdentities sdk request
    | _ => simp [appSystem] at hthread
  have hcalls : ∀ input, (appSystem sdk).thread input ≠ .switcher →
      ((appSystem sdk).program input).Calls
        fun i => i.switcherAnswer.map Response.identity = [] :=
    fun _ hne => (calls_not_switcher sdk hne).mono fun _ hi => by rw [hi.2.1]; rfl
  have hthread : (appSystem sdk).thread (.switcherRequest request) = .switcher := rfl
  obtain ⟨pre, hpre, hdone, hpaid⟩ := System.job_done (S := appSystem sdk) hjob hidle hthread
    (within_program sdk (.switcherRequest request)) ms hle
  have hothers := fun u (hu : u ≠ Thread.switcher) => System.calls_of_others (S := appSystem sdk)
    (c := Pool.idle App.init) hcalls (fun _ _ => trivial) ls hu
  have htrace := System.trace_eq_payments (S := appSystem sdk) (c := interleaved sdk ls) hcalls
    hothers (call_switcherIdentities sdk) (.start (.switcherRequest request) :: pre)
  refine ⟨pre, hpre, ?_, ?_⟩
  · rw [interleaved, run_append]
    exact hdone
  · rw [hpaid] at htrace
    rw [interleaved, run_append]
    exact htrace

end Answers

/-- **Every input is handled in time.** An input that begins on its idle thread has been handled
when the thread has been given as many steps as the bound says, whatever the other threads do. For
a sport request its command and its response are what came on the sport topics by then, and for a
motion switcher request a response under its identity.

**Proof sketch.** Every program makes at most as many calls as the bound says, so its thread is idle
within that many of its steps. For the two kinds of requests the messages are those of the two
lemmas before. -/
theorem handled_in_time {K : Type} [Field K] [LinearOrder K] [HasHypot K] (sdk : UnitreeSdk K)
    (ls ms : List (Label Thread AppInput Time)) (input : AppInput)
    (hidle : (interleaved sdk ls).prog ((appSystem sdk).thread input) = .done)
    (hle : callBound ((appSystem sdk).thread input) ≤
      advances ((appSystem sdk).thread input) ms) :
    let before := (interleaved sdk ls).trace
    ∃ pre, pre <+: ms ∧
      let after := interleaved sdk (ls ++ .start input :: pre)
      after.prog ((appSystem sdk).thread input) = .done ∧
      (∀ request, input = .sportRequest request →
        sportMessages after.trace = sportMessages before ++ messagesFor sdk request) ∧
      (∀ request, input = .switcherRequest request →
        switcherIdentities after.trace = switcherIdentities before ++ [request.identity]) := by
  intro before
  have hended : ∃ pre, pre <+: ms ∧ (interleaved sdk (ls ++ .start input :: pre)).prog
      ((appSystem sdk).thread input) = .done := by
    have hbegun : ((appSystem sdk).step (interleaved sdk ls) (.start input)).prog
        ((appSystem sdk).thread input) = program sdk input := by
      rw [System.step_start_of_done (S := appSystem sdk) hidle]
      exact Function.update_self _ _ _
    obtain ⟨pre, hpre, hdone, -⟩ := System.exists_done (S := appSystem sdk)
      (hbegun ▸ within_program sdk input) ms hle
    refine ⟨pre, hpre, ?_⟩
    rw [interleaved, run_append]
    exact hdone
  cases input with
  | sportRequest request =>
    obtain ⟨pre, hpre, hdone, htrace⟩ := sport_in_time sdk ls ms hidle hle
    refine ⟨pre, hpre, hdone, ?_, by simp⟩
    rintro request' ⟨⟩
    exact htrace
  | switcherRequest request =>
    obtain ⟨pre, hpre, hdone, htrace⟩ := switcher_in_time sdk ls ms hidle hle
    refine ⟨pre, hpre, hdone, by simp, ?_⟩
    rintro request' ⟨⟩
    exact htrace
  | reset =>
    obtain ⟨pre, hpre, hdone⟩ := hended
    exact ⟨pre, hpre, hdone, by simp, by simp⟩
  | loop =>
    obtain ⟨pre, hpre, hdone⟩ := hended
    exact ⟨pre, hpre, hdone, by simp, by simp⟩

/-- A STANDDOWN that begins while the main loop is halfway through. -/
theorem handled_in_time_stand_down :
    let ls : List (Label Thread AppInput Time) := [.start .loop, .advance .loop 0]
    let request := sampleRequest 1005 ""
    ∃ pre, pre <+: List.replicate 5 (.advance .sport 0) ∧
      sportMessages (interleaved (sampleSdk ℝ)
        (ls ++ .start (.sportRequest request) :: pre)).trace =
        sportMessages (interleaved (sampleSdk ℝ) ls).trace ++
          messagesFor (sampleSdk ℝ) request := by
  intro ls request
  obtain ⟨pre, hpre, -, hsport, -⟩ := handled_in_time (sampleSdk ℝ) ls
    (List.replicate 5 (.advance .sport 0)) (.sportRequest request) rfl (by decide)
  exact ⟨pre, hpre, hsport request rfl⟩

end App

end SdkEventBridge
