import SdkEventBridge.Library.Serial
import SdkEventBridge.App.Protocol

set_option relaxedAutoImplicit false
set_option autoImplicit false

/-!
# Atomic runs and interleaved runs

The application is described twice: inputs handled one after another, each at one clock reading
(`App.step`), and four threads whose calls interleave, each call with a clock reading of its own
(`appSystem`). The first description is exactly the second one restricted to runs in which an input
begins only when every thread is idle: no handler reads the clock in more than one of its calls, so
that it does not matter how long it takes.

## Main definitions

* `Call.ReadsClock` — the calls that may read the clock.
* `App.inputs` — the inputs that were started in a run.

## Main results

* `App.readsOnce_program` — no handler reads the clock twice.
* `App.atomic_iff_serial` — the two descriptions.
-/

namespace SdkEventBridge

open PlanarNorm Resumption Run

/-- A call on the velocity publisher may read the clock. -/
def Call.ReadsClock : Call → Prop
  | .cmdVel _ => True
  | _ => False

namespace App

section Clock

variable {K : Type} [Field K] [LinearOrder K] (sdk : UnitreeSdk K)

/-- A call that does not read the clock does the same at every reading. -/
theorem call_eq_of_not_readsClock [HasHypot K] {i : Call} (hi : ¬ i.ReadsClock) (now now' : Time)
    (app : App K) : App.call sdk now app i = App.call sdk now' app i := by
  cases i with
  | cmdVel op => exact absurd trivial hi
  | _ => rfl

/-- What a sport request asks for is one call on the velocity publisher at most. -/
theorem readsOnce_actions (command : SportCommand) :
    (command.actions sdk).ReadsOnce Call.ReadsClock := by
  cases command with
  | lockAnd posture fsm => exact Prog.readsOnce_of_calls fun _ => by simp [Call.ReadsClock]
  | balanceStand => exact Prog.readsOnce_of_calls fun _ => by simp [Call.ReadsClock]
  | stopMove => exact Prog.readsOnce_of_calls fun _ => by simp [Call.ReadsClock]
  | move p => exact Prog.readsOnce_of_calls fun _ => calls_updatePostureFromMove sdk p id id
  | setting op => exact Prog.readsOnce_of_calls fun _ => trivial
  | ignored => trivial

/-- **No handler reads the clock twice.**

**Proof sketch.** Case analysis on the input. A sport handler reads the clock in its one operation
on the velocity publisher, and the response reads none; a mode change, a reset and an iteration each
read it in one call. -/
theorem readsOnce_program (input : AppInput) :
    (program sdk input).ReadsOnce Call.ReadsClock := by
  cases input with
  | sportRequest request =>
    rw [program_sportRequest]
    exact (readsOnce_actions sdk _).seq (calls_respond sdk request id id)
  | switcherRequest request =>
    rw [program_switcherRequest]
    refine fun app => ⟨fun hread => absurd hread id, ?_⟩
    dsimp only
    cases switcherOp sdk app.motionSwitcherBridge request with
    | none => exact Prog.Calls.readsOnce (by simp [callIfSome, Call.ReadsClock])
    | some op => exact Prog.readsOnce_of_calls fun _ => by simp [Call.ReadsClock]
  | reset => exact Prog.readsOnce_of_calls fun _ => by simp [Call.ReadsClock]
  | loop => exact Prog.readsOnce_of_calls fun _ => calls_loopReadMotion id id fun _ => id

/-- Every input makes at least one call. -/
theorem program_ne_done (input : AppInput) : program sdk input ≠ .done := by
  cases input with
  | sportRequest request =>
    rw [program_sportRequest]
    cases sportCommand sdk request with
    | ignored =>
      unfold respond
      split_ifs <;> rintro ⟨⟩
    | _ => rintro ⟨⟩
  | switcherRequest request =>
    rw [program_switcherRequest]
    rintro ⟨⟩
  | reset => rintro ⟨⟩
  | loop => rintro ⟨⟩

end Clock

section Serial

variable {K : Type} [Field K] [LinearOrder K] [HasHypot K] (sdk : UnitreeSdk K)

/-- The inputs that were started in a run, in order. -/
def inputs (ls : List (Label Thread AppInput Time)) : List AppInput :=
  (appLog sdk ls).filterMap Event.job?

/-- A timed input is a pair. -/
def timedOfPair (x : Time × AppInput) : Timed AppInput := ⟨x.1, x.2⟩

/-- Handling an input to its end is executing its program in one step. -/
theorem after_map_ofPair (h : List (Time × AppInput)) :
    App.after sdk (h.map timedOfPair) = recorded (appSystem sdk).atomic App.init h := by
  rw [App.after, recorded, recorded, run, run, List.foldl_map]
  rfl

/-- **Atomic runs are the serial runs.** What a run of inputs handled one after another, at clock
readings in order, publishes and answers and where it ends, is what an interleaving ends in and
emits in which inputs begin only when every thread is idle; and the other way round.

**Proof sketch.** For an atomic run the library gives a serial interleaving that makes the same
calls, each input at its one clock reading. For the converse no handler reads the clock twice, so a
serial interleaving handles each input as one at the reading its handler took, and
`System.atomic_of_serial` collects them into an atomic run. -/
theorem atomic_iff_serial (is : List AppInput) (r : Recorded (App K) (Output K)) :
    (∃ h : List (Timed AppInput), (h.map Timed.now).Pairwise (· ≤ ·) ∧ h.map Timed.op = is ∧
      App.after sdk h = r) ↔
    ∃ ls : List (Label Thread AppInput Time),
      Along (appSystem sdk).step System.StartsAlone (Pool.idle App.init) ls ∧
      (ls.filterMap Label.reading).Pairwise (· ≤ ·) ∧ inputs sdk ls = is ∧
      (∀ t, (interleaved sdk ls).prog t = .done) ∧
      (interleaved sdk ls).state = r.state ∧ (interleaved sdk ls).trace = r.trace := by
  constructor
  · rintro ⟨h, hsorted, rfl, rfl⟩
    have hpairs : ∀ h : List (Timed AppInput),
        (h.map fun x => (x.now, x.op)).map timedOfPair = h := by
      intro h
      simp [List.map_map, Function.comp_def, timedOfPair]
    obtain ⟨ls, hserial, hjobs, -, hpairwise, hbetween⟩ :=
      System.serial_of_atomic (S := appSystem sdk) App.init (h.map fun x => (x.now, x.op))
    have hend := hbetween.recorded_eq
    rw [← after_map_ofPair, hpairs] at hend
    refine ⟨ls, hserial, hpairwise (· ≤ ·) le_refl ?_, ?_, hbetween.idle, ?_, ?_⟩
    · simpa [List.map_map, Function.comp_def] using hsorted
    · rw [inputs, appLog, hjobs]
      simp [List.map_map, Function.comp_def]
    · rw [hend]
      rfl
    · rw [hend]
      rfl
  · rintro ⟨ls, hserial, hsorted, rfl, hidle, hstate, htrace⟩
    obtain ⟨h, hmap, hsub, hend⟩ := System.atomic_of_serial (S := appSystem sdk)
      (fun i hi now now' app => call_eq_of_not_readsClock sdk hi now now' app)
      (readsOnce_program sdk) (program_ne_done sdk) hserial hidle
    refine ⟨h.map timedOfPair, ?_, ?_, ?_⟩
    · have hnow : (h.map timedOfPair).map Timed.now = h.map Prod.fst := by
        rw [List.map_map]
        rfl
      rw [hnow]
      exact hsorted.sublist hsub
    · have hop : (h.map timedOfPair).map Timed.op = h.map Prod.snd := by
        rw [List.map_map]
        rfl
      rw [hop, hmap]
      rfl
    · rw [after_map_ofPair, hend]
      obtain ⟨state, trace⟩ := r
      obtain rfl : (interleaved sdk ls).state = state := hstate
      obtain rfl : (interleaved sdk ls).trace = trace := htrace
      rfl

end Serial

end App

end SdkEventBridge
