import SdkEventBridge.App.Steps
import SdkEventBridge.Switcher.Register

set_option relaxedAutoImplicit false
set_option autoImplicit false

/-!
# The motion switcher inside the application

The application sets postures and forwards requests and resets to the motion switcher, so every
run of it is, as far as the motion switcher can see, one of the runs of `Switcher.Register`. The
second half is about the two seconds between the receipt of a STANDDOWN and its response, during
which the motion switcher is served: the posture changes with the receipt.

## Main definitions

* `App.switcherInput` — what an input of the application is to the motion switcher.
* `SplitInput`, `App.splitStep` — runs in which a delayed request takes two steps, its receipt
  and its response.
* `App.SatDown` — the robot is down and no move is active.

## Main results

* `App.switcher_refines` — the motion switcher of the application is the register.
* `App.program_split` — the two steps of a delayed request make up its program.
* `App.mode_change_while_sitting_down` — mode changes between receipt and response.
-/

namespace SdkEventBridge

open PlanarNorm Resumption Run

/-- The response, if the output is one of the motion switcher. -/
def Output.switcherResponse? {K : Type} : Output K → Option Response
  | .switcherResponse r => some r
  | _ => none

namespace App

variable {K : Type} [Field K] [LinearOrder K] [HasHypot K] (sdk : UnitreeSdk K)

/-! ## Refinement -/

section Refinement

variable (app : App K) (x : Timed AppInput)

/-- What an input of the application, handled in the state `app`, is to the motion switcher. -/
def switcherInput : SwitcherInput :=
  match x.op with
  | .sportRequest request =>
    .setRobotPosture ((sportCommand sdk request).posture sdk app.cmdVelPublisher.jointsLocked
      app.motionSwitcherBridge.robotPosture)
  | .switcherRequest request => .request request
  | .reset => .resetToDefaults
  | .loop => .setRobotPosture (app.loopPosture x.now)

/-- A step of the application is a step of the motion switcher, with the same responses. -/
theorem step_switcher :
    (App.step sdk app x).1.motionSwitcherBridge =
        (app.motionSwitcherBridge.step sdk (switcherInput sdk app x)).1 ∧
      (App.step sdk app x).2.filterMap Output.switcherResponse? =
        (app.motionSwitcherBridge.step sdk (switcherInput sdk app x)).2.filterMap
          Answered.response := by
  have hquiet : ∀ ts : List (Twist K),
      (ts.map Output.twist).filterMap Output.switcherResponse? = [] := by
    intro ts
    simp [List.filterMap_map, Function.comp_def, Output.switcherResponse?]
  rw [step_eq]
  obtain ⟨now, op⟩ := x
  cases op with
  | sportRequest request =>
    simp only [afterEffect, effect, emitted, switcherInput, MotionSwitcherBridge.step]
    cases hfsm : (sportCommand sdk request).fsmCommand <;>
      simp [hquiet, Output.switcherResponse?]
  | switcherRequest request =>
    simp [afterEffect, effect, emitted, switcherInput, MotionSwitcherBridge.step, hquiet,
      Output.switcherResponse?]
  | reset => simp [afterEffect, effect, emitted, switcherInput, MotionSwitcherBridge.step, hquiet]
  | loop => simp [afterEffect, effect, emitted, switcherInput, MotionSwitcherBridge.step, hquiet]

/-- **Refinement.** After every run of the application the motion switcher is in the state, and
has given the answers, of one of its own runs.

**Proof sketch.** Induction on the history from its end: a step of the application is one of the
motion switcher on the input it makes of it, by `step_switcher`. -/
theorem switcher_refines (h : List (Timed AppInput)) :
    ∃ is, (stateAfter sdk h).motionSwitcherBridge = MotionSwitcherBridge.stateAfter sdk is ∧
      (App.after sdk h).trace.filterMap Output.switcherResponse? =
        (MotionSwitcherBridge.answered sdk is).filterMap Answered.response := by
  induction h using List.reverseRecOn with
  | nil => exact ⟨[], rfl, rfl⟩
  | append_singleton h x ih =>
    obtain ⟨is, hstate, htrace⟩ := ih
    obtain ⟨hstep, hout⟩ := step_switcher sdk (stateAfter sdk h) x
    refine ⟨is ++ [switcherInput sdk (stateAfter sdk h) x], ?_, ?_⟩
    · rw [stateAfter_concat, hstep, hstate, MotionSwitcherBridge.stateAfter_concat]
    · rw [after_trace_concat, List.filterMap_append, htrace, hout, hstate,
        MotionSwitcherBridge.answered_concat, List.filterMap_append]

end Refinement

end App

/-! ## Delayed requests in two steps -/

/-- An input of the application, where a delayed sport request may come as its receipt, which
runs the request handlers, and as its response, which follows the wait. -/
inductive SplitInput where
  | whole (input : AppInput)
  | receipt (request : Request)
  | response (request : Request)
  deriving DecidableEq

/-- The motion switcher and the main loop go on while a sport request waits. -/
def SplitInput.isConcurrent : SplitInput → Bool
  | .whole (.switcherRequest _) | .whole .loop => true
  | .whole (.sportRequest _) | .whole .reset | .receipt _ | .response _ => false

namespace App

section Split

variable {K : Type} [Field K] [LinearOrder K] (sdk : UnitreeSdk K)

/-- The calls made for such an input. -/
def splitProgram : SplitInput → AppProg K
  | .whole input => program sdk input
  | .receipt request => (sportBridge sdk).dispatchRequest request.apiId32 request
  | .response request => respond sdk request

/-- For the three delayed ids the request handlers do all the work. -/
theorem dispatchRequest_of_delay {request : Request}
    (hdelay : SdkEventBridgeClass.requiresPostureActionDelay sdk request.apiId32 = true) :
    (sportBridge sdk).dispatchRequest request.apiId32 request =
      (sportCommand sdk request).actions sdk := by
  unfold SdkEventBridgeClass.requiresPostureActionDelay at hdelay
  cases hapi : sdk.sportApi? request.apiId32 with
  | none => simp [hapi] at hdelay
  | some api =>
    have hid : sdk.sportApiId api = request.apiId32 := sdk.sportApi?_eq_some_iff.mp hapi
    rw [← hid, dispatchRequest_sportApiId]
    cases api <;> simp [hapi] at hdelay <;>
      simp [sportCommand, hapi, standUpRequestHandler, standDownRequestHandler,
        recoveryStandRequestHandler, publishFsmCommandIfMapped,
        CmdCtlPublisher.tryMapSportApiToFsmCommand]

/-- **Receipt and response** make up the program of a delayed request. -/
theorem program_split {request : Request}
    (hdelay : SdkEventBridgeClass.requiresPostureActionDelay sdk request.apiId32 = true) :
    program sdk (.sportRequest request) =
      (splitProgram sdk (.receipt request)).seq (splitProgram sdk (.response request)) := by
  rw [program_sportRequest, splitProgram, splitProgram, dispatchRequest_of_delay sdk hdelay]

variable [HasHypot K]

/-- Handle such an input, nothing coming in between. -/
def splitStep (app : App K) (x : Timed SplitInput) : App K × List (Output K) :=
  exec (App.call sdk) x.now (splitProgram sdk x.op) app

/-- The application after a run of such inputs. -/
def splitStateAfter (h : List (Timed SplitInput)) : App K :=
  run (next (splitStep sdk)) App.init h

/-- The robot is down and no move is active. -/
structure SatDown (app : App K) : Prop where
  posture : app.motionSwitcherBridge.robotPosture = .standDown
  inactive : app.cmdVelPublisher.hasActiveMove = false

variable {sdk}

/-- The receipt of a STANDDOWN puts the robot down, in whatever state it arrives. -/
theorem satDown_receipt {request : Request} (hid : request.apiId32 = sdk.sportApiId .standDown)
    (now : Time) (app : App K) : SatDown (splitStep sdk app ⟨now, .receipt request⟩).1 := by
  have hapi : sdk.sportApi? request.apiId32 = some .standDown := by
    rw [hid, sdk.sportApi?_sportApiId]
  have hcmd : sportCommand sdk request = .lockAnd .standDown .getDown := by
    simp [sportCommand, hapi]
  have hdelay : SdkEventBridgeClass.requiresPostureActionDelay sdk request.apiId32 = true := by
    simp [SdkEventBridgeClass.requiresPostureActionDelay, hapi]
  rw [splitStep, splitProgram, dispatchRequest_of_delay sdk hdelay, exec_actions, hcmd]
  constructor
  · simp [SportCommand.posture]
  · simp [SportCommand.velOp, CmdVelPublisher.apply, CmdVelPublisher.lockJoints]

/-- Neither the motion switcher nor the main loop raises the robot.

**Proof sketch.** A motion switcher request keeps the posture and makes no MOVE. An iteration of the
loop finds no active move, so it does not write Walking, and the posture, being StandDown, is not
turned into StandUp. -/
theorem SatDown.step {app : App K} (h : SatDown app) {x : Timed SplitInput}
    (hx : x.op.isConcurrent = true) : SatDown (splitStep sdk app x).1 := by
  obtain ⟨now, op⟩ := x
  cases op with
  | whole input =>
    have hstep : (splitStep sdk app ⟨now, .whole input⟩).1 = (App.step sdk app ⟨now, input⟩).1 :=
      rfl
    rw [hstep]
    cases input with
    | switcherRequest request =>
      constructor
      · rw [step_motionSwitcherBridge]
        simpa [effect] using h.posture
      · rw [step_cmdVelPublisher]
        refine app.cmdVelPublisher.applyIfSome_inactive sdk now h.inactive fun p hp => ?_
        obtain ⟨name, hname⟩ := eq_setMotionModeName_of_switcherOp hp
        exact absurd hname (by simp)
    | loop =>
      have hidle : (app.cmdVelPublisher.tick now).1.isActivelyMoving = false := by
        rw [CmdVelPublisher.isActivelyMoving_tick]
        simp [CmdVelPublisher.isActivelyMoving, h.inactive]
      constructor
      · rw [step_motionSwitcherBridge]
        simp [effect, loopPosture, hidle, h.posture]
      · rw [step_cmdVelPublisher]
        exact app.cmdVelPublisher.applyIfSome_inactive sdk now h.inactive (by simp [effect])
    | sportRequest request => simp [SplitInput.isConcurrent] at hx
    | reset => simp [SplitInput.isConcurrent] at hx
  | receipt request => simp [SplitInput.isConcurrent] at hx
  | response request => simp [SplitInput.isConcurrent] at hx

end Split

/-- **Mode changes while the robot sits down.** Between the receipt of a STANDDOWN and its
response, with motion switcher requests and iterations of the loop handled in between, each as one
atomic step, the motion switcher is in the posture StandDown already: RELEASE_MODE is granted, and
so is SELECT_MODE if its parameter has a name; otherwise that is what it is rejected for.

**Proof sketch.** The receipt locks the joints and writes StandDown, which is `SatDown`. Every step
in between keeps that by `SatDown.step`, so the request finds the posture StandDown, and its answer
is read off the case analysis of the two mode changes. -/
theorem mode_change_while_sitting_down (sdk : UnitreeSdk ℝ) (pre mid : List (Timed SplitInput))
    (now t : Time) (down request : Request) (hdown : down.apiId32 = sdk.sportApiId .standDown)
    (hmid : ∀ x ∈ mid, x.op.isConcurrent = true) :
    let app : App ℝ := splitStateAfter sdk (pre ++ ⟨now, .receipt down⟩ :: mid)
    let after := splitStep sdk app ⟨t, .whole (.switcherRequest request)⟩
    (request.apiId32 = sdk.switcherApiId .releaseMode →
      switcherStatuses after.2 = [0] ∧ after.1.motionSwitcherBridge.modeName = "") ∧
    (request.apiId32 = sdk.switcherApiId .selectMode →
      (∀ m, sdk.fromJsonModeName request.parameter = some m → m.name ≠ "" →
        switcherStatuses after.2 = [0] ∧ after.1.motionSwitcherBridge.modeName = m.name) ∧
      ((∀ m, sdk.fromJsonModeName request.parameter = some m → m.name = "") →
        switcherStatuses after.2 = [sdk.errApiParameter] ∧
          after.1.motionSwitcherBridge = app.motionSwitcherBridge)) := by
  intro app after
  have hsat : SatDown app := by
    have hstart : SatDown (splitStep sdk (splitStateAfter sdk pre) ⟨now, .receipt down⟩).1 :=
      satDown_receipt hdown now _
    have hrun : app = run (next (splitStep sdk))
        (splitStep sdk (splitStateAfter sdk pre) ⟨now, .receipt down⟩).1 mid := run_append _ _ _ _
    rw [hrun]
    exact run_induction_along (next (splitStep sdk)) (P := fun _ x => x.op.isConcurrent = true)
      (fun _ _ hs hx => hs.step hx) hstart (along_of_forall_mem _ hmid _)
  have hstatus : switcherStatuses after.2 =
      [(app.motionSwitcherBridge.buildInterceptResponseData sdk request.apiId32 request).2.1] :=
    step_switcherStatuses sdk app t request
  have hbridge : after.1.motionSwitcherBridge =
      (app.motionSwitcherBridge.buildInterceptResponseData sdk request.apiId32 request).1 :=
    step_motionSwitcherBridge sdk app ⟨t, .switcherRequest request⟩
  rw [hstatus, hbridge]
  refine ⟨fun hid => ?_, fun hid => ?_⟩
  · rw [hid, buildInterceptResponseData_switcherApiId]
    rcases releaseMode_cases sdk app.motionSwitcherBridge with ⟨hup, -⟩ | ⟨-, h⟩
    · exact absurd hsat.posture hup
    · simp [h, sportStatusSuccess]
  · rw [hid, buildInterceptResponseData_switcherApiId]
    rcases selectMode_cases sdk app.motionSwitcherBridge request with
      ⟨hup, -⟩ | ⟨-, hempty, h⟩ | ⟨-, m', hparse, hname, h⟩
    · exact absurd hsat.posture hup
    · refine ⟨fun m hm hne => absurd (hempty m hm) hne, fun _ => ?_⟩
      simp [h]
    · refine ⟨fun m hm _ => ?_, fun hnone => absurd (hnone m' hparse) hname⟩
      obtain rfl : m' = m := Option.some.inj (hparse.symm.trans hm)
      simp [h, sportStatusSuccess]

/-- A release granted while the robot, which was standing, still sits down. -/
theorem mode_change_while_sitting_down_release :
    let h : List (Timed SplitInput) :=
      [⟨0, .whole (.sportRequest (sampleRequest 1002 ""))⟩,
        ⟨0, .receipt (sampleRequest 1005 "")⟩, ⟨0, .whole .loop⟩]
    switcherStatuses (splitStep (sampleSdk ℝ) (splitStateAfter (sampleSdk ℝ) h)
      ⟨0, .whole (.switcherRequest (sampleRequest 1003 ""))⟩).2 = [0] :=
  ((mode_change_while_sitting_down (sampleSdk ℝ)
    [⟨0, .whole (.sportRequest (sampleRequest 1002 ""))⟩] [⟨0, .whole .loop⟩] 0 0
    (sampleRequest 1005 "") (sampleRequest 1003 "") rfl (by decide)).1 rfl).1

/-- A standing robot that receives a STANDDOWN grants a release before the response. -/
theorem not_busy_while_sitting_down :
    let h : List (Timed SplitInput) := [⟨0, .whole (.sportRequest (sampleRequest 1002 ""))⟩]
    (splitStateAfter (sampleSdk ℝ) h).motionSwitcherBridge.robotPosture = .standUp ∧
      switcherStatuses (splitStep (sampleSdk ℝ)
        (splitStateAfter (sampleSdk ℝ) (h ++ [⟨0, .receipt (sampleRequest 1005 "")⟩]))
        ⟨0, .whole (.switcherRequest (sampleRequest 1003 ""))⟩).2 ≠
          [(sampleSdk ℝ).errBusy] := by
  intro h
  have hgranted : switcherStatuses (splitStep (sampleSdk ℝ)
      (splitStateAfter (sampleSdk ℝ) (h ++ [⟨0, .receipt (sampleRequest 1005 "")⟩]))
      ⟨0, .whole (.switcherRequest (sampleRequest 1003 ""))⟩).2 = [0] := rfl
  refine ⟨rfl, ?_⟩
  rw [hgranted]
  decide

end App

end SdkEventBridge
