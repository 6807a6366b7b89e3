import SdkEventBridge.App.Steps

set_option relaxedAutoImplicit false
set_option autoImplicit false

/-!
# Reset and restart

After a `/reset` message the application is to behave as if it had been started anew. This file
compares the two runs, in which the same inputs come at the same distances in time. The state of
the publisher differs in its channel flag and in the time of the last move, and neither can be
observed: the flag because no output depends on it, the time because no move is active. The state
of the motion switcher differs in the mode name, `"ai"` after a reset and `""` after construction,
and CHECK_MODE returns it until a mode change stores another one.

## Main definitions

* `Timed.shift` — the same input at another time.
* `App.restarted` — freshly constructed components.
* `CmdVelPublisher.Shifted`, `App.Alike` — the states the two runs go through.
* `MotionSwitcherBridge.StoresName`, `App.SetsName` — when a mode name is stored.

## Main results

* `CmdVelPublisher.Shifted.apply` — an operation cannot tell the difference.
* `App.Alike.step`, `App.Alike.outputs` — nor can an input other than CHECK_MODE.
* `App.reset_is_restart_iff` — the runs after which a reset is a restart.
-/

namespace SdkEventBridge

open PlanarNorm Run

/-- The same thing happening `δ` later. -/
def Timed.shift {α : Type} (δ : Time) (x : Timed α) : Timed α := { x with now := x.now + δ }

/-! ## The velocity publisher -/

namespace CmdVelPublisher

section Shifted

variable {K : Type}

/-- `s'` is `s` up to the channel flag, with the clock of an active move shifted by `δ`. -/
def Shifted (δ : Time) (s s' : CmdVelPublisher K) : Prop :=
  ∃ channelInitialized lastMoveTime,
    s' = { s with channelInitialized := channelInitialized, lastMoveTime := lastMoveTime } ∧
    (s.hasActiveMove = true → lastMoveTime = s.lastMoveTime + δ)

/-- A publisher that moves nothing is the same at every time. -/
theorem shifted_of_inactive {δ : Time} {s : CmdVelPublisher K} (h : s.hasActiveMove = false)
    (channelInitialized : Bool) (lastMoveTime : Time) :
    Shifted δ s
      { s with channelInitialized := channelInitialized, lastMoveTime := lastMoveTime } :=
  ⟨channelInitialized, lastMoveTime, rfl, by simp [h]⟩

variable {δ : Time} {s s' : CmdVelPublisher K}

/-- Shifted publishers move at the same moments. -/
theorem Shifted.isActivelyMoving_eq (h : Shifted δ s s') :
    s'.isActivelyMoving = s.isActivelyMoving := by
  obtain ⟨c, t, rfl, -⟩ := h
  rfl

/-- Shifted publishers have the same lock. -/
theorem Shifted.jointsLocked_eq (h : Shifted δ s s') : s'.jointsLocked = s.jointsLocked := by
  obtain ⟨c, t, rfl, -⟩ := h
  rfl

/-- The timeout looks at the clock of an active move only. -/
theorem Shifted.tickExpires_eq (h : Shifted δ s s') (now : Time) :
    s'.tickExpires (now + δ) = s.tickExpires now := by
  obtain ⟨c, t, rfl, htime⟩ := h
  cases hactive : s.hasActiveMove with
  | false => simp [tickExpires, hactive]
  | true =>
    have helapsed : now + δ - t = now - s.lastMoveTime := by
      rw [htime hactive]
      exact add_sub_add_right_eq_sub _ _ _
    simp [tickExpires, helapsed, hactive]

variable [Field K]

/-- A stop publishes the same and keeps the shift. -/
theorem Shifted.publishStop (h : Shifted δ s s') :
    s'.publishStop.2 = s.publishStop.2 ∧ Shifted δ s.publishStop.1 s'.publishStop.1 := by
  obtain ⟨c, t, rfl, htime⟩ := h
  rw [publishStop_eq, publishStop_eq]
  exact ⟨rfl, true, t, rfl, htime⟩

/-- A lock publishes the same and keeps the shift. -/
theorem Shifted.lockJoints (h : Shifted δ s s') :
    s'.lockJoints.2 = s.lockJoints.2 ∧ Shifted δ s.lockJoints.1 s'.lockJoints.1 := by
  obtain ⟨c, t, rfl, -⟩ := h
  exact Shifted.publishStop ⟨c, t, rfl, by simp⟩

/-- A walk mode publishes the same and keeps the shift. -/
theorem Shifted.setWalkMode (h : Shifted δ s s') (mode : WalkMode) (enabled : Bool) :
    (s'.setWalkMode mode enabled).2 = (s.setWalkMode mode enabled).2 ∧
      Shifted δ (s.setWalkMode mode enabled).1 (s'.setWalkMode mode enabled).1 := by
  obtain ⟨c, t, rfl, htime⟩ := h
  unfold CmdVelPublisher.setWalkMode
  dsimp only
  split_ifs
  · exact ⟨rfl, c, t, rfl, htime⟩
  · exact Shifted.lockJoints ⟨c, t, rfl, htime⟩
  · exact ⟨rfl, c, t, rfl, htime⟩

variable [LinearOrder K] [HasHypot K]

/-- Limiting the move anew publishes the same and keeps the shift. -/
theorem Shifted.relimit (h : Shifted δ s s') :
    s'.relimit.2 = s.relimit.2 ∧ Shifted δ s.relimit.1 s'.relimit.1 := by
  obtain ⟨c, t, rfl, htime⟩ := h
  unfold CmdVelPublisher.relimit
  dsimp only
  split_ifs
  · exact ⟨rfl, true, t, rfl, htime⟩
  · exact ⟨rfl, c, t, rfl, htime⟩

/-- **Operations cannot tell.** A call `δ` later publishes the same and leaves the same.

**Proof sketch.** Case analysis on the operation. The two states differ in the channel flag and in
the stored clock reading, which is `δ` later while a move is active. Operations read the latter in
`Tick` alone, where the difference to the reading given is the same on both sides. -/
theorem Shifted.apply (h : Shifted δ s s') (sdk : UnitreeSdk K) (now : Time) (op : CmdVelOp) :
    (s'.apply sdk (now + δ) op).2 = (s.apply sdk now op).2 ∧
      Shifted δ (s.apply sdk now op).1 (s'.apply sdk (now + δ) op).1 := by
  have hexpires := h.tickExpires_eq now
  obtain ⟨c, t, rfl, htime⟩ := h
  cases op with
  | setContinuousMoveMode enabled =>
    cases enabled with
    | false => exact ⟨rfl, c, now + δ, rfl, fun _ => rfl⟩
    | true => exact ⟨rfl, c, t, rfl, htime⟩
  | setSpeedLevel level =>
    simp only [CmdVelPublisher.apply, setSpeedLevel_eq]
    split_ifs
    · exact ⟨rfl, c, t, rfl, htime⟩
    · exact Shifted.relimit ⟨c, t, rfl, htime⟩
  | setMotionModeName name =>
    simp only [CmdVelPublisher.apply, setMotionModeName_eq]
    split_ifs
    · exact ⟨rfl, c, t, rfl, htime⟩
    · exact Shifted.relimit ⟨c, t, rfl, htime⟩
  | resetToDefaults => exact Shifted.publishStop ⟨c, now + δ, rfl, by simp⟩
  | lockJoints => exact Shifted.lockJoints ⟨c, t, rfl, htime⟩
  | unlockJoints => exact ⟨rfl, c, t, rfl, htime⟩
  | setGait gait =>
    simp only [CmdVelPublisher.apply, setGait]
    split_ifs
    · exact Shifted.lockJoints ⟨c, t, rfl, htime⟩
    · exact ⟨rfl, c, t, rfl, htime⟩
    · exact ⟨rfl, c, t, rfl, htime⟩
  | setVisionWalk enabled => exact Shifted.setWalkMode ⟨c, t, rfl, htime⟩ _ _
  | setFreeWalk => exact ⟨rfl, c, t, rfl, htime⟩
  | setClassicWalk enabled => exact Shifted.setWalkMode ⟨c, t, rfl, htime⟩ _ _
  | setFastWalk enabled => exact Shifted.setWalkMode ⟨c, t, rfl, htime⟩ _ _
  | handleMove p =>
    simp only [CmdVelPublisher.apply, handleMove]
    split_ifs with hlocked
    · exact ⟨rfl, c, t, rfl, htime⟩
    · simp only [acceptMove, publishMove_eq]
      exact ⟨rfl, true, now + δ, rfl, fun _ => rfl⟩
  | handleStop => exact Shifted.publishStop ⟨c, t, rfl, by simp⟩
  | tick =>
    simp only [CmdVelPublisher.apply, tick_eq, hexpires]
    split_ifs
    · exact Shifted.publishStop ⟨c, t, rfl, by simp⟩
    · exact ⟨rfl, c, t, rfl, htime⟩

end Shifted

end CmdVelPublisher

/-! ## The motion switcher -/

namespace MotionSwitcherBridge

section WithName

variable {K : Type} (sdk : UnitreeSdk K) (s : MotionSwitcherBridge) (name : String)
  (request : Request)

/-- The state with another mode name. -/
def withName : MotionSwitcherBridge := { s with modeName := name }

/-- The name is the given one. -/
@[simp] theorem withName_modeName : (s.withName name).modeName = name := rfl

/-- The posture is the old one. -/
@[simp] theorem withName_robotPosture : (s.withName name).robotPosture = s.robotPosture := rfl

/-- Its own name changes nothing. -/
@[simp] theorem withName_self : s.withName s.modeName = s := rfl

/-- The request stores a mode name: the robot is down, and the request is a RELEASE_MODE, or a
SELECT_MODE whose parameter has a name. -/
def StoresName : Prop :=
  s.robotPosture = .standDown ∧
  (sdk.switcherApi? request.apiId32 = some .releaseMode ∨
    (sdk.switcherApi? request.apiId32 = some .selectMode ∧
      ∃ m, sdk.fromJsonModeName request.parameter = some m ∧ m.name ≠ ""))

variable {sdk s name request}

/-- In StandDown the parameter decides. -/
theorem selectMode_of_down (hdown : s.robotPosture = .standDown) :
    s.selectMode sdk request =
      match (sdk.fromJsonModeName request.parameter).filter fun m => !m.name.isEmpty with
      | some m =>
        ({ s with modeName := m.name, form := if m.form.isEmpty then s.form else m.form },
          sportStatusSuccess, "")
      | none => (s, sdk.errApiParameter, "") := by
  rcases selectMode_cases sdk s request with
    ⟨hup, -⟩ | ⟨-, hempty, h⟩ | ⟨-, m, hparse, hname, h⟩
  · exact absurd hdown hup
  · rw [h]
    cases hparse : sdk.fromJsonModeName request.parameter with
    | none => rfl
    | some m => simp [Option.filter, hempty m hparse]
  · rw [h]
    simp [Option.filter, hparse, hname]

/-- SELECT_MODE is busy in any other posture. -/
theorem selectMode_of_up (hup : s.robotPosture ≠ .standDown) :
    s.selectMode sdk request = (s, sdk.errBusy, "") := by
  simp [selectMode, canChangeMotionMode, hup]

/-- RELEASE_MODE clears the name in StandDown. -/
theorem releaseMode_of_down (hdown : s.robotPosture = .standDown) :
    s.releaseMode sdk = (s.withName "", sportStatusSuccess, "") := by
  simp [releaseMode, canChangeMotionMode, hdown, withName]

/-- RELEASE_MODE is busy in any other posture. -/
theorem releaseMode_of_up (hup : s.robotPosture ≠ .standDown) :
    s.releaseMode sdk = (s, sdk.errBusy, "") := by
  simp [releaseMode, canChangeMotionMode, hup]

/-- No answer but that of CHECK_MODE depends on the mode name.

**Proof sketch.** Case analysis on the api id. Only CHECK_MODE prints the name; the two mode changes
read the posture and the parameter, and the others read neither. -/
theorem answer_withName (hcheck : sdk.switcherApi? request.apiId32 ≠ some .checkMode) :
    ((s.withName name).buildInterceptResponseData sdk request.apiId32 request).2 =
      (s.buildInterceptResponseData sdk request.apiId32 request).2 := by
  cases hapi : sdk.switcherApi? request.apiId32 with
  | none =>
    simp only [buildInterceptResponseData, hapi]
    cases sdk.internalApi? request.apiId32 with
    | none => rfl
    | some a => cases a <;> rfl
  | some api =>
    rw [← sdk.switcherApi?_eq_some_iff.mp hapi]
    simp only [buildInterceptResponseData_switcherApiId]
    cases api with
    | checkMode => exact absurd hapi hcheck
    | selectMode =>
      by_cases hdown : s.robotPosture = .standDown
      · have hdown' : (s.withName name).robotPosture = .standDown := hdown
        rw [selectMode_of_down hdown, selectMode_of_down hdown']
        cases (sdk.fromJsonModeName request.parameter).filter fun m => !m.name.isEmpty <;> rfl
      · have hup' : (s.withName name).robotPosture ≠ .standDown := hdown
        rw [selectMode_of_up hdown, selectMode_of_up hup']
    | releaseMode =>
      by_cases hdown : s.robotPosture = .standDown
      · have hdown' : (s.withName name).robotPosture = .standDown := hdown
        rw [releaseMode_of_down hdown, releaseMode_of_down hdown']
      · have hup' : (s.withName name).robotPosture ≠ .standDown := hdown
        rw [releaseMode_of_up hdown, releaseMode_of_up hup']
    | setSilent =>
      simp only [setSilent]
      cases sdk.fromJsonSilent request.parameter <;> rfl
    | getSilent => rfl

/-- A request that stores a name makes the earlier one irrelevant. -/
theorem StoresName.state_withName (h : StoresName sdk s request) :
    ((s.withName name).buildInterceptResponseData sdk request.apiId32 request).1 =
      (s.buildInterceptResponseData sdk request.apiId32 request).1 := by
  obtain ⟨hdown, hapi⟩ := h
  have hdown' : (s.withName name).robotPosture = .standDown := hdown
  rcases hapi with hrelease | ⟨hselect, m, hparse, hname⟩
  · rw [← sdk.switcherApi?_eq_some_iff.mp hrelease]
    simp only [buildInterceptResponseData_switcherApiId]
    rw [releaseMode_of_down hdown, releaseMode_of_down hdown']
    rfl
  · rw [← sdk.switcherApi?_eq_some_iff.mp hselect]
    simp only [buildInterceptResponseData_switcherApiId]
    rw [selectMode_of_down hdown, selectMode_of_down hdown']
    simp [Option.filter, hparse, hname, withName]

/-- Any other request keeps it.

**Proof sketch.** Case analysis on the api id. A mode change that is not granted keeps the fields it
finds, one that is granted stores a name, which is excluded, and the others do not touch the
name. -/
theorem state_withName_of_not_stores (h : ¬ StoresName sdk s request) :
    ((s.withName name).buildInterceptResponseData sdk request.apiId32 request).1 =
      (s.buildInterceptResponseData sdk request.apiId32 request).1.withName name := by
  cases hapi : sdk.switcherApi? request.apiId32 with
  | none => simp only [buildInterceptResponseData_of_none sdk hapi]
  | some api =>
    rw [← sdk.switcherApi?_eq_some_iff.mp hapi]
    simp only [buildInterceptResponseData_switcherApiId]
    cases api with
    | checkMode | getSilent => rfl
    | selectMode =>
      by_cases hdown : s.robotPosture = .standDown
      · have hdown' : (s.withName name).robotPosture = .standDown := hdown
        rw [selectMode_of_down hdown, selectMode_of_down hdown']
        cases hparse : (sdk.fromJsonModeName request.parameter).filter fun m => !m.name.isEmpty with
        | none => rfl
        | some m =>
          obtain ⟨hparse, hname⟩ := Option.filter_eq_some_iff.mp hparse
          exact absurd ⟨hdown, Or.inr ⟨hapi, m, hparse, by simpa using hname⟩⟩ h
      · have hup' : (s.withName name).robotPosture ≠ .standDown := hdown
        rw [selectMode_of_up hdown, selectMode_of_up hup']
    | releaseMode =>
      by_cases hdown : s.robotPosture = .standDown
      · exact absurd ⟨hdown, Or.inl hapi⟩ h
      · have hup' : (s.withName name).robotPosture ≠ .standDown := hdown
        rw [releaseMode_of_up hdown, releaseMode_of_up hup']
    | setSilent =>
      simp only [setSilent]
      cases sdk.fromJsonSilent request.parameter <;> rfl

/-- A request that stores no name keeps the stored one. -/
theorem modeName_of_not_stores (h : ¬ StoresName sdk s request) :
    (s.buildInterceptResponseData sdk request.apiId32 request).1.modeName = s.modeName := by
  have hkept : ((s.withName s.modeName).buildInterceptResponseData sdk request.apiId32 request).1 =
      (s.buildInterceptResponseData sdk request.apiId32 request).1.withName s.modeName :=
    state_withName_of_not_stores h
  rw [withName_self] at hkept
  rw [hkept, withName_modeName]

end WithName

end MotionSwitcherBridge

/-! ## The application -/

namespace App

section Alike

variable {K : Type} (sdk : UnitreeSdk K)

/-- The input stores a mode name. -/
def SetsName (app : App K) (x : Timed AppInput) : Prop :=
  match x.op with
  | .switcherRequest request => app.motionSwitcherBridge.StoresName sdk request
  | .reset => True
  | .sportRequest _ | .loop => False

/-- The input is a CHECK_MODE request. -/
def IsCheckMode (x : Timed AppInput) : Prop :=
  match x.op with
  | .switcherRequest request => sdk.switcherApi? request.apiId32 = some .checkMode
  | .sportRequest _ | .reset | .loop => False

/-- The two applications agree up to the shift of the clock, the channel flags and the mode
name. -/
structure Alike (δ : Time) (app app' : App K) : Prop where
  cmdVelPublisher : app.cmdVelPublisher.Shifted δ app'.cmdVelPublisher
  motionSwitcherBridge : ∃ name,
    app'.motionSwitcherBridge = app.motionSwitcherBridge.withName name

variable {sdk} {δ : Time} {app app' : App K} {x : Timed AppInput}

/-- The velocity publisher is called whatever the mode is. -/
theorem switcherOp_withName (s : MotionSwitcherBridge) (name : String) (request : Request) :
    switcherOp sdk (s.withName name) request = switcherOp sdk s request := by
  unfold switcherOp
  cases hapi : sdk.switcherApi? request.apiId32 with
  | none => rfl
  | some api =>
    have hanswer : api ≠ .checkMode →
        ((s.withName name).buildInterceptResponseData sdk request.apiId32 request).2 =
          (s.buildInterceptResponseData sdk request.apiId32 request).2 := fun hcheck =>
      MotionSwitcherBridge.answer_withName (by simpa [hapi] using hcheck)
    rw [← sdk.switcherApi?_eq_some_iff.mp hapi] at hanswer
    simp only [buildInterceptResponseData_switcherApiId] at hanswer
    cases api with
    | selectMode => simp only [hanswer (by simp)]
    | releaseMode => simp only [hanswer (by simp)]
    | checkMode | setSilent | getSilent => rfl

variable [Field K]

/-- The main loop decides on the same posture. -/
theorem Alike.loopPosture_eq (h : Alike δ app app') (now : Time) :
    app'.loopPosture (now + δ) = app.loopPosture now := by
  obtain ⟨name, hbridge⟩ := h.motionSwitcherBridge
  simp only [loopPosture, CmdVelPublisher.isActivelyMoving_tick,
    h.cmdVelPublisher.isActivelyMoving_eq, h.cmdVelPublisher.tickExpires_eq, hbridge,
    MotionSwitcherBridge.withName_robotPosture]

variable [LinearOrder K]

/-- The two inputs have the same effect on the velocity publisher. -/
theorem Alike.velOp_eq (h : Alike δ app app') :
    (app'.effect sdk (x.shift δ)).velOp = (app.effect sdk x).velOp := by
  obtain ⟨name, hbridge⟩ := h.motionSwitcherBridge
  obtain ⟨now, op⟩ := x
  cases op with
  | switcherRequest request =>
    simp only [effect, Timed.shift, hbridge, switcherOp_withName]
  | sportRequest request => rfl
  | reset => rfl
  | loop => rfl

/-- An input that stores a name leaves the two motion switchers in the same state. -/
theorem Alike.bridge_of_sets (h : Alike δ app app') (hsets : SetsName sdk app x) :
    (app'.effect sdk (x.shift δ)).motionSwitcherBridge =
      (app.effect sdk x).motionSwitcherBridge := by
  obtain ⟨name, hbridge⟩ := h.motionSwitcherBridge
  obtain ⟨now, op⟩ := x
  cases op with
  | switcherRequest request =>
    simp only [effect, Timed.shift, hbridge]
    exact MotionSwitcherBridge.StoresName.state_withName hsets
  | reset => rfl
  | sportRequest request => exact absurd hsets id
  | loop => exact absurd hsets id

/-- Any other input keeps the mode name. -/
theorem Alike.bridge_of_keeps (h : Alike δ app app') (hkeeps : ¬ SetsName sdk app x) :
    (app'.effect sdk (x.shift δ)).motionSwitcherBridge =
      (app.effect sdk x).motionSwitcherBridge.withName app'.motionSwitcherBridge.modeName := by
  obtain ⟨name, hbridge⟩ := h.motionSwitcherBridge
  obtain ⟨now, op⟩ := x
  cases op with
  | sportRequest request =>
    simp only [effect, Timed.shift, hbridge, h.cmdVelPublisher.jointsLocked_eq]
    rfl
  | switcherRequest request =>
    simp only [effect, Timed.shift, hbridge]
    exact MotionSwitcherBridge.state_withName_of_not_stores hkeeps
  | reset => exact absurd trivial hkeeps
  | loop =>
    simp only [effect, Timed.shift, h.loopPosture_eq, hbridge]
    rfl

variable [HasHypot K]

/-- **One input** handled by the two applications leaves them alike.

**Proof sketch.** The velocity publisher is called alike on both sides, since the operation asked
for does not depend on the mode name, and keeps the shift by `Shifted.apply`. The motion switcher
keeps its fields but for the name. -/
theorem Alike.step (h : Alike δ app app') (x : Timed AppInput) :
    Alike δ (App.step sdk app x).1 (App.step sdk app' (x.shift δ)).1 := by
  constructor
  · rw [step_cmdVelPublisher, step_cmdVelPublisher, h.velOp_eq]
    cases (app.effect sdk x).velOp with
    | none => exact h.cmdVelPublisher
    | some op => exact (h.cmdVelPublisher.apply sdk x.now op).2
  · rw [step_motionSwitcherBridge, step_motionSwitcherBridge]
    by_cases hsets : SetsName sdk app x
    · exact ⟨_, (h.bridge_of_sets hsets).trans (MotionSwitcherBridge.withName_self _).symm⟩
    · exact ⟨_, h.bridge_of_keeps hsets⟩

/-- An input that stores a name leaves equal names. -/
theorem Alike.name_of_sets (h : Alike δ app app') (hsets : SetsName sdk app x) :
    (App.step sdk app' (x.shift δ)).1.motionSwitcherBridge.modeName =
      (App.step sdk app x).1.motionSwitcherBridge.modeName := by
  rw [step_motionSwitcherBridge, step_motionSwitcherBridge, h.bridge_of_sets hsets]

/-- Any other input keeps both names. -/
theorem Alike.name_of_keeps (h : Alike δ app app') (hkeeps : ¬ SetsName sdk app x) :
    (App.step sdk app x).1.motionSwitcherBridge.modeName = app.motionSwitcherBridge.modeName ∧
      (App.step sdk app' (x.shift δ)).1.motionSwitcherBridge.modeName =
        app'.motionSwitcherBridge.modeName := by
  constructor
  · rw [step_motionSwitcherBridge]
    obtain ⟨now, op⟩ := x
    cases op with
    | switcherRequest request =>
      exact MotionSwitcherBridge.modeName_of_not_stores hkeeps
    | reset => exact absurd trivial hkeeps
    | sportRequest request => rfl
    | loop => rfl
  · rw [step_motionSwitcherBridge, h.bridge_of_keeps hkeeps,
      MotionSwitcherBridge.withName_modeName]

omit [HasHypot K] in
/-- The response, but for that of CHECK_MODE, does not depend on the mode name. -/
theorem Alike.response_eq (h : Alike δ app app')
    (hx : IsCheckMode sdk x →
      app'.motionSwitcherBridge.modeName = app.motionSwitcherBridge.modeName) :
    (app'.effect sdk (x.shift δ)).response = (app.effect sdk x).response := by
  obtain ⟨name, hbridge⟩ := h.motionSwitcherBridge
  obtain ⟨now, op⟩ := x
  cases op with
  | switcherRequest request =>
    simp only [effect, Timed.shift, switcherResponse]
    by_cases hcheck : sdk.switcherApi? request.apiId32 = some .checkMode
    · have hname : name = app.motionSwitcherBridge.modeName := by
        rw [← hx hcheck, hbridge, MotionSwitcherBridge.withName_modeName]
      rw [hbridge, hname, MotionSwitcherBridge.withName_self]
    · rw [hbridge]
      exact congrArg
        (fun r => some (Output.switcherResponse (buildInterceptResponse request r.1 r.2)))
        (MotionSwitcherBridge.answer_withName hcheck)
  | sportRequest request => rfl
  | reset => rfl
  | loop => rfl

/-- **One input** makes the two applications put out the same, unless it is a CHECK_MODE that
finds different mode names.

**Proof sketch.** Messages and commands do not depend on the mode name. The response does only for
CHECK_MODE, and then the names are equal by assumption. -/
theorem Alike.outputs_eq (h : Alike δ app app')
    (hx : IsCheckMode sdk x →
      app'.motionSwitcherBridge.modeName = app.motionSwitcherBridge.modeName) :
    (App.step sdk app' (x.shift δ)).2 = (App.step sdk app x).2 := by
  have hfsm : (app'.effect sdk (x.shift δ)).fsmCommand = (app.effect sdk x).fsmCommand := by
    obtain ⟨now, op⟩ := x
    cases op <;> rfl
  have htwists : (app'.cmdVelPublisher.applyIfSome sdk (x.now + δ) (app.effect sdk x).velOp).2 =
      (app.cmdVelPublisher.applyIfSome sdk x.now (app.effect sdk x).velOp).2 := by
    cases (app.effect sdk x).velOp with
    | none => rfl
    | some op => exact (h.cmdVelPublisher.apply sdk x.now op).1
  rw [step_eq, step_eq, emitted, emitted, h.velOp_eq, hfsm, h.response_eq hx]
  simp only [Timed.shift, htwists]

/-- CHECK_MODE tells two mode names apart.

**Proof sketch.** The response holds the record of form and name. If the responses were the same,
the parser, which reads back what was written, would give the same name for both. -/
theorem Alike.outputs_ne (hmode : ∀ m, sdk.fromJsonModeName (sdk.toJsonModeName m) = some m)
    (hx : IsCheckMode sdk x)
    (hname : app'.motionSwitcherBridge.modeName ≠ app.motionSwitcherBridge.modeName) :
    (App.step sdk app' (x.shift δ)).2 ≠ (App.step sdk app x).2 := by
  obtain ⟨now, op⟩ := x
  cases op with
  | switcherRequest request =>
    have houtputs : ∀ (a : App K) (t : Time),
        (App.step sdk a ⟨t, .switcherRequest request⟩).2 =
          [.switcherResponse (buildInterceptResponse request 0 (sdk.toJsonModeName
            { form := a.motionSwitcherBridge.form
              name := a.motionSwitcherBridge.modeName }))] := by
      intro a t
      have hid := sdk.switcherApi?_eq_some_iff.mp hx
      have hop : switcherOp sdk a.motionSwitcherBridge request = none := by
        unfold switcherOp
        rw [show sdk.switcherApi? request.apiId32 = some .checkMode from hx]
      rw [step_eq]
      simp only [emitted, effect, hop, switcherResponse]
      rw [← hid, buildInterceptResponseData_switcherApiId]
      rfl
    rw [Timed.shift, houtputs, houtputs]
    intro heq
    simp only [List.cons.injEq, Output.switcherResponse.injEq, and_true,
      buildInterceptResponse, Response.mk.injEq, true_and] at heq
    have hread := congrArg sdk.fromJsonModeName heq
    rw [hmode, hmode] at hread
    exact hname (congrArg JsonizeModeName.name (Option.some.inj hread))
  | sportRequest request => exact absurd hx id
  | reset => exact absurd hx id
  | loop => exact absurd hx id

end Alike

/-! ## Runs -/

section Runs

variable {K : Type} [Field K] [LinearOrder K] [HasHypot K] {sdk : UnitreeSdk K} {δ : Time}
  {app app' : App K}

/-- A run leaves the two applications alike. -/
theorem Alike.run (h : Alike δ app app') (is : List (Timed AppInput)) :
    Alike δ (Run.run (next (App.step sdk)) app is)
      (Run.run (next (App.step sdk)) app' (is.map (Timed.shift δ))) := by
  induction is generalizing app app' with
  | nil => exact h
  | cons x is ih => exact ih (h.step x)

/-- From equal mode names on they stay equal. -/
theorem Alike.name_eq_run (h : Alike δ app app')
    (hname : app'.motionSwitcherBridge.modeName = app.motionSwitcherBridge.modeName)
    (is : List (Timed AppInput)) :
    (Run.run (next (App.step sdk)) app' (is.map (Timed.shift δ))).motionSwitcherBridge.modeName =
      (Run.run (next (App.step sdk)) app is).motionSwitcherBridge.modeName := by
  induction is generalizing app app' with
  | nil => exact hname
  | cons x is ih =>
    refine ih (h.step x) ?_
    by_cases hsets : SetsName sdk app x
    · exact h.name_of_sets hsets
    · obtain ⟨hkept, hkept'⟩ := h.name_of_keeps hsets
      exact hkept'.trans (hname.trans hkept.symm)

/-- Until a name is stored both are kept. -/
theorem Alike.name_kept_run (h : Alike δ app app') {is : List (Timed AppInput)}
    (hkeeps : Along (next (App.step sdk)) (fun a x => ¬ SetsName sdk a x) app is) :
    (Run.run (next (App.step sdk)) app is).motionSwitcherBridge.modeName =
        app.motionSwitcherBridge.modeName ∧
      (Run.run (next (App.step sdk)) app' (is.map (Timed.shift δ))).motionSwitcherBridge.modeName =
        app'.motionSwitcherBridge.modeName := by
  induction is generalizing app app' with
  | nil => exact ⟨rfl, rfl⟩
  | cons x is ih =>
    obtain ⟨hx, his⟩ := hkeeps
    obtain ⟨hkept, hkept'⟩ := h.name_of_keeps hx
    obtain ⟨hrun, hrun'⟩ := ih (h.step x) his
    exact ⟨hrun.trans hkept, hrun'.trans hkept'⟩

/-- **Equal names.** If the names differ to begin with, they are equal after a run iff an input
of it has stored one.

**Proof sketch.** If no input stores a name both names stay as they are and differ. The first input
that stores one stores the same in both runs, and names that are equal stay equal. -/
theorem Alike.name_eq_iff (h : Alike δ app app')
    (hname : app'.motionSwitcherBridge.modeName ≠ app.motionSwitcherBridge.modeName)
    (is : List (Timed AppInput)) :
    (Run.run (next (App.step sdk)) app' (is.map (Timed.shift δ))).motionSwitcherBridge.modeName =
        (Run.run (next (App.step sdk)) app is).motionSwitcherBridge.modeName ↔
      ∃ pre y post, is = pre ++ y :: post ∧
        SetsName sdk (Run.run (next (App.step sdk)) app pre) y := by
  constructor
  · intro heq
    by_contra hnone
    have hkeeps : Along (next (App.step sdk)) (fun a x => ¬ SetsName sdk a x) app is := by
      rw [along_iff_forall_split]
      exact fun pre y post hsplit hsets => hnone ⟨pre, y, post, hsplit, hsets⟩
    obtain ⟨hkept, hkept'⟩ := h.name_kept_run hkeeps
    exact hname (by rw [← hkept', heq, hkept])
  · rintro ⟨pre, y, post, rfl, hsets⟩
    have hpre : Alike δ (Run.run (next (App.step sdk)) app pre)
        (Run.run (next (App.step sdk)) app' (pre.map (Timed.shift δ))) := h.run pre
    rw [List.map_append, run_append, run_append, List.map_cons, run_cons, run_cons]
    exact (hpre.step y).name_eq_run (hpre.name_of_sets hsets) post

end Runs

section Reset

variable {K : Type} [Field K] [LinearOrder K] [HasHypot K]

/-- The application with a freshly constructed velocity publisher and motion switcher. The
channel flag and the command publisher may be whatever they are. -/
def restarted (channelInitialized : Bool) (cmdCtlPublisher : CmdCtlPublisher) : App K where
  cmdVelPublisher := { CmdVelPublisher.init with channelInitialized := channelInitialized }
  cmdCtlPublisher := cmdCtlPublisher
  motionSwitcherBridge := .init

/-- After a reset the application is like a restarted one, but for the mode name. -/
theorem alike_reset (sdk : UnitreeSdk K) (δ t : Time) (app : App K) (channelInitialized : Bool)
    (cmdCtlPublisher : CmdCtlPublisher) :
    Alike δ (App.step sdk app ⟨t, .reset⟩).1 (restarted channelInitialized cmdCtlPublisher) := by
  constructor
  · rw [step_cmdVelPublisher]
    simp only [effect, CmdVelPublisher.applyIfSome_some, CmdVelPublisher.apply,
      CmdVelPublisher.resetToDefaults, CmdVelPublisher.publishStop_eq]
    exact CmdVelPublisher.shifted_of_inactive rfl channelInitialized 0
  · rw [step_motionSwitcherBridge]
    exact ⟨"", rfl⟩

/-- **Reset and restart.** If the SDK reads back the mode records it writes, then after a reset in
any state, every input of a later run puts out what it does in the same run after a restart, in
exactly the runs in which every CHECK_MODE comes after an input that has stored a mode name.

**Proof sketch.** After a reset and after a restart the two applications are alike but for the mode
name, which is `ai` on one side and empty on the other. Alike applications answer alike, except
CHECK_MODE while the names differ. By `Alike.name_eq_iff` the names are equal from the first input
on that stores one. -/
theorem reset_is_restart_iff (sdk : UnitreeSdk K)
    (hmode : ∀ m, sdk.fromJsonModeName (sdk.toJsonModeName m) = some m) (app : App K)
    (later : List (Timed AppInput)) (t δ : Time) (channelInitialized : Bool)
    (cmdCtlPublisher : CmdCtlPublisher) :
    let afterReset (is : List (Timed AppInput)) : App K :=
      run (next (App.step sdk)) (App.step sdk app ⟨t, .reset⟩).1 is
    let afterRestart (is : List (Timed AppInput)) : App K :=
      run (next (App.step sdk)) (restarted channelInitialized cmdCtlPublisher)
        (is.map (Timed.shift δ))
    (∀ pre x post, later = pre ++ x :: post →
      (App.step sdk (afterRestart pre) (x.shift δ)).2 = (App.step sdk (afterReset pre) x).2) ↔
    ∀ pre x post, later = pre ++ x :: post → IsCheckMode sdk x →
      ∃ before y between, pre = before ++ y :: between ∧ SetsName sdk (afterReset before) y := by
  intro afterReset afterRestart
  have halike := alike_reset sdk δ t app channelInitialized cmdCtlPublisher
  have hname : (restarted channelInitialized cmdCtlPublisher : App K).motionSwitcherBridge.modeName
      ≠ (App.step sdk app ⟨t, .reset⟩).1.motionSwitcherBridge.modeName := by
    rw [step_motionSwitcherBridge]
    show "" ≠ "ai"
    decide
  constructor
  · intro hsame pre x post hsplit hx
    by_contra hnone
    have hne := mt (halike.name_eq_iff hname pre).mp hnone
    exact Alike.outputs_ne hmode hx hne (hsame pre x post hsplit)
  · intro hcheck pre x post hsplit
    refine (halike.run pre).outputs_eq fun hx => ?_
    exact (halike.name_eq_iff hname pre).mpr (hcheck pre x post hsplit hx)

/-- A CHECK_MODE after a reset and a release. -/
theorem reset_is_restart_iff_release :
    let sdk := sampleRoundTripSdk ℝ
    let release : Timed AppInput := ⟨1, .switcherRequest (sampleRequest 1003 "")⟩
    let check : Timed AppInput := ⟨2, .switcherRequest (sampleRequest 1001 "")⟩
    (App.step sdk (run (next (App.step sdk)) (restarted true .init) [release.shift 5])
        (check.shift 5)).2 =
      (App.step sdk (stateAfter sdk [⟨0, .reset⟩, release]) check).2 := by
  intro sdk release check
  refine (reset_is_restart_iff sdk sampleRoundTripSdk_modeName App.init [release, check] 0 5 true
    .init).mpr ?_ [release] check [] rfl
  intro pre x post hsplit hx
  match pre with
  | [] =>
    obtain ⟨rfl, -⟩ : release = x ∧ _ := by simpa using hsplit
    have hapi : sdk.switcherApi? (sampleRequest 1003 "").apiId32 = some .releaseMode := rfl
    exact absurd (hapi.symm.trans hx) (by decide)
  | [_] =>
    obtain ⟨rfl, -⟩ : release = _ ∧ _ := by simpa using hsplit
    exact ⟨[], release, [], rfl, rfl, Or.inl rfl⟩
  | _ :: _ :: _ => simp at hsplit

/-- A CHECK_MODE right after a reset returns another mode name than after a restart. -/
theorem checkMode_after_reset :
    let sdk := sampleRoundTripSdk ℝ
    let check : Timed AppInput := ⟨1, .switcherRequest (sampleRequest 1001 "")⟩
    (App.step sdk (restarted true .init) (check.shift 0)).2 ≠
      (App.step sdk (stateAfter sdk [⟨0, .reset⟩]) check).2 := by
  intro sdk check
  have hname : ("" : String) ≠ "ai" := by decide
  exact Alike.outputs_ne sampleRoundTripSdk_modeName rfl hname

end Reset

end App

end SdkEventBridge
