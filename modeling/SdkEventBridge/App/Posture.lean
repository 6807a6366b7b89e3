import SdkEventBridge.App.Steps
import SdkEventBridge.Switcher.Register

set_option relaxedAutoImplicit false
set_option autoImplicit false

/-!
# Posture, motion and mode changes

The motion switcher accepts a mode change only in the posture StandDown. The posture, the
commanded velocity and the FSM command live in three objects that no code compares. This file
proves what the posture says about the other two after every history of inputs: StandDown means
that the robot stands still and was last told to go down, and after a loop iteration Walking
means motion unless a zero-velocity move is in effect.

## Main definitions

* `setsStandDown` — the inputs that put the robot down.
* `AtRest` — nothing published tells the robot to be up or to move.
* `ZeroMoveInEffect` — an active move with velocity zero that `Tick` does not end.
* `StaysDown` — a step that gives the robot no reason to leave StandDown.

## Main results

* `standDown_cases` — how a step can leave the posture StandDown.
* `mode_change_only_at_rest` — mode changes are accepted only at rest.
* `walking_iff_moving` — when Walking means motion after every loop iteration.
* `mode_change_after_down` — after a command to go down mode changes stay possible.
-/

namespace SdkEventBridge

open PlanarNorm Run

section Inputs

variable {K : Type} (sdk : UnitreeSdk K)

/-- The input sets the posture to StandDown: STANDDOWN, DAMP or a reset. -/
def setsStandDown (x : Timed AppInput) : Bool :=
  match x.op with
  | .sportRequest request =>
    match sdk.sportApi? request.apiId32 with
    | some .standDown | some .damp => true
    | _ => false
  | .reset => true
  | _ => false

/-- A request for a mode change. -/
def IsModeChange (request : Request) : Prop :=
  request.apiId32 = sdk.switcherApiId .selectMode ∨
    request.apiId32 = sdk.switcherApiId .releaseMode

variable {sdk}

/-- The commands that put the robot down. -/
theorem sportCommand_of_setsStandDown {now : Time} {request : Request}
    (h : setsStandDown sdk ⟨now, .sportRequest request⟩ = true) :
    ∃ fsm, sportCommand sdk request = .lockAnd .standDown fsm ∧
      (fsm = .getDown ∨ fsm = .passiveDamped) := by
  unfold setsStandDown at h
  cases hapi : sdk.sportApi? request.apiId32 with
  | none => simp [hapi] at h
  | some api =>
    cases api <;> simp [hapi] at h
    · exact ⟨.passiveDamped, by simp [sportCommand, hapi], Or.inr rfl⟩
    · exact ⟨.getDown, by simp [sportCommand, hapi], Or.inl rfl⟩

/-- A command that locks the joints and takes the posture StandDown is one that sets it. -/
theorem setsStandDown_of_lockAnd {now : Time} {request : Request} {fsm : FsmCommand}
    (h : sportCommand sdk request = .lockAnd .standDown fsm) :
    setsStandDown sdk ⟨now, .sportRequest request⟩ = true := by
  rcases decodedFrom_of_eq h with ⟨hapi, -⟩ | ⟨hapi, -⟩ <;> simp [setsStandDown, hapi]

end Inputs

/-- The test of the `MOVE` handler is a test for a nonzero velocity. -/
theorem MoveVelocity.hasMotion_eq_true {K : Type} [Field K] [LinearOrder K]
    [IsStrictOrderedRing K] {v : MoveVelocity K} : v.hasMotion = true ↔ v ≠ 0 := by
  rw [← MoveVelocity.hasMotion_iff']
  simp only [MoveVelocity.hasMotion, Bool.or_eq_true, decide_eq_true_eq, or_assoc]

/-- Only the zero velocity has no motion. -/
theorem MoveVelocity.hasMotion_eq_false {K : Type} [Field K] [LinearOrder K]
    [IsStrictOrderedRing K] {v : MoveVelocity K} : v.hasMotion = false ↔ v = 0 := by
  rw [← Bool.not_eq_true, MoveVelocity.hasMotion_eq_true, not_not]

namespace App

section Steps

variable {K : Type} [Field K] [LinearOrder K] {sdk : UnitreeSdk K} {app : App K}

/-- **Leaving StandDown.** After a step the posture is StandDown only if the step put the robot
down, or if it was StandDown before and the step accepted no motion and published no command.

**Proof sketch.** Case analysis on the input. BALANCESTAND and STOPMOVE write StandUp. A MOVE that
is accepted with motion writes Walking, so one that leaves StandDown has no motion or meets locked
joints. The other requests leave the posture alone, and so does an iteration of the loop that leaves
StandDown there. -/
theorem standDown_cases [IsStrictOrderedRing K] {x : Timed AppInput}
    (h : (app.effect sdk x).motionSwitcherBridge.robotPosture = .standDown) :
    setsStandDown sdk x = true ∨
      (app.motionSwitcherBridge.robotPosture = .standDown ∧
        (app.effect sdk x).fsmCommand = none ∧
        ∀ p, (app.effect sdk x).velOp = some (.handleMove p) →
          app.cmdVelPublisher.jointsLocked = false → parseMoveParameter sdk p = 0) := by
  obtain ⟨now, op⟩ := x
  cases op with
  | sportRequest request =>
    cases hcmd : sportCommand sdk request with
    | lockAnd posture fsm =>
      have hposture : posture = .standDown := by
        simpa [effect, hcmd, SportCommand.posture] using h
      exact Or.inl (setsStandDown_of_lockAnd (hposture ▸ hcmd))
    | balanceStand => simp [effect, hcmd, SportCommand.posture] at h
    | stopMove => simp [effect, hcmd, SportCommand.posture] at h
    | move p =>
      simp only [effect, hcmd, SportCommand.posture] at h
      split_ifs at h with hmotion
      refine Or.inr ⟨h, by simp [effect, hcmd, SportCommand.fsmCommand], ?_⟩
      intro q hq hunlocked
      have hpq : p = q := by simpa [effect, hcmd, SportCommand.velOp] using hq
      rw [← hpq, ← MoveVelocity.hasMotion_eq_false]
      simpa [hunlocked] using hmotion
    | setting op =>
      refine Or.inr ⟨by simpa [effect, hcmd, SportCommand.posture] using h,
        by simp [effect, hcmd, SportCommand.fsmCommand], ?_⟩
      intro q hq
      have hop : op = .handleMove q := by simpa [effect, hcmd, SportCommand.velOp] using hq
      rw [hop] at hcmd
      exact absurd (decodedFrom_of_eq hcmd) id
    | ignored =>
      exact Or.inr ⟨by simpa [effect, hcmd, SportCommand.posture] using h,
        by simp [effect, hcmd, SportCommand.fsmCommand],
        by simp [effect, hcmd, SportCommand.velOp]⟩
  | switcherRequest request =>
    refine Or.inr ⟨by simpa [effect] using h, rfl, ?_⟩
    intro p hp
    obtain ⟨name, hname⟩ := eq_setMotionModeName_of_switcherOp hp
    exact absurd hname (by simp)
  | reset => exact Or.inl rfl
  | loop =>
    refine Or.inr ⟨?_, rfl, by simp [effect]⟩
    simp only [effect, loopPosture] at h
    split_ifs at h
    exact h

/-- Putting the robot down ends every move. -/
theorem inactive_of_setsStandDown [HasHypot K] {x : Timed AppInput}
    (h : setsStandDown sdk x = true) :
    (app.cmdVelPublisher.applyIfSome sdk x.now (app.effect sdk x).velOp).1.hasActiveMove =
      false := by
  obtain ⟨now, op⟩ := x
  cases op with
  | sportRequest request =>
    obtain ⟨fsm, hcmd, -⟩ := sportCommand_of_setsStandDown h
    simp [effect, hcmd, SportCommand.velOp, CmdVelPublisher.apply, CmdVelPublisher.lockJoints]
  | switcherRequest request => simp [setsStandDown] at h
  | reset => simp [effect, CmdVelPublisher.apply, CmdVelPublisher.resetToDefaults]
  | loop => simp [setsStandDown] at h

/-- The commands to go down are those that come with putting the robot down. -/
theorem command_of_setsStandDown (app : App K) {x : Timed AppInput} (h : setsStandDown sdk x = true)
    (hreset : isReset x = false) :
    ∃ fsm, (app.effect sdk x).fsmCommand = some fsm ∧
      (fsm.toInt32 = 10002 ∨ fsm.toInt32 = 10003) := by
  obtain ⟨now, op⟩ := x
  cases op with
  | sportRequest request =>
    obtain ⟨fsm, hcmd, hfsm⟩ := sportCommand_of_setsStandDown h
    refine ⟨fsm, by simp [effect, hcmd, SportCommand.fsmCommand], ?_⟩
    rcases hfsm with rfl | rfl
    · exact Or.inl rfl
    · exact Or.inr rfl
  | switcherRequest request => simp [setsStandDown] at h
  | reset => simp [isReset] at hreset
  | loop => simp [setsStandDown] at h

end Steps

/-! ## Mode changes are accepted only at rest -/

section Rest

variable {K : Type} [Field K] [LinearOrder K] [HasHypot K] (sdk : UnitreeSdk K)

/-- Nothing published so far tells the robot to be up or to move: the last velocity is zero, all
velocities since the posture was last set to StandDown are zero, and the last FSM command since
the last reset, if any, is one to go down. -/
structure AtRest (h : List (Timed AppInput)) : Prop where
  lastTwist_zero : lastTwist (twists (App.after sdk h).trace) = 0
  twists_zero : ∀ t ∈ twists (outputsSince sdk (setsStandDown sdk) h), t = 0
  command_down : ∀ c ∈ (commands (outputsSince sdk isReset h)).getLast?,
    c = 10002 ∨ c = 10003

variable [IsStrictOrderedRing K] [LawfulHypot K]

/-- StandDown means at rest, after every history.

**Proof sketch.** Induction on the history from its end, with `standDown_cases` for the last step.
After a step that puts the robot down no message has come since, and the last command since a reset
is its own, which is 10002 or 10003. Otherwise the robot was down before, by induction at rest, and
the step publishes no command and no motion. -/
theorem atRest_of_standDown (h : List (Timed AppInput))
    (hdown : (stateAfter sdk h).motionSwitcherBridge.robotPosture = .standDown) :
    (stateAfter sdk h).cmdVelPublisher.Still ∧ AtRest sdk h := by
  induction h using List.reverseRecOn with
  | nil =>
    have hinit := consistent_after sdk []
    have hstill : (stateAfter sdk [] : App K).cmdVelPublisher.Still :=
      CmdVelPublisher.still_of_inactive (by simp [App.init, CmdVelPublisher.init])
    exact ⟨hstill, hinit.lastTwist_eq_zero.mpr hstill, by simp, by simp⟩
  | append_singleton h x ih =>
    rw [stateAfter_concat, step_motionSwitcherBridge] at hdown
    have hcons := consistent_after sdk h
    have hcons' := consistent_after sdk (h ++ [x])
    have hwhole : (stateAfter sdk (h ++ [x])).cmdVelPublisher.Still ∧
        (∀ t ∈ twists (outputsSince sdk (setsStandDown sdk) (h ++ [x])), t = 0) ∧
        ∀ c ∈ (commands (outputsSince sdk isReset (h ++ [x]))).getLast?,
          c = 10002 ∨ c = 10003 := by
      rw [stateAfter_concat, step_cmdVelPublisher, outputsSince_concat, outputsSince_concat]
      rcases standDown_cases hdown with hsets | ⟨hdown, hfsm, hmove⟩
      · -- The step puts the robot down.
        refine ⟨CmdVelPublisher.still_of_inactive (inactive_of_setsStandDown hsets), ?_, ?_⟩
        · simp [hsets]
        · cases hreset : isReset x with
          | true => simp
          | false =>
            obtain ⟨fsm, hfsm, hcommand⟩ :=
              command_of_setsStandDown (stateAfter sdk h) hsets hreset
            intro c hc
            rw [if_neg (by decide), commands_append, step_commands, hfsm] at hc
            obtain rfl : fsm.toInt32 = c := by simpa using hc
            exact hcommand
      · -- The robot was down already, and nothing moves it.
        obtain ⟨hstill, hrest⟩ := ih hdown
        have hstill' := hstill.applyIfSome sdk x.now hcons.cap_pos hmove
        have hzero := hcons.twists_zero_of_still_applyIfSome sdk x.now hstill'
        refine ⟨hstill', ?_, ?_⟩
        · intro t ht
          split_ifs at ht
          · simp at ht
          · rw [twists_append, step_twists, List.mem_append] at ht
            exact ht.elim (hrest.twists_zero t) (hzero t)
        · intro c hc
          split_ifs at hc
          · simp at hc
          · rw [commands_append, step_commands, hfsm] at hc
            exact hrest.command_down c (by simpa using hc)
    exact ⟨hwhole.1, hcons'.lastTwist_eq_zero.mpr hwhole.1, hwhole.2.1, hwhole.2.2⟩

omit [Field K] [LinearOrder K] [HasHypot K] [IsStrictOrderedRing K] [LawfulHypot K] in
/-- Only in the posture StandDown is a mode change answered with success. -/
theorem standDown_of_status_zero {s : MotionSwitcherBridge} {request : Request}
    (hreq : IsModeChange sdk request)
    (h0 : (s.buildInterceptResponseData sdk request.apiId32 request).2.1 = 0) :
    s.robotPosture = .standDown := by
  rcases hreq with hid | hid
  · exact ((MotionSwitcherBridge.status_selectMode_eq_zero_iff sdk s hid).mp h0).1
  · exact (MotionSwitcherBridge.status_releaseMode_eq_zero_iff sdk s hid).mp h0

end Rest

/-- **Mode changes are accepted only at rest.** When a SELECT_MODE or RELEASE_MODE is answered
with status 0, the robot is at rest, before the request and after it.

**Proof sketch.** A mode change with status 0 found the posture StandDown, and answering it leaves
the posture. In every reachable state StandDown means at rest, by `atRest_of_standDown`. -/
theorem mode_change_only_at_rest (sdk : UnitreeSdk ℝ) (h : List (Timed AppInput)) (now : Time)
    (request : Request) (hreq : IsModeChange sdk request)
    (h0 : 0 ∈ switcherStatuses
      (App.step sdk (stateAfter sdk h) ⟨now, .switcherRequest request⟩).2) :
    AtRest sdk h ∧ AtRest sdk (h ++ [⟨now, .switcherRequest request⟩]) := by
  rw [step_switcherStatuses, List.mem_singleton] at h0
  have hdown := standDown_of_status_zero sdk hreq h0.symm
  refine ⟨(atRest_of_standDown sdk h hdown).2, (atRest_of_standDown sdk _ ?_).2⟩
  rw [stateAfter_concat, step_motionSwitcherBridge]
  exact (buildInterceptResponseData_robotPosture sdk).trans hdown

/-- A release of the mode after a stand down. -/
theorem mode_change_only_at_rest_release :
    let h : List (Timed AppInput) := [⟨0, .sportRequest (sampleRequest 1005 "")⟩]
    AtRest (sampleSdk ℝ) h ∧
      AtRest (sampleSdk ℝ) (h ++ [⟨0, .switcherRequest (sampleRequest 1003 "")⟩]) := by
  intro h
  refine mode_change_only_at_rest (sampleSdk ℝ) h 0 (sampleRequest 1003 "") (Or.inr rfl) ?_
  rw [step_switcherStatuses, List.mem_singleton]
  rfl

/-! ## Walking and motion -/

section Walking

variable {K : Type} [Field K] [LinearOrder K] [HasHypot K]

/-- A move with velocity zero is active, and `Tick` at `now` does not end it. -/
def ZeroMoveInEffect (s : CmdVelPublisher K) (now : Time) : Prop :=
  s.hasActiveMove = true ∧ s.lastVelocity = 0 ∧ s.tickExpires now = false

omit [LinearOrder K] [HasHypot K] in
/-- The main loop sets the posture to Walking exactly when a move is active after `Tick`. -/
theorem loopPosture_eq_walking {app : App K} {now : Time} :
    app.loopPosture now = .walking ↔
      (app.cmdVelPublisher.tick now).1.isActivelyMoving = true := by
  unfold loopPosture
  split_ifs with hmoving hwalking <;> simp_all

/-- One iteration of the main loop leaves Walking and motion in agreement unless a zero move is
in effect.

**Proof sketch.** The iteration writes Walking exactly if a move is active and `Tick` does not end
it. The last message is nonzero exactly if moreover the velocity of that move is. The two differ
exactly for a zero move. -/
theorem walking_iff_moving_step [IsStrictOrderedRing K] [LawfulHypot K] (sdk : UnitreeSdk K)
    (h : List (Timed AppInput)) (now : Time) :
    ((stateAfter sdk (h ++ [⟨now, .loop⟩])).motionSwitcherBridge.robotPosture = .walking ↔
      lastTwist (twists (App.after sdk (h ++ [⟨now, .loop⟩])).trace) ≠ 0) ↔
    ¬ ZeroMoveInEffect (stateAfter sdk h).cmdVelPublisher now := by
  have hcons := consistent_after sdk h
  have hcons' := consistent_after sdk (h ++ [⟨now, .loop⟩])
  rw [Ne, hcons'.lastTwist_eq_zero, stateAfter_concat, step_motionSwitcherBridge,
    step_cmdVelPublisher]
  set s := (stateAfter sdk h).cmdVelPublisher with hs
  have hposture : (stateAfter sdk h).loopPosture now = .walking ↔
      s.hasActiveMove = true ∧ s.tickExpires now = false := by
    rw [loopPosture_eq_walking, CmdVelPublisher.isActivelyMoving_tick, hcons.isActivelyMoving_eq]
    simp [hs]
  have hstill := CmdVelPublisher.still_tick s now
  show ((stateAfter sdk h).loopPosture now = .walking ↔ ¬ (s.tick now).1.Still) ↔ _
  rw [hposture, hstill, ZeroMoveInEffect]
  by_cases hzero : s.lastVelocity = 0 <;> simp [hzero]

end Walking

/-- **Walking and motion.** Right after every iteration of the main loop the posture is Walking
iff the last message is nonzero, in exactly the runs in which no iteration finds a zero-velocity
move in effect.

**Proof sketch.** Both sides speak of each iteration of the run, and for a single one they agree by
`walking_iff_moving_step`. -/
theorem walking_iff_moving (sdk : UnitreeSdk ℝ) (h : List (Timed AppInput)) :
    (∀ pre now post, h = pre ++ ⟨now, .loop⟩ :: post →
      ((stateAfter sdk (pre ++ [⟨now, .loop⟩])).motionSwitcherBridge.robotPosture = .walking ↔
        lastTwist (twists (App.after sdk (pre ++ [⟨now, .loop⟩])).trace) ≠ 0)) ↔
    ∀ pre now post, h = pre ++ ⟨now, .loop⟩ :: post →
      ¬ ZeroMoveInEffect (stateAfter sdk pre).cmdVelPublisher now := by
  constructor
  · intro hwalk pre now post hsplit
    exact (walking_iff_moving_step sdk pre now).mp (hwalk pre now post hsplit)
  · intro hzero pre now post hsplit
    exact (walking_iff_moving_step sdk pre now).mpr (hzero pre now post hsplit)

/-- A MOVE with velocity zero makes the main loop report Walking. -/
theorem walking_without_motion :
    let h : List (Timed AppInput) := [⟨0, .sportRequest (sampleRequest 1002 "")⟩,
      ⟨0, .sportRequest (sampleRequest 1008 "\x7b\"x\":0\x7d")⟩, ⟨0, .loop⟩]
    (stateAfter (sampleSdk ℝ) h).motionSwitcherBridge.robotPosture = .walking ∧
      lastTwist (twists (App.after (sampleSdk ℝ) h).trace) = 0 := by
  intro h
  have hbalance : sportCommand (sampleSdk ℝ) (sampleRequest 1002 "") = .balanceStand := rfl
  have hmove : sportCommand (sampleSdk ℝ) (sampleRequest 1008 "\x7b\"x\":0\x7d") =
      .move "\x7b\"x\":0\x7d" := rfl
  have hzero : parseMoveParameter (sampleSdk ℝ) "\x7b\"x\":0\x7d" = 0 := by
    show (⟨((0 : Int32).toInt : ℝ), 0, 0⟩ : MoveVelocity ℝ) = 0
    ext <;> simp
  have hend : (stateAfter (sampleSdk ℝ) h).motionSwitcherBridge.robotPosture = .walking ∧
      (stateAfter (sampleSdk ℝ) h).cmdVelPublisher.lastVelocity = 0 := by
    simp [h, stateAfter, next, effect, hbalance, hmove, hzero, SportCommand.velOp,
      SportCommand.posture, App.init, CmdVelPublisher.init, CmdVelPublisher.apply,
      CmdVelPublisher.unlockJoints, CmdVelPublisher.handleMove, CmdVelPublisher.acceptMove,
      CmdVelPublisher.applySpeedLimit_eq, loopPosture, CmdVelPublisher.tick, moveStopTimeout,
      CmdVelPublisher.isActivelyMoving]
  refine ⟨hend.1, ?_⟩
  rw [(consistent_after (sampleSdk ℝ) h).lastTwist_eq_zero]
  exact fun _ => hend.2

/-! ## After a command to go down -/

section Down

variable {K : Type} [Field K] [LinearOrder K] [HasHypot K] (sdk : UnitreeSdk K)

/-- A request for a mode change that can be granted. -/
def IsWellFormedModeChange (request : Request) : Prop :=
  (request.apiId32 = sdk.switcherApiId .selectMode ∧
    ∃ m, sdk.fromJsonModeName request.parameter = some m ∧ m.name ≠ "") ∨
  request.apiId32 = sdk.switcherApiId .releaseMode

/-- A step that gives the robot no reason to leave StandDown: it publishes no FSM command and
no motion, it is not a STOPMOVE, and no main-loop iteration with a zero move in effect. -/
structure StaysDown (app : App K) (x : Timed AppInput) : Prop where
  no_command : commands (App.step sdk app x).2 = []
  no_motion : ∀ t ∈ twists (App.step sdk app x).2, t = 0
  no_stopMove : ∀ request, x.op = .sportRequest request →
    sdk.sportApi? request.apiId32 ≠ some .stopMove
  no_zeroMove : x.op = .loop → ¬ ZeroMoveInEffect app.cmdVelPublisher x.now

/-- The robot is down, stands still, and agrees with what was published. -/
structure Down (app : App K) : Prop where
  posture : app.motionSwitcherBridge.robotPosture = .standDown
  still : app.cmdVelPublisher.Still
  consistent : ∃ ts, app.cmdVelPublisher.Consistent ts

variable {sdk}

omit [Field K] [LinearOrder K] [HasHypot K] in
/-- In the posture StandDown a mode change is granted. -/
theorem status_zero_of_standDown {s : MotionSwitcherBridge} {request : Request}
    (hdown : s.robotPosture = .standDown) (hreq : IsWellFormedModeChange sdk request) :
    (s.buildInterceptResponseData sdk request.apiId32 request).2.1 = 0 := by
  rcases hreq with ⟨hid, hnamed⟩ | hid
  · exact (MotionSwitcherBridge.status_selectMode_eq_zero_iff sdk s hid).mpr ⟨hdown, hnamed⟩
  · exact (MotionSwitcherBridge.status_releaseMode_eq_zero_iff sdk s hid).mpr hdown

/-- A command to go down comes from an input that puts the robot down. -/
theorem setsStandDown_of_command {app : App K} {x : Timed AppInput} {c : Int32}
    (hc : c ∈ commands (App.step sdk app x).2) (hdown : c = 10002 ∨ c = 10003) :
    setsStandDown sdk x = true ∧
      (app.effect sdk x).motionSwitcherBridge.robotPosture = .standDown := by
  rw [step_commands] at hc
  obtain ⟨now, op⟩ := x
  cases op with
  | sportRequest request =>
    have hup : FsmCommand.getUpLocomotion.toInt32 ≠ 10002 ∧
        FsmCommand.getUpLocomotion.toInt32 ≠ 10003 := by decide
    cases hcmd : sportCommand sdk request with
    | lockAnd posture fsm =>
      have hfsm : c = fsm.toInt32 := by
        simpa [effect, hcmd, SportCommand.fsmCommand] using hc
      cases posture with
      | standDown =>
        exact ⟨setsStandDown_of_lockAnd hcmd, by simp [effect, hcmd, SportCommand.posture]⟩
      | standUp =>
        obtain ⟨-, rfl⟩ := decodedFrom_of_eq hcmd
        rw [hfsm] at hdown
        exact absurd hdown (by simp [hup])
      | walking => exact absurd (decodedFrom_of_eq hcmd) id
    | balanceStand =>
      have hfsm : c = FsmCommand.getUpLocomotion.toInt32 := by
        simpa [effect, hcmd, SportCommand.fsmCommand] using hc
      rw [hfsm] at hdown
      exact absurd hdown (by simp [hup])
    | stopMove | move | setting | ignored =>
      simp [effect, hcmd, SportCommand.fsmCommand] at hc
  | switcherRequest request => simp [effect] at hc
  | reset => simp [effect] at hc
  | loop => simp [effect] at hc

variable [IsStrictOrderedRing K] [LawfulHypot K]

/-- A command to go down leaves the robot down. -/
theorem down_of_command {app : App K} {x : Timed AppInput} {c : Int32}
    (hcons : ∃ ts, app.cmdVelPublisher.Consistent ts)
    (hc : c ∈ commands (App.step sdk app x).2) (hdown : c = 10002 ∨ c = 10003) :
    Down (App.step sdk app x).1 := by
  obtain ⟨hsets, hposture⟩ := setsStandDown_of_command hc hdown
  obtain ⟨ts, hcons⟩ := hcons
  refine ⟨by rwa [step_motionSwitcherBridge], ?_, ?_⟩
  · rw [step_cmdVelPublisher]
    exact CmdVelPublisher.still_of_inactive (inactive_of_setsStandDown hsets)
  · rw [step_cmdVelPublisher]
    exact ⟨_, hcons.applyIfSome sdk x.now _⟩

omit [LawfulHypot K] in
/-- A step that gives no reason to leave StandDown keeps the posture.

**Proof sketch.** Case analysis on the input. Commands that change the posture publish one, which is
excluded, as is STOPMOVE. An accepted MOVE with motion would publish a nonzero message, since
limiting by a positive cap keeps it nonzero. The main loop writes Walking only for an active move,
which has velocity zero here, and that is excluded. -/
theorem Down.posture_step {app : App K} {x : Timed AppInput} (h : Down app)
    (hx : StaysDown sdk app x) :
    (app.effect sdk x).motionSwitcherBridge.robotPosture = .standDown := by
  obtain ⟨ts, hcons⟩ := h.consistent
  have hcommand := hx.no_command
  have htwists := hx.no_motion
  rw [step_commands] at hcommand
  rw [step_twists] at htwists
  obtain ⟨now, op⟩ := x
  cases op with
  | sportRequest request =>
    cases hcmd : sportCommand sdk request with
    | lockAnd posture fsm => simp [effect, hcmd, SportCommand.fsmCommand] at hcommand
    | balanceStand => simp [effect, hcmd, SportCommand.fsmCommand] at hcommand
    | stopMove => exact absurd (decodedFrom_of_eq hcmd) (hx.no_stopMove request rfl)
    | move p =>
      -- An accepted MOVE with motion would have published a nonzero velocity.
      simp only [effect, hcmd, SportCommand.posture]
      split_ifs with hmotion
      · obtain ⟨hunlocked, hmotion⟩ : app.cmdVelPublisher.jointsLocked = false ∧
            (parseMoveParameter sdk p).hasMotion = true := by simpa using hmotion
        have hout := CmdVelPublisher.apply_of_accepts app.cmdVelPublisher sdk now (p := p) hunlocked
        simp only [effect, hcmd, SportCommand.velOp, CmdVelPublisher.applyIfSome_some, hout,
          List.mem_singleton, forall_eq, Twist.ofVelocity_eq_zero,
          MoveVelocity.limit_eq_zero hcons.cap_pos] at htwists
        exact absurd htwists (MoveVelocity.hasMotion_eq_true.mp hmotion)
      · exact h.posture
    | setting op => simpa [effect, hcmd, SportCommand.posture] using h.posture
    | ignored => simpa [effect, hcmd, SportCommand.posture] using h.posture
  | switcherRequest request => simpa [effect] using h.posture
  | reset => rfl
  | loop =>
    have hidle : ¬ (app.cmdVelPublisher.tick now).1.isActivelyMoving = true := by
      rw [CmdVelPublisher.isActivelyMoving_tick, hcons.isActivelyMoving_eq]
      intro hmoving
      obtain ⟨hactive, hexp⟩ : app.cmdVelPublisher.hasActiveMove = true ∧
          app.cmdVelPublisher.tickExpires now = false := by simpa using hmoving
      exact hx.no_zeroMove rfl ⟨hactive, h.still hactive, hexp⟩
    simp [effect, loopPosture, hidle, h.posture]

/-- Such a step keeps the robot down. -/
theorem Down.step {app : App K} {x : Timed AppInput} (h : Down app) (hx : StaysDown sdk app x) :
    Down (App.step sdk app x).1 := by
  have hposture := h.posture_step hx
  obtain ⟨ts, hcons⟩ := h.consistent
  refine ⟨by rwa [step_motionSwitcherBridge], ?_, ?_⟩
  · rw [step_cmdVelPublisher]
    rcases standDown_cases hposture with hsets | ⟨-, -, hmove⟩
    · exact CmdVelPublisher.still_of_inactive (inactive_of_setsStandDown hsets)
    · exact h.still.applyIfSome sdk x.now hcons.cap_pos hmove
  · rw [step_cmdVelPublisher]
    exact ⟨_, hcons.applyIfSome sdk x.now _⟩

end Down

/-- **After a command to go down** mode changes are granted as long as no further command is
published, nothing moves, no STOPMOVE is handled, and no main-loop iteration finds a
zero-velocity move in effect.

**Proof sketch.** The command to go down leaves the robot `Down`. Each later step keeps that by
`Down.step`, so the posture is StandDown when the request comes, and a well-formed request is
granted then. -/
theorem mode_change_after_down (sdk : UnitreeSdk ℝ) (pre post : List (Timed AppInput))
    (x : Timed AppInput) (c : Int32)
    (hc : c ∈ commands (App.step sdk (stateAfter sdk pre) x).2) (hdown : c = 10002 ∨ c = 10003)
    (hpost : Along (next (App.step sdk)) (StaysDown sdk) (stateAfter sdk (pre ++ [x])) post)
    (now : Time) (request : Request) (hreq : IsWellFormedModeChange sdk request) :
    switcherStatuses
      (App.step sdk (stateAfter sdk (pre ++ x :: post)) ⟨now, .switcherRequest request⟩).2 =
      [0] := by
  have hstart : Down (stateAfter sdk (pre ++ [x])) := by
    rw [stateAfter_concat]
    exact down_of_command ⟨_, consistent_after sdk pre⟩ hc hdown
  have hend : Down (run (next (App.step sdk)) (stateAfter sdk (pre ++ [x])) post) :=
    run_induction_along (next (App.step sdk)) (fun _ _ hd hx => Down.step hd hx) hstart hpost
  have hrun : run (next (App.step sdk)) (stateAfter sdk (pre ++ [x])) post =
      stateAfter sdk (pre ++ x :: post) := by
    rw [stateAfter, stateAfter, ← run_append, List.append_assoc]; rfl
  rw [step_switcherStatuses, status_zero_of_standDown (hrun ▸ hend).posture hreq]

/-- A stand down, an iteration of the main loop, and a release of the mode. -/
theorem mode_change_after_down_loop :
    switcherStatuses (App.step (sampleSdk ℝ)
      (stateAfter (sampleSdk ℝ) [⟨0, .sportRequest (sampleRequest 1005 "")⟩, ⟨0, .loop⟩])
      ⟨0, .switcherRequest (sampleRequest 1003 "")⟩).2 = [0] := by
  refine mode_change_after_down (sampleSdk ℝ) [] [⟨0, .loop⟩]
    ⟨0, .sportRequest (sampleRequest 1005 "")⟩ 10002 ?_ (Or.inl rfl) ⟨?_, trivial⟩ 0
    (sampleRequest 1003 "") (Or.inr rfl)
  · rw [step_commands]
    exact List.mem_singleton.mpr rfl
  · have hidle : (stateAfter (sampleSdk ℝ)
        [⟨0, .sportRequest (sampleRequest 1005 "")⟩]).cmdVelPublisher.hasActiveMove = false := rfl
    refine ⟨?_, ?_, by simp, ?_⟩
    · rw [step_commands]; rfl
    · rw [step_twists]
      simp [effect, CmdVelPublisher.apply, CmdVelPublisher.tick, hidle]
    · rintro - ⟨hactive, -⟩
      rw [List.nil_append, hidle] at hactive
      exact absurd hactive (by decide)

/-- A STOPMOVE after a stand down moves nothing, and still the mode cannot be changed. -/
theorem busy_after_stopMove :
    let h : List (Timed AppInput) := [⟨0, .sportRequest (sampleRequest 1005 "")⟩,
      ⟨0, .sportRequest (sampleRequest 1003 "")⟩]
    commands (App.after (sampleSdk ℝ) h).trace = [10002] ∧
      (∀ t ∈ twists (App.after (sampleSdk ℝ) h).trace, t = 0) ∧
      switcherStatuses (App.step (sampleSdk ℝ) (stateAfter (sampleSdk ℝ) h)
        ⟨0, .switcherRequest (sampleRequest 1003 "")⟩).2 = [(sampleSdk ℝ).errBusy] := by
  intro h
  have htwists : twists (App.after (sampleSdk ℝ) h).trace = [0, 0] := rfl
  refine ⟨rfl, ?_, rfl⟩
  rw [htwists]
  simp

end App

end SdkEventBridge
