import SdkEventBridge.App.Steps

set_option relaxedAutoImplicit false
set_option autoImplicit false

/-!
# The lock table and the speed cap

Two tables of the README say what a request means regardless of everything else: which events
lock and unlock the joints, and which linear speed is allowed for a mode name and a speed level.
This file states both as folds over the history of inputs, apart from the code, and proves which
of it the code implements.

## Main definitions

* `lockEvent` — the README's lock table, as the effect of one input.
* `LockTable`, `LockTable.step`, `lockTable` — the same with the walk mode in effect: disabling a
  walk mode counts only if that mode is in effect.
* `capFor`, `speedLevelInEffect` — the README's cap for a mode name and a level, and the level
  last requested.

## Main results

* `App.lock_refines_table` — the lock is the fold of `LockTable.step`.
* `App.cap_agrees` — the cap is the one for the stored mode name and the requested level.
-/

namespace SdkEventBridge

open PlanarNorm Run

/-! ## The lock table -/

section LockTable

variable {K : Type} (sdk : UnitreeSdk K)

/-- The README's table: `some true` for an event that locks the joints, `some false` for one that
unlocks them. -/
def lockEvent (x : Timed AppInput) : Option Bool :=
  match x.op with
  | .sportRequest request =>
    match sdk.sportApi? request.apiId32 with
    | some .standUp | some .standDown | some .recoveryStand | some .damp => some true
    | some .balanceStand | some .freeWalkGo2 | some .freeWalkB2 => some false
    | some .visionWalk | some .classicWalkGo2 | some .classicWalkB2 | some .fastWalk =>
      (parseBoolParameter sdk request.parameter).map fun enabled => !enabled
    | some .switchGait =>
      (parseIntParameter sdk request.parameter).bind fun gait =>
        if gait = 0 then some true else if 1 ≤ gait ∧ gait ≤ 4 then some false else none
    | _ => none
  | .reset => some true
  | _ => none

/-- The walk mode a request is about, and whether it enables or disables it. -/
def walkModeEvent (x : Timed AppInput) : Option (WalkMode × Bool) :=
  match x.op with
  | .sportRequest request =>
    match sdk.sportApi? request.apiId32 with
    | some .visionWalk => (parseBoolParameter sdk request.parameter).map (Prod.mk .visionWalk)
    | some .classicWalkGo2 | some .classicWalkB2 =>
      (parseBoolParameter sdk request.parameter).map (Prod.mk .classicWalk)
    | some .fastWalk => (parseBoolParameter sdk request.parameter).map (Prod.mk .fastWalk)
    | some .freeWalkGo2 | some .freeWalkB2 => some (.freeWalk, true)
    | _ => none
  | _ => none

/-- The lock and the walk mode in effect. -/
structure LockTable where
  locked : Bool
  mode : WalkMode
  deriving DecidableEq

/-- Locked, and no walk mode, as at the start and after a reset. -/
def LockTable.init : LockTable := { locked := true, mode := .none }

/-- The table's entry for one input. Disabling a walk mode that is not in effect is no event. -/
def LockTable.step (t : LockTable) (x : Timed AppInput) : LockTable :=
  if x.op = .reset then .init
  else
    match walkModeEvent sdk x with
    | some (mode, true) => { locked := false, mode := mode }
    | some (mode, false) => if t.mode = mode then { locked := true, mode := .none } else t
    | none => { t with locked := (lockEvent sdk x).getD t.locked }

/-- The table folded over a history. -/
def lockTable (h : List (Timed AppInput)) : LockTable := run (LockTable.step sdk) .init h

/-- The table before the first input. -/
@[simp] theorem lockTable_nil : lockTable sdk [] = .init := rfl

/-- The last input is the last row applied. -/
@[simp] theorem lockTable_concat (h : List (Timed AppInput)) (x : Timed AppInput) :
    lockTable sdk (h ++ [x]) = (lockTable sdk h).step sdk x := run_concat _ _ _ _

/-- The input is a locking event of the table. -/
def LockTable.locks (t : LockTable) (x : Timed AppInput) : Prop :=
  lockEvent sdk x = some true ∧ (t.step sdk x).locked = true

end LockTable

/-- The lock and the walk mode among the settings. -/
def Settings.lockTable (t : Settings) : LockTable :=
  { locked := t.jointsLocked, mode := t.walkMode }

namespace App

variable {K : Type} [Field K] [LinearOrder K] [HasHypot K] (sdk : UnitreeSdk K) (app : App K)

omit [Field K] [LinearOrder K] [HasHypot K] in
/-- The table's entry for a walk mode is what `SetWalkMode` does. -/
theorem lockTable_step_walkMode (t : Settings) {now : Time} {request : Request}
    {mode : WalkMode} {enabled : Bool}
    (h : walkModeEvent sdk ⟨now, .sportRequest request⟩ = some (mode, enabled)) :
    t.lockTable.step sdk ⟨now, .sportRequest request⟩ =
      (t.setWalkMode mode enabled).lockTable := by
  rw [LockTable.step, if_neg (by simp), h]
  cases enabled
  · by_cases hmode : t.walkMode = mode <;>
      simp [Settings.lockTable, Settings.setWalkMode, hmode]
  · simp [Settings.lockTable, Settings.setWalkMode]

omit [Field K] [LinearOrder K] [HasHypot K] in
/-- The table's entry for a setting is what its operation does. -/
theorem lockTable_step_setting (t : Settings) {now : Time} {request : Request} {op : CmdVelOp}
    (h : SettingOf sdk request op) :
    t.lockTable.step sdk ⟨now, .sportRequest request⟩ = (t.apply op).lockTable := by
  cases op with
  | setContinuousMoveMode enabled =>
    obtain ⟨hapi, -⟩ := h
    simp [LockTable.step, walkModeEvent, lockEvent, Settings.lockTable, Settings.apply, hapi]
  | setSpeedLevel level =>
    obtain ⟨hapi, -⟩ := h
    simp [LockTable.step, walkModeEvent, lockEvent, Settings.lockTable, Settings.apply, hapi]
  | setGait gait =>
    obtain ⟨hapi, hgait⟩ := h
    have hstep : t.lockTable.step sdk ⟨now, .sportRequest request⟩ =
        { t.lockTable with locked :=
            (if gait = 0 then some true
              else if 1 ≤ gait ∧ gait ≤ 4 then some false else none).getD t.jointsLocked } := by
      simp [LockTable.step, walkModeEvent, lockEvent, Settings.lockTable, hapi, hgait]
    rw [hstep, Settings.apply]
    split_ifs <;> rfl
  | setVisionWalk enabled =>
    obtain ⟨hapi, hvalue⟩ := h
    exact lockTable_step_walkMode sdk t (by simp [walkModeEvent, hapi, hvalue])
  | setClassicWalk enabled =>
    obtain ⟨hapi | hapi, hvalue⟩ := h <;>
      exact lockTable_step_walkMode sdk t (by simp [walkModeEvent, hapi, hvalue])
  | setFastWalk enabled =>
    obtain ⟨hapi, hvalue⟩ := h
    exact lockTable_step_walkMode sdk t (by simp [walkModeEvent, hapi, hvalue])
  | setFreeWalk =>
    rcases h with hapi | hapi <;>
      simp [LockTable.step, walkModeEvent, Settings.lockTable, Settings.apply, hapi]
  | _ => exact absurd h id

omit [Field K] [LinearOrder K] [HasHypot K] in
/-- The table's entry for a sport request is what its operation does.

**Proof sketch.** Case analysis on the decoded command. The api id of each names its row of the
table, and the row says what the operation of the command does to lock and walk mode;
`lockTable_step_setting` does this for the commands with a value. -/
theorem lockTable_step_sportRequest (t : Settings) (now : Time) (request : Request) :
    t.lockTable.step sdk ⟨now, .sportRequest request⟩ =
      (t.applyIfSome (sportCommand sdk request).velOp).lockTable := by
  have hdecoded := decodedFrom_sportCommand sdk request
  cases hcmd : sportCommand sdk request with
  | lockAnd posture fsm =>
    rw [hcmd] at hdecoded
    cases posture with
    | standUp =>
      obtain ⟨hapi | hapi, -⟩ := hdecoded <;>
        simp [SportCommand.velOp, Settings.apply, Settings.lockTable, LockTable.step,
          walkModeEvent, lockEvent, hapi]
    | standDown =>
      rcases hdecoded with ⟨hapi, -⟩ | ⟨hapi, -⟩ <;>
        simp [SportCommand.velOp, Settings.apply, Settings.lockTable, LockTable.step,
          walkModeEvent, lockEvent, hapi]
    | walking => exact absurd hdecoded id
  | balanceStand =>
    rw [hcmd] at hdecoded
    have hapi : sdk.sportApi? request.apiId32 = some .balanceStand := hdecoded
    simp [SportCommand.velOp, Settings.apply, Settings.lockTable, LockTable.step,
      walkModeEvent, lockEvent, hapi]
  | stopMove =>
    rw [hcmd] at hdecoded
    have hapi : sdk.sportApi? request.apiId32 = some .stopMove := hdecoded
    simp [SportCommand.velOp, Settings.apply, LockTable.step, walkModeEvent, lockEvent, hapi]
  | move p =>
    rw [hcmd] at hdecoded
    have hapi : sdk.sportApi? request.apiId32 = some .move := hdecoded.1
    simp [SportCommand.velOp, Settings.apply, LockTable.step, walkModeEvent, lockEvent, hapi]
  | setting op =>
    rw [hcmd] at hdecoded
    exact lockTable_step_setting sdk t hdecoded
  | ignored =>
    rw [hcmd] at hdecoded
    simp only [DecodedFrom, List.mem_cons, List.not_mem_nil, or_false] at hdecoded
    have hnone : walkModeEvent sdk ⟨now, .sportRequest request⟩ = none ∧
        lockEvent sdk ⟨now, .sportRequest request⟩ = none := by
      rcases hdecoded with hapi | ⟨hapi, hvalue⟩ | ⟨hapi, hvalue⟩
      · simp [walkModeEvent, lockEvent, hapi]
      · rcases hapi with hapi | hapi <;> simp [walkModeEvent, lockEvent, hapi, hvalue]
      · rcases hapi with hapi | hapi | hapi | hapi | hapi <;>
          simp [walkModeEvent, lockEvent, hapi, hvalue]
    simp [SportCommand.velOp, LockTable.step, hnone]

/-- A step of the application is a step of the table.

**Proof sketch.** Sport requests are the lemma before. Motion switcher requests and the loop call
operations that touch neither lock nor walk mode, and a reset sets both to the table's start. -/
theorem lockTable_step (x : Timed AppInput) :
    (App.step sdk app x).1.cmdVelPublisher.settings.lockTable =
      app.cmdVelPublisher.settings.lockTable.step sdk x := by
  rw [step_settings]
  obtain ⟨now, op⟩ := x
  cases op with
  | sportRequest request => exact (lockTable_step_sportRequest sdk _ now request).symm
  | switcherRequest request =>
    have htable : ∀ t : LockTable, t.step sdk ⟨now, .switcherRequest request⟩ = t := by
      intro t
      simp [LockTable.step, walkModeEvent, lockEvent]
    rw [htable]
    cases hop : switcherOp sdk app.motionSwitcherBridge request with
    | none => simp [effect, hop]
    | some op =>
      obtain ⟨name, rfl⟩ := eq_setMotionModeName_of_switcherOp hop
      simp [effect, hop, Settings.apply, Settings.lockTable]
  | reset => simp [effect, Settings.apply, Settings.init, Settings.lockTable, LockTable.step,
      LockTable.init]
  | loop => simp [effect, Settings.apply, LockTable.step, walkModeEvent, lockEvent]

/-- The lock and the walk mode after a history are those of the table. -/
theorem lockTable_stateAfter (h : List (Timed AppInput)) :
    (stateAfter sdk h).cmdVelPublisher.settings.lockTable = lockTable sdk h := by
  induction h using List.reverseRecOn with
  | nil =>
    simp [Settings.lockTable, CmdVelPublisher.settings, App.init, CmdVelPublisher.init,
      LockTable.init]
  | append_singleton h x ih => rw [stateAfter_concat, lockTable_step, ih, lockTable_concat]

/-- **The lock table.** After every history the joints are locked as the table says, and after
every locking event the last message is zero.

**Proof sketch.** By induction on the history the table is what the settings say of lock and walk
mode, since every step of the application is a step of the table. After a locking event the joints
are locked, and in a consistent state that means that the last message is zero. -/
theorem lock_refines_table (sdk : UnitreeSdk ℝ) (h : List (Timed AppInput)) :
    (stateAfter sdk h).cmdVelPublisher.jointsLocked = (lockTable sdk h).locked ∧
      (stateAfter sdk h).cmdVelPublisher.walkMode = (lockTable sdk h).mode ∧
      ∀ pre x post, h = pre ++ x :: post → (lockTable sdk pre).locks sdk x →
        lastTwist (twists (App.after sdk (pre ++ [x])).trace) = 0 := by
  have hstate := lockTable_stateAfter sdk h
  refine ⟨congrArg LockTable.locked hstate, congrArg LockTable.mode hstate, ?_⟩
  rintro pre x post - ⟨-, hlocks⟩
  have hstate := lockTable_stateAfter sdk (pre ++ [x])
  rw [lockTable_concat] at hstate
  have hlocked : (stateAfter sdk (pre ++ [x])).cmdVelPublisher.jointsLocked = true := by
    rw [← hlocks]
    exact congrArg LockTable.locked hstate
  exact ((consistent_after sdk (pre ++ [x])).still_of_locked hlocked).2

/-- Disabling a walk mode that is not in effect does not lock the joints, other than the README's
table says. -/
theorem disable_other_walk_mode :
    let h : List (Timed AppInput) := [⟨0, .sportRequest (sampleRequest 1002 "")⟩,
      ⟨0, .sportRequest (sampleRequest 1101 "\x7b\"data\":false\x7d")⟩]
    (stateAfter (sampleSdk ℝ) h).cmdVelPublisher.jointsLocked = false ∧
      (latest (lockEvent (sampleSdk ℝ)) h).getD true = true := by
  exact ⟨rfl, rfl⟩

end App

/-! ## The speed cap -/

section Cap

variable {K : Type} (sdk : UnitreeSdk K)

/-- The README's cap for a mode name and a speed level. -/
def capFor [DivisionRing K] (name : String) (level : Int32) : K :=
  if name = "normal" ∨ name = "normal-w" then 6.0 else if level = 1 then 3.5 else 1.5

/-- The cap the publisher derives from the profile of a mode name is the README's. -/
theorem capOf_eq_capFor [Field K] (name : String) (level : Int32) :
    CmdVelPublisher.capOf (CmdVelPublisher.motionProfileFromModeName name) level =
      (capFor name level : K) := by
  unfold CmdVelPublisher.capOf CmdVelPublisher.motionProfileFromModeName capFor
    CmdVelPublisher.sportMaxLinearSpeed CmdVelPublisher.aiHighMaxLinearSpeed
    CmdVelPublisher.aiLowMaxLinearSpeed
  split_ifs <;> simp_all

/-- The level a SPEEDLEVEL request asks for. -/
def speedLevelEvent (x : Timed AppInput) : Option Int32 :=
  match x.op with
  | .sportRequest request =>
    if sdk.sportApi? request.apiId32 = some .speedLevel then
      parseIntParameter sdk request.parameter
    else none
  | _ => none

/-- The level last requested since the last reset, and -1 if there was none. -/
def speedLevelInEffect (h : List (Timed AppInput)) : Int32 :=
  (latest (speedLevelEvent sdk) (sinceLast isReset h)).getD (-1)

/-- No level is set at first. -/
@[simp] theorem speedLevelInEffect_nil : speedLevelInEffect sdk [] = -1 := rfl

/-- A reset clears the level, a SPEEDLEVEL sets it, and any other input keeps it. -/
theorem speedLevelInEffect_concat (h : List (Timed AppInput)) (x : Timed AppInput) :
    speedLevelInEffect sdk (h ++ [x]) =
      if isReset x then -1 else (speedLevelEvent sdk x).getD (speedLevelInEffect sdk h) :=
  getD_latest_sinceLast_concat _ _ _ _ _

/-- A request that is not a SPEEDLEVEL asks for no level. -/
theorem speedLevelEvent_eq_none {now : Time} {request : Request}
    (h : sdk.sportApi? request.apiId32 ≠ some .speedLevel) :
    speedLevelEvent sdk ⟨now, .sportRequest request⟩ = none := if_neg h

/-- A setting changes the level iff the request asks for one, and never the profile. -/
theorem settingOf_speedLevel (t : Settings) {now : Time} {request : Request} {op : CmdVelOp}
    (h : SettingOf sdk request op) :
    (t.apply op).motionProfile = t.motionProfile ∧
      (t.apply op).speedLevel =
        (speedLevelEvent sdk ⟨now, .sportRequest request⟩).getD t.speedLevel := by
  have hwalk : ∀ mode enabled, (t.setWalkMode mode enabled).motionProfile = t.motionProfile ∧
      (t.setWalkMode mode enabled).speedLevel = t.speedLevel := by
    intro mode enabled
    unfold Settings.setWalkMode
    split_ifs <;> exact ⟨rfl, rfl⟩
  cases op with
  | setSpeedLevel level =>
    obtain ⟨hapi, hlevel⟩ := h
    simp [Settings.apply, speedLevelEvent, hapi, hlevel]
  | setContinuousMoveMode enabled =>
    rw [speedLevelEvent_eq_none sdk (by simp [h.1])]
    exact ⟨rfl, rfl⟩
  | setGait gait =>
    rw [speedLevelEvent_eq_none sdk (by simp [h.1]), Settings.apply]
    split_ifs <;> exact ⟨rfl, rfl⟩
  | setVisionWalk enabled =>
    rw [speedLevelEvent_eq_none sdk (by simp [h.1])]
    exact hwalk _ _
  | setFreeWalk =>
    rw [speedLevelEvent_eq_none sdk (by rcases h with h | h <;> simp [h])]
    exact ⟨rfl, rfl⟩
  | setClassicWalk enabled =>
    rw [speedLevelEvent_eq_none sdk (by rcases h.1 with h | h <;> simp [h])]
    exact hwalk _ _
  | setFastWalk enabled =>
    rw [speedLevelEvent_eq_none sdk (by simp [h.1])]
    exact hwalk _ _
  | _ => exact absurd h id

end Cap

namespace App

section Cap

variable {K : Type} [Field K] [LinearOrder K] [HasHypot K] (sdk : UnitreeSdk K)

omit [Field K] [LinearOrder K] [HasHypot K] in
/-- A sport request changes the level iff it asks for one, and never the profile.

**Proof sketch.** Case analysis on the decoded command. SPEEDLEVEL with a value stores it, by
`settingOf_speedLevel`; no other command has an event of this kind, and none of their operations
touches level or profile. -/
theorem speedLevel_sportRequest (t : Settings) (now : Time) (request : Request) :
    let t' := t.applyIfSome (sportCommand sdk request).velOp
    t'.motionProfile = t.motionProfile ∧
      t'.speedLevel = (speedLevelEvent sdk ⟨now, .sportRequest request⟩).getD t.speedLevel := by
  intro t'
  have hdecoded := decodedFrom_sportCommand sdk request
  cases hcmd : sportCommand sdk request with
  | setting op =>
    rw [hcmd] at hdecoded
    have ht' : t' = t.apply op := by simp [t', hcmd, SportCommand.velOp]
    rw [ht']
    exact settingOf_speedLevel sdk t hdecoded
  | ignored =>
    rw [hcmd] at hdecoded
    simp only [DecodedFrom, List.mem_cons, List.not_mem_nil, or_false] at hdecoded
    have hnone : speedLevelEvent sdk ⟨now, .sportRequest request⟩ = none := by
      rcases hdecoded with hapi | ⟨-, hvalue⟩ | ⟨hapi, -⟩
      · exact speedLevelEvent_eq_none sdk (by simp [hapi])
      · simp [speedLevelEvent, hvalue]
      · exact speedLevelEvent_eq_none sdk (by rcases hapi with h | h | h | h | h <;> simp [h])
    simp [t', hcmd, SportCommand.velOp, hnone]
  | lockAnd posture fsm =>
    rw [hcmd] at hdecoded
    have hapi : sdk.sportApi? request.apiId32 ≠ some .speedLevel := by
      cases posture with
      | standUp => rcases hdecoded.1 with h | h <;> simp [h]
      | standDown => rcases hdecoded with ⟨h, -⟩ | ⟨h, -⟩ <;> simp [h]
      | walking => exact absurd hdecoded id
    rw [speedLevelEvent_eq_none sdk hapi]
    simp [t', hcmd, SportCommand.velOp, Settings.apply]
  | balanceStand =>
    rw [hcmd] at hdecoded
    have hapi : sdk.sportApi? request.apiId32 = some .balanceStand := hdecoded
    rw [speedLevelEvent_eq_none sdk (by simp [hapi])]
    simp [t', hcmd, SportCommand.velOp, Settings.apply]
  | stopMove =>
    rw [hcmd] at hdecoded
    have hapi : sdk.sportApi? request.apiId32 = some .stopMove := hdecoded
    rw [speedLevelEvent_eq_none sdk (by simp [hapi])]
    simp [t', hcmd, SportCommand.velOp, Settings.apply]
  | move p =>
    rw [hcmd] at hdecoded
    rw [speedLevelEvent_eq_none sdk (by simp [hdecoded.1])]
    simp [t', hcmd, SportCommand.velOp, Settings.apply]

omit [Field K] [LinearOrder K] [HasHypot K] in
/-- The mode name and the operation that follows from a motion switcher request fit together.

**Proof sketch.** Case analysis on the api id, and for the two mode changes on the answer. A granted
SELECT_MODE stores the name its parser found, and the event handler's parser finds the same one; a
granted RELEASE_MODE stores the empty name and passes `ai` on, which have the same profile. -/
theorem switcherOp_cases
    (hname : ∀ p m, sdk.fromJsonModeName p = some m → m.name ≠ "" →
      parseStringParameter sdk p "name" = some m.name)
    (s : MotionSwitcherBridge) (request : Request) :
    let s' := (s.buildInterceptResponseData sdk request.apiId32 request).1
    (switcherOp sdk s request = none ∧ s'.modeName = s.modeName) ∨
      ∃ name, switcherOp sdk s request = some (.setMotionModeName name) ∧
        CmdVelPublisher.motionProfileFromModeName name =
          CmdVelPublisher.motionProfileFromModeName s'.modeName := by
  intro s'
  have hbusy : ¬ sdk.errBusy = sportStatusSuccess := sdk.errBusy_ne_zero
  have hparameter : ¬ sdk.errApiParameter = sportStatusSuccess := sdk.errApiParameter_ne_zero
  cases hapi : sdk.switcherApi? request.apiId32 with
  | none =>
    refine Or.inl ⟨by simp [switcherOp, hapi], ?_⟩
    simp [s', buildInterceptResponseData_of_none sdk hapi]
  | some api =>
    have hdata := buildInterceptResponseData_switcherApiId sdk s request api
    rw [sdk.switcherApi?_eq_some_iff.mp hapi] at hdata
    cases api with
    | selectMode =>
      rcases selectMode_cases sdk s request with ⟨-, h⟩ | ⟨-, -, h⟩ | ⟨-, m, hparse, hne, h⟩
      · exact Or.inl ⟨by simp [switcherOp, hapi, h, hbusy], by simp [s', hdata, h]⟩
      · exact Or.inl ⟨by simp [switcherOp, hapi, h, hparameter], by simp [s', hdata, h]⟩
      · refine Or.inr ⟨m.name, ?_, by simp [s', hdata, h]⟩
        simp [switcherOp, hapi, h, hname request.parameter m hparse hne]
    | releaseMode =>
      rcases releaseMode_cases sdk s with ⟨-, h⟩ | ⟨-, h⟩
      · exact Or.inl ⟨by simp [switcherOp, hapi, h, hbusy], by simp [s', hdata, h]⟩
      · refine Or.inr ⟨"ai", by simp [switcherOp, hapi, h], ?_⟩
        simp [s', hdata, h, CmdVelPublisher.motionProfileFromModeName]
    | setSilent =>
      refine Or.inl ⟨by simp [switcherOp, hapi], ?_⟩
      simp only [s', hdata, MotionSwitcherBridge.setSilent]
      cases sdk.fromJsonSilent request.parameter <;> rfl
    | checkMode | getSilent => exact Or.inl ⟨by simp [switcherOp, hapi], by simp [s', hdata]⟩

/-- Profile and level agree with the stored mode name and the level in effect.

**Proof sketch.** Induction on the history from its end. A sport request changes the level as the
event says and leaves the profile, a motion switcher request changes name and profile together by
`switcherOp_cases`, a reset sets all to the defaults, and the loop changes nothing. -/
theorem profile_level_stateAfter
    (hname : ∀ p m, sdk.fromJsonModeName p = some m → m.name ≠ "" →
      parseStringParameter sdk p "name" = some m.name) (h : List (Timed AppInput)) :
    (stateAfter sdk h).cmdVelPublisher.settings.motionProfile =
        CmdVelPublisher.motionProfileFromModeName
          (stateAfter sdk h).motionSwitcherBridge.modeName ∧
      (stateAfter sdk h).cmdVelPublisher.settings.speedLevel = speedLevelInEffect sdk h := by
  induction h using List.reverseRecOn with
  | nil => exact ⟨rfl, rfl⟩
  | append_singleton h x ih =>
    rw [stateAfter_concat, speedLevelInEffect_concat, step_settings, step_motionSwitcherBridge]
    set app := stateAfter sdk h
    obtain ⟨hprofile, hlevel⟩ := ih
    obtain ⟨now, op⟩ := x
    cases op with
    | sportRequest request =>
      have hstep := speedLevel_sportRequest sdk app.cmdVelPublisher.settings now request
      rw [hprofile, hlevel] at hstep
      simpa [effect, isReset] using hstep
    | switcherRequest request =>
      have hlevel' : speedLevelEvent sdk ⟨now, .switcherRequest request⟩ = none := rfl
      rcases switcherOp_cases sdk hname app.motionSwitcherBridge request with
        ⟨hop, hmode⟩ | ⟨name, hop, hmode⟩
      · simpa [effect, isReset, hop, hlevel', hmode] using ⟨hprofile, hlevel⟩
      · simpa [effect, isReset, hop, hlevel', Settings.apply, hmode] using hlevel
    | reset =>
      simp [effect, isReset, Settings.apply, Settings.init, MotionSwitcherBridge.resetToDefaults,
        CmdVelPublisher.motionProfileFromModeName]
    | loop =>
      have hlevel' : speedLevelEvent sdk ⟨now, .loop⟩ = none := rfl
      simpa [effect, isReset, hlevel', Settings.apply] using ⟨hprofile, hlevel⟩

end Cap

/-- **The speed cap.** If the two parsers of a SELECT_MODE parameter find the same name in it,
then after every history the cap in use is the one for the stored mode name and the level in
effect, and the last message is within it.

**Proof sketch.** By `Consistent` the cap is the one of profile and level, and
`profile_level_stateAfter` says which these are. The last message is zero or the velocity of the
active move, which is limited to the cap. -/
theorem cap_agrees (sdk : UnitreeSdk ℝ)
    (hname : ∀ p m, sdk.fromJsonModeName p = some m → m.name ≠ "" →
      parseStringParameter sdk p "name" = some m.name) (h : List (Timed AppInput)) :
    let cap := capFor (stateAfter sdk h).motionSwitcherBridge.modeName (speedLevelInEffect sdk h)
    let last := lastTwist (twists (App.after sdk h).trace)
    (stateAfter sdk h).cmdVelPublisher.maxLinearSpeed = cap ∧
      hypot last.linear.x last.linear.y ≤ cap := by
  intro cap last
  have hcons := consistent_after sdk h
  obtain ⟨hprofile, hlevel⟩ := profile_level_stateAfter sdk hname h
  have hcap : (stateAfter sdk h).cmdVelPublisher.maxLinearSpeed = cap := by
    calc (stateAfter sdk h).cmdVelPublisher.maxLinearSpeed
        = CmdVelPublisher.capOf (stateAfter sdk h).cmdVelPublisher.settings.motionProfile
            (stateAfter sdk h).cmdVelPublisher.settings.speedLevel := hcons.cap_eq
      _ = cap := by rw [hprofile, hlevel, capOf_eq_capFor]
  refine ⟨hcap, ?_⟩
  have hlast : last = _ := hcons.lastTwist_eq
  cases hactive : (stateAfter sdk h).cmdVelPublisher.hasActiveMove with
  | false =>
    have hzero : last = 0 := by simpa [hactive] using hlast
    have hmagnitude : hypot last.linear.x last.linear.y = 0 := by
      rw [hzero]
      exact hypot_zero_zero
    rw [hmagnitude, ← hcap]
    exact hcons.cap_pos.le
  | true =>
    have hmove : last = Twist.ofVelocity (stateAfter sdk h).cmdVelPublisher.lastVelocity := by
      simpa [hactive] using hlast
    rw [hmove, ← hcap]
    exact hcons.speed_le hactive

/-- The sample SDK's two parsers find the same names. -/
theorem sampleSdk_name {K : Type} [IntCast K] (p : String) (m : JsonizeModeName)
    (h : (sampleSdk K).fromJsonModeName p = some m) :
    parseStringParameter (sampleSdk K) p "name" = some m.name := by
  have hempty : p.isEmpty = false := by
    by_contra hne
    obtain rfl : p = "" := by simpa using hne
    have hnone : (sampleSdk K).fromJsonModeName "" = none := rfl
    rw [hnone] at h
    exact absurd h (by simp)
  have hlookup : (sampleSdk K).fromJsonString p = some (.map [("name", .text m.name)]) := by
    simp only [sampleSdk] at h ⊢
    split at h
    · rename_i name hname
      rw [hname, ← Option.some.inj h]
    · exact absurd h (by simp)
  have hmap : parseJsonMap (sampleSdk K) p = some (.map [("name", .text m.name)]) := by
    rw [parseJsonMap, hempty, hlookup]
    rfl
  rw [parseStringParameter, hmap]
  rfl

/-- A fast MOVE in the sport profile. -/
theorem cap_agrees_sport :
    let h : List (Timed AppInput) :=
      [⟨0, .switcherRequest (sampleRequest 1002 "\x7b\"name\":\"normal\"\x7d")⟩,
        ⟨0, .sportRequest (sampleRequest 1002 "")⟩,
        ⟨0, .sportRequest (sampleRequest 1008 "\x7b\"x\":1\x7d")⟩]
    let cap := capFor (stateAfter (sampleSdk ℝ) h).motionSwitcherBridge.modeName
      (speedLevelInEffect (sampleSdk ℝ) h)
    let last := lastTwist (twists (App.after (sampleSdk ℝ) h).trace)
    (stateAfter (sampleSdk ℝ) h).cmdVelPublisher.maxLinearSpeed = cap ∧
      hypot last.linear.x last.linear.y ≤ cap :=
  cap_agrees (sampleSdk ℝ) (fun p m hm _ => sampleSdk_name p m hm) _

end App

end SdkEventBridge
