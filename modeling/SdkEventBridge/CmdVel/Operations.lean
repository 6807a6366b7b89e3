import SdkEventBridge.Library.Run
import SdkEventBridge.Model.CmdVelPublisher

set_option relaxedAutoImplicit false
set_option autoImplicit false

/-!
# What one operation of the velocity publisher can do

Every operation of `CmdVelPublisher` does one of three things to the commanded velocity: it
*stops* the robot, it *accepts* a MOVE, or it lets the commanded velocity *carry on*, possibly
under a new speed cap. This file proves that trichotomy (`apply_cases`, from `apply_of_stops`,
`apply_of_accepts` and `apply_of_carriesOn`); the rest of the development cites it and does not
unfold the operations again.

## Main definitions

* `MoveVelocity.speed`, `MoveVelocity.limit` — linear magnitude, and its reduction to a cap.
* `MoveVelocity.scaled` — the linear part multiplied by a factor.
* `Settings`, `Settings.apply` — the fields that are neither velocity nor clock, on their own.
* `CmdVelPublisher.stops`, `CmdVelPublisher.accepts` — the first two of the three.
* `CmdVelPublisher.Consistent` — how the publisher's fields agree with what it has published.

## Main results

* `MoveVelocity.limit_limit` — limiting twice is limiting once, to the smaller cap.
* `CmdVelPublisher.apply_of_stops`, `apply_of_accepts`, `apply_of_carriesOn`, `apply_cases` — the
  trichotomy.
* `CmdVelPublisher.settings_apply` — what an operation does to the settings.
* `CmdVelPublisher.Consistent.apply` — every operation keeps `Consistent`.
-/

namespace SdkEventBridge

open PlanarNorm

/-! ## Limiting a velocity -/

namespace MoveVelocity

variable {K : Type} [Field K] [LinearOrder K] [HasHypot K]

/-- The linear magnitude. -/
def speed (v : MoveVelocity K) : K := hypot v.vx v.vy

/-- The velocity with its linear part reduced to magnitude at most `c`. -/
def limit (c : K) (v : MoveVelocity K) : MoveVelocity K :=
  { vx := v.vx * clampScale c v.speed, vy := v.vy * clampScale c v.speed, vyaw := v.vyaw }

/-- The zero velocity is within every cap. -/
@[simp] theorem limit_zero (c : K) : (0 : MoveVelocity K).limit c = 0 := by
  ext <;> simp [limit]

/-- The velocity with its linear part multiplied by `s`. -/
def scaled (s : K) (v : MoveVelocity K) : MoveVelocity K :=
  { vx := s * v.vx, vy := s * v.vy, vyaw := v.vyaw }

/-- A velocity within the cap is not changed. -/
theorem limit_of_speed_le {c : K} {v : MoveVelocity K} (h : v.speed ≤ c) : v.limit c = v := by
  ext <;> simp [limit, clampScale_of_le h]

variable [IsStrictOrderedRing K] [LawfulHypot K] {a b c : K} {v : MoveVelocity K}

/-- The zero velocity has no speed. -/
@[simp] theorem speed_zero : (0 : MoveVelocity K).speed = 0 := hypot_zero_zero

/-- Limiting clamps the speed to the cap. -/
theorem speed_limit (hc : 0 < c) : (v.limit c).speed = min v.speed c := by
  rw [speed, limit, hypot_mul (clampScale_pos hc).le]
  exact clampScale_mul_self hc

/-- A limited velocity is within the cap. -/
theorem speed_limit_le (hc : 0 < c) : (v.limit c).speed ≤ c := by
  rw [speed_limit hc]
  exact min_le_right _ _

/-- Limiting multiplies the linear part by `min 1 (c / speed)`. -/
theorem limit_eq_scaled (hc : 0 < c) : v.limit c = v.scaled (min 1 (c / v.speed)) := by
  rcases (hypot_nonneg v.vx v.vy).eq_or_lt with h0 | hpos
  · -- A velocity without a linear part is the same under every factor.
    have hspeed : v.speed = 0 := h0.symm
    obtain ⟨hx, hy⟩ := hypot_eq_zero.mp hspeed
    rw [limit_of_speed_le (hspeed.le.trans hc.le)]
    ext <;> simp [scaled, hx, hy]
  · have hscale : clampScale c v.speed = min 1 (c / v.speed) := clampScale_eq_min hpos
    rw [limit, scaled, hscale, mul_comm v.vx, mul_comm v.vy]

omit [LawfulHypot K] in
/-- Limiting to a positive cap stops nothing and starts nothing. -/
theorem limit_eq_zero (hc : 0 < c) : v.limit c = 0 ↔ v = 0 := by
  have hs : clampScale c v.speed ≠ 0 := (clampScale_pos hc).ne'
  constructor
  · intro h
    have hx : v.vx * clampScale c v.speed = 0 := congrArg MoveVelocity.vx h
    have hy : v.vy * clampScale c v.speed = 0 := congrArg MoveVelocity.vy h
    have hw : v.vyaw = 0 := congrArg MoveVelocity.vyaw h
    exact MoveVelocity.ext ((mul_eq_zero.mp hx).resolve_right hs)
      ((mul_eq_zero.mp hy).resolve_right hs) hw
  · rintro rfl
    exact limit_zero c

/-- Limiting twice is limiting once, to the smaller cap. -/
theorem limit_limit (ha : 0 < a) (hb : 0 < b) : (v.limit a).limit b = v.limit (min a b) := by
  have hspeed : (v.limit a).speed = v.speed * clampScale a v.speed :=
    hypot_mul (clampScale_pos ha).le _ _
  have hscale := clampScale_comp (h := v.speed) ha hb
  ext
  · simp only [limit] at hspeed ⊢
    rw [hspeed, mul_assoc, hscale]
  · simp only [limit] at hspeed ⊢
    rw [hspeed, mul_assoc, hscale]
  · rfl

omit [HasHypot K] [LawfulHypot K] in
/-- The handler's test for motion is a test for a nonzero velocity. -/
theorem hasMotion_iff' : (0 < |v.vx| ∨ 0 < |v.vy| ∨ 0 < |v.vyaw|) ↔ v ≠ 0 := by
  rw [Ne, MoveVelocity.ext_iff]
  simp only [abs_pos, zero_vx, zero_vy, zero_vyaw]
  tauto

end MoveVelocity

/-! ## Settings -/

/-- The settings of the publisher: what is not velocity, clock or channel. -/
structure Settings where
  continuousMoveMode : Bool
  jointsLocked : Bool
  walkMode : WalkMode
  motionProfile : MotionProfile
  speedLevel : Int32
  deriving DecidableEq

namespace Settings

/-- The settings after construction and after a reset. -/
def init : Settings where
  continuousMoveMode := false
  jointsLocked := true
  walkMode := .none
  motionProfile := .ai
  speedLevel := -1

variable (t : Settings)

/-- `SetWalkMode` on the settings. -/
def setWalkMode (mode : WalkMode) (enabled : Bool) : Settings :=
  if enabled then { t with jointsLocked := false, walkMode := mode }
  else if t.walkMode = mode then { t with jointsLocked := true, walkMode := .none } else t

/-- An operation of the publisher on the settings. -/
def apply : CmdVelOp → Settings
  | .setContinuousMoveMode enabled => { t with continuousMoveMode := enabled }
  | .setSpeedLevel level => { t with speedLevel := level }
  | .setMotionModeName name =>
    { t with motionProfile := CmdVelPublisher.motionProfileFromModeName name }
  | .resetToDefaults => .init
  | .lockJoints => { t with jointsLocked := true }
  | .unlockJoints => { t with jointsLocked := false }
  | .setGait gait =>
    if gait = 0 then { t with jointsLocked := true }
    else if 1 ≤ gait ∧ gait ≤ 4 then { t with jointsLocked := false } else t
  | .setVisionWalk enabled => t.setWalkMode .visionWalk enabled
  | .setFreeWalk => { t with jointsLocked := false, walkMode := .freeWalk }
  | .setClassicWalk enabled => t.setWalkMode .classicWalk enabled
  | .setFastWalk enabled => t.setWalkMode .fastWalk enabled
  | .handleMove _ | .handleStop | .tick => t

/-- The same for an operation that need not be there. -/
def applyIfSome : Option CmdVelOp → Settings
  | some op => t.apply op
  | none => t

/-- An operation that is there is made. -/
@[simp] theorem applyIfSome_some (op : CmdVelOp) : t.applyIfSome (some op) = t.apply op := rfl

/-- Without an operation nothing changes. -/
@[simp] theorem applyIfSome_none : t.applyIfSome none = t := rfl

end Settings

namespace CmdVelPublisher

/-! ## The operations, evaluated -/

section Evaluated

variable {K : Type} [Field K] (s : CmdVelPublisher K)

/-- The cap `ApplyMaxLinearSpeed` derives from profile and level. -/
def capOf (profile : MotionProfile) (level : Int32) : K :=
  if profile = .sport then sportMaxLinearSpeed
  else if level = 1 then aiHighMaxLinearSpeed else aiLowMaxLinearSpeed

/-- Every cap of the table is positive. -/
theorem capOf_pos [LinearOrder K] [IsStrictOrderedRing K] (profile : MotionProfile)
    (level : Int32) : (0 : K) < capOf profile level := by
  unfold capOf sportMaxLinearSpeed aiHighMaxLinearSpeed aiLowMaxLinearSpeed
  split_ifs <;> norm_num

/-- `ApplyMaxLinearSpeed` takes the cap from the table. -/
theorem applyMaxLinearSpeed_eq :
    s.applyMaxLinearSpeed = { s with maxLinearSpeed := capOf s.motionProfile s.speedLevel } := by
  unfold applyMaxLinearSpeed capOf
  split_ifs <;> rfl

/-- `ApplySpeedLimit` limits a velocity to the cap in use. -/
theorem applySpeedLimit_eq [LinearOrder K] [HasHypot K] (v : MoveVelocity K) :
    s.applySpeedLimit v = v.limit s.maxLinearSpeed := by
  by_cases h : s.maxLinearSpeed < hypot v.vx v.vy ∧ 0 < hypot v.vx v.vy
  · have hscale : clampScale s.maxLinearSpeed v.speed = s.maxLinearSpeed / hypot v.vx v.vy :=
      if_pos h
    simp only [applySpeedLimit, if_pos h, MoveVelocity.limit, hscale]
  · have hscale : clampScale s.maxLinearSpeed v.speed = 1 := if_neg h
    simp only [applySpeedLimit, if_neg h, MoveVelocity.limit, hscale, mul_one]

/-- `PublishMove` writes one message and leaves the channel initialised. -/
@[simp] theorem publishMove_eq (v : MoveVelocity K) :
    s.publishMove v = ({ s with channelInitialized := true }, [Twist.ofVelocity v]) := by
  unfold publishMove
  cases h : s.channelInitialized
  · simp
  · cases s; simp_all

/-- `PublishStop` writes the zero message and leaves the channel initialised. -/
@[simp] theorem publishStop_eq :
    s.publishStop = ({ s with channelInitialized := true }, [0]) := by
  simp [publishStop]

omit [Field K] in
/-- `Tick` expires on an active move with unlocked joints, in default mode, a second after the
clock was restarted. -/
theorem tickExpires_iff {t : Time} :
    s.tickExpires t = true ↔ s.jointsLocked = false ∧ s.continuousMoveMode = false ∧
      s.hasActiveMove = true ∧ s.lastMoveTime ≤ t - moveStopTimeout := by
  simp only [tickExpires, Bool.and_eq_true, Bool.not_eq_true', Bool.or_eq_false_iff,
    Bool.not_eq_false', decide_eq_false_iff_not, not_lt, and_assoc]
  rw [le_sub_comm]

/-- `Tick` stops exactly when its three tests and the timeout say so. -/
theorem tick_eq (now : Time) :
    s.tick now = if s.tickExpires now then publishStop { s with hasActiveMove := false }
      else (s, []) := by
  by_cases hearly : (s.jointsLocked || s.continuousMoveMode || !s.hasActiveMove) = true
  · simp [tick, tickExpires, hearly]
  · by_cases htime : now - s.lastMoveTime < moveStopTimeout
    · simp [tick, tickExpires, htime]
    · simp [tick, tickExpires, htime, hearly]

end Evaluated

variable {K : Type} [Field K] [LinearOrder K] [HasHypot K] (s : CmdVelPublisher K)

/-! ## Re-limiting the active move -/

/-- What `SetSpeedLevel` and `SetMotionModeName` do once the cap is set: limit the active move
again and publish it. -/
def relimit : CmdVelPublisher K × List (Twist K) :=
  if !s.jointsLocked && s.hasActiveMove then
    ({ s with
        channelInitialized := true
        lastVelocity := s.lastVelocity.limit s.maxLinearSpeed },
      [Twist.ofVelocity (s.lastVelocity.limit s.maxLinearSpeed)])
  else (s, [])

/-- `SetSpeedLevel` in the sport profile and outside of it. -/
theorem setSpeedLevel_eq (level : Int32) :
    s.setSpeedLevel level =
      if s.motionProfile = .sport then ({ s with speedLevel := level }, [])
      else relimit { s with
        speedLevel := level, maxLinearSpeed := capOf s.motionProfile level } := by
  simp [setSpeedLevel, relimit, applyMaxLinearSpeed_eq, applySpeedLimit_eq]

/-- `SetMotionModeName` with the profile in use and with the other one. -/
theorem setMotionModeName_eq (name : String) :
    s.setMotionModeName name =
      if s.motionProfile = motionProfileFromModeName name then (s, [])
      else relimit { s with
        motionProfile := motionProfileFromModeName name
        maxLinearSpeed := capOf (motionProfileFromModeName name) s.speedLevel } := by
  simp [setMotionModeName, relimit, applyMaxLinearSpeed_eq, applySpeedLimit_eq]

/-! ## The trichotomy -/

/-- The call stops the robot: a lock, a stop, a reset, or a `Tick` that finds the timeout
expired. -/
def stops (now : Time) : CmdVelOp → Bool
  | .lockJoints | .handleStop | .resetToDefaults => true
  | .setGait gait => gait == 0
  | .setVisionWalk enabled => !enabled && s.walkMode == .visionWalk
  | .setClassicWalk enabled => !enabled && s.walkMode == .classicWalk
  | .setFastWalk enabled => !enabled && s.walkMode == .fastWalk
  | .tick => s.tickExpires now
  | .setContinuousMoveMode _ | .setSpeedLevel _ | .setMotionModeName _ | .unlockJoints
  | .setFreeWalk | .handleMove _ => false

/-- The call is a MOVE handled with the joints unlocked. -/
def accepts : CmdVelOp → Bool
  | .handleMove _ => !s.jointsLocked
  | _ => false

omit [Field K] [LinearOrder K] [HasHypot K] in
/-- What is accepted is a MOVE with unlocked joints. -/
theorem accepts_iff {op : CmdVelOp} :
    s.accepts op = true ↔ ∃ p, op = .handleMove p ∧ s.jointsLocked = false := by
  cases op <;> simp [accepts]

variable (sdk : UnitreeSdk K) (now : Time)

/-- A stopping call publishes one zero message and ends the active move. -/
theorem apply_of_stops {op : CmdVelOp} (h : s.stops now op = true) :
    (s.apply sdk now op).2 = [0] ∧ (s.apply sdk now op).1.hasActiveMove = false := by
  cases op <;>
    simp_all [stops, apply, lockJoints, handleStop, resetToDefaults, setGait, setVisionWalk,
      setClassicWalk, setFastWalk, setWalkMode, tick_eq]

/-- An accepted MOVE becomes the active move and is published under the current cap. -/
theorem apply_of_accepts {p : String} (h : s.jointsLocked = false) :
    s.apply sdk now (.handleMove p) =
      ({ s with
          channelInitialized := true
          lastVelocity := (parseMoveParameter sdk p).limit s.maxLinearSpeed
          lastMoveTime := now
          hasActiveMove := true },
        [Twist.ofVelocity ((parseMoveParameter sdk p).limit s.maxLinearSpeed)]) := by
  simp [apply, handleMove, acceptMove, h, applySpeedLimit_eq]

/-- The commanded velocity carries on from `s` to `s'`: the move stays active or inactive,
nothing gets locked, and either nothing is published and an active move keeps velocity and cap,
or the active move is limited to the new cap and published again. -/
structure CarriesOn (s s' : CmdVelPublisher K) (out : List (Twist K)) : Prop where
  hasActiveMove_eq : s'.hasActiveMove = s.hasActiveMove
  unlocked : s.jointsLocked = false → s'.jointsLocked = false
  velocity :
    (out = [] ∧ s'.lastVelocity = s.lastVelocity ∧
      (s.jointsLocked = false → s.hasActiveMove = true →
        s'.maxLinearSpeed = s.maxLinearSpeed)) ∨
    (s.hasActiveMove = true ∧ s'.lastVelocity = s.lastVelocity.limit s'.maxLinearSpeed ∧
      out = [Twist.ofVelocity s'.lastVelocity])

/-- Re-limiting carries on from every state with the same move and lock. -/
theorem carriesOn_relimit {s₀ : CmdVelPublisher K} (hactive : s.hasActiveMove = s₀.hasActiveMove)
    (hlock : s.jointsLocked = s₀.jointsLocked) (hvel : s.lastVelocity = s₀.lastVelocity) :
    CarriesOn s₀ s.relimit.1 s.relimit.2 := by
  cases hl : s₀.jointsLocked <;> cases ha : s₀.hasActiveMove <;>
    constructor <;> simp [relimit, hactive, hlock, hvel, hl, ha]

/-- Every call that neither stops nor accepts carries on.

**Proof sketch.** Case analysis on the operation. Two change the cap and limit the velocity again,
by `carriesOn_relimit`; all others leave move, velocity and cap as they are, and a
`SetWalkMode(false)`, `SetGait`, MOVE or `Tick` that would do more stops or accepts. -/
theorem apply_of_carriesOn {op : CmdVelOp} (hstop : s.stops now op = false)
    (haccept : s.accepts op = false) :
    CarriesOn s (s.apply sdk now op).1 (s.apply sdk now op).2 := by
  have hsame : ∀ s' : CmdVelPublisher K, s'.hasActiveMove = s.hasActiveMove →
      (s.jointsLocked = false → s'.jointsLocked = false) → s'.lastVelocity = s.lastVelocity →
      s'.maxLinearSpeed = s.maxLinearSpeed → CarriesOn s s' [] := fun s' h1 h2 h3 h4 =>
    ⟨h1, h2, Or.inl ⟨rfl, h3, fun _ _ => h4⟩⟩
  have hwalk : ∀ mode enabled, (!enabled && s.walkMode == mode) = false →
      CarriesOn s (s.setWalkMode mode enabled).1 (s.setWalkMode mode enabled).2 := by
    intro mode enabled h
    cases enabled
    · have hne : s.walkMode ≠ mode := by simpa using h
      rw [setWalkMode, if_neg (by decide), if_neg hne]
      exact hsame s rfl id rfl rfl
    · exact hsame _ rfl (fun _ => rfl) rfl rfl
  cases op with
  | setContinuousMoveMode enabled => cases enabled <;> exact hsame _ rfl id rfl rfl
  | setSpeedLevel level =>
    rw [apply, setSpeedLevel_eq]
    split_ifs
    · exact hsame _ rfl id rfl rfl
    · exact carriesOn_relimit _ rfl rfl rfl
  | setMotionModeName name =>
    rw [apply, setMotionModeName_eq]
    split_ifs
    · exact hsame _ rfl id rfl rfl
    · exact carriesOn_relimit _ rfl rfl rfl
  | resetToDefaults => simp [stops] at hstop
  | lockJoints => simp [stops] at hstop
  | unlockJoints => exact hsame _ rfl (fun _ => rfl) rfl rfl
  | setGait gait =>
    have hne : gait ≠ 0 := by simpa [stops] using hstop
    rw [apply, setGait, if_neg hne]
    split_ifs
    · exact hsame _ rfl (fun _ => rfl) rfl rfl
    · exact hsame _ rfl id rfl rfl
  | setVisionWalk enabled => exact hwalk _ _ hstop
  | setFreeWalk => exact hsame _ rfl (fun _ => rfl) rfl rfl
  | setClassicWalk enabled => exact hwalk _ _ hstop
  | setFastWalk enabled => exact hwalk _ _ hstop
  | handleMove p =>
    have hlocked : s.jointsLocked = true := by simpa [accepts] using haccept
    rw [apply, handleMove, if_pos hlocked]
    exact hsame s rfl id rfl rfl
  | handleStop => simp [stops] at hstop
  | tick =>
    have hexp : ¬ s.tickExpires now = true := by simpa [stops] using hstop
    rw [apply, tick_eq, if_neg hexp]
    exact hsame s rfl id rfl rfl

/-- **The trichotomy.** A call stops the robot, is a MOVE that finds the joints unlocked, or
carries on.

**Proof sketch.** By whether the call stops and, if not, whether it accepts; each case is the lemma
on calls of this kind. -/
theorem apply_cases (op : CmdVelOp) :
    ((s.apply sdk now op).2 = [0] ∧ (s.apply sdk now op).1.hasActiveMove = false) ∨
    (∃ p, op = .handleMove p ∧ s.jointsLocked = false) ∨
    CarriesOn s (s.apply sdk now op).1 (s.apply sdk now op).2 := by
  by_cases hstop : s.stops now op = true
  · exact Or.inl (s.apply_of_stops sdk now hstop)
  by_cases haccept : s.accepts op = true
  · exact Or.inr (Or.inl (s.accepts_iff.mp haccept))
  · exact Or.inr (Or.inr (s.apply_of_carriesOn sdk now (by simpa using hstop)
      (by simpa using haccept)))

/-- Only a MOVE handled with unlocked joints begins a move. -/
theorem apply_inactive {op : CmdVelOp} (h : s.hasActiveMove = false)
    (hop : ∀ p, op = .handleMove p → s.jointsLocked = true) :
    (s.apply sdk now op).1.hasActiveMove = false := by
  rcases s.apply_cases sdk now op with ⟨-, hidle⟩ | ⟨p, rfl, hunlocked⟩ | hon
  · exact hidle
  · rw [hop p rfl] at hunlocked
    exact absurd hunlocked (by decide)
  · exact hon.hasActiveMove_eq.trans h

/-! ## The settings -/

/-- The fields that operations set without regard to velocities and the clock. -/
def settings : Settings where
  continuousMoveMode := s.continuousMoveMode
  jointsLocked := s.jointsLocked
  walkMode := s.walkMode
  motionProfile := s.motionProfile
  speedLevel := s.speedLevel

/-- **Settings.** What an operation does to the settings depends on the settings only.

**Proof sketch.** Case analysis on the operation, after two facts on the parts that several share:
`SetWalkMode` acts on the settings as its own description does, and limiting again touches none of
them. -/
theorem settings_apply (op : CmdVelOp) :
    (s.apply sdk now op).1.settings = s.settings.apply op := by
  have hwalk : ∀ mode enabled,
      (s.setWalkMode mode enabled).1.settings = s.settings.setWalkMode mode enabled := by
    intro mode enabled
    unfold setWalkMode Settings.setWalkMode
    split_ifs <;> simp_all [settings, unlockJoints, lockJoints]
  have hrelimit : ∀ s' : CmdVelPublisher K, s'.relimit.1.settings = s'.settings := by
    intro s'
    unfold relimit
    split_ifs <;> rfl
  cases op with
  | setContinuousMoveMode enabled => cases enabled <;> rfl
  | setSpeedLevel level =>
    rw [apply, setSpeedLevel_eq]
    split_ifs
    · rfl
    · exact hrelimit _
  | setMotionModeName name =>
    rw [apply, setMotionModeName_eq]
    split_ifs with hsame
    · simp [settings, Settings.apply, hsame]
    · exact hrelimit _
  | setGait gait =>
    simp only [apply, setGait, Settings.apply]
    split_ifs <;> simp [settings, unlockJoints, lockJoints]
  | setVisionWalk enabled => exact hwalk _ _
  | setClassicWalk enabled => exact hwalk _ _
  | setFastWalk enabled => exact hwalk _ _
  | handleMove p =>
    simp only [apply, handleMove, acceptMove, publishMove_eq]
    split_ifs <;> rfl
  | tick =>
    simp only [apply, tick_eq, publishStop_eq]
    split_ifs <;> rfl
  | resetToDefaults => simp [apply, resetToDefaults, settings, Settings.apply, Settings.init]
  | lockJoints => simp [apply, lockJoints, settings, Settings.apply]
  | handleStop => simp [apply, handleStop, settings, Settings.apply]
  | unlockJoints => rfl
  | setFreeWalk => rfl

/-! ## Fields and published messages agree -/

/-- The cap in use is the one derived from profile and level, whatever the call.

**Proof sketch.** Limiting again leaves profile, level and cap alone. The two operations that change
profile or level store the cap of the new pair, a reset stores that of the defaults, and no other
operation touches the three. -/
theorem apply_cap {op : CmdVelOp} (h : s.maxLinearSpeed = capOf s.motionProfile s.speedLevel) :
    (s.apply sdk now op).1.maxLinearSpeed =
      capOf (s.apply sdk now op).1.motionProfile (s.apply sdk now op).1.speedLevel := by
  have hrelimit : ∀ s' : CmdVelPublisher K,
      s'.maxLinearSpeed = capOf s'.motionProfile s'.speedLevel →
      s'.relimit.1.maxLinearSpeed = capOf s'.relimit.1.motionProfile s'.relimit.1.speedLevel := by
    intro s' h'
    unfold relimit
    split_ifs <;> exact h'
  cases op with
  | setSpeedLevel level =>
    rw [apply, setSpeedLevel_eq]
    split_ifs with hsport
    · rw [h, hsport]; rfl
    · exact hrelimit _ rfl
  | setMotionModeName name =>
    rw [apply, setMotionModeName_eq]
    split_ifs
    · exact h
    · exact hrelimit _ rfl
  | setContinuousMoveMode enabled => cases enabled <;> exact h
  | resetToDefaults => simp [apply, resetToDefaults, capOf]
  | _ =>
    simp only [apply, lockJoints, unlockJoints, setGait, setVisionWalk, setFreeWalk,
      setClassicWalk, setFastWalk, setWalkMode, handleMove, acceptMove, handleStop, tick_eq,
      publishStop_eq, publishMove_eq]
    try split_ifs
    all_goals exact h

end CmdVelPublisher

/-- The message most recently published; the zero message if there is none. -/
def lastTwist {K : Type} [Zero K] (twists : List (Twist K)) : Twist K := twists.getLastD 0

/-- Before the first message the last one counts as zero. -/
@[simp] theorem lastTwist_nil {K : Type} [Zero K] : lastTwist ([] : List (Twist K)) = 0 := rfl

/-- The last message is the latest one. -/
@[simp] theorem lastTwist_concat {K : Type} [Zero K] (twists : List (Twist K)) (t : Twist K) :
    lastTwist (twists ++ [t]) = t := by
  simp [lastTwist]

namespace CmdVelPublisher

variable {K : Type} [Field K] [LinearOrder K] [HasHypot K]

/-- The fields of the publisher agree with each other and with the messages published so far:
an active move means unlocked joints and is what was published last, within the cap in use;
without one the last message is zero. -/
structure Consistent (s : CmdVelPublisher K) (twists : List (Twist K)) : Prop where
  unlocked_of_active : s.hasActiveMove = true → s.jointsLocked = false
  lastTwist_eq :
    lastTwist twists = if s.hasActiveMove then Twist.ofVelocity s.lastVelocity else 0
  cap_eq : s.maxLinearSpeed = capOf s.motionProfile s.speedLevel
  speed_le : s.hasActiveMove = true → s.lastVelocity.speed ≤ s.maxLinearSpeed

/-- The invariant holds after the constructor. -/
theorem consistent_init : Consistent (init : CmdVelPublisher K) [] where
  unlocked_of_active := by simp [init]
  lastTwist_eq := by simp [init]
  cap_eq := rfl
  speed_le := by simp [init]

variable {s : CmdVelPublisher K} {twists : List (Twist K)}

/-- With the joints locked nothing moves. -/
theorem Consistent.still_of_locked (h : Consistent s twists) (hlocked : s.jointsLocked = true) :
    s.hasActiveMove = false ∧ lastTwist twists = 0 := by
  have hidle : s.hasActiveMove = false := by
    by_contra hne
    have hunlocked := h.unlocked_of_active (by simpa using hne)
    rw [hunlocked] at hlocked
    exact absurd hlocked (by decide)
  exact ⟨hidle, by rw [h.lastTwist_eq, hidle]; rfl⟩

variable [IsStrictOrderedRing K]

/-- The cap in use is positive. -/
theorem Consistent.cap_pos (h : Consistent s twists) : 0 < s.maxLinearSpeed := by
  rw [h.cap_eq]
  exact capOf_pos _ _

/-- Every operation keeps fields and messages in agreement.

**Proof sketch.** By `apply_cap` the cap stays the derived one, and so positive. An operation that
stops leaves no move and publishes zero. One that accepts publishes the new velocity, limited to the
cap. One that carries on publishes nothing and keeps the velocity, or limits the old one and
publishes it. -/
theorem Consistent.apply [LawfulHypot K] (h : Consistent s twists) (sdk : UnitreeSdk K) (now : Time)
    (op : CmdVelOp) :
    Consistent (s.apply sdk now op).1 (twists ++ (s.apply sdk now op).2) := by
  have hcap : (s.apply sdk now op).1.maxLinearSpeed =
      capOf (s.apply sdk now op).1.motionProfile (s.apply sdk now op).1.speedLevel :=
    apply_cap s sdk now h.cap_eq
  have hpos : 0 < (s.apply sdk now op).1.maxLinearSpeed := by
    rw [hcap]
    exact capOf_pos _ _
  rcases s.apply_cases sdk now op with ⟨hout, hidle⟩ | ⟨p, rfl, hunlocked⟩ | hon
  · exact ⟨by simp [hidle], by simp [hout, hidle], hcap, by simp [hidle]⟩
  · rw [apply_of_accepts s sdk now hunlocked] at hcap ⊢
    exact ⟨fun _ => hunlocked, by simp, hcap, fun _ => MoveVelocity.speed_limit_le h.cap_pos⟩
  · refine ⟨fun ha => ?_, ?_, hcap, fun ha => ?_⟩
    · exact hon.unlocked (h.unlocked_of_active (hon.hasActiveMove_eq ▸ ha))
    · rcases hon.velocity with ⟨hout, hvel, -⟩ | ⟨hactive, -, hout⟩
      · rw [hout, List.append_nil, h.lastTwist_eq, hon.hasActiveMove_eq, hvel]
      · rw [hout, lastTwist_concat, hon.hasActiveMove_eq, hactive, if_pos rfl]
    · rw [hon.hasActiveMove_eq] at ha
      rcases hon.velocity with ⟨-, hvel, hsame⟩ | ⟨-, hvel, -⟩
      · rw [hvel, hsame (h.unlocked_of_active ha) ha]
        exact h.speed_le ha
      · rw [hvel]
        exact MoveVelocity.speed_limit_le hpos

/-! ## Standing still -/

/-- Nothing but a zero velocity is in effect. -/
def Still (s : CmdVelPublisher K) : Prop := s.hasActiveMove = true → s.lastVelocity = 0

omit [IsStrictOrderedRing K] in
/-- The publisher stands still iff the last message is zero. -/
theorem Consistent.lastTwist_eq_zero (h : Consistent s twists) :
    lastTwist twists = 0 ↔ s.Still := by
  rw [h.lastTwist_eq, Still]
  cases s.hasActiveMove <;> simp

omit [LinearOrder K] [HasHypot K] [IsStrictOrderedRing K] in
/-- A stopped publisher stands still. -/
theorem still_of_inactive (h : s.hasActiveMove = false) : s.Still := by
  intro hactive
  rw [h] at hactive
  exact absurd hactive (by decide)

/-- Standing still lasts until a MOVE with motion is accepted.

**Proof sketch.** A call that stops leaves no move active. An accepted MOVE has velocity zero by
assumption, and limiting keeps it zero. A call that carries on keeps the velocity or limits it, and
it was zero. -/
theorem Still.apply [LawfulHypot K] (hstill : s.Still) (hcap : 0 < s.maxLinearSpeed)
    (sdk : UnitreeSdk K) (now : Time) {op : CmdVelOp}
    (hmove : ∀ p, op = .handleMove p → s.jointsLocked = false → parseMoveParameter sdk p = 0) :
    (s.apply sdk now op).1.Still := by
  rcases s.apply_cases sdk now op with ⟨-, hidle⟩ | ⟨p, rfl, hunlocked⟩ | hon
  · exact still_of_inactive hidle
  · intro _
    rw [apply_of_accepts s sdk now hunlocked]
    exact (MoveVelocity.limit_eq_zero hcap).mpr (hmove p rfl hunlocked)
  · intro hactive
    have hzero : s.lastVelocity = 0 := hstill (hon.hasActiveMove_eq ▸ hactive)
    rcases hon.velocity with ⟨-, hvel, -⟩ | ⟨-, hvel, -⟩
    · rw [hvel, hzero]
    · rw [hvel, hzero, MoveVelocity.limit_zero]

omit [IsStrictOrderedRing K] in
/-- An operation publishes at most one message. -/
theorem apply_twists (s : CmdVelPublisher K) (sdk : UnitreeSdk K) (now : Time) (op : CmdVelOp) :
    (s.apply sdk now op).2 = [] ∨ ∃ t, (s.apply sdk now op).2 = [t] := by
  rcases s.apply_cases sdk now op with ⟨hout, -⟩ | ⟨p, rfl, hunlocked⟩ | hon
  · exact Or.inr ⟨0, hout⟩
  · rw [apply_of_accepts s sdk now hunlocked]
    exact Or.inr ⟨_, rfl⟩
  · rcases hon.velocity with ⟨hout, -⟩ | ⟨-, -, hout⟩
    · exact Or.inl hout
    · exact Or.inr ⟨_, hout⟩

/-- An operation after which the publisher stands still has published nothing but zero. -/
theorem Consistent.twists_zero_of_still [LawfulHypot K] (h : Consistent s twists)
    (sdk : UnitreeSdk K) (now : Time) {op : CmdVelOp} (hstill : (s.apply sdk now op).1.Still) :
    ∀ t ∈ (s.apply sdk now op).2, t = 0 := by
  intro t ht
  have hlast := (h.apply sdk now op).lastTwist_eq_zero.mpr hstill
  rcases apply_twists s sdk now op with hout | ⟨u, hout⟩
  · simp [hout] at ht
  · rw [hout, List.mem_singleton] at ht
    rw [hout, lastTwist_concat] at hlast
    rw [ht, hlast]

omit [IsStrictOrderedRing K] in
/-- An active move is never locked, so it counts as motion. -/
theorem Consistent.isActivelyMoving_eq (h : Consistent s twists) :
    s.isActivelyMoving = s.hasActiveMove := by
  cases hactive : s.hasActiveMove with
  | false => simp [isActivelyMoving, hactive]
  | true => simp [isActivelyMoving, hactive, h.unlocked_of_active hactive]

omit [LinearOrder K] [HasHypot K] [IsStrictOrderedRing K] in
/-- After `Tick` the publisher stands still unless it keeps a nonzero move going. -/
theorem still_tick (s : CmdVelPublisher K) (now : Time) :
    (s.tick now).1.Still ↔
      (s.hasActiveMove = true → s.tickExpires now = false → s.lastVelocity = 0) := by
  rw [tick_eq]
  cases h : s.tickExpires now <;> simp [Still]

omit [LinearOrder K] [HasHypot K] [IsStrictOrderedRing K] in
/-- `Tick` ends an active move that expires and leaves any other. -/
theorem isActivelyMoving_tick (s : CmdVelPublisher K) (now : Time) :
    (s.tick now).1.isActivelyMoving = (s.isActivelyMoving && !s.tickExpires now) := by
  rw [tick_eq]
  cases h : s.tickExpires now <;> simp [isActivelyMoving]

end CmdVelPublisher

end SdkEventBridge
