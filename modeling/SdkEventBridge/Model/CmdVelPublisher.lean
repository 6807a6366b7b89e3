import SdkEventBridge.Library.PlanarNorm
import SdkEventBridge.Model.Sdk

set_option relaxedAutoImplicit false
set_option autoImplicit false

/-!
# The velocity publisher

`src/cmd_vel_publisher.cpp`, function by function. An operation takes the publisher to its next
state together with the `Twist`s it handed to the DDS channel; the operations that read
`steady_clock` take the reading as an argument. Log output is left out.

## Main definitions

* `MoveVelocity`, `Twist` — a parsed velocity and the message published for it.
* `CmdVelPublisher` — the fields of the class, in the order of its header.
* `parseMoveParameter`, `parseIntParameter`, `parseBoolParameter`, `parseStringParameter`.
* `CmdVelPublisher.handleMove`, …, `CmdVelPublisher.tick` — the public operations.
* `CmdVelOp`, `CmdVelPublisher.apply` — a call of an operation the application uses.
* `PublicCall`, `CmdVelPublisher.applyPublic` — a call of any public operation.
-/

namespace SdkEventBridge

open PlanarNorm

/-- `MoveVelocity`; its default member values are the zero velocity. -/
@[ext] structure MoveVelocity (K : Type) where
  vx : K
  vy : K
  vyaw : K
  deriving DecidableEq, Repr

/-- `geometry_msgs::msg::dds_::Vector3_`. -/
@[ext] structure Vector3 (K : Type) where
  x : K
  y : K
  z : K
  deriving DecidableEq, Repr

/-- `geometry_msgs::msg::dds_::Twist_`. -/
@[ext] structure Twist (K : Type) where
  linear : Vector3 K
  angular : Vector3 K
  deriving DecidableEq, Repr

/-- `WalkMode`. -/
inductive WalkMode where
  | none | visionWalk | freeWalk | classicWalk | fastWalk
  deriving DecidableEq, Repr

/-- `MotionProfile`. -/
inductive MotionProfile where
  | ai | sport
  deriving DecidableEq, Repr

/-- `MOVE_STOP_TIMEOUT`, 1000 ms. -/
def moveStopTimeout : Time := 1000 * 1000000

/-- `CmdVelPublisher`, without its channel: `channelInitialized` tells whether it was
initialised. -/
structure CmdVelPublisher (K : Type) where
  channelInitialized : Bool
  continuousMoveMode : Bool
  jointsLocked : Bool
  walkMode : WalkMode
  hasActiveMove : Bool
  motionProfile : MotionProfile
  speedLevel : Int32
  maxLinearSpeed : K
  lastVelocity : MoveVelocity K
  lastMoveTime : Time
  deriving DecidableEq, Repr

/-! ## Velocities and messages -/

section Messages

variable {K : Type} [Zero K]

/-- The default member initialisers of `MoveVelocity`. -/
instance : Zero (MoveVelocity K) := ⟨⟨0, 0, 0⟩⟩

/-- A message of zeros, as a default-constructed `Twist_` is. -/
instance : Zero (Twist K) := ⟨⟨⟨0, 0, 0⟩, ⟨0, 0, 0⟩⟩⟩

/-- The message `PublishMove` fills in. -/
def Twist.ofVelocity (velocity : MoveVelocity K) : Twist K :=
  { linear := { x := velocity.vx, y := velocity.vy, z := 0 }
    angular := { x := 0, y := 0, z := velocity.vyaw } }

/-- The forward part of the zero velocity. -/
@[simp] theorem MoveVelocity.zero_vx : (0 : MoveVelocity K).vx = 0 := rfl

/-- The sideways part of the zero velocity. -/
@[simp] theorem MoveVelocity.zero_vy : (0 : MoveVelocity K).vy = 0 := rfl

/-- The turning part of the zero velocity. -/
@[simp] theorem MoveVelocity.zero_vyaw : (0 : MoveVelocity K).vyaw = 0 := rfl

/-- The zero velocity makes the zero message. -/
@[simp] theorem Twist.ofVelocity_zero : Twist.ofVelocity (0 : MoveVelocity K) = 0 := rfl

/-- The message determines the velocity; in particular only the zero velocity is published as
the zero message. -/
theorem Twist.ofVelocity_injective : Function.Injective (Twist.ofVelocity (K := K)) := by
  intro v w h
  simp only [Twist.ofVelocity, Twist.mk.injEq, Vector3.mk.injEq] at h
  exact MoveVelocity.ext h.1.1 h.1.2.1 h.2.2.2

/-- Only the zero velocity makes the zero message. -/
@[simp] theorem Twist.ofVelocity_eq_zero {v : MoveVelocity K} :
    Twist.ofVelocity v = 0 ↔ v = 0 := by
  rw [← Twist.ofVelocity_zero, Twist.ofVelocity_injective.eq_iff]

end Messages

/-! ## Parsing request parameters -/

section Parse

variable {K : Type} (sdk : UnitreeSdk K)

/-- `parameterJson` as a JSON map, the step all four parsers share. -/
def parseJsonMap (parameterJson : String) : Option sdk.Any :=
  if parameterJson.isEmpty then none
  else (sdk.fromJsonString parameterJson).filter sdk.isJsonMap

/-- `ParseIntParameter`: the value on success, `none` where it returns `false`. -/
def parseIntParameter (parameterJson : String) : Option Int32 :=
  match parseJsonMap sdk parameterJson with
  | none => none
  | some jsonMap => (sdk.find jsonMap "data").bind sdk.fromJsonInt

/-- `ParseStringParameter`. -/
def parseStringParameter (parameterJson key : String) : Option String :=
  match parseJsonMap sdk parameterJson with
  | none => none
  | some jsonMap => (sdk.find jsonMap key).bind sdk.fromJsonText

/-- `ParseBoolParameter`: `"flag"` counts only where there is no `"data"`. -/
def parseBoolParameter (parameterJson : String) : Option Bool :=
  match parseJsonMap sdk parameterJson with
  | none => none
  | some jsonMap =>
    match sdk.find jsonMap "data" with
    | some data => sdk.fromJsonBool data
    | none => (sdk.find jsonMap "flag").bind sdk.fromJsonBool

/-- `if (it != jsonMap.end()) FromJson(it->second, target)`: an absent key leaves the target as
it was, and a value of the wrong type throws (`none`). -/
def assignDouble (it : Option sdk.Any) (target : K) : Option K :=
  match it with
  | none => some target
  | some value => sdk.fromJsonDouble value

/-- `ParseMoveParameter`. The velocity is filled in key by key, and what a throwing `FromJson`
leaves behind is returned as it is. -/
def parseMoveParameter [Zero K] (parameterJson : String) : MoveVelocity K :=
  let velocity : MoveVelocity K := 0
  match parseJsonMap sdk parameterJson with
  | none => velocity
  | some jsonMap =>
    match assignDouble sdk (sdk.find jsonMap "x") velocity.vx with
    | none => velocity
    | some vx =>
      let velocity := { velocity with vx := vx }
      match assignDouble sdk (sdk.find jsonMap "y") velocity.vy with
      | none => velocity
      | some vy =>
        let velocity := { velocity with vy := vy }
        match assignDouble sdk (sdk.find jsonMap "z") velocity.vyaw with
        | none => velocity
        | some vyaw => { velocity with vyaw := vyaw }

end Parse

/-! ## Operations -/

/-- A call of a public operation of `CmdVelPublisher`, with its arguments. -/
inductive CmdVelOp where
  | setContinuousMoveMode (enabled : Bool)
  | setSpeedLevel (level : Int32)
  | setMotionModeName (name : String)
  | resetToDefaults
  | lockJoints
  | unlockJoints
  | setGait (gait : Int32)
  | setVisionWalk (enabled : Bool)
  | setFreeWalk
  | setClassicWalk (enabled : Bool)
  | setFastWalk (enabled : Bool)
  | handleMove (parameterJson : String)
  | handleStop
  | tick
  deriving DecidableEq, Repr

namespace CmdVelPublisher

/-- `MotionProfileFromModeName`. -/
def motionProfileFromModeName (name : String) : MotionProfile :=
  if name = "normal" ∨ name = "normal-w" then .sport else .ai

section Flags

variable {K : Type} (s : CmdVelPublisher K)

/-- `InitChannel`. -/
def initChannel : CmdVelPublisher K :=
  if s.channelInitialized then s else { s with channelInitialized := true }

/-- The test of `InitChannel` makes no difference to the flag it sets. -/
@[simp] theorem initChannel_eq : s.initChannel = { s with channelInitialized := true } := by
  unfold initChannel
  split_ifs with h
  · cases s; simp_all
  · rfl

/-- `UnlockJoints`. -/
def unlockJoints : CmdVelPublisher K := { s with jointsLocked := false }

/-- `IsJointsLocked`. -/
def isJointsLocked : Bool := s.jointsLocked

/-- `GetWalkMode`. -/
def getWalkMode : WalkMode := s.walkMode

/-- `IsActivelyMoving`. -/
def isActivelyMoving : Bool := s.hasActiveMove && !s.jointsLocked

/-- `SetContinuousMoveMode`. -/
def setContinuousMoveMode (now : Time) (enabled : Bool) : CmdVelPublisher K :=
  let s := { s with continuousMoveMode := enabled }
  if !enabled then { s with lastMoveTime := now } else s

/-- `SetFreeWalk`. -/
def setFreeWalk : CmdVelPublisher K := unlockJoints { s with walkMode := .freeWalk }

/-- The three tests of `Tick` that decide whether it stops the robot. -/
def tickExpires (now : Time) : Bool :=
  !(s.jointsLocked || s.continuousMoveMode || !s.hasActiveMove) &&
    !decide (now - s.lastMoveTime < moveStopTimeout)

end Flags

variable {K : Type} [Field K] [LinearOrder K] [HasHypot K]

/-- `AI_LOW_MAX_LINEAR_SPEED`. -/
def aiLowMaxLinearSpeed : K := 1.5

/-- `AI_HIGH_MAX_LINEAR_SPEED`. -/
def aiHighMaxLinearSpeed : K := 3.5

/-- `SPORT_MAX_LINEAR_SPEED`. -/
def sportMaxLinearSpeed : K := 6.0

/-- The constructor. A default-constructed time point is the clock's epoch. -/
def init : CmdVelPublisher K where
  channelInitialized := false
  continuousMoveMode := false
  jointsLocked := true
  walkMode := .none
  hasActiveMove := false
  motionProfile := .ai
  speedLevel := -1
  maxLinearSpeed := aiLowMaxLinearSpeed
  lastVelocity := 0
  lastMoveTime := 0

variable (s : CmdVelPublisher K)

/-- `ApplyMaxLinearSpeed`. -/
def applyMaxLinearSpeed : CmdVelPublisher K :=
  if s.motionProfile = .sport then { s with maxLinearSpeed := sportMaxLinearSpeed }
  else { s with maxLinearSpeed :=
          if s.speedLevel = 1 then aiHighMaxLinearSpeed else aiLowMaxLinearSpeed }

/-- `ApplySpeedLimit`. -/
def applySpeedLimit (velocity : MoveVelocity K) : MoveVelocity K :=
  let magnitude := hypot velocity.vx velocity.vy
  if s.maxLinearSpeed < magnitude ∧ 0 < magnitude then
    let scale := s.maxLinearSpeed / magnitude
    { velocity with vx := velocity.vx * scale, vy := velocity.vy * scale }
  else velocity

/-- `PublishMove`: initialise the channel if that is still to do, and write one message. -/
def publishMove (velocity : MoveVelocity K) : CmdVelPublisher K × List (Twist K) :=
  (if !s.channelInitialized then s.initChannel else s, [Twist.ofVelocity velocity])

/-- `PublishStop`. -/
def publishStop : CmdVelPublisher K × List (Twist K) := s.publishMove 0

/-- `SetSpeedLevel`. In the sport profile the level is only remembered. -/
def setSpeedLevel (level : Int32) : CmdVelPublisher K × List (Twist K) :=
  let s := { s with speedLevel := level }
  if s.motionProfile = .sport then (s, [])
  else
    let s := s.applyMaxLinearSpeed
    if !s.jointsLocked && s.hasActiveMove then
      let s := { s with lastVelocity := s.applySpeedLimit s.lastVelocity }
      s.publishMove s.lastVelocity
    else (s, [])

/-- `SetMotionModeName`. -/
def setMotionModeName (name : String) : CmdVelPublisher K × List (Twist K) :=
  let profile := motionProfileFromModeName name
  if s.motionProfile = profile then (s, [])
  else
    let s := { s with motionProfile := profile }
    let s := s.applyMaxLinearSpeed
    if !s.jointsLocked && s.hasActiveMove then
      let s := { s with lastVelocity := s.applySpeedLimit s.lastVelocity }
      s.publishMove s.lastVelocity
    else (s, [])

/-- `ResetToDefaults`. -/
def resetToDefaults (now : Time) : CmdVelPublisher K × List (Twist K) :=
  publishStop
    { s with
      continuousMoveMode := false
      jointsLocked := true
      walkMode := .none
      hasActiveMove := false
      motionProfile := .ai
      speedLevel := -1
      maxLinearSpeed := aiLowMaxLinearSpeed
      lastVelocity := 0
      lastMoveTime := now }

/-- `LockJoints`. -/
def lockJoints : CmdVelPublisher K × List (Twist K) :=
  publishStop { s with jointsLocked := true, hasActiveMove := false }

/-- `SetGait`. -/
def setGait (gait : Int32) : CmdVelPublisher K × List (Twist K) :=
  if gait = 0 then s.lockJoints
  else if 1 ≤ gait ∧ gait ≤ 4 then (s.unlockJoints, [])
  else (s, [])

/-- `SetWalkMode`. -/
def setWalkMode (mode : WalkMode) (enabled : Bool) : CmdVelPublisher K × List (Twist K) :=
  if enabled then (unlockJoints { s with walkMode := mode }, [])
  else if s.walkMode = mode then lockJoints { s with walkMode := .none }
  else (s, [])

/-- `SetVisionWalk`. -/
def setVisionWalk (enabled : Bool) : CmdVelPublisher K × List (Twist K) :=
  s.setWalkMode .visionWalk enabled

/-- `SetClassicWalk`. -/
def setClassicWalk (enabled : Bool) : CmdVelPublisher K × List (Twist K) :=
  s.setWalkMode .classicWalk enabled

/-- `SetFastWalk`. -/
def setFastWalk (enabled : Bool) : CmdVelPublisher K × List (Twist K) :=
  s.setWalkMode .fastWalk enabled

/-- `HandleMove` past its lock check. -/
def acceptMove (sdk : UnitreeSdk K) (now : Time) (parameterJson : String) :
    CmdVelPublisher K × List (Twist K) :=
  let s := { s with lastVelocity := s.applySpeedLimit (parseMoveParameter sdk parameterJson) }
  let s := { s with lastMoveTime := now }
  let s := { s with hasActiveMove := true }
  s.publishMove s.lastVelocity

/-- `HandleMove`. -/
def handleMove (sdk : UnitreeSdk K) (now : Time) (parameterJson : String) :
    CmdVelPublisher K × List (Twist K) :=
  if s.jointsLocked then (s, []) else s.acceptMove sdk now parameterJson

/-- `HandleStop`. -/
def handleStop : CmdVelPublisher K × List (Twist K) :=
  publishStop { s with hasActiveMove := false }

/-- `Tick`. -/
def tick (now : Time) : CmdVelPublisher K × List (Twist K) :=
  if s.jointsLocked || s.continuousMoveMode || !s.hasActiveMove then (s, [])
  else
    let elapsed := now - s.lastMoveTime
    if elapsed < moveStopTimeout then (s, [])
    else publishStop { s with hasActiveMove := false }

/-- The effect of a call made at clock reading `now`. -/
def apply (sdk : UnitreeSdk K) (now : Time) : CmdVelOp → CmdVelPublisher K × List (Twist K)
  | .setContinuousMoveMode enabled => (s.setContinuousMoveMode now enabled, [])
  | .setSpeedLevel level => s.setSpeedLevel level
  | .setMotionModeName name => s.setMotionModeName name
  | .resetToDefaults => s.resetToDefaults now
  | .lockJoints => s.lockJoints
  | .unlockJoints => (s.unlockJoints, [])
  | .setGait gait => s.setGait gait
  | .setVisionWalk enabled => s.setVisionWalk enabled
  | .setFreeWalk => (s.setFreeWalk, [])
  | .setClassicWalk enabled => s.setClassicWalk enabled
  | .setFastWalk enabled => s.setFastWalk enabled
  | .handleMove parameterJson => s.handleMove sdk now parameterJson
  | .handleStop => s.handleStop
  | .tick => s.tick now

/-- `PublishMoveFromParameter`. -/
def publishMoveFromParameter (sdk : UnitreeSdk K) (now : Time) (parameterJson : String) :
    CmdVelPublisher K × List (Twist K) :=
  s.handleMove sdk now parameterJson

end CmdVelPublisher

/-! ## The whole public interface -/

/-- A call of any public operation: those the application makes, and the three that only other
users of the class make. -/
inductive PublicCall (K : Type) where
  | op (op : CmdVelOp)
  | initChannel
  | publishMove (velocity : MoveVelocity K)
  | publishMoveFromParameter (parameterJson : String)
  deriving DecidableEq

/-- The effect of a public call. -/
def CmdVelPublisher.applyPublic {K : Type} [Field K] [LinearOrder K] [HasHypot K]
    (s : CmdVelPublisher K) (sdk : UnitreeSdk K) (now : Time) :
    PublicCall K → CmdVelPublisher K × List (Twist K)
  | .op op => s.apply sdk now op
  | .initChannel => (s.initChannel, [])
  | .publishMove velocity => s.publishMove velocity
  | .publishMoveFromParameter parameterJson => s.publishMoveFromParameter sdk now parameterJson

end SdkEventBridge
