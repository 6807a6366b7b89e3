import SdkEventBridge.Model.Bridges

set_option relaxedAutoImplicit false
set_option autoImplicit false

/-!
# The main program

`src/main.cpp`: the handlers it registers with the two bridges, the `/reset` callback and the
main loop, and the two ways the application runs: one input after another, each handled to its
end (`App.step`), or on four threads whose calls interleave (`appSystem`). Both take the programs
of the same inputs. The handlers' tests for a null publisher are left out: `main` creates both
publishers before it registers anything. Logging is left out as well.

## Main definitions

* `registerSportEventLogging`, `registerMotionSwitcherEventLogging` — the handler tables.
* `resetCallback`, `loopIteration` — the two other activities.
* `AppInput`, `program` — an input of the application and the calls made for it.
* `App.step`, `App.after` — atomic runs.
* `Thread`, `appSystem` — interleaved runs.
-/

namespace SdkEventBridge

open PlanarNorm Resumption Run

variable {K : Type} [Field K] [LinearOrder K] (sdk : UnitreeSdk K)

/-! ## Handlers of the sport bridge -/

/-- `PublishFsmCommandIfMapped`. -/
def publishFsmCommandIfMapped (apiId : Int32) : AppProg K :=
  match CmdCtlPublisher.tryMapSportApiToFsmCommand sdk apiId with
  | some command => .one (.publishCommand command.toInt32)
  | none => .done

/-- The `STANDUP` request handler. -/
def standUpRequestHandler (apiId : Int32) (_ : Request) : AppProg K :=
  .call (.cmdVel .lockJoints) fun _ =>
  .call (.setRobotPosture .standUp) fun _ =>
  publishFsmCommandIfMapped sdk apiId

/-- The `STANDDOWN` request handler. -/
def standDownRequestHandler (apiId : Int32) (_ : Request) : AppProg K :=
  .call (.cmdVel .lockJoints) fun _ =>
  .call (.setRobotPosture .standDown) fun _ =>
  publishFsmCommandIfMapped sdk apiId

/-- The `RECOVERYSTAND` request handler. -/
def recoveryStandRequestHandler (apiId : Int32) (_ : Request) : AppProg K :=
  .call (.cmdVel .lockJoints) fun _ =>
  .call (.setRobotPosture .standUp) fun _ =>
  publishFsmCommandIfMapped sdk apiId

/-- The event handlers that only log. -/
def logOnlyHandler (_ : SportEventResult) : AppProg K := .done

/-- The `DAMP` handler. -/
def dampHandler (result : SportEventResult) : AppProg K :=
  if result.isSuccess then
    .call (.cmdVel .lockJoints) fun _ =>
    .call (.setRobotPosture .standDown) fun _ =>
    publishFsmCommandIfMapped sdk result.apiId
  else .done

/-- The test `hasMotion` of `UpdatePostureFromMove`. -/
def MoveVelocity.hasMotion (velocity : MoveVelocity K) : Bool :=
  decide (0 < |velocity.vx|) || decide (0 < |velocity.vy|) || decide (0 < |velocity.vyaw|)

/-- `UpdatePostureFromMove`. -/
def updatePostureFromMove (parameterJson : String) : AppProg K :=
  .call .isJointsLocked fun app =>
    if app.cmdVelPublisher.isJointsLocked then .done
    else
      let velocity := parseMoveParameter sdk parameterJson
      if velocity.hasMotion then .one (.setRobotPosture .walking) else .done

/-- The `MOVE` handler. -/
def moveHandler (result : SportEventResult) : AppProg K :=
  if result.isSuccess then
    .call (.cmdVel (.handleMove result.parameter)) fun _ =>
    updatePostureFromMove sdk result.parameter
  else .done

/-- The `BALANCESTAND` handler. -/
def balanceStandHandler (result : SportEventResult) : AppProg K :=
  if result.isSuccess then
    .call (.cmdVel .unlockJoints) fun _ =>
    .call (.setRobotPosture .standUp) fun _ =>
    publishFsmCommandIfMapped sdk result.apiId
  else .done

/-- The `STOPMOVE` handler. -/
def stopMoveHandler (result : SportEventResult) : AppProg K :=
  if result.isSuccess then
    .call (.cmdVel .handleStop) fun _ =>
    .one (.setRobotPosture .standUp)
  else .done

/-- The handlers that parse the parameter and, if that succeeds, make one call on the velocity
publisher. -/
def parseThenCall {α : Type} (parse : String → Option α) (op : α → CmdVelOp)
    (result : SportEventResult) : AppProg K :=
  if !result.isSuccess then .done
  else
    match parse result.parameter with
    | some value => .one (.cmdVel (op value))
    | none => .done

/-- The `SWITCHMOVEMODE` handler. -/
def switchMoveModeHandler : SportEventResult → AppProg K :=
  parseThenCall (parseBoolParameter sdk) .setContinuousMoveMode

/-- The `SPEEDLEVEL` handler. -/
def speedLevelHandler : SportEventResult → AppProg K :=
  parseThenCall (parseIntParameter sdk) .setSpeedLevel

/-- The `SWITCHGAIT` handler. -/
def switchGaitHandler : SportEventResult → AppProg K :=
  parseThenCall (parseIntParameter sdk) .setGait

/-- The `VISIONWALK` handler. -/
def visionWalkHandler : SportEventResult → AppProg K :=
  parseThenCall (parseBoolParameter sdk) .setVisionWalk

/-- The `CLASSICWALK` handler. -/
def classicWalkHandler : SportEventResult → AppProg K :=
  parseThenCall (parseBoolParameter sdk) .setClassicWalk

/-- The `FASTWALK` handler. -/
def fastWalkHandler : SportEventResult → AppProg K :=
  parseThenCall (parseBoolParameter sdk) .setFastWalk

/-- The `FREEWALK` handler. -/
def freeWalkHandler (result : SportEventResult) : AppProg K :=
  if result.isSuccess then .one (.cmdVel .setFreeWalk) else .done

/-- `RegisterSportEventLogging`. `RegisterFreeWalkHandler` and `RegisterClassicWalkHandler`
register one handler under two ids. -/
def registerSportEventLogging (bridge : SdkEventBridgeClass K) : SdkEventBridgeClass K :=
  let onRequest (api : SportApi) (handler : Int32 → Request → AppProg K)
      (bridge : SdkEventBridgeClass K) :=
    bridge.registerSportRequestHandler (sdk.sportApiId api) handler
  let onEvent (api : SportApi) (handler : SportEventResult → AppProg K)
      (bridge : SdkEventBridgeClass K) :=
    bridge.registerSportEventHandler (sdk.sportApiId api) handler
  bridge
    |> onRequest .standUp (standUpRequestHandler sdk)
    |> onRequest .standDown (standDownRequestHandler sdk)
    |> onRequest .recoveryStand (recoveryStandRequestHandler sdk)
    |> onEvent .damp (dampHandler sdk)
    |> onEvent .move (moveHandler sdk)
    |> onEvent .switchMoveMode (switchMoveModeHandler sdk)
    |> onEvent .speedLevel (speedLevelHandler sdk)
    |> onEvent .balanceStand (balanceStandHandler sdk)
    |> onEvent .switchGait (switchGaitHandler sdk)
    |> onEvent .stopMove stopMoveHandler
    |> onEvent .standUp logOnlyHandler
    |> onEvent .standDown logOnlyHandler
    |> onEvent .recoveryStand logOnlyHandler
    |> onEvent .freeWalkGo2 freeWalkHandler
    |> onEvent .freeWalkB2 freeWalkHandler
    |> onEvent .visionWalk (visionWalkHandler sdk)
    |> onEvent .classicWalkGo2 (classicWalkHandler sdk)
    |> onEvent .classicWalkB2 (classicWalkHandler sdk)
    |> onEvent .fastWalk (fastWalkHandler sdk)

/-! ## Handlers of the motion switcher bridge -/

/-- The `CHECK_MODE`, `SET_SILENT` and `GET_SILENT` handlers, which only log. -/
def logOnlySwitcherHandler (_ : MotionSwitcherEventResult) : AppProg K := .done

/-- The `SELECT_MODE` handler. -/
def selectModeHandler (result : MotionSwitcherEventResult) : AppProg K :=
  if !result.isSuccess then .done
  else
    match parseStringParameter sdk result.parameter "name" with
    | some modeName => .one (.cmdVel (.setMotionModeName modeName))
    | none => .done

/-- The `RELEASE_MODE` handler. -/
def releaseModeHandler (result : MotionSwitcherEventResult) : AppProg K :=
  if result.isSuccess then .one (.cmdVel (.setMotionModeName "ai")) else .done

/-- `RegisterMotionSwitcherEventLogging`. -/
def registerMotionSwitcherEventLogging (bridge : MotionSwitcherBridgeClass K) :
    MotionSwitcherBridgeClass K :=
  let onEvent (api : SwitcherApi) (handler : MotionSwitcherEventResult → AppProg K)
      (bridge : MotionSwitcherBridgeClass K) :=
    bridge.registerEventHandler (sdk.switcherApiId api) handler
  bridge
    |> onEvent .checkMode logOnlySwitcherHandler
    |> onEvent .selectMode (selectModeHandler sdk)
    |> onEvent .releaseMode releaseModeHandler
    |> onEvent .setSilent logOnlySwitcherHandler
    |> onEvent .getSilent logOnlySwitcherHandler

/-! ## The reset callback and the main loop -/

/-- The `/reset` callback. -/
def resetCallback : AppProg K :=
  .call (.cmdVel .resetToDefaults) fun _ =>
  .one .resetMotionSwitcher

/-- The write that ends an iteration of the main loop. -/
def loopSetPosture (posture : RobotPosture) : AppProg K := .one (.setRobotPosture posture)

/-- The main loop from its read of the posture. -/
def loopReadPosture : AppProg K :=
  .call .getRobotPosture fun app =>
    if app.motionSwitcherBridge.getRobotPosture = .walking then loopSetPosture .standUp
    else .done

/-- The main loop from its read of the motion flag. -/
def loopReadMotion : AppProg K :=
  .call .isActivelyMoving fun app =>
    if app.cmdVelPublisher.isActivelyMoving then loopSetPosture .walking else loopReadPosture

/-- One iteration of the main loop. -/
def loopIteration : AppProg K := .call (.cmdVel .tick) fun _ => loopReadMotion

/-! ## Inputs and runs -/

/-- What the application reacts to: a message on one of its three topics, or the passing of the
main loop's 10 ms. -/
inductive AppInput where
  | sportRequest (request : Request)
  | switcherRequest (request : Request)
  | reset
  | loop
  deriving DecidableEq

/-- The sport bridge with the handlers of `main`. -/
def sportBridge : SdkEventBridgeClass K := registerSportEventLogging sdk .init

/-- The motion switcher bridge with the handlers of `main`. -/
def switcherBridge : MotionSwitcherBridgeClass K := registerMotionSwitcherEventLogging sdk .init

/-- The calls made for an input. -/
def program : AppInput → AppProg K
  | .sportRequest request => (sportBridge sdk).handleInterceptedRequest sdk request
  | .switcherRequest request => (switcherBridge sdk).handleInterceptedRequest sdk request
  | .reset => resetCallback
  | .loop => loopIteration

variable [HasHypot K]

namespace App

/-- The objects after `main` has created them and initialised their channels. -/
def init : App K where
  cmdVelPublisher := CmdVelPublisher.init.initChannel
  cmdCtlPublisher := CmdCtlPublisher.init.initChannel
  motionSwitcherBridge := .init

/-- Handle one input to its end, nothing coming in between. -/
def step (app : App K) (input : Timed AppInput) : App K × List (Output K) :=
  exec (App.call sdk) input.now (program sdk input.op) app

/-- The application after a history of inputs, with everything it published and answered. -/
def after (history : List (Timed AppInput)) : Recorded (App K) (Output K) :=
  recorded (App.step sdk) App.init history

end App

/-- The threads of the process: the sport server, the motion switcher subscriber, the `/reset`
subscriber and `main` itself. -/
inductive Thread where
  | sport | switcher | reset | loop
  deriving DecidableEq, Repr

/-- The application with its calls interleaved. -/
def appSystem : System Thread AppInput Time (App K) Call (Output K) where
  call := App.call sdk
  thread
    | .sportRequest _ => .sport
    | .switcherRequest _ => .switcher
    | .reset => .reset
    | .loop => .loop
  program := program sdk

end SdkEventBridge
