import SdkEventBridge.Library.Resumption
import SdkEventBridge.Model.CmdVelPublisher

set_option relaxedAutoImplicit false
set_option autoImplicit false

/-!
# The command publisher, the motion switcher and the two request bridges

`src/cmd_ctl_publisher.cpp`, `src/motion_switcher_bridge.cpp` and `src/sdk_event_bridge.cpp`.
The request handling of a bridge runs registered handlers that act on other objects, so it is a
program of atomic calls (`Resumption.Prog`) on the objects of the application. A handler table
that maps API ids to handlers is a function that registration updates.

## Main definitions

* `FsmCommand`, `CmdCtlPublisher`, `tryMapSportApiToFsmCommand`.
* `RobotPosture`, `MotionSwitcherBridge` — the simulated switcher state, and
  `MotionSwitcherBridge.buildInterceptResponseData`, which answers a request.
* `App`, `Call`, `Output`, `App.call` — the objects of the application, one call on one of them,
  and what a call emits.
* `HandlerTable`, `SdkEventBridgeClass`, `MotionSwitcherBridgeClass` — registration and dispatch.
* `SdkEventBridgeClass.handleInterceptedRequest`,
  `MotionSwitcherBridgeClass.handleInterceptedRequest` — a request from arrival to response.
-/

namespace SdkEventBridge

open PlanarNorm Resumption

/-- `SPORT_STATUS_SUCCESS`. -/
def sportStatusSuccess : Int32 := 0

/-! ## FSM commands -/

/-- `FsmCommand`. -/
inductive FsmCommand where
  | getUpLocomotion | getDown | passiveDamped
  deriving DecidableEq, Repr

/-- `static_cast<int32_t>(command)`. -/
def FsmCommand.toInt32 : FsmCommand → Int32
  | .getUpLocomotion => 10001
  | .getDown => 10002
  | .passiveDamped => 10003

/-- `CmdCtlPublisher`, without its channel. -/
structure CmdCtlPublisher where
  channelInitialized : Bool
  deriving DecidableEq, Repr

namespace CmdCtlPublisher

/-- The constructor. -/
def init : CmdCtlPublisher := { channelInitialized := false }

/-- `InitChannel`. -/
def initChannel (s : CmdCtlPublisher) : CmdCtlPublisher :=
  if s.channelInitialized then s else { s with channelInitialized := true }

/-- `PublishCommand`: the second component is the message written. -/
def publishCommand (s : CmdCtlPublisher) (command : Int32) : CmdCtlPublisher × Int32 :=
  (if !s.channelInitialized then s.initChannel else s, command)

/-- `TryMapSportApiToFsmCommand`. -/
def tryMapSportApiToFsmCommand {K : Type} (sdk : UnitreeSdk K) (apiId : Int32) :
    Option FsmCommand :=
  match sdk.sportApi? apiId with
  | some .standUp | some .recoveryStand | some .balanceStand => some .getUpLocomotion
  | some .standDown => some .getDown
  | some .damp => some .passiveDamped
  | _ => none

end CmdCtlPublisher

/-! ## The motion switcher state -/

/-- `RobotPosture`. -/
inductive RobotPosture where
  | standDown | standUp | walking
  deriving DecidableEq, Repr

/-- The fields of `MotionSwitcherBridgeClass` that its request handling reads and writes. -/
structure MotionSwitcherBridge where
  form : String
  modeName : String
  silent : Bool
  robotPosture : RobotPosture
  deriving DecidableEq, Repr

namespace MotionSwitcherBridge

/-- The constructor. -/
def init : MotionSwitcherBridge where
  form := "0"
  modeName := ""
  silent := false
  robotPosture := .standDown

variable (s : MotionSwitcherBridge)

/-- `SetRobotPosture`. -/
def setRobotPosture (posture : RobotPosture) : MotionSwitcherBridge :=
  if s.robotPosture = posture then s else { s with robotPosture := posture }

/-- Setting the posture it has changes nothing, so the test makes no difference. -/
@[simp] theorem setRobotPosture_eq (posture : RobotPosture) :
    s.setRobotPosture posture = { s with robotPosture := posture } := by
  unfold setRobotPosture
  split_ifs with h
  · cases s; simp_all
  · rfl

/-- `GetRobotPosture`. -/
def getRobotPosture : RobotPosture := s.robotPosture

/-- `CanChangeMotionMode`. -/
def canChangeMotionMode : Bool := s.robotPosture == .standDown

/-- `ResetToDefaults`. -/
def resetToDefaults (_ : MotionSwitcherBridge) : MotionSwitcherBridge where
  form := "0"
  modeName := "ai"
  silent := false
  robotPosture := .standDown

variable {K : Type} (sdk : UnitreeSdk K)

/-- `IsTrackedApi`. -/
def isTrackedApi (apiId : Int32) : Bool := (sdk.switcherApi? apiId).isSome

/-- The `SELECT_MODE` case of `BuildInterceptResponseData`. -/
def selectMode (request : Request) : MotionSwitcherBridge × Int32 × String :=
  if !s.canChangeMotionMode then (s, sdk.errBusy, "")
  else
    match sdk.fromJsonModeName request.parameter with
    | none => (s, sdk.errApiParameter, "")
    | some modeData =>
      if modeData.name.isEmpty then (s, sdk.errApiParameter, "")
      else
        let s := { s with modeName := modeData.name }
        let s := if !modeData.form.isEmpty then { s with form := modeData.form } else s
        (s, sportStatusSuccess, "")

/-- The `RELEASE_MODE` case. -/
def releaseMode : MotionSwitcherBridge × Int32 × String :=
  if !s.canChangeMotionMode then (s, sdk.errBusy, "")
  else ({ s with modeName := "" }, sportStatusSuccess, "")

/-- The `SET_SILENT` case. -/
def setSilent (request : Request) : MotionSwitcherBridge × Int32 × String :=
  match sdk.fromJsonSilent request.parameter with
  | none => (s, sdk.errApiParameter, "")
  | some silentData => ({ s with silent := silentData.silent }, sportStatusSuccess, "")

/-- `BuildInterceptResponseData`: the state after the request, the status code and the data. -/
def buildInterceptResponseData (apiId : Int32) (request : Request) :
    MotionSwitcherBridge × Int32 × String :=
  match sdk.internalApi? apiId with
  | some .apiVersion => (s, sportStatusSuccess, sdk.switcherApiVersion)
  | some .noop => (s, sportStatusSuccess, "")
  | some .leaseApply => (s, sportStatusSuccess, "\x7b\"id\":1,\"term\":1000000\x7d")
  | some .leaseRenewal => (s, sportStatusSuccess, "")
  | none =>
    match sdk.switcherApi? apiId with
    | some .checkMode =>
      (s, sportStatusSuccess, sdk.toJsonModeName { form := s.form, name := s.modeName })
    | some .selectMode => s.selectMode sdk request
    | some .releaseMode => s.releaseMode sdk
    | some .setSilent => s.setSilent sdk request
    | some .getSilent => (s, sportStatusSuccess, sdk.toJsonSilent { silent := s.silent })
    | none => (s, sportStatusSuccess, "")

end MotionSwitcherBridge

/-! ## The objects of the application and the calls on them -/

/-- The objects `main` creates and its handlers share. -/
structure App (K : Type) where
  cmdVelPublisher : CmdVelPublisher K
  cmdCtlPublisher : CmdCtlPublisher
  motionSwitcherBridge : MotionSwitcherBridge

/-- One call on one of the objects; each is atomic. -/
inductive Call where
  | cmdVel (op : CmdVelOp)
  | isJointsLocked
  | isActivelyMoving
  | setRobotPosture (posture : RobotPosture)
  | getRobotPosture
  | resetMotionSwitcher
  | buildInterceptResponseData (apiId : Int32) (request : Request)
  | publishCommand (command : Int32)
  /-- `sleep_for(POSTURE_ACTION_RESPONSE_DELAY)`. -/
  | sleepFor
  | sendSportResponse (response : Response)
  | writeSwitcherResponse (response : Response)
  deriving DecidableEq

/-- What leaves the process: a message on `/cmd_vel_origin` or `/cmd_ctl`, or a response. -/
inductive Output (K : Type) where
  | twist (twist : Twist K)
  | command (command : Int32)
  | sportResponse (response : Response)
  | switcherResponse (response : Response)
  deriving DecidableEq

/-- A program of calls on the objects of the application. -/
abbrev AppProg (K : Type) := Prog (App K) Call

/-- The effect of a call at clock reading `now`. The calls that only read do nothing here: the
continuation of the call sees the state. -/
def App.call {K : Type} [Field K] [LinearOrder K] [HasHypot K] (sdk : UnitreeSdk K) (now : Time)
    (app : App K) : Call → App K × List (Output K)
  | .cmdVel op =>
    let (s, twists) := app.cmdVelPublisher.apply sdk now op
    ({ app with cmdVelPublisher := s }, twists.map .twist)
  | .setRobotPosture posture =>
    ({ app with
        motionSwitcherBridge := app.motionSwitcherBridge.setRobotPosture posture }, [])
  | .resetMotionSwitcher =>
    ({ app with motionSwitcherBridge := app.motionSwitcherBridge.resetToDefaults }, [])
  | .buildInterceptResponseData apiId request =>
    ({ app with
        motionSwitcherBridge :=
          (app.motionSwitcherBridge.buildInterceptResponseData sdk apiId request).1 }, [])
  | .publishCommand command =>
    let (s, message) := app.cmdCtlPublisher.publishCommand command
    ({ app with cmdCtlPublisher := s }, [.command message])
  | .sendSportResponse response => (app, [.sportResponse response])
  | .writeSwitcherResponse response => (app, [.switcherResponse response])
  | .isJointsLocked | .isActivelyMoving | .getRobotPosture | .sleepFor => (app, [])

/-! ## Handler tables -/

/-- The handlers registered for single API ids, and the default handler. -/
structure HandlerTable (H : Type) where
  specific : Int32 → Option H
  default : Option H

namespace HandlerTable

variable {H K : Type} (table : HandlerTable H)

/-- Nothing registered. -/
def empty : HandlerTable H := { specific := fun _ => none, default := none }

/-- `table[apiId] = handler`. -/
def register (apiId : Int32) (handler : H) : HandlerTable H :=
  { table with specific := Function.update table.specific apiId (some handler) }

/-- Run the handler registered for the id, then the default handler, each if present. -/
def dispatch (apiId : Int32) (run : H → AppProg K) : AppProg K :=
  ((table.specific apiId).elim .done run).seq (table.default.elim .done run)

end HandlerTable

/-- `BuildInterceptResponse`, the same in both bridges. -/
def buildInterceptResponse (request : Request) (statusCode : Int32) (data : String) : Response :=
  { identity := request.identity, statusCode := statusCode, data := data }

/-! ## The sport bridge -/

/-- `SportEventResult`, without the latency, which is only logged. -/
structure SportEventResult where
  apiId : Int32
  requestId : Int64
  statusCode : Int32
  parameter : String
  data : String
  deriving DecidableEq

/-- `SportEventResult::IsSuccess`. -/
def SportEventResult.isSuccess (result : SportEventResult) : Bool :=
  result.statusCode == sportStatusSuccess

/-- `SdkEventBridgeClass`: the handlers registered with it. -/
structure SdkEventBridgeClass (K : Type) where
  requestHandlers : HandlerTable (Int32 → Request → AppProg K)
  responseHandlers : HandlerTable (Int32 → Response → AppProg K)
  eventHandlers : HandlerTable (SportEventResult → AppProg K)

namespace SdkEventBridgeClass

variable {K : Type} (sdk : UnitreeSdk K)

/-- The constructor. -/
def init : SdkEventBridgeClass K := ⟨.empty, .empty, .empty⟩

/-- `RequiresPostureActionDelay`. -/
def requiresPostureActionDelay (apiId : Int32) : Bool :=
  match sdk.sportApi? apiId with
  | some .standUp | some .standDown | some .recoveryStand => true
  | _ => false

/-- `IsTrackedSportApi`. -/
def isTrackedSportApi (apiId : Int32) : Bool := (sdk.sportApi? apiId).isSome

/-- `BuildInterceptResponseData`: status code and data. -/
def buildInterceptResponseData (apiId : Int32) : Int32 × String :=
  match sdk.internalApi? apiId with
  | some .apiVersion => (sportStatusSuccess, sdk.sportApiVersion)
  | some .noop => (sportStatusSuccess, "")
  | some .leaseApply => (sportStatusSuccess, "\x7b\"id\":1,\"term\":1000000\x7d")
  | some .leaseRenewal => (sportStatusSuccess, "")
  | none => (sportStatusSuccess, "")

variable (bridge : SdkEventBridgeClass K)

/-- `RegisterSportRequestHandler`. -/
def registerSportRequestHandler (apiId : Int32) (handler : Int32 → Request → AppProg K) :
    SdkEventBridgeClass K :=
  { bridge with requestHandlers := bridge.requestHandlers.register apiId handler }

/-- `RegisterSportEventHandler`. -/
def registerSportEventHandler (apiId : Int32) (handler : SportEventResult → AppProg K) :
    SdkEventBridgeClass K :=
  { bridge with eventHandlers := bridge.eventHandlers.register apiId handler }

/-- `DispatchRequest`. -/
def dispatchRequest (apiId : Int32) (request : Request) : AppProg K :=
  bridge.requestHandlers.dispatch apiId fun handler => handler apiId request

/-- `DispatchResponse`. -/
def dispatchResponse (apiId : Int32) (response : Response) : AppProg K :=
  bridge.responseHandlers.dispatch apiId fun handler => handler apiId response

/-- `DispatchEventResult`. -/
def dispatchEventResult (result : SportEventResult) : AppProg K :=
  bridge.eventHandlers.dispatch result.apiId fun handler => handler result

/-- `HandleInterceptedRequest`. For the three delayed APIs the event comes after the delay. -/
def handleInterceptedRequest (request : Request) : AppProg K :=
  let apiId := request.apiId32
  let (statusCode, responseData) := buildInterceptResponseData sdk apiId
  let deferSuccessEvent :=
    isTrackedSportApi sdk apiId && requiresPostureActionDelay sdk apiId &&
      statusCode == sportStatusSuccess
  let result : SportEventResult :=
    { apiId := apiId, requestId := request.identity.id, statusCode := statusCode
      parameter := request.parameter, data := responseData }
  let response := buildInterceptResponse request statusCode responseData
  (bridge.dispatchRequest apiId request).seq <|
  (if isTrackedSportApi sdk apiId && !deferSuccessEvent then
    bridge.dispatchEventResult result else .done).seq <|
  (if deferSuccessEvent then Prog.one .sleepFor else .done).seq <|
  (if deferSuccessEvent then bridge.dispatchEventResult result else .done).seq <|
  (Prog.one (.sendSportResponse response)).seq <|
  bridge.dispatchResponse apiId response

end SdkEventBridgeClass

/-! ## The motion switcher bridge -/

/-- `MotionSwitcherEventResult`, without the latency, which is only logged. -/
structure MotionSwitcherEventResult where
  apiId : Int32
  requestId : Int64
  statusCode : Int32
  parameter : String
  data : String
  deriving DecidableEq

/-- `MotionSwitcherEventResult::IsSuccess`. -/
def MotionSwitcherEventResult.isSuccess (result : MotionSwitcherEventResult) : Bool :=
  result.statusCode == sportStatusSuccess

/-- The handler tables of `MotionSwitcherBridgeClass`; its other fields are
`MotionSwitcherBridge`. -/
structure MotionSwitcherBridgeClass (K : Type) where
  requestHandlers : HandlerTable (Int32 → Request → AppProg K)
  responseHandlers : HandlerTable (Int32 → Response → AppProg K)
  eventHandlers : HandlerTable (MotionSwitcherEventResult → AppProg K)

namespace MotionSwitcherBridgeClass

variable {K : Type} (sdk : UnitreeSdk K) (bridge : MotionSwitcherBridgeClass K)

/-- The constructor. -/
def init : MotionSwitcherBridgeClass K := ⟨.empty, .empty, .empty⟩

/-- `RegisterEventHandler`. -/
def registerEventHandler (apiId : Int32) (handler : MotionSwitcherEventResult → AppProg K) :
    MotionSwitcherBridgeClass K :=
  { bridge with eventHandlers := bridge.eventHandlers.register apiId handler }

/-- `DispatchRequest`. -/
def dispatchRequest (apiId : Int32) (request : Request) : AppProg K :=
  bridge.requestHandlers.dispatch apiId fun handler => handler apiId request

/-- `DispatchResponse`. -/
def dispatchResponse (apiId : Int32) (response : Response) : AppProg K :=
  bridge.responseHandlers.dispatch apiId fun handler => handler apiId response

/-- `DispatchEventResult`. -/
def dispatchEventResult (result : MotionSwitcherEventResult) : AppProg K :=
  bridge.eventHandlers.dispatch result.apiId fun handler => handler result

/-- `HandleInterceptedRequest`. -/
def handleInterceptedRequest (request : Request) : AppProg K :=
  let apiId := request.apiId32
  (bridge.dispatchRequest apiId request).seq <|
  .call (.buildInterceptResponseData apiId request) fun app =>
    let (_, statusCode, responseData) :=
      app.motionSwitcherBridge.buildInterceptResponseData sdk apiId request
    let response := buildInterceptResponse request statusCode responseData
    (if MotionSwitcherBridge.isTrackedApi sdk apiId then
      bridge.dispatchEventResult
        { apiId := apiId, requestId := request.identity.id, statusCode := statusCode
          parameter := request.parameter, data := responseData }
    else .done).seq <|
    (Prog.one (.writeSwitcherResponse response)).seq <|
    bridge.dispatchResponse apiId response

end MotionSwitcherBridgeClass

end SdkEventBridge
