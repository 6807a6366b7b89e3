import SdkEventBridge.Model.Main

set_option relaxedAutoImplicit false
set_option autoImplicit false

/-!
# What a request makes the application do

A sport request goes through two handler tables and a parser before anything happens. This file
looks the handlers up once and for all: `sportCommand` is what the request asks for, and the
program of the request is the actions of that command, followed by the response. The same is
done for the requests of the motion switcher. Nothing after this file mentions a handler table.

## Main definitions

* `SportCommand`, `sportCommand`, `SportCommand.actions` — decoded sport requests.
* `DecodedFrom`, `SettingOf` — which request is decoded as a given command.
* `switcherOp` — the operation a motion switcher request makes on the velocity publisher.

## Main results

* `decodedFrom_sportCommand` — decoding, inverted.
* `program_sportRequest`, `program_switcherRequest` — the programs of requests, tables resolved.
-/

namespace SdkEventBridge

open PlanarNorm Resumption

/-! ## Decoding sport requests -/

/-- What a sport request asks for, its API id looked up and its parameter parsed. -/
inductive SportCommand where
  /-- Lock the joints, take a posture and publish an FSM command. -/
  | lockAnd (posture : RobotPosture) (fsm : FsmCommand)
  | balanceStand
  | stopMove
  | move (parameterJson : String)
  /-- One operation of the velocity publisher and nothing else. -/
  | setting (op : CmdVelOp)
  /-- An id nobody handles, or a parameter that does not parse. -/
  | ignored
  deriving DecidableEq

section Sport

variable {K : Type} (sdk : UnitreeSdk K)

/-- The setting for a parsed value, or nothing to do if the parameter did not parse. -/
def SportCommand.ofParsed {α : Type} (value : Option α) (op : α → CmdVelOp) : SportCommand :=
  match value with
  | some value => .setting (op value)
  | none => .ignored

/-- The command a sport request stands for: its id decides, and a parameter that does not parse
makes it an ignored one. -/
def sportCommand (request : Request) : SportCommand :=
  match sdk.sportApi? request.apiId32 with
  | some .standUp | some .recoveryStand => .lockAnd .standUp .getUpLocomotion
  | some .standDown => .lockAnd .standDown .getDown
  | some .damp => .lockAnd .standDown .passiveDamped
  | some .balanceStand => .balanceStand
  | some .stopMove => .stopMove
  | some .move => .move request.parameter
  | some .switchMoveMode =>
    .ofParsed (parseBoolParameter sdk request.parameter) .setContinuousMoveMode
  | some .speedLevel => .ofParsed (parseIntParameter sdk request.parameter) .setSpeedLevel
  | some .switchGait => .ofParsed (parseIntParameter sdk request.parameter) .setGait
  | some .visionWalk => .ofParsed (parseBoolParameter sdk request.parameter) .setVisionWalk
  | some .classicWalkGo2 | some .classicWalkB2 =>
    .ofParsed (parseBoolParameter sdk request.parameter) .setClassicWalk
  | some .fastWalk => .ofParsed (parseBoolParameter sdk request.parameter) .setFastWalk
  | some .freeWalkGo2 | some .freeWalkB2 => .setting .setFreeWalk
  | none => .ignored

/-- The request that is decoded as the setting `op`: its API id, and the value it parses to. -/
def SettingOf (request : Request) (op : CmdVelOp) : Prop :=
  let api := sdk.sportApi? request.apiId32
  let int := parseIntParameter sdk request.parameter
  let bool := parseBoolParameter sdk request.parameter
  match op with
  | .setContinuousMoveMode enabled => api = some .switchMoveMode ∧ bool = some enabled
  | .setSpeedLevel level => api = some .speedLevel ∧ int = some level
  | .setGait gait => api = some .switchGait ∧ int = some gait
  | .setVisionWalk enabled => api = some .visionWalk ∧ bool = some enabled
  | .setFreeWalk => api = some .freeWalkGo2 ∨ api = some .freeWalkB2
  | .setClassicWalk enabled =>
    (api = some .classicWalkGo2 ∨ api = some .classicWalkB2) ∧ bool = some enabled
  | .setFastWalk enabled => api = some .fastWalk ∧ bool = some enabled
  | .setMotionModeName _ | .resetToDefaults | .lockJoints | .unlockJoints | .handleMove _
  | .handleStop | .tick => False

/-- The request that is decoded as the command. -/
def DecodedFrom (request : Request) (cmd : SportCommand) : Prop :=
  let api := sdk.sportApi? request.apiId32
  match cmd with
  | .lockAnd .standUp fsm =>
    (api = some .standUp ∨ api = some .recoveryStand) ∧ fsm = .getUpLocomotion
  | .lockAnd .standDown fsm =>
    (api = some .standDown ∧ fsm = .getDown) ∨ (api = some .damp ∧ fsm = .passiveDamped)
  | .lockAnd .walking _ => False
  | .balanceStand => api = some .balanceStand
  | .stopMove => api = some .stopMove
  | .move parameterJson => api = some .move ∧ parameterJson = request.parameter
  | .setting op => SettingOf sdk request op
  | .ignored =>
    api = none ∨
    (api ∈ [some .speedLevel, some .switchGait] ∧
      parseIntParameter sdk request.parameter = none) ∨
    (api ∈ [some .switchMoveMode, some .visionWalk, some .classicWalkGo2, some .classicWalkB2,
      some .fastWalk] ∧ parseBoolParameter sdk request.parameter = none)

/-- **Decoding, inverted.** Every command says where it comes from. -/
theorem decodedFrom_sportCommand (request : Request) :
    DecodedFrom sdk request (sportCommand sdk request) := by
  unfold sportCommand
  cases hapi : sdk.sportApi? request.apiId32 with
  | none => exact Or.inl hapi
  | some api =>
    cases api with
    | speedLevel | switchGait =>
      cases hvalue : parseIntParameter sdk request.parameter <;>
        simp [SportCommand.ofParsed, DecodedFrom, SettingOf, hapi, hvalue]
    | switchMoveMode | visionWalk | classicWalkGo2 | classicWalkB2 | fastWalk =>
      cases hvalue : parseBoolParameter sdk request.parameter <;>
        simp [SportCommand.ofParsed, DecodedFrom, SettingOf, hapi, hvalue]
    | freeWalkGo2 | freeWalkB2 => simp [DecodedFrom, SettingOf, hapi]
    | _ => simp [DecodedFrom, hapi]

variable {sdk} {request : Request} {cmd : SportCommand}

/-- A request stands for the command it is decoded as. -/
theorem decodedFrom_of_eq (h : sportCommand sdk request = cmd) : DecodedFrom sdk request cmd :=
  h ▸ decodedFrom_sportCommand sdk request

variable (sdk)

/-- The response to a sport request; it does not depend on the state. -/
def sportResponse (request : Request) : Response :=
  buildInterceptResponse request sportStatusSuccess
    (SdkEventBridgeClass.buildInterceptResponseData sdk request.apiId32).2

/-- The end of every sport request: the delay of three of them, and the response. -/
def respond (request : Request) : AppProg K :=
  (if SdkEventBridgeClass.requiresPostureActionDelay sdk request.apiId32 then Prog.one .sleepFor
    else .done).seq (.one (.sendSportResponse (sportResponse sdk request)))

/-- The end of a sport request waits and sends, and makes no other call. -/
theorem calls_respond {P : Call → Prop} (request : Request) (hwait : P .sleepFor)
    (hsend : P (.sendSportResponse (sportResponse sdk request))) :
    (respond sdk request : AppProg K).Calls P := by
  unfold respond
  split_ifs
  · exact Prog.Calls.seq ⟨hwait, fun _ => trivial⟩ ⟨hsend, fun _ => trivial⟩
  · exact ⟨hsend, fun _ => trivial⟩

/-- Sport requests are always answered with success. -/
theorem buildInterceptResponseData_fst (apiId : Int32) :
    (SdkEventBridgeClass.buildInterceptResponseData sdk apiId).1 = sportStatusSuccess := by
  unfold SdkEventBridgeClass.buildInterceptResponseData
  cases sdk.internalApi? apiId with
  | none => rfl
  | some a => cases a <;> rfl

variable [Field K] [LinearOrder K]

/-- The calls made for a command. -/
def SportCommand.actions : SportCommand → AppProg K
  | .lockAnd posture fsm =>
    .call (.cmdVel .lockJoints) fun _ =>
    .call (.setRobotPosture posture) fun _ =>
    .one (.publishCommand fsm.toInt32)
  | .balanceStand =>
    .call (.cmdVel .unlockJoints) fun _ =>
    .call (.setRobotPosture .standUp) fun _ =>
    .one (.publishCommand FsmCommand.getUpLocomotion.toInt32)
  | .stopMove =>
    .call (.cmdVel .handleStop) fun _ =>
    .one (.setRobotPosture .standUp)
  | .move parameterJson =>
    .call (.cmdVel (.handleMove parameterJson)) fun _ =>
    updatePostureFromMove sdk parameterJson
  | .setting op => .one (.cmdVel op)
  | .ignored => .done

/-- The calls of a lock, a posture and a command. -/
@[simp] theorem actions_lockAnd (posture : RobotPosture) (fsm : FsmCommand) :
    (SportCommand.lockAnd posture fsm).actions sdk =
      .call (.cmdVel .lockJoints) fun _ =>
      .call (.setRobotPosture posture) fun _ =>
      .one (.publishCommand fsm.toInt32) := rfl

/-- The calls of BALANCESTAND. -/
@[simp] theorem actions_balanceStand :
    SportCommand.balanceStand.actions sdk =
      .call (.cmdVel .unlockJoints) fun _ =>
      .call (.setRobotPosture .standUp) fun _ =>
      .one (.publishCommand FsmCommand.getUpLocomotion.toInt32) := rfl

/-- The calls of STOPMOVE. -/
@[simp] theorem actions_stopMove :
    SportCommand.stopMove.actions sdk =
      .call (.cmdVel .handleStop) fun _ =>
      .one (.setRobotPosture .standUp) := rfl

/-- The calls of a MOVE. -/
@[simp] theorem actions_move (parameterJson : String) :
    (SportCommand.move parameterJson).actions sdk =
      .call (.cmdVel (.handleMove parameterJson)) fun _ =>
      updatePostureFromMove sdk parameterJson := rfl

/-- The report of a MOVE reads the lock and may write Walking, and makes no other call. -/
theorem calls_updatePostureFromMove {P : Call → Prop} (parameterJson : String)
    (hlock : P .isJointsLocked) (hset : P (.setRobotPosture .walking)) :
    (updatePostureFromMove sdk parameterJson : AppProg K).Calls P := by
  refine ⟨hlock, fun app => ?_⟩
  dsimp only
  split_ifs <;> simp [hset]

/-- The only call of a setting. -/
@[simp] theorem actions_setting (op : CmdVelOp) :
    (SportCommand.setting op).actions sdk = .one (.cmdVel op) := rfl

/-- An ignored request makes no call. -/
@[simp] theorem actions_ignored : SportCommand.ignored.actions sdk = .done := rfl

/-- A handler that parses and then makes one call acts as the setting it parses. -/
theorem parseThenCall_eq {α : Type} {parse : String → Option α} {op : α → CmdVelOp}
    {result : SportEventResult} (h : result.isSuccess = true) :
    parseThenCall parse op result =
      (SportCommand.ofParsed (parse result.parameter) op).actions sdk := by
  unfold parseThenCall SportCommand.ofParsed
  cases parse result.parameter <;> simp [h]

/-- The request handlers `main` registers. -/
theorem requestHandlers_specific (api : SportApi) :
    (sportBridge sdk).requestHandlers.specific (sdk.sportApiId api) =
      match api with
      | .standUp => some (standUpRequestHandler sdk)
      | .standDown => some (standDownRequestHandler sdk)
      | .recoveryStand => some (recoveryStandRequestHandler sdk)
      | _ => none := by
  cases api <;>
    simp [sportBridge, registerSportEventLogging, SdkEventBridgeClass.registerSportRequestHandler,
      SdkEventBridgeClass.registerSportEventHandler, HandlerTable.register,
      sdk.sportApiId_injective.eq_iff, SdkEventBridgeClass.init,
      HandlerTable.empty]

/-- The event handlers `main` registers: one for every tracked id. -/
theorem eventHandlers_specific (api : SportApi) :
    (sportBridge sdk).eventHandlers.specific (sdk.sportApiId api) =
      some (match api with
      | .damp => dampHandler sdk
      | .move => moveHandler sdk
      | .switchMoveMode => switchMoveModeHandler sdk
      | .speedLevel => speedLevelHandler sdk
      | .balanceStand => balanceStandHandler sdk
      | .switchGait => switchGaitHandler sdk
      | .stopMove => stopMoveHandler
      | .standUp | .standDown | .recoveryStand => logOnlyHandler
      | .freeWalkGo2 | .freeWalkB2 => freeWalkHandler
      | .visionWalk => visionWalkHandler sdk
      | .classicWalkGo2 | .classicWalkB2 => classicWalkHandler sdk
      | .fastWalk => fastWalkHandler sdk) := by
  cases api <;>
    simp [sportBridge, registerSportEventLogging, SdkEventBridgeClass.registerSportRequestHandler,
      SdkEventBridgeClass.registerSportEventHandler, HandlerTable.register,
      sdk.sportApiId_injective.eq_iff]

/-- Nothing is registered for an id that is not tracked. -/
theorem requestHandlers_specific_of_none {apiId : Int32} (h : sdk.sportApi? apiId = none) :
    (sportBridge sdk).requestHandlers.specific apiId = none := by
  have hne : ∀ api, apiId ≠ sdk.sportApiId api := by
    rintro api rfl
    simp at h
  simp [sportBridge, registerSportEventLogging, SdkEventBridgeClass.registerSportRequestHandler,
    SdkEventBridgeClass.registerSportEventHandler, HandlerTable.register,
    hne, SdkEventBridgeClass.init, HandlerTable.empty]

/-- What `DispatchRequest` runs. -/
theorem dispatchRequest_sportApiId (api : SportApi) (request : Request) :
    (sportBridge sdk).dispatchRequest (sdk.sportApiId api) request =
      match api with
      | .standUp => standUpRequestHandler sdk (sdk.sportApiId api) request
      | .standDown => standDownRequestHandler sdk (sdk.sportApiId api) request
      | .recoveryStand => recoveryStandRequestHandler sdk (sdk.sportApiId api) request
      | _ => .done := by
  have hdefault : (sportBridge sdk).requestHandlers.default = none := rfl
  rw [SdkEventBridgeClass.dispatchRequest, HandlerTable.dispatch, requestHandlers_specific,
    hdefault]
  cases api <;> simp

/-- **The program of a sport request**: the actions of its command, then the response.

**Proof sketch.** Case analysis on the api id. The three dispatchers look up the tables that `main`
registers; with the registered handlers put in, both sides are the same sequence of calls. A foreign
id finds no handler and is only answered. -/
theorem program_sportRequest (request : Request) :
    program sdk (.sportRequest request) =
      ((sportCommand sdk request).actions sdk).seq (respond sdk request) := by
  have hcode := buildInterceptResponseData_fst sdk request.apiId32
  have hresponse : (sportBridge sdk).responseHandlers = .empty := rfl
  have hdefault : (sportBridge sdk).eventHandlers.default = none := rfl
  cases h : sdk.sportApi? request.apiId32 with
  | none =>
    have hrequest : (sportBridge sdk).requestHandlers.default = none := rfl
    simp [program, SdkEventBridgeClass.handleInterceptedRequest, h,
      SdkEventBridgeClass.dispatchRequest, SdkEventBridgeClass.dispatchResponse,
      HandlerTable.dispatch, requestHandlers_specific_of_none sdk h, hrequest, hresponse,
      SdkEventBridgeClass.isTrackedSportApi, HandlerTable.empty, sportCommand, respond,
      sportResponse, hcode, SdkEventBridgeClass.requiresPostureActionDelay]
  | some api =>
    have hid : sdk.sportApiId api = request.apiId32 := sdk.sportApi?_eq_some_iff.mp h
    have hdispatch := dispatchRequest_sportApiId sdk api request
    have hevent := eventHandlers_specific sdk api
    rw [hid] at hdispatch hevent
    cases api <;>
      simp [program, SdkEventBridgeClass.handleInterceptedRequest, h, hdispatch, hevent,
        SdkEventBridgeClass.dispatchEventResult, SdkEventBridgeClass.dispatchResponse,
        HandlerTable.dispatch, hdefault, hresponse, HandlerTable.empty,
        SdkEventBridgeClass.isTrackedSportApi, SdkEventBridgeClass.requiresPostureActionDelay,
        sportCommand, respond, sportResponse, hcode,
        SportEventResult.isSuccess, publishFsmCommandIfMapped,
        CmdCtlPublisher.tryMapSportApiToFsmCommand, standUpRequestHandler,
        standDownRequestHandler, recoveryStandRequestHandler, logOnlyHandler, dampHandler,
        moveHandler, balanceStandHandler, stopMoveHandler, freeWalkHandler,
        switchMoveModeHandler, speedLevelHandler, switchGaitHandler, visionWalkHandler,
        classicWalkHandler, fastWalkHandler, parseThenCall_eq sdk]

end Sport

/-! ## Motion switcher requests -/

section Switcher

variable {K : Type} (sdk : UnitreeSdk K) (s : MotionSwitcherBridge) (request : Request)

/-- The response to a motion switcher request that arrives in state `s`. -/
def switcherResponse : Response :=
  let (_, statusCode, data) := s.buildInterceptResponseData sdk request.apiId32 request
  buildInterceptResponse request statusCode data

/-- The operation of the velocity publisher that an accepted mode change leads to. -/
def switcherOp : Option CmdVelOp :=
  match sdk.switcherApi? request.apiId32 with
  | some .selectMode =>
    if (s.selectMode sdk request).2.1 = sportStatusSuccess then
      (parseStringParameter sdk request.parameter "name").map .setMotionModeName
    else none
  | some .releaseMode =>
    if (s.releaseMode sdk).2.1 = sportStatusSuccess then some (.setMotionModeName "ai") else none
  | _ => none

variable {s request}

variable {sdk} in
/-- A mode change reaches the velocity publisher as a new profile. -/
theorem eq_setMotionModeName_of_switcherOp {op : CmdVelOp}
    (h : switcherOp sdk s request = some op) :
    ∃ name, op = .setMotionModeName name := by
  unfold switcherOp at h
  split at h
  · split_ifs at h
    obtain ⟨name, -, rfl⟩ := Option.map_eq_some_iff.mp h
    exact ⟨name, rfl⟩
  · split_ifs at h
    exact ⟨"ai", (Option.some.inj h).symm⟩
  · exact absurd h (by simp)

/-- `SELECT_MODE` is rejected as busy, is rejected for its parameter, or stores the name.

**Proof sketch.** Case analysis on the posture, then on what the parser returns, then on the name
being empty. -/
theorem selectMode_cases (s : MotionSwitcherBridge) (request : Request) :
    (s.robotPosture ≠ .standDown ∧ s.selectMode sdk request = (s, sdk.errBusy, "")) ∨
    (s.robotPosture = .standDown ∧
      (∀ m, sdk.fromJsonModeName request.parameter = some m → m.name = "") ∧
      s.selectMode sdk request = (s, sdk.errApiParameter, "")) ∨
    (s.robotPosture = .standDown ∧
      ∃ m, sdk.fromJsonModeName request.parameter = some m ∧ m.name ≠ "" ∧
        s.selectMode sdk request =
          ({ s with modeName := m.name, form := if m.form.isEmpty then s.form else m.form },
            sportStatusSuccess, "")) := by
  by_cases hdown : s.robotPosture = .standDown
  · have hcan : s.canChangeMotionMode = true := by
      simp [MotionSwitcherBridge.canChangeMotionMode, hdown]
    cases hparse : sdk.fromJsonModeName request.parameter with
    | none =>
      refine Or.inr (Or.inl ⟨hdown, by simp, ?_⟩)
      simp [MotionSwitcherBridge.selectMode, hcan, hparse]
    | some m =>
      by_cases hname : m.name = ""
      · refine Or.inr (Or.inl ⟨hdown, ?_, ?_⟩)
        · rintro m' hm'
          rw [← Option.some.inj hm', hname]
        · simp [MotionSwitcherBridge.selectMode, hcan, hparse, hname]
      · refine Or.inr (Or.inr ⟨hdown, m, rfl, hname, ?_⟩)
        cases hform : m.form.isEmpty <;>
          simp [MotionSwitcherBridge.selectMode, hcan, hparse, hname, hform]
  · have hcan : s.canChangeMotionMode = false := by
      simp [MotionSwitcherBridge.canChangeMotionMode, hdown]
    exact Or.inl ⟨hdown, by simp [MotionSwitcherBridge.selectMode, hcan]⟩

/-- `RELEASE_MODE` is rejected as busy or clears the name. -/
theorem releaseMode_cases (s : MotionSwitcherBridge) :
    (s.robotPosture ≠ .standDown ∧ s.releaseMode sdk = (s, sdk.errBusy, "")) ∨
    (s.robotPosture = .standDown ∧
      s.releaseMode sdk = ({ s with modeName := "" }, sportStatusSuccess, "")) := by
  by_cases hdown : s.robotPosture = .standDown
  · exact Or.inr ⟨hdown, by
      simp [MotionSwitcherBridge.releaseMode, MotionSwitcherBridge.canChangeMotionMode, hdown]⟩
  · exact Or.inl ⟨hdown, by
      simp [MotionSwitcherBridge.releaseMode, MotionSwitcherBridge.canChangeMotionMode, hdown]⟩

/-- The `switch` of `BuildInterceptResponseData` on a tracked id. -/
theorem buildInterceptResponseData_switcherApiId (s : MotionSwitcherBridge) (request : Request)
    (api : SwitcherApi) :
    s.buildInterceptResponseData sdk (sdk.switcherApiId api) request =
      match api with
      | .checkMode =>
        (s, sportStatusSuccess, sdk.toJsonModeName { form := s.form, name := s.modeName })
      | .selectMode => s.selectMode sdk request
      | .releaseMode => s.releaseMode sdk
      | .setSilent => s.setSilent sdk request
      | .getSilent => (s, sportStatusSuccess, sdk.toJsonSilent { silent := s.silent }) := by
  rw [MotionSwitcherBridge.buildInterceptResponseData, sdk.internalApi?_switcherApiId,
    sdk.switcherApi?_switcherApiId]
  cases api <;> rfl

/-- On an id that is not tracked only an internal request changes the answer. -/
theorem buildInterceptResponseData_of_none {apiId : Int32} (h : sdk.switcherApi? apiId = none) :
    (s.buildInterceptResponseData sdk apiId request).1 = s := by
  rw [MotionSwitcherBridge.buildInterceptResponseData, h]
  cases sdk.internalApi? apiId with
  | none => rfl
  | some a => cases a <;> rfl

/-- Answering a motion switcher request leaves the posture as it is. -/
@[simp] theorem buildInterceptResponseData_robotPosture {apiId : Int32} :
    (s.buildInterceptResponseData sdk apiId request).1.robotPosture = s.robotPosture := by
  cases h : sdk.switcherApi? apiId with
  | none => rw [buildInterceptResponseData_of_none sdk h]
  | some api =>
    rw [← sdk.switcherApi?_eq_some_iff.mp h, buildInterceptResponseData_switcherApiId]
    cases api with
    | selectMode =>
      rcases selectMode_cases sdk s request with ⟨-, h⟩ | ⟨-, -, h⟩ | ⟨-, m, -, -, h⟩ <;>
        simp only [h]
    | releaseMode =>
      rcases releaseMode_cases sdk s with ⟨-, h⟩ | ⟨-, h⟩ <;> simp only [h]
    | setSilent =>
      simp only [MotionSwitcherBridge.setSilent]
      cases sdk.fromJsonSilent request.parameter <;> rfl
    | _ => rfl

/-- The call of an operation of the velocity publisher, if there is one to make. -/
def callIfSome : Option CmdVelOp → AppProg K
  | some op => .one (.cmdVel op)
  | none => .done

variable [Field K] [LinearOrder K]

omit [Field K] [LinearOrder K] in
/-- The event handlers `main` registers for the motion switcher. -/
theorem switcherEventHandlers_specific (api : SwitcherApi) :
    (switcherBridge sdk).eventHandlers.specific (sdk.switcherApiId api) =
      some (match api with
      | .selectMode => selectModeHandler sdk
      | .releaseMode => releaseModeHandler
      | .checkMode | .setSilent | .getSilent => logOnlySwitcherHandler) := by
  cases api <;>
    simp [switcherBridge, registerMotionSwitcherEventLogging,
      MotionSwitcherBridgeClass.registerEventHandler, HandlerTable.register,
      sdk.switcherApiId_injective.eq_iff]

variable (request)

/-- **The program of a motion switcher request**: answer it, then let an accepted mode change
reach the velocity publisher, then write the response.

**Proof sketch.** Case analysis on the api id, as for sport requests. The event handler of an
accepted mode change is the call that `switcherOp` names; for the other ids it only logs. -/
theorem program_switcherRequest :
    program sdk (.switcherRequest request) =
      .call (.buildInterceptResponseData request.apiId32 request) fun app =>
        (callIfSome (switcherOp sdk app.motionSwitcherBridge request)).seq
        (.one (.writeSwitcherResponse
          (switcherResponse sdk app.motionSwitcherBridge request))) := by
  have hrequest : (switcherBridge sdk).requestHandlers = .empty := rfl
  have hresponse : (switcherBridge sdk).responseHandlers = .empty := rfl
  have hdefault : (switcherBridge sdk).eventHandlers.default = none := rfl
  cases h : sdk.switcherApi? request.apiId32 with
  | none =>
    simp [program, MotionSwitcherBridgeClass.handleInterceptedRequest, h,
      MotionSwitcherBridgeClass.dispatchRequest, MotionSwitcherBridgeClass.dispatchResponse,
      HandlerTable.dispatch, HandlerTable.empty, hrequest, hresponse, switcherOp,
      switcherResponse, callIfSome, MotionSwitcherBridge.isTrackedApi]
  | some api =>
    have hid : sdk.switcherApiId api = request.apiId32 := sdk.switcherApi?_eq_some_iff.mp h
    have hevent := switcherEventHandlers_specific sdk api
    rw [hid] at hevent
    have hdata : ∀ s : MotionSwitcherBridge, _ := fun s =>
      buildInterceptResponseData_switcherApiId sdk s request api
    rw [hid] at hdata
    simp only [program, MotionSwitcherBridgeClass.handleInterceptedRequest, hdata,
      MotionSwitcherBridgeClass.dispatchRequest, MotionSwitcherBridgeClass.dispatchResponse,
      MotionSwitcherBridgeClass.dispatchEventResult,
      HandlerTable.dispatch, HandlerTable.empty, hrequest, hresponse, hdefault, hevent,
      MotionSwitcherBridge.isTrackedApi, h, switcherOp, switcherResponse]
    cases api with
    | selectMode =>
      refine congrArg (Prog.call _) (funext fun app => ?_)
      by_cases hs : (app.motionSwitcherBridge.selectMode sdk request).2.1 = sportStatusSuccess
      · cases hname : parseStringParameter sdk request.parameter "name" <;>
          simp [selectModeHandler, MotionSwitcherEventResult.isSuccess, hs, hname, callIfSome]
      · simp [selectModeHandler, MotionSwitcherEventResult.isSuccess, hs, callIfSome]
    | releaseMode =>
      refine congrArg (Prog.call _) (funext fun app => ?_)
      by_cases hs : (app.motionSwitcherBridge.releaseMode sdk).2.1 = sportStatusSuccess <;>
        simp [releaseModeHandler, MotionSwitcherEventResult.isSuccess, hs, callIfSome]
    | _ => simp [logOnlySwitcherHandler, callIfSome]

/-- A motion switcher request makes three kinds of calls. -/
theorem calls_program_switcherRequest {P : Call → Prop}
    (hanswer : P (.buildInterceptResponseData request.apiId32 request))
    (hop : ∀ name, P (.cmdVel (.setMotionModeName name)))
    (hwrite : ∀ response, P (.writeSwitcherResponse response)) :
    (program sdk (.switcherRequest request)).Calls P := by
  rw [program_switcherRequest]
  refine ⟨hanswer, fun app => Prog.Calls.seq ?_ ⟨hwrite _, fun _ => trivial⟩⟩
  cases hcall : switcherOp sdk app.motionSwitcherBridge request with
  | none => trivial
  | some op =>
    obtain ⟨name, rfl⟩ := eq_setMotionModeName_of_switcherOp hcall
    exact ⟨hop name, fun _ => trivial⟩

end Switcher

/-! ## The main loop -/

section Loop

variable {K : Type} {P : Call → Prop}

/-- After its `Tick` the main loop makes three kinds of calls. -/
theorem calls_loopReadMotion (hmoving : P .isActivelyMoving) (hread : P .getRobotPosture)
    (hset : ∀ posture, P (.setRobotPosture posture)) : (loopReadMotion : AppProg K).Calls P := by
  refine ⟨hmoving, fun app => ?_⟩
  dsimp only
  split_ifs
  · exact ⟨hset .walking, fun _ => trivial⟩
  · refine ⟨hread, fun app' => ?_⟩
    dsimp only
    split_ifs
    · exact ⟨hset .standUp, fun _ => trivial⟩
    · trivial

/-- An iteration of the main loop makes one kind more. -/
theorem calls_loopIteration (htick : P (.cmdVel .tick)) (hmoving : P .isActivelyMoving)
    (hread : P .getRobotPosture) (hset : ∀ posture, P (.setRobotPosture posture)) :
    (loopIteration : AppProg K).Calls P :=
  ⟨htick, fun _ => calls_loopReadMotion hmoving hread hset⟩

end Loop

end SdkEventBridge
