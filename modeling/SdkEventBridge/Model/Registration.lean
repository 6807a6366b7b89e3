import SdkEventBridge.Model.Main
import SdkEventBridge.Library.Run

set_option relaxedAutoImplicit false
set_option autoImplicit false

/-!
# Registering handlers

The registration functions of the two bridges (`src/sdk_event_bridge.cpp`,
`src/motion_switcher_bridge.cpp`) in full: `main` uses some of them, each once and never with an
empty `std::function`, but they are public and may be called in any order, again and again. A
`std::function` that may be empty is an `Option`. An empty one that is registered stays in the map,
and the dispatch functions skip it, as if there were none.

## Main definitions

* `Registration`, `HandlerTable.apply` — one registration on a handler table.
* `BridgeRegistration`, with `SportRegistration` and `SwitcherRegistration` — the registration
  functions of the bridges.
* `SdkEventBridgeClass.registered`, `MotionSwitcherBridgeClass.registered` — a bridge after a
  history of registrations.
* `mainSportRegistrations`, `mainSwitcherRegistrations` — those that `main` makes.
* `bridgedSystem` — the application with other handlers.

## Main results

* `registerSportEventLogging_eq`, `registerMotionSwitcherEventLogging_eq`, `bridgedSystem_main` —
  the handlers of `main` are one history among others.
-/

namespace SdkEventBridge

open PlanarNorm Resumption Run

/-- One registration on a handler table: the default handler is set, or a handler is registered for
some API ids. -/
inductive Registration (H : Type) where
  | set (handler : Option H)
  | register (apiIds : List Int32) (handler : Option H)

namespace HandlerTable

variable {H : Type} (table : HandlerTable H)

/-- `table[apiId] = std::move(handler)`. -/
def assign (handler : Option H) (apiId : Int32) : HandlerTable H :=
  { table with specific := Function.update table.specific apiId handler }

/-- One registration. -/
def apply : Registration H → HandlerTable H
  | .set handler => { table with default := handler }
  | .register apiIds handler => apiIds.foldl (fun table apiId => table.assign handler apiId) table

end HandlerTable

/-- One registration on a bridge whose event handlers receive an `E`. -/
inductive BridgeRegistration (E K : Type) where
  | onRequest (registration : Registration (Int32 → Request → AppProg K))
  | onResponse (registration : Registration (Int32 → Response → AppProg K))
  | onEvent (registration : Registration (E → AppProg K))

/-! ## The sport bridge -/

/-- One registration on the sport bridge. -/
abbrev SportRegistration (K : Type) := BridgeRegistration SportEventResult K

namespace SportRegistration

variable {K : Type} (sdk : UnitreeSdk K)

/-- `SetSportRequestHandler`. -/
def setSportRequestHandler (handler : Option (Int32 → Request → AppProg K)) :
    SportRegistration K :=
  .onRequest (.set handler)

/-- `SetSportResponseHandler`. -/
def setSportResponseHandler (handler : Option (Int32 → Response → AppProg K)) :
    SportRegistration K :=
  .onResponse (.set handler)

/-- `SetSportEventHandler`. -/
def setSportEventHandler (handler : Option (SportEventResult → AppProg K)) :
    SportRegistration K :=
  .onEvent (.set handler)

/-- `RegisterSportRequestHandler`. -/
def registerSportRequestHandler (apiId : Int32)
    (handler : Option (Int32 → Request → AppProg K)) : SportRegistration K :=
  .onRequest (.register [apiId] handler)

/-- `RegisterSportResponseHandler`. -/
def registerSportResponseHandler (apiId : Int32)
    (handler : Option (Int32 → Response → AppProg K)) : SportRegistration K :=
  .onResponse (.register [apiId] handler)

/-- `RegisterSportEventHandler`. -/
def registerSportEventHandler (apiId : Int32)
    (handler : Option (SportEventResult → AppProg K)) : SportRegistration K :=
  .onEvent (.register [apiId] handler)

/-- The functions that register an event handler for the ids of one API. -/
def registerEventHandlerFor (apis : List SportApi)
    (handler : Option (SportEventResult → AppProg K)) : SportRegistration K :=
  .onEvent (.register (apis.map sdk.sportApiId) handler)

/-- `RegisterDampHandler`. -/
def registerDampHandler := registerEventHandlerFor sdk [.damp]

/-- `RegisterMoveHandler`. -/
def registerMoveHandler := registerEventHandlerFor sdk [.move]

/-- `RegisterBalanceStandHandler`. -/
def registerBalanceStandHandler := registerEventHandlerFor sdk [.balanceStand]

/-- `RegisterStopMoveHandler`. -/
def registerStopMoveHandler := registerEventHandlerFor sdk [.stopMove]

/-- `RegisterStandUpHandler`. -/
def registerStandUpHandler := registerEventHandlerFor sdk [.standUp]

/-- `RegisterStandDownHandler`. -/
def registerStandDownHandler := registerEventHandlerFor sdk [.standDown]

/-- `RegisterRecoveryStandHandler`. -/
def registerRecoveryStandHandler := registerEventHandlerFor sdk [.recoveryStand]

/-- `RegisterFreeWalkHandler`, which shares the handler between two ids. -/
def registerFreeWalkHandler := registerEventHandlerFor sdk [.freeWalkGo2, .freeWalkB2]

/-- `RegisterVisionWalkHandler`. -/
def registerVisionWalkHandler := registerEventHandlerFor sdk [.visionWalk]

/-- `RegisterClassicWalkHandler`, which shares the handler between two ids. -/
def registerClassicWalkHandler := registerEventHandlerFor sdk [.classicWalkGo2, .classicWalkB2]

/-- `RegisterFastWalkHandler`. -/
def registerFastWalkHandler := registerEventHandlerFor sdk [.fastWalk]

/-- `RegisterSwitchMoveModeHandler`. -/
def registerSwitchMoveModeHandler := registerEventHandlerFor sdk [.switchMoveMode]

/-- `RegisterSpeedLevelHandler`. -/
def registerSpeedLevelHandler := registerEventHandlerFor sdk [.speedLevel]

/-- `RegisterSwitchGaitHandler`. -/
def registerSwitchGaitHandler := registerEventHandlerFor sdk [.switchGait]

end SportRegistration

namespace SdkEventBridgeClass

variable {K : Type}

/-- One registration. -/
def register (bridge : SdkEventBridgeClass K) : SportRegistration K → SdkEventBridgeClass K
  | .onRequest r => { bridge with requestHandlers := bridge.requestHandlers.apply r }
  | .onResponse r => { bridge with responseHandlers := bridge.responseHandlers.apply r }
  | .onEvent r => { bridge with eventHandlers := bridge.eventHandlers.apply r }

/-- The bridge after a history of registrations. -/
def registered (rs : List (SportRegistration K)) : SdkEventBridgeClass K := run register init rs

end SdkEventBridgeClass

/-- The registrations of `RegisterSportEventLogging`, in order. -/
def mainSportRegistrations {K : Type} [Field K] [LinearOrder K] (sdk : UnitreeSdk K) :
    List (SportRegistration K) :=
  open SportRegistration in
  [registerSportRequestHandler (sdk.sportApiId .standUp) (some (standUpRequestHandler sdk)),
    registerSportRequestHandler (sdk.sportApiId .standDown) (some (standDownRequestHandler sdk)),
    registerSportRequestHandler (sdk.sportApiId .recoveryStand)
      (some (recoveryStandRequestHandler sdk)),
    registerDampHandler sdk (some (dampHandler sdk)),
    registerMoveHandler sdk (some (moveHandler sdk)),
    registerSwitchMoveModeHandler sdk (some (switchMoveModeHandler sdk)),
    registerSpeedLevelHandler sdk (some (speedLevelHandler sdk)),
    registerBalanceStandHandler sdk (some (balanceStandHandler sdk)),
    registerSwitchGaitHandler sdk (some (switchGaitHandler sdk)),
    registerStopMoveHandler sdk (some stopMoveHandler),
    registerStandUpHandler sdk (some logOnlyHandler),
    registerStandDownHandler sdk (some logOnlyHandler),
    registerRecoveryStandHandler sdk (some logOnlyHandler),
    registerFreeWalkHandler sdk (some freeWalkHandler),
    registerVisionWalkHandler sdk (some (visionWalkHandler sdk)),
    registerClassicWalkHandler sdk (some (classicWalkHandler sdk)),
    registerFastWalkHandler sdk (some (fastWalkHandler sdk))]

/-- The sport bridge of `main` is the one after its registrations. -/
theorem registerSportEventLogging_eq {K : Type} [Field K] [LinearOrder K] (sdk : UnitreeSdk K) :
    registerSportEventLogging sdk .init =
      SdkEventBridgeClass.registered (mainSportRegistrations sdk) := rfl

/-! ## The motion switcher bridge -/

/-- One registration on the motion switcher bridge. -/
abbrev SwitcherRegistration (K : Type) := BridgeRegistration MotionSwitcherEventResult K

namespace SwitcherRegistration

variable {K : Type} (sdk : UnitreeSdk K)

/-- `SetResponseHandler`. -/
def setResponseHandler (handler : Option (Int32 → Response → AppProg K)) :
    SwitcherRegistration K :=
  .onResponse (.set handler)

/-- `SetEventHandler`. -/
def setEventHandler (handler : Option (MotionSwitcherEventResult → AppProg K)) :
    SwitcherRegistration K :=
  .onEvent (.set handler)

/-- `RegisterResponseHandler`. -/
def registerResponseHandler (apiId : Int32)
    (handler : Option (Int32 → Response → AppProg K)) : SwitcherRegistration K :=
  .onResponse (.register [apiId] handler)

/-- `RegisterEventHandler`. -/
def registerEventHandler (apiId : Int32)
    (handler : Option (MotionSwitcherEventResult → AppProg K)) : SwitcherRegistration K :=
  .onEvent (.register [apiId] handler)

/-- `RegisterCheckModeHandler`. -/
def registerCheckModeHandler := registerEventHandler (K := K) (sdk.switcherApiId .checkMode)

/-- `RegisterSelectModeHandler`. -/
def registerSelectModeHandler := registerEventHandler (K := K) (sdk.switcherApiId .selectMode)

/-- `RegisterReleaseModeHandler`. -/
def registerReleaseModeHandler := registerEventHandler (K := K) (sdk.switcherApiId .releaseMode)

/-- `RegisterSetSilentHandler`. -/
def registerSetSilentHandler := registerEventHandler (K := K) (sdk.switcherApiId .setSilent)

/-- `RegisterGetSilentHandler`. -/
def registerGetSilentHandler := registerEventHandler (K := K) (sdk.switcherApiId .getSilent)

end SwitcherRegistration

namespace MotionSwitcherBridgeClass

variable {K : Type}

/-- One registration. -/
def register (bridge : MotionSwitcherBridgeClass K) :
    SwitcherRegistration K → MotionSwitcherBridgeClass K
  | .onRequest r => { bridge with requestHandlers := bridge.requestHandlers.apply r }
  | .onResponse r => { bridge with responseHandlers := bridge.responseHandlers.apply r }
  | .onEvent r => { bridge with eventHandlers := bridge.eventHandlers.apply r }

/-- The bridge after a history of registrations. -/
def registered (rs : List (SwitcherRegistration K)) : MotionSwitcherBridgeClass K :=
  run register init rs

end MotionSwitcherBridgeClass

/-- The registrations of `RegisterMotionSwitcherEventLogging`, in order. -/
def mainSwitcherRegistrations {K : Type} [Field K] [LinearOrder K] (sdk : UnitreeSdk K) :
    List (SwitcherRegistration K) :=
  open SwitcherRegistration in
  [registerCheckModeHandler sdk (some logOnlySwitcherHandler),
    registerSelectModeHandler sdk (some (selectModeHandler sdk)),
    registerReleaseModeHandler sdk (some releaseModeHandler),
    registerSetSilentHandler sdk (some logOnlySwitcherHandler),
    registerGetSilentHandler sdk (some logOnlySwitcherHandler)]

/-- The motion switcher bridge of `main` is the one after its registrations. -/
theorem registerMotionSwitcherEventLogging_eq {K : Type} [Field K] [LinearOrder K]
    (sdk : UnitreeSdk K) :
    registerMotionSwitcherEventLogging sdk .init =
      MotionSwitcherBridgeClass.registered (mainSwitcherRegistrations sdk) := rfl

/-! ## The application with other handlers -/

/-- The application in which these histories of registrations come before `Start`. -/
def bridgedSystem {K : Type} [Field K] [LinearOrder K] [HasHypot K] (sdk : UnitreeSdk K)
    (sport : List (SportRegistration K)) (switcher : List (SwitcherRegistration K)) :
    System Thread AppInput Time (App K) Call (Output K) where
  call := App.call sdk
  thread := (appSystem sdk).thread
  program
    | .sportRequest request =>
      (SdkEventBridgeClass.registered sport).handleInterceptedRequest sdk request
    | .switcherRequest request =>
      (MotionSwitcherBridgeClass.registered switcher).handleInterceptedRequest sdk request
    | .reset => resetCallback
    | .loop => loopIteration

/-- With the registrations of `main` the application is the one that `main` runs. -/
theorem bridgedSystem_main {K : Type} [Field K] [LinearOrder K] [HasHypot K]
    (sdk : UnitreeSdk K) :
    bridgedSystem sdk (mainSportRegistrations sdk) (mainSwitcherRegistrations sdk) =
      appSystem sdk := by
  rw [bridgedSystem, appSystem]
  congr 1

end SdkEventBridge
