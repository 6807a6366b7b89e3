import SdkEventBridge.Library.Run
import SdkEventBridge.Model.Sdk

set_option relaxedAutoImplicit false
set_option autoImplicit false

/-!
# Channels and their lifecycle

`Init`, `Start` and `Stop` of the two bridges, `InitChannel` and `CloseChannel` of the `/reset`
subscriber, and `InitUnitreeChannelFactoryOnce`. What counts is which channels are open, since a
request can only arrive while its channel is open, and in which order they are opened and closed.
The `unique_ptr`s of the bridges are modelled by whether they hold an object.

## Main definitions

* `Channel`, `ChannelEvent` — the channels of the process, and what happens to them.
* `Lifecycle` — the fields that decide which channels are open.
* `LifecycleCall`, `Lifecycle.step` — the public functions.
-/

namespace SdkEventBridge

open Run

/-- The channels of the bridges and of the `/reset` subscriber. -/
inductive Channel where
  | sportServer | switcherResponse | switcherRequest | reset
  deriving DecidableEq, Repr

/-- What happens to the channels. -/
inductive ChannelEvent where
  | factoryInit (domainId : Int32) (networkInterface : String)
  | opened (channel : Channel)
  | closed (channel : Channel)
  deriving DecidableEq, Repr

/-- The constructor arguments of a bridge. -/
structure BridgeConfig where
  domainId : Int32
  networkInterface : String
  deriving DecidableEq, Repr

/-- `SdkEventBridgeClass` without its handlers: `sportServerStub` tells whether `mSportServerStub`
holds an object. -/
structure SportLifecycle where
  initialized : Bool
  started : Bool
  sportServerStub : Bool
  deriving DecidableEq, Repr

/-- `MotionSwitcherBridgeClass` without its handlers and its switcher state. -/
structure SwitcherLifecycle where
  initialized : Bool
  started : Bool
  responsePublisher : Bool
  requestSubscriber : Bool
  deriving DecidableEq, Repr

/-- Everything that decides which channels are open, with the static variable of
`InitUnitreeChannelFactoryOnce`. -/
structure Lifecycle where
  factoryInitialized : Bool
  sport : SportLifecycle
  switcher : SwitcherLifecycle
  resetInitialized : Bool
  deriving DecidableEq, Repr

namespace Lifecycle

/-- The constructors. -/
def init : Lifecycle where
  factoryInitialized := false
  sport := { initialized := false, started := false, sportServerStub := false }
  switcher :=
    { initialized := false, started := false, responsePublisher := false
      requestSubscriber := false }
  resetInitialized := false

variable (s : Lifecycle)

/-- `InitUnitreeChannelFactoryOnce`. -/
def initUnitreeChannelFactoryOnce (config : BridgeConfig) : Lifecycle × List ChannelEvent :=
  if s.factoryInitialized then (s, [])
  else
    ({ s with factoryInitialized := true },
      [.factoryInit config.domainId config.networkInterface])

/-! ## The sport bridge -/

/-- `SdkEventBridgeClass::Init`. -/
def sportInit (config : BridgeConfig) : Lifecycle × List ChannelEvent :=
  if s.sport.initialized then (s, [])
  else
    let (s, events) := s.initUnitreeChannelFactoryOnce config
    ({ s with sport := { s.sport with initialized := true } }, events)

/-- `SdkEventBridgeClass::StartIntercept`. The assignment destroys a former object. -/
def sportStartIntercept : Lifecycle × List ChannelEvent :=
  ({ s with sport := { s.sport with sportServerStub := true } },
    (if s.sport.sportServerStub then [.closed .sportServer] else []) ++ [.opened .sportServer])

/-- `SdkEventBridgeClass::StopIntercept`. -/
def sportStopIntercept : Lifecycle × List ChannelEvent :=
  ({ s with sport := { s.sport with sportServerStub := false } },
    if s.sport.sportServerStub then [.closed .sportServer] else [])

/-- `SdkEventBridgeClass::Start`. -/
def sportStart (config : BridgeConfig) : Lifecycle × List ChannelEvent :=
  let (s, initEvents) := if !s.sport.initialized then s.sportInit config else (s, [])
  if s.sport.started then (s, initEvents)
  else
    let (s, startEvents) := s.sportStartIntercept
    ({ s with sport := { s.sport with started := true } }, initEvents ++ startEvents)

/-- `SdkEventBridgeClass::Stop`. -/
def sportStop : Lifecycle × List ChannelEvent :=
  let (s, events) := s.sportStopIntercept
  ({ s with sport := { s.sport with started := false } }, events)

/-! ## The motion switcher bridge -/

/-- `MotionSwitcherBridgeClass::Init`. -/
def switcherInit (config : BridgeConfig) : Lifecycle × List ChannelEvent :=
  if s.switcher.initialized then (s, [])
  else
    let (s, events) := s.initUnitreeChannelFactoryOnce config
    ({ s with switcher := { s.switcher with initialized := true } }, events)

/-- `MotionSwitcherBridgeClass::StartIntercept`. -/
def switcherStartIntercept : Lifecycle × List ChannelEvent :=
  ({ s with switcher := { s.switcher with responsePublisher := true, requestSubscriber := true } },
    (if s.switcher.responsePublisher then [.closed .switcherResponse] else []) ++
      [.opened .switcherResponse] ++
      (if s.switcher.requestSubscriber then [.closed .switcherRequest] else []) ++
      [.opened .switcherRequest])

/-- `MotionSwitcherBridgeClass::StopIntercept`. -/
def switcherStopIntercept : Lifecycle × List ChannelEvent :=
  let (s, closeRequest) :=
    if s.switcher.requestSubscriber then
      ({ s with switcher := { s.switcher with requestSubscriber := false } },
        [ChannelEvent.closed .switcherRequest])
    else (s, [])
  let (s, closeResponse) :=
    if s.switcher.responsePublisher then
      ({ s with switcher := { s.switcher with responsePublisher := false } },
        [ChannelEvent.closed .switcherResponse])
    else (s, [])
  (s, closeRequest ++ closeResponse)

/-- `MotionSwitcherBridgeClass::Start`. -/
def switcherStart (config : BridgeConfig) : Lifecycle × List ChannelEvent :=
  let (s, initEvents) := if !s.switcher.initialized then s.switcherInit config else (s, [])
  if s.switcher.started then (s, initEvents)
  else
    let (s, startEvents) := s.switcherStartIntercept
    ({ s with switcher := { s.switcher with started := true } }, initEvents ++ startEvents)

/-- `MotionSwitcherBridgeClass::Stop`. -/
def switcherStop : Lifecycle × List ChannelEvent :=
  let (s, events) := s.switcherStopIntercept
  ({ s with switcher := { s.switcher with started := false } }, events)

/-! ## The reset subscriber -/

/-- `ResetSubscriber::InitChannel`; `handler` tells whether the handler is not empty. -/
def resetInitChannel (handler : Bool) : Lifecycle × List ChannelEvent :=
  if s.resetInitialized || !handler then (s, [])
  else ({ s with resetInitialized := true }, [.opened .reset])

/-- `ResetSubscriber::CloseChannel`. -/
def resetCloseChannel : Lifecycle × List ChannelEvent :=
  if !s.resetInitialized then (s, [])
  else ({ s with resetInitialized := false }, [.closed .reset])

end Lifecycle

/-- A public function of one of the bridges or of the `/reset` subscriber. -/
inductive LifecycleCall where
  | sportInit | sportStart | sportStop
  | switcherInit | switcherStart | switcherStop
  | resetInitChannel (handler : Bool) | resetCloseChannel
  deriving DecidableEq, Repr

/-- One call, for bridges that were created with the given arguments. -/
def Lifecycle.step (sport switcher : BridgeConfig) (s : Lifecycle) :
    LifecycleCall → Lifecycle × List ChannelEvent
  | .sportInit => s.sportInit sport
  | .sportStart => s.sportStart sport
  | .sportStop => s.sportStop
  | .switcherInit => s.switcherInit switcher
  | .switcherStart => s.switcherStart switcher
  | .switcherStop => s.switcherStop
  | .resetInitChannel handler => s.resetInitChannel handler
  | .resetCloseChannel => s.resetCloseChannel

end SdkEventBridge
