import SdkEventBridge.Model.Lifecycle

set_option relaxedAutoImplicit false
set_option autoImplicit false

/-!
# Channels are opened and closed in order

The public functions of the bridges can be called in any order, and again and again. This file
shows that they keep the channels in order all the same: a bridge is running iff the latest of
its `Start` and `Stop` calls was a `Start`; its channels are then open, and otherwise closed; the
response topic is open whenever the request topic is, so that no request arrives that cannot be
answered; and the channel factory is initialised once in the whole process, before any channel of
a bridge is opened.

## Main definitions

* `LifecycleCall.sportSwitch`, `LifecycleCall.switcherSwitch`, `LifecycleCall.resetSwitch` — the
  calls that start or stop.
* `LifecycleCall.config?` — the calls that may initialise the channel factory.
* `InTurns` — what a history of calls does to a group of channels.

## Main results

* `Lifecycle.channels_follow_history` — the channels after any history of calls.
-/

namespace SdkEventBridge

open Run

namespace ChannelEvent

/-- The channel that was opened or closed. -/
def channel? : ChannelEvent → Option Channel
  | .opened channel | .closed channel => some channel
  | .factoryInit _ _ => none

/-- It opens or closes one of the given channels. -/
def isOf (channels : List Channel) (ev : ChannelEvent) : Bool :=
  ev.channel?.any fun channel => decide (channel ∈ channels)

/-- It is an initialisation of the channel factory. -/
def isFactoryInit : ChannelEvent → Bool
  | .factoryInit _ _ => true
  | .opened _ | .closed _ => false

end ChannelEvent

/-- The initialisation with the arguments of a bridge. -/
def BridgeConfig.factoryInit (config : BridgeConfig) : ChannelEvent :=
  .factoryInit config.domainId config.networkInterface

namespace LifecycleCall

/-- What the call does to the sport bridge: start it or stop it. -/
@[simp] def sportSwitch : LifecycleCall → Option Bool
  | .sportStart => some true
  | .sportStop => some false
  | .sportInit | .switcherInit | .switcherStart | .switcherStop | .resetInitChannel _
  | .resetCloseChannel => none

/-- What the call does to the motion switcher bridge. -/
@[simp] def switcherSwitch : LifecycleCall → Option Bool
  | .switcherStart => some true
  | .switcherStop => some false
  | .sportInit | .sportStart | .sportStop | .switcherInit | .resetInitChannel _
  | .resetCloseChannel => none

/-- What the call does to the `/reset` subscriber: an empty handler does not start it. -/
@[simp] def resetSwitch : LifecycleCall → Option Bool
  | .resetInitChannel handler => if handler then some true else none
  | .resetCloseChannel => some false
  | .sportInit | .sportStart | .sportStop | .switcherInit | .switcherStart | .switcherStop => none

/-- The arguments with which the call initialises the channel factory, if it is the first one. -/
def config? (sport switcher : BridgeConfig) : LifecycleCall → Option BridgeConfig
  | .sportInit | .sportStart => some sport
  | .switcherInit | .switcherStart => some switcher
  | .sportStop | .switcherStop | .resetInitChannel _ | .resetCloseChannel => none

end LifecycleCall

/-! ## Groups of channels -/

/-- The sport bridge starts. -/
def sportOpened : List ChannelEvent := [.opened .sportServer]

/-- The sport bridge stops. -/
def sportClosed : List ChannelEvent := [.closed .sportServer]

/-- The motion switcher bridge starts: the response topic comes first. -/
def switcherOpened : List ChannelEvent := [.opened .switcherResponse, .opened .switcherRequest]

/-- The motion switcher bridge stops: the response topic goes last. -/
def switcherClosed : List ChannelEvent := [.closed .switcherRequest, .closed .switcherResponse]

/-- The `/reset` subscriber starts. -/
def resetOpened : List ChannelEvent := [.opened .reset]

/-- The `/reset` subscriber stops. -/
def resetClosed : List ChannelEvent := [.closed .reset]

namespace Lifecycle

variable (s : Lifecycle) (config sport switcher : BridgeConfig)

/-- The events of a call that initialises the channel factory if it is the first one. -/
def initEvents (config? : Option BridgeConfig) : List ChannelEvent :=
  if s.factoryInitialized then [] else (config?.map BridgeConfig.factoryInit).toList

/-- Without arguments nothing is initialised. -/
@[simp] theorem initEvents_none : s.initEvents none = [] := by simp [initEvents]

/-! ## The invariant -/

/-- The channels of a bridge are there iff it is started, and a bridge that is started has
initialised the channel factory. -/
structure WellFormed : Prop where
  sportServerStub : s.sport.sportServerStub = s.sport.started
  responsePublisher : s.switcher.responsePublisher = s.switcher.started
  requestSubscriber : s.switcher.requestSubscriber = s.switcher.started
  sportInitialized : s.sport.started = true → s.sport.initialized = true
  switcherInitialized : s.switcher.started = true → s.switcher.initialized = true
  factoryOfSport : s.sport.initialized = true → s.factoryInitialized = true
  factoryOfSwitcher : s.switcher.initialized = true → s.factoryInitialized = true

/-- The constructors leave everything closed. -/
theorem wellFormed_init : init.WellFormed := by constructor <;> decide

variable {s}

/-! ## The calls evaluated -/

/-- `Init` of the sport bridge initialises the factory at most. -/
theorem sportInit_eq (hs : s.WellFormed) :
    s.sportInit config =
      ({ s with factoryInitialized := true, sport := { s.sport with initialized := true } },
        s.initEvents (some config)) := by
  obtain ⟨-, -, -, -, -, hfactory, -⟩ := hs
  obtain ⟨factory, ⟨initialized, started, stub⟩, switcher, reset⟩ := s
  cases initialized <;> cases factory <;> simp_all <;> rfl

/-- `Init` of the motion switcher bridge initialises the factory at most. -/
theorem switcherInit_eq (hs : s.WellFormed) :
    s.switcherInit config =
      ({ s with factoryInitialized := true, switcher := { s.switcher with initialized := true } },
        s.initEvents (some config)) := by
  obtain ⟨-, -, -, -, -, -, hfactory⟩ := hs
  obtain ⟨factory, sport, ⟨initialized, started, publisher, subscriber⟩, reset⟩ := s
  cases initialized <;> cases factory <;> simp_all <;> rfl

/-- `Start` of the sport bridge opens its channel unless it is started. -/
theorem sportStart_eq (hs : s.WellFormed) :
    s.sportStart config =
      ({ s with
          factoryInitialized := true
          sport := { initialized := true, started := true, sportServerStub := true } },
        s.initEvents (some config) ++
          turn sportOpened sportClosed s.sport.started true) := by
  obtain ⟨hstub, -, -, hinit, -, hfactory, -⟩ := hs
  obtain ⟨factory, ⟨initialized, started, stub⟩, switcher, reset⟩ := s
  cases initialized <;> cases factory <;> cases started <;> cases stub <;> simp_all <;> rfl

/-- `Stop` of the sport bridge closes its channel if it is started. -/
theorem sportStop_eq (hs : s.WellFormed) :
    s.sportStop =
      ({ s with
          sport := { s.sport with started := false, sportServerStub := false } },
        turn sportOpened sportClosed s.sport.started false) := by
  obtain ⟨hstub, -, -, -, -, -, -⟩ := hs
  obtain ⟨factory, ⟨initialized, started, stub⟩, switcher, reset⟩ := s
  cases started <;> cases stub <;> simp_all <;> rfl

/-- `Start` of the motion switcher bridge opens its channels unless it is started. -/
theorem switcherStart_eq (hs : s.WellFormed) :
    s.switcherStart config =
      ({ s with
          factoryInitialized := true
          switcher :=
            { initialized := true, started := true
              responsePublisher := true, requestSubscriber := true } },
        s.initEvents (some config) ++
          turn switcherOpened switcherClosed s.switcher.started true) := by
  obtain ⟨-, hpublisher, hsubscriber, -, hinit, -, hfactory⟩ := hs
  obtain ⟨factory, sport, ⟨initialized, started, publisher, subscriber⟩, reset⟩ := s
  cases initialized <;> cases factory <;> cases started <;> cases publisher <;>
    cases subscriber <;> simp_all <;> rfl

/-- `Stop` of the motion switcher bridge closes its channels if it is started. -/
theorem switcherStop_eq (hs : s.WellFormed) :
    s.switcherStop =
      ({ s with
          switcher :=
            { s.switcher with started := false, responsePublisher := false
                              requestSubscriber := false } },
        turn switcherOpened switcherClosed s.switcher.started false) := by
  obtain ⟨-, hpublisher, hsubscriber, -, -, -, -⟩ := hs
  obtain ⟨factory, sport, ⟨initialized, started, publisher, subscriber⟩, reset⟩ := s
  cases started <;> cases publisher <;> cases subscriber <;> simp_all <;> rfl

variable (s)

/-- `InitChannel` opens the `/reset` channel if there is a handler and it is closed. -/
theorem resetInitChannel_eq (handler : Bool) :
    s.resetInitChannel handler =
      ({ s with resetInitialized := s.resetInitialized || handler },
        turn resetOpened resetClosed s.resetInitialized
          (s.resetInitialized || handler)) := by
  obtain ⟨factory, sport, switcher, reset⟩ := s
  cases reset <;> cases handler <;> rfl

/-- `CloseChannel` closes the `/reset` channel if it is open. -/
theorem resetCloseChannel_eq :
    s.resetCloseChannel =
      ({ s with resetInitialized := false },
        turn resetOpened resetClosed s.resetInitialized false) := by
  obtain ⟨factory, sport, switcher, reset⟩ := s
  cases reset <;> rfl

variable {s}

/-- Every call keeps the invariant.

**Proof sketch.** Case analysis on the call. On well-formed states each of the six functions of the
bridges has a closed form, which changes the started flag and the members that go with it
together. -/
theorem wellFormed_next (call : LifecycleCall) (hs : s.WellFormed) :
    (next (Lifecycle.step sport switcher) s call).WellFormed := by
  cases call with
  | sportInit =>
    simp only [next, step, sportInit_eq sport hs]
    exact ⟨hs.1, hs.2, hs.3, fun _ => rfl, hs.5, fun _ => rfl, fun _ => rfl⟩
  | sportStart =>
    simp only [next, step, sportStart_eq sport hs]
    exact ⟨rfl, hs.2, hs.3, fun _ => rfl, hs.5, fun _ => rfl, fun _ => rfl⟩
  | sportStop =>
    simp only [next, step, sportStop_eq hs]
    exact ⟨rfl, hs.2, hs.3, fun h => Bool.noConfusion h, hs.5, hs.6, hs.7⟩
  | switcherInit =>
    simp only [next, step, switcherInit_eq switcher hs]
    exact ⟨hs.1, hs.2, hs.3, hs.4, fun _ => rfl, fun _ => rfl, fun _ => rfl⟩
  | switcherStart =>
    simp only [next, step, switcherStart_eq switcher hs]
    exact ⟨hs.1, rfl, rfl, hs.4, fun _ => rfl, fun _ => rfl, fun _ => rfl⟩
  | switcherStop =>
    simp only [next, step, switcherStop_eq hs]
    exact ⟨hs.1, rfl, rfl, hs.4, fun h => Bool.noConfusion h, hs.6, hs.7⟩
  | resetInitChannel handler =>
    simp only [next, step, resetInitChannel_eq]
    exact ⟨hs.1, hs.2, hs.3, hs.4, hs.5, hs.6, hs.7⟩
  | resetCloseChannel =>
    simp only [next, step, resetCloseChannel_eq]
    exact ⟨hs.1, hs.2, hs.3, hs.4, hs.5, hs.6, hs.7⟩

/-- What a call does. -/
structure Steps (s : Lifecycle) (call : LifecycleCall) (s' : Lifecycle)
    (events : List ChannelEvent) : Prop where
  sportStarted : s'.sport.started = call.sportSwitch.getD s.sport.started
  switcherStarted : s'.switcher.started = call.switcherSwitch.getD s.switcher.started
  resetInitialized : s'.resetInitialized = call.resetSwitch.getD s.resetInitialized
  factoryInitialized : s'.factoryInitialized =
    (s.factoryInitialized || (call.config? sport switcher).isSome)
  events_eq : events = s.initEvents (call.config? sport switcher) ++
    turn sportOpened sportClosed s.sport.started s'.sport.started ++
    turn switcherOpened switcherClosed s.switcher.started s'.switcher.started ++
    turn resetOpened resetClosed s.resetInitialized s'.resetInitialized

/-- Each of the public functions does what is said of a call.

**Proof sketch.** Case analysis on the call. Its closed form gives the events and the flags, and
each field of `Steps` is read off them. -/
theorem step_steps (call : LifecycleCall) (hs : s.WellFormed) :
    Steps sport switcher s call (step sport switcher s call).1 (step sport switcher s call).2 := by
  cases call with
  | sportInit =>
    simp only [step, sportInit_eq sport hs]
    constructor <;> simp [LifecycleCall.config?]
  | sportStart =>
    simp only [step, sportStart_eq sport hs]
    constructor <;> simp [LifecycleCall.config?]
  | sportStop =>
    simp only [step, sportStop_eq hs]
    constructor <;> simp [LifecycleCall.config?]
  | switcherInit =>
    simp only [step, switcherInit_eq switcher hs]
    constructor <;> simp [LifecycleCall.config?]
  | switcherStart =>
    simp only [step, switcherStart_eq switcher hs]
    constructor <;> simp [LifecycleCall.config?]
  | switcherStop =>
    simp only [step, switcherStop_eq hs]
    constructor <;> simp [LifecycleCall.config?]
  | resetInitChannel handler =>
    simp only [step, resetInitChannel_eq]
    constructor <;> cases handler <;> simp [LifecycleCall.config?]
  | resetCloseChannel =>
    simp only [step, resetCloseChannel_eq]
    constructor <;> simp [LifecycleCall.config?]

/-- Every history leaves a well-formed state. -/
theorem wellFormed_recorded (h : List LifecycleCall) :
    (recorded (step sport switcher) init h).state.WellFormed := by
  rw [recorded_state]
  exact run_induction _ (fun _ call hs => wellFormed_next sport switcher call hs) wellFormed_init h

/-! ## What an observer sees of a call -/

section Observers

variable {call : LifecycleCall} {s' : Lifecycle} {events : List ChannelEvent} {sport switcher}

/-- Initialising the factory is no other event. -/
theorem filter_initEvents {p : ChannelEvent → Bool} (config? : Option BridgeConfig)
    (hp : ∀ config : BridgeConfig, p config.factoryInit = false) :
    (s.initEvents config?).filter p = [] := by
  cases config? <;> simp [initEvents, hp]

/-- A call turns the channel of the sport bridge with the bridge. -/
theorem Steps.filter_sportServer (h : Steps sport switcher s call s' events) :
    events.filter (ChannelEvent.isOf [.sportServer]) =
      turn sportOpened sportClosed s.sport.started s'.sport.started := by
  rw [h.events_eq]
  simp only [List.filter_append]
  rw [filter_initEvents (p := ChannelEvent.isOf [.sportServer]) _ fun _ => rfl]
  rw [filter_turn_eq_self sportOpened _ _ _ rfl rfl,
    filter_turn_eq_nil switcherOpened _ _ _ rfl rfl,
    filter_turn_eq_nil resetOpened _ _ _ rfl rfl]
  simp

/-- A call turns the channels of the motion switcher with the bridge. -/
theorem Steps.filter_switcher (h : Steps sport switcher s call s' events) :
    events.filter (ChannelEvent.isOf [.switcherResponse, .switcherRequest]) =
      turn switcherOpened switcherClosed s.switcher.started s'.switcher.started := by
  rw [h.events_eq]
  simp only [List.filter_append]
  rw [filter_initEvents (p := ChannelEvent.isOf [.switcherResponse, .switcherRequest]) _
    fun _ => rfl]
  rw [filter_turn_eq_nil sportOpened _ _ _ rfl rfl,
    filter_turn_eq_self switcherOpened _ _ _ rfl rfl,
    filter_turn_eq_nil resetOpened _ _ _ rfl rfl]
  simp

/-- A call turns the `/reset` channel with the subscriber. -/
theorem Steps.filter_reset (h : Steps sport switcher s call s' events) :
    events.filter (ChannelEvent.isOf [.reset]) =
      turn resetOpened resetClosed s.resetInitialized s'.resetInitialized := by
  rw [h.events_eq]
  simp only [List.filter_append]
  rw [filter_initEvents (p := ChannelEvent.isOf [.reset]) _ fun _ => rfl]
  rw [filter_turn_eq_nil sportOpened _ _ _ rfl rfl,
    filter_turn_eq_nil switcherOpened _ _ _ rfl rfl,
    filter_turn_eq_self resetOpened _ _ _ rfl rfl]
  simp

/-- A call initialises the factory if it asks for it first. -/
theorem Steps.filter_isFactoryInit (h : Steps sport switcher s call s' events) :
    events.filter ChannelEvent.isFactoryInit = s.initEvents (call.config? sport switcher) := by
  have hinit : (s.initEvents (call.config? sport switcher)).filter ChannelEvent.isFactoryInit =
      s.initEvents (call.config? sport switcher) := by
    unfold initEvents
    cases call.config? sport switcher <;> split_ifs <;> rfl
  rw [h.events_eq]
  simp only [List.filter_append, hinit]
  rw [filter_turn_eq_nil sportOpened _ _ _ rfl rfl,
    filter_turn_eq_nil switcherOpened _ _ _ rfl rfl,
    filter_turn_eq_nil resetOpened _ _ _ rfl rfl]
  simp

/-- The factory has been initialised before a bridge is started. -/
theorem not_started_of_factory (hs : s.WellFormed) (hfactory : s.factoryInitialized = false) :
    s.sport.started = false ∧ s.switcher.started = false := by
  constructor
  · by_contra hstarted
    have := hs.factoryOfSport (hs.sportInitialized (by simpa using hstarted))
    simp [hfactory] at this
  · by_contra hstarted
    have := hs.factoryOfSwitcher (hs.switcherInitialized (by simpa using hstarted))
    simp [hfactory] at this

/-- The first thing that happens, if it does not happen to the `/reset` channel, is the
initialisation of the channel factory.

**Proof sketch.** If the call initialises the factory, that event comes first. If not, the factory
stays uninitialised, so no bridge is started before or after the call, and its events can only
concern the `/reset` channel. -/
theorem Steps.find?_events (h : Steps sport switcher s call s' events) (hs : s.WellFormed)
    (hs' : s'.WellFormed) (hfactory : s.factoryInitialized = false) :
    events.find? (fun ev => !ev.isOf [.reset]) =
      (call.config? sport switcher).map BridgeConfig.factoryInit := by
  rw [h.events_eq]
  cases hconfig : call.config? sport switcher with
  | some config => simp [initEvents, hfactory, ChannelEvent.isOf, ChannelEvent.channel?,
      BridgeConfig.factoryInit]
  | none =>
    have hafter : s'.factoryInitialized = false := by
      simp [h.factoryInitialized, hfactory, hconfig]
    obtain ⟨hsport, hswitcher⟩ := not_started_of_factory hs hfactory
    obtain ⟨hsport', hswitcher'⟩ := not_started_of_factory hs' hafter
    rw [hsport, hswitcher, hsport', hswitcher', initEvents_none]
    cases s.resetInitialized <;> cases s'.resetInitialized <;> rfl

end Observers

/-! ## The channel factory -/

/-- The channel factory is initialised by the first call that does it, and this comes before all
that happens to the channels of the bridges.

**Proof sketch.** Induction on the history from its end; the three parts use `step_steps` for the
last call. If an earlier call initialised the factory, the last one does not repeat it, and the
event found first is the earlier one. If none did, the last call's own events decide, by
`Steps.find?_events`. -/
theorem factory_follows_history (h : List LifecycleCall) :
    (recorded (step sport switcher) init h).state.factoryInitialized =
        (h.findSome? (LifecycleCall.config? sport switcher)).isSome ∧
      (recorded (step sport switcher) init h).trace.filter ChannelEvent.isFactoryInit =
        ((h.findSome? (LifecycleCall.config? sport switcher)).map BridgeConfig.factoryInit).toList ∧
      (recorded (step sport switcher) init h).trace.find? (fun ev => !ev.isOf [.reset]) =
        (h.findSome? (LifecycleCall.config? sport switcher)).map BridgeConfig.factoryInit := by
  induction h using List.reverseRecOn with
  | nil => exact ⟨rfl, rfl, rfl⟩
  | append_singleton h call ih =>
    obtain ⟨ihstate, ihfilter, ihfind⟩ := ih
    have hs := wellFormed_recorded sport switcher h
    have hs' := wellFormed_next sport switcher call hs
    have hstep := step_steps sport switcher call hs
    have hrec : recorded (step sport switcher) init (h ++ [call]) =
        record (step sport switcher) (recorded (step sport switcher) init h) call :=
      run_concat _ _ _ _
    rw [hrec, record_state, record_trace, List.findSome?_append]
    refine ⟨?_, ?_, ?_⟩
    · rw [hstep.factoryInitialized, ihstate]
      cases h.findSome? (LifecycleCall.config? sport switcher) <;> simp
    · rw [List.filter_append, ihfilter, hstep.filter_isFactoryInit]
      unfold initEvents
      rw [ihstate]
      cases h.findSome? (LifecycleCall.config? sport switcher) <;> simp
    · rw [List.find?_append, ihfind]
      cases hfirst : h.findSome? (LifecycleCall.config? sport switcher) with
      | some first => simp
      | none =>
        have hbefore : (recorded (step sport switcher) init h).state.factoryInitialized =
            false := by rw [ihstate, hfirst]; rfl
        rw [hstep.find?_events hs hs' hbefore]
        simp

/-! ## All channels -/

end Lifecycle

/-- The channels of one object follow the history of the calls that start and stop it: it is on
iff the latest of them started it, and its channels were opened and closed by turns, in the
order `up` and the order `down`, and are open now iff it is on. -/
structure InTurns (switch : LifecycleCall → Option Bool) (channels : List Channel)
    (up down : List ChannelEvent) (h : List LifecycleCall) (on : Bool)
    (trace : List ChannelEvent) : Prop where
  on_eq : on = (latest switch h).getD false
  trace_eq : ∃ n, trace.filter (ChannelEvent.isOf channels) = turns up down n on

/-- **Channels in order.** After any history of calls the channels of each bridge and of the
`/reset` subscriber have been opened and closed by turns and are open iff the latest call that
starts or stops it started it; the motion switcher bridge opens its response topic before its
request topic and closes it after it. The channel factory has been initialised at most once, with
the arguments of the first bridge that asked for it, and before anything else happened, the
`/reset` channel apart.

**Proof sketch.** Every call keeps `WellFormed`, and for each of the three switches `step_steps`
says which channel events a call adds and what the flag is after it. `recorded_turns` turns these
two facts into openings and closings by turns over the whole history. The factory is
`factory_follows_history`. -/
theorem Lifecycle.channels_follow_history (sport switcher : BridgeConfig)
    (h : List LifecycleCall) :
    let r := recorded (Lifecycle.step sport switcher) .init h
    let first := (h.findSome? (LifecycleCall.config? sport switcher)).map BridgeConfig.factoryInit
    InTurns LifecycleCall.sportSwitch [.sportServer] sportOpened sportClosed h
        r.state.sport.started r.trace ∧
      r.state.sport.sportServerStub = r.state.sport.started ∧
      InTurns LifecycleCall.switcherSwitch [.switcherResponse, .switcherRequest] switcherOpened
        switcherClosed h r.state.switcher.started r.trace ∧
      r.state.switcher.responsePublisher = r.state.switcher.started ∧
      r.state.switcher.requestSubscriber = r.state.switcher.started ∧
      InTurns LifecycleCall.resetSwitch [.reset] resetOpened resetClosed h
        r.state.resetInitialized r.trace ∧
      r.trace.filter ChannelEvent.isFactoryInit = first.toList ∧
      r.trace.find? (fun ev => !ev.isOf [.reset]) = first := by
  intro r first
  have hkeep : ∀ s call, Lifecycle.WellFormed s →
      Lifecycle.WellFormed (next (Lifecycle.step sport switcher) s call) :=
    fun _ call hs => Lifecycle.wellFormed_next sport switcher call hs
  have hr : r.state.WellFormed := Lifecycle.wellFormed_recorded sport switcher h
  obtain ⟨-, hfilter, hfind⟩ := Lifecycle.factory_follows_history sport switcher h
  have hsport := recorded_turns (Lifecycle.step sport switcher) hkeep
    (fun _ call hs => (Lifecycle.step_steps sport switcher call hs).sportStarted)
    (fun _ call hs => (Lifecycle.step_steps sport switcher call hs).filter_sportServer)
    Lifecycle.wellFormed_init rfl h
  have hswitcher := recorded_turns (Lifecycle.step sport switcher) hkeep
    (fun _ call hs => (Lifecycle.step_steps sport switcher call hs).switcherStarted)
    (fun _ call hs => (Lifecycle.step_steps sport switcher call hs).filter_switcher)
    Lifecycle.wellFormed_init rfl h
  have hreset := recorded_turns (Lifecycle.step sport switcher) hkeep
    (fun _ call hs => (Lifecycle.step_steps sport switcher call hs).resetInitialized)
    (fun _ call hs => (Lifecycle.step_steps sport switcher call hs).filter_reset)
    Lifecycle.wellFormed_init rfl h
  exact ⟨⟨hsport.1, hsport.2⟩, hr.sportServerStub, ⟨hswitcher.1, hswitcher.2⟩,
    hr.responsePublisher, hr.requestSubscriber, ⟨hreset.1, hreset.2⟩, hfilter, hfind⟩

end SdkEventBridge
