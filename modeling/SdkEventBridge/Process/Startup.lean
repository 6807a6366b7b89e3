import SdkEventBridge.Lifecycle.Channels
import SdkEventBridge.Model.Process

set_option relaxedAutoImplicit false
set_option autoImplicit false

/-!
# The order of the startup

`main` opens the channels in such an order that nothing arrives too early: when it opens the first
one, `/reset`, the channels of the publishers are initialised, and when it opens that of a bridge,
the bridge has all its handlers. It never starts a bridge twice.

## Main definitions

* `Prepared` — a bridge that can receive has its handlers and will not be started again.
* `endHost` — what `main` leaves behind.
* `startState` — the process after the first calls of `main`.

## Main results

* `prepared_main` — the order of the startup.
* `run_laterSteps` — the end of `main`.
* `Host.sportServerStub_apply`, `Host.responsePublisher_apply` — only `Start` opens a bridge.
-/

namespace SdkEventBridge

open PlanarNorm Resumption Run

namespace MainStep

variable {K : Type}

/-- What the step does to the host. -/
def hostCall? : MainStep K → Option (HostCall K)
  | .host i => some i
  | .cmdVelInitChannel | .cmdCtlInitChannel | .iteration => none

/-- It does not initialise the channel of a publisher. -/
def IsLater : MainStep K → Prop
  | .host _ | .iteration => True
  | .cmdVelInitChannel | .cmdCtlInitChannel => False

/-- It is an iteration of the loop. -/
def isIteration : MainStep K → Bool
  | .iteration => true
  | .host _ | .cmdVelInitChannel | .cmdCtlInitChannel => false

end MainStep

/-! ## The registrations come first -/

section Startup

variable {K : Type} [Field K] [LinearOrder K] (sdk : UnitreeSdk K) (config : BridgeConfig)

/-- What is done to the host in some steps of `main`. -/
def hostCalls (steps : List (MainStep K)) : List (HostCall K) :=
  steps.filterMap MainStep.hostCall?

/-- No bridge can receive. -/
def Host.Deaf (host : Host K) : Prop :=
  host.lifecycle.sport.sportServerStub = false ∧
    host.lifecycle.switcher.requestSubscriber = false

/-- A bridge that can receive requests has all the handlers that `main` registers, and `main` does
not start it again. When `main` has dropped its handle no bridge can receive. -/
structure Prepared (host : Host K) (ahead : List (HostCall K)) : Prop where
  sportBridge : host.lifecycle.sport.sportServerStub = true → host.sportBridge = sportBridge sdk
  sportOnce : host.lifecycle.sport.sportServerStub = true →
    HostCall.lifecycle .sportStart ∉ ahead
  switcherBridge : host.lifecycle.switcher.requestSubscriber = true →
    host.motionSwitcherBridge = switcherBridge sdk
  switcherOnce : host.lifecycle.switcher.requestSubscriber = true →
    HostCall.lifecycle .switcherStart ∉ ahead
  dropped : host.cmdVelPublisher = false → host.Deaf

/-- The calls before the `/reset` channel is opened. -/
def firstCalls : List (ProcessCall K) :=
  [.host (.lifecycle .sportInit), .host (.lifecycle .switcherInit), .cmdVelInitChannel,
    .cmdCtlInitChannel]

/-- `main` from the opening of the `/reset` channel on. -/
def laterSteps (n : ℕ) : List (MainStep K) :=
  .host (.lifecycle (.resetInitChannel true)) ::
    ((mainSportRegistrations sdk).map (fun r => .host (.registerSport r)) ++
      ((mainSwitcherRegistrations sdk).map (fun r => .host (.registerSwitcher r)) ++
        (.host (.lifecycle .sportStart) :: .host (.lifecycle .switcherStart) ::
          (List.replicate n .iteration ++ (shutdown ++ destructors)))))

/-- The host when the `/reset` channel is about to be opened. -/
def preparedHost : Host K :=
  { Host.init with
    lifecycle :=
      { Lifecycle.init with
        factoryInitialized := true
        sport := { Lifecycle.init.sport with initialized := true }
        switcher := { Lifecycle.init.switcher with initialized := true } } }

/-- A host that cannot receive is prepared, whatever is to come. -/
theorem Host.Deaf.prepared {host : Host K} (h : host.Deaf) (ahead : List (HostCall K)) :
    Prepared sdk host ahead := by
  constructor <;> simp [h, h.1, h.2]

omit [Field K] [LinearOrder K] in
/-- Registrations with the sport bridge change that bridge only. -/
theorem run_registerSport (host : Host K) (rs : List (SportRegistration K)) :
    run (Host.apply config) host (rs.map .registerSport) =
      { host with sportBridge := run SdkEventBridgeClass.register host.sportBridge rs } := by
  induction rs generalizing host with
  | nil => rfl
  | cons r rs ih => rw [List.map_cons, run_cons, ih]; rfl

omit [Field K] [LinearOrder K] in
/-- Registrations with the motion switcher bridge change that bridge only. -/
theorem run_registerSwitcher (host : Host K) (rs : List (SwitcherRegistration K)) :
    run (Host.apply config) host (rs.map .registerSwitcher) =
      { host with
        motionSwitcherBridge :=
          run MotionSwitcherBridgeClass.register host.motionSwitcherBridge rs } := by
  induction rs generalizing host with
  | nil => rfl
  | cons r rs ih => rw [List.map_cons, run_cons, ih]; rfl

/-- The calls of `main` on its host from the opening of the `/reset` channel on. -/
theorem hostCalls_laterSteps (n : ℕ) :
    hostCalls (laterSteps sdk n) =
      .lifecycle (.resetInitChannel true) ::
        ((mainSportRegistrations sdk).map .registerSport ++
          ((mainSwitcherRegistrations sdk).map .registerSwitcher ++
            [.lifecycle .sportStart, .lifecycle .switcherStart, .lifecycle .sportStop,
              .lifecycle .switcherStop, .resetCmdVelPublisher, .lifecycle .resetCloseChannel,
              .lifecycle .switcherStop, .lifecycle .sportStop])) := by
  simp [hostCalls, laterSteps, shutdown, destructors, List.filterMap_map, Function.comp_def,
    MainStep.hostCall?, List.filterMap_replicate]

/-- **The order of the startup.** From the opening of the `/reset` channel on, a bridge that can
receive has its handlers.

**Proof sketch.** Nothing can be received before `Start`, so the property holds trivially until the
two tables are registered, whatever is opened meanwhile. From then on the bridges have all their
handlers, which are those the model names, and the states left are checked one by one. -/
theorem prepared_main (n : ℕ) :
    Ahead (Host.apply config) (Prepared sdk) preparedHost (hostCalls (laterSteps sdk n)) := by
  have hdeaf : ∀ (host : Host K) ahead, host.Deaf → Prepared sdk host ahead :=
    fun _ ahead h => h.prepared sdk ahead
  rw [hostCalls_laterSteps]
  refine ⟨hdeaf _ _ ⟨rfl, rfl⟩, ?_⟩
  refine Ahead.append _ (Q := Host.Deaf) hdeaf ?_ ⟨rfl, rfl⟩ ?_
  · rintro host i hi h
    obtain ⟨r, -, rfl⟩ := List.mem_map.mp hi
    exact h
  rw [run_registerSport]
  refine Ahead.append _ (Q := Host.Deaf) hdeaf ?_ ⟨rfl, rfl⟩ ?_
  · rintro host i hi h
    obtain ⟨r, -, rfl⟩ := List.mem_map.mp hi
    exact h
  rw [run_registerSwitcher]
  -- Both bridges now have their handlers: what is left opens and closes channels.
  have hsport := (registerSportEventLogging_eq sdk).symm
  have hswitcher := (registerMotionSwitcherEventLogging_eq sdk).symm
  have hno : ∀ {b : Bool} {p : Prop}, b = false → b = true → p := by
    intro b p hfalse htrue
    rw [hfalse] at htrue
    exact Bool.noConfusion htrue
  have hyes : ∀ {b : Bool} {p : Prop}, b = true → b = false → p := fun htrue hfalse =>
    hno hfalse htrue
  exact ⟨hdeaf _ _ ⟨rfl, rfl⟩,
    ⟨fun _ => hsport, fun _ => by simp, hno rfl, hno rfl, hyes rfl⟩,
    ⟨fun _ => hsport, fun _ => by simp, fun _ => hswitcher, fun _ => by simp, hyes rfl⟩,
    ⟨hno rfl, hno rfl, fun _ => hswitcher, fun _ => by simp, hyes rfl⟩,
    hdeaf _ _ ⟨rfl, rfl⟩, hdeaf _ _ ⟨rfl, rfl⟩, hdeaf _ _ ⟨rfl, rfl⟩, hdeaf _ _ ⟨rfl, rfl⟩,
    hdeaf _ _ ⟨rfl, rfl⟩⟩

/-- What `main` leaves behind: every channel is closed, and the handle is dropped. -/
def endHost : Host K where
  lifecycle :=
    { factoryInitialized := true
      sport := { initialized := true, started := false, sportServerStub := false }
      switcher :=
        { initialized := true, started := false, responsePublisher := false
          requestSubscriber := false }
      resetInitialized := false }
  sportBridge := SdkEventBridge.sportBridge sdk
  motionSwitcherBridge := switcherBridge sdk
  cmdVelPublisher := false

/-- These calls lead to the end. -/
theorem run_laterSteps (n : ℕ) :
    run (Host.apply config) preparedHost (hostCalls (laterSteps sdk n)) = endHost sdk := by
  rw [hostCalls_laterSteps, run_cons, run_append, run_registerSport, run_append,
    run_registerSwitcher, endHost, SdkEventBridge.sportBridge, switcherBridge,
    registerSportEventLogging_eq, registerMotionSwitcherEventLogging_eq]
  rfl

end Startup

/-! ## What main does to the host -/

section Host

variable {K : Type} {config : BridgeConfig}

/-- What `main` does keeps the channels in order. -/
theorem Host.wellFormed_apply {host : Host K} (hs : host.lifecycle.WellFormed) (i : HostCall K) :
    (host.apply config i).lifecycle.WellFormed := by
  cases i with
  | lifecycle call => exact Lifecycle.wellFormed_next config config call hs
  | _ => exact hs

/-- Only `Start` gives the sport bridge the object that sends its responses. -/
theorem Host.sportServerStub_apply {host : Host K} (hs : host.lifecycle.WellFormed)
    {i : HostCall K} (hclosed : host.lifecycle.sport.sportServerStub = false)
    (hi : i ≠ .lifecycle .sportStart) :
    (host.apply config i).lifecycle.sport.sportServerStub = false := by
  rw [(Host.wellFormed_apply hs i).sportServerStub]
  rw [hs.sportServerStub] at hclosed
  cases i with
  | lifecycle call =>
    refine (Lifecycle.step_steps config config call hs).sportStarted.trans ?_
    cases call <;> simp_all
  | _ => exact hclosed

/-- Only `Start` gives the motion switcher bridge the object that sends its responses. -/
theorem Host.responsePublisher_apply {host : Host K} (hs : host.lifecycle.WellFormed)
    {i : HostCall K} (hclosed : host.lifecycle.switcher.responsePublisher = false)
    (hi : i ≠ .lifecycle .switcherStart) :
    (host.apply config i).lifecycle.switcher.responsePublisher = false := by
  rw [(Host.wellFormed_apply hs i).responsePublisher]
  rw [hs.responsePublisher] at hclosed
  cases i with
  | lifecycle call =>
    refine (Lifecycle.step_steps config config call hs).switcherStarted.trans ?_
    cases call <;> simp_all
  | _ => exact hclosed

end Host

/-! ## The first calls -/

section FirstCalls

variable {K : Type} [Field K] [LinearOrder K]

/-- The program of `main` is the first calls and then the later steps. -/
theorem mainScript_eq (sdk : UnitreeSdk K) (n : ℕ) :
    mainProgram (mainScript sdk n) =
      firstCalls.foldr (fun i p => .call i fun _ => p) (mainProgram (laterSteps sdk n)) := by
  have happend : mainScript sdk n =
      .host (.lifecycle .sportInit) :: .host (.lifecycle .switcherInit) :: .cmdVelInitChannel ::
        .cmdCtlInitChannel :: laterSteps sdk n := by
    simp [mainScript, startup, laterSteps]
  rw [happend]
  rfl

variable [HasHypot K] (sdk : UnitreeSdk K) (config : BridgeConfig)

/-- The process after the first `k` calls of `main`, nothing having been delivered. -/
def startState (k : ℕ) : Process K :=
  run (next (Process.call sdk config 0)) .init (firstCalls.take k)

/-- So far no channel is open. -/
theorem isOpen_startState {k : ℕ} (hk : k < 4) (message : Message) :
    (startState sdk config k).host.isOpen message = false := by
  rcases k with _ | _ | _ | _ | k
  · cases message <;> rfl
  · cases message <;> rfl
  · cases message <;> rfl
  · cases message <;> rfl
  · omega

end FirstCalls

end SdkEventBridge
