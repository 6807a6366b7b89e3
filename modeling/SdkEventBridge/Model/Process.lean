import SdkEventBridge.Model.Lifecycle
import SdkEventBridge.Model.Registration

set_option relaxedAutoImplicit false
set_option autoImplicit false

/-!
# The whole process

`main` from its first line to its last (`src/main.cpp`), with the three server threads beside it.
`main` creates the objects, initialises the channels, registers the `/reset` callback and then the
handlers, starts the bridges, runs its loop until a signal comes, stops the bridges and drops its
handles; when it returns, the destructors of its objects close what is still open. All the while
messages arrive: one is delivered if its channel is open, to the handlers that are registered by
then, and a response is sent if the bridge still has the object that sends it. The number of
iterations before the signal is a parameter.

What a null test finds is taken to hold at the use it protects: a bridge tests for the object that
sends a response in the step in which it sends it, and the `/reset` callback reads main's pointer
once, when the message is delivered, and uses the publisher it found then. In the program `main`
can drop the object in between, and the process then ends in the middle of a handler; the model has
no such end. Left out as well is what comes after the calls that the destructors make: the objects
are gone, the publishers close their own channels, and the process exits.

## Main definitions

* `Host`, `HostCall` — what `main` owns besides the objects of `App`, and what it does to it.
* `Process`, `ProcessCall`, `Process.call` — the state of the process, and one call.
* `Message`, `messageProgram` — what arrives, and how it is handled.
* `MainStep`, `mainScript`, `mainProgram` — the main thread.
* `processSystem`, `processRun` — the process under every interleaving.
-/

namespace SdkEventBridge

open PlanarNorm Resumption Run

/-! ## What main owns -/

/-- The bridges' channels and handlers, and main's pointer to the velocity publisher:
`cmdVelPublisher` tells whether it is not null. The handlers own copies of their own. -/
structure Host (K : Type) where
  lifecycle : Lifecycle
  sportBridge : SdkEventBridgeClass K
  motionSwitcherBridge : MotionSwitcherBridgeClass K
  cmdVelPublisher : Bool

/-- What `main` does to it. -/
inductive HostCall (K : Type) where
  | lifecycle (call : LifecycleCall)
  | registerSport (registration : SportRegistration K)
  | registerSwitcher (registration : SwitcherRegistration K)
  /-- `cmdVelPublisher.reset()`. -/
  | resetCmdVelPublisher

/-- What arrives from outside: a message on one of the three topics. -/
inductive Message where
  | sportRequest (request : Request)
  | switcherRequest (request : Request)
  | reset
  deriving DecidableEq

namespace Message

/-- The message as an input of the application. -/
def input : Message → AppInput
  | .sportRequest request => .sportRequest request
  | .switcherRequest request => .switcherRequest request
  | .reset => .reset

/-- The thread it is handled on. -/
def thread : Message → Thread
  | .sportRequest _ => .sport
  | .switcherRequest _ => .switcher
  | .reset => .reset

end Message

namespace Host

variable {K : Type}

/-- After the constructors. -/
def init : Host K where
  lifecycle := .init
  sportBridge := .init
  motionSwitcherBridge := .init
  cmdVelPublisher := true

/-- One call; both bridges were created with the same arguments. -/
def apply (config : BridgeConfig) (host : Host K) : HostCall K → Host K
  | .lifecycle call => { host with lifecycle := (host.lifecycle.step config config call).1 }
  | .registerSport registration =>
    { host with sportBridge := host.sportBridge.register registration }
  | .registerSwitcher registration =>
    { host with motionSwitcherBridge := host.motionSwitcherBridge.register registration }
  | .resetCmdVelPublisher => { host with cmdVelPublisher := false }

/-- Whether the channel on which the message arrives is open. -/
def isOpen (host : Host K) : Message → Bool
  | .sportRequest _ => host.lifecycle.sport.sportServerStub
  | .switcherRequest _ => host.lifecycle.switcher.requestSubscriber
  | .reset => host.lifecycle.resetInitialized

end Host

/-! ## The process -/

/-- The state of the process. -/
structure Process (K : Type) where
  app : App K
  host : Host K

/-- One call in the process. -/
inductive ProcessCall (K : Type) where
  | app (call : Call)
  | host (call : HostCall K)
  | cmdVelInitChannel
  | cmdCtlInitChannel
  | deliver (message : Message)

/-- What can be seen of the process: its output, and which messages were delivered. -/
inductive ProcessOutput (K : Type) where
  | app (output : Output K)
  | delivered (message : Message)
  deriving DecidableEq

/-- A program of calls in the process. -/
abbrev ProcessProg (K : Type) := Prog (Process K) (ProcessCall K)

namespace Process

variable {K : Type} [Field K] [LinearOrder K]

/-- After the constructors. -/
def init : Process K where
  app :=
    { cmdVelPublisher := .init, cmdCtlPublisher := .init, motionSwitcherBridge := .init }
  host := .init

/-- The effect of a call at clock reading `now`. A bridge sends a response if it has the object
that sends it. -/
def call [HasHypot K] (sdk : UnitreeSdk K) (config : BridgeConfig) (now : Time) (p : Process K) :
    ProcessCall K → Process K × List (ProcessOutput K)
  | .app (.sendSportResponse response) =>
    (p, if p.host.lifecycle.sport.sportServerStub then [.app (.sportResponse response)] else [])
  | .app (.writeSwitcherResponse response) =>
    (p,
      if p.host.lifecycle.switcher.responsePublisher then [.app (.switcherResponse response)]
      else [])
  | .app i =>
    let (app, outputs) := App.call sdk now p.app i
    ({ p with app := app }, outputs.map .app)
  | .host i => ({ p with host := p.host.apply config i }, [])
  | .cmdVelInitChannel =>
    ({ p with app := { p.app with cmdVelPublisher := p.app.cmdVelPublisher.initChannel } }, [])
  | .cmdCtlInitChannel =>
    ({ p with app := { p.app with cmdCtlPublisher := p.app.cmdCtlPublisher.initChannel } }, [])
  | .deliver message => (p, if p.host.isOpen message then [.delivered message] else [])

/-- What a message leads to. The `/reset` callback tests main's pointer, which it captured by
reference. -/
def callback (sdk : UnitreeSdk K) (p : Process K) : Message → AppProg K
  | .sportRequest request => p.host.sportBridge.handleInterceptedRequest sdk request
  | .switcherRequest request => p.host.motionSwitcherBridge.handleInterceptedRequest sdk request
  | .reset => if p.host.cmdVelPublisher then resetCallback else .one .resetMotionSwitcher

end Process

section Programs

variable {K : Type} [Field K] [LinearOrder K] (sdk : UnitreeSdk K)

/-- A program of the application, in the process. -/
def inProcess (p : AppProg K) : ProcessProg K := p.lift ProcessCall.app Process.app

/-- A message that arrives is delivered if its channel is open, and lost otherwise. -/
def messageProgram (message : Message) : ProcessProg K :=
  .call (.deliver message) fun p =>
    if p.host.isOpen message then inProcess (p.callback sdk message) else .done

/-- What the main thread does, step by step. -/
inductive MainStep (K : Type) where
  | host (call : HostCall K)
  | cmdVelInitChannel
  | cmdCtlInitChannel
  | iteration

/-- `main` before its loop: the channels first, then the handlers, and the bridges last. -/
def startup : List (MainStep K) :=
  [.host (.lifecycle .sportInit), .host (.lifecycle .switcherInit), .cmdVelInitChannel,
      .cmdCtlInitChannel, .host (.lifecycle (.resetInitChannel true))] ++
    (mainSportRegistrations sdk).map (fun r => .host (.registerSport r)) ++
    (mainSwitcherRegistrations sdk).map (fun r => .host (.registerSwitcher r)) ++
    [.host (.lifecycle .sportStart), .host (.lifecycle .switcherStart)]

/-- `main` after its loop. -/
def shutdown : List (MainStep K) :=
  [.host (.lifecycle .sportStop), .host (.lifecycle .switcherStop), .host .resetCmdVelPublisher]

/-- The destructors of the objects of `main`, the last object first: `~ResetSubscriber` closes its
channel, and the bridges stop. -/
def destructors : List (MainStep K) :=
  [.host (.lifecycle .resetCloseChannel), .host (.lifecycle .switcherStop),
    .host (.lifecycle .sportStop)]

/-- `main` with `n` iterations of its loop. -/
def mainScript (n : ℕ) : List (MainStep K) :=
  startup sdk ++ List.replicate n .iteration ++ shutdown ++ destructors

/-- The program of the main thread. -/
def mainProgram : List (MainStep K) → ProcessProg K
  | [] => .done
  | .host i :: rest => .call (.host i) fun _ => mainProgram rest
  | .cmdVelInitChannel :: rest => .call .cmdVelInitChannel fun _ => mainProgram rest
  | .cmdCtlInitChannel :: rest => .call .cmdCtlInitChannel fun _ => mainProgram rest
  | .iteration :: rest => (inProcess loopIteration).seq (mainProgram rest)

variable [HasHypot K] (config : BridgeConfig)

/-- The process with its calls interleaved. -/
def processSystem :
    System Thread Message Time (Process K) (ProcessCall K) (ProcessOutput K) where
  call := Process.call sdk config
  thread := Message.thread
  program := messageProgram sdk

/-- The process when `main` begins: no other thread has anything to do. -/
def processStart (n : ℕ) : Pool Thread (Process K) (ProcessCall K) (ProcessOutput K) where
  state := .init
  trace := []
  prog := Function.update (fun _ => .done) .loop (mainProgram (mainScript sdk n))

/-- The process after the scheduler's choices `ls`. -/
def processRun (n : ℕ) (ls : List (Label Thread Message Time)) :
    Pool Thread (Process K) (ProcessCall K) (ProcessOutput K) :=
  run (processSystem sdk config).step (processStart sdk n) ls

end Programs

end SdkEventBridge
