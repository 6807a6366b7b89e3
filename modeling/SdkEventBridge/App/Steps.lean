import SdkEventBridge.App.Commands
import SdkEventBridge.CmdVel.Operations

set_option relaxedAutoImplicit false
set_option autoImplicit false

/-!
# One input, handled to its end

An input that nothing interrupts makes at most one call on the velocity publisher, publishes at
most one FSM command, and leaves the motion switcher in a state that can be written down. This
file says so once (`App.step_eq`); the results about runs of the application read what they need
off `App.effect` and never unfold a handler.

## Main definitions

* `Effect`, `App.effect` — what an input does to the three objects.
* `twists`, `commands`, `switcherStatuses` — the messages of an output trace on `/cmd_vel_origin`
  and on `/cmd_ctl`, and the answers of the motion switcher.
* `App.stateAfter`, `App.outputsSince` — the application after a history of inputs, and what it
  put out since the last input of a kind.

## Main results

* `App.step_eq` — a step of the application is its effect.
* `App.consistent_after` — the publisher agrees with what the application has published.
-/

namespace SdkEventBridge

open PlanarNorm Resumption Run

/-! ## Output traces -/

section Outputs

variable {K : Type}

/-- The message, if the output goes to `/cmd_vel_origin`. -/
def Output.twist? : Output K → Option (Twist K)
  | .twist t => some t
  | _ => none

/-- The command, if the output goes to `/cmd_ctl`. -/
def Output.command? : Output K → Option Int32
  | .command c => some c
  | _ => none

/-- The status code, if the output is a response of the motion switcher. -/
def Output.switcherStatus? : Output K → Option Int32
  | .switcherResponse r => some r.statusCode
  | _ => none

/-- The messages on `/cmd_vel_origin`, oldest first. -/
def twists (outputs : List (Output K)) : List (Twist K) := outputs.filterMap Output.twist?

/-- The messages on `/cmd_ctl`, oldest first. -/
def commands (outputs : List (Output K)) : List Int32 := outputs.filterMap Output.command?

/-- The status codes of the motion switcher's responses, oldest first. -/
def switcherStatuses (outputs : List (Output K)) : List Int32 :=
  outputs.filterMap Output.switcherStatus?

/-- No outputs, no messages. -/
@[simp] theorem twists_nil : twists ([] : List (Output K)) = [] := rfl

/-- No outputs, no commands. -/
@[simp] theorem commands_nil : commands ([] : List (Output K)) = [] := rfl

/-- The messages of two pieces. -/
@[simp] theorem twists_append (os os' : List (Output K)) :
    twists (os ++ os') = twists os ++ twists os' := List.filterMap_append

/-- The commands of two pieces. -/
@[simp] theorem commands_append (os os' : List (Output K)) :
    commands (os ++ os') = commands os ++ commands os' := List.filterMap_append

/-- Messages are messages. -/
@[simp] theorem twists_map_twist (ts : List (Twist K)) : twists (ts.map .twist) = ts := by
  simp [twists, List.filterMap_map, Function.comp_def, Output.twist?]

/-- Messages are no commands. -/
@[simp] theorem commands_map_twist (ts : List (Twist K)) :
    commands (ts.map Output.twist) = [] := by
  simp [commands, List.filterMap_map, Function.comp_def, Output.command?]

end Outputs

/-- The input is a `/reset` message. -/
def isReset (x : Timed AppInput) : Bool := x.op == .reset

/-! ## Effects -/

/-- What handling an input does: the operation of the velocity publisher, the FSM command, the
motion switcher's next state, and the response. -/
structure Effect (K : Type) where
  velOp : Option CmdVelOp
  fsmCommand : Option FsmCommand
  motionSwitcherBridge : MotionSwitcherBridge
  response : Option (Output K)

namespace SportCommand

variable {K : Type} [Field K] [LinearOrder K] (sdk : UnitreeSdk K)

/-- The operation of the velocity publisher a command makes. -/
def velOp : SportCommand → Option CmdVelOp
  | .lockAnd _ _ => some .lockJoints
  | .balanceStand => some .unlockJoints
  | .stopMove => some .handleStop
  | .move parameterJson => some (.handleMove parameterJson)
  | .setting op => some op
  | .ignored => none

/-- The FSM command it publishes. -/
def fsmCommand : SportCommand → Option FsmCommand
  | .lockAnd _ fsm => some fsm
  | .balanceStand => some .getUpLocomotion
  | _ => none

/-- The posture it leaves. -/
def posture (jointsLocked : Bool) (old : RobotPosture) : SportCommand → RobotPosture
  | .lockAnd posture _ => posture
  | .balanceStand | .stopMove => .standUp
  | .move parameterJson =>
    if !jointsLocked && (parseMoveParameter sdk parameterJson).hasMotion then .walking else old
  | .setting _ | .ignored => old

end SportCommand

namespace CmdVelPublisher

variable {K : Type} [Field K] [LinearOrder K] [HasHypot K] (s : CmdVelPublisher K)
  (sdk : UnitreeSdk K) (now : Time)

/-- The effect of an operation that need not be there. -/
def applyIfSome : Option CmdVelOp → CmdVelPublisher K × List (Twist K)
  | some op => s.apply sdk now op
  | none => (s, [])

/-- An operation that is there is made. -/
@[simp] theorem applyIfSome_some (op : CmdVelOp) :
    s.applyIfSome sdk now (some op) = s.apply sdk now op := rfl

/-- Without an operation nothing happens. -/
@[simp] theorem applyIfSome_none : s.applyIfSome sdk now none = (s, []) := rfl

/-- What it does to the settings. -/
theorem settings_applyIfSome (op : Option CmdVelOp) :
    (s.applyIfSome sdk now op).1.settings = s.settings.applyIfSome op := by
  cases op with
  | none => rfl
  | some op => exact settings_apply s sdk now op

/-- No move begins unless a MOVE meets unlocked joints. -/
theorem applyIfSome_inactive {op : Option CmdVelOp} (h : s.hasActiveMove = false)
    (hop : ∀ p, op = some (.handleMove p) → s.jointsLocked = true) :
    (s.applyIfSome sdk now op).1.hasActiveMove = false := by
  cases op with
  | none => exact h
  | some op => exact s.apply_inactive sdk now h fun p hp => hop p (congrArg some hp)

/-- It keeps the invariant of the publisher. -/
theorem Consistent.applyIfSome {s : CmdVelPublisher K} {ts : List (Twist K)}
    [IsStrictOrderedRing K] [LawfulHypot K] (h : Consistent s ts) (op : Option CmdVelOp) :
    Consistent (s.applyIfSome sdk now op).1 (ts ++ (s.applyIfSome sdk now op).2) := by
  cases op with
  | none => simpa using h
  | some op => exact h.apply sdk now op

/-- Standing still lasts until a MOVE with motion is accepted. -/
theorem Still.applyIfSome {s : CmdVelPublisher K} [IsStrictOrderedRing K] [LawfulHypot K]
    (hstill : s.Still) (hcap : 0 < s.maxLinearSpeed) {op : Option CmdVelOp}
    (hmove : ∀ p, op = some (.handleMove p) → s.jointsLocked = false →
      parseMoveParameter sdk p = 0) : (s.applyIfSome sdk now op).1.Still := by
  cases op with
  | none => exact hstill
  | some op => exact hstill.apply hcap sdk now fun p hp => hmove p (congrArg some hp)

/-- What a publisher publishes that then stands still is zero. -/
theorem Consistent.twists_zero_of_still_applyIfSome {s : CmdVelPublisher K} {ts : List (Twist K)}
    [IsStrictOrderedRing K] [LawfulHypot K] (h : Consistent s ts) {op : Option CmdVelOp}
    (hstill : (s.applyIfSome sdk now op).1.Still) :
    ∀ t ∈ (s.applyIfSome sdk now op).2, t = 0 := by
  cases op with
  | none => simp
  | some op => exact h.twists_zero_of_still sdk now hstill

/-- Initialising the channel publishes nothing. -/
theorem Consistent.initChannel {s : CmdVelPublisher K} {ts : List (Twist K)}
    (h : Consistent s ts) : Consistent s.initChannel ts := by
  rw [initChannel_eq]
  exact ⟨h.unlocked_of_active, h.lastTwist_eq, h.cap_eq, h.speed_le⟩

/-- `HandleMove` never touches the lock. -/
@[simp] theorem handleMove_jointsLocked (p : String) :
    (s.handleMove sdk now p).1.jointsLocked = s.jointsLocked :=
  congrArg Settings.jointsLocked (settings_apply s sdk now (.handleMove p))

end CmdVelPublisher

namespace App

variable {K : Type} [Field K] [LinearOrder K] [HasHypot K] (sdk : UnitreeSdk K) (app : App K)

/-- The posture an iteration of the main loop leaves. -/
def loopPosture (now : Time) : RobotPosture :=
  if (app.cmdVelPublisher.tick now).1.isActivelyMoving then .walking
  else if app.motionSwitcherBridge.robotPosture = .walking then .standUp
  else app.motionSwitcherBridge.robotPosture

/-- What handling an input does in the state `app`. -/
def effect (x : Timed AppInput) : Effect K :=
  match x.op with
  | .sportRequest request =>
    { velOp := (sportCommand sdk request).velOp
      fsmCommand := (sportCommand sdk request).fsmCommand
      motionSwitcherBridge :=
        { app.motionSwitcherBridge with
          robotPosture := (sportCommand sdk request).posture sdk app.cmdVelPublisher.jointsLocked
            app.motionSwitcherBridge.robotPosture }
      response := some (.sportResponse (sportResponse sdk request)) }
  | .switcherRequest request =>
    { velOp := switcherOp sdk app.motionSwitcherBridge request
      fsmCommand := none
      motionSwitcherBridge :=
        (app.motionSwitcherBridge.buildInterceptResponseData sdk request.apiId32 request).1
      response :=
        some (.switcherResponse (switcherResponse sdk app.motionSwitcherBridge request)) }
  | .reset =>
    { velOp := some .resetToDefaults
      fsmCommand := none
      motionSwitcherBridge := app.motionSwitcherBridge.resetToDefaults
      response := none }
  | .loop =>
    { velOp := some .tick
      fsmCommand := none
      motionSwitcherBridge :=
        { app.motionSwitcherBridge with robotPosture := app.loopPosture x.now }
      response := none }

/-- The application after an effect. -/
def afterEffect (now : Time) (eff : Effect K) : App K where
  cmdVelPublisher := (app.cmdVelPublisher.applyIfSome sdk now eff.velOp).1
  cmdCtlPublisher :=
    match eff.fsmCommand with
    | some fsm => (app.cmdCtlPublisher.publishCommand fsm.toInt32).1
    | none => app.cmdCtlPublisher
  motionSwitcherBridge := eff.motionSwitcherBridge

/-- What an effect emits. -/
def emitted (now : Time) (eff : Effect K) : List (Output K) :=
  (app.cmdVelPublisher.applyIfSome sdk now eff.velOp).2.map .twist ++
    (eff.fsmCommand.toList.map fun fsm => .command fsm.toInt32) ++ eff.response.toList

/-- The actions of a sport command, carried out.

**Proof sketch.** Case analysis on the command; each program is carried out call by call. In a MOVE
the lock is read after `HandleMove`, which leaves it as it was. -/
theorem exec_actions (now : Time) (cmd : SportCommand) :
    exec (App.call sdk) now (cmd.actions sdk) app =
      ({ cmdVelPublisher := (app.cmdVelPublisher.applyIfSome sdk now cmd.velOp).1
         cmdCtlPublisher :=
          match cmd.fsmCommand with
          | some fsm => (app.cmdCtlPublisher.publishCommand fsm.toInt32).1
          | none => app.cmdCtlPublisher
         motionSwitcherBridge :=
          { app.motionSwitcherBridge with
            robotPosture := cmd.posture sdk app.cmdVelPublisher.jointsLocked
              app.motionSwitcherBridge.robotPosture } },
        (app.cmdVelPublisher.applyIfSome sdk now cmd.velOp).2.map .twist ++
          cmd.fsmCommand.toList.map fun fsm => .command fsm.toInt32) := by
  cases cmd with
  | lockAnd posture fsm =>
    simp [App.call, SportCommand.velOp, SportCommand.fsmCommand, SportCommand.posture,
      CmdCtlPublisher.publishCommand]
  | balanceStand =>
    simp [App.call, SportCommand.velOp, SportCommand.fsmCommand, SportCommand.posture,
      CmdCtlPublisher.publishCommand]
  | stopMove =>
    simp [App.call, SportCommand.velOp, SportCommand.fsmCommand, SportCommand.posture]
  | move p =>
    -- `UpdatePostureFromMove` reads the lock that `HandleMove` left as it was.
    rw [actions_move, exec_call, updatePostureFromMove, exec_call]
    cases hl : app.cmdVelPublisher.jointsLocked <;>
      cases hm : (parseMoveParameter sdk p).hasMotion <;>
      simp [App.call, SportCommand.velOp, SportCommand.fsmCommand, SportCommand.posture,
        CmdVelPublisher.apply, CmdVelPublisher.isJointsLocked, hl, hm]
  | setting op => simp [App.call, SportCommand.velOp, SportCommand.fsmCommand, SportCommand.posture]
  | ignored => simp [SportCommand.velOp, SportCommand.fsmCommand, SportCommand.posture]

/-- **One step of the application.** An input handled to its end has its effect.

**Proof sketch.** Case analysis on the input. The program of a sport request is its actions, which
`exec_actions` carries out, and a response; those of the other inputs are carried out call by call,
the loop in the branches of its two tests. -/
theorem step_eq (x : Timed AppInput) :
    App.step sdk app x =
      (app.afterEffect sdk x.now (app.effect sdk x), app.emitted sdk x.now (app.effect sdk x)) := by
  obtain ⟨now, op⟩ := x
  cases op with
  | sportRequest request =>
    have hrespond : ∀ app' : App K, exec (App.call sdk) now (respond sdk request) app' =
        (app', [.sportResponse (sportResponse sdk request)]) := by
      intro app'
      unfold respond
      split_ifs <;> simp [exec_seq, App.call]
    rw [App.step, program_sportRequest, exec_seq, exec_actions, hrespond]
    rfl
  | switcherRequest request =>
    rw [App.step, program_switcherRequest, exec_call, exec_seq]
    cases hop : switcherOp sdk app.motionSwitcherBridge request <;>
      simp [App.call, effect, afterEffect, emitted, callIfSome, hop]
  | reset =>
    simp [App.step, program, resetCallback, App.call, effect, afterEffect, emitted]
  | loop =>
    rw [App.step, program, loopIteration, exec_call, loopReadMotion, exec_call]
    by_cases hmoving : (app.cmdVelPublisher.tick now).1.isActivelyMoving = true
    · simp [App.call, CmdVelPublisher.apply, effect, afterEffect, emitted, loopPosture, hmoving,
        loopSetPosture]
    · by_cases hwalking : app.motionSwitcherBridge.robotPosture = .walking <;>
        simp [App.call, CmdVelPublisher.apply, effect, afterEffect, emitted, loopPosture, hmoving,
          loopReadPosture, MotionSwitcherBridge.getRobotPosture, hwalking, loopSetPosture]

/-! ## Histories of inputs -/

/-- The state after a history of inputs. -/
def stateAfter (h : List (Timed AppInput)) : App K := run (next (App.step sdk)) App.init h

/-- The empty history. -/
@[simp] theorem stateAfter_nil : stateAfter sdk [] = (App.init : App K) := rfl

/-- The last input acts on the state the others led to. -/
@[simp] theorem stateAfter_concat (h : List (Timed AppInput)) (x : Timed AppInput) :
    stateAfter sdk (h ++ [x]) = (App.step sdk (stateAfter sdk h) x).1 := run_concat _ _ _ _

/-- The state of a recorded history is that of the history. -/
@[simp] theorem after_state (h : List (Timed AppInput)) :
    (App.after sdk h).state = stateAfter sdk h := recorded_state _ _ _

/-- The last input adds what it emits. -/
@[simp] theorem after_trace_concat (h : List (Timed AppInput)) (x : Timed AppInput) :
    (App.after sdk (h ++ [x])).trace =
      (App.after sdk h).trace ++ (App.step sdk (stateAfter sdk h) x).2 :=
  recorded_concat_trace _ _ _ _

/-- The outputs of the inputs after the last one with the property `p`. -/
def outputsSince (p : Timed AppInput → Bool) (h : List (Timed AppInput)) : List (Output K) :=
  traceSince p (App.step sdk) App.init h

/-- Nothing has been emitted yet. -/
@[simp] theorem outputsSince_nil (p : Timed AppInput → Bool) :
    outputsSince sdk p [] = ([] : List (Output K)) := rfl

/-- An input with `p` starts afresh, and any other adds what it emits. -/
theorem outputsSince_concat (p : Timed AppInput → Bool) (h : List (Timed AppInput))
    (x : Timed AppInput) :
    outputsSince sdk p (h ++ [x]) =
      if p x then [] else outputsSince sdk p h ++ (App.step sdk (stateAfter sdk h) x).2 :=
  traceSince_concat _ _ _ _ _

variable (x : Timed AppInput)

/-- The publisher after an input has made the operation of its effect. -/
@[simp] theorem step_cmdVelPublisher :
    (App.step sdk app x).1.cmdVelPublisher =
      (app.cmdVelPublisher.applyIfSome sdk x.now (app.effect sdk x).velOp).1 := by
  rw [step_eq]; rfl

/-- The settings after an input are those its operation makes. -/
theorem step_settings :
    (App.step sdk app x).1.cmdVelPublisher.settings =
      app.cmdVelPublisher.settings.applyIfSome (app.effect sdk x).velOp := by
  rw [step_cmdVelPublisher, CmdVelPublisher.settings_applyIfSome]

/-- The motion switcher after an input is that of its effect. -/
@[simp] theorem step_motionSwitcherBridge :
    (App.step sdk app x).1.motionSwitcherBridge = (app.effect sdk x).motionSwitcherBridge := by
  rw [step_eq]; rfl

/-- The messages of an input are those of its operation. -/
@[simp] theorem step_twists :
    twists (App.step sdk app x).2 =
      (app.cmdVelPublisher.applyIfSome sdk x.now (app.effect sdk x).velOp).2 := by
  rw [step_eq, emitted, twists_append, twists_append, twists_map_twist]
  obtain ⟨now, op⟩ := x
  cases op <;> simp [effect, twists, List.filterMap_map, Function.comp_def, Output.twist?]

/-- The command of an input is that of its effect. -/
@[simp] theorem step_commands :
    commands (App.step sdk app x).2 =
      (app.effect sdk x).fsmCommand.toList.map FsmCommand.toInt32 := by
  rw [step_eq, emitted, commands_append, commands_append, commands_map_twist]
  obtain ⟨now, op⟩ := x
  cases op <;> simp [effect, commands, List.filterMap_map, Function.comp_def, Output.command?]

/-- A motion switcher request is answered once. -/
theorem step_switcherStatuses (now : Time) (request : Request) :
    switcherStatuses (App.step sdk app ⟨now, .switcherRequest request⟩).2 =
      [(app.motionSwitcherBridge.buildInterceptResponseData sdk request.apiId32 request).2.1] := by
  rw [step_eq]
  simp [emitted, effect, switcherStatuses, List.filterMap_map, Function.comp_def,
    Output.switcherStatus?, switcherResponse, buildInterceptResponse]

variable [IsStrictOrderedRing K] [LawfulHypot K]

/-- The velocity publisher is consistent with what the application has published. -/
theorem consistent_after (h : List (Timed AppInput)) :
    (stateAfter sdk h).cmdVelPublisher.Consistent (twists (App.after sdk h).trace) := by
  induction h using List.reverseRecOn with
  | nil => exact CmdVelPublisher.Consistent.initChannel CmdVelPublisher.consistent_init
  | append_singleton h x ih =>
    rw [stateAfter_concat, after_trace_concat, twists_append, step_cmdVelPublisher, step_twists]
    exact ih.applyIfSome sdk x.now _

end App

end SdkEventBridge
