import SdkEventBridge.App.Steps

set_option relaxedAutoImplicit false
set_option autoImplicit false

/-!
# The order of commands

Three of the FSM commands are published by request handlers and two by event handlers, and the
bridge dispatches events at two places. This file compares what is published on `/cmd_ctl` with
the README's table, request by request, and looks at the moment of publication: a command to go
down finds the robot stopped, locked and down.

## Main definitions

* `cmdCtlTable`, `expectedCommand` — the README's table, and the command it gives for an input.
* `App.visited` — the calls made while an input is handled, with what was emitted before them.

## Main results

* `App.down_at_publication` — the moment at which a command to go down is published.
* `App.commands_follow_table` — the commands are those of the table, in the order of the requests.
-/

namespace SdkEventBridge

open PlanarNorm Resumption Run

/-- The README's `/cmd_ctl` table. -/
def cmdCtlTable : SportApi → Option Int32
  | .standUp | .balanceStand | .recoveryStand => some 10001
  | .standDown => some 10002
  | .damp => some 10003
  | .move | .stopMove | .freeWalkGo2 | .freeWalkB2 | .classicWalkGo2 | .classicWalkB2
  | .visionWalk | .fastWalk | .switchMoveMode | .speedLevel | .switchGait => none

section Expected

variable {K : Type} (sdk : UnitreeSdk K)

/-- The command the table gives for an input: only sport requests have one. -/
def expectedCommand (x : Timed AppInput) : Option Int32 :=
  match x.op with
  | .sportRequest request => (sdk.sportApi? request.apiId32).bind cmdCtlTable
  | .switcherRequest _ | .reset | .loop => none

/-- The command the table gives for a sport request is that of the decoded request. -/
theorem expectedCommand_sportRequest (now : Time) (request : Request) :
    expectedCommand sdk ⟨now, .sportRequest request⟩ =
      (sportCommand sdk request).fsmCommand.map FsmCommand.toInt32 := by
  have hparsed : ∀ {α : Type} (value : Option α) (op : α → CmdVelOp),
      (SportCommand.ofParsed value op).fsmCommand = none := by
    intro α value op
    cases value <;> rfl
  simp only [expectedCommand, sportCommand]
  cases hapi : sdk.sportApi? request.apiId32 with
  | none => rfl
  | some api =>
    cases api with
    | speedLevel | switchGait | switchMoveMode | visionWalk | classicWalkGo2 | classicWalkB2
    | fastWalk =>
      dsimp only
      rw [hparsed]
      rfl
    | _ => rfl

end Expected

namespace App

section Order

variable {K : Type} [Field K] [LinearOrder K] [HasHypot K] (sdk : UnitreeSdk K)

/-- An input publishes the command the table gives for it. -/
theorem step_commands_eq_expected (app : App K) (x : Timed AppInput) :
    commands (App.step sdk app x).2 = (expectedCommand sdk x).toList := by
  rw [step_commands]
  obtain ⟨now, op⟩ := x
  cases op with
  | sportRequest request =>
    rw [expectedCommand_sportRequest, Option.toList_map]
    rfl
  | switcherRequest request => rfl
  | reset => rfl
  | loop => rfl

/-- A sport request publishes velocities, then its command, and then sends the response. -/
theorem step_sportRequest (app : App K) (now : Time) (request : Request) :
    (App.step sdk app ⟨now, .sportRequest request⟩).2 =
      (app.cmdVelPublisher.applyIfSome sdk now (sportCommand sdk request).velOp).2.map .twist ++
        (expectedCommand sdk ⟨now, .sportRequest request⟩).toList.map .command ++
        [.sportResponse (sportResponse sdk request)] := by
  rw [step_eq, expectedCommand_sportRequest]
  simp only [emitted, effect]
  cases (sportCommand sdk request).fsmCommand <;> rfl

/-- The calls made while the input `x` is handled after the history `h`, each with the state it
is made in and everything emitted before it. -/
def visited (h : List (Timed AppInput)) (x : Timed AppInput) :
    List (Recorded (App K) (Output K) × Call) :=
  visits (App.call sdk) x.now (program sdk x.op) (App.after sdk h)

/-- The call does not publish a command. -/
def publishesNothing : Call → Bool
  | .publishCommand _ => false
  | .cmdVel _ | .isJointsLocked | .isActivelyMoving | .setRobotPosture _ | .getRobotPosture
  | .resetMotionSwitcher | .buildInterceptResponseData _ _ | .sleepFor | .sendSportResponse _
  | .writeSwitcherResponse _ => true

/-- A program that publishes no command is not visited at a publication. -/
theorem not_mem_visits_of_calls {now : Time} {p : AppProg K} {r v : Recorded (App K) (Output K)}
    {c : Int32} (hp : p.Calls fun i => publishesNothing i = true) :
    (v, .publishCommand c) ∉ visits (App.call sdk) now p r := by
  intro hmem
  exact absurd (hp.of_mem_visits (App.call sdk) now hmem) (by simp [publishesNothing])

omit [HasHypot K] in
/-- Only the commands that lock and BALANCESTAND publish. -/
theorem calls_actions {cmd : SportCommand} (hcmd : cmd.fsmCommand = none) :
    (cmd.actions sdk).Calls fun i => publishesNothing i = true := by
  cases cmd with
  | lockAnd posture fsm => simp [SportCommand.fsmCommand] at hcmd
  | balanceStand => simp [SportCommand.fsmCommand] at hcmd
  | stopMove => simp [publishesNothing]
  | move p => exact ⟨rfl, fun _ => calls_updatePostureFromMove sdk p rfl rfl⟩
  | setting op => simp [publishesNothing]
  | ignored => trivial

omit [HasHypot K] in
/-- No input but a sport request publishes a command.

**Proof sketch.** Case analysis on the input and along the calls of its program: an answer with a
mode change for the motion switcher, the reset of both objects, and the calls of one iteration of
the loop. -/
theorem calls_program {input : AppInput} (hinput : ∀ request, input ≠ .sportRequest request) :
    (program sdk input).Calls fun i => publishesNothing i = true := by
  cases input with
  | sportRequest request => exact absurd rfl (hinput request)
  | switcherRequest request =>
    exact calls_program_switcherRequest sdk request rfl (fun _ => rfl) fun _ => rfl
  | reset => simp [program, resetCallback, publishesNothing]
  | loop => exact calls_loopIteration rfl rfl rfl fun _ => rfl

/-- **At the publication of a command to go down** the last velocity published is zero, the
joints are locked and the posture is StandDown.

**Proof sketch.** Only the actions of a sport command publish a command. Those with code 10002 or
10003 lock the joints, write StandDown and only then publish; the state at the publication is
computed from these two calls. The other commands that publish have other codes. -/
theorem down_at_publication {h : List (Timed AppInput)} {x : Timed AppInput}
    {v : Recorded (App K) (Output K)} {c : Int32}
    (hv : (v, .publishCommand c) ∈ visited sdk h x) (hc : c = 10002 ∨ c = 10003) :
    lastTwist (twists v.trace) = 0 ∧ v.state.cmdVelPublisher.jointsLocked = true ∧
      v.state.motionSwitcherBridge.robotPosture = .standDown := by
  obtain ⟨now, op⟩ := x
  by_cases hop : ∃ request, op = .sportRequest request
  · obtain ⟨request, rfl⟩ := hop
    rw [visited, program_sportRequest, visits_seq, List.mem_append,
      or_iff_left (not_mem_visits_of_calls sdk (calls_respond sdk request rfl rfl))] at hv
    cases hcmd : sportCommand sdk request with
    | lockAnd posture fsm =>
      simp only [hcmd, actions_lockAnd, visits_call, visits_one, List.mem_cons, Prod.mk.injEq,
        reduceCtorEq, and_false, false_or, Call.publishCommand.injEq, List.not_mem_nil,
        or_false] at hv
      obtain ⟨rfl, rfl⟩ := hv
      cases posture with
      | standDown =>
        have hstop : twists [Output.twist (0 : Twist K)] = [0] := rfl
        simp [App.call, CmdVelPublisher.apply, CmdVelPublisher.lockJoints, hstop]
      | standUp =>
        obtain ⟨-, rfl⟩ := decodedFrom_of_eq hcmd
        exact absurd hc (by decide)
      | walking => exact absurd (decodedFrom_of_eq hcmd) id
    | balanceStand =>
      simp only [hcmd, actions_balanceStand, visits_call, visits_one, List.mem_cons,
        Prod.mk.injEq, reduceCtorEq, and_false, false_or, Call.publishCommand.injEq,
        List.not_mem_nil, or_false] at hv
      obtain ⟨-, rfl⟩ := hv
      exact absurd hc (by decide)
    | stopMove | move | setting | ignored =>
      rw [hcmd] at hv
      exact absurd hv (not_mem_visits_of_calls sdk (calls_actions sdk rfl))
  · have hcalls := calls_program sdk fun request hrequest => hop ⟨request, hrequest⟩
    exact absurd hv (not_mem_visits_of_calls sdk hcalls)

end Order

/-- **The command sequence.** The commands published on `/cmd_ctl` are those the table gives for
the sport requests, in order; each is published before the response to its request; and a command
to go down is published to a robot that is stopped, locked and down.

**Proof sketch.** The first part is an induction on the history from its end, with the commands of
one input from `step_commands_eq_expected`. The second is the output of a sport request as its
program gives it. The third is `down_at_publication`. -/
theorem commands_follow_table (sdk : UnitreeSdk ℝ) (h : List (Timed AppInput)) :
    commands (App.after sdk h).trace = h.filterMap (expectedCommand sdk) ∧
    (∀ pre now request post, h = pre ++ ⟨now, .sportRequest request⟩ :: post →
      ∃ ts : List (Twist ℝ), (App.step sdk (stateAfter sdk pre) ⟨now, .sportRequest request⟩).2 =
        ts.map .twist ++
          (expectedCommand sdk ⟨now, .sportRequest request⟩).toList.map .command ++
          [.sportResponse (sportResponse sdk request)]) ∧
    (∀ pre x post, h = pre ++ x :: post → ∀ v c, (v, .publishCommand c) ∈ visited sdk pre x →
      c = 10002 ∨ c = 10003 →
        lastTwist (twists v.trace) = 0 ∧ v.state.cmdVelPublisher.jointsLocked = true ∧
          v.state.motionSwitcherBridge.robotPosture = .standDown) := by
  refine ⟨?_, ?_, fun pre x post _ v c hv hc => down_at_publication sdk hv hc⟩
  · induction h using List.reverseRecOn with
    | nil => rfl
    | append_singleton h x ih =>
      rw [after_trace_concat, commands_append, ih, step_commands_eq_expected,
        List.filterMap_append]
      cases hx : expectedCommand sdk x <;> simp [hx]
  · intro pre now request post _
    exact ⟨_, step_sportRequest sdk (stateAfter sdk pre) now request⟩

end App

end SdkEventBridge
