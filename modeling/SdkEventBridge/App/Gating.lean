import SdkEventBridge.App.Tables
import SdkEventBridge.App.VelocityCalls

set_option relaxedAutoImplicit false
set_option autoImplicit false

/-!
# Gating, under every interleaving

A mode change is granted in the posture StandDown, and in atomic runs StandDown means at rest. With
calls interleaved two moments are different. Between the publication of a MOVE and the write of
Walking the robot moves in whatever posture it had, and between the two calls of a reset a MOVE can
be accepted. This file proves that there are no others as long as each call on an object is one
step; what a reset does in the middle of `HandleMove` is seen in `CmdVel.Interleaving`. The speed
cap is treated in the same way: it belongs to the stored mode name whenever no mode change and no
reset is halfway through.

## Main definitions

* `MovePending` — the sport thread reports a MOVE with motion and has not yet written Walking.
* `NoMoveInReset` — no MOVE is handled between the two calls of a reset.
* `InModeChange`, `InReset`, `ModeChangeApart` — halfway through a mode change or a reset, and the
  runs in which no mode change meets a reset there.

## Main results

* `mode_change_gated` — where a mode change can be granted the last velocity is zero, or a MOVE is
  pending.
* `cap_agrees_interleaved` — the cap belongs to the stored mode name.
-/

namespace SdkEventBridge

open PlanarNorm Resumption Run

open CmdVelPublisher (callThread)

/-- The last message is within the cap in use. -/
theorem CmdVelPublisher.Consistent.speed_lastTwist_le {K : Type} [Field K] [LinearOrder K]
    [HasHypot K] [IsStrictOrderedRing K] [LawfulHypot K] {s : CmdVelPublisher K}
    {ts : List (Twist K)} (h : CmdVelPublisher.Consistent s ts) :
    hypot (lastTwist ts).linear.x (lastTwist ts).linear.y ≤ s.maxLinearSpeed := by
  have hlast := h.lastTwist_eq
  cases hactive : s.hasActiveMove with
  | false =>
    have hzero : lastTwist ts = 0 := by simpa [hactive] using hlast
    calc hypot (lastTwist ts).linear.x (lastTwist ts).linear.y
        = hypot 0 0 := by rw [hzero]; rfl
      _ = 0 := hypot_zero_zero
      _ ≤ s.maxLinearSpeed := h.cap_pos.le
  | true =>
    have hmove : lastTwist ts = Twist.ofVelocity s.lastVelocity := by simpa [hactive] using hlast
    rw [hmove]
    exact h.speed_le hactive

namespace App

/-! ## What the threads can have left to do -/

section Programs

variable {K : Type} [Field K] [LinearOrder K] (sdk : UnitreeSdk K)

/-- The sport thread is in the report of a MOVE with motion (`UpdatePostureFromMove`): it still has
to read the lock and, unless the joints are locked by then, to write Walking. Every report comes
right after the call that handles the MOVE (`ReportsMoves`), which may have published it. -/
def MovePending (p : AppProg K) : Prop :=
  ∃ (m : String) (rest : AppProg K), (parseMoveParameter sdk m).hasMotion = true ∧
    (p = (updatePostureFromMove sdk m).seq rest ∨
      p = (Prog.one (.setRobotPosture .walking)).seq rest)

/-- Every MOVE with motion is reported right after it is handled. -/
def ReportsMoves : AppProg K → Prop
  | .done => True
  | .call i next => ∀ app,
    (∀ m, i = .cmdVel (.handleMove m) → (parseMoveParameter sdk m).hasMotion = true →
      MovePending sdk (next app)) ∧
    ReportsMoves (next app)

/-- A call that neither handles a MOVE nor sets the posture. -/
def KeepsPosture (i : Call) : Prop :=
  (∀ m, i ≠ .cmdVel (.handleMove m)) ∧ (∀ posture, i ≠ .setRobotPosture posture) ∧
    i ≠ .resetMotionSwitcher

/-- What a thread can have left to do, as far as moves and postures go. -/
def Gates : Thread → AppProg K → Prop
  | .sport, p => ReportsMoves sdk p ∧ p.Calls fun i => i ≠ .resetMotionSwitcher
  | .switcher, p => p.Calls KeepsPosture
  | .reset, p => p = .done ∨ p = resetCallback ∨ p = .one .resetMotionSwitcher
  | .loop, p => Pending .loop p

variable {sdk}

/-- A program that handles no MOVE has none to report. -/
theorem reportsMoves_of_calls {p : AppProg K}
    (h : p.Calls fun i => ∀ m, i ≠ .cmdVel (.handleMove m)) : ReportsMoves sdk p := by
  induction p with
  | done => trivial
  | call i next ih =>
    exact fun app => ⟨fun m hi _ => absurd hi (h.1 m), ih app (h.2 app)⟩

variable (sdk)

/-- The sport handlers report every MOVE. -/
theorem reportsMoves_sportRequest (request : Request) :
    ReportsMoves sdk (program sdk (.sportRequest request)) := by
  have hrespond : (respond sdk request : AppProg K).Calls
      fun i => ∀ m, i ≠ .cmdVel (.handleMove m) :=
    calls_respond sdk request (by simp) (by simp)
  rw [program_sportRequest]
  cases hcmd : sportCommand sdk request with
  | move p =>
    refine fun app => ⟨fun m hm hmotion => ?_, ?_⟩
    · obtain rfl : p = m := by simpa using hm
      exact ⟨p, respond sdk request, hmotion, Or.inl rfl⟩
    · exact reportsMoves_of_calls
        ((calls_updatePostureFromMove sdk p (by simp) (by simp)).seq hrespond)
  | lockAnd posture fsm => exact reportsMoves_of_calls (Prog.Calls.seq (by simp) hrespond)
  | balanceStand => exact reportsMoves_of_calls (Prog.Calls.seq (by simp) hrespond)
  | stopMove => exact reportsMoves_of_calls (Prog.Calls.seq (by simp) hrespond)
  | setting op =>
    have hop : ∀ m, op ≠ .handleMove m := by
      rintro m rfl
      exact absurd (decodedFrom_of_eq hcmd) id
    exact reportsMoves_of_calls (Prog.Calls.seq (by simpa using hop) hrespond)
  | ignored => exact reportsMoves_of_calls (Prog.Calls.seq trivial hrespond)

/-- No sport request resets the motion switcher. -/
theorem calls_sportRequest_ne_reset (request : Request) :
    (program sdk (.sportRequest request)).Calls fun i => i ≠ .resetMotionSwitcher := by
  rw [program_sportRequest]
  refine Prog.Calls.seq ?_ (calls_respond sdk request (by simp) (by simp))
  cases sportCommand sdk request with
  | move p => exact ⟨by simp, fun _ => calls_updatePostureFromMove sdk p (by simp) (by simp)⟩
  | _ => simp

/-- No motion switcher request handles a MOVE or sets the posture. -/
theorem calls_switcherRequest_keepsPosture (request : Request) :
    (program sdk (.switcherRequest request)).Calls KeepsPosture :=
  calls_program_switcherRequest sdk request (by simp [KeepsPosture]) (by simp [KeepsPosture])
    (by simp [KeepsPosture])

/-- Every input begins with a program of its thread. -/
theorem gates_program [HasHypot K] (input : AppInput) :
    Gates sdk ((appSystem sdk).thread input) (program sdk input) := by
  cases input with
  | sportRequest request =>
    exact ⟨reportsMoves_sportRequest sdk request, calls_sportRequest_ne_reset sdk request⟩
  | switcherRequest request => exact calls_switcherRequest_keepsPosture sdk request
  | reset => exact Or.inr (Or.inl rfl)
  | loop => exact Or.inr (Or.inl rfl)

variable {sdk}

omit [Field K] [LinearOrder K] in
/-- What follows a call of the reset thread. -/
theorem reset_next {i : Call} {next : App K → AppProg K}
    (h : Prog.call i next = resetCallback ∨ Prog.call i next = .one .resetMotionSwitcher) :
    (i = .cmdVel .resetToDefaults ∧ ∀ app, next app = .one .resetMotionSwitcher) ∨
      (i = .resetMotionSwitcher ∧ ∀ app, next app = .done) := by
  rcases h with h | h
  · obtain ⟨rfl, rfl⟩ := Prog.call.inj h
    exact Or.inl ⟨rfl, fun _ => rfl⟩
  · obtain ⟨rfl, rfl⟩ := Prog.call.inj h
    exact Or.inr ⟨rfl, fun _ => rfl⟩

/-- What is left after a call is left to the same thread. -/
theorem gates_next {t : Thread} {i : Call} {next : App K → AppProg K} {app : App K}
    (h : Gates sdk t (.call i next)) : Gates sdk t (next app) := by
  cases t with
  | sport => exact ⟨(h.1 app).2, h.2.2 app⟩
  | switcher => exact h.2 app
  | reset =>
    rcases reset_next (h.resolve_left (by simp)) with ⟨-, hn⟩ | ⟨-, hn⟩
    · rw [hn]; exact Or.inr (Or.inr rfl)
    · rw [hn]; exact Or.inl rfl
  | loop =>
    have hpend : Pending .loop (Prog.call i next) := h
    exact pending_next hpend

end Programs

/-! ## Standing still -/

section Still

variable {K : Type} [Field K] [LinearOrder K] [HasHypot K] (sdk : UnitreeSdk K)

/-- No MOVE is handled between the two calls of a reset. -/
def NoMoveInReset (c : AppPool K) (l : Label Thread AppInput Time) : Prop :=
  ∀ e m next next', l = .advance .sport e →
    c.prog .sport = .call (.cmdVel (.handleMove m)) next →
    c.prog .reset ≠ .call .resetMotionSwitcher next'

/-- In the posture StandDown the robot stands still unless a MOVE is pending, and it stands still
between the two calls of a reset. -/
structure Gated (c : AppPool K) : Prop where
  still : c.state.motionSwitcherBridge.robotPosture = .standDown →
    c.state.cmdVelPublisher.Still ∨ MovePending sdk (c.prog .sport)
  reset : ∀ next, c.prog .reset = .call .resetMotionSwitcher next → c.state.cmdVelPublisher.Still

variable {sdk}

omit [HasHypot K] in
/-- The calls a pending MOVE still makes. -/
theorem MovePending.call_cases {i : Call} {next : App K → AppProg K}
    (h : MovePending sdk (.call i next)) :
    (i = .isJointsLocked ∧ ∀ app, app.cmdVelPublisher.jointsLocked = false →
      MovePending sdk (next app)) ∨ i = .setRobotPosture .walking := by
  obtain ⟨m, rest, hmotion, h | h⟩ := h
  · obtain ⟨rfl, rfl⟩ := Prog.call.inj h
    refine Or.inl ⟨rfl, fun app hunlocked => ⟨m, rest, hmotion, Or.inr ?_⟩⟩
    simp [CmdVelPublisher.isJointsLocked, hunlocked, hmotion]
  · obtain ⟨rfl, -⟩ := Prog.call.inj h
    exact Or.inr rfl

variable (sdk)

/-- At every moment each thread has one of these programs left to do. -/
theorem gates_interleaved (ls : List (Label Thread AppInput Time)) (t : Thread) :
    Gates sdk t ((interleaved sdk ls).prog t) :=
  System.run_threads (S := appSystem sdk) (gates_program sdk) (fun _ _ _ _ => gates_next)
    (fun t => by cases t <;> simp [Pool.idle, Gates, Pending, ReportsMoves]) ls t

variable [IsStrictOrderedRing K] [LawfulHypot K]

/-- The invariant of the velocity publisher holds at every moment of an interleaved run. -/
theorem consistent_interleaved (ls : List (Label Thread AppInput Time)) :
    CmdVelPublisher.Consistent (interleaved sdk ls).state.cmdVelPublisher
      (twists (interleaved sdk ls).trace) := by
  obtain ⟨hstate, htrace⟩ := cmdVelPublisher_eq_stateAfter sdk ls
  rw [hstate, htrace, ← CmdVelPublisher.initChannel_eq]
  exact (CmdVelPublisher.consistent_after sdk _).initChannel

variable {sdk}

/-- Standing still lasts until a MOVE with motion is accepted. -/
theorem call_still {app : App K} {i : Call} (h : app.cmdVelPublisher.Still)
    (hcap : 0 < app.cmdVelPublisher.maxLinearSpeed) (now : Time)
    (hi : ∀ m, i = .cmdVel (.handleMove m) → app.cmdVelPublisher.jointsLocked = false →
      parseMoveParameter sdk m = 0) :
    (App.call sdk now app i).1.cmdVelPublisher.Still := by
  cases i with
  | cmdVel op => exact h.apply hcap sdk now fun m hm => hi m (congrArg _ hm)
  | _ => exact h

omit [IsStrictOrderedRing K] [LawfulHypot K] in
/-- A call that only reads, or only publishes and answers, keeps the posture. -/
theorem call_posture_of_keeps {app : App K} {i : Call}
    (hset : ∀ posture, i ≠ .setRobotPosture posture) (hreset : i ≠ .resetMotionSwitcher)
    (now : Time) :
    (App.call sdk now app i).1.motionSwitcherBridge.robotPosture =
      app.motionSwitcherBridge.robotPosture := by
  rw [call_robotPosture]
  cases i with
  | setRobotPosture posture => exact absurd rfl (hset posture)
  | resetMotionSwitcher => exact absurd rfl hreset
  | _ => rfl

/-- A call of the sport thread keeps the gate.

**Proof sketch.** A write of StandDown comes after the move was ended, by `inactive_of_sets`. Any
other call leaves a StandDown posture as it was; if the robot stood still, a MOVE with motion makes
one pending, since the handler reports it, and other calls keep it still. A pending MOVE reads the
lock next: with locked joints the robot is at rest, with unlocked ones Walking is written. Between
the two calls of a reset no MOVE is made. -/
theorem gated_sport {ls : List (Label Thread AppInput Time)} {e : Time} {i : Call}
    {next : App K → AppProg K} (hprog : (interleaved sdk ls).prog .sport = .call i next)
    (h : Gated sdk (interleaved sdk ls))
    (hl : NoMoveInReset (interleaved sdk ls) (.advance .sport e)) :
    Gated sdk (interleaved sdk (ls ++ [.advance .sport e])) := by
  have hcon := consistent_interleaved sdk ls
  obtain ⟨hreports, hnoreset⟩ := gates_interleaved sdk ls .sport
  rw [hprog] at hreports hnoreset
  rw [interleaved_concat, System.step_advance_of_call hprog]
  set c := interleaved sdk ls with hc
  refine ⟨fun hdown => ?_, fun next' hnext => ?_⟩
  · by_cases hset : i = .setRobotPosture .standDown
    · -- Before a StandDown is written the move has been ended.
      subst hset
      have hinactive := inactive_of_sets ls ⟨next, hprog⟩
      exact Or.inl (CmdVelPublisher.still_of_inactive hinactive)
    have hne : ∀ posture, i ≠ .setRobotPosture posture := by
      rintro posture rfl
      have hposture : posture = .standDown := by
        rw [← hdown]
        exact (call_robotPosture sdk e c.state (.setRobotPosture posture)).symm
      exact hset (hposture ▸ rfl)
    have hbefore : c.state.motionSwitcherBridge.robotPosture = .standDown := by
      rw [← hdown]
      exact (call_posture_of_keeps hne hnoreset.1 e).symm
    rcases h.still hbefore with hstill | hpending
    · by_cases hmove : ∃ m, i = .cmdVel (.handleMove m) ∧
          (parseMoveParameter sdk m).hasMotion = true
      · obtain ⟨m, hi, hmotion⟩ := hmove
        exact Or.inr (by simpa using (hreports c.state).1 m hi hmotion)
      · refine Or.inl (call_still hstill hcon.cap_pos e fun m hi _ => ?_)
        have hmotion : (parseMoveParameter sdk m).hasMotion = false := by
          by_contra hne
          exact hmove ⟨m, hi, by simpa using hne⟩
        exact MoveVelocity.hasMotion_eq_false.mp hmotion
    · rw [hprog] at hpending
      rcases hpending.call_cases with ⟨rfl, hrest⟩ | rfl
      · -- The lock is read: locked joints mean no motion, and unlocked joints a write of Walking.
        cases hlocked : c.state.cmdVelPublisher.jointsLocked with
        | true => exact Or.inl (CmdVelPublisher.still_of_inactive (hcon.still_of_locked hlocked).1)
        | false => exact Or.inr (by simpa using hrest c.state hlocked)
      · exact absurd rfl (hne .walking)
  · have hreset : c.prog .reset = .call .resetMotionSwitcher next' := by simpa using hnext
    refine call_still (h.reset next' hreset) hcon.cap_pos e fun m hi _ => ?_
    subst hi
    exact absurd hreset (hl e m next next' rfl hprog)

/-- A call of any other thread keeps the gate.

**Proof sketch.** Other threads make no MOVE, so a robot that stands still goes on doing so, and
what is pending on the sport thread stays. The reset writes StandDown between its two calls after
ending the move, and the main loop never writes it. -/
theorem gated_other {ls : List (Label Thread AppInput Time)} {t : Thread} {e : Time} {i : Call}
    {next : App K → AppProg K} (ht : t ≠ .sport)
    (hprog : (interleaved sdk ls).prog t = .call i next) (h : Gated sdk (interleaved sdk ls)) :
    Gated sdk (interleaved sdk (ls ++ [.advance t e])) := by
  have hcon := consistent_interleaved sdk ls
  have hgates := gates_interleaved sdk ls t
  have hpend := pending_interleaved sdk ls t
  rw [hprog] at hgates hpend
  have hmove : ∀ m, i ≠ .cmdVel (.handleMove m) := ne_handleMove_of_pending hpend ht
  rw [interleaved_concat, System.step_advance_of_call hprog]
  set c := interleaved sdk ls with hc
  have hsport : Function.update c.prog t (next c.state) .sport = c.prog .sport :=
    Function.update_of_ne (Ne.symm ht) _ _
  have hkeep : c.state.cmdVelPublisher.Still →
      (App.call sdk e c.state i).1.cmdVelPublisher.Still := fun hstill =>
    call_still hstill hcon.cap_pos e fun m hi _ => absurd hi (hmove m)
  have hstill : (∀ posture, i ≠ .setRobotPosture posture) → i ≠ .resetMotionSwitcher →
      (App.call sdk e c.state i).1.motionSwitcherBridge.robotPosture = .standDown →
      (App.call sdk e c.state i).1.cmdVelPublisher.Still ∨ MovePending sdk (c.prog .sport) := by
    intro hset hreset hdown
    rw [call_posture_of_keeps hset hreset] at hdown
    exact (h.still hdown).imp_left hkeep
  refine ⟨fun hdown => ?_, fun next' hnext => ?_⟩
  · show (App.call sdk e c.state i).1.cmdVelPublisher.Still ∨
      MovePending sdk (Function.update c.prog t (next c.state) .sport)
    rw [hsport]
    cases t with
    | sport => exact absurd rfl ht
    | switcher => exact hstill hgates.1.2.1 hgates.1.2.2 hdown
    | reset =>
      rcases reset_next (hgates.resolve_left (by simp)) with ⟨rfl, -⟩ | ⟨rfl, -⟩
      · exact hstill (by simp) (by simp) hdown
      · exact Or.inl (hkeep (h.reset next hprog))
    | loop =>
      rcases pending_loop_next hgates with ⟨rfl, -⟩ | ⟨rfl, -⟩ | ⟨rfl, -⟩ | ⟨posture, hup, rfl, -⟩
      · exact hstill (by simp) (by simp) hdown
      · exact hstill (by simp) (by simp) hdown
      · exact hstill (by simp) (by simp) hdown
      · -- The main loop never writes StandDown.
        have hposture : posture = .standDown := by
          rw [← hdown]
          exact (call_robotPosture sdk e c.state (.setRobotPosture posture)).symm
        rcases hup with rfl | rfl <;> exact absurd hposture (by simp)
  · by_cases hreset : t = .reset
    · subst hreset
      rcases reset_next (hgates.resolve_left (by simp)) with ⟨rfl, -⟩ | ⟨rfl, hdone⟩
      · refine CmdVelPublisher.still_of_inactive ?_
        simp [appSystem, App.call, CmdVelPublisher.apply, CmdVelPublisher.resetToDefaults]
      · exact absurd hnext (by simp [hdone])
    · have hbefore : c.prog .reset = .call .resetMotionSwitcher next' := by
        simpa [Function.update_of_ne (Ne.symm hreset)] using hnext
      exact hkeep (h.reset next' hbefore)

/-- The gate is kept in every run in which no MOVE falls into a reset.

**Proof sketch.** Induction on the run from its end. A thread that starts has called nothing yet,
and an idle one has no MOVE pending. A call is one of the sport thread, by `gated_sport`, or of
another, by `gated_other`. -/
theorem gated_interleaved {ls : List (Label Thread AppInput Time)}
    (hexcl : Along (appSystem sdk).step NoMoveInReset (Pool.idle App.init) ls) :
    Gated sdk (interleaved sdk ls) := by
  induction ls using List.reverseRecOn with
  | nil =>
    refine ⟨fun _ => Or.inl (CmdVelPublisher.still_of_inactive ?_), fun next hnext => ?_⟩
    · simp [interleaved, Pool.idle, App.init, CmdVelPublisher.init]
    · exact absurd hnext (by simp [interleaved, Pool.idle])
  | append_singleton ls l ih =>
    rw [along_concat] at hexcl
    have hgated := ih hexcl.1
    rcases System.step_cases (S := appSystem sdk) (c := interleaved sdk ls) l with
      hsame | ⟨job, rfl, hidle, hstart⟩ | ⟨t, e, i, next, rfl, hprog, -⟩
    · rwa [interleaved_concat, hsame]
    · rw [interleaved_concat, hstart]
      refine ⟨fun hdown => ?_, fun next hnext => ?_⟩
      · rcases hgated.still hdown with hstill | hpending
        · exact Or.inl hstill
        · by_cases hsport : (appSystem sdk).thread job = .sport
          · -- An idle thread has no MOVE pending.
            rw [hsport] at hidle
            rw [hidle] at hpending
            obtain ⟨m, rest, -, h | h⟩ := hpending <;> cases h
          · exact Or.inr (by simpa [Function.update_of_ne (Ne.symm hsport)] using hpending)
      · cases job with
        | reset =>
          have hfirst : (resetCallback : AppProg K) = .call .resetMotionSwitcher next := by
            simpa [appSystem, program] using hnext
          cases hfirst
        | _ => exact hgated.reset next (by simpa [appSystem] using hnext)
    · by_cases ht : t = .sport
      · subst ht
        exact gated_sport hprog hgated hexcl.2
      · exact gated_other ht hprog hgated

end Still

/-- **Mode changes and moves.** At every moment at which a SELECT_MODE or RELEASE_MODE would be
granted, in every interleaving of the calls, each of them one atomic step, in which no MOVE falls
between the two calls of a reset, the last velocity published is zero, or the sport thread is in the
report of a MOVE with motion and has not yet written Walking.

**Proof sketch.** A mode change is granted in the posture StandDown only. By `gated_interleaved`
the publisher stands still in that posture unless a MOVE is pending, and a publisher that stands
still has published a zero velocity last (`consistent_interleaved`). -/
theorem mode_change_gated (sdk : UnitreeSdk ℝ) (ls : List (Label Thread AppInput Time))
    (hexcl : Along (appSystem sdk).step NoMoveInReset (Pool.idle App.init) ls) (request : Request)
    (hreq : IsModeChange sdk request) :
    let c := interleaved sdk ls
    (switcherResponse sdk c.state.motionSwitcherBridge request).statusCode = 0 →
      lastTwist (twists c.trace) = 0 ∨ MovePending sdk (c.prog .sport) := by
  intro c h0
  have hdown : c.state.motionSwitcherBridge.robotPosture = .standDown :=
    standDown_of_status_zero sdk hreq h0
  exact ((gated_interleaved hexcl).still hdown).imp_left
    (consistent_interleaved sdk ls).lastTwist_eq_zero.mpr

/-- After a reset, a FREEWALK that the reset overlaps and the publication of a MOVE, a release of
the mode would be granted while the robot moves: the MOVE is pending. -/
theorem mode_change_gated_move_pending :
    let ls : List (Label Thread AppInput Time) :=
      [.start .reset, .start (.sportRequest (sampleRequest 2045 "")), .advance .reset 0,
        .advance .sport 0, .advance .sport 0, .advance .reset 0,
        .start (.sportRequest (sampleRequest 1008 "\x7b\"x\":1\x7d")), .advance .sport 0]
    let c := interleaved (sampleSdk ℝ) ls
    lastTwist (twists c.trace) ≠ 0 ∧ MovePending (sampleSdk ℝ) (c.prog .sport) := by
  intro ls c
  have hfreeWalk : program (sampleSdk ℝ) (.sportRequest (sampleRequest 2045 "")) =
      ((SportCommand.setting .setFreeWalk).actions (sampleSdk ℝ)).seq
        (.one (.sendSportResponse (sportResponse (sampleSdk ℝ) (sampleRequest 2045 "")))) :=
    (program_sportRequest _ _).trans rfl
  have hreset : program (sampleSdk ℝ) .reset = resetCallback := rfl
  have hmove : parseMoveParameter (sampleSdk ℝ) "\x7b\"x\":1\x7d" ≠ 0 :=
    MoveVelocity.hasMotion_eq_true.mp hasMotion_sampleMove
  have hmoving : lastTwist (twists c.trace) ≠ 0 := by
    have hcap : (0 : ℝ) < CmdVelPublisher.aiLowMaxLinearSpeed := by
      norm_num [CmdVelPublisher.aiLowMaxLinearSpeed]
    simp [c, ls, interleaved, System.step, appSystem, hfreeWalk, program_sampleMove, hreset,
      resetCallback, Prog.one, Pool.idle, App.init, App.call, CmdVelPublisher.init,
      CmdVelPublisher.apply, CmdVelPublisher.setFreeWalk, CmdVelPublisher.unlockJoints,
      CmdVelPublisher.resetToDefaults, CmdVelPublisher.publishStop, CmdVelPublisher.publishMove,
      CmdVelPublisher.handleMove, CmdVelPublisher.acceptMove, CmdVelPublisher.applySpeedLimit_eq,
      twists, List.filterMap_cons, Output.twist?, lastTwist, MoveVelocity.limit_eq_zero hcap, hmove]
  refine ⟨hmoving, (mode_change_gated (sampleSdk ℝ) ls ?_ (sampleRequest 1003 "") (Or.inr rfl)
    rfl).resolve_left hmoving⟩
  -- The reset has ended by the time the MOVE is handled.
  refine ⟨?_, ?_, ?_, ?_, ?_, ?_, ?_, ?_, trivial⟩ <;> rintro e m next next' ⟨⟩
  · rintro ⟨⟩
  · rintro ⟨⟩
  · rintro - ⟨⟩

/-! ## The cap and the stored mode name -/

section Cap

variable {K : Type}

/-- The motion switcher thread has stored a mode, and the profile is still to be set. -/
def InModeChange (p : AppProg K) : Prop :=
  ∃ name next, p = .call (.cmdVel (.setMotionModeName name)) next

/-- The reset thread has reset the velocity publisher, and the motion switcher is still to be. -/
def InReset (p : AppProg K) : Prop := ∃ next, p = .call .resetMotionSwitcher next

/-- No motion switcher request is answered in the middle of a reset, and no reset begins in the
middle of a mode change. -/
structure ModeChangeApart (c : AppPool K) (l : Label Thread AppInput Time) : Prop where
  answered : ∀ e apiId request next, l = .advance .switcher e →
    c.prog .switcher = .call (.buildInterceptResponseData apiId request) next →
    ¬ InReset (c.prog .reset)
  reset : ∀ e next, l = .advance .reset e →
    c.prog .reset = .call (.cmdVel .resetToDefaults) next → ¬ InModeChange (c.prog .switcher)

/-- The profile belongs to the stored mode name, or will once the mode change or the reset that is
under way is through. -/
structure ProfileAgrees (profile : MotionProfile) (modeName : String)
    (switcher reset : AppProg K) : Prop where
  agrees : ¬ InModeChange switcher → ¬ InReset reset →
    profile = CmdVelPublisher.motionProfileFromModeName modeName
  change : ∀ name next, switcher = .call (.cmdVel (.setMotionModeName name)) next →
    CmdVelPublisher.motionProfileFromModeName name =
      CmdVelPublisher.motionProfileFromModeName modeName
  resetting : InReset reset → profile = .ai
  apart : InModeChange switcher → ¬ InReset reset

/-- The profile and the mode name of a moment, with what the two threads have left to do. -/
def ModeAgrees (c : AppPool K) : Prop :=
  ProfileAgrees c.state.cmdVelPublisher.motionProfile c.state.motionSwitcherBridge.modeName
    (c.prog .switcher) (c.prog .reset)

/-- Operations of the sport thread and of the main loop keep the profile. -/
theorem motionProfile_apply_of_callThread {op : CmdVelOp} (t : Settings)
    (h : callThread op = .sport ∨ callThread op = .loop) :
    (t.apply op).motionProfile = t.motionProfile := by
  have hwalk : ∀ mode enabled, (t.setWalkMode mode enabled).motionProfile = t.motionProfile := by
    intro mode enabled
    unfold Settings.setWalkMode
    split_ifs <;> rfl
  cases op with
  | setMotionModeName name => simp [callThread] at h
  | resetToDefaults => simp [callThread] at h
  | setGait gait =>
    simp only [Settings.apply]
    split_ifs <;> rfl
  | setVisionWalk enabled => exact hwalk _ _
  | setClassicWalk enabled => exact hwalk _ _
  | setFastWalk enabled => exact hwalk _ _
  | _ => rfl

/-- A program that goes on with another call is not in the middle of a mode change. -/
theorem not_inModeChange_of_ne {i : Call} {next : App K → AppProg K}
    (h : ∀ name, i ≠ .cmdVel (.setMotionModeName name)) : ¬ InModeChange (.call i next) := by
  rintro ⟨name, next', heq⟩
  exact h name (Prog.call.inj heq).1

/-- A program that goes on with another call is not in the middle of a reset. -/
theorem not_inReset_of_ne {i : Call} {next : App K → AppProg K} (h : i ≠ .resetMotionSwitcher) :
    ¬ InReset (.call i next) := by
  rintro ⟨next', heq⟩
  exact h (Prog.call.inj heq).1

/-- An idle thread is not in the middle of a mode change. -/
theorem not_inModeChange_done : ¬ InModeChange (.done : AppProg K) := by
  rintro ⟨name, next, ⟨⟩⟩

/-- An idle thread is not in the middle of a reset. -/
theorem not_inReset_done : ¬ InReset (.done : AppProg K) := by
  rintro ⟨next, ⟨⟩⟩

variable [Field K] [LinearOrder K] [HasHypot K] (sdk : UnitreeSdk K)

/-- What a call does to the profile is what it does to the settings. -/
theorem call_motionProfile (now : Time) (app : App K) (i : Call) :
    (App.call sdk now app i).1.cmdVelPublisher.motionProfile =
      (app.cmdVelPublisher.settings.call i).motionProfile :=
  congrArg Settings.motionProfile (call_settings sdk now app i)

/-- The stored mode name changes with an answer and with a reset only. -/
theorem call_modeName {i : Call}
    (hanswer : ∀ apiId request, i ≠ .buildInterceptResponseData apiId request)
    (hreset : i ≠ .resetMotionSwitcher) (now : Time) (app : App K) :
    (App.call sdk now app i).1.motionSwitcherBridge.modeName =
      app.motionSwitcherBridge.modeName := by
  cases i with
  | setRobotPosture posture => simp [App.call]
  | buildInterceptResponseData apiId request => exact absurd rfl (hanswer apiId request)
  | resetMotionSwitcher => exact absurd rfl hreset
  | _ => rfl

/-- Each thread has only operations of its own left to make. -/
theorem onThread_interleaved (ls : List (Label Thread AppInput Time)) (t : Thread) :
    ((interleaved sdk ls).prog t).Calls (Call.OnThread t) :=
  System.run_threads (S := appSystem sdk) (R := fun t p => p.Calls (Call.OnThread t))
    (calls_onThread sdk) (fun _ _ _ s h => h.2 s) (fun _ => Prog.calls_done _) ls t

/-- Only the motion switcher thread asks the motion switcher. -/
theorem no_answer_interleaved (ls : List (Label Thread AppInput Time)) {t : Thread}
    (ht : t ≠ .switcher) :
    ((interleaved sdk ls).prog t).Calls fun i => i.answeredRequest = [] :=
  System.calls_of_others (S := appSystem sdk) (c := Pool.idle App.init)
    (fun _ hne => (calls_not_switcher sdk hne).mono fun _ hi => hi.1)
    (fun _ _ => Prog.calls_done _) ls ht

variable {sdk}

/-- A call of the sport thread or the main loop keeps profile and mode name.

**Proof sketch.** These threads call no operation that changes the profile and no function that
changes the mode name. -/
theorem modeAgrees_keep {ls : List (Label Thread AppInput Time)} {t : Thread} {e : Time}
    {i : Call} {next : App K → AppProg K} (ht : t = .sport ∨ t = .loop)
    (hprog : (interleaved sdk ls).prog t = .call i next) (h : ModeAgrees (interleaved sdk ls)) :
    ModeAgrees (interleaved sdk (ls ++ [.advance t e])) := by
  have hthread := onThread_interleaved sdk ls t
  have hanswer := no_answer_interleaved sdk ls (t := t) (by rcases ht with rfl | rfl <;> simp)
  have hgates := gates_interleaved sdk ls t
  have hpend := pending_interleaved sdk ls t
  rw [hprog] at hthread hanswer hgates hpend
  rw [interleaved_concat, System.step_advance_of_call hprog]
  set c := interleaved sdk ls with hc
  have hprofile : (App.call sdk e c.state i).1.cmdVelPublisher.motionProfile =
      c.state.cmdVelPublisher.motionProfile := by
    rw [call_motionProfile]
    cases i with
    | cmdVel op =>
      have hop := hthread.1 op rfl
      exact motionProfile_apply_of_callThread _ (ht.imp (hop.trans ·) (hop.trans ·))
    | _ => rfl
  have hname : (App.call sdk e c.state i).1.motionSwitcherBridge.modeName =
      c.state.motionSwitcherBridge.modeName := by
    refine call_modeName sdk ?_ ?_ e c.state
    · rintro apiId request rfl
      exact absurd hanswer.1 (by simp [Call.answeredRequest])
    · rcases ht with rfl | rfl
      · exact hgates.2.1
      · rcases pending_loop_next hpend with
          ⟨rfl, -⟩ | ⟨rfl, -⟩ | ⟨rfl, -⟩ | ⟨posture, -, rfl, -⟩ <;> simp
  show ProfileAgrees (App.call sdk e c.state i).1.cmdVelPublisher.motionProfile
    (App.call sdk e c.state i).1.motionSwitcherBridge.modeName _ _
  rw [hprofile, hname]
  rcases ht with rfl | rfl <;> exact h

/-- A call of the motion switcher thread outside resets keeps profile and mode name in
agreement.

**Proof sketch.** The thread is about to answer a request, to set a profile, or to write its
response. Answering stores a granted name, and the call that is then pending sets the profile of
that same name, since both parsers find it; if no mode is granted the name stays. Setting the
profile makes the two agree again, and a response changes neither. No reset is halfway through while
a mode change is. -/
theorem modeAgrees_switcher
    (hname : ∀ p m, sdk.fromJsonModeName p = some m → m.name ≠ "" →
      parseStringParameter sdk p "name" = some m.name)
    {ls : List (Label Thread AppInput Time)} {e : Time} {i : Call} {next : App K → AppProg K}
    (hprog : (interleaved sdk ls).prog .switcher = .call i next)
    (h : ModeAgrees (interleaved sdk ls))
    (hl : ModeChangeApart (interleaved sdk ls) (.advance .switcher e)) :
    ModeAgrees (interleaved sdk (ls ++ [.advance .switcher e])) := by
  have hrest := switcherRest_interleaved sdk ls
  have hthread := onThread_interleaved sdk ls .switcher
  rw [hprog] at hrest hthread
  rw [interleaved_concat, System.step_advance_of_call hprog]
  set c := interleaved sdk ls with hc
  have hgoal : ∀ p, next c.state = p →
      ProfileAgrees (App.call sdk e c.state i).1.cmdVelPublisher.motionProfile
        (App.call sdk e c.state i).1.motionSwitcherBridge.modeName p (c.prog .reset) →
      ModeAgrees { state := (App.call sdk e c.state i).1,
                   trace := c.trace ++ (App.call sdk e c.state i).2,
                   prog := Function.update c.prog .switcher (next c.state) } := by
    rintro p rfl hp
    exact hp
  rcases hrest with hrest | ⟨request, hrest⟩ | ⟨op, response, hrest⟩
  · cases hrest
  · -- The request is answered, outside resets, and a granted mode is stored.
    rw [program_switcherRequest] at hrest
    obtain ⟨rfl, rfl⟩ := Prog.call.inj hrest
    have hreset := hl.answered e _ request _ rfl hprog
    have hagrees := h.agrees (by rw [hprog]; exact not_inModeChange_of_ne (by simp)) hreset
    refine hgoal ((callIfSome (switcherOp sdk c.state.motionSwitcherBridge request)).seq
      (.one (.writeSwitcherResponse (switcherResponse sdk c.state.motionSwitcherBridge request))))
      rfl ?_
    rcases switcherOp_cases sdk hname c.state.motionSwitcherBridge request with
      ⟨hop, hmode⟩ | ⟨name, hop, hmode⟩
    · rw [hop]
      have hsame : (App.call sdk e c.state (.buildInterceptResponseData request.apiId32 request)
          ).1.motionSwitcherBridge.modeName = c.state.motionSwitcherBridge.modeName := hmode
      refine ⟨fun _ _ => ?_, fun name next' hnext => ?_, fun hin => absurd hin hreset,
        fun _ => hreset⟩
      · rw [hsame]
        exact hagrees
      · exact absurd ⟨name, next', hnext⟩ (not_inModeChange_of_ne (by simp))
    · rw [hop]
      refine ⟨fun hin => absurd ⟨name, _, rfl⟩ hin, fun name' next' hnext => ?_,
        fun hin => absurd hin hreset, fun _ => hreset⟩
      obtain ⟨hcall, -⟩ := Prog.call.inj hnext
      obtain rfl : name = name' := by simpa using hcall
      exact hmode
  · cases op with
    | none =>
      obtain ⟨rfl, rfl⟩ := Prog.call.inj hrest
      refine hgoal .done rfl
        ⟨fun _ hreset => ?_, fun name next' hnext => ?_, h.resetting, fun hin => ?_⟩
      · exact h.agrees (by rw [hprog]; exact not_inModeChange_of_ne (by simp)) hreset
      · cases hnext
      · exact absurd hin not_inModeChange_done
    | some op =>
      -- The profile of the stored mode is set.
      obtain ⟨rfl, rfl⟩ := Prog.call.inj hrest
      have hop := hthread.1 op rfl
      cases op with
      | setMotionModeName name =>
        have hreset := h.apart ⟨name, _, hprog⟩
        refine hgoal _ rfl ⟨fun _ _ => ?_, fun name' next' hnext => ?_,
          fun hin => absurd hin hreset, fun _ => hreset⟩
        · rw [call_motionProfile]
          exact h.change name _ hprog
        · exact absurd ⟨name', next', hnext⟩ (not_inModeChange_of_ne (by simp))
      | _ => exact absurd hop (by simp [callThread])

/-- A call of the reset thread outside mode changes keeps profile and mode name in agreement.

**Proof sketch.** The first call of the reset stores the profile `ai`, the second the name that goes
with it. In between the agreement is not promised, and no mode change is halfway through. -/
theorem modeAgrees_reset {ls : List (Label Thread AppInput Time)} {e : Time} {i : Call}
    {next : App K → AppProg K} (hprog : (interleaved sdk ls).prog .reset = .call i next)
    (h : ModeAgrees (interleaved sdk ls))
    (hl : ModeChangeApart (interleaved sdk ls) (.advance .reset e)) :
    ModeAgrees (interleaved sdk (ls ++ [.advance .reset e])) := by
  have hgates := gates_interleaved sdk ls .reset
  rw [hprog] at hgates
  rw [interleaved_concat, System.step_advance_of_call hprog]
  set c := interleaved sdk ls with hc
  rcases reset_next (hgates.resolve_left (by simp)) with ⟨rfl, hn⟩ | ⟨rfl, hn⟩
  · -- The reset of the publisher, outside mode changes; the mode name is reset next.
    have hapart := hl.reset e next rfl hprog
    rw [hn]
    refine ⟨fun _ hreset => absurd ⟨_, rfl⟩ hreset, fun name next' hnext => ?_, fun _ => ?_,
      fun hin => absurd hin hapart⟩
    · exact absurd ⟨name, next', hnext⟩ hapart
    · exact call_motionProfile sdk e c.state (.cmdVel .resetToDefaults)
  · have hin : InReset (c.prog .reset) := ⟨next, hprog⟩
    have hapart : ¬ InModeChange (c.prog .switcher) := fun hchange => h.apart hchange hin
    rw [hn]
    refine ⟨fun _ _ => h.resetting hin, fun name next' hnext => ?_, fun hdone => ?_,
      fun hchange => absurd hchange hapart⟩
    · exact absurd ⟨name, next', hnext⟩ hapart
    · exact absurd (by simpa using hdone) not_inReset_done

/-- Profile and mode name stay in agreement in every run in which mode changes and resets are
apart.

**Proof sketch.** Induction on the run from its end. A thread that starts is halfway through
nothing. A call belongs to one of the four threads: the sport thread and the main loop change
neither profile nor name, and the two others have a lemma each. -/
theorem modeAgrees_interleaved
    (hname : ∀ p m, sdk.fromJsonModeName p = some m → m.name ≠ "" →
      parseStringParameter sdk p "name" = some m.name)
    {ls : List (Label Thread AppInput Time)}
    (hexcl : Along (appSystem sdk).step ModeChangeApart (Pool.idle App.init) ls) :
    ModeAgrees (interleaved sdk ls) := by
  induction ls using List.reverseRecOn with
  | nil =>
    exact ⟨fun _ _ => rfl, fun _ _ h => (by cases h), fun h => absurd h not_inReset_done,
      fun h => absurd h not_inModeChange_done⟩
  | append_singleton ls l ih =>
    rw [along_concat] at hexcl
    have hagrees := ih hexcl.1
    rcases System.step_cases (S := appSystem sdk) (c := interleaved sdk ls) l with
      hsame | ⟨job, rfl, hidle, hstart⟩ | ⟨t, e, i, next, rfl, hprog, -⟩
    · rwa [interleaved_concat, hsame]
    · rw [interleaved_concat, hstart]
      cases job with
      | sportRequest request => exact hagrees
      | loop => exact hagrees
      | switcherRequest request =>
        have hdone : (interleaved sdk ls).prog .switcher = .done := hidle
        have hbefore := hagrees
        rw [ModeAgrees, hdone] at hbefore
        have hfirst : ¬ InModeChange (program sdk (.switcherRequest request)) := by
          rw [program_switcherRequest]
          exact not_inModeChange_of_ne (by simp)
        exact ⟨fun _ => hbefore.agrees not_inModeChange_done,
          fun name next h => absurd ⟨name, next, h⟩ hfirst, hbefore.resetting,
          fun h => absurd h hfirst⟩
      | reset =>
        have hdone : (interleaved sdk ls).prog .reset = .done := hidle
        have hbefore := hagrees
        rw [ModeAgrees, hdone] at hbefore
        have hfirst : ¬ InReset (program sdk .reset) := not_inReset_of_ne (by simp)
        exact ⟨fun h _ => hbefore.agrees h not_inReset_done, hbefore.change,
          fun h => absurd h hfirst, fun _ => hfirst⟩
    · cases t with
      | sport => exact modeAgrees_keep (Or.inl rfl) hprog hagrees
      | loop => exact modeAgrees_keep (Or.inr rfl) hprog hagrees
      | switcher => exact modeAgrees_switcher hname hprog hagrees hexcl.2
      | reset => exact modeAgrees_reset hprog hagrees hexcl.2

end Cap

/-- **The cap belongs to the stored mode.** If the two parsers of a SELECT_MODE parameter find the
same name in it, then in every interleaving of the calls, each of them one atomic step, in which
mode changes and resets are apart, and at every moment at which neither is halfway through, the cap
in use is the one for the stored mode name and the current level, and the last message is within
it.

**Proof sketch.** By `Consistent` the cap is the one of the profile and level, and the last message
is within it. `modeAgrees_interleaved` says that outside mode changes and resets the profile is the
one of the stored name. -/
theorem cap_agrees_interleaved (sdk : UnitreeSdk ℝ)
    (hname : ∀ p m, sdk.fromJsonModeName p = some m → m.name ≠ "" →
      parseStringParameter sdk p "name" = some m.name)
    (ls : List (Label Thread AppInput Time))
    (hexcl : Along (appSystem sdk).step ModeChangeApart (Pool.idle App.init) ls) :
    let c := interleaved sdk ls
    let cap := capFor c.state.motionSwitcherBridge.modeName c.state.cmdVelPublisher.speedLevel
    let last := lastTwist (twists c.trace)
    ¬ InModeChange (c.prog .switcher) → ¬ InReset (c.prog .reset) →
      c.state.cmdVelPublisher.maxLinearSpeed = cap ∧ hypot last.linear.x last.linear.y ≤ cap := by
  intro c cap last hchange hreset
  have hcon := consistent_interleaved sdk ls
  have hcap : c.state.cmdVelPublisher.maxLinearSpeed = cap := by
    calc c.state.cmdVelPublisher.maxLinearSpeed
        = CmdVelPublisher.capOf c.state.cmdVelPublisher.motionProfile
            c.state.cmdVelPublisher.speedLevel := hcon.cap_eq
      _ = cap := by
          rw [(modeAgrees_interleaved hname hexcl).agrees hchange hreset, capOf_eq_capFor]
  refine ⟨hcap, ?_⟩
  rw [← hcap]
  exact hcon.speed_lastTwist_le

/-- The cap after a mode change that is granted while the report of a MOVE is pending. -/
theorem cap_agrees_interleaved_select_mode :
    let ls : List (Label Thread AppInput Time) :=
      [.start .reset, .advance .reset 0, .advance .reset 0,
        .start (.sportRequest (sampleRequest 2045 "")), .advance .sport 0, .advance .sport 0,
        .start (.sportRequest (sampleRequest 1008 "\x7b\"x\":1\x7d")), .advance .sport 0,
        .start (.switcherRequest (sampleRequest 1002 "\x7b\"name\":\"normal\"\x7d")),
        .advance .switcher 0, .advance .switcher 0, .advance .switcher 0]
    let c := interleaved (sampleSdk ℝ) ls
    let cap := capFor c.state.motionSwitcherBridge.modeName c.state.cmdVelPublisher.speedLevel
    let last := lastTwist (twists c.trace)
    c.state.motionSwitcherBridge.modeName = "normal" ∧
      c.state.cmdVelPublisher.maxLinearSpeed = cap ∧ hypot last.linear.x last.linear.y ≤ cap := by
  intro ls c cap last
  refine ⟨rfl, cap_agrees_interleaved (sampleSdk ℝ) (fun p m hm _ => sampleSdk_name p m hm) ls ?_
    not_inModeChange_done not_inReset_done⟩
  -- The reset meets an idle motion switcher thread, and everything else an idle reset thread.
  have hreset : ∀ (c : AppPool ℝ) l, c.prog .switcher = .done →
      (∀ e, l ≠ .advance .switcher e) → ModeChangeApart c l := fun c l hidle hl =>
    ⟨fun e _ _ _ h _ => absurd h (hl e), fun _ _ _ _ => hidle ▸ not_inModeChange_done⟩
  have hchange : ∀ (c : AppPool ℝ) l, c.prog .reset = .done →
      (∀ e, l ≠ .advance .reset e) → ModeChangeApart c l := fun c l hidle hl =>
    ⟨fun _ _ _ _ _ _ => hidle ▸ not_inReset_done, fun e _ h _ => absurd h (hl e)⟩
  exact ⟨hreset _ _ rfl (by simp), hreset _ _ rfl (by simp), hreset _ _ rfl (by simp),
    hchange _ _ rfl (by simp), hchange _ _ rfl (by simp), hchange _ _ rfl (by simp),
    hchange _ _ rfl (by simp), hchange _ _ rfl (by simp), hchange _ _ rfl (by simp),
    hchange _ _ rfl (by simp), hchange _ _ rfl (by simp), hchange _ _ rfl (by simp), trivial⟩

end App

end SdkEventBridge
