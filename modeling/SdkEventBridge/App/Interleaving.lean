import SdkEventBridge.App.Posture

set_option relaxedAutoImplicit false
set_option autoImplicit false

/-!
# Stand-downs and the main loop

The main loop decides on a posture in one call and writes it in another, so it can overwrite the
StandDown that a STANDDOWN or DAMP handler wrote in between, and no later iteration brings it
back. This file says exactly when: the StandDown stays unless the loop's next call, at the moment
of the handler's write, is a write itself.

## Main definitions

* `Settings.call`, `RobotPosture.call` — a call on the settings and on the posture.
* `Pending` — what each thread can have left to do.
* `interleaved` — the application after a scheduler's choices.
* `SettledDown` — the posture is StandDown, and no thread is about to change it.
* `StandDownKept` — the posture stays StandDown and mode changes stay possible.

## Main results

* `pending_interleaved` — `Pending` holds at every moment of every run.
* `inactive_of_sets` — before a StandDown is written the move has been ended.
* `settledDown_step` — no step ends `SettledDown` but the start of a sport request or a reset.
* `stand_down_kept_iff` — when a stand-down is kept.
-/

namespace SdkEventBridge

open PlanarNorm Resumption Run

/-! ## Calls on settings and posture -/

/-- A call on the settings of the velocity publisher. -/
def Settings.call (t : Settings) : Call → Settings
  | .cmdVel op => t.apply op
  | .isJointsLocked | .isActivelyMoving | .setRobotPosture _ | .getRobotPosture
  | .resetMotionSwitcher | .buildInterceptResponseData _ _ | .publishCommand _ | .sleepFor
  | .sendSportResponse _ | .writeSwitcherResponse _ => t

/-- A call on the posture. -/
def RobotPosture.call (old : RobotPosture) : Call → RobotPosture
  | .setRobotPosture posture => posture
  | .resetMotionSwitcher => .standDown
  | .cmdVel _ | .isJointsLocked | .isActivelyMoving | .getRobotPosture
  | .buildInterceptResponseData _ _ | .publishCommand _ | .sleepFor
  | .sendSportResponse _ | .writeSwitcherResponse _ => old

/-- The call neither begins a move nor sets a posture other than StandDown. -/
def KeepsDown (i : Call) : Prop :=
  (∀ p, i ≠ .cmdVel (.handleMove p)) ∧ ∀ posture, i = .setRobotPosture posture →
    posture = .standDown

/-- The calls that can follow the write of a StandDown in its handler. -/
def AfterDown (i : Call) : Prop :=
  (∃ command, i = .publishCommand command) ∨ i = .sleepFor ∨
    ∃ response, i = .sendSportResponse response

/-- No posture is set after the write of a StandDown. -/
theorem AfterDown.ne_setRobotPosture {i : Call} (h : AfterDown i) (posture : RobotPosture) :
    i ≠ .setRobotPosture posture := by
  rcases h with ⟨command, rfl⟩ | rfl | ⟨response, rfl⟩ <;> simp

/-- What follows the write of a StandDown does not end it. -/
theorem AfterDown.keepsDown {i : Call} (h : AfterDown i) : KeepsDown i := by
  rcases h with ⟨command, rfl⟩ | rfl | ⟨response, rfl⟩ <;> simp [KeepsDown]

/-- What follows the write of a StandDown changes neither settings nor posture. -/
theorem AfterDown.call_eq {i : Call} (h : AfterDown i) (t : Settings) (posture : RobotPosture) :
    t.call i = t ∧ posture.call i = posture := by
  rcases h with ⟨command, rfl⟩ | rfl | ⟨response, rfl⟩ <;> exact ⟨rfl, rfl⟩

/-- The posture StandDown outlasts every call that does not end it. -/
theorem RobotPosture.call_of_keepsDown {i : Call} (h : KeepsDown i) :
    RobotPosture.standDown.call i = .standDown := by
  cases i with
  | setRobotPosture posture => exact h.2 posture rfl
  | _ => rfl

namespace App

section Calls

variable {K : Type} [Field K] [LinearOrder K] [HasHypot K] (sdk : UnitreeSdk K) (now : Time)
  (app : App K) (i : Call)

/-- What a call does to the settings of the velocity publisher. -/
theorem call_settings :
    (App.call sdk now app i).1.cmdVelPublisher.settings =
      app.cmdVelPublisher.settings.call i := by
  cases i with
  | cmdVel op => exact CmdVelPublisher.settings_apply _ sdk now op
  | _ => rfl

/-- What a call does to the posture. -/
theorem call_robotPosture :
    (App.call sdk now app i).1.motionSwitcherBridge.robotPosture =
      app.motionSwitcherBridge.robotPosture.call i := by
  cases i with
  | setRobotPosture posture => simp [App.call, RobotPosture.call]
  | buildInterceptResponseData apiId request => exact buildInterceptResponseData_robotPosture sdk
  | _ => rfl

variable {app i}

/-- Only a MOVE handled with unlocked joints begins a move. -/
theorem call_inactive (h : app.cmdVelPublisher.hasActiveMove = false)
    (hi : ∀ p, i = .cmdVel (.handleMove p) → app.cmdVelPublisher.jointsLocked = true) :
    (App.call sdk now app i).1.cmdVelPublisher.hasActiveMove = false := by
  cases i with
  | cmdVel op =>
    exact CmdVelPublisher.apply_inactive _ sdk now h fun p hp => hi p (congrArg _ hp)
  | _ => exact h

end Calls

/-! ## What each thread can have left to do -/

section Threads

variable {K : Type}

/-- The program's next call writes the posture. -/
def Sets (p : AppProg K) (posture : RobotPosture) : Prop :=
  ∃ next, p = .call (.setRobotPosture posture) next

/-- Before a StandDown is written the joints are locked, and after it no call matters to it. -/
def LocksBeforeDown : AppProg K → Prop
  | .done => True
  | .call i next => ∀ app,
    (Sets (next app) .standDown → i = .cmdVel .lockJoints) ∧
    (i = .setRobotPosture .standDown → (next app).Calls AfterDown) ∧
    LocksBeforeDown (next app)

/-- What a thread can have left to do. -/
def Pending : Thread → AppProg K → Prop
  | .sport, p => LocksBeforeDown p
  | .switcher, p | .reset, p => p.Calls KeepsDown
  | .loop, p => p = .done ∨ p = loopIteration ∨ p = loopReadMotion ∨ p = loopReadPosture ∨
    ∃ posture, (posture = .walking ∨ posture = .standUp) ∧ p = loopSetPosture posture

/-- A program that never writes a StandDown. -/
theorem locksBeforeDown_of_calls {p : AppProg K}
    (h : p.Calls fun i => i ≠ .setRobotPosture .standDown) :
    LocksBeforeDown p ∧ ¬ Sets p .standDown := by
  induction p with
  | done => exact ⟨trivial, by rintro ⟨next, h⟩; cases h⟩
  | call i next ih =>
    refine ⟨fun app => ⟨fun hsets => absurd hsets (ih app (h.2 app)).2, fun hi => absurd hi h.1,
      (ih app (h.2 app)).1⟩, ?_⟩
    rintro ⟨next', heq⟩
    exact h.1 (Prog.call.inj heq).1

/-- What follows a call of the main loop. -/
theorem pending_loop_next {i : Call} {next : App K → AppProg K}
    (h : Pending .loop (.call i next)) :
    (i = .cmdVel .tick ∧ ∀ app, next app = loopReadMotion) ∨
    (i = .isActivelyMoving ∧ ∀ app, next app =
      if app.cmdVelPublisher.isActivelyMoving then loopSetPosture .walking
      else loopReadPosture) ∨
    (i = .getRobotPosture ∧ ∀ app, next app =
      if app.motionSwitcherBridge.getRobotPosture = .walking then loopSetPosture .standUp
      else .done) ∨
    ∃ posture, (posture = .walking ∨ posture = .standUp) ∧ i = .setRobotPosture posture ∧
      ∀ app, next app = .done := by
  rcases h with h | h | h | h | ⟨posture, hposture, h⟩
  · cases h
  · cases h; exact Or.inl ⟨rfl, fun _ => rfl⟩
  · cases h; exact Or.inr (Or.inl ⟨rfl, fun _ => rfl⟩)
  · cases h; exact Or.inr (Or.inr (Or.inl ⟨rfl, fun _ => rfl⟩))
  · cases h; exact Or.inr (Or.inr (Or.inr ⟨posture, hposture, rfl, fun _ => rfl⟩))

/-- What is left after a call is left to the same thread. -/
theorem pending_next {t : Thread} {i : Call} {next : App K → AppProg K} {app : App K}
    (h : Pending t (.call i next)) : Pending t (next app) := by
  cases t with
  | sport => exact (h app).2.2
  | switcher => exact h.2 app
  | reset => exact h.2 app
  | loop =>
    rcases pending_loop_next h with ⟨-, hn⟩ | ⟨-, hn⟩ | ⟨-, hn⟩ | ⟨posture, -, -, hn⟩
    · rw [hn]; exact Or.inr (Or.inr (Or.inl rfl))
    · rw [hn]
      split_ifs
      · exact Or.inr (Or.inr (Or.inr (Or.inr ⟨_, Or.inl rfl, rfl⟩)))
      · exact Or.inr (Or.inr (Or.inr (Or.inl rfl)))
    · rw [hn]
      split_ifs
      · exact Or.inr (Or.inr (Or.inr (Or.inr ⟨_, Or.inr rfl, rfl⟩)))
      · exact Or.inl rfl
    · rw [hn]; exact Or.inl rfl

/-- Only the sport thread begins moves. -/
theorem ne_handleMove_of_pending {t : Thread} {i : Call} {next : App K → AppProg K}
    (h : Pending t (.call i next)) (ht : t ≠ .sport) (p : String) :
    i ≠ .cmdVel (.handleMove p) := by
  cases t with
  | sport => exact absurd rfl ht
  | switcher => exact h.1.1 p
  | reset => exact h.1.1 p
  | loop =>
    rcases pending_loop_next h with ⟨rfl, -⟩ | ⟨rfl, -⟩ | ⟨rfl, -⟩ | ⟨posture, -, rfl, -⟩ <;> simp

variable [Field K] [LinearOrder K] (sdk : UnitreeSdk K)

/-- The sport handlers lock the joints before they write a StandDown.

**Proof sketch.** Case analysis on the command. A StandDown locks the joints in its first call and
writes the posture in its second, and nothing it calls later writes it again. No other command
writes StandDown at all. -/
theorem locksBeforeDown_sportRequest (request : Request) :
    LocksBeforeDown (program sdk (.sportRequest request)) ∧
      ¬ Sets (program sdk (.sportRequest request)) .standDown := by
  have hrespond : (respond sdk request).Calls AfterDown :=
    calls_respond sdk request (by simp [AfterDown]) (by simp [AfterDown])
  have hne : (respond sdk request).Calls fun i => i ≠ .setRobotPosture .standDown :=
    hrespond.mono fun i hi => hi.ne_setRobotPosture _
  rw [program_sportRequest]
  cases hcmd : sportCommand sdk request with
  | lockAnd posture fsm =>
    cases posture with
    | standDown =>
      have htail : ((Prog.one (.publishCommand fsm.toInt32)).seq
          (respond sdk request)).Calls AfterDown :=
        Prog.Calls.seq (by simp [AfterDown]) hrespond
      have hafter := locksBeforeDown_of_calls (htail.mono fun i hi => hi.ne_setRobotPosture _)
      have hdown : LocksBeforeDown (.call (.setRobotPosture .standDown) fun _ =>
          (Prog.one (.publishCommand fsm.toInt32)).seq (respond sdk request)) :=
        fun _ => ⟨fun hsets => absurd hsets hafter.2, fun _ => htail, hafter.1⟩
      refine ⟨fun _ => ⟨fun _ => rfl, ?_, hdown⟩, ?_⟩
      · rintro ⟨⟩
      · rintro ⟨next, ⟨⟩⟩
    | standUp => exact locksBeforeDown_of_calls (Prog.Calls.seq (by simp) hne)
    | walking => exact absurd (decodedFrom_of_eq hcmd) id
  | balanceStand => exact locksBeforeDown_of_calls (Prog.Calls.seq (by simp) hne)
  | stopMove => exact locksBeforeDown_of_calls (Prog.Calls.seq (by simp) hne)
  | move p =>
    exact locksBeforeDown_of_calls (Prog.Calls.seq
      ⟨by simp, fun _ => calls_updatePostureFromMove sdk p (by simp) (by simp)⟩ hne)
  | setting op => exact locksBeforeDown_of_calls (Prog.Calls.seq (by simp) hne)
  | ignored => exact locksBeforeDown_of_calls (Prog.Calls.seq (by simp) hne)

/-- No motion switcher request begins a move or sets another posture. -/
theorem calls_switcherRequest (request : Request) :
    (program sdk (.switcherRequest request)).Calls KeepsDown :=
  calls_program_switcherRequest sdk request (by simp [KeepsDown]) (by simp [KeepsDown])
    (by simp [KeepsDown])

/-- Every input begins with a program of its thread. -/
theorem pending_program [HasHypot K] (input : AppInput) :
    Pending ((appSystem sdk).thread input) (program sdk input) := by
  cases input with
  | sportRequest request => exact (locksBeforeDown_sportRequest sdk request).1
  | switcherRequest request => exact calls_switcherRequest sdk request
  | reset =>
    have hcalls : (resetCallback : AppProg K).Calls KeepsDown := by
      simp [resetCallback, KeepsDown]
    exact hcalls
  | loop => exact Or.inr (Or.inl rfl)

end Threads

/-! ## Runs -/

/-- A moment of an interleaved run. -/
abbrev AppPool (K : Type) := Pool Thread (App K) Call (Output K)

section Runs

variable {K : Type} [Field K] [LinearOrder K] [HasHypot K] (sdk : UnitreeSdk K)

/-- The application after the scheduler's choices `ls`, from the start of `main`. -/
def interleaved (ls : List (Label Thread AppInput Time)) : AppPool K :=
  run (appSystem sdk).step (Pool.idle App.init) ls

/-- The last choice of the scheduler is the last step. -/
theorem interleaved_concat (ls : List (Label Thread AppInput Time))
    (l : Label Thread AppInput Time) :
    interleaved sdk (ls ++ [l]) = (appSystem sdk).step (interleaved sdk ls) l :=
  run_concat _ _ _ _

/-- At every moment each thread has one of these programs left to do. -/
theorem pending_interleaved (ls : List (Label Thread AppInput Time)) (t : Thread) :
    Pending t ((interleaved sdk ls).prog t) :=
  System.run_threads (S := appSystem sdk) (pending_program sdk) (fun _ _ _ _ => pending_next)
    (fun t => by cases t <;> simp [Pool.idle, Pending, LocksBeforeDown]) ls t

variable {sdk}

/-- The sport thread writes a StandDown only when no move is active. -/
structure LockedBeforeDown (c : AppPool K) : Prop where
  pending : ∀ t, Pending t (c.prog t)
  inactive : Sets (c.prog .sport) .standDown → c.state.cmdVelPublisher.hasActiveMove = false

/-- Every step keeps it, since a handler locks the joints in the call before the write.

**Proof sketch.** A thread that starts does not begin with the write. If the sport thread now stands
before the write, its last call locked the joints, which ended the move. A call of another thread
makes no MOVE, so no move becomes active by it. -/
theorem lockedBeforeDown_step {c : AppPool K} (hc : LockedBeforeDown c)
    (l : Label Thread AppInput Time) : LockedBeforeDown ((appSystem sdk).step c l) := by
  refine ⟨System.step_threads (S := appSystem sdk) (pending_program sdk)
    (fun _ _ _ _ => pending_next) hc.pending l, ?_⟩
  intro hsets
  rcases System.step_cases (S := appSystem sdk) (c := c) l with
    h | ⟨job, -, -, h⟩ | ⟨t, e, i, next, rfl, hprog, h⟩
  · rw [h] at hsets ⊢
    exact hc.inactive hsets
  · -- No handler begins with the write.
    rw [h] at hsets ⊢
    cases job with
    | sportRequest request =>
      exact absurd (by simpa [appSystem] using hsets) (locksBeforeDown_sportRequest sdk request).2
    | _ => exact hc.inactive (by simpa [appSystem] using hsets)
  · rw [h] at hsets ⊢
    have hpend := hc.pending t
    rw [hprog] at hpend
    by_cases ht : t = .sport
    · -- What comes before the write is the lock, which ends the move.
      subst ht
      have hlock := (hpend c.state).1 (by simpa using hsets)
      subst hlock
      simp [appSystem, App.call, CmdVelPublisher.apply, CmdVelPublisher.lockJoints]
    · have hinactive := hc.inactive (by simpa [Function.update_of_ne (Ne.symm ht)] using hsets)
      exact call_inactive sdk e hinactive fun p hp =>
        absurd hp (ne_handleMove_of_pending hpend ht p)

/-- Before a StandDown is written the move has been ended. -/
theorem inactive_of_sets (ls : List (Label Thread AppInput Time))
    (h : Sets ((interleaved sdk ls).prog .sport) .standDown) :
    (interleaved sdk ls).state.cmdVelPublisher.hasActiveMove = false := by
  have hinit : LockedBeforeDown (Pool.idle App.init : AppPool K) :=
    ⟨pending_interleaved sdk [], fun _ => by simp [Pool.idle, App.init, CmdVelPublisher.init]⟩
  have hrun : LockedBeforeDown (interleaved sdk ls) :=
    run_induction (appSystem sdk).step (Q := LockedBeforeDown)
      (fun _ l hc => lockedBeforeDown_step hc l) hinit ls
  exact hrun.inactive h

/-- Neither a sport request nor a reset begins. -/
def NoNewCommand (l : Label Thread AppInput Time) : Prop :=
  (∀ request, l ≠ .start (.sportRequest request)) ∧ l ≠ .start .reset

/-- The sport handler is done: what may be left is the delay and the response. -/
def HandlerFinished (c : AppPool K) : Prop :=
  (c.prog .sport).Calls fun i => i = .sleepFor ∨ ∃ response, i = .sendSportResponse response

/-- The posture is StandDown for good: no move is active, the sport handler will not touch the
posture again, and the main loop has no write pending. -/
structure SettledDown (c : AppPool K) : Prop where
  pending : ∀ t, Pending t (c.prog t)
  posture : c.state.motionSwitcherBridge.robotPosture = .standDown
  inactive : c.state.cmdVelPublisher.hasActiveMove = false
  sport : (c.prog .sport).Calls AfterDown
  loop : ∀ posture, ¬ Sets (c.prog .loop) posture

omit [Field K] [LinearOrder K] [HasHypot K] in
/-- No call that is next can end the StandDown. -/
theorem SettledDown.keepsDown {c : AppPool K} (hc : SettledDown c) {t : Thread} {i : Call}
    {next : App K → AppProg K} (hprog : c.prog t = .call i next) : KeepsDown i := by
  have hpend := hc.pending t
  rw [hprog] at hpend
  cases t with
  | sport =>
    have hsport := hc.sport
    rw [hprog] at hsport
    exact hsport.1.keepsDown
  | switcher => exact hpend.1
  | reset => exact hpend.1
  | loop =>
    rcases pending_loop_next hpend with ⟨rfl, -⟩ | ⟨rfl, -⟩ | ⟨rfl, -⟩ | ⟨posture, -, rfl, -⟩
    · simp [KeepsDown]
    · simp [KeepsDown]
    · simp [KeepsDown]
    · exact absurd ⟨next, hprog⟩ (hc.loop posture)

omit [Field K] [LinearOrder K] [HasHypot K] in
/-- The main loop finds nothing to write: no move is active, and the posture is not Walking. -/
theorem SettledDown.loop_next {c : AppPool K} (hc : SettledDown c) {i : Call}
    {next : App K → AppProg K} (hprog : c.prog .loop = .call i next) (posture : RobotPosture) :
    ¬ Sets (next c.state) posture := by
  have hpend := hc.pending .loop
  rw [hprog] at hpend
  have hmotion : c.state.cmdVelPublisher.isActivelyMoving = false := by
    simp [CmdVelPublisher.isActivelyMoving, hc.inactive]
  have hposture : c.state.motionSwitcherBridge.getRobotPosture ≠ .walking := by
    simp [MotionSwitcherBridge.getRobotPosture, hc.posture]
  rcases pending_loop_next hpend with ⟨-, hn⟩ | ⟨-, hn⟩ | ⟨-, hn⟩ | ⟨p, -, rfl, -⟩
  · rw [hn]
    rintro ⟨next', ⟨⟩⟩
  · rw [hn, hmotion]
    rintro ⟨next', ⟨⟩⟩
  · rw [hn, if_neg hposture]
    rintro ⟨next', ⟨⟩⟩
  · exact absurd ⟨next, hprog⟩ (hc.loop p)

/-- No step ends a StandDown that is there for good, as long as no command begins.

**Proof sketch.** What begins is a motion switcher request or an iteration of the loop, since no
command begins. No call that is next can write a posture or make a move active, by
`SettledDown.keepsDown`. The main loop does not come to a write: it finds no active move, and a
posture that is not Walking. -/
theorem settledDown_step {c : AppPool K} (hc : SettledDown c) {l : Label Thread AppInput Time}
    (hl : NoNewCommand l) : SettledDown ((appSystem sdk).step c l) := by
  have hpending := System.step_threads (S := appSystem sdk) (pending_program sdk)
    (fun _ _ _ _ => pending_next) hc.pending l
  rcases System.step_cases (S := appSystem sdk) (c := c) l with
    h | ⟨job, rfl, -, h⟩ | ⟨t, e, i, next, rfl, hprog, h⟩
  · rwa [h]
  · -- What begins is a motion switcher request or an iteration of the loop.
    rw [h] at hpending ⊢
    refine ⟨hpending, hc.posture, hc.inactive, ?_, ?_⟩
    · cases job with
      | sportRequest request => exact absurd rfl (hl.1 request)
      | _ => simpa [appSystem] using hc.sport
    · cases job with
      | loop =>
        rintro posture ⟨next, hnext⟩
        simp [appSystem, program, loopIteration] at hnext
      | _ => simpa [appSystem] using hc.loop
  · rw [h] at hpending ⊢
    have hkeeps := hc.keepsDown hprog
    refine ⟨hpending, ?_, ?_, ?_, ?_⟩
    · show (App.call sdk e c.state i).1.motionSwitcherBridge.robotPosture = .standDown
      rw [call_robotPosture, hc.posture, RobotPosture.call_of_keepsDown hkeeps]
    · exact call_inactive sdk e hc.inactive fun p hp => absurd hp (hkeeps.1 p)
    · by_cases ht : t = .sport
      · subst ht
        have hsport := hc.sport
        rw [hprog] at hsport
        simpa using hsport.2 c.state
      · simpa [Function.update_of_ne (Ne.symm ht)] using hc.sport
    · by_cases ht : t = .loop
      · subst ht
        simpa using hc.loop_next hprog
      · simpa [Function.update_of_ne (Ne.symm ht)] using hc.loop

omit [Field K] [LinearOrder K] [HasHypot K] in
/-- A mode change is answered as busy exactly in the postures other than StandDown. -/
theorem statusCode_eq_errBusy {s : MotionSwitcherBridge} {request : Request}
    (hreq : IsModeChange sdk request) :
    (switcherResponse sdk s request).statusCode = sdk.errBusy ↔
      s.robotPosture ≠ .standDown := by
  show (s.buildInterceptResponseData sdk request.apiId32 request).2.1 = sdk.errBusy ↔ _
  rcases hreq with hid | hid
  · rw [hid, buildInterceptResponseData_switcherApiId]
    rcases selectMode_cases sdk s request with ⟨hup, h⟩ | ⟨hdown, -, h⟩ | ⟨hdown, m, -, -, h⟩
    · simp [h, hup]
    · simp [h, hdown, sdk.errBusy_ne_errApiParameter.symm]
    · simp [h, hdown, sportStatusSuccess, sdk.errBusy_ne_zero.symm]
  · rw [hid, buildInterceptResponseData_switcherApiId]
    rcases releaseMode_cases sdk s with ⟨hup, h⟩ | ⟨hdown, h⟩
    · simp [h, hup]
    · simp [h, hdown, sportStatusSuccess, sdk.errBusy_ne_zero.symm]

variable (sdk)

/-- From `c` on, as long as no sport request or reset begins: once the sport handler has
finished, the posture is StandDown and no mode change is answered as busy. -/
def StandDownKept (c : AppPool K) : Prop :=
  ∀ ms : List (Label Thread AppInput Time), (∀ l ∈ ms, NoNewCommand l) →
    let c' := run (appSystem sdk).step c ms
    HandlerFinished c' →
      c'.state.motionSwitcherBridge.robotPosture = .standDown ∧
      ∀ request, IsModeChange sdk request →
        (switcherResponse sdk c'.state.motionSwitcherBridge request).statusCode ≠ sdk.errBusy

variable {sdk}

/-- A StandDown that is there for good is kept. -/
theorem standDownKept_of_settledDown {c : AppPool K} (hc : SettledDown c) :
    StandDownKept sdk c := by
  intro ms hms c' _
  have hrun : SettledDown c' :=
    run_induction_along (appSystem sdk).step (Q := SettledDown)
      (fun _ _ hc hl => settledDown_step hc hl) hc (along_of_forall_mem _ hms c)
  exact ⟨hrun.posture, fun request hreq hbusy =>
    (statusCode_eq_errBusy hreq).mp hbusy hrun.posture⟩

/-- The write of a StandDown settles it if the main loop has no write pending. -/
theorem settledDown_of_sets (ls : List (Label Thread AppInput Time)) (e : Time)
    (hdown : Sets ((interleaved sdk ls).prog .sport) .standDown)
    (hloop : ∀ posture, ¬ Sets ((interleaved sdk ls).prog .loop) posture) :
    SettledDown (interleaved sdk (ls ++ [.advance .sport e])) := by
  have hinactive := inactive_of_sets ls hdown
  obtain ⟨next, hprog⟩ := hdown
  have hpend := pending_interleaved sdk ls .sport
  rw [hprog] at hpend
  have hpending := pending_interleaved sdk (ls ++ [.advance .sport e])
  rw [interleaved_concat, System.step_advance_of_call hprog] at hpending ⊢
  refine ⟨hpending, ?_, ?_, ?_, ?_⟩
  · exact call_robotPosture sdk e _ _
  · exact call_inactive sdk e hinactive fun p hp => by cases hp
  · simpa using (hpend _).2.1 rfl
  · simpa using hloop

/-- If the main loop has a write pending when a StandDown is written, the write comes through.

**Proof sketch.** The sport handler is run to its end on its own, and then the main loop makes the
write it has pending, which is Walking or StandUp. No command begins in this continuation, its
handler has finished, and the posture is not StandDown. -/
theorem not_standDownKept_of_sets (ls : List (Label Thread AppInput Time)) (e : Time)
    (hdown : Sets ((interleaved sdk ls).prog .sport) .standDown) {posture : RobotPosture}
    (hloop : Sets ((interleaved sdk ls).prog .loop) posture) :
    ¬ StandDownKept sdk (interleaved sdk (ls ++ [.advance .sport e])) := by
  intro hkept
  set c := interleaved sdk (ls ++ [.advance .sport e]) with hc
  obtain ⟨nextDown, hprog⟩ := hdown
  obtain ⟨next, hloop⟩ := hloop
  have hup : posture ≠ .standDown := by
    have hpend := pending_interleaved sdk ls .loop
    rw [hloop] at hpend
    rcases pending_loop_next hpend with ⟨⟨⟩, -⟩ | ⟨⟨⟩, -⟩ | ⟨⟨⟩, -⟩ | ⟨p, hp, ⟨⟩, -⟩
    rcases hp with rfl | rfl <;> simp
  have hstep : c = (appSystem sdk).step (interleaved sdk ls) (.advance .sport e) :=
    interleaved_concat sdk ls _
  rw [System.step_advance_of_call hprog] at hstep
  -- The sport handler runs to its end, and then the main loop writes.
  obtain ⟨n, hn⟩ := System.run_solo (S := appSystem sdk) .sport e (c.prog .sport) c rfl
  set c₁ := run (appSystem sdk).step c (List.replicate n (.advance .sport e)) with hc₁
  have hsport : c₁.prog .sport = .done := by simp [hn]
  have hwrites : c₁.prog .loop = .call (.setRobotPosture posture) next := by
    simp [hn, hstep, hloop]
  have hlast : run (appSystem sdk).step c
      (List.replicate n (.advance .sport e) ++ [.advance .loop e]) =
      (appSystem sdk).step c₁ (.advance .loop e) := run_concat _ _ _ _
  rw [System.step_advance_of_call hwrites] at hlast
  have hmoves : ∀ l ∈ List.replicate n (.advance .sport e) ++ [.advance .loop e],
      NoNewCommand l := by
    intro l hl
    rcases List.mem_append.mp hl with hl | hl
    · rw [List.eq_of_mem_replicate hl]
      simp [NoNewCommand]
    · rw [List.mem_singleton.mp hl]
      simp [NoNewCommand]
  have hdown := (hkept _ hmoves (by rw [hlast]; simp [HandlerFinished, hsport])).1
  rw [hlast] at hdown
  exact hup ((call_robotPosture sdk e c₁.state _).symm.trans hdown)

end Runs

/-- **Stand-downs and the main loop.** The StandDown that a STANDDOWN or DAMP handler writes is
kept, until the next sport request or reset, exactly if the main loop's next call at that moment
is not a write of the posture.

**Proof sketch.** If the main loop has a write pending, that write comes through in some
continuation, by `not_standDownKept_of_sets`. If it has none, the write of StandDown leaves a
settled state, since the lock has ended the move before it, and every step that begins no command
keeps that. -/
theorem stand_down_kept_iff (sdk : UnitreeSdk ℝ) (ls : List (Label Thread AppInput Time))
    (e : Time) (hdown : Sets ((interleaved sdk ls).prog .sport) .standDown) :
    StandDownKept sdk (interleaved sdk (ls ++ [.advance .sport e])) ↔
      ∀ posture, ¬ Sets ((interleaved sdk ls).prog .loop) posture := by
  constructor
  · intro hkept posture hloop
    exact not_standDownKept_of_sets ls e hdown hloop hkept
  · intro hloop
    exact standDownKept_of_settledDown (settledDown_of_sets ls e hdown hloop)

/-- A STANDDOWN while the main loop is idle. -/
theorem stand_down_kept_idle_loop :
    StandDownKept (sampleSdk ℝ) (interleaved (sampleSdk ℝ)
      ([.start (.sportRequest (sampleRequest 1005 "")), .advance .sport 0] ++
        [.advance .sport 0])) := by
  refine (stand_down_kept_iff (sampleSdk ℝ) _ 0 ⟨_, rfl⟩).mpr ?_
  rintro posture ⟨next, ⟨⟩⟩

/-- A MOVE with a nonzero velocity. -/
theorem hasMotion_sampleMove :
    (parseMoveParameter (sampleSdk ℝ) "\x7b\"x\":1\x7d").hasMotion = true := by
  rw [MoveVelocity.hasMotion_eq_true]
  show (⟨((1 : Int32).toInt : ℝ), 0, 0⟩ : MoveVelocity ℝ) ≠ 0
  simp [MoveVelocity.ext_iff]

/-- The calls of a BALANCESTAND. -/
theorem program_sampleBalanceStand :
    program (sampleSdk ℝ) (.sportRequest (sampleRequest 1002 "")) =
      (SportCommand.balanceStand.actions (sampleSdk ℝ)).seq
        (.one (.sendSportResponse (sportResponse (sampleSdk ℝ) (sampleRequest 1002 "")))) :=
  (program_sportRequest _ _).trans rfl

/-- The calls of the sample MOVE. -/
theorem program_sampleMove :
    program (sampleSdk ℝ) (.sportRequest (sampleRequest 1008 "\x7b\"x\":1\x7d")) =
      ((SportCommand.move "\x7b\"x\":1\x7d").actions (sampleSdk ℝ)).seq
        (.one (.sendSportResponse
          (sportResponse (sampleSdk ℝ) (sampleRequest 1008 "\x7b\"x\":1\x7d")))) :=
  (program_sportRequest _ _).trans rfl

/-- A STANDDOWN while the main loop has seen the robot move and is about to write Walking. The
loop's next iteration turns Walking into StandUp, and RELEASE_MODE is answered as busy.

**Proof sketch.** Both runs are evaluated step by step: the first ends with the write of StandDown
pending, the second with the handler finished and the posture StandUp, for which the answer to
RELEASE_MODE is busy. -/
theorem stand_down_lost :
    let ls : List (Label Thread AppInput Time) :=
      [.start (.sportRequest (sampleRequest 1002 ""))] ++ List.replicate 4 (.advance .sport 0) ++
      [.start (.sportRequest (sampleRequest 1008 "\x7b\"x\":1\x7d"))] ++
        List.replicate 4 (.advance .sport 0) ++
      [.start .loop, .advance .loop 0, .advance .loop 0,
        .start (.sportRequest (sampleRequest 1005 "")), .advance .sport 0]
    let ms : List (Label Thread AppInput Time) :=
      List.replicate 3 (.advance .sport 0) ++ [.advance .loop 0, .start .loop] ++
        List.replicate 4 (.advance .loop 0)
    let c := interleaved (sampleSdk ℝ) ls
    let c' := run (appSystem (sampleSdk ℝ)).step
      (interleaved (sampleSdk ℝ) (ls ++ [.advance .sport 0])) ms
    Sets (c.prog .sport) .standDown ∧ (∀ l ∈ ms, NoNewCommand l) ∧ HandlerFinished c' ∧
      c'.state.motionSwitcherBridge.robotPosture = .standUp ∧
      (switcherResponse (sampleSdk ℝ) c'.state.motionSwitcherBridge
        (sampleRequest 1003 "")).statusCode = (sampleSdk ℝ).errBusy := by
  intro ls ms c c'
  have hdown : program (sampleSdk ℝ) (.sportRequest (sampleRequest 1005 "")) =
      ((SportCommand.lockAnd .standDown .getDown).actions (sampleSdk ℝ)).seq
        (.call .sleepFor fun _ =>
          .one (.sendSportResponse (sportResponse (sampleSdk ℝ) (sampleRequest 1005 "")))) :=
    (program_sportRequest _ _).trans rfl
  have hloop : program (sampleSdk ℝ) .loop = loopIteration := rfl
  have hend : Sets (c.prog .sport) .standDown ∧ c'.prog .sport = .done ∧
      c'.state.motionSwitcherBridge.robotPosture = .standUp := by
    refine ⟨?_, ?_, ?_⟩ <;>
      simp [c, c', ls, ms, interleaved, System.step, appSystem, program_sampleBalanceStand,
        program_sampleMove, hdown, hloop, hasMotion_sampleMove, updatePostureFromMove,
        loopIteration, loopReadMotion, loopReadPosture, loopSetPosture, Prog.one, Pool.idle,
        App.init, App.call, Sets, CmdVelPublisher.init, CmdVelPublisher.apply,
        CmdVelPublisher.unlockJoints, CmdVelPublisher.handleMove, CmdVelPublisher.acceptMove,
        CmdVelPublisher.isJointsLocked, CmdVelPublisher.tick, CmdVelPublisher.isActivelyMoving,
        CmdVelPublisher.lockJoints, moveStopTimeout, CmdCtlPublisher.publishCommand,
        MotionSwitcherBridge.getRobotPosture, List.replicate]
  obtain ⟨hsets, hsport, hposture⟩ := hend
  refine ⟨hsets, ?_, ?_, hposture, ?_⟩
  · simp [ms, NoNewCommand]
  · simp [HandlerFinished, hsport]
  · rw [statusCode_eq_errBusy (Or.inr rfl), hposture]
    simp

end App

end SdkEventBridge
