import SdkEventBridge.App.Gating

set_option relaxedAutoImplicit false
set_option autoImplicit false

/-!
# The main loop settles

Whatever the threads have done to posture and motion, the main loop brings them together again:
once no sport request and no reset interferes, one iteration that begins after that leaves the
posture Walking exactly if a move is active, and in default mode it ends a move whose timeout has
run since the stored time. That time is not always the one of the latest MOVE:
`SetContinuousMoveMode(false)` and `ResetToDefaults` store the clock as well. Mode changes may go
on all the while.

## Main definitions

* `Motion`, `App.motion` — the part of the state the main loop reads and writes.
* `Settled` — what the main loop knows at each of its calls.

## Main results

* `motion_quiet` — no other thread changes that part in the meantime.
* `loop_settles` — posture and motion after an iteration.
-/

namespace SdkEventBridge

open PlanarNorm Resumption Run

open CmdVelPublisher (callThread)

/-- The part of the state the main loop reads and writes. -/
structure Motion where
  robotPosture : RobotPosture
  hasActiveMove : Bool
  jointsLocked : Bool
  continuousMoveMode : Bool
  lastMoveTime : Time

namespace App

variable {K : Type}

/-- The part of the state the main loop reads and writes. -/
def motion (app : App K) : Motion where
  robotPosture := app.motionSwitcherBridge.robotPosture
  hasActiveMove := app.cmdVelPublisher.hasActiveMove
  jointsLocked := app.cmdVelPublisher.jointsLocked
  continuousMoveMode := app.cmdVelPublisher.continuousMoveMode
  lastMoveTime := app.cmdVelPublisher.lastMoveTime

/-- The posture is Walking exactly if a move is active. -/
def Agrees (app : App K) : Prop :=
  app.motionSwitcherBridge.robotPosture = .walking ↔ app.cmdVelPublisher.isActivelyMoving = true

/-- What the main loop knows at each of its calls, once it has called `Tick`. -/
structure Settled (c : AppPool K) : Prop where
  idle : c.prog .loop = .done → c.state.Agrees
  write : ∀ posture, Sets (c.prog .loop) posture →
    (posture = .walking ↔ c.state.cmdVelPublisher.isActivelyMoving = true)
  read : c.prog .loop = loopReadPosture → c.state.cmdVelPublisher.isActivelyMoving = false

section Motion

/-- The flag the loop tests is in that part. -/
theorem isActivelyMoving_of_motion {app app' : App K} (h : app'.motion = app.motion) :
    app'.cmdVelPublisher.isActivelyMoving = app.cmdVelPublisher.isActivelyMoving := by
  have hactive : app'.cmdVelPublisher.hasActiveMove = app.cmdVelPublisher.hasActiveMove :=
    congrArg Motion.hasActiveMove h
  have hlocked : app'.cmdVelPublisher.jointsLocked = app.cmdVelPublisher.jointsLocked :=
    congrArg Motion.jointsLocked h
  rw [CmdVelPublisher.isActivelyMoving, CmdVelPublisher.isActivelyMoving, hactive, hlocked]

/-- The agreement is about that part. -/
theorem Agrees.of_motion {app app' : App K} (h : app'.motion = app.motion) (ha : app.Agrees) :
    app'.Agrees := by
  have hposture : app'.motionSwitcherBridge.robotPosture = app.motionSwitcherBridge.robotPosture :=
    congrArg Motion.robotPosture h
  rwa [Agrees, isActivelyMoving_of_motion h, hposture]

/-- What the main loop knows does not depend on the other threads as long as they leave posture
and motion alone. -/
theorem Settled.of_motion {c c' : AppPool K} (h : c'.state.motion = c.state.motion)
    (hprog : c'.prog .loop = c.prog .loop) (hc : Settled c) : Settled c' := by
  have hmoving := isActivelyMoving_of_motion h
  refine ⟨fun hloop => ?_, fun posture hsets => ?_, fun hread => ?_⟩
  · exact (hc.idle (hprog ▸ hloop)).of_motion h
  · rw [hmoving]
    exact hc.write posture (hprog ▸ hsets)
  · rw [hmoving]
    exact hc.read (hprog ▸ hread)

end Motion

section Runs

variable [Field K] [LinearOrder K] [HasHypot K] {sdk : UnitreeSdk K}

/-- A mode change re-limits an active move and leaves it active. -/
theorem motion_setMotionModeName (now : Time) (app : App K) (name : String) :
    (App.call sdk now app (.cmdVel (.setMotionModeName name))).1.motion = app.motion := by
  have hrelimit : ∀ s : CmdVelPublisher K,
      s.relimit.1.hasActiveMove = s.hasActiveMove ∧ s.relimit.1.jointsLocked = s.jointsLocked ∧
      s.relimit.1.continuousMoveMode = s.continuousMoveMode ∧
      s.relimit.1.lastMoveTime = s.lastMoveTime := by
    intro s
    unfold CmdVelPublisher.relimit
    split_ifs <;> simp
  simp only [App.call, CmdVelPublisher.apply, CmdVelPublisher.setMotionModeName_eq, motion]
  split_ifs
  · rfl
  · obtain ⟨hactive, hlocked, hmode, htime⟩ := hrelimit _
    rw [hactive, hlocked, hmode, htime]

/-- **The other threads.** Once the sport handler has finished and while no reset runs, only the
main loop changes posture and motion.

**Proof sketch.** The sport thread has its response left at most, and the reset thread is idle. The
motion switcher thread changes the profile and answers requests, and neither touches posture, mode,
clock or activity of the move. -/
theorem motion_quiet {ls : List (Label Thread AppInput Time)} {t : Thread} {e : Time} {i : Call}
    {next : App K → AppProg K} (ht : t ≠ .loop)
    (hprog : (interleaved sdk ls).prog t = .call i next)
    (hsport : HandlerFinished (interleaved sdk ls))
    (hreset : (interleaved sdk ls).prog .reset = .done) :
    (App.call sdk e (interleaved sdk ls).state i).1.motion =
      (interleaved sdk ls).state.motion := by
  cases t with
  | loop => exact absurd rfl ht
  | reset => exact absurd (hreset.symm.trans hprog) (by simp)
  | sport =>
    rw [HandlerFinished, hprog] at hsport
    rcases hsport.1 with rfl | ⟨response, rfl⟩ <;> rfl
  | switcher =>
    have hgates := gates_interleaved sdk ls .switcher
    have hthread := onThread_interleaved sdk ls .switcher
    rw [hprog] at hgates hthread
    obtain ⟨-, hset, hres⟩ := hgates.1
    cases i with
    | cmdVel op =>
      have hop := hthread.1 op rfl
      cases op with
      | setMotionModeName name => exact motion_setMotionModeName e _ name
      | _ => exact absurd hop (by simp [callThread])
    | setRobotPosture posture => exact absurd rfl (hset posture)
    | resetMotionSwitcher => exact absurd rfl hres
    | buildInterceptResponseData apiId request =>
      simp [App.call, motion, buildInterceptResponseData_robotPosture]
    | _ => rfl

/-- Neither the sport handler nor a reset interferes. -/
structure Quiet (c : AppPool K) : Prop where
  sport : HandlerFinished c
  reset : c.prog .reset = .done

/-- Quiet lasts until a sport request or a reset begins. -/
theorem Quiet.step {c : AppPool K} (hc : Quiet c) {l : Label Thread AppInput Time}
    (hl : NoNewCommand l) : Quiet ((appSystem sdk).step c l) := by
  rcases System.step_cases (S := appSystem sdk) (c := c) l with
    h | ⟨job, rfl, -, h⟩ | ⟨t, e, i, next, rfl, hprog, h⟩
  · rwa [h]
  · rw [h]
    cases job with
    | sportRequest request => exact absurd rfl (hl.1 request)
    | reset => exact absurd rfl hl.2
    | switcherRequest request => exact ⟨hc.sport, hc.reset⟩
    | loop => exact ⟨hc.sport, hc.reset⟩
  · rw [h]
    cases t with
    | sport =>
      have hsport := hc.sport
      rw [HandlerFinished, hprog] at hsport
      exact ⟨hsport.2 c.state, hc.reset⟩
    | reset => exact absurd (hc.reset.symm.trans hprog) (by simp)
    | switcher => exact ⟨hc.sport, hc.reset⟩
    | loop => exact ⟨hc.sport, hc.reset⟩

/-- A call of the main loop keeps what it knows, from its `Tick` on.

**Proof sketch.** Case analysis on the call. After `Tick` nothing is known yet. Reading the motion
flag decides between writing Walking and reading the posture, reading the posture between writing
StandUp and doing nothing, and each choice fits the flag. A write makes posture and flag agree. -/
theorem settled_loop {c : AppPool K} {e : Time} {i : Call} {next : App K → AppProg K}
    (hprog : c.prog .loop = .call i next) (hpend : Pending .loop (c.prog .loop))
    (hc : c.prog .loop = loopIteration ∨ Settled c) :
    Settled ((appSystem sdk).step c (.advance .loop e)) := by
  rw [System.step_advance_of_call hprog]
  rw [hprog] at hpend
  set c' : AppPool K :=
    { state := ((appSystem sdk).call e c.state i).1
      trace := c.trace ++ ((appSystem sdk).call e c.state i).2
      prog := Function.update c.prog .loop (next c.state) } with hc'
  have hloop : c'.prog .loop = next c.state := by simp [hc']
  have hafter : ∀ p, next c.state = p → (p = .done → c'.state.Agrees) →
      (∀ posture, Sets p posture →
        (posture = .walking ↔ c'.state.cmdVelPublisher.isActivelyMoving = true)) →
      (p = loopReadPosture → c'.state.cmdVelPublisher.isActivelyMoving = false) →
      Settled c' := by
    rintro p rfl hidle hwrite hread
    exact ⟨hloop ▸ hidle, hloop ▸ hwrite, hloop ▸ hread⟩
  have hset : ∀ posture posture', Sets (loopSetPosture posture : AppProg K) posture' →
      posture = posture' := by
    rintro posture posture' ⟨next', heq⟩
    exact Call.setRobotPosture.inj (Prog.call.inj heq).1
  rcases pending_loop_next hpend with ⟨rfl, hn⟩ | ⟨rfl, hn⟩ | ⟨rfl, hn⟩ | ⟨posture, -, rfl, hn⟩
  · refine hafter _ (hn _) ?_ ?_ ?_
    · rintro ⟨⟩
    · rintro posture ⟨next', ⟨⟩⟩
    · rintro ⟨⟩
  · -- The motion flag is read.
    have hstate : c'.state = c.state := rfl
    rw [hstate] at hafter
    cases hmoving : c.state.cmdVelPublisher.isActivelyMoving with
    | true =>
      rw [hmoving] at hafter
      refine hafter (loopSetPosture .walking) (by rw [hn, hmoving, if_pos rfl]) ?_ ?_ ?_
      · rintro ⟨⟩
      · exact fun posture hsets => by simp [← hset _ _ hsets]
      · rintro ⟨⟩
    | false =>
      rw [hmoving] at hafter
      refine hafter loopReadPosture (by rw [hn, hmoving]; rfl) ?_ ?_ fun _ => rfl
      · rintro ⟨⟩
      · rintro posture ⟨next', ⟨⟩⟩
  · -- The posture is read, and no move is active.
    have hstate : c'.state = c.state := rfl
    have hidle : c.state.cmdVelPublisher.isActivelyMoving = false := by
      have hread : c.prog .loop = loopReadPosture := by
        rw [hprog]
        rcases hpend with h | h | h | h | ⟨posture, -, h⟩
        · cases h
        · cases h
        · cases h
        · exact h
        · cases h
      rcases hc with hfirst | hsettled
      · rw [hfirst] at hread
        cases hread
      · exact hsettled.read hread
    rw [hstate, hidle] at hafter
    by_cases hwalking : c.state.motionSwitcherBridge.getRobotPosture = .walking
    · refine hafter (loopSetPosture .standUp) (by rw [hn, if_pos hwalking]) ?_ ?_ fun _ => rfl
      · rintro ⟨⟩
      · exact fun posture hsets => by simp [← hset _ _ hsets]
    · refine hafter .done (by rw [hn, if_neg hwalking]) (fun _ => ?_) ?_ fun _ => rfl
      · rw [Agrees, hidle]
        exact iff_of_false hwalking (by simp)
      · rintro posture ⟨next', ⟨⟩⟩
  · -- The posture is written.
    have hwrites : posture = .walking ↔ c.state.cmdVelPublisher.isActivelyMoving = true := by
      rcases hc with hfirst | hsettled
      · rw [hfirst] at hprog
        cases hprog
      · exact hsettled.write posture ⟨next, hprog⟩
    refine hafter .done (hn _) (fun _ => ?_) ?_ ?_
    · show (c.state.motionSwitcherBridge.setRobotPosture posture).robotPosture = .walking ↔
        c.state.cmdVelPublisher.isActivelyMoving = true
      simpa using hwrites
    · rintro posture ⟨next', ⟨⟩⟩
    · rintro ⟨⟩

variable (sdk) in
/-- The main loop has begun an iteration and not yet called `Tick`, or has called it.

**Proof sketch.** A call of the main loop is `settled_loop`. Any other step keeps posture and motion
by `motion_quiet` and leaves the program of the loop alone, and `Settled` is about these two. -/
theorem settled_concat {ls : List (Label Thread AppInput Time)} {l : Label Thread AppInput Time}
    (hquiet : Quiet (interleaved sdk ls)) (hl : NoNewCommand l)
    (hc : (interleaved sdk ls).prog .loop = loopIteration ∨ Settled (interleaved sdk ls)) :
    (interleaved sdk (ls ++ [l])).prog .loop = loopIteration ∨
      Settled (interleaved sdk (ls ++ [l])) := by
  rw [interleaved_concat]
  rcases System.step_cases (S := appSystem sdk) (c := interleaved sdk ls) l with
    h | ⟨job, rfl, hidle, h⟩ | ⟨t, e, i, next, rfl, hprog, h⟩
  · rwa [h]
  · cases job with
    | sportRequest request => exact absurd rfl (hl.1 request)
    | reset => exact absurd rfl hl.2
    | loop =>
      rw [h]
      exact Or.inl rfl
    | switcherRequest request =>
      rw [h]
      exact hc.imp (fun hfirst => hfirst)
        (Settled.of_motion (c := interleaved sdk ls) rfl rfl)
  · by_cases ht : t = .loop
    · subst ht
      exact Or.inr (settled_loop hprog (pending_interleaved sdk ls .loop) hc)
    · have hloop : ((appSystem sdk).step (interleaved sdk ls) (.advance t e)).prog .loop =
          (interleaved sdk ls).prog .loop := by
        rw [h]
        exact Function.update_of_ne (Ne.symm ht) _ _
      have hmotion : ((appSystem sdk).step (interleaved sdk ls) (.advance t e)).state.motion =
          (interleaved sdk ls).state.motion := by
        rw [h]
        exact motion_quiet ht hprog hquiet.sport hquiet.reset
      exact hc.imp hloop.trans (Settled.of_motion hmotion hloop)

/-- In default mode, once the timeout has run since the stored time, `Tick` has ended the move or is
about to be called. -/
structure Expired (deadline : Time) (c : AppPool K) : Prop where
  mode : c.state.cmdVelPublisher.continuousMoveMode = false
  deadline_eq : c.state.cmdVelPublisher.lastMoveTime + moveStopTimeout = deadline
  ended : c.prog .loop = loopIteration ∨ c.state.cmdVelPublisher.hasActiveMove = false

variable (sdk) in
/-- A `Tick` after the deadline ends the move.

**Proof sketch.** `Tick` keeps mode and clock. If a move is active, the joints are unlocked, the
mode is off and the deadline is over, so `Tick` expires and ends the move. -/
theorem expired_tick {deadline e : Time} {c c' : AppPool K}
    (hmode : c.state.cmdVelPublisher.continuousMoveMode = false)
    (hdeadline : c.state.cmdVelPublisher.lastMoveTime + moveStopTimeout = deadline)
    (hlate : deadline ≤ e)
    (hlocked : c.state.cmdVelPublisher.hasActiveMove = true →
      c.state.cmdVelPublisher.jointsLocked = false)
    (hstate : c'.state = (App.call sdk e c.state (.cmdVel .tick)).1) : Expired deadline c' := by
  have hvel : c'.state.cmdVelPublisher = (c.state.cmdVelPublisher.tick e).1 := by rw [hstate]; rfl
  refine ⟨?_, ?_, Or.inr ?_⟩
  · rw [hvel, CmdVelPublisher.tick_eq]
    split_ifs <;> simpa using hmode
  · rw [hvel, CmdVelPublisher.tick_eq]
    split_ifs <;> simpa using hdeadline
  · rw [hvel, CmdVelPublisher.tick_eq]
    cases hactive : c.state.cmdVelPublisher.hasActiveMove with
    | false => split_ifs <;> simp [hactive]
    | true =>
      have hexpires : c.state.cmdVelPublisher.tickExpires e = true := by
        rw [CmdVelPublisher.tickExpires_iff]
        exact ⟨hlocked hactive, hmode, hactive, le_sub_iff_add_le.mpr (hdeadline.trans_le hlate)⟩
      rw [if_pos hexpires]
      simp

variable (sdk) in
/-- One more step, with the deadline passed if it is one of the loop, keeps it.

**Proof sketch.** The `Tick` of the iteration is `expired_tick`. The later calls of the loop keep
motion, and so do the other threads by `motion_quiet`. -/
theorem expired_concat {deadline : Time} {ls : List (Label Thread AppInput Time)}
    {l : Label Thread AppInput Time} (hquiet : Quiet (interleaved sdk ls)) (hl : NoNewCommand l)
    (hlate : ∀ e, l = .advance .loop e → deadline ≤ e)
    (hlocked : (interleaved sdk ls).state.cmdVelPublisher.hasActiveMove = true →
      (interleaved sdk ls).state.cmdVelPublisher.jointsLocked = false)
    (hc : Expired deadline (interleaved sdk ls)) :
    Expired deadline (interleaved sdk (ls ++ [l])) := by
  rw [interleaved_concat]
  rcases System.step_cases (S := appSystem sdk) (c := interleaved sdk ls) l with
    h | ⟨job, rfl, hidle, h⟩ | ⟨t, e, i, next, rfl, hprog, h⟩
  · rwa [h]
  · rw [h]
    cases job with
    | sportRequest request => exact absurd rfl (hl.1 request)
    | reset => exact absurd rfl hl.2
    | loop => exact ⟨hc.mode, hc.deadline_eq, Or.inl rfl⟩
    | switcherRequest request => exact ⟨hc.mode, hc.deadline_eq, hc.ended⟩
  · by_cases ht : t = .loop
    · subst ht
      have hpend := pending_interleaved sdk ls .loop
      rw [hprog] at hpend
      rw [h]
      have hother : i ≠ .cmdVel .tick →
          (interleaved sdk ls).state.cmdVelPublisher.hasActiveMove = false := fun hne =>
        hc.ended.resolve_left fun hfirst => hne (Prog.call.inj (hprog.symm.trans hfirst)).1
      rcases pending_loop_next hpend with
        ⟨rfl, -⟩ | ⟨rfl, -⟩ | ⟨rfl, -⟩ | ⟨posture, -, rfl, -⟩
      · exact expired_tick sdk hc.mode hc.deadline_eq (hlate e rfl) hlocked rfl
      · exact ⟨hc.mode, hc.deadline_eq, Or.inr (hother (by simp))⟩
      · exact ⟨hc.mode, hc.deadline_eq, Or.inr (hother (by simp))⟩
      · exact ⟨hc.mode, hc.deadline_eq, Or.inr (hother (by simp))⟩
    · have hmotion := motion_quiet (e := e) ht hprog hquiet.sport hquiet.reset
      rw [h]
      refine ⟨(congrArg Motion.continuousMoveMode hmotion).trans hc.mode, ?_, ?_⟩
      · rw [← hc.deadline_eq]
        exact congrArg (· + moveStopTimeout) (congrArg Motion.lastMoveTime hmotion)
      · refine hc.ended.imp (fun hfirst => ?_) fun hended =>
          (congrArg Motion.hasActiveMove hmotion).trans hended
        exact (Function.update_of_ne (Ne.symm ht) _ _).trans hfirst

variable (sdk) in
/-- An iteration has begun: at every later moment it has not called `Tick` yet, or the loop is
settled. -/
theorem settled_run {ls : List (Label Thread AppInput Time)} (hquiet : Quiet (interleaved sdk ls))
    (hc : (interleaved sdk ls).prog .loop = loopIteration) (ms : List (Label Thread AppInput Time))
    (hms : ∀ l ∈ ms, NoNewCommand l) :
    Quiet (interleaved sdk (ls ++ ms)) ∧
      ((interleaved sdk (ls ++ ms)).prog .loop = loopIteration ∨
        Settled (interleaved sdk (ls ++ ms))) := by
  induction ms using List.reverseRecOn with
  | nil => exact ⟨by simpa using hquiet, by simpa using Or.inl hc⟩
  | append_singleton ms l ih =>
    obtain ⟨hq, hs⟩ := ih fun l' hl' => hms l' (by simp [hl'])
    have hl : NoNewCommand l := hms l (by simp)
    rw [← List.append_assoc]
    refine ⟨?_, settled_concat sdk hq hl hs⟩
    rw [interleaved_concat]
    exact hq.step hl

variable [IsStrictOrderedRing K] [LawfulHypot K]

variable (sdk) in
/-- If the deadline has passed at every call of the loop, the move has ended after `Tick`. -/
theorem expired_run {deadline : Time} {ls : List (Label Thread AppInput Time)}
    (hquiet : Quiet (interleaved sdk ls)) (hc : Expired deadline (interleaved sdk ls))
    (ms : List (Label Thread AppInput Time)) (hms : ∀ l ∈ ms, NoNewCommand l)
    (hlate : ∀ e, .advance .loop e ∈ ms → deadline ≤ e) :
    Expired deadline (interleaved sdk (ls ++ ms)) := by
  induction ms generalizing ls with
  | nil => rwa [List.append_nil]
  | cons l ms ih =>
    have hl : NoNewCommand l := hms l List.mem_cons_self
    rw [List.append_cons]
    refine ih ?_ ?_ (fun l' hl' => hms l' (List.mem_cons_of_mem l hl'))
      fun e he => hlate e (List.mem_cons_of_mem l he)
    · rw [interleaved_concat]
      exact hquiet.step hl
    · exact expired_concat sdk hquiet hl (fun e he => hlate e (he ▸ List.mem_cons_self))
        (consistent_interleaved sdk ls).unlocked_of_active hc

end Runs

/-- **The main loop settles.** Once the sport handler has finished, no reset runs and none of them
begins again, an iteration of the main loop that begins then and has ended leaves the posture
Walking exactly if a move is active, whatever the threads did before, each call being one atomic
step. In default mode, if the loop makes its calls no earlier than the timeout after the stored time
(that of the latest MOVE, `SetContinuousMoveMode(false)` or reset to store it), the last velocity is
zero by then and the posture is not Walking.

**Proof sketch.** When the iteration begins the threads are quiet, and they stay quiet
(`Quiet.step`), so that only the main loop changes posture and motion (`motion_quiet`). From its
`Tick` on it is settled (`settled_run`), and a settled loop that is idle leaves posture and motion
in agreement. With the deadline passed at each of its calls its `Tick` has ended the move
(`expired_run`), and without an active move the last velocity is zero
(`consistent_interleaved`). -/
theorem loop_settles (sdk : UnitreeSdk ℝ) (ls ms : List (Label Thread AppInput Time))
    (hsport : HandlerFinished (interleaved sdk ls))
    (hreset : (interleaved sdk ls).prog .reset = .done)
    (hloop : (interleaved sdk ls).prog .loop = .done) (hms : ∀ l ∈ ms, NoNewCommand l) :
    let before := (interleaved sdk ls).state.cmdVelPublisher
    let c := interleaved sdk (ls ++ .start .loop :: ms)
    c.prog .loop = .done →
      (c.state.motionSwitcherBridge.robotPosture = .walking ↔
        c.state.cmdVelPublisher.isActivelyMoving = true) ∧
      (before.continuousMoveMode = false →
        (∀ e, .advance .loop e ∈ ms → before.lastMoveTime + moveStopTimeout ≤ e) →
        lastTwist (twists c.trace) = 0 ∧
          c.state.motionSwitcherBridge.robotPosture ≠ .walking) := by
  intro before c hdone
  have hstart : interleaved sdk (ls ++ [.start .loop]) =
      { interleaved sdk ls with
        prog := Function.update (interleaved sdk ls).prog .loop loopIteration } := by
    rw [interleaved_concat]
    exact System.step_start_of_done (S := appSystem sdk) hloop
  have hbegun : (interleaved sdk (ls ++ [.start .loop])).prog .loop = loopIteration := by
    rw [hstart]
    rfl
  have hquiet : Quiet (interleaved sdk (ls ++ [.start .loop])) := by
    rw [hstart]
    exact ⟨hsport, hreset⟩
  have hsplit : ∀ ks : List (Label Thread AppInput Time),
      ls ++ .start .loop :: ks = (ls ++ [.start .loop]) ++ ks := by simp
  have hrunning : c.prog .loop ≠ loopIteration := by
    rw [hdone]
    rintro ⟨⟩
  have hagrees : c.state.Agrees := by
    have hsettled := (settled_run sdk hquiet hbegun ms hms).2
    rw [← hsplit] at hsettled
    exact (hsettled.resolve_left hrunning).idle hdone
  refine ⟨hagrees, fun hmode hlate => ?_⟩
  have hexpired : Expired (before.lastMoveTime + moveStopTimeout) c := by
    show Expired _ (interleaved sdk (ls ++ .start .loop :: ms))
    rw [hsplit]
    refine expired_run sdk hquiet ?_ ms hms hlate
    rw [hstart]
    exact ⟨hmode, rfl, Or.inl rfl⟩
  have hidle : c.state.cmdVelPublisher.hasActiveMove = false := hexpired.ended.resolve_left hrunning
  have hcon := consistent_interleaved sdk (ls ++ .start .loop :: ms)
  refine ⟨?_, fun hwalking => ?_⟩
  · have hlast := hcon.lastTwist_eq
    rwa [show (interleaved sdk (ls ++ .start .loop :: ms)).state.cmdVelPublisher.hasActiveMove =
      false from hidle, if_neg (by simp)] at hlast
  · have hmoving := hagrees.mp hwalking
    rw [CmdVelPublisher.isActivelyMoving, hidle] at hmoving
    exact absurd hmoving (by simp)

/-- An iteration of the loop a second after a MOVE, with the response to the MOVE not yet sent and
a release of the mode under way. -/
theorem loop_settles_after_move :
    let ls : List (Label Thread AppInput Time) :=
      [.start (.sportRequest (sampleRequest 1002 ""))] ++ List.replicate 4 (.advance .sport 0) ++
        [.start (.sportRequest (sampleRequest 1008 "\x7b\"x\":1\x7d"))] ++
        List.replicate 3 (.advance .sport 0)
    let ms : List (Label Thread AppInput Time) :=
      .start (.switcherRequest (sampleRequest 1003 "")) :: .advance .switcher 0 ::
        List.replicate 4 (.advance .loop moveStopTimeout)
    let c := interleaved (sampleSdk ℝ) (ls ++ .start .loop :: ms)
    (interleaved (sampleSdk ℝ) ls).state.cmdVelPublisher.hasActiveMove = true ∧
      (interleaved (sampleSdk ℝ) ls).state.motionSwitcherBridge.robotPosture = .walking ∧
      lastTwist (twists c.trace) = 0 ∧ c.state.motionSwitcherBridge.robotPosture ≠ .walking := by
  intro ls ms c
  have hiteration : program (sampleSdk ℝ) .loop = loopIteration := rfl
  have hbefore : HandlerFinished (interleaved (sampleSdk ℝ) ls) ∧
      (interleaved (sampleSdk ℝ) ls).prog .reset = .done ∧
      (interleaved (sampleSdk ℝ) ls).prog .loop = .done ∧
      (interleaved (sampleSdk ℝ) ls).state.cmdVelPublisher.hasActiveMove = true ∧
      (interleaved (sampleSdk ℝ) ls).state.cmdVelPublisher.continuousMoveMode = false ∧
      (interleaved (sampleSdk ℝ) ls).state.cmdVelPublisher.lastMoveTime = 0 ∧
      (interleaved (sampleSdk ℝ) ls).state.motionSwitcherBridge.robotPosture = .walking := by
    refine ⟨?_, ?_, ?_, ?_, ?_, ?_, ?_⟩ <;>
      simp [ls, interleaved, System.step, appSystem, program_sampleBalanceStand, program_sampleMove,
        hasMotion_sampleMove, updatePostureFromMove, HandlerFinished, Prog.one, Pool.idle, App.init,
        App.call, CmdVelPublisher.init, CmdVelPublisher.apply, CmdVelPublisher.unlockJoints,
        CmdVelPublisher.handleMove, CmdVelPublisher.acceptMove, CmdVelPublisher.isJointsLocked,
        CmdCtlPublisher.publishCommand, List.replicate]
  obtain ⟨hsport, hreset, hloop, hactive, hmode, htime, hposture⟩ := hbefore
  refine ⟨hactive, hposture, (loop_settles (sampleSdk ℝ) ls ms hsport hreset hloop ?_ ?_).2 hmode
    ?_⟩
  · simp [ms, NoNewCommand]
  · simp [ms, ls, interleaved, System.step, appSystem, program_sampleBalanceStand,
      program_sampleMove, hiteration, program_switcherRequest, hasMotion_sampleMove,
      updatePostureFromMove, loopIteration, loopReadMotion, loopReadPosture, loopSetPosture,
      Prog.one, Pool.idle, App.init, App.call, CmdVelPublisher.init, CmdVelPublisher.apply,
      CmdVelPublisher.unlockJoints, CmdVelPublisher.handleMove, CmdVelPublisher.acceptMove,
      CmdVelPublisher.isJointsLocked, CmdVelPublisher.tick, CmdVelPublisher.isActivelyMoving,
      moveStopTimeout, CmdCtlPublisher.publishCommand, MotionSwitcherBridge.getRobotPosture,
      List.replicate]
  · intro e he
    obtain rfl : e = moveStopTimeout := by simpa [ms] using he
    rw [htime, zero_add]

end App

end SdkEventBridge
