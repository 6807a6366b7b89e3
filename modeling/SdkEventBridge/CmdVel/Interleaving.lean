import SdkEventBridge.CmdVel.History
import SdkEventBridge.Model.Main

set_option relaxedAutoImplicit false
set_option autoImplicit false

/-!
# MOVE and reset on different threads

`HandleMove` tests the lock and then publishes, and nothing keeps the `/reset` callback from
running in between. This file splits `HandleMove` into those two steps, leaves every other
operation atomic, and interleaves the operations of the four threads that call the publisher.

## Main definitions

* `CmdVelStep`, `callStep`, `callProgram` — the atomic steps and the steps of each operation.
* `cmdVelSystem` — the interleaved publisher.
* `StillIfLocked` — with the joints locked there is no motion.

## Main results

* `exec_callProgram` — without interruption the steps of an operation are the operation.
* `still_while_locked_iff` — the runs in which locked joints mean no motion.
* `along_acceptsUnlocked` — those in which no reset falls between the two steps are among them.
-/

namespace SdkEventBridge

namespace CmdVelPublisher

open PlanarNorm Resumption Run

/-- An atomic step of a call. -/
inductive CmdVelStep where
  | op (op : CmdVelOp)
  /-- `if (m_jointsLocked) return;` in `HandleMove`. -/
  | checkLocked
  /-- The rest of `HandleMove`. -/
  | acceptMove (parameterJson : String)

/-- The thread an operation is called on. -/
def callThread : CmdVelOp → Thread
  | .tick => .loop
  | .resetToDefaults => .reset
  | .setMotionModeName _ => .switcher
  | _ => .sport

section Steps

variable {K : Type}

/-- `HandleMove` as two steps. -/
def handleMoveSteps (parameterJson : String) : Prog (CmdVelPublisher K) CmdVelStep :=
  .call .checkLocked fun s =>
    if s.jointsLocked then .done else .one (.acceptMove parameterJson)

/-- The steps of an operation. -/
def callProgram : CmdVelOp → Prog (CmdVelPublisher K) CmdVelStep
  | .handleMove parameterJson => handleMoveSteps parameterJson
  | op => .one (.op op)

/-- No operation begins with the second step of a MOVE. -/
theorem callProgram_ne_acceptMove (op : CmdVelOp) (p : String) :
    (callProgram op : Prog (CmdVelPublisher K) CmdVelStep) ≠ .one (.acceptMove p) := by
  cases op <;> simp [callProgram, handleMoveSteps, Prog.one]

/-- What a thread can have left to do. -/
def Pending (t : Thread) (p : Prog (CmdVelPublisher K) CmdVelStep) : Prop :=
  p = .done ∨ (∃ op, callThread op = t ∧ p = .one (.op op)) ∨
    (t = .sport ∧ ∃ m, p = handleMoveSteps m ∨ p = .one (.acceptMove m))

/-- An operation that begins is one of its thread. -/
theorem pending_callProgram (op : CmdVelOp) :
    Pending (callThread op) (callProgram op : Prog (CmdVelPublisher K) CmdVelStep) := by
  cases op with
  | handleMove p => exact Or.inr (Or.inr ⟨rfl, p, Or.inl rfl⟩)
  | _ => exact Or.inr (Or.inl ⟨_, rfl, rfl⟩)

/-- What follows a step is the second step of a MOVE or nothing. -/
theorem pending_next {t : Thread} {i : CmdVelStep}
    {next : CmdVelPublisher K → Prog (CmdVelPublisher K) CmdVelStep} {s : CmdVelPublisher K}
    (h : Pending t (.call i next)) : Pending t (next s) := by
  rcases h with h | ⟨op, -, h⟩ | ⟨rfl, m, h | h⟩
  · simp at h
  · simp only [Prog.one, Prog.call.injEq] at h
    rw [h.2]
    exact Or.inl rfl
  · simp only [handleMoveSteps, Prog.call.injEq] at h
    rw [h.2]
    cases hl : s.jointsLocked
    · exact Or.inr (Or.inr ⟨rfl, m, Or.inr (by simp [hl])⟩)
    · exact Or.inl (by simp [hl])
  · simp only [Prog.one, Prog.call.injEq] at h
    rw [h.2]
    exact Or.inl rfl

end Steps

section System

variable {K : Type} [Field K] [LinearOrder K] [HasHypot K] (sdk : UnitreeSdk K)

/-- The effect of a step. -/
def callStep (now : Time) (s : CmdVelPublisher K) :
    CmdVelStep → CmdVelPublisher K × List (Twist K)
  | .op op => s.apply sdk now op
  | .checkLocked => (s, [])
  | .acceptMove parameterJson => s.acceptMove sdk now parameterJson

/-- The publisher called from four threads. -/
def cmdVelSystem : System Thread CmdVelOp Time (CmdVelPublisher K) CmdVelStep (Twist K) where
  call := callStep sdk
  thread := callThread
  program := callProgram

/-- Run without interruption, the steps of an operation have the effect of the operation. -/
theorem exec_callProgram (now : Time) (op : CmdVelOp) (s : CmdVelPublisher K) :
    exec (callStep sdk) now (callProgram op) s = s.apply sdk now op := by
  cases op with
  | handleMove p =>
    rw [callProgram, handleMoveSteps, exec_call, apply, handleMove]
    cases s.jointsLocked <;> simp [callStep]
  | _ => exact exec_one (callStep sdk) now _ s

/-- With unlocked joints the second step of `HandleMove` does what all of it does. -/
theorem acceptMove_eq_apply {s : CmdVelPublisher K} (h : s.jointsLocked = false) (now : Time)
    (p : String) : s.acceptMove sdk now p = s.apply sdk now (.handleMove p) := by
  simp [apply, handleMove, h]

/-- A moment of an interleaved run. -/
abbrev CmdVelPool (K : Type) := Pool Thread (CmdVelPublisher K) CmdVelStep (Twist K)

/-- The publisher after the scheduler's choices `ls`, from construction. -/
def interleaved (ls : List (Label Thread CmdVelOp Time)) : CmdVelPool K :=
  run (cmdVelSystem sdk).step (Pool.idle init) ls

/-- The sport thread is inside `HandleMove`. -/
def InHandleMove (c : CmdVelPool K) : Prop :=
  ∃ p, c.prog .sport = handleMoveSteps p ∨ c.prog .sport = .one (.acceptMove p)

/-- If the joints are locked then no move is active and the last message is zero. -/
def StillIfLocked (c : CmdVelPool K) : Prop :=
  c.state.jointsLocked = true → c.state.hasActiveMove = false ∧ lastTwist c.trace = 0

/-- If the label makes the second step of a `HandleMove`, the joints are unlocked. -/
def AcceptsUnlocked (c : CmdVelPool K) (l : Label Thread CmdVelOp Time) : Prop :=
  ∀ t e p next, l = .advance t e → c.prog t = .call (.acceptMove p) next →
    c.state.jointsLocked = false

/-- Every thread is always in one of the shapes of `Pending`. -/
theorem pending_interleaved (ls : List (Label Thread CmdVelOp Time)) (t : Thread) :
    Pending t ((interleaved sdk ls).prog t) :=
  System.run_threads (S := cmdVelSystem sdk) pending_callProgram (fun _ _ _ _ => pending_next)
    (fun _ => Or.inl rfl) ls t

/-- Only the sport thread comes to the second step of `HandleMove`, and nothing follows it. -/
theorem eq_of_prog_acceptMove {ls : List (Label Thread CmdVelOp Time)} {t : Thread} {p : String}
    {next : CmdVelPublisher K → Prog (CmdVelPublisher K) CmdVelStep}
    (h : (interleaved sdk ls).prog t = .call (.acceptMove p) next) :
    t = .sport ∧ next = fun _ => .done := by
  rcases pending_interleaved sdk ls t with hp | ⟨op, -, hp⟩ | ⟨ht, m, hp | hp⟩
  · simp [hp] at h
  · simp [hp, Prog.one] at h
  · simp [hp, handleMoveSteps] at h
  · simp only [hp, Prog.one, Prog.call.injEq] at h
    exact ⟨ht, h.2.symm⟩

/-- No reset is made while the sport thread is between the two steps of `HandleMove`. -/
def NoResetInside (c : CmdVelPool K) (l : Label Thread CmdVelOp Time) : Prop :=
  ∀ p, c.prog .sport = .one (.acceptMove p) → ∀ e, l ≠ .advance .reset e

/-- The invariant behind it: between the two steps the joints are unlocked. -/
structure UnlockedInside (c : CmdVelPool K) : Prop where
  pending : ∀ t, Pending t (c.prog t)
  unlocked : ∀ p, c.prog .sport = .one (.acceptMove p) → c.state.jointsLocked = false

/-- The two operations of the other threads that are not resets leave the lock alone. -/
theorem apply_jointsLocked_of_thread {op : CmdVelOp} (hsport : callThread op ≠ .sport)
    (hreset : callThread op ≠ .reset) (now : Time) (s : CmdVelPublisher K) :
    (s.apply sdk now op).1.jointsLocked = s.jointsLocked := by
  refine (congrArg Settings.jointsLocked (settings_apply s sdk now op)).trans ?_
  cases op with
  | tick => rfl
  | setMotionModeName name => rfl
  | resetToDefaults => exact absurd rfl hreset
  | _ => exact absurd rfl hsport

/-- A step that does not bring a reset into a MOVE keeps the joints unlocked inside it.

**Proof sketch.** A job that starts stands before its lock test. A step of the sport thread reaches
the second half of a MOVE only through a lock test that found the joints unlocked. A step of another
thread leaves the lock alone unless it is a reset, which `NoResetInside` excludes there. -/
theorem unlockedInside_step {c : CmdVelPool K} {l : Label Thread CmdVelOp Time}
    (hc : UnlockedInside c) (hl : NoResetInside c l) :
    UnlockedInside ((cmdVelSystem sdk).step c l) := by
  refine ⟨System.step_threads (S := cmdVelSystem sdk) pending_callProgram
    (fun _ _ _ _ => pending_next) hc.pending l, ?_⟩
  intro p hp
  rcases System.step_cases (S := cmdVelSystem sdk) (c := c) l with
    h | ⟨job, -, hdone, h⟩ | ⟨t, e, i, next, rfl, hprog, h⟩
  · rw [h] at hp ⊢
    exact hc.unlocked p hp
  · -- A job that starts is not yet past the lock test.
    rw [h] at hp ⊢
    by_cases ht : Thread.sport = callThread job
    · simp only [cmdVelSystem, ← ht, Function.update_self] at hp
      exact absurd hp (callProgram_ne_acceptMove job p)
    · exact hc.unlocked p (by simpa [cmdVelSystem, ht] using hp)
  · rw [h] at hp ⊢
    by_cases ht : t = .sport
    · -- The sport thread itself can only have made the lock test.
      subst ht
      simp only [Function.update_self] at hp
      rcases hc.pending .sport with hpend | ⟨op, -, hpend⟩ | ⟨-, m, hpend | hpend⟩
      · simp [hprog] at hpend
      · simp only [hprog, Prog.one, Prog.call.injEq] at hpend
        simp [hpend.2, Prog.one] at hp
      · simp only [hprog, handleMoveSteps, Prog.call.injEq] at hpend
        obtain ⟨rfl, rfl⟩ := hpend
        cases hlock : c.state.jointsLocked
        · exact hlock
        · simp [hlock, Prog.one] at hp
      · simp only [hprog, Prog.one, Prog.call.injEq] at hpend
        simp [hpend.2, Prog.one] at hp
    · -- Another thread leaves the lock alone unless it resets.
      have hp' : c.prog .sport = .one (.acceptMove p) := by
        simpa [Function.update_of_ne (Ne.symm ht)] using hp
      have hunlocked := hc.unlocked p hp'
      rcases hc.pending t with hpend | ⟨op, hop, hpend⟩ | ⟨hsport, -⟩
      · simp [hprog] at hpend
      · simp only [hprog, Prog.one, Prog.call.injEq] at hpend
        obtain ⟨rfl, -⟩ := hpend
        have hreset : t ≠ .reset := by
          rintro rfl
          exact hl p hp' e rfl
        show ((c.state.apply sdk e op).1).jointsLocked = false
        rw [apply_jointsLocked_of_thread sdk (hop ▸ ht) (hop ▸ hreset), hunlocked]
      · exact absurd hsport ht

/-- Runs in which no reset falls between the two steps of a `HandleMove` find the joints
unlocked at each second step. -/
theorem along_acceptsUnlocked {ls : List (Label Thread CmdVelOp Time)}
    (h : Along (cmdVelSystem sdk).step NoResetInside (Pool.idle init) ls) :
    Along (cmdVelSystem sdk).step AcceptsUnlocked (Pool.idle init) ls := by
  refine along_of_invariant _ (Q := UnlockedInside)
    (fun c l => unlockedInside_step sdk) ?_ ⟨fun _ => Or.inl rfl, ?_⟩ h
  · rintro c l hc - t e p next rfl hprog
    rcases hc.pending t with hpend | ⟨op, -, hpend⟩ | ⟨rfl, m, hpend | hpend⟩
    · simp [hprog] at hpend
    · simp [hprog, Prog.one] at hpend
    · simp [hprog, handleMoveSteps] at hpend
    · exact hc.unlocked m hpend
  · intro p hp
    simp [Pool.idle, Prog.one] at hp

/-- A step with unlocked joints where it matters keeps the publisher consistent.

**Proof sketch.** A whole operation keeps fields and messages in agreement by `Consistent.apply`,
and the lock test changes nothing. The second half of a MOVE is, with unlocked joints, the whole of
it, by `acceptMove_eq_apply`. -/
theorem consistent_step [IsStrictOrderedRing K] [LawfulHypot K] {c : CmdVelPool K}
    {l : Label Thread CmdVelOp Time} (hc : Consistent c.state c.trace)
    (hl : AcceptsUnlocked c l) :
    Consistent ((cmdVelSystem sdk).step c l).state ((cmdVelSystem sdk).step c l).trace := by
  rcases System.step_cases (S := cmdVelSystem sdk) (c := c) l with
    h | ⟨job, -, -, h⟩ | ⟨t, e, i, next, rfl, hprog, h⟩
  · rwa [h]
  · rw [h]
    exact hc
  · rw [h]
    cases i with
    | op op => exact hc.apply sdk e op
    | checkLocked => simpa [cmdVelSystem, callStep] using hc
    | acceptMove p =>
      have hunlocked := hl t e p next rfl hprog
      have hmove := hc.apply sdk e (.handleMove p)
      rwa [← acceptMove_eq_apply sdk hunlocked] at hmove

end System

/-- **Locked joints and motion.** In every state of a run in which no `HandleMove` is in
progress locked joints mean no motion, if and only if every `HandleMove` of the run that passes
its lock test still finds the joints unlocked when it goes on.

**Proof sketch.** If some MOVE goes on with locked joints, its second half leaves the program idle
with a move active and the joints locked, which is no state of rest. If none does, every step keeps
`Consistent` by `consistent_step`, and a consistent state is at rest while locked. -/
theorem still_while_locked_iff (sdk : UnitreeSdk ℝ) (ls : List (Label Thread CmdVelOp Time)) :
    (∀ pre, pre <+: ls → ¬ InHandleMove (interleaved sdk pre) →
      StillIfLocked (interleaved sdk pre)) ↔
    Along (cmdVelSystem sdk).step AcceptsUnlocked (Pool.idle init) ls := by
  constructor
  · intro hstill
    rw [along_iff_forall_split]
    intro pre l post hsplit t e p next hl hprog
    subst hl
    change (interleaved sdk pre).prog t = _ at hprog
    obtain ⟨rfl, rfl⟩ := eq_of_prog_acceptMove sdk hprog
    by_contra hlocked
    change ¬ (interleaved sdk pre).state.jointsLocked = false at hlocked
    have hstep : interleaved sdk (pre ++ [.advance .sport e]) =
        (cmdVelSystem sdk).step (interleaved sdk pre) (.advance .sport e) := run_concat _ _ _ _
    rw [System.step_advance_of_call hprog] at hstep
    have hidle : ¬ InHandleMove (interleaved sdk (pre ++ [.advance .sport e])) := by
      rintro ⟨m, h | h⟩ <;> simp [hstep, handleMoveSteps, Prog.one] at h
    -- The second step of `HandleMove` went on with locked joints.
    have hafter := hstill _ ⟨post, by rw [hsplit]; simp⟩ hidle
    rw [StillIfLocked, hstep] at hafter
    have hactive := (hafter (by
      simpa [cmdVelSystem, callStep, acceptMove] using hlocked)).1
    simp [cmdVelSystem, callStep, acceptMove] at hactive
  · rintro halong pre ⟨post, rfl⟩ -
    rw [along_append] at halong
    have hcons : Consistent (interleaved sdk pre).state (interleaved sdk pre).trace :=
      run_induction_along (cmdVelSystem sdk).step
        (Q := fun c : CmdVelPool ℝ => Consistent c.state c.trace)
        (fun c l hc hl => consistent_step sdk hc hl) consistent_init halong.1
    exact fun hlocked => hcons.still_of_locked hlocked

/-- A reset between the two steps of a MOVE leaves the robot moving with locked joints, and
`Tick`, which returns early when the joints are locked, does not stop it.

**Proof sketch.** The run is evaluated step by step: its fields and its two messages are computed,
and the second message is `x = 1` limited to a positive cap, which is not zero. -/
theorem moves_while_locked :
    let ls : List (Label Thread CmdVelOp Time) :=
      [.start .unlockJoints, .advance .sport 0,
        .start (.handleMove "\x7b\"x\":1\x7d"), .advance .sport 0,
        .start .resetToDefaults, .advance .reset 0, .advance .sport 0,
        .start .tick, .advance .loop 5000000000]
    let c := interleaved (sampleSdk ℝ) ls
    ¬ InHandleMove c ∧ c.state.jointsLocked = true ∧ c.state.hasActiveMove = true ∧
      lastTwist c.trace ≠ 0 := by
  intro ls c
  have hv : parseMoveParameter (sampleSdk ℝ) "\x7b\"x\":1\x7d" =
      ⟨((1 : Int32).toInt : ℝ), 0, 0⟩ := rfl
  have hpos : (0 : ℝ) < aiLowMaxLinearSpeed := by norm_num [aiLowMaxLinearSpeed]
  have hend : c.prog .sport = .done ∧ c.state.jointsLocked = true ∧
      c.state.hasActiveMove = true ∧
      c.trace = [0] ++ [Twist.ofVelocity
        ((⟨((1 : Int32).toInt : ℝ), 0, 0⟩ : MoveVelocity ℝ).limit aiLowMaxLinearSpeed)] := by
    refine ⟨?_, ?_, ?_, ?_⟩ <;>
      simp [c, ls, interleaved, System.step, cmdVelSystem, callThread, callProgram,
        handleMoveSteps, Prog.one, Pool.idle, init, callStep, apply, unlockJoints,
        resetToDefaults, acceptMove, tick, applySpeedLimit_eq, hv]
  obtain ⟨hprog, hlocked, hactive, htrace⟩ := hend
  refine ⟨?_, hlocked, hactive, ?_⟩
  · rintro ⟨p, h | h⟩ <;> simp [hprog, handleMoveSteps, Prog.one] at h
  · rw [htrace, lastTwist_concat]
    simp [MoveVelocity.limit_eq_zero hpos, MoveVelocity.ext_iff]

end CmdVelPublisher

end SdkEventBridge
