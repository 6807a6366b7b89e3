import SdkEventBridge.Library.Run
import Mathlib.Logic.Function.Basic

set_option relaxedAutoImplicit false
set_option autoImplicit false

/-!
# Programs of atomic calls, run alone or interleaved

A `Prog σ ι` is a thread's program over a shared state `σ`: a tree of atomic calls `i : ι`, each
followed by a continuation that sees the state in which the call was made, so a call that only
reads is one whose continuation branches. What a call does is given once, by
`call : ε → σ → ι → σ × List ο` (`ε` is what the environment supplies at each call, such as a
clock reading), and read in two ways:

* `exec` runs a program without interruption;
* a `System` interleaves the calls of several threads, each thread running one program at a
  time, with no fairness assumption.

## Main definitions

* `Resumption.Prog`, `Prog.seq` — programs, sequencing.
* `Prog.Calls`, `Prog.Follows` — the calls a program can make, and those it makes in order.
* `Prog.lift` — a program on a part of a larger state.
* `Resumption.exec`, `visits` — the uninterrupted run, and the calls it makes.
* `Resumption.System`, `Pool`, `Label`, `System.step` — the interleaved semantics.

## Main results

* `Resumption.exec_seq`, `visits_seq` — the run of a sequence.
* `Resumption.System.run_threads` — a closed family of programs contains every thread's rest.
* `Resumption.System.run_solo` — a thread that is not interrupted behaves as `exec`.
* `Resumption.System.run_follows`, `abs_run_follows` — several calls of one thread.
-/

namespace Resumption

open Run

variable {σ ι ο ε τ κ : Type}

/-- A program of atomic calls. The continuation of a call receives the state in which the call
was made. -/
inductive Prog (σ ι : Type) : Type where
  | done : Prog σ ι
  | call (i : ι) (next : σ → Prog σ ι) : Prog σ ι

namespace Prog

/-- The program that makes one call. -/
def one (i : ι) : Prog σ ι := .call i fun _ => .done

/-- One program after another. -/
def seq : Prog σ ι → Prog σ ι → Prog σ ι
  | .done, q => q
  | .call i next, q => .call i fun s => (next s).seq q

/-- Nothing before a program changes nothing. -/
@[simp] theorem done_seq (q : Prog σ ι) : (done : Prog σ ι).seq q = q := rfl

/-- A sequence begins with the first call of its first program. -/
@[simp] theorem call_seq (i : ι) (next : σ → Prog σ ι) (q : Prog σ ι) :
    (call i next).seq q = call i fun s => (next s).seq q := rfl

/-- Nothing after a program changes nothing. -/
@[simp] theorem seq_done (p : Prog σ ι) : p.seq .done = p := by
  induction p with
  | done => rfl
  | call i next ih => simp [ih]

/-- Every call the program can make has the property `P`. -/
def Calls (P : ι → Prop) : Prog σ ι → Prop
  | .done => True
  | .call i next => P i ∧ ∀ s, (next s).Calls P

/-- A program that has ended makes no call. -/
@[simp] theorem calls_done (P : ι → Prop) : (done : Prog σ ι).Calls P := trivial

/-- The calls of a program are its first call and those of what can follow. -/
@[simp] theorem calls_call (P : ι → Prop) (i : ι) (next : σ → Prog σ ι) :
    (call i next).Calls P ↔ P i ∧ ∀ s, (next s).Calls P := Iff.rfl

/-- The only call of a single call. -/
@[simp] theorem calls_one (P : ι → Prop) (i : ι) : (one i : Prog σ ι).Calls P ↔ P i := by
  simp [one]

/-- A weaker property of the calls holds as well. -/
theorem Calls.mono {P Q : ι → Prop} (h : ∀ i, P i → Q i) {p : Prog σ ι} (hp : p.Calls P) :
    p.Calls Q := by
  induction p with
  | done => trivial
  | call i next ih => exact ⟨h i hp.1, fun s => ih s (hp.2 s)⟩

/-- The calls of a sequence are those of its parts. -/
theorem Calls.seq {P : ι → Prop} {p q : Prog σ ι} (hp : p.Calls P) (hq : q.Calls P) :
    (p.seq q).Calls P := by
  induction p with
  | done => exact hq
  | call i next ih => exact ⟨hp.1, fun s => ih s (hp.2 s)⟩

/-- In states that satisfy `I` the program makes the calls `is`, in order, and no others. -/
def Follows (I : σ → Prop) : List ι → Prog σ ι → Prop
  | [], p => p = .done
  | i :: is, p => ∃ next, p = .call i next ∧ ∀ s, I s → Follows I is (next s)

section Follows

variable {I J : σ → Prop} {is js : List ι} {p q : Prog σ ι}

/-- A program that makes no call has ended. -/
@[simp] theorem follows_nil : Follows I [] p ↔ p = .done := Iff.rfl

/-- A program that has ended makes no call. -/
@[simp] theorem follows_done : Follows I is (.done : Prog σ ι) ↔ is = [] := by
  cases is <;> simp [Follows]

/-- The first call made is the first of the list, and what follows it makes the others. -/
@[simp] theorem follows_cons_call {i j : ι} {next : σ → Prog σ ι} :
    Follows I (i :: is) (.call j next) ↔ j = i ∧ ∀ s, I s → Follows I is (next s) := by
  constructor
  · rintro ⟨next', h, hnext⟩
    obtain ⟨rfl, rfl⟩ := call.inj h
    exact ⟨rfl, hnext⟩
  · rintro ⟨rfl, hnext⟩
    exact ⟨next, rfl, hnext⟩

/-- A single call makes just that call. -/
theorem Follows.one (i : ι) : Follows I [i] (.one i) := by
  simp [Prog.one]

/-- A sequence makes the calls of its first part and then those of its second. -/
theorem Follows.seq (hp : Follows I is p) (hq : Follows I js q) :
    Follows I (is ++ js) (p.seq q) := by
  induction is generalizing p with
  | nil => rwa [follows_nil.mp hp]
  | cons i is ih =>
    obtain ⟨next, rfl, hnext⟩ := hp
    exact ⟨_, rfl, fun s hs => ih (hnext s hs)⟩

/-- What is made in all states of `I` is made in fewer states. -/
theorem Follows.mono (h : ∀ s, J s → I s) (hp : Follows I is p) : Follows J is p := by
  induction is generalizing p with
  | nil => exact hp
  | cons i is ih =>
    obtain ⟨next, rfl, hnext⟩ := hp
    exact ⟨next, rfl, fun s hs => ih (hnext s (h s hs))⟩

end Follows

/-! ### Programs on a part of the state -/

section Lift

variable {σ' ι' : Type} (f : ι → ι') (g : σ' → σ)

/-- The program on a state of which `g` is the part it knows, and `f` its calls. -/
def lift : Prog σ ι → Prog σ' ι'
  | .done => .done
  | .call i next => .call (f i) fun s => (next (g s)).lift

/-- A program that has ended, on a larger state. -/
@[simp] theorem lift_done : (done : Prog σ ι).lift f g = .done := rfl

/-- A call of a lifted program, with what follows it. -/
@[simp] theorem lift_call (i : ι) (next : σ → Prog σ ι) :
    (call i next).lift f g = .call (f i) fun s => (next (g s)).lift f g := rfl

/-- Lifting neither ends a program nor begins one. -/
theorem lift_eq_done_iff {p : Prog σ ι} : p.lift f g = .done ↔ p = .done := by
  cases p <;> simp

/-- The first call of a lifted program is the first call of the program. -/
theorem lift_seq_eq_call {p : Prog σ ι} {q : Prog σ' ι'} {j : ι'} {next : σ' → Prog σ' ι'}
    (h : (p.lift f g).seq q = .call j next) :
    (p = .done ∧ q = .call j next) ∨
      ∃ i rest, p = .call i rest ∧ j = f i ∧ next = fun s => ((rest (g s)).lift f g).seq q := by
  cases p with
  | done => exact Or.inl ⟨rfl, h⟩
  | call i rest =>
    obtain ⟨rfl, rfl⟩ := call.inj h
    exact Or.inr ⟨i, rest, rfl, rfl, rfl⟩

end Lift

end Prog

/-! ## Uninterrupted runs -/

section Exec

variable (call : ε → σ → ι → σ × List ο) (e : ε)

/-- Run a program to its end, nothing coming in between. -/
def exec : Prog σ ι → σ → σ × List ο
  | .done, s => (s, [])
  | .call i next, s =>
    ((exec (next s) (call e s i).1).1, (call e s i).2 ++ (exec (next s) (call e s i).1).2)

/-- A program that has ended changes and emits nothing. -/
@[simp] theorem exec_done (s : σ) : exec call e .done s = (s, []) := rfl

/-- Running a call and then what follows it. -/
@[simp] theorem exec_call (i : ι) (next : σ → Prog σ ι) (s : σ) :
    exec call e (.call i next) s =
      ((exec call e (next s) (call e s i).1).1,
        (call e s i).2 ++ (exec call e (next s) (call e s i).1).2) := rfl

/-- Running a single call is making it. -/
@[simp] theorem exec_one (i : ι) (s : σ) : exec call e (.one i) s = call e s i := by
  simp [Prog.one]

/-- Running `p` and then `q` is running their sequence.

**Proof sketch.** Induction on the first program; its calls come first in both runs. -/
theorem exec_seq (p q : Prog σ ι) (s : σ) :
    exec call e (p.seq q) s =
      ((exec call e q (exec call e p s).1).1,
        (exec call e p s).2 ++ (exec call e q (exec call e p s).1).2) := by
  induction p generalizing s with
  | done => simp
  | call i next ih => simp [ih]

/-- The calls an uninterrupted run makes, each with the state it is made in and with what was
emitted by then. -/
def visits : Prog σ ι → Recorded σ ο → List (Recorded σ ο × ι)
  | .done, _ => []
  | .call i next, r =>
    (r, i) :: visits (next r.state) ⟨(call e r.state i).1, r.trace ++ (call e r.state i).2⟩

/-- A program that has ended visits nothing. -/
@[simp] theorem visits_done (r : Recorded σ ο) : visits call e (.done : Prog σ ι) r = [] := rfl

/-- The first visit is the first call, in the state it finds. -/
@[simp] theorem visits_call (i : ι) (next : σ → Prog σ ι) (r : Recorded σ ο) :
    visits call e (.call i next) r =
      (r, i) :: visits call e (next r.state)
        ⟨(call e r.state i).1, r.trace ++ (call e r.state i).2⟩ := rfl

/-- A single call is the only visit. -/
@[simp] theorem visits_one (i : ι) (r : Recorded σ ο) :
    visits call e (.one i) r = [(r, i)] := rfl

/-- The calls of a sequence are those of the first program and then those of the second.

**Proof sketch.** Induction on the first program; its calls are visited first, and the second
program begins in the state and with the trace that `exec` of the first leads to. -/
theorem visits_seq (p q : Prog σ ι) (r : Recorded σ ο) :
    visits call e (p.seq q) r =
      visits call e p r ++
        visits call e q ⟨(exec call e p r.state).1, r.trace ++ (exec call e p r.state).2⟩ := by
  induction p generalizing r with
  | done => simp
  | call i next ih => simp [ih]

/-- Every call made is one the program can make. -/
theorem Prog.Calls.of_mem_visits {P : ι → Prop} {p : Prog σ ι} (hp : p.Calls P)
    {r v : Recorded σ ο} {i : ι} (h : (v, i) ∈ visits call e p r) : P i := by
  induction p generalizing r with
  | done => simp at h
  | call j next ih =>
    rw [visits_call, List.mem_cons] at h
    rcases h with h | h
    · obtain ⟨-, rfl⟩ := Prod.mk.inj h
      exact hp.1
    · exact ih r.state (hp.2 r.state) h

end Exec

/-! ## Interleaved runs -/

/-- Threads `τ` that run programs of calls on one shared state, each program belonging to a job
of the thread it runs on. -/
structure System (τ κ ε σ ι ο : Type) where
  call : ε → σ → ι → σ × List ο
  thread : κ → τ
  program : κ → Prog σ ι

/-- A moment of an interleaved run: the shared state, what was emitted so far, and what each
thread still has to do. -/
structure Pool (τ σ ι ο : Type) where
  state : σ
  trace : List ο
  prog : τ → Prog σ ι

/-- All threads idle and nothing emitted yet. -/
def Pool.idle (s : σ) : Pool τ σ ι ο := { state := s, trace := [], prog := fun _ => .done }

/-- A scheduler's choice: an idle thread starts a job, or a thread makes its next call. -/
inductive Label (τ κ ε : Type) where
  | start (job : κ)
  | advance (t : τ) (e : ε)

namespace System

variable [DecidableEq τ] (S : System τ κ ε σ ι ο)

/-- One step of the interleaving. A label that is not enabled (starting a job on a busy thread,
advancing an idle one) changes nothing. -/
def step (c : Pool τ σ ι ο) : Label τ κ ε → Pool τ σ ι ο
  | .start job =>
    match c.prog (S.thread job) with
    | .done => { c with prog := Function.update c.prog (S.thread job) (S.program job) }
    | .call _ _ => c
  | .advance t e =>
    match c.prog t with
    | .done => c
    | .call i next =>
      { state := (S.call e c.state i).1
        trace := c.trace ++ (S.call e c.state i).2
        prog := Function.update c.prog t (next c.state) }

variable {S} {c : Pool τ σ ι ο}

/-- An idle thread begins the program of the job. -/
theorem step_start_of_done {job : κ} (h : c.prog (S.thread job) = .done) :
    S.step c (.start job) =
      { c with prog := Function.update c.prog (S.thread job) (S.program job) } := by
  simp only [step, h]

/-- A busy thread begins nothing. -/
theorem step_start_of_call {job : κ} {i : ι} {next : σ → Prog σ ι}
    (h : c.prog (S.thread job) = .call i next) : S.step c (.start job) = c := by
  simp only [step, h]

/-- An idle thread has no call to make. -/
theorem step_advance_of_done {t : τ} {e : ε} (h : c.prog t = .done) :
    S.step c (.advance t e) = c := by
  simp only [step, h]

/-- A busy thread makes its next call, and goes on with what follows it. -/
theorem step_advance_of_call {t : τ} {e : ε} {i : ι} {next : σ → Prog σ ι}
    (h : c.prog t = .call i next) :
    S.step c (.advance t e) =
      { state := (S.call e c.state i).1
        trace := c.trace ++ (S.call e c.state i).2
        prog := Function.update c.prog t (next c.state) } := by
  simp only [step, h]

/-- What a step can do: nothing, start a job on an idle thread, or make one call. -/
theorem step_cases (l : Label τ κ ε) :
    S.step c l = c ∨
    (∃ job, l = .start job ∧ c.prog (S.thread job) = .done ∧
      S.step c l = { c with prog := Function.update c.prog (S.thread job) (S.program job) }) ∨
    ∃ t e i next, l = .advance t e ∧ c.prog t = .call i next ∧
      S.step c l =
        { state := (S.call e c.state i).1
          trace := c.trace ++ (S.call e c.state i).2
          prog := Function.update c.prog t (next c.state) } := by
  cases l with
  | start job =>
    cases h : c.prog (S.thread job) with
    | done => exact Or.inr (Or.inl ⟨job, rfl, h, step_start_of_done h⟩)
    | call i next => exact Or.inl (step_start_of_call h)
  | advance t e =>
    cases h : c.prog t with
    | done => exact Or.inl (step_advance_of_done h)
    | call i next =>
      exact Or.inr (Or.inr ⟨t, e, i, next, rfl, h, step_advance_of_call h⟩)

section Threads

variable {R : τ → Prog σ ι → Prop} (hjob : ∀ job, R (S.thread job) (S.program job))
  (hrest : ∀ t i next s, R t (.call i next) → R t (next s))

include hjob hrest

/-- If `R t` contains every program started on thread `t` and with a program every rest of it,
then a step keeps what the threads still have to do in `R`.

**Proof sketch.** Look at what the step does. A job that starts puts its program on its thread, a
call leaves what follows it on its thread, and every other thread is as before. -/
theorem step_threads (hc : ∀ t, R t (c.prog t)) (l : Label τ κ ε) (t : τ) :
    R t ((S.step c l).prog t) := by
  rcases step_cases (S := S) (c := c) l with h | ⟨job, -, hd, h⟩ | ⟨u, e, i, next, -, hu, h⟩
  · rw [h]; exact hc t
  · rw [h]
    by_cases ht : t = S.thread job
    · subst ht; simpa using hjob job
    · simpa [ht] using hc t
  · rw [h]
    by_cases ht : t = u
    · subst ht
      simpa using hrest t i next c.state (hu ▸ hc t)
    · simpa [ht] using hc t

/-- **Thread-local invariants.** Such an `R` contains what the threads still have to do at every
moment of every run.

**Proof sketch.** Each step keeps `R` on all threads (`step_threads`); induction on the run. -/
theorem run_threads (hc : ∀ t, R t (c.prog t)) (ls : List (Label τ κ ε)) (t : τ) :
    R t ((run S.step c ls).prog t) :=
  run_induction S.step (Q := fun c => ∀ t, R t (c.prog t))
    (fun _ l hc => step_threads hjob hrest hc l) hc ls t

end Threads

/-- **A thread that is not interrupted** makes the calls of its program as `exec` does, in a
finite number of steps.

**Proof sketch.** Induction on the program: each call is one step, and what follows it is on the
thread after that step. -/
theorem run_solo (t : τ) (e : ε) (p : Prog σ ι) (c : Pool τ σ ι ο) (hp : c.prog t = p) :
    ∃ n, run S.step c (List.replicate n (.advance t e)) =
      { state := (exec S.call e p c.state).1
        trace := c.trace ++ (exec S.call e p c.state).2
        prog := Function.update c.prog t .done } := by
  induction p generalizing c with
  | done =>
    refine ⟨0, ?_⟩
    have hprog : Function.update c.prog t .done = c.prog := by rw [← hp]; simp
    simp [hprog]
  | call i next ih =>
    have hstep := step_advance_of_call (S := S) (e := e) hp
    obtain ⟨n, hn⟩ := ih c.state (S.step c (.advance t e)) (by rw [hstep]; simp)
    refine ⟨n + 1, ?_⟩
    rw [List.replicate_succ, run_cons, hn, hstep]
    simp

section Follows

variable {I : σ → Prop} {t : τ}

/-- One step of a thread that follows a list of calls. -/
theorem step_follows {i : ι} {is : List ι} {e : ε} (hc : I c.state)
    (hp : (c.prog t).Follows I (i :: is)) :
    (S.step c (.advance t e)).state = (S.call e c.state i).1 ∧
      ((S.step c (.advance t e)).prog t).Follows I is ∧
      ∀ u, u ≠ t → (S.step c (.advance t e)).prog u = c.prog u := by
  obtain ⟨next, hprog, hnext⟩ := hp
  rw [step_advance_of_call hprog]
  exact ⟨rfl, by simpa using hnext c.state hc, fun u hu => by simp [hu]⟩

/-- **Several calls of one thread.** A thread that follows `is` in states that satisfy `I`, and
whose calls keep `I`, has made the first `n` of them after `n` steps.

**Proof sketch.** Induction on the steps. With calls left the step makes the first of them
(`step_follows`), which keeps `I`; with none left it changes nothing. -/
theorem run_follows {is : List ι} (hI : ∀ e s, ∀ i ∈ is, I s → I (S.call e s i).1)
    (hc : I c.state) (hp : (c.prog t).Follows I is) (es : List ε) :
    let c' := run S.step c (es.map (.advance t))
    I c'.state ∧ (c'.prog t).Follows I (is.drop es.length) ∧
      ∀ u, u ≠ t → c'.prog u = c.prog u := by
  induction es generalizing c is with
  | nil => exact ⟨hc, by simpa using hp, fun _ _ => rfl⟩
  | cons e es ih =>
    cases is with
    | nil =>
      -- Nothing is left to do, and the step changes nothing.
      have hrest := ih hI hc hp
      rw [List.map_cons, run_cons, step_advance_of_done hp]
      simpa using hrest
    | cons i is =>
      obtain ⟨hstate, hprog, hothers⟩ := step_follows (S := S) (e := e) hc hp
      have hc' : I (S.step c (.advance t e)).state := hstate ▸ hI e c.state i (by simp) hc
      obtain ⟨hinv, hfollows, hothers'⟩ := ih (fun e s j hj => hI e s j (by simp [hj])) hc' hprog
      exact ⟨hinv, hfollows, fun u hu => (hothers' u hu).trans (hothers u hu)⟩

/-- If what a call does to `f` of the state depends on that alone, the first `n` calls have acted
on it one after another.

**Proof sketch.** Induction on the steps, as in `run_follows`; the call made at each step acts on
`f` of the state. -/
theorem abs_run_follows {β : Type} (f : σ → β) (act : β → ι → β)
    (hact : ∀ e s i, f (S.call e s i).1 = act (f s) i) {is : List ι}
    (hI : ∀ e s, ∀ i ∈ is, I s → I (S.call e s i).1) (hc : I c.state)
    (hp : (c.prog t).Follows I is) (es : List ε) :
    f (run S.step c (es.map (.advance t))).state =
      (is.take es.length).foldl act (f c.state) := by
  induction es generalizing c is with
  | nil => rfl
  | cons e es ih =>
    cases is with
    | nil =>
      have hrest := ih hI hc hp
      rw [List.map_cons, run_cons, step_advance_of_done hp]
      simpa using hrest
    | cons i is =>
      obtain ⟨hstate, hprog, -⟩ := step_follows (S := S) (e := e) hc hp
      have hc' : I (S.step c (.advance t e)).state := hstate ▸ hI e c.state i (by simp) hc
      rw [List.map_cons, run_cons, ih (fun e s j hj => hI e s j (by simp [hj])) hc' hprog, hstate,
        hact]
      rfl

end Follows

end System

end Resumption
