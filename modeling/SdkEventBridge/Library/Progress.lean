import SdkEventBridge.Library.Ledger

set_option relaxedAutoImplicit false
set_option autoImplicit false

/-!
# Progress of a thread

A thread of an interleaved run is never blocked: whatever the other threads do, every step it is
given makes the next call of its program. So a program that makes at most `n` calls has ended after
`n` steps of its thread, and what it owes has been paid by then.

## Main definitions

* `Resumption.Prog.Within` — a program makes at most `n` calls.
* `Resumption.advances` — how often a thread is given a step.

## Main results

* `Resumption.System.exists_done` — a bounded program comes to its end.
* `Resumption.System.job_done` — a job comes to its end, and its debt has been paid.
-/

namespace Resumption

open Run

variable {σ ι ο ε τ κ α : Type}

namespace Prog

/-- The program makes at most `n` calls. -/
def Within : ℕ → Prog σ ι → Prop
  | _, .done => True
  | 0, .call _ _ => False
  | n + 1, .call _ next => ∀ s, (next s).Within n

section Within

variable {n m : ℕ} {p q : Prog σ ι}

/-- A program that has ended is within every bound. -/
@[simp] theorem within_done : (.done : Prog σ ι).Within n := by
  cases n <;> trivial

/-- A call uses up one of the calls allowed, whatever state it is made in. -/
@[simp] theorem within_call {i : ι} {next : σ → Prog σ ι} :
    (Prog.call i next).Within (n + 1) ↔ ∀ s, (next s).Within n := Iff.rfl

/-- A single call is within every positive bound. -/
@[simp] theorem within_one (i : ι) : (Prog.one i : Prog σ ι).Within (n + 1) := by
  simp [Prog.one]

/-- A program that may make no call has ended. -/
theorem Within.eq_done (h : p.Within 0) : p = .done := by
  cases p with
  | done => rfl
  | call i next => exact absurd h id

/-- A larger bound holds as well. -/
theorem Within.mono (h : p.Within n) (hle : n ≤ m) : p.Within m := by
  induction p generalizing n m with
  | done => exact within_done
  | call i next ih =>
    cases n with
    | zero => exact absurd h id
    | succ n =>
      obtain ⟨m, rfl⟩ : ∃ m', m = m' + 1 := ⟨m - 1, by omega⟩
      exact fun s => ih s (h s) (by omega)

/-- The bounds of a sequence add up.

**Proof sketch.** Induction on the first program; each of its calls uses up one of its own share. -/
theorem Within.seq (hp : p.Within n) (hq : q.Within m) : (p.seq q).Within (n + m) := by
  induction p generalizing n with
  | done => exact hq.mono (by omega)
  | call i next ih =>
    cases n with
    | zero => exact absurd hp id
    | succ n =>
      rw [Nat.add_right_comm]
      exact fun s => ih s (hp s)

/-- Lifting a program to a larger state keeps its bound. -/
theorem Within.lift {σ' ι' : Type} (h : p.Within n) (f : ι → ι') (g : σ' → σ) :
    (p.lift f g).Within n := by
  induction p generalizing n with
  | done => exact within_done
  | call i next ih =>
    cases n with
    | zero => exact absurd h id
    | succ n => exact fun s => ih (g s) (h (g s))

end Within

end Prog

section Advances

variable [DecidableEq τ]

/-- How often the thread is given a step. -/
def advances (t : τ) (ls : List (Label τ κ ε)) : ℕ :=
  ls.countP fun l =>
    match l with
    | .start _ => false
    | .advance u _ => decide (u = t)

variable {t : τ} {ls : List (Label τ κ ε)}

/-- No step is given in an empty schedule. -/
@[simp] theorem advances_nil : advances t ([] : List (Label τ κ ε)) = 0 := rfl

/-- Starting a job is not a step of a thread. -/
@[simp] theorem advances_start (job : κ) : advances t (.start job :: ls) = advances t ls := by
  simp [advances]

/-- A step of the thread counts. -/
@[simp] theorem advances_self (e : ε) :
    advances t (.advance t e :: ls) = advances t ls + 1 := by
  simp [advances]

/-- A step of another thread does not count. -/
theorem advances_of_ne {u : τ} (hu : u ≠ t) (e : ε) :
    advances t (.advance u e :: ls) = advances t ls := by
  simp [advances, hu]

end Advances

namespace System

variable [DecidableEq τ] {S : System τ κ ε σ ι ο} {c : Pool τ σ ι ο} {t : τ}

/-- **A bounded program comes to its end**, whatever the other threads do in the meantime, and
until then its thread begins nothing else.

**Proof sketch.** Induction on the schedule, for all bounds. Unless the thread has ended already,
look at the first step: a step of the thread makes one call and uses up one of the bound, and every
other step, also one that is not enabled, leaves its program and its share of the schedule as they
are. A job cannot start on the thread, which is busy. -/
theorem exists_done {n : ℕ} (hp : (c.prog t).Within n) (ls : List (Label τ κ ε))
    (hn : n ≤ advances t ls) :
    ∃ pre, pre <+: ls ∧ (run S.step c pre).prog t = .done ∧
      ∀ job, .started job ∈ S.log c pre → S.thread job ≠ t := by
  induction ls generalizing c n with
  | nil =>
    obtain rfl : n = 0 := by simpa using hn
    exact ⟨[], List.prefix_rfl, hp.eq_done, by simp⟩
  | cons l ls ih =>
    cases hprog : c.prog t with
    | done => exact ⟨[], List.nil_prefix, hprog, by simp⟩
    | call i next =>
      -- It is enough to find the end after the first step.
      have hlift : ∀ m, ((S.step c l).prog t).Within m → m ≤ advances t ls →
          (∀ job, S.event c l = some (.started job) → S.thread job ≠ t) →
          ∃ pre, pre <+: l :: ls ∧ (run S.step c pre).prog t = .done ∧
            ∀ job, .started job ∈ S.log c pre → S.thread job ≠ t := by
        intro m hm hle hev
        obtain ⟨pre, hpre, hdone, hstarted⟩ := ih hm hle
        refine ⟨l :: pre, List.prefix_cons_inj l |>.mpr hpre, hdone, fun job hjob => ?_⟩
        rw [log, List.mem_append, Option.mem_toList] at hjob
        exact hjob.elim (hev job) (hstarted job)
      rcases step_event_cases (S := S) (c := c) l with
        ⟨hev, hstep⟩ | ⟨job, rfl, hidle, hev, hstep⟩ | ⟨u, e, j, next', rfl, hu, hev, hstep⟩
      · -- The label is not enabled, so it is no step of this thread.
        refine hlift n (by rw [hstep]; exact hp) ?_ fun job hjob => by simp [hev] at hjob
        cases l with
        | start job => simpa using hn
        | advance u e =>
          by_cases hut : u = t
          · subst hut
            simp only [event, hprog] at hev
            exact absurd hev (by simp)
          · rwa [advances_of_ne hut] at hn
      · have hne : t ≠ S.thread job := by
          rintro rfl
          exact absurd hidle (by simp [hprog])
        refine hlift n ?_ (by simpa using hn) fun job' hjob' => ?_
        · rw [hstep]
          simpa [Function.update_of_ne hne] using hp
        · rw [hev] at hjob'
          obtain rfl : job = job' := by simpa using hjob'
          exact Ne.symm hne
      · by_cases hut : u = t
        · subst hut
          rw [hprog] at hp
          obtain ⟨m, rfl⟩ : ∃ m, n = m + 1 := by
            cases n with
            | zero => exact absurd hp id
            | succ m => exact ⟨m, rfl⟩
          obtain ⟨rfl, rfl⟩ := Prog.call.inj (hprog.symm.trans hu)
          rw [advances_self] at hn
          refine hlift m ?_ (by omega) fun job hjob => by simp [hev] at hjob
          rw [hstep]
          simpa using hp c.state
        · rw [advances_of_ne hut] at hn
          refine hlift n ?_ hn fun job hjob => by simp [hev] at hjob
          rw [hstep]
          simpa [Function.update_of_ne (Ne.symm hut)] using hp

/-- **A job comes to its end.** Once an idle thread has begun a job of at most `n` calls and is
given `n` steps, the job has ended at some moment, and exactly what it owes has been paid on behalf
of the thread by then.

**Proof sketch.** The program of the job is within the bound, so it comes to its end before its
thread begins another job (`exists_done`). The balance of the thread (`balance`) at that moment has
nothing due, and the only charge is that of the job. -/
theorem job_done {pay : ι → List α} {owed : κ → List α}
    (hjob : ∀ job, S.thread job = t → (S.program job).Settles pay (fun _ _ => []) (owed job))
    (hidle : c.prog t = .done) {job : κ} (hthread : S.thread job = t) {n : ℕ}
    (hn : (S.program job).Within n) (ls : List (Label τ κ ε)) (hle : n ≤ advances t ls) :
    ∃ pre, pre <+: ls ∧ (run S.step c (.start job :: pre)).prog t = .done ∧
      (S.log c (.start job :: pre)).flatMap (payment pay t) = owed job := by
  have hstart := step_start_of_done (S := S) (c := c) (hthread ▸ hidle)
  have hbegun : ((S.step c (.start job)).prog t).Within n := by
    rw [hstart, hthread]
    simpa using hn
  obtain ⟨pre, hpre, hdone, hstarted⟩ := exists_done (S := S) hbegun ls hle
  refine ⟨pre, hpre, hdone, ?_⟩
  obtain ⟨due, hsettles, hbalance, -⟩ := balance hjob hidle (.start job :: pre)
  have hnil : due = [] := by
    have hdone' : (run S.step c (.start job :: pre)).prog t = .done := hdone
    rwa [hdone', Prog.settles_done] at hsettles
  have hev : S.event c (.start job) = some (.started job) := by
    simp only [event, hthread, hidle]
  have hrest : (S.log (S.step c (.start job)) pre).flatMap
      (S.charge (fun _ _ => []) owed t) = [] := by
    rw [List.flatMap_eq_nil_iff]
    intro ev hmem
    cases ev with
    | started job' => exact if_neg (hstarted job' hmem)
    | called u e s i => simp [charge]
  rw [hnil, List.append_nil] at hbalance
  rw [hbalance, log, hev, List.flatMap_append, hrest]
  simp [charge, hthread]

end System

end Resumption
