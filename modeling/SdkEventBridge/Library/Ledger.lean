import SdkEventBridge.Library.Resumption

set_option relaxedAutoImplicit false
set_option autoImplicit false

/-!
# What happened in an interleaved run

The labels of a run are choices, and some of them are not enabled. The *log* of a run lists what
really happened: the jobs that were started, and the calls that were made, each with the state it
was made in. Two general facts about a run can be read off its log.

* An *object* is a component of the shared state on which the calls act as a machine does. In
  every interleaving it goes through a run of that machine, on the calls in the order of the log.
* An *account* of a thread lists what the thread still has to emit. Starting a job charges the
  account, and so may a call, whose answer is to be emitted later; every call pays what it emits.
  In every interleaving what was paid and what is still due make up what was charged, in order.

## Main definitions

* `Resumption.Prog.Settles` — a program that pays what is due, in order, and then ends.
* `Resumption.Event`, `System.event`, `System.log` — what a label makes happen, and the log.
* `Resumption.System.IsObject` — a component of the state that is a machine.
* `Resumption.System.payment`, `System.charge`, `System.account` — accounts.

## Main results

* `Resumption.System.IsObject.recorded_log` — the run of an object.
* `Resumption.System.balance` — what was paid, what is due and what was charged.
* `Resumption.System.emitted_by_jobs` — what the jobs of a thread have emitted.
-/

namespace Resumption

open Run

variable {σ ι ο ε τ κ α β μ ω : Type}

/-! ## Programs that pay what is due -/

namespace Prog

/-- The program pays the items `due`, in order, and ends when nothing is due. A call pays
`pay i`; it may add to what is due, depending on the state it is made in. -/
def Settles (pay : ι → List α) (debt : σ → ι → List α) : Prog σ ι → List α → Prop
  | .done, due => due = []
  | .call i next, due =>
    ∃ rest, due = pay i ++ rest ∧ ∀ s, (next s).Settles pay debt (rest ++ debt s i)

section Settles

variable {pay : ι → List α} {debt : σ → ι → List α} {due due' : List α} {p q : Prog σ ι}

/-- A program that has ended settles nothing. -/
@[simp] theorem settles_done : (.done : Prog σ ι).Settles pay debt due ↔ due = [] := Iff.rfl

/-- A call that adds nothing to what is due. -/
theorem Settles.call {i : ι} {next : σ → Prog σ ι} (hdebt : ∀ s, debt s i = [])
    (h : ∀ s, (next s).Settles pay debt due) :
    (Prog.call i next).Settles pay debt (pay i ++ due) :=
  ⟨due, rfl, fun s => by rw [hdebt, List.append_nil]; exact h s⟩

/-- A call that incurs no debt settles what it pays. -/
theorem Settles.one {i : ι} (hdebt : ∀ s, debt s i = []) :
    (Prog.one i : Prog σ ι).Settles pay debt (pay i) := by
  have h : (Prog.one i : Prog σ ι).Settles pay debt (pay i ++ []) :=
    Settles.call hdebt fun _ => settles_done.mpr rfl
  rwa [List.append_nil] at h

/-- What is due is determined by the program.

**Proof sketch.** Induction on the program. Both dues begin with what the first call pays, and what
follows it in some state determines the rest. -/
theorem Settles.unique [Nonempty σ] (hp : p.Settles pay debt due)
    (hp' : p.Settles pay debt due') : due = due' := by
  induction p generalizing due due' with
  | done =>
    obtain rfl : due = [] := hp
    exact (show due' = [] from hp').symm
  | call i next ih =>
    obtain ⟨rest, rfl, hrest⟩ := hp
    obtain ⟨rest', rfl, hrest'⟩ := hp'
    obtain ⟨s⟩ := ‹Nonempty σ›
    have hsame := ih s (hrest s) (hrest' s)
    rw [List.append_cancel_right hsame]

/-- A program whose calls neither pay nor add anything. -/
theorem settles_nil (h : p.Calls fun i => pay i = [] ∧ ∀ s, debt s i = []) :
    p.Settles pay debt [] := by
  induction p with
  | done => rfl
  | call i next ih =>
    have hcall := Settles.call h.1.2 fun s => ih s (h.2 s)
    rwa [h.1.1] at hcall

/-- Nothing is due from a program that pays nothing. -/
theorem Settles.eq_nil [Nonempty σ] (h : p.Settles pay (fun _ _ => []) due)
    (hcalls : p.Calls fun i => pay i = []) : due = [] :=
  h.unique (settles_nil (hcalls.mono fun _ hi => ⟨hi, fun _ => rfl⟩))

/-- The items of one kind are settled too.

**Proof sketch.** Induction on the program; taking the items of one kind commutes with appending. -/
theorem Settles.filterMap (h : p.Settles pay debt due) (g : α → Option β) :
    p.Settles (fun i => (pay i).filterMap g) (fun s i => (debt s i).filterMap g)
      (due.filterMap g) := by
  induction p generalizing due with
  | done =>
    obtain rfl : due = [] := h
    rfl
  | call i next ih =>
    obtain ⟨rest, rfl, hrest⟩ := h
    refine ⟨rest.filterMap g, List.filterMap_append, fun s => ?_⟩
    rw [← List.filterMap_append]
    exact ih s (hrest s)

/-- One program after another, the first of which adds nothing.

**Proof sketch.** Induction on the first program. When it has ended its due has been paid, and the
second program begins with its own. -/
theorem Settles.seq (hp : p.Settles pay debt due) (hq : q.Settles pay debt due')
    (hdebt : p.Calls fun i => ∀ s, debt s i = []) :
    (p.seq q).Settles pay debt (due ++ due') := by
  induction p generalizing due with
  | done =>
    obtain rfl : due = [] := hp
    exact hq
  | call i next ih =>
    obtain ⟨rest, rfl, hrest⟩ := hp
    rw [List.append_assoc]
    refine Settles.call hdebt.1 fun s => ih s ?_ (hdebt.2 s)
    simpa [hdebt.1 s] using hrest s

end Settles

end Prog

/-! ## The log of a run -/

/-- What a label makes happen: a job begins, or a thread makes a call in some state. -/
inductive Event (τ κ ε σ ι : Type) where
  | started (job : κ)
  | called (t : τ) (e : ε) (s : σ) (i : ι)

namespace Event

/-- The job, if one began. -/
def job? : Event τ κ ε σ ι → Option κ
  | .started job => some job
  | .called _ _ _ _ => none

/-- What an observer of calls sees of the event. -/
def seen (view : ε → ι → Option μ) : Event τ κ ε σ ι → Option μ
  | .started _ => none
  | .called _ e _ i => view e i

/-- What the event shows, when it is a call. -/
def shown (shows : ε → σ → ι → List ω) : Event τ κ ε σ ι → List ω
  | .started _ => []
  | .called _ e s i => shows e s i

/-- What is shown of a log, seen through `g`. -/
theorem filterMap_flatMap_shown (g : ω → Option α) (shows : ε → σ → ι → List ω)
    (log : List (Event τ κ ε σ ι)) :
    (log.flatMap (shown shows)).filterMap g =
      log.flatMap (shown fun e s i => (shows e s i).filterMap g) := by
  rw [List.filterMap_flatMap]
  refine congrArg (fun f => List.flatMap f log) (funext fun ev => ?_)
  cases ev <;> rfl

/-- What is seen of a log, seen through `g`. -/
theorem filterMap_filterMap_seen (g : μ → Option α) (view : ε → ι → Option μ)
    (log : List (Event τ κ ε σ ι)) :
    (log.filterMap (seen view)).filterMap g =
      log.flatMap (shown fun e _ i => ((view e i).bind g).toList) := by
  rw [List.filterMap_filterMap, List.filterMap_eq_flatMap_toList]
  refine congrArg (fun f => List.flatMap f log) (funext fun ev => ?_)
  cases ev <;> rfl

end Event

/-- What the environment supplies with a label. -/
def Label.reading : Label τ κ ε → Option ε
  | .start _ => none
  | .advance _ e => some e

namespace System

variable [DecidableEq τ] (S : System τ κ ε σ ι ο)

/-- What a label makes happen, if it is enabled. -/
def event (c : Pool τ σ ι ο) : Label τ κ ε → Option (Event τ κ ε σ ι)
  | .start job =>
    match c.prog (S.thread job) with
    | .done => some (.started job)
    | .call _ _ => none
  | .advance t e =>
    match c.prog t with
    | .done => none
    | .call i _ => some (.called t e c.state i)

/-- What happens in the run from `c`, in order. -/
def log (c : Pool τ σ ι ο) : List (Label τ κ ε) → List (Event τ κ ε σ ι)
  | [] => []
  | l :: ls => (S.event c l).toList ++ log (S.step c l) ls

variable {S} {c : Pool τ σ ι ο}

/-- Nothing is logged before the first step. -/
@[simp] theorem log_nil : S.log c [] = [] := rfl

/-- The log of a run is the log of its first part, then that of the rest from where that part
ends. -/
theorem log_append (ls ms : List (Label τ κ ε)) :
    S.log c (ls ++ ms) = S.log c ls ++ S.log (run S.step c ls) ms := by
  induction ls generalizing c with
  | nil => rfl
  | cons l ls ih => simp [log, ih]

/-- One more step adds its event, if it has one, at the end of the log. -/
@[simp] theorem log_concat (ls : List (Label τ κ ε)) (l : Label τ κ ε) :
    S.log c (ls ++ [l]) = S.log c ls ++ (S.event (run S.step c ls) l).toList := by
  simp [log_append, log]

/-- What a step does, and what it leaves in the log. -/
theorem step_event_cases (l : Label τ κ ε) :
    (S.event c l = none ∧ S.step c l = c) ∨
    (∃ job, l = .start job ∧ c.prog (S.thread job) = .done ∧
      S.event c l = some (.started job) ∧
      S.step c l = { c with prog := Function.update c.prog (S.thread job) (S.program job) }) ∨
    ∃ t e i next, l = .advance t e ∧ c.prog t = .call i next ∧
      S.event c l = some (.called t e c.state i) ∧
      S.step c l =
        { state := (S.call e c.state i).1
          trace := c.trace ++ (S.call e c.state i).2
          prog := Function.update c.prog t (next c.state) } := by
  cases l with
  | start job =>
    cases h : c.prog (S.thread job) with
    | done =>
      exact Or.inr (Or.inl ⟨job, rfl, h, by simp only [event, h], step_start_of_done h⟩)
    | call i next => exact Or.inl ⟨by simp only [event, h], step_start_of_call h⟩
  | advance t e =>
    cases h : c.prog t with
    | done => exact Or.inl ⟨by simp only [event, h], step_advance_of_done h⟩
    | call i next =>
      exact Or.inr (Or.inr ⟨t, e, i, next, rfl, h, by simp only [event, h],
        step_advance_of_call h⟩)

/-- What the environment supplied to the calls of a log comes from the labels, in order.

**Proof sketch.** Induction on the labels. A step sees one reading at most, and then it is that of
its label. -/
theorem seen_log_sublist {view : ε → ι → Option μ} {time : μ → ε}
    (htime : ∀ e i x, view e i = some x → time x = e) (ls : List (Label τ κ ε)) :
    (((S.log c ls).filterMap (Event.seen view)).map time).Sublist
      (ls.filterMap Label.reading) := by
  induction ls generalizing c with
  | nil => exact List.Sublist.slnil
  | cons l ls ih =>
    rw [log, List.filterMap_append, List.map_append]
    have hhead : (((S.event c l).toList.filterMap (Event.seen view)).map time).Sublist
        (l.reading).toList := by
      rcases step_event_cases (S := S) (c := c) l with
        ⟨hev, -⟩ | ⟨job, -, -, hev, -⟩ | ⟨t, e, i, next, rfl, -, hev, -⟩
      · rw [hev]
        exact List.nil_sublist _
      · rw [hev]
        exact List.nil_sublist _
      · cases hview : view e i with
        | none => simp [hev, Event.seen, hview]
        | some x => simp [hev, Event.seen, hview, htime e i x hview, Label.reading]
    have hlabels : (l :: ls).filterMap Label.reading =
        l.reading.toList ++ ls.filterMap Label.reading := by
      cases hread : l.reading <;> simp [hread]
    rw [hlabels]
    exact hhead.append ih

/-- The trace of a run is what its calls emitted, in order.

**Proof sketch.** Induction on the run from its end; the last step appends to the trace what its
call emits, and to the log that call. -/
theorem trace_eq_log (obs : ο → Option ω) (ls : List (Label τ κ ε)) :
    (run S.step c ls).trace.filterMap obs = c.trace.filterMap obs ++
      (S.log c ls).flatMap (Event.shown fun e s i => (S.call e s i).2.filterMap obs) := by
  induction ls using List.reverseRecOn with
  | nil => simp
  | append_singleton ls l ih =>
    rw [log_concat, run_concat, List.flatMap_append, ← List.append_assoc, ← ih]
    rcases step_event_cases (S := S) (c := run S.step c ls) l with
      ⟨hev, hstep⟩ | ⟨job, -, -, hev, hstep⟩ | ⟨t, e, i, next, -, -, hev, hstep⟩
    · simp [hev, hstep]
    · simp [hev, hstep, Event.shown]
    · simp [hev, hstep, Event.shown]

/-! ## Objects -/

section Objects

variable (S) in
/-- The component `f` of the shared state is the machine `m`: a call that satisfies `P` is an
input `view e i` to it, or leaves it alone, and shows what the machine emits. -/
structure IsObject (P : ι → Prop) (f : σ → β) (view : ε → ι → Option μ)
    (m : β → μ → β × List ω) (shows : ε → σ → ι → List ω) : Prop where
  unseen : ∀ e s i, P i → view e i = none → f (S.call e s i).1 = f s ∧ shows e s i = []
  seen : ∀ e s i x, P i → view e i = some x →
    f (S.call e s i).1 = (m (f s) x).1 ∧ shows e s i = (m (f s) x).2

variable {P : ι → Prop} {f : σ → β} {view : ε → ι → Option μ} {m : β → μ → β × List ω}
  {shows : ε → σ → ι → List ω}

/-- What the programs may call, the rests of the programs may call. -/
theorem run_calls (hjob : ∀ job, (S.program job).Calls P) (hc : ∀ t, (c.prog t).Calls P)
    (ls : List (Label τ κ ε)) (t : τ) : ((run S.step c ls).prog t).Calls P :=
  run_threads (R := fun _ p => p.Calls P) hjob (fun _ _ _ s h => h.2 s) hc ls t

/-- **Objects.** In every interleaving an object is in the state of its machine after the calls
on it, in the order of the log, and they have shown what the machine emits.

**Proof sketch.** Induction on the run from its end. A call that the object does not see leaves its
part of the state alone and shows nothing; a call that it sees is a step of its machine. That every
call is one of those `h` speaks of is a thread-local invariant (`run_calls`). -/
theorem IsObject.recorded_log (h : IsObject S P f view m shows)
    (hjob : ∀ job, (S.program job).Calls P) (hc : ∀ t, (c.prog t).Calls P)
    (ls : List (Label τ κ ε)) :
    recorded m (f c.state) ((S.log c ls).filterMap (Event.seen view)) =
      ⟨f (run S.step c ls).state, (S.log c ls).flatMap (Event.shown shows)⟩ := by
  induction ls using List.reverseRecOn with
  | nil => rfl
  | append_singleton ls l ih =>
    have hcalls := run_calls hjob hc ls
    rw [recorded] at ih
    rw [log_concat, List.filterMap_append, List.flatMap_append, recorded, run_append, ih,
      run_concat]
    rcases step_event_cases (S := S) (c := run S.step c ls) l with
      ⟨hev, hstep⟩ | ⟨job, -, -, hev, hstep⟩ | ⟨t, e, i, next, -, hprog, hev, hstep⟩
    · simp [hev, hstep]
    · rw [hev, hstep]
      show run (record m) _ [] = _
      simp [Event.shown]
    · have hi : P i := by
        have hthread := hcalls t
        rw [hprog] at hthread
        exact hthread.1
      cases hview : view e i with
      | none =>
        obtain ⟨hstate, hout⟩ := h.unseen e (run S.step c ls).state i hi hview
        simp [hev, hstep, Event.seen, Event.shown, hview, hstate, hout]
      | some x =>
        obtain ⟨hstate, hout⟩ := h.seen e (run S.step c ls).state i x hi hview
        simp [hev, hstep, Event.seen, Event.shown, hview, record, hstate, hout]

end Objects

/-! ## Accounts -/

section Accounts

variable (S) (pay : ι → List α) (debt : σ → ι → List α) (owed : κ → List α) (t : τ)

/-- What an event pays on behalf of thread `t`. -/
def payment : Event τ κ ε σ ι → List α
  | .started _ => []
  | .called u _ _ i => if u = t then pay i else []

/-- What an event charges to the account of thread `t`. -/
def charge : Event τ κ ε σ ι → List α
  | .started job => if S.thread job = t then owed job else []
  | .called u _ s i => if u = t then debt s i else []

/-- What has been charged to the account of `t` since its latest job began, that included. -/
def account (log : List (Event τ κ ε σ ι)) : List α :=
  log.foldl (fun charged ev =>
    match ev with
    | .started job => if S.thread job = t then owed job else charged
    | .called u _ s i => if u = t then charged ++ debt s i else charged) []

variable {S pay debt owed t}

section Jobs

variable {f : κ → Option β} {dueFor : β → List α}
  (hthread : ∀ job, S.thread job = t ↔ (f job).isSome = true)
  (howed : ∀ job b, f job = some b → owed job = dueFor b)

include hthread howed

/-- When only jobs are charged, an event is charged what the request it begins is due, and nothing
if it begins none. -/
theorem charge_of_jobs (ev : Event τ κ ε σ ι) :
    S.charge (fun _ _ => []) owed t ev = ((ev.job?.bind f).map dueFor).getD [] := by
  cases ev with
  | started job =>
    have hjob := hthread job
    cases hf : f job with
    | none =>
      have hne : S.thread job ≠ t := by simpa [hf] using hjob
      simp [charge, Event.job?, hne, hf]
    | some b =>
      have heq : S.thread job = t := by simpa [hf] using hjob
      simp [charge, Event.job?, heq, hf, howed job b hf]
  | called u e s i => simp [charge, Event.job?]

/-- If only jobs are charged, the charges are those of the jobs of the thread. -/
theorem flatMap_charge_of_jobs (log : List (Event τ κ ε σ ι)) :
    log.flatMap (S.charge (fun _ _ => []) owed t) =
      (log.filterMap fun ev => ev.job?.bind f).flatMap dueFor := by
  induction log with
  | nil => rfl
  | cons ev log ih =>
    rw [List.flatMap_cons, ih, charge_of_jobs hthread howed]
    cases hf : ev.job?.bind f <;> simp [hf]

/-- If only jobs are charged, the account is that of the latest job of the thread.

**Proof sketch.** Induction on the log from its end. A job of the thread replaces the account by its
own due, and calls add nothing. -/
theorem account_of_jobs (log : List (Event τ κ ε σ ι)) :
    S.account (fun _ _ => []) owed t log =
      ((latest (fun ev => ev.job?.bind f) log).map dueFor).getD [] := by
  induction log using List.reverseRecOn with
  | nil => rfl
  | append_singleton log ev ih =>
    rw [account, List.foldl_append, ← account, latest_concat, ih]
    cases ev with
    | started job =>
      cases hf : f job with
      | none =>
        have hne : S.thread job ≠ t := by simpa [hf] using hthread job
        simp [Event.job?, hf, hne]
      | some b =>
        have heq : S.thread job = t := by simpa [hf] using hthread job
        simp [Event.job?, hf, heq, howed job b hf]
    | called u e s i => simp [Event.job?]

end Jobs

/-- **The balance of an account.** If the jobs of thread `t` pay what they owe then in every
interleaving what was paid and what is still due are what was charged, in order, and all that is
still due belongs to the latest job.

**Proof sketch.** Induction on the run from its end, with the amount still due. A step of another
thread changes nothing in it. A job that starts on thread `t` finds the thread idle, where nothing
is due, and its whole due is charged. A call of thread `t` pays a first part of what is due and may
incur a debt, which is charged too. -/
theorem balance
    (hjob : ∀ job, S.thread job = t → (S.program job).Settles pay debt (owed job))
    (hc : c.prog t = .done) (ls : List (Label τ κ ε)) :
    ∃ due, ((run S.step c ls).prog t).Settles pay debt due ∧
      (S.log c ls).flatMap (payment pay t) ++ due = (S.log c ls).flatMap (S.charge debt owed t) ∧
      due <:+ S.account debt owed t (S.log c ls) := by
  induction ls using List.reverseRecOn with
  | nil => exact ⟨[], by simp [hc], rfl, List.suffix_rfl⟩
  | append_singleton ls l ih =>
    obtain ⟨due, hdue, hbalance, hlatest⟩ := ih
    rw [log_concat, run_concat, List.flatMap_append, List.flatMap_append, account,
      List.foldl_append, ← account]
    rcases step_event_cases (S := S) (c := run S.step c ls) l with
      ⟨hev, hstep⟩ | ⟨job, -, hidle, hev, hstep⟩ | ⟨u, e, i, next, -, hprog, hev, hstep⟩
    · rw [hev, hstep]
      exact ⟨due, hdue, by simpa using hbalance, hlatest⟩
    · rw [hev, hstep]
      by_cases hthread : S.thread job = t
      · -- Thread `t` was idle, so nothing was due.
        subst hthread
        rw [hidle, Prog.settles_done] at hdue
        subst hdue
        rw [List.append_nil] at hbalance
        exact ⟨owed job, by simpa using hjob job rfl, by simp [payment, charge, hbalance], by simp⟩
      · refine ⟨due, ?_, by simpa [payment, charge, hthread] using hbalance, ?_⟩
        · simpa [Function.update_of_ne (Ne.symm hthread)] using hdue
        · simpa [hthread] using hlatest
    · rw [hev, hstep]
      by_cases hu : u = t
      · subst hu
        rw [hprog] at hdue
        obtain ⟨rest, rfl, hrest⟩ := hdue
        refine ⟨rest ++ debt (run S.step c ls).state i, by simpa using hrest _, ?_, ?_⟩
        · simp [payment, charge, ← hbalance, List.append_assoc]
        · obtain ⟨front, hfront⟩ := hlatest
          refine ⟨front ++ pay i, ?_⟩
          simp [← hfront, List.append_assoc]
      · refine ⟨due, ?_, by simpa [payment, charge, hu] using hbalance, ?_⟩
        · simpa [Function.update_of_ne (Ne.symm hu)] using hdue
        · simpa [hu] using hlatest

section Others

/-- What the jobs of other threads may call, the rests of their programs may call. -/
theorem calls_of_others {P : ι → Prop}
    (hothers : ∀ job, S.thread job ≠ t → (S.program job).Calls P)
    (hc : ∀ u, u ≠ t → (c.prog u).Calls P) (ls : List (Label τ κ ε)) {u : τ} (hu : u ≠ t) :
    ((run S.step c ls).prog u).Calls P :=
  run_threads (S := S) (R := fun u p => u ≠ t → p.Calls P) hothers
    (fun _ _ _ s hp hu => (hp hu).2 s) hc ls u hu

/-- If no other thread can make a call with an entry `f e s i`, the entries of the calls of thread
`t` are all entries.

**Proof sketch.** Induction on the run from its end; a call of another thread has no entry, since
that is a thread-local invariant of the others (`calls_of_others`). -/
theorem shown_eq_of_others {f : ε → σ → ι → List α}
    (hothers : ∀ job, S.thread job ≠ t → (S.program job).Calls fun i => ∀ e s, f e s i = [])
    (hc : ∀ u, u ≠ t → (c.prog u).Calls fun i => ∀ e s, f e s i = [])
    (ls : List (Label τ κ ε)) :
    (S.log c ls).flatMap (fun ev =>
        match ev with
        | .started _ => []
        | .called u e s i => if u = t then f e s i else []) =
      (S.log c ls).flatMap (Event.shown f) := by
  induction ls using List.reverseRecOn with
  | nil => rfl
  | append_singleton ls l ih =>
    rw [log_concat, List.flatMap_append, ih, List.flatMap_append]
    refine congrArg _ ?_
    rcases step_event_cases (S := S) (c := run S.step c ls) l with
      ⟨hev, -⟩ | ⟨job, -, -, hev, -⟩ | ⟨u, e, i, next, -, hprog, hev, -⟩
    · simp [hev]
    · simp [hev, Event.shown]
    · by_cases hu : u = t
      · simp [hev, Event.shown, hu]
      · have hcalls := calls_of_others hothers hc ls hu
        rw [hprog] at hcalls
        simp [hev, Event.shown, hu, hcalls.1 e]

section Pay

variable (hothers : ∀ job, S.thread job ≠ t → (S.program job).Calls fun i => pay i = [])
  (hc : ∀ u, u ≠ t → (c.prog u).Calls fun i => pay i = [])

include hothers hc

/-- The payments of a thread whose calls no other thread makes. -/
theorem payments_eq_shown (ls : List (Label τ κ ε)) :
    (S.log c ls).flatMap (payment pay t) =
      (S.log c ls).flatMap (Event.shown fun _ _ i => pay i) := by
  rw [← shown_eq_of_others (f := fun _ _ i => pay i)
    (fun job hjob => (hothers job hjob).mono fun _ hi _ _ => hi)
    (fun u hu => (hc u hu).mono fun _ hi _ _ => hi)]
  refine congrArg (fun g => List.flatMap g _) (funext fun ev => ?_)
  cases ev <;> rfl

/-- If a call emits what it pays, the payments are what is seen to come into the trace. -/
theorem trace_eq_payments {obs : ο → Option α}
    (hpays : ∀ e s i, (S.call e s i).2.filterMap obs = pay i) (ls : List (Label τ κ ε)) :
    (run S.step c ls).trace.filterMap obs =
      c.trace.filterMap obs ++ (S.log c ls).flatMap (payment pay t) := by
  have hemits : (fun e s i => (S.call e s i).2.filterMap obs) = fun _ _ i => pay i := by
    funext e s i
    exact hpays e s i
  rw [payments_eq_shown hothers hc, trace_eq_log, hemits]

end Pay

/-- If only calls are charged, and no other thread makes them, the charges are those of all
calls. -/
theorem charges_eq_shown (howed : ∀ job, owed job = [])
    (hothers : ∀ job, S.thread job ≠ t → (S.program job).Calls fun i => ∀ s, debt s i = [])
    (hc : ∀ u, u ≠ t → (c.prog u).Calls fun i => ∀ s, debt s i = [])
    (ls : List (Label τ κ ε)) :
    (S.log c ls).flatMap (S.charge debt owed t) =
      (S.log c ls).flatMap (Event.shown fun _ s i => debt s i) := by
  rw [← shown_eq_of_others (f := fun _ s i => debt s i)
    (fun job hjob => (hothers job hjob).mono fun _ hi _ s => hi s)
    (fun u hu => (hc u hu).mono fun _ hi _ s => hi s)]
  refine congrArg (fun g => List.flatMap g _) (funext fun ev => ?_)
  cases ev with
  | started job => simp [charge, howed job]
  | called u e s i => rfl

section JobsEmit

variable {s : σ} {obs : ο → Option α} {f : κ → Option β} {dueFor : β → List α}
  (hthread : ∀ job, S.thread job = t ↔ (f job).isSome = true)
  (hjob : ∀ job b, f job = some b → (S.program job).Settles pay (fun _ _ => []) (dueFor b))
  (hothers : ∀ job, S.thread job ≠ t → (S.program job).Calls fun i => pay i = [])
  (hpays : ∀ e s i, (S.call e s i).2.filterMap obs = pay i) (ls : List (Label τ κ ε))

include hthread hjob hothers hpays

/-- What the jobs of a thread have emitted, and what the thread has still to emit.

**Proof sketch.** Only jobs are charged here, so the balance of the thread (`balance`) says that
what it paid and what is still due are the dues of its jobs, and that the latter belongs to the
latest of them (`account_of_jobs`). What was paid is what came into the trace
(`trace_eq_payments`). -/
theorem owed_by_jobs :
    let c := run S.step (Pool.idle s) ls
    let jobs := (S.log (Pool.idle s) ls).filterMap fun ev => ev.job?.bind f
    ∃ due, c.trace.filterMap obs ++ due = jobs.flatMap dueFor ∧
      due <:+ (jobs.getLast?.map dueFor).getD [] ∧
      (c.prog t).Settles pay (fun _ _ => []) due := by
  intro c jobs
  have howed : ∀ job b, f job = some b → ((f job).map dueFor).getD [] = dueFor b := by
    intro job b hf
    simp [hf]
  have hsettles : ∀ job, S.thread job = t →
      (S.program job).Settles pay (fun _ _ => []) (((f job).map dueFor).getD []) := by
    intro job ht
    obtain ⟨b, hf⟩ := Option.isSome_iff_exists.mp ((hthread job).mp ht)
    rw [howed job b hf]
    exact hjob job b hf
  have htrace : c.trace.filterMap obs = _ :=
    trace_eq_payments (c := Pool.idle s) hothers (fun _ _ => trivial) hpays ls
  obtain ⟨due, hdue, hbalance, hlatest⟩ := balance (c := Pool.idle s) hsettles rfl ls
  rw [flatMap_charge_of_jobs hthread howed] at hbalance
  rw [account_of_jobs hthread howed] at hlatest
  exact ⟨due, htrace ▸ hbalance, hlatest, hdue⟩

/-- **Jobs and what they emit.** If every job of thread `t` emits what it owes and no other job
emits anything of the kind, then in every interleaving what was emitted is what the started jobs
owe, job after job; all that is missing belongs to the latest job, and nothing is missing once it
has ended.

**Proof sketch.** `owed_by_jobs`; a thread that has ended settles nothing. -/
theorem emitted_by_jobs :
    let c := run S.step (Pool.idle s) ls
    let jobs := (S.log (Pool.idle s) ls).filterMap fun ev => ev.job?.bind f
    ∃ due, c.trace.filterMap obs ++ due = jobs.flatMap dueFor ∧
      due <:+ (jobs.getLast?.map dueFor).getD [] ∧ (c.prog t = .done → due = []) := by
  intro c jobs
  obtain ⟨due, hemitted, hlatest, hdue⟩ := owed_by_jobs hthread hjob hothers hpays ls
  refine ⟨due, hemitted, hlatest, fun hidle => ?_⟩
  have hdone : (c.prog t).Settles pay (fun _ _ => []) due := hdue
  rwa [hidle, Prog.settles_done] at hdone

end JobsEmit

end Others

end Accounts

end System

end Resumption
