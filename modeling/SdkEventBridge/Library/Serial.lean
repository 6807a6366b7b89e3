import SdkEventBridge.Library.Ledger

set_option relaxedAutoImplicit false
set_option autoImplicit false

/-!
# Serial runs

A job can be understood in two ways: as one atomic step, in which its program is executed to the
end with one reading of the environment, or as a program whose calls are interleaved with those of
other threads, each with a reading of its own. This file shows that the two agree on *serial* runs,
in which a job begins only when every thread is idle. The readings are the point: a program must
not make more than one call that depends on the reading, and that call's reading is then the one
of the atomic step.

## Main definitions

* `Resumption.Prog.ReadsOnce` — at most one call of the program depends on the reading.
* `Resumption.System.atomic` — a job as one step.
* `Resumption.System.StartsAlone` — a job begins only when every thread is idle.
* `Resumption.System.Underway` — a moment of a serial run at which a job is running.

## Main results

* `Resumption.System.atomic_of_serial` — a serial run is an atomic run of the jobs it started.
* `Resumption.System.serial_of_atomic` — an atomic run is a serial run.
-/

namespace Resumption

open Run

variable {σ ι ο ε τ κ : Type}

/-! ## Programs that read the environment once -/

namespace Prog

/-- On every path at most one call has the property `reads`. -/
def ReadsOnce (reads : ι → Prop) : Prog σ ι → Prop
  | .done => True
  | .call i next =>
    ∀ s, (reads i → (next s).Calls fun j => ¬ reads j) ∧ (next s).ReadsOnce reads

section ReadsOnce

variable {reads : ι → Prop} {p q : Prog σ ι}

/-- A program that has ended reads nothing. -/
@[simp] theorem readsOnce_done : (.done : Prog σ ι).ReadsOnce reads := trivial

/-- After a reading call no other call reads, and what follows any other call reads once at most. -/
theorem readsOnce_call {i : ι} {next : σ → Prog σ ι} :
    (Prog.call i next).ReadsOnce reads ↔
      ∀ s, (reads i → (next s).Calls fun j => ¬ reads j) ∧ (next s).ReadsOnce reads := Iff.rfl

/-- A program that never reads reads once at most. -/
theorem Calls.readsOnce (h : p.Calls fun i => ¬ reads i) : p.ReadsOnce reads := by
  induction p with
  | done => trivial
  | call i next ih => exact fun s => ⟨fun _ => h.2 s, ih s (h.2 s)⟩

/-- A first call that may read, and then none that does. -/
theorem readsOnce_of_calls {i : ι} {next : σ → Prog σ ι}
    (h : ∀ s, (next s).Calls fun j => ¬ reads j) : (Prog.call i next).ReadsOnce reads :=
  fun s => ⟨fun _ => h s, (h s).readsOnce⟩

/-- A program that reads once at most may be followed by one that does not read. -/
theorem ReadsOnce.seq (hp : p.ReadsOnce reads) (hq : q.Calls fun i => ¬ reads i) :
    (p.seq q).ReadsOnce reads := by
  induction p with
  | done => exact hq.readsOnce
  | call i next ih =>
    exact fun s => ⟨fun hi => Calls.seq ((hp s).1 hi) hq, ih s (hp s).2⟩

/-- A program that does not read may come before one that reads once at most. -/
theorem Calls.seq_readsOnce (hp : p.Calls fun i => ¬ reads i) (hq : q.ReadsOnce reads) :
    (p.seq q).ReadsOnce reads := by
  induction p with
  | done => exact hq
  | call i next ih => exact fun s => ⟨fun hi => absurd hi hp.1, ih s (hp.2 s)⟩

end ReadsOnce

end Prog

namespace System

variable [DecidableEq τ] (S : System τ κ ε σ ι ο)

/-- A job as one step: its program is executed to the end. -/
def atomic (s : σ) (x : ε × κ) : σ × List ο := exec S.call x.1 (S.program x.2) s

/-- A job begins only when every thread is idle. -/
def StartsAlone (c : Pool τ σ ι ο) (l : Label τ κ ε) : Prop :=
  ∀ job, l = .start job → ∀ t, c.prog t = .done

/-- With the reading `e`, what the running thread has left leads to where the job leads as one
step after the history `h`. -/
def Leads (s : σ) (h : List (ε × κ)) (job : κ) (c : Pool τ σ ι ο) (e : ε) : Prop :=
  recorded S.atomic s (h ++ [(e, job)]) =
    ⟨(exec S.call e (c.prog (S.thread job)) c.state).1,
      c.trace ++ (exec S.call e (c.prog (S.thread job)) c.state).2⟩

/-- Every thread is idle, after the jobs of the history `h`. -/
structure Between (s : σ) (h : List (ε × κ)) (c : Pool τ σ ι ο) : Prop where
  idle : ∀ t, c.prog t = .done
  recorded_eq : recorded S.atomic s h = ⟨c.state, c.trace⟩

/-- After the jobs of the history `h` the latest job is running, alone. Either it has not read the
environment yet, or it has, with one of the readings since it began. -/
structure Underway (reads : ι → Prop) (s : σ) (h : List (ε × κ)) (job : κ) (newer : List ε)
    (c : Pool τ σ ι ο) : Prop where
  alone : ∀ t, t ≠ S.thread job → c.prog t = .done
  busy : c.prog (S.thread job) ≠ .done
  leads :
    (c.prog (S.thread job)).ReadsOnce reads ∧ (∀ e, S.Leads s h job c e) ∨
    ((c.prog (S.thread job)).Calls fun i => ¬ reads i) ∧ ∃ e ∈ newer, S.Leads s h job c e

variable {S} {reads : ι → Prop} {s : σ} {h : List (ε × κ)} {job : κ} {newer : List ε}
  {c : Pool τ σ ι ο}

/-- A job that begins.

**Proof sketch.** Between two jobs every thread is idle, so the step puts the program of the job on
its thread, and whatever the reading, running it from here is one more input of the atomic run. -/
theorem Between.start (hc : S.Between s h c) (honce : (S.program job).ReadsOnce reads)
    (hne : S.program job ≠ .done) :
    S.Underway reads s h job [] (S.step c (.start job)) := by
  rw [step_start_of_done (hc.idle _)]
  refine ⟨fun t ht => ?_, ?_, Or.inl ⟨?_, fun e => ?_⟩⟩
  · simpa [Function.update_of_ne ht] using hc.idle t
  · simpa using hne
  · simpa using honce
  · have hstate := congrArg Recorded.state hc.recorded_eq
    have htrace := congrArg Recorded.trace hc.recorded_eq
    rw [recorded_state] at hstate
    simp only [Leads, Function.update_self]
    rw [recorded, run_concat, ← recorded, hc.recorded_eq]
    rfl

/-- A call of the running job, which reads the environment or does not.

**Proof sketch.** The call leads on with every reading with which it acts as it did. Before the
reading call every reading still leads on, since the calls made so far act the same with all of
them; the reading call fixes the reading; after it the rest does not read, and the reading fixed
leads on. When nothing is left to do the job is through with that reading. -/
theorem Underway.advance (hconst : ∀ i, ¬ reads i → ∀ e e' s, S.call e s i = S.call e' s i)
    (hc : S.Underway reads s h job newer c) (e : ε) :
    let c' := S.step c (.advance (S.thread job) e)
    (∃ e' ∈ newer ++ [e], S.Between s (h ++ [(e', job)]) c') ∨
      S.Underway reads s h job (newer ++ [e]) c' := by
  intro c'
  cases hprog : c.prog (S.thread job) with
  | done => exact absurd hprog hc.busy
  | call i next =>
    have hstep : c' = _ := step_advance_of_call hprog
    have hothers : ∀ t, t ≠ S.thread job → c'.prog t = .done := by
      intro t ht
      rw [hstep]
      exact (Function.update_of_ne ht _ _).trans (hc.alone t ht)
    have hrest : c'.prog (S.thread job) = next c.state := by
      rw [hstep]
      exact Function.update_self _ _ _
    -- The call leads on with every reading with which it acts as it did.
    have hleads : ∀ e', S.call e' c.state i = S.call e c.state i → S.Leads s h job c e' →
        S.Leads s h job c' e' := by
      intro e' hsame hl
      rw [Leads, hprog, exec_call, hsame] at hl
      rw [Leads, hl, hrest, hstep]
      simp
    have hfinish : ∀ e' ∈ newer ++ [e], S.Leads s h job c' e' → next c.state = .done →
        S.Between s (h ++ [(e', job)]) c' := by
      intro e' _ hl hdone
      refine ⟨fun t => ?_, ?_⟩
      · by_cases ht : t = S.thread job
        · rw [ht, hrest, hdone]
        · exact hothers t ht
      · rw [Leads, hrest, hdone] at hl
        simpa using hl
    have hnow : e ∈ newer ++ [e] := by simp
    rcases hc.leads with ⟨honce, hall⟩ | ⟨hcalls, e', he', hl⟩
    · rw [hprog, Prog.readsOnce_call] at honce
      by_cases hdone : next c.state = .done
      · exact Or.inl ⟨e, hnow, hfinish e hnow (hleads e rfl (hall e)) hdone⟩
      · refine Or.inr ⟨hothers, by rwa [hrest], ?_⟩
        rw [hrest]
        by_cases hi : reads i
        · exact Or.inr ⟨(honce c.state).1 hi, e, hnow, hleads e rfl (hall e)⟩
        · exact Or.inl ⟨(honce c.state).2, fun e' => hleads e' (hconst i hi e' e c.state) (hall e')⟩
    · rw [hprog] at hcalls
      have hmem : e' ∈ newer ++ [e] := by simp [he']
      have hl' := hleads e' (hconst i hcalls.1 e' e c.state) hl
      by_cases hdone : next c.state = .done
      · exact Or.inl ⟨e', hmem, hfinish e' hmem hl' hdone⟩
      · refine Or.inr ⟨hothers, by rwa [hrest], Or.inr ⟨?_, e', hmem, hl'⟩⟩
        rw [hrest]
        exact hcalls.2 c.state

section Serial

variable (hconst : ∀ i, ¬ reads i → ∀ e e' s, S.call e s i = S.call e' s i)
  (honce : ∀ job, (S.program job).ReadsOnce reads) (hne : ∀ job, S.program job ≠ .done)

include hconst honce hne

/-- A serial run is between two jobs, or one job is running.

**Proof sketch.** Induction on the run from its end. Between two jobs a label starts a job
(`Between.start`) or changes nothing, since all threads are idle. While a job runs no other starts,
and a call is one of that job (`Underway.advance`), which ends it or not. -/
theorem serial_run {ls : List (Label τ κ ε)}
    (hserial : Along S.step StartsAlone (Pool.idle s) ls) :
    let c := run S.step (Pool.idle s) ls
    let jobs := (S.log (Pool.idle s) ls).filterMap Event.job?
    let readings := ls.filterMap Label.reading
    ∃ h : List (ε × κ),
      (S.Between s h c ∧ h.map Prod.snd = jobs ∧ (h.map Prod.fst).Sublist readings) ∨
      ∃ job older newer, S.Underway reads s h job newer c ∧ h.map Prod.snd ++ [job] = jobs ∧
        older ++ newer = readings ∧ (h.map Prod.fst).Sublist older := by
  induction ls using List.reverseRecOn with
  | nil => exact ⟨[], Or.inl ⟨⟨fun _ => rfl, rfl⟩, rfl, List.Sublist.slnil⟩⟩
  | append_singleton ls l ih =>
    rw [along_concat] at hserial
    obtain ⟨h, hih⟩ := ih hserial.1
    intro c jobs readings
    have hreadings : readings = ls.filterMap Label.reading ++ l.reading.toList := by
      show (ls ++ [l]).filterMap Label.reading = _
      rw [List.filterMap_append]
      cases l <;> rfl
    have hjobs : jobs = (S.log (Pool.idle s) ls).filterMap Event.job? ++
        (S.event (run S.step (Pool.idle s) ls) l).toList.filterMap Event.job? := by
      show (S.log (Pool.idle s) (ls ++ [l])).filterMap Event.job? = _
      rw [log_concat, List.filterMap_append]
    have hc : c = S.step (run S.step (Pool.idle s) ls) l := run_concat _ _ _ _
    rw [hc, hjobs, hreadings]
    rcases hih with ⟨hbetween, hmap, hsub⟩ | ⟨job, older, newer, hunder, hmap, hsplit, hsub⟩
    · rcases step_event_cases (S := S) (c := run S.step (Pool.idle s) ls) l with
        ⟨hev, hstep⟩ | ⟨job, rfl, -, hev, -⟩ | ⟨t, e, i, next, rfl, hprog, -, -⟩
      · rw [hev, hstep]
        exact ⟨h, Or.inl ⟨hbetween, by simp [hmap], hsub.trans (List.sublist_append_left _ _)⟩⟩
      · rw [hev]
        refine ⟨h, Or.inr ⟨job, ls.filterMap Label.reading, [],
          hbetween.start (honce job) (hne job), ?_, rfl, hsub⟩⟩
        simp [hmap, Event.job?]
      · exact absurd hprog (by simp [hbetween.idle t])
    · rcases step_event_cases (S := S) (c := run S.step (Pool.idle s) ls) l with
        ⟨hev, hstep⟩ | ⟨job', rfl, -, -, -⟩ | ⟨t, e, i, next, rfl, hprog, hev, -⟩
      · -- Nothing happens.
        rw [hev, hstep]
        refine ⟨h, Or.inr ⟨job, older, newer ++ l.reading.toList, ?_, by simp [hmap],
          by rw [← hsplit, List.append_assoc], hsub⟩⟩
        refine ⟨hunder.alone, hunder.busy, hunder.leads.imp id ?_⟩
        rintro ⟨hcalls, e, he, hl⟩
        exact ⟨hcalls, e, by simp [he], hl⟩
      · exact absurd (hserial.2 job' rfl _) hunder.busy
      · have ht : t = S.thread job := by
          by_contra hother
          exact absurd (hunder.alone t hother) (by simp [hprog])
        subst ht
        rw [hev]
        have hcalled : [(Event.called (S.thread job) e (run S.step (Pool.idle s) ls).state i :
            Event τ κ ε σ ι)].filterMap Event.job? = [] := rfl
        have hreading : (Label.advance (S.thread job) e : Label τ κ ε).reading.toList = [e] := rfl
        rw [hreading, ← hsplit]
        rcases hunder.advance hconst e with ⟨e', he', hbetween⟩ | hunder'
        · refine ⟨h ++ [(e', job)], Or.inl ⟨hbetween, ?_, ?_⟩⟩
          · simpa [hcalled] using hmap
          · rw [List.map_append, List.append_assoc]
            exact hsub.append (List.singleton_sublist.mpr he')
        · exact ⟨h, Or.inr ⟨job, older, newer ++ [e], hunder', by simpa [hcalled] using hmap,
            by simp, hsub⟩⟩

/-- **Serial runs are atomic runs** of the jobs they started, with readings that were supplied, in
order.

**Proof sketch.** By `serial_run` a serial run is between two jobs or inside one; if every thread is
idle it is between two, and then the jobs started have been handled one after another. -/
theorem atomic_of_serial {ls : List (Label τ κ ε)}
    (hserial : Along S.step StartsAlone (Pool.idle s) ls)
    (hidle : ∀ t, (run S.step (Pool.idle s) ls).prog t = .done) :
    ∃ h : List (ε × κ), h.map Prod.snd = (S.log (Pool.idle s) ls).filterMap Event.job? ∧
      (h.map Prod.fst).Sublist (ls.filterMap Label.reading) ∧
      recorded S.atomic s h =
        ⟨(run S.step (Pool.idle s) ls).state, (run S.step (Pool.idle s) ls).trace⟩ := by
  obtain ⟨h, ⟨hbetween, hmap, hsub⟩ | ⟨job, older, newer, hunder, -⟩⟩ :=
    serial_run hconst honce hne hserial
  · exact ⟨h, hmap, hsub, hbetween.recorded_eq⟩
  · exact absurd (hidle _) hunder.busy

end Serial

/-- Steps of one thread start nothing. -/
theorem startsAlone_replicate (c : Pool τ σ ι ο) (n : ℕ) (t : τ) (e : ε) :
    Along S.step StartsAlone c (List.replicate n (.advance t e)) := by
  induction n generalizing c with
  | zero => trivial
  | succ n ih => exact ⟨fun _ hstart => by simp at hstart, ih _⟩

/-- Steps of one thread begin no job. -/
theorem job?_log_replicate (c : Pool τ σ ι ο) (n : ℕ) (t : τ) (e : ε) :
    (S.log c (List.replicate n (.advance t e))).filterMap Event.job? = [] := by
  induction n generalizing c with
  | zero => rfl
  | succ n ih =>
    rw [List.replicate_succ, log, List.filterMap_append, ih]
    rcases step_event_cases (S := S) (c := c) (.advance t e : Label τ κ ε) with
      ⟨hev, -⟩ | ⟨job, hstart, -⟩ | ⟨_, _, _, _, -, -, hev, -⟩
    · simp [hev]
    · simp at hstart
    · simp [hev, Event.job?]

/-- **Atomic runs are serial runs**, in which every call is given the reading of its job.

**Proof sketch.** Induction on the atomic run from its end. The serial run so far is between two
jobs; let the next job start and give its thread the reading of the job until it has ended
(`run_solo`). -/
theorem serial_of_atomic (s : σ) (h : List (ε × κ)) :
    ∃ ls, Along S.step StartsAlone (Pool.idle s) ls ∧
      (S.log (Pool.idle s) ls).filterMap Event.job? = h.map Prod.snd ∧
      (∀ e ∈ ls.filterMap Label.reading, e ∈ h.map Prod.fst) ∧
      (∀ R : ε → ε → Prop, (∀ e, R e e) → (h.map Prod.fst).Pairwise R →
        (ls.filterMap Label.reading).Pairwise R) ∧
      S.Between s h (run S.step (Pool.idle s) ls) := by
  induction h using List.reverseRecOn with
  | nil => exact ⟨[], trivial, rfl, by simp, by simp, fun _ => rfl, rfl⟩
  | append_singleton h x ih =>
    obtain ⟨ls, hserial, hjobs, hmem, hpairwise, hbetween⟩ := ih
    obtain ⟨e, job⟩ := x
    set c := run S.step (Pool.idle s) ls with hc
    have hstart := step_start_of_done (hbetween.idle (S.thread job))
    obtain ⟨n, hn⟩ := run_solo (S := S) (S.thread job) e (S.program job) (S.step c (.start job))
      (by rw [hstart]; simp)
    set ms : List (Label τ κ ε) := .start job :: List.replicate n (.advance (S.thread job) e)
      with hms
    have hreadings : (ls ++ ms).filterMap Label.reading =
        ls.filterMap Label.reading ++ List.replicate n e := by
      have hread : Label.reading (.advance (S.thread job) e : Label τ κ ε) = some e := rfl
      rw [List.filterMap_append, hms, List.filterMap_cons_none rfl,
        List.filterMap_replicate_of_some hread]
    refine ⟨ls ++ ms, ?_, ?_, ?_, ?_, ?_⟩
    · rw [along_append]
      exact ⟨hserial, fun _ _ => hbetween.idle, startsAlone_replicate _ n _ e⟩
    · rw [log_append, List.filterMap_append, hjobs, log, List.filterMap_append,
        job?_log_replicate, List.map_append]
      have hev : S.event c (.start job) = some (.started job) := by
        simp only [event, hbetween.idle]
      simp [← hc, hev, Event.job?]
    · intro e' he'
      rw [hreadings, List.mem_append] at he'
      rw [List.map_append, List.mem_append]
      exact he'.imp (hmem e') fun hrep => by simp [List.eq_of_mem_replicate hrep]
    · intro R hrefl hR
      rw [List.map_append, List.pairwise_append] at hR
      rw [hreadings, List.pairwise_append]
      refine ⟨hpairwise R hrefl hR.1, List.pairwise_replicate.mpr (Or.inr (hrefl e)), ?_⟩
      intro e₁ h₁ e₂ h₂
      rw [List.eq_of_mem_replicate h₂]
      exact hR.2.2 e₁ (hmem e₁ h₁) e (by simp)
    · rw [run_append, run_cons, ← hc, hn, hstart]
      refine ⟨fun t => ?_, ?_⟩
      · by_cases ht : t = S.thread job
        · simp [ht]
        · simpa [Function.update_of_ne ht] using hbetween.idle t
      · rw [recorded, run_concat, ← recorded, hbetween.recorded_eq]
        simp [record, atomic]

end System

end Resumption
