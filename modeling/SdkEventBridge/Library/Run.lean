import Mathlib.Data.List.DropRight

set_option relaxedAutoImplicit false
set_option autoImplicit false

/-!
# Runs of a deterministic system

A deterministic system is a step function `step : σ → ι → σ`; a run is the fold of `step` over
a list of inputs. A *machine* `m : σ → ι → σ × List ο` also emits outputs, and `record m` turns
it into a step function on states paired with everything emitted so far, so that the same rules
serve both.

## Main definitions

* `Run.run` — the state after a list of inputs.
* `Run.Along` — every step of a run is taken at a state and an input with a given property.
* `Run.Ahead` — every state of a run has a given property, and the inputs still to come.
* `Run.Recorded`, `Run.record` — a state with its trace, and the recording step.
* `Run.kept` — what is left of a run when the marked inputs are deleted.
* `Run.sinceLast`, `Run.traceSince` — the inputs after the last one with a given property, and
  what was emitted while they were handled.
* `Run.latest` — the value carried by the last input that carries one.
* `Run.turns` — the trace of a switch that is turned on and off again and again.

## Main results

* `Run.run_induction`, `Run.run_induction_along` — the invariant rules.
* `Run.along_append`, `Run.along_iff_forall_split` — `Along` on pieces of a run.
* `Run.run_kept`, `Run.recorded_kept_filterMap` — silent inputs can be deleted.
* `Run.traceSince_concat`, `Run.latest_concat` — what one more input changes.
* `Run.recorded_turns` — a machine that turns a switch.
-/

namespace Run

variable {σ ι ο α : Type}

/-- A split of `is ++ [j]` at one of its inputs splits at `j` or splits `is`. -/
theorem split_concat {is pre post : List ι} {i j : ι} (h : is ++ [j] = pre ++ i :: post) :
    (pre = is ∧ i = j ∧ post = []) ∨ ∃ post', post = post' ++ [j] ∧ is = pre ++ i :: post' := by
  cases post using List.reverseRecOn with
  | nil =>
    obtain ⟨hpre, hlast⟩ := List.append_inj' h rfl
    exact Or.inl ⟨hpre.symm, (List.singleton_inj.mp hlast).symm, rfl⟩
  | append_singleton post' k =>
    rw [← List.cons_append, ← List.append_assoc] at h
    obtain ⟨hpre, hlast⟩ := List.append_inj' h rfl
    obtain rfl := List.singleton_inj.mp hlast
    exact Or.inr ⟨post', rfl, hpre⟩

/-! ## Runs and invariants -/

/-- The state reached from `s` by the inputs `is`, in order. -/
def run (step : σ → ι → σ) (s : σ) (is : List ι) : σ := is.foldl step s

section Step

variable (step : σ → ι → σ)

/-- No input, no step. -/
@[simp] theorem run_nil (s : σ) : run step s [] = s := rfl

/-- A run takes its first input first. -/
@[simp] theorem run_cons (s : σ) (i : ι) (is : List ι) :
    run step s (i :: is) = run step (step s i) is := rfl

/-- A run of two pieces goes on from where the first ends. -/
theorem run_append (s : σ) (is js : List ι) :
    run step s (is ++ js) = run step (run step s is) js := List.foldl_append

/-- The last step of a run. -/
@[simp] theorem run_concat (s : σ) (is : List ι) (i : ι) :
    run step s (is ++ [i]) = step (run step s is) i := by
  rw [run_append]; rfl

/-- Every step of the run from `s` is taken at a state and an input related by `P`. -/
def Along (P : σ → ι → Prop) : σ → List ι → Prop
  | _, [] => True
  | s, i :: is => P s i ∧ Along P (step s i) is

/-- An empty run has no step that could fail the condition. -/
@[simp] theorem along_nil (P : σ → ι → Prop) (s : σ) : Along step P s [] := trivial

/-- The condition on the first step and on the rest of the run. -/
@[simp] theorem along_cons (P : σ → ι → Prop) (s : σ) (i : ι) (is : List ι) :
    Along step P s (i :: is) ↔ P s i ∧ Along step P (step s i) is := Iff.rfl

/-- A property holds along a run iff it holds along the first piece and, from where that piece
ends, along the second. -/
theorem along_append (P : σ → ι → Prop) (s : σ) (is js : List ι) :
    Along step P s (is ++ js) ↔ Along step P s is ∧ Along step P (run step s is) js := by
  induction is generalizing s with
  | nil => simp
  | cons i is ih => simp [ih, and_assoc]

/-- The condition on a run and on its last step. -/
theorem along_concat (P : σ → ι → Prop) (s : σ) (is : List ι) (i : ι) :
    Along step P s (is ++ [i]) ↔ Along step P s is ∧ P (run step s is) i := by
  simp [along_append]

/-- `Along` speaks about every way to split the run at one of its inputs.

**Proof sketch.** From left to right a split gives the step at its input. From right to left induct
on the run from its end: the splits of the shorter run are splits of the longer one, and the last
step is the split with nothing after it. -/
theorem along_iff_forall_split (P : σ → ι → Prop) (s : σ) (is : List ι) :
    Along step P s is ↔ ∀ pre i post, is = pre ++ i :: post → P (run step s pre) i := by
  constructor
  · rintro h pre i post rfl
    rw [along_append, along_cons] at h
    exact h.2.1
  · induction is using List.reverseRecOn with
    | nil => simp
    | append_singleton is i ih =>
      intro h
      rw [along_concat]
      refine ⟨ih fun pre j post e => ?_, h is i [] rfl⟩
      exact h pre j (post ++ [i]) (by rw [e]; simp)

/-- A property of the inputs alone holds along every run from every state. -/
theorem along_of_forall_mem {P : ι → Prop} {is : List ι} (h : ∀ i ∈ is, P i) (s : σ) :
    Along step (fun _ i => P i) s is := by
  induction is generalizing s with
  | nil => trivial
  | cons i is ih => exact ⟨h i (by simp), ih (fun j hj => h j (by simp [hj])) _⟩

/-- **Conditional invariants.** What every step taken under the condition `P` keeps holds after
every run whose steps all meet `P`.

**Proof sketch.** Induction on the inputs; the condition on the run splits into that on its first
step, which keeps `Q`, and that on the rest. -/
theorem run_induction_along {Q : σ → Prop} {P : σ → ι → Prop}
    (hstep : ∀ s i, Q s → P s i → Q (step s i)) {s : σ} (hs : Q s) {is : List ι}
    (hp : Along step P s is) : Q (run step s is) := by
  induction is generalizing s with
  | nil => exact hs
  | cons i is ih => exact ih (hstep s i hs hp.1) hp.2

/-- **Invariants.** What every step keeps holds after every run. -/
theorem run_induction {Q : σ → Prop} (hstep : ∀ s i, Q s → Q (step s i)) {s : σ} (hs : Q s)
    (is : List ι) : Q (run step s is) := by
  induction is generalizing s with
  | nil => exact hs
  | cons i is ih => exact ih (hstep s i hs)

/-- A run that keeps `Q` under `P` meets, step by step, every consequence of `Q` and `P`.

**Proof sketch.** Induction on the inputs; `Q` and `P` at each step give `R` there, and `Q` after
it. -/
theorem along_of_invariant {Q : σ → Prop} {P R : σ → ι → Prop}
    (hstep : ∀ s i, Q s → P s i → Q (step s i)) (hR : ∀ s i, Q s → P s i → R s i) {s : σ}
    (hs : Q s) {is : List ι} (hp : Along step P s is) : Along step R s is := by
  induction is generalizing s with
  | nil => trivial
  | cons i is ih => exact ⟨hR s i hs hp.1, ih (hstep s i hs hp.1) hp.2⟩

/-- `P` holds of every state of a run together with the inputs that are still to come. -/
def Ahead (P : σ → List ι → Prop) : σ → List ι → Prop
  | s, [] => P s []
  | s, i :: is => P s (i :: is) ∧ Ahead P (step s i) is

/-- What holds of every moment holds of the present one. -/
theorem Ahead.now {P : σ → List ι → Prop} {s : σ} {is : List ι} (h : Ahead step P s is) :
    P s is := by
  cases is with
  | nil => exact h
  | cons i is => exact h.1

/-- A first part of a run that keeps an invariant under which `P` holds whatever is to come.

**Proof sketch.** Induction on the first part, at each of whose states `Q` gives `P` for whatever is
to come. -/
theorem Ahead.append {P : σ → List ι → Prop} {Q : σ → Prop} (hP : ∀ s is, Q s → P s is) {s : σ}
    {is js : List ι} (hstep : ∀ s, ∀ i ∈ is, Q s → Q (step s i)) (hs : Q s)
    (h : Ahead step P (run step s is) js) : Ahead step P s (is ++ js) := by
  induction is generalizing s with
  | nil => exact h
  | cons i is ih =>
    exact ⟨hP s _ hs, ih (fun s j hj => hstep s j (by simp [hj])) (hstep s i (by simp) hs) h⟩

end Step

/-! ## Machines with outputs -/

/-- A state together with everything emitted on the way to it, oldest first. -/
structure Recorded (σ ο : Type) where
  state : σ
  trace : List ο

/-- One recorded step of a machine: the new outputs go to the end of the trace. -/
def record (m : σ → ι → σ × List ο) (r : Recorded σ ο) (i : ι) : Recorded σ ο :=
  ⟨(m r.state i).1, r.trace ++ (m r.state i).2⟩

/-- The states of a machine, its outputs forgotten. -/
def next (m : σ → ι → σ × List ο) (s : σ) (i : ι) : σ := (m s i).1

section Machine

variable (m : σ → ι → σ × List ο)

/-- Recording changes the state as the machine does. -/
@[simp] theorem record_state (r : Recorded σ ο) (i : ι) :
    (record m r i).state = (m r.state i).1 := rfl

/-- Recording appends what the machine emits. -/
@[simp] theorem record_trace (r : Recorded σ ο) (i : ι) :
    (record m r i).trace = r.trace ++ (m r.state i).2 := rfl

/-- Recording does not influence the states. -/
theorem run_record_state (r : Recorded σ ο) (is : List ι) :
    (run (record m) r is).state = run (next m) r.state is := by
  induction is generalizing r with
  | nil => rfl
  | cons i is ih => rw [run_cons, ih]; rfl

/-- The recorded run from a state with an empty trace. -/
def recorded (s : σ) (is : List ι) : Recorded σ ο := run (record m) ⟨s, []⟩ is

/-- The empty run: the first state, and nothing emitted. -/
@[simp] theorem recorded_nil (s : σ) : recorded m s [] = ⟨s, []⟩ := rfl

/-- The state of a recorded run is that of the run. -/
@[simp] theorem recorded_state (s : σ) (is : List ι) :
    (recorded m s is).state = run (next m) s is := run_record_state m _ _

/-- The last input adds what it emits. -/
@[simp] theorem recorded_concat_trace (s : σ) (is : List ι) (i : ι) :
    (recorded m s (is ++ [i])).trace =
      (recorded m s is).trace ++ (m (run (next m) s is) i).2 := by
  rw [recorded, run_concat, record_trace, ← recorded, recorded_state]

end Machine

/-! ## Deleting inputs -/

section Deletion

/-- The inputs that stay when those with a mark are deleted. -/
def kept (marked : List (ι × Bool)) : List ι :=
  marked.filterMap fun x => if x.2 then none else some x.1

/-- Nothing is kept of nothing. -/
@[simp] theorem kept_nil : kept ([] : List (ι × Bool)) = [] := rfl

/-- An input at the end is kept unless it is marked. -/
theorem kept_concat (marked : List (ι × Bool)) (i : ι) (mark : Bool) :
    kept (marked ++ [(i, mark)]) = if mark then kept marked else kept marked ++ [i] := by
  cases mark <;> simp [kept]

/-- Deleting inputs that do not change the state does not change where a run ends.

**Proof sketch.** Induction on the marked inputs. An unmarked input is taken in both runs; a marked
one is taken in one of them only, and there it changes nothing. -/
theorem run_kept (step : σ → ι → σ) {s : σ} {marked : List (ι × Bool)}
    (h : Along (fun s x => step s x.1) (fun s x => x.2 = true → step s x.1 = s) s marked) :
    run step s (kept marked) = run step s (marked.map Prod.fst) := by
  induction marked generalizing s with
  | nil => rfl
  | cons x marked ih =>
    obtain ⟨hx, hmarked⟩ := h
    have hrest := ih hmarked
    obtain ⟨i, _ | _⟩ := x
    · exact hrest
    · have hsame : step s i = s := hx rfl
      rw [List.map_cons, run_cons, ← hrest]
      show run step s (kept marked) = run step (step s i) (kept marked)
      rw [hsame]

/-- If moreover they emit nothing that the observer `f` sees, it sees the same of both runs.

**Proof sketch.** Induction on the marked inputs from the end. Both runs are in the same state
before the last one (`run_kept`), so an unmarked one emits the same in both, and a marked one emits
nothing that is seen. -/
theorem recorded_kept_filterMap (m : σ → ι → σ × List ο) (f : ο → Option α) {s : σ}
    {marked : List (ι × Bool)}
    (h : Along (fun s x => next m s x.1)
      (fun s x => x.2 = true → next m s x.1 = s ∧ (m s x.1).2.filterMap f = []) s marked) :
    (recorded m s (kept marked)).trace.filterMap f =
      (recorded m s (marked.map Prod.fst)).trace.filterMap f := by
  induction marked using List.reverseRecOn with
  | nil => rfl
  | append_singleton marked x ih =>
    rw [along_concat] at h
    obtain ⟨hmarked, hx⟩ := h
    have hall : run (fun s x => next m s x.1) s marked = run (next m) s (marked.map Prod.fst) := by
      simp [run, List.foldl_map]
    have hend : run (next m) s (kept marked) = run (next m) s (marked.map Prod.fst) := by
      refine run_kept (next m) ?_
      exact along_of_invariant _ (Q := fun _ => True) (fun _ _ _ _ => trivial)
        (fun s x _ hsx hmark => (hsx hmark).1) trivial hmarked
    obtain ⟨i, _ | _⟩ := x
    · simp [kept_concat, hend, ih hmarked]
    · have hsilent := (hx rfl).2
      rw [hall] at hsilent
      simp [kept_concat, hsilent, ih hmarked]

end Deletion

/-! ## The inputs since the last one of a kind -/

section Since

variable (p : ι → Bool)

/-- The inputs up to and including the last one with the property `p`. -/
def upToLast (is : List ι) : List ι := is.rdropWhile (fun i => !p i)

/-- The inputs after the last one with the property `p` (all of them if there is none). -/
def sinceLast (is : List ι) : List ι := is.rtakeWhile (fun i => !p i)

/-- Nothing has come yet. -/
@[simp] theorem sinceLast_nil : sinceLast p [] = [] := rfl

/-- Nothing has come yet. -/
@[simp] theorem upToLast_nil : upToLast p [] = [] := rfl

/-- An input with `p` starts afresh, and any other comes at the end. -/
theorem sinceLast_concat (is : List ι) (i : ι) :
    sinceLast p (is ++ [i]) = if p i then [] else sinceLast p is ++ [i] := by
  cases h : p i <;> simp [sinceLast, h]

/-- An input with `p` moves the cut to the end, and any other leaves it where it is. -/
theorem upToLast_concat (is : List ι) (i : ι) :
    upToLast p (is ++ [i]) = if p i then is ++ [i] else upToLast p is := by
  cases h : p i <;> simp [upToLast, h]

/-- The two pieces make up the whole list. -/
theorem upToLast_append_sinceLast (is : List ι) : upToLast p is ++ sinceLast p is = is :=
  List.rdropWhile_append_rtakeWhile

/-- What a machine emitted while handling the inputs since the last one with `p`. -/
def traceSince (m : σ → ι → σ × List ο) (s : σ) (is : List ι) : List ο :=
  (recorded m (run (next m) s (upToLast p is)) (sinceLast p is)).trace

/-- Nothing has been emitted yet. -/
@[simp] theorem traceSince_nil (m : σ → ι → σ × List ο) (s : σ) :
    traceSince p m s [] = [] := rfl

/-- One more input starts the trace afresh if it has the property, and else adds its outputs. -/
theorem traceSince_concat (m : σ → ι → σ × List ο) (s : σ) (is : List ι) (i : ι) :
    traceSince p m s (is ++ [i]) =
      if p i then [] else traceSince p m s is ++ (m (run (next m) s is) i).2 := by
  rw [traceSince, sinceLast_concat, upToLast_concat]
  cases h : p i
  · have hrun : run (next m) (run (next m) s (upToLast p is)) (sinceLast p is) =
        run (next m) s is := by
      rw [← run_append, upToLast_append_sinceLast]
    simp [hrun, traceSince]
  · simp

end Since

/-! ## The latest value -/

/-- The value carried by the last of the inputs that carries one. -/
def latest (f : ι → Option α) (is : List ι) : Option α := (is.filterMap f).getLast?

/-- There is no latest value before the first input. -/
@[simp] theorem latest_nil (f : ι → Option α) : latest f [] = none := rfl

/-- One more input replaces the latest value if it carries one. -/
theorem latest_concat (f : ι → Option α) (is : List ι) (i : ι) :
    latest f (is ++ [i]) = (f i).or (latest f is) := by
  cases h : f i <;> simp [latest, h]

/-- The latest value since the last input with `p`, or else `d`: such an input resets it to `d`,
any other replaces it if it carries one. -/
theorem getD_latest_sinceLast_concat (p : ι → Bool) (f : ι → Option α) (d : α) (is : List ι)
    (i : ι) :
    (latest f (sinceLast p (is ++ [i]))).getD d =
      if p i then d else (f i).getD ((latest f (sinceLast p is)).getD d) := by
  rw [sinceLast_concat]
  split_ifs
  · rfl
  · rw [latest_concat]
    cases f i <;> rfl

/-! ## Switches -/

section Switch

/-- What is emitted when a switch is turned from one position to the other. -/
def turn (up down : List ο) : Bool → Bool → List ο
  | false, true => up
  | true, false => down
  | false, false | true, true => []

/-- A switch that stays where it is emits nothing. -/
@[simp] theorem turn_self (up down : List ο) (on : Bool) : turn up down on on = [] := by
  cases on <;> rfl

/-- Of turning a switch nobody sees anything who sees nothing of either turn. -/
theorem filter_turn_eq_nil (up down : List ο) {p : ο → Bool} (before after : Bool)
    (hup : up.filter p = []) (hdown : down.filter p = []) :
    (turn up down before after).filter p = [] := by
  cases before <;> cases after <;> first | rfl | assumption

/-- Who sees everything of both turns sees everything. -/
theorem filter_turn_eq_self (up down : List ο) {p : ο → Bool} (before after : Bool)
    (hup : up.filter p = up) (hdown : down.filter p = down) :
    (turn up down before after).filter p = turn up down before after := by
  cases before <;> cases after <;> first | rfl | assumption

/-- `n` times on and off again, and on once more if the switch ends `on`. -/
def turns (up down : List ο) (n : ℕ) (on : Bool) : List ο :=
  (List.replicate n (up ++ down)).flatten ++ if on then up else []

/-- One more turn. -/
theorem turns_append_turn (up down : List ο) (n : ℕ) (before after : Bool) :
    ∃ n', turns up down n before ++ turn up down before after = turns up down n' after := by
  cases before <;> cases after
  · exact ⟨n, by simp [turn]⟩
  · exact ⟨n, by simp [turn, turns]⟩
  · exact ⟨n + 1, by simp [turn, turns, List.replicate_succ', List.append_assoc]⟩
  · exact ⟨n, by simp [turn]⟩

/-- If every input leaves the switch alone or sets it, and the outputs with `p` are those of
turning it, then the switch is where the latest input that sets it put it, and the outputs with
`p` are those of turning it on and off by turns. `Q` is an invariant of the machine.

**Proof sketch.** Induction on the inputs from the end, with the number of turns so far. The last
input leaves the switch as `hon` says, which is the latest input that sets it, and what it adds of
the outputs with `p` is one turn at most (`turns_append_turn`). -/
theorem recorded_turns (m : σ → ι → σ × List ο) {Q : σ → Prop} {on : σ → Bool}
    {switch : ι → Option Bool} {p : ο → Bool} {up down : List ο}
    (hQ : ∀ s i, Q s → Q (next m s i))
    (hon : ∀ s i, Q s → on (next m s i) = (switch i).getD (on s))
    (hturn : ∀ s i, Q s → (m s i).2.filter p = turn up down (on s) (on (next m s i)))
    {s : σ} (hs : Q s) (hoff : on s = false) (is : List ι) :
    on (recorded m s is).state = (latest switch is).getD false ∧
      ∃ n, (recorded m s is).trace.filter p = turns up down n (on (recorded m s is).state) := by
  induction is using List.reverseRecOn with
  | nil => exact ⟨hoff, 0, by simp [turns, hoff]⟩
  | append_singleton is i ih =>
    rw [recorded_state] at ih
    obtain ⟨ihon, n, ihtrace⟩ := ih
    have hreached : Q (run (next m) s is) := run_induction (next m) hQ hs is
    obtain ⟨n', hn'⟩ := turns_append_turn up down n (on (run (next m) s is))
      (on (next m (run (next m) s is) i))
    rw [recorded_state, run_concat]
    refine ⟨?_, n', ?_⟩
    · rw [hon _ i hreached, ihon, latest_concat]
      cases switch i <;> rfl
    · rw [recorded_concat_trace, List.filter_append, ihtrace, hturn _ i hreached, hn']

end Switch

end Run
