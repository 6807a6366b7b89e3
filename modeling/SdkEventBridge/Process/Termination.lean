import SdkEventBridge.Process.Ending

set_option relaxedAutoImplicit false
set_option autoImplicit false

/-!
# Main comes to its end

In the model of `Model.Process`, `main` comes to its end whatever arrives and whatever the server
threads do: it never waits for them, and the number of its calls is bounded by that of its
iterations. When it has ended, the channels of the bridges and of the `/reset` subscriber are
closed. A handler that is under way then can still publish, but no message is delivered any more
and no response is sent. The end of the objects themselves and the exit of the process, which the
model leaves out, come after that.

## Main definitions

* `mainBound` — how many calls `main` makes at most.
* `Ended` — `main` has done everything.

## Main results

* `within_mainScript` — the bound.
* `ended_of_done` — a main thread that has nothing left to do has ended.
* `process_ends` — the end of `main`, after which nothing is delivered.
-/

namespace SdkEventBridge

open PlanarNorm Resumption Run App

/-! ## Main comes to its end -/

section Bound

variable {K : Type} [Field K] [LinearOrder K]

/-- How many calls `main` makes at most. -/
def mainBound (sdk : UnitreeSdk K) (n : ℕ) : ℕ :=
  (startup sdk).length + callBound .loop * n + 6

omit [Field K] [LinearOrder K] in
/-- An iteration makes four calls at most, every other step one. -/
theorem within_mainProgram (steps : List (MainStep K)) :
    (mainProgram steps).Within (steps.length + 3 * steps.countP MainStep.isIteration) := by
  induction steps with
  | nil => exact Prog.within_done
  | cons step steps ih =>
    have hone : ∀ j : ProcessCall K, (Prog.call j fun _ => mainProgram steps).Within
        (steps.length + 1 + 3 * steps.countP MainStep.isIteration) := by
      intro j
      rw [Nat.add_right_comm]
      exact fun _ => ih
    cases step with
    | host i => exact hone _
    | cmdVelInitChannel => exact hone _
    | cmdCtlInitChannel => exact hone _
    | iteration =>
      have hseq := (within_loopIteration.lift ProcessCall.app Process.app).seq ih
      refine Prog.Within.mono hseq ?_
      rw [List.length_cons, List.countP_cons_of_pos rfl]
      omega

/-- The bound on the calls of `main`. -/
theorem within_mainScript (sdk : UnitreeSdk K) (n : ℕ) :
    (mainProgram (mainScript sdk n)).Within (mainBound sdk n) := by
  refine (within_mainProgram _).mono ?_
  have hstartup : (startup sdk).countP MainStep.isIteration = 0 := by
    simp [startup, List.countP_map, Function.comp_def, MainStep.isIteration]
  simp [mainScript, mainBound, shutdown, destructors, callBound, List.countP_replicate,
    MainStep.isIteration, hstartup]
  omega

end Bound

section Ended

variable {K : Type} [Field K] [LinearOrder K] [HasHypot K] {sdk : UnitreeSdk K}
  {config : BridgeConfig} {n : ℕ} {c : ProcessPool K}

/-! ## After main -/

variable (sdk config) in
/-- `main` has done everything, the calls that the destructors of its objects make included. -/
structure Ended (c : ProcessPool K) : Prop where
  ending : Ending sdk config c
  main : c.prog .loop = .done

omit [Field K] [LinearOrder K] [HasHypot K] in
/-- A main thread that has nothing left to do has no step left. -/
theorem mainProgram_eq_done {steps : List (MainStep K)} (h : mainProgram steps = .done) :
    steps = [] := by
  cases steps with
  | nil => rfl
  | cons step steps =>
    cases step <;> exact absurd h (by simp [mainProgram, loopIteration, inProcess])

omit [HasHypot K] in
/-- When `main` has ended the host is as the destructors leave it. -/
theorem Ended.host (h : Ended sdk config c) : c.state.host = endHost sdk := by
  obtain ⟨rest, -, hmain, hend⟩ := h.ending.main
  obtain rfl := mainProgram_eq_done (hmain.symm.trans h.main)
  exact hend

omit [HasHypot K] in
/-- The channels that messages arrive on are closed. -/
theorem Ended.isOpen (h : Ended sdk config c) (message : Message) :
    c.state.host.isOpen message = false := by
  rw [h.host]
  cases message <;> rfl

/-- One step after `main` delivers nothing. -/
theorem Ended.step (h : Ended sdk config c) (l : Label Thread Message Time) :
    Ended sdk config ((processSystem sdk config).step c l) ∧
      delivered ((processSystem sdk config).step c l).trace = delivered c.trace := by
  have hending := (h.ending.step l).1
  rcases System.step_cases (S := processSystem sdk config) (c := c) l with
    hsame | ⟨message, -, -, hstep⟩ | ⟨t, e, i, next, -, hprog, hstep⟩
  · rw [hsame]
    exact ⟨h, rfl⟩
  · rw [hstep] at hending ⊢
    refine ⟨⟨hending, ?_⟩, rfl⟩
    exact (Function.update_of_ne (Ne.symm message.thread_ne_loop) _ _).trans h.main
  · have ht : t ≠ .loop := by
      rintro rfl
      exact absurd (hprog.symm.trans h.main) (by simp)
    have hnone : delivered ((processSystem sdk config).call e c.state i).2 = [] := by
      rcases h.ending.servers t ht with ⟨p, hp, -⟩ | ⟨message, -, hmessage⟩
      · cases p with
        | done => exact absurd (hprog.symm.trans hp) (by simp [inProcess])
        | call j after =>
          obtain ⟨rfl, -⟩ := Prog.call.inj (hprog.symm.trans hp)
          exact (call_app sdk config e c.state j).2.2
      · obtain ⟨rfl, -⟩ := Prog.call.inj (hprog.symm.trans hmessage)
        simp [processSystem, Process.call, h.isOpen, delivered]
    rw [hstep] at hending ⊢
    refine ⟨⟨hending, ?_⟩, ?_⟩
    · exact (Function.update_of_ne (Ne.symm ht) _ _).trans h.main
    · rw [delivered_append, hnone, List.append_nil]

/-- Nothing is delivered any more. -/
theorem Ended.run (h : Ended sdk config c) (later : List (Label Thread Message Time)) :
    Ended sdk config (Run.run (processSystem sdk config).step c later) ∧
      delivered (Run.run (processSystem sdk config).step c later).trace = delivered c.trace := by
  refine run_induction (processSystem sdk config).step
    (Q := fun c' => Ended sdk config c' ∧ delivered c'.trace = delivered c.trace) ?_ ⟨h, rfl⟩ later
  rintro c' l ⟨hended, hsame⟩
  exact ⟨(hended.step l).1, (hended.step l).2.trans hsame⟩

variable (sdk config n)

/-- When the main thread has nothing left to do `main` has done everything. -/
theorem ended_of_done {ls : List (Label Thread Message Time)}
    (hmain : (processRun sdk config n ls).prog .loop = .done) :
    Ended sdk config (processRun sdk config n ls) := by
  rcases process_phases sdk config n ls with ⟨k, hstarting⟩ | ⟨ls', rest, h⟩ | hending
  · obtain ⟨i, hcall, -⟩ := hstarting.next_call
    exact absurd (hcall.symm.trans hmain) (by simp)
  · have hprog := h.main.symm.trans hmain
    cases hloop : (interleaved sdk ls').prog .loop with
    | done =>
      rw [hloop] at hprog
      obtain rfl := mainProgram_eq_done hprog
      exact ⟨h.ending (congrArg Host.cmdVelPublisher h.toEnd), hmain⟩
    | call i next =>
      rw [hloop] at hprog
      exact absurd hprog (by simp [inProcess])
  · exact ⟨hending, hmain⟩

/-- A run of the process goes on from where its first part ends. -/
theorem processRun_append (ls later : List (Label Thread Message Time)) :
    processRun sdk config n (ls ++ later) =
      Run.run (processSystem sdk config).step (processRun sdk config n ls) later :=
  run_append _ _ _ _

end Ended

/-- **`main` comes to its end**, whatever arrives and whatever the server threads do: with `n`
iterations of its loop it has ended once it has been given as many steps as the bound says. The
channels of the bridges and of the `/reset` subscriber are closed then, and from then on nothing is
delivered and no response is sent.

**Proof sketch.** The program of `main` makes at most `mainBound sdk n` calls
(`within_mainScript`), and a thread is never blocked, so it is done after that many steps
(`System.exists_done`). A main thread that is done has run its destructors (`ended_of_done`), which
leave the host at `endHost`, where no channel is open. Every later step finds them closed
(`Ended.run`) and is silent (`Ending.run`). -/
theorem process_ends {K : Type} [Field K] [LinearOrder K] [HasHypot K] (sdk : UnitreeSdk K)
    (config : BridgeConfig) (n : ℕ) (ls : List (Label Thread Message Time))
    (hle : mainBound sdk n ≤ advances .loop ls) :
    let c := processRun sdk config n ls
    c.prog .loop = .done ∧ c.state.host = endHost sdk ∧
      ∀ later, let d := processRun sdk config n (ls ++ later)
        delivered d.trace = delivered c.trace ∧
        sportResponses (outputs d.trace) = sportResponses (outputs c.trace) ∧
        switcherResponses (outputs d.trace) = switcherResponses (outputs c.trace) := by
  intro c
  have hbegun : ((processStart sdk n).prog .loop).Within (mainBound sdk n) := by
    simpa [processStart] using within_mainScript sdk n
  obtain ⟨pre, ⟨rest, rfl⟩, hdone, -⟩ :=
    System.exists_done (S := processSystem sdk config) hbegun ls hle
  have hended : Ended sdk config c := by
    have hpre : Ended sdk config (processRun sdk config n pre) :=
      ended_of_done sdk config n hdone
    have hrest := (hpre.run rest).1
    rwa [← processRun_append] at hrest
  refine ⟨hended.main, hended.host, fun later => ?_⟩
  have hsilent := (hended.ending.run later).2
  rw [processRun_append]
  exact ⟨(hended.run later).2, hsilent.sportSent, hsilent.switcherSent⟩

/-- A STANDDOWN is delivered before the one iteration of the loop, and its handler is still under way
when `main` has ended; a RELEASE_MODE that arrives then is not delivered. -/
theorem process_ends_handler_under_way :
    let ls : List (Label Thread Message Time) :=
      List.replicate 29 (.advance .loop 0) ++ .start (.sportRequest (sampleRequest 1005 "")) ::
        .advance .sport 0 :: .advance .sport 0 :: List.replicate 10 (.advance .loop 0)
    let c := processRun (sampleSdk ℝ) ⟨0, "eth0"⟩ 1 ls
    let d := processRun (sampleSdk ℝ) ⟨0, "eth0"⟩ 1
      (ls ++ [.start (.switcherRequest (sampleRequest 1003 "")), .advance .switcher 0])
    (delivered c.trace = [.sportRequest (sampleRequest 1005 "")] ∧ c.prog .sport ≠ .done) ∧
      c.prog .loop = .done ∧ c.state.host = endHost (sampleSdk ℝ) ∧
      delivered d.trace = delivered c.trace ∧
      sportResponses (outputs d.trace) = sportResponses (outputs c.trace) ∧
      switcherResponses (outputs d.trace) = switcherResponses (outputs c.trace) := by
  intro ls c d
  have hcalls : (match c.prog .sport with
      | .done => false
      | .call _ _ => true) = true := by decide +kernel
  have hbusy : c.prog .sport ≠ .done := by
    intro hdone
    rw [hdone] at hcalls
    exact Bool.false_ne_true hcalls
  obtain ⟨hmain, hhost, hlater⟩ := process_ends (sampleSdk ℝ) ⟨0, "eth0"⟩ 1 ls (by decide)
  exact ⟨⟨by decide +kernel, hbusy⟩, hmain, hhost, hlater _⟩

end SdkEventBridge
