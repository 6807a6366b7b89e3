import SdkEventBridge.App.Serial
import SdkEventBridge.Process.Responses
import SdkEventBridge.Process.Startup

set_option relaxedAutoImplicit false
set_option autoImplicit false

/-!
# The process, step by step

Every moment of the process is one of the startup, in which nothing can happen but the next call of
`main` and the loss of messages, or it is matched by an interleaved run of the application: what a
message leads to begins there when the message is delivered, and an iteration of the loop when
`main` comes to it.

## Main definitions

* `Matches` — a moment of the process and an interleaved run that matches it.
* `Starting` — a moment of the startup.

## Main results

* `Matches.step`, `Starting.step` — one step.
* `starting_or_matches` — all steps.
-/

namespace SdkEventBridge

open PlanarNorm Resumption Run App

/-! ## The simulation -/

/-- A moment of the process. -/
abbrev ProcessPool (K : Type) := Pool Thread (Process K) (ProcessCall K) (ProcessOutput K)

section Simulation

variable {K : Type} [Field K] [LinearOrder K] [HasHypot K] (sdk : UnitreeSdk K)
  (config : BridgeConfig) (n : ℕ)

/-- The process has come to `c`, with `rest` of `main` still to do, and the interleaved run `ls`
of the application to the same point: every server thread is where it is there, or has a message
that is still to be delivered. -/
structure Matches (c : ProcessPool K) (ls : List (Label Thread AppInput Time))
    (rest : List (MainStep K)) : Prop where
  app : c.state.app = (interleaved sdk ls).state
  suffix : rest <:+ laterSteps sdk n
  prepared : Ahead (Host.apply config) (Prepared sdk) c.state.host (hostCalls rest)
  toEnd : run (Host.apply config) c.state.host (hostCalls rest) = endHost sdk
  wellFormed : c.state.host.lifecycle.WellFormed
  main : c.prog .loop =
    (inProcess ((interleaved sdk ls).prog .loop)).seq (mainProgram rest)
  servers : ∀ t, t ≠ .loop →
    c.prog t = inProcess ((interleaved sdk ls).prog t) ∨
      (interleaved sdk ls).prog t = .done ∧
        ∃ message : Message, message.thread = t ∧ c.prog t = messageProgram sdk message
  sportServed : (interleaved sdk ls).prog .sport ≠ .done →
    HostCall.lifecycle .sportStart ∉ hostCalls rest
  switcherServed : (interleaved sdk ls).prog .switcher ≠ .done →
    HostCall.lifecycle .switcherStart ∉ hostCalls rest
  handled : (inputs sdk ls).filter (fun input => decide (input ≠ .loop)) =
    (delivered c.trace).map Message.input
  loops : (inputs sdk ls).countP (fun input => decide (input = .loop)) +
    rest.countP MainStep.isIteration = n
  dropped : c.state.host.cmdVelPublisher = false →
    rest <:+ destructors ∧ (interleaved sdk ls).prog .loop = .done
  published : publications (outputs c.trace) = publications (interleaved sdk ls).trace
  sport : SentUntil (c.state.host.lifecycle.sport.sportServerStub = false ∧
      HostCall.lifecycle .sportStart ∉ hostCalls rest)
    (((interleaved sdk ls).prog .sport).Calls fun i => ¬ i.Responds)
    (sportResponses (outputs c.trace)) (sportResponses (interleaved sdk ls).trace)
  switcher : SentUntil (c.state.host.lifecycle.switcher.responsePublisher = false ∧
      HostCall.lifecycle .switcherStart ∉ hostCalls rest)
    (((interleaved sdk ls).prog .switcher).Calls fun i => ¬ i.Responds)
    (switcherResponses (outputs c.trace)) (switcherResponses (interleaved sdk ls).trace)

variable {sdk config n} {c : ProcessPool K} {ls : List (Label Thread AppInput Time)}
  {rest : List (MainStep K)}

/-- The channels of the publishers are initialised. -/
theorem Matches.later (h : Matches sdk config n c ls rest) : ∀ step ∈ rest, step.IsLater := by
  have hall : ∀ step ∈ laterSteps sdk n, step.IsLater := by
    simp [laterSteps, shutdown, destructors, MainStep.IsLater, or_imp, forall_and]
  exact fun step hstep => hall step (h.suffix.subset hstep)

/-- One more step adds the input it begins, if it begins one. -/
theorem inputs_concat (l : Label Thread AppInput Time) :
    App.inputs sdk (ls ++ [l]) = App.inputs sdk ls ++
      ((appSystem sdk).event (interleaved sdk ls) l).toList.filterMap Event.job? := by
  rw [App.inputs, App.inputs, appLog, appLog, System.log_concat, List.filterMap_append]
  rfl

/-- A call begins no input. -/
theorem inputs_advance (t : Thread) (e : Time) :
    App.inputs sdk (ls ++ [.advance t e]) = App.inputs sdk ls := by
  rw [inputs_concat]
  cases hprog : (interleaved sdk ls).prog t <;> simp [System.event, hprog, Event.job?]

/-- An input that begins on an idle thread is added. -/
theorem inputs_start (input : AppInput)
    (hidle : (interleaved sdk ls).prog ((appSystem sdk).thread input) = .done) :
    App.inputs sdk (ls ++ [.start input]) = App.inputs sdk ls ++ [input] := by
  rw [inputs_concat]
  simp [System.event, hidle, Event.job?]

/-- A sport response comes from the sport thread only. -/
theorem sportAnswer_of_ne {t : Thread} (ht : t ≠ .sport) {i : Call} {next : App K → AppProg K}
    (hprog : (interleaved sdk ls).prog t = .call i next) : i.sportAnswer = [] := by
  have hcalls := System.calls_of_others (S := appSystem sdk) (c := Pool.idle App.init)
    (fun _ => calls_not_sport sdk) (fun _ _ => trivial) ls ht
  change ((interleaved sdk ls).prog t).Calls _ at hcalls
  rw [hprog] at hcalls
  cases i with
  | sendSportResponse response => exact absurd hcalls.1 (by simp [Call.sportMessage])
  | _ => rfl

/-- A response of the motion switcher comes from its thread only. -/
theorem switcherAnswer_of_ne {t : Thread} (ht : t ≠ .switcher) {i : Call}
    {next : App K → AppProg K} (hprog : (interleaved sdk ls).prog t = .call i next) :
    i.switcherAnswer = [] := by
  have hcalls := System.calls_of_others (S := appSystem sdk) (c := Pool.idle App.init)
    (fun _ => calls_not_switcher sdk) (fun _ _ => trivial) ls ht
  change ((interleaved sdk ls).prog t).Calls _ at hcalls
  rw [hprog] at hcalls
  exact hcalls.1.2.1

variable (sdk) in
/-- At every moment each thread has one response left to send at most. -/
theorem respondsOnce_interleaved (ls : List (Label Thread AppInput Time)) (t : Thread) :
    ((interleaved sdk ls).prog t).ReadsOnce Call.Responds :=
  System.run_threads (S := appSystem sdk) (c := Pool.idle App.init)
    (R := fun _ p => p.ReadsOnce Call.Responds) (respondsOnce_program sdk)
    (fun _ _ _ app h => (h app).2) (fun _ => trivial) ls t

/-- What a call of thread `t` answers, and whether thread `u` is quiet after it.

**Proof sketch.** If the call is one of `u`, its program responds at most once, so a response leaves
the rest quiet, and a quiet program makes no response. If it is one of another thread, `u` is where
it was. -/
theorem quiet_advance {t u : Thread} {i : Call} {next : App K → AppProg K} (app : App K)
    {answer : List Response} (hprog : (interleaved sdk ls).prog t = .call i next)
    (hanswer : ¬ i.Responds → answer = []) (hother : t ≠ u → answer = []) :
    (answer ≠ [] → t = u ∧
      (Function.update (interleaved sdk ls).prog t (next app) u).Calls fun i => ¬ i.Responds) ∧
    ((((interleaved sdk ls).prog u).Calls fun i => ¬ i.Responds) → answer = [] ∧
      (Function.update (interleaved sdk ls).prog t (next app) u).Calls
        fun i => ¬ i.Responds) := by
  by_cases ht : t = u
  · subst ht
    have honce := respondsOnce_interleaved sdk ls t
    rw [hprog, Prog.readsOnce_call] at honce
    rw [Function.update_self, hprog]
    refine ⟨fun hne => ⟨rfl, (honce app).1 ?_⟩, fun hquiet => ⟨hanswer hquiet.1, hquiet.2 app⟩⟩
    by_contra hi
    exact hne (hanswer hi)
  · rw [Function.update_of_ne (Ne.symm ht)]
    exact ⟨fun hne => absurd (hother ht) hne, fun hquiet => ⟨hother ht, hquiet⟩⟩

/-- Both make the next call of a thread.

**Proof sketch.** The interleaved run makes the same call in the same state. The state, the
delivered messages and the programs then agree by computation. What the call sends is filtered by
the host on one side only; `quiet_advance` and `SentUntil.append` say that this loses one response
at most. -/
theorem Matches.advance (h : Matches sdk config n c ls rest) {t : Thread} (e : Time) {i : Call}
    {next : App K → AppProg K} (hprog : (interleaved sdk ls).prog t = .call i next) :
    Matches sdk config n
      { state := (Process.call sdk config e c.state (.app i)).1
        trace := c.trace ++ (Process.call sdk config e c.state (.app i)).2
        prog := Function.update c.prog t
          (if t = .loop then
            (inProcess (next (interleaved sdk ls).state)).seq (mainProgram rest)
          else inProcess (next (interleaved sdk ls).state)) }
      (ls ++ [.advance t e]) rest := by
  have hd : interleaved sdk (ls ++ [.advance t e]) =
      { state := (App.call sdk e (interleaved sdk ls).state i).1
        trace := (interleaved sdk ls).trace ++ (App.call sdk e (interleaved sdk ls).state i).2
        prog := Function.update (interleaved sdk ls).prog t
          (next (interleaved sdk ls).state) } := by
    rw [interleaved_concat]
    exact System.step_advance_of_call (S := appSystem sdk) hprog
  obtain ⟨hstate, houtputs, hdelivered⟩ := call_app sdk config e c.state i
  have hcall : (interleaved sdk ls).prog t ≠ .done := by
    simp [hprog]
  have hbusy : ∀ {u}, Function.update (interleaved sdk ls).prog t
      (next (interleaved sdk ls).state) u ≠ .done → (interleaved sdk ls).prog u ≠ .done := by
    intro u hu
    by_cases hut : u = t
    · exact hut ▸ hcall
    · rwa [Function.update_of_ne hut] at hu
  rw [hstate]
  constructor
  · rw [hd, h.app]
  · exact h.suffix
  · exact h.prepared
  · exact h.toEnd
  · exact h.wellFormed
  · rw [hd]
    by_cases ht : t = .loop
    · subst ht
      simp
    · simp [Function.update_of_ne (Ne.symm ht), h.main]
  · intro u hu
    rw [hd]
    by_cases hut : u = t
    · subst hut
      simp [hu]
    · simpa [Function.update_of_ne hut] using h.servers u hu
  · rw [hd]
    exact fun hsport => h.sportServed (hbusy hsport)
  · rw [hd]
    exact fun hswitcher => h.switcherServed (hbusy hswitcher)
  · rw [inputs_advance, delivered_append, hdelivered, List.append_nil]
    exact h.handled
  · rw [inputs_advance]
    exact h.loops
  · intro hnull
    obtain ⟨hrest, hdone⟩ := h.dropped hnull
    refine ⟨hrest, ?_⟩
    have ht : Thread.loop ≠ t := by
      rintro rfl
      exact hcall hdone
    rw [hd]
    simpa [Function.update_of_ne ht] using hdone
  · rw [hd, outputs_append, houtputs, publications_append, publications_append,
      publications_sent, h.published, h.app]
  · have hanswer : sportResponses (App.call sdk e (interleaved sdk ls).state i).2 =
        i.sportAnswer := call_sportAnswer sdk e _ i
    obtain ⟨hmore, hquiet⟩ := quiet_advance (u := .sport) (interleaved sdk ls).state hprog
      (fun hi => (Call.answers_of_not_responds hi).1) fun ht => sportAnswer_of_ne ht hprog
    rw [hd, outputs_append, houtputs, sportResponses_append, sportResponses_append,
      sportResponses_sent, h.app, hanswer]
    exact h.sport.append i.length_answers.1
      (fun hne => ⟨h.sportServed ((hmore hne).1 ▸ hcall), (hmore hne).2⟩) hquiet
  · have hanswer : switcherResponses (App.call sdk e (interleaved sdk ls).state i).2 =
        i.switcherAnswer := call_switcherAnswer sdk e _ i
    obtain ⟨hmore, hquiet⟩ := quiet_advance (u := .switcher) (interleaved sdk ls).state
      hprog (fun hi => (Call.answers_of_not_responds hi).2) fun ht => switcherAnswer_of_ne ht hprog
    rw [hd, outputs_append, houtputs, switcherResponses_append, switcherResponses_append,
      switcherResponses_sent, h.app, hanswer]
    exact h.switcher.append i.length_answers.2
      (fun hne => ⟨h.switcherServed ((hmore hne).1 ▸ hcall), (hmore hne).2⟩) hquiet

/-! ### Messages -/

omit [Field K] [LinearOrder K] [HasHypot K] in
/-- No message is handled on the main thread. -/
theorem Message.thread_ne_loop (message : Message) : message.thread ≠ .loop := by
  cases message <;> simp [Message.thread]

/-- A message and its input are handled on the same thread. -/
theorem thread_input (message : Message) :
    (appSystem sdk).thread message.input = message.thread := by
  cases message <;> rfl

/-- A thread that is idle in the process is idle in the interleaved run. -/
theorem Matches.idle (h : Matches sdk config n c ls rest) {t : Thread} (ht : t ≠ .loop)
    (hidle : c.prog t = .done) : (interleaved sdk ls).prog t = .done := by
  rcases h.servers t ht with hprog | ⟨hdone, -⟩
  · exact (Prog.lift_eq_done_iff _ _).mp (hprog.symm.trans hidle)
  · exact hdone

/-- A message arrives on an idle thread. -/
theorem Matches.arrive (h : Matches sdk config n c ls rest) (message : Message)
    (hidle : c.prog message.thread = .done) :
    Matches sdk config n
      { c with prog := Function.update c.prog message.thread (messageProgram sdk message) }
      ls rest := by
  refine { h with main := ?_, servers := ?_ }
  · simpa [Function.update_of_ne (Ne.symm message.thread_ne_loop)] using h.main
  · intro u hu
    by_cases hut : u = message.thread
    · subst hut
      exact Or.inr ⟨h.idle hu hidle, message, rfl, by simp⟩
    · simpa [Function.update_of_ne hut] using h.servers u hu

/-- A message is lost because its channel is closed. -/
theorem Matches.lose (h : Matches sdk config n c ls rest) {t : Thread} (ht : t ≠ .loop)
    (hidle : (interleaved sdk ls).prog t = .done) :
    Matches sdk config n { c with prog := Function.update c.prog t .done } ls rest := by
  refine { h with main := ?_, servers := ?_ }
  · simpa [Function.update_of_ne (Ne.symm ht)] using h.main
  · intro u hu
    by_cases hut : u = t
    · subst hut
      exact Or.inl (by simp [hidle, inProcess])
    · simpa [Function.update_of_ne hut] using h.servers u hu

/-- A message is delivered, to the handlers that `main` registers.

**Proof sketch.** An open channel belongs to a bridge that has its handlers, so the callback is the
program the interleaved run starts on this input. Nothing is sent. A request cannot come to a bridge
whose sender has ended, since its channel would be closed. -/
theorem Matches.deliver (h : Matches sdk config n c ls rest) (message : Message)
    (hopen : c.state.host.isOpen message = true)
    (hholds : c.state.host.cmdVelPublisher = true)
    (hidle : (interleaved sdk ls).prog message.thread = .done) :
    Matches sdk config n
      { state := c.state
        trace := c.trace ++ [.delivered message]
        prog := Function.update c.prog message.thread
          (inProcess (c.state.callback sdk message)) }
      (ls ++ [.start message.input]) rest := by
  have hcallback : c.state.callback sdk message = program sdk message.input := by
    cases message with
    | sportRequest request =>
      exact congrArg (fun bridge => SdkEventBridgeClass.handleInterceptedRequest sdk bridge request)
        (h.prepared.now.sportBridge hopen)
    | switcherRequest request =>
      exact congrArg
        (fun bridge => MotionSwitcherBridgeClass.handleInterceptedRequest sdk bridge request)
        (h.prepared.now.switcherBridge hopen)
    | reset => simp [Process.callback, hholds, Message.input, program]
  have hthread : (interleaved sdk ls).prog ((appSystem sdk).thread message.input) = .done := by
    rw [thread_input]
    exact hidle
  have hd : interleaved sdk (ls ++ [.start message.input]) =
      { interleaved sdk ls with
        prog := Function.update (interleaved sdk ls).prog message.thread
          (program sdk message.input) } := by
    rw [interleaved_concat, System.step_start_of_done hthread, thread_input]
    rfl
  have hsame : outputs (c.trace ++ [.delivered message]) = outputs c.trace := by
    rw [outputs_append]
    exact List.append_nil _
  rw [hcallback]
  constructor
  · rw [hd]
    exact h.app
  · exact h.suffix
  · exact h.prepared
  · exact h.toEnd
  · exact h.wellFormed
  · rw [hd]
    simpa [Function.update_of_ne (Ne.symm message.thread_ne_loop)] using h.main
  · intro u hu
    rw [hd]
    by_cases hut : u = message.thread
    · subst hut
      simp
    · simpa [Function.update_of_ne hut] using h.servers u hu
  · rw [hd]
    intro hsport
    cases message with
    | sportRequest request => exact h.prepared.now.sportOnce hopen
    | _ => exact h.sportServed hsport
  · rw [hd]
    intro hswitcher
    cases message with
    | switcherRequest request => exact h.prepared.now.switcherOnce hopen
    | _ => exact h.switcherServed hswitcher
  · rw [inputs_start _ hthread, List.filter_append, h.handled]
    cases message <;> simp [delivered, ProcessOutput.message?, Message.input]
  · rw [inputs_start _ hthread, List.countP_append, ← h.loops]
    cases message <;> simp [Message.input]
  · exact fun hnull => absurd (hholds.symm.trans hnull) Bool.noConfusion
  · rw [hd, hsame]
    exact h.published
  · rw [hd, hsame]
    refine h.sport.mono id fun hended hquiet => ?_
    cases message with
    | sportRequest request => exact absurd (hended.1.symm.trans hopen) Bool.false_ne_true
    | _ => exact hquiet
  · rw [hd, hsame]
    refine h.switcher.mono id fun hended hquiet => ?_
    cases message with
    | switcherRequest request =>
      have hup := (h.wellFormed.responsePublisher.trans h.wellFormed.requestSubscriber.symm).trans
        hopen
      exact absurd (hended.1.symm.trans hup) Bool.false_ne_true
    | _ => exact hquiet

/-! ### The main thread -/

/-- An iteration of the loop begins.

**Proof sketch.** The interleaved run starts its loop program on the idle thread. One iteration
moves from the steps that `main` still has to the inputs handled, so their sum stays `n`. -/
theorem Matches.iterate (h : Matches sdk config n c ls (.iteration :: rest))
    (hidle : (interleaved sdk ls).prog .loop = .done) :
    Matches sdk config n c (ls ++ [.start .loop]) rest := by
  have hd : interleaved sdk (ls ++ [.start .loop]) =
      { interleaved sdk ls with
        prog := Function.update (interleaved sdk ls).prog .loop loopIteration } := by
    rw [interleaved_concat]
    exact System.step_start_of_done (S := appSystem sdk) hidle
  have hhost : hostCalls (.iteration :: rest : List (MainStep K)) = hostCalls rest := rfl
  have hcount : (MainStep.iteration :: rest : List (MainStep K)).countP MainStep.isIteration =
      rest.countP MainStep.isIteration + 1 := List.countP_cons_of_pos rfl
  constructor
  · rw [hd]
    exact h.app
  · exact (List.suffix_cons _ _).trans h.suffix
  · exact hhost ▸ h.prepared
  · exact hhost ▸ h.toEnd
  · exact h.wellFormed
  · rw [hd, h.main, hidle]
    simp [inProcess, mainProgram]
  · intro u hu
    rw [hd]
    simpa [Function.update_of_ne hu] using h.servers u hu
  · rw [hd]
    exact h.sportServed
  · rw [hd]
    exact h.switcherServed
  · rw [inputs_start .loop hidle, List.filter_append, ← h.handled]
    simp
  · rw [inputs_start .loop hidle, List.countP_append, ← h.loops, hcount]
    simp
    omega
  · intro hnull
    have hmem := (h.dropped hnull).1.subset List.mem_cons_self
    exact absurd hmem (by simp [destructors])
  · rw [hd]
    exact h.published
  · rw [hd]
    exact h.sport
  · rw [hd]
    exact h.switcher

/-- Dropping the handle is the last thing `main` does itself.

**Proof sketch.** `main` drops its handle once, and in the list of its later steps that step stands
between those of the front, where it does not occur, and the destructors. A suffix that begins with
it therefore goes on with the destructors. -/
theorem Matches.last (h : Matches sdk config n c ls (.host .resetCmdVelPublisher :: rest)) :
    rest = destructors := by
  let front : List (MainStep K) := .host (.lifecycle (.resetInitChannel true)) ::
    ((mainSportRegistrations sdk).map (fun r => .host (.registerSport r)) ++
      ((mainSwitcherRegistrations sdk).map (fun r => .host (.registerSwitcher r)) ++
        (.host (.lifecycle .sportStart) :: .host (.lifecycle .switcherStart) ::
          (List.replicate n .iteration ++
            [.host (.lifecycle .sportStop), .host (.lifecycle .switcherStop)]))))
  have hsteps : laterSteps sdk n = front ++ .host .resetCmdVelPublisher :: destructors := by
    simp [laterSteps, shutdown, front]
  have hfront : MainStep.host .resetCmdVelPublisher ∉ front := by simp [front]
  have hdestructors : MainStep.host .resetCmdVelPublisher ∉ (destructors : List (MainStep K)) := by
    simp [destructors]
  obtain ⟨pre, hpre⟩ := h.suffix
  rw [hsteps] at hpre
  rcases List.append_eq_append_iff.mp hpre with ⟨mid, hmid, hrest⟩ | ⟨mid, hmid, hrest⟩
  · cases mid with
    | nil => exact (List.cons.inj hrest).2
    | cons step mid =>
      obtain ⟨rfl, -⟩ := List.cons.inj hrest
      exact absurd (by simp [hmid]) hfront
  · cases mid with
    | nil => exact (List.cons.inj hrest).2.symm
    | cons step mid =>
      obtain ⟨-, htail⟩ := List.cons.inj hrest
      exact absurd (by simp [htail]) hdestructors

/-- `main` does something to the host.

**Proof sketch.** The interleaved run stays where it is. The call of `main` opens or closes
channels; the two members that respond appear only by `Start`, so a sender that has ended stays
ended. Dropping the handle leaves the destructors, by `Matches.last`. -/
theorem Matches.host {i : HostCall K} (h : Matches sdk config n c ls (.host i :: rest))
    (hidle : (interleaved sdk ls).prog .loop = .done) :
    Matches sdk config n
      { state := { c.state with host := c.state.host.apply config i }
        trace := c.trace
        prog := Function.update c.prog .loop (mainProgram rest) }
      ls rest := by
  have hcalls : hostCalls (.host i :: rest) = i :: hostCalls rest := rfl
  have hfewer : ∀ {j : HostCall K}, j ∉ hostCalls (.host i :: rest) → j ∉ hostCalls rest :=
    fun hj hrest => hj (hcalls ▸ List.mem_cons_of_mem i hrest)
  have hother : ∀ {j : HostCall K}, j ∉ hostCalls (.host i :: rest) → i ≠ j :=
    fun hj heq => hj (hcalls ▸ heq ▸ List.mem_cons_self)
  have hprepared := h.prepared
  rw [hcalls] at hprepared
  constructor
  · exact h.app
  · exact (List.suffix_cons _ _).trans h.suffix
  · exact hprepared.2
  · exact h.toEnd
  · exact Host.wellFormed_apply h.wellFormed i
  · simp [hidle, inProcess]
  · intro u hu
    simpa [Function.update_of_ne hu] using h.servers u hu
  · exact fun hsport => hfewer (h.sportServed hsport)
  · exact fun hswitcher => hfewer (h.switcherServed hswitcher)
  · exact h.handled
  · exact h.loops
  · intro hnull
    refine ⟨?_, hidle⟩
    cases i with
    | resetCmdVelPublisher =>
      obtain rfl := h.last
      exact List.suffix_rfl
    | _ => exact (List.suffix_cons _ _).trans (h.dropped hnull).1
  · exact h.published
  · refine h.sport.mono (fun hended => ?_) fun _ hquiet => hquiet
    exact ⟨Host.sportServerStub_apply h.wellFormed hended.1 (hother hended.2), hfewer hended.2⟩
  · refine h.switcher.mono (fun hended => ?_) fun _ hquiet => hquiet
    exact ⟨Host.responsePublisher_apply h.wellFormed hended.1 (hother hended.2), hfewer hended.2⟩

/-! ### The startup -/

variable (sdk config n) in
/-- Of the calls before the `/reset` channel is opened, `main` has made `k`. -/
structure Starting (k : ℕ) (c : ProcessPool K) : Prop where
  lt : k < 4
  state : c.state = startState sdk config k
  trace : c.trace = []
  main : c.prog .loop =
    (firstCalls.drop k).foldr (fun i p => .call i fun _ => p) (mainProgram (laterSteps sdk n))
  servers : ∀ t, t ≠ .loop → c.prog t = .done ∨
    ∃ message : Message, message.thread = t ∧ c.prog t = messageProgram sdk message

/-- The process begins with its startup. -/
theorem starting_processStart : Starting sdk config n 0 (processStart sdk n) := by
  refine ⟨by omega, rfl, rfl, ?_, fun t ht => Or.inl ?_⟩
  · simp [processStart, mainScript_eq]
  · simp [processStart, ht]

/-- The first calls do not read the clock, emit nothing, and come one after another. -/
theorem Starting.next_call {k : ℕ} (h : Starting sdk config n k c) :
    ∃ i, c.prog .loop = .call i (fun _ =>
        (firstCalls.drop (k + 1)).foldr (fun i p => .call i fun _ => p)
          (mainProgram (laterSteps sdk n))) ∧
      ∀ e, Process.call sdk config e c.state i = (startState sdk config (k + 1), []) := by
  obtain ⟨hk, hstate, -, hmain, -⟩ := h
  rw [hmain, hstate]
  rcases k with _ | _ | _ | _ | k
  · exact ⟨_, rfl, fun _ => rfl⟩
  · exact ⟨_, rfl, fun _ => rfl⟩
  · exact ⟨_, rfl, fun _ => rfl⟩
  · exact ⟨_, rfl, fun _ => rfl⟩
  · omega

/-- When the channels of the publishers are initialised, nothing has happened yet. -/
theorem matches_of_started {c : ProcessPool K} (hstate : c.state = startState sdk config 4)
    (htrace : c.trace = []) (hmain : c.prog .loop = mainProgram (laterSteps sdk n))
    (hservers : ∀ t, t ≠ .loop → c.prog t = .done ∨
      ∃ message : Message, message.thread = t ∧ c.prog t = messageProgram sdk message) :
    Matches sdk config n c [] (laterSteps sdk n) := by
  have happ : c.state.app = App.init := by rw [hstate]; rfl
  have hhost : c.state.host = preparedHost := by rw [hstate]; rfl
  constructor
  · exact happ
  · exact List.suffix_rfl
  · rw [hhost]
    exact prepared_main sdk config n
  · rw [hhost]
    exact run_laterSteps sdk config n
  · rw [hhost]
    constructor <;> simp [preparedHost, Host.init, Lifecycle.init]
  · exact hmain
  · intro t ht
    rcases hservers t ht with hdone | hmessage
    · exact Or.inl hdone
    · exact Or.inr ⟨rfl, hmessage⟩
  · exact fun hsport => absurd rfl hsport
  · exact fun hswitcher => absurd rfl hswitcher
  · rw [htrace]
    rfl
  · simp [laterSteps, shutdown, destructors, List.countP_map, List.countP_replicate,
      MainStep.isIteration, Function.comp_def, App.inputs, appLog]
  · rw [hhost]
    exact fun hnull => absurd hnull Bool.noConfusion
  · rw [htrace]
    rfl
  · rw [htrace]
    exact Or.inl rfl
  · rw [htrace]
    exact Or.inl rfl

/-- During the startup nothing can happen but the next call of `main` and the loss of messages.

**Proof sketch.** A message may arrive on a thread. A call of `main` is the next of its first four;
after the fourth the state is matched, by `matches_of_started`. A call of another thread is the
delivery of a message to a closed channel, which loses it. -/
theorem Starting.step {k : ℕ} (h : Starting sdk config n k c) (l : Label Thread Message Time) :
    (∃ k', Starting sdk config n k' ((processSystem sdk config).step c l)) ∨
      Matches sdk config n ((processSystem sdk config).step c l) [] (laterSteps sdk n) := by
  rcases System.step_cases (S := processSystem sdk config) (c := c) l with
    hsame | ⟨message, -, -, hstep⟩ | ⟨t, e, i, next, -, hprog, hstep⟩
  · rw [hsame]
    exact Or.inl ⟨k, h⟩
  · have hthread : (processSystem sdk config).thread message = message.thread := rfl
    rw [hstep, hthread]
    refine Or.inl ⟨k, { h with main := ?_, servers := ?_ }⟩
    · simpa [Function.update_of_ne (Ne.symm message.thread_ne_loop)] using h.main
    · intro u hu
      by_cases hut : u = message.thread
      · subst hut
        exact Or.inr ⟨message, rfl, Function.update_self _ _ _⟩
      · simpa [Function.update_of_ne hut] using h.servers u hu
  · by_cases ht : t = .loop
    · subst ht
      obtain ⟨j, hj, hcall⟩ := h.next_call
      obtain ⟨rfl, rfl⟩ := Prog.call.inj (hprog.symm.trans hj)
      have hcall' : (processSystem sdk config).call e c.state i =
          (startState sdk config (k + 1), []) := hcall e
      rw [hstep, hcall', List.append_nil]
      have hservers : ∀ p u, u ≠ .loop →
          Function.update c.prog .loop p u = .done ∨ ∃ message : Message,
            message.thread = u ∧ Function.update c.prog .loop p u = messageProgram sdk message :=
        fun p u hu => by simpa [Function.update_of_ne hu] using h.servers u hu
      by_cases hk : k + 1 < 4
      · exact Or.inl ⟨k + 1, hk, rfl, h.trace, by simp, hservers _⟩
      · obtain rfl : k = 3 := by have := h.lt; omega
        exact Or.inr (matches_of_started rfl h.trace (by simp [firstCalls]) (hservers _))
    · rcases h.servers t ht with hdone | ⟨message, rfl, hmessage⟩
      · exact absurd (hprog.symm.trans hdone) (by simp)
      · obtain ⟨rfl, rfl⟩ := Prog.call.inj (hprog.symm.trans hmessage)
        have hclosed : c.state.host.isOpen message = false := by
          rw [h.state]
          exact isOpen_startState sdk config h.lt message
        have hcall : (processSystem sdk config).call e c.state (.deliver message) =
            (c.state, []) := by
          simp [processSystem, Process.call, hclosed]
        rw [hstep, hcall, List.append_nil]
        refine Or.inl ⟨k, { h with main := ?_, servers := ?_ }⟩
        · simpa [Function.update_of_ne (Ne.symm ht)] using h.main
        · intro u hu
          by_cases hut : u = message.thread
          · subst hut
            exact Or.inl (by simp [hclosed])
          · simpa [Function.update_of_ne hut] using h.servers u hu

/-- Every step of the process is matched, as long as `main` keeps its handle.

**Proof sketch.** The step does nothing, lets a message arrive, or makes the next call of a thread.
A call of `main` is one of the iteration in progress, the first of the next iteration, or one on the
host. A call of a server thread is one of its handler, or a delivery, which an open channel makes a
new input and a closed one loses. -/
theorem Matches.step (h : Matches sdk config n c ls rest) (l : Label Thread Message Time)
    (hholds : c.state.host.cmdVelPublisher = true) :
    ∃ ls' rest', Matches sdk config n ((processSystem sdk config).step c l) ls' rest' := by
  rcases System.step_cases (S := processSystem sdk config) (c := c) l with
    hsame | ⟨message, -, hidle, hstep⟩ | ⟨t, e, i, next, -, hprog, hstep⟩
  · rw [hsame]
    exact ⟨ls, rest, h⟩
  · rw [hstep]
    exact ⟨ls, rest, h.arrive message hidle⟩
  rw [hstep]
  by_cases ht : t = .loop
  · subst ht
    have hmain := h.main.symm.trans hprog
    rcases Prog.lift_seq_eq_call _ _ hmain with ⟨hdone, hrest⟩ | ⟨j, q, hq, rfl, rfl⟩
    · -- An iteration has ended, or the loop has not begun, or has ended.
      cases rest with
      | nil => exact absurd hrest (by simp [mainProgram])
      | cons step rest =>
        cases step with
        | host j =>
          obtain ⟨rfl, rfl⟩ := Prog.call.inj hrest
          have hcall : (processSystem sdk config).call e c.state (.host j) =
            ({ c.state with host := c.state.host.apply config j }, []) := rfl
          rw [hcall, List.append_nil]
          exact ⟨ls, rest, h.host hdone⟩
        | cmdVelInitChannel => exact absurd (h.later _ List.mem_cons_self) id
        | cmdCtlInitChannel => exact absurd (h.later _ List.mem_cons_self) id
        | iteration =>
          have hiterate := h.iterate hdone
          obtain ⟨rfl, rfl⟩ := Prog.call.inj hrest
          have hnext : (interleaved sdk (ls ++ [.start .loop])).prog .loop = loopIteration := by
            rw [interleaved_concat, System.step_start_of_done (S := appSystem sdk) hdone]
            simp [appSystem, program]
          have hadvance := hiterate.advance e hnext
          rw [if_pos rfl] at hadvance
          exact ⟨_, rest, hadvance⟩
    · have hadvance := h.advance e hq
      rw [if_pos rfl, ← h.app] at hadvance
      exact ⟨_, rest, hadvance⟩
  · rcases h.servers t ht with hlift | ⟨hdone, message, rfl, hmessage⟩
    · cases hq : (interleaved sdk ls).prog t with
      | done =>
        rw [hq] at hlift
        exact absurd (hprog.symm.trans hlift) (by simp [inProcess])
      | call j q =>
        rw [hq] at hlift
        obtain ⟨rfl, rfl⟩ := Prog.call.inj (hprog.symm.trans hlift)
        have hadvance := h.advance e hq
        rw [if_neg ht, ← h.app] at hadvance
        exact ⟨_, rest, hadvance⟩
    · obtain ⟨rfl, rfl⟩ := Prog.call.inj (hprog.symm.trans hmessage)
      cases hopen : c.state.host.isOpen message with
      | false =>
        have hcall : (processSystem sdk config).call e c.state (.deliver message) =
            (c.state, []) := by
          simp [processSystem, Process.call, hopen]
        rw [hcall, List.append_nil]
        simp only [hopen]
        exact ⟨ls, rest, h.lose ht hdone⟩
      | true =>
        have hcall : (processSystem sdk config).call e c.state (.deliver message) =
            (c.state, [.delivered message]) := by
          simp [processSystem, Process.call, hopen]
        rw [hcall]
        simp only [hopen, if_true]
        exact ⟨_, rest, h.deliver message hopen hholds hdone⟩

/-- `main` does not get its handle back. -/
theorem holds_of_step (l : Label Thread Message Time)
    (hholds : ((processSystem sdk config).step c l).state.host.cmdVelPublisher = true) :
    c.state.host.cmdVelPublisher = true := by
  rcases System.step_cases (S := processSystem sdk config) (c := c) l with
    hsame | ⟨message, -, -, hstep⟩ | ⟨t, e, i, next, -, -, hstep⟩
  · rwa [hsame] at hholds
  · rwa [hstep] at hholds
  · rw [hstep] at hholds
    cases i with
    | app i =>
      have hcall := (call_app sdk config e c.state i).1
      change (Process.call sdk config e c.state (.app i)).1.host.cmdVelPublisher = true at hholds
      rwa [hcall] at hholds
    | host i =>
      cases i with
      | resetCmdVelPublisher => exact absurd hholds Bool.false_ne_true
      | _ => exact hholds
    | _ => exact hholds

/-- Every moment of the process is one of the startup or is matched.

**Proof sketch.** Induction on the run from its end. The handle is never got back, so it was there
before the last step. A step of the startup stays in it or ends it matched, and a step from a
matched state is matched. -/
theorem starting_or_matches (ls : List (Label Thread Message Time))
    (hholds : (processRun sdk config n ls).state.host.cmdVelPublisher = true) :
    (∃ k, Starting sdk config n k (processRun sdk config n ls)) ∨
      ∃ ls' rest, Matches sdk config n (processRun sdk config n ls) ls' rest := by
  induction ls using List.reverseRecOn with
  | nil => exact Or.inl ⟨0, starting_processStart⟩
  | append_singleton ls l ih =>
    have hrun : processRun sdk config n (ls ++ [l]) =
        (processSystem sdk config).step (processRun sdk config n ls) l := run_concat _ _ _ _
    rw [hrun] at hholds ⊢
    have hbefore := holds_of_step l hholds
    rcases ih hbefore with ⟨k, hstarting⟩ | ⟨ls', rest, hmatches⟩
    · rcases hstarting.step l with hagain | hstarted
      · exact Or.inl hagain
      · exact Or.inr ⟨[], _, hstarted⟩
    · exact Or.inr (hmatches.step l hbefore)

end Simulation

end SdkEventBridge
