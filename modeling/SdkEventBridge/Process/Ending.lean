import SdkEventBridge.Process.Answers

set_option relaxedAutoImplicit false
set_option autoImplicit false

/-!
# The end of main

When `main` has dropped its handle the bridges are closed, and all it has still to do is to run the
destructors. The server threads go on: they finish what they have begun, and lose what else arrives
but for a `/reset` message, as long as its channel is open. No request is delivered any more and no
response is sent, so that the answers of the process are in order at every moment of its life.

## Main definitions

* `Finishing`, `Ending` — `main` has dropped its handle, and runs the destructors.
* `Silent` — no request was delivered, and no response sent.

## Main results

* `Ending.step` — one step.
* `process_answers` — the answers of the process.
-/

namespace SdkEventBridge

open PlanarNorm Resumption Run App

section AfterDrop

variable {K : Type} [Field K] [LinearOrder K] [HasHypot K] {sdk : UnitreeSdk K}
  {config : BridgeConfig} {n : ℕ} {c : ProcessPool K} {ls : List (Label Thread AppInput Time)}
  {rest : List (MainStep K)}

/-! ## After the handle is dropped -/

variable (sdk config) in
/-- The main thread runs the destructors, and `host` is what they have left so far. -/
def Finishing (host : Host K) (p : ProcessProg K) : Prop :=
  ∃ rest, rest <:+ destructors ∧ p = mainProgram rest ∧
    run (Host.apply config) host (hostCalls rest) = endHost sdk

variable (sdk config) in
/-- `main` has dropped its handle, and runs the destructors. No bridge can receive, and the server
threads finish what they have begun, which publishes commands on the sport thread only, or are about
to deliver or lose a message. -/
structure Ending (c : ProcessPool K) : Prop where
  main : Finishing sdk config c.state.host (c.prog .loop)
  wellFormed : c.state.host.lifecycle.WellFormed
  deaf : c.state.host.Deaf
  dropped : c.state.host.cmdVelPublisher = false
  servers : ∀ t, t ≠ .loop →
    (∃ p : AppProg K, c.prog t = inProcess p ∧
      (t ≠ .sport → p.Calls fun i => i.commands = [])) ∨
      ∃ message : Message, message.thread = t ∧ c.prog t = messageProgram sdk message
  answers : AnswersDelivered sdk c

/-- No request was delivered, and no response sent. -/
structure Silent (c c' : ProcessPool K) : Prop where
  sportRequests : sportDelivered c'.trace = sportDelivered c.trace
  switcherRequests : switcherDelivered c'.trace = switcherDelivered c.trace
  sportSent : sportResponses (outputs c'.trace) = sportResponses (outputs c.trace)
  switcherSent : switcherResponses (outputs c'.trace) = switcherResponses (outputs c.trace)

omit [Field K] [LinearOrder K] [HasHypot K] in
/-- Silence lasts over two stretches. -/
theorem Silent.trans {c' c'' : ProcessPool K} (h : Silent c c') (h' : Silent c' c'') :
    Silent c c'' where
  sportRequests := h'.sportRequests.trans h.sportRequests
  switcherRequests := h'.switcherRequests.trans h.switcherRequests
  sportSent := h'.sportSent.trans h.sportSent
  switcherSent := h'.switcherSent.trans h.switcherSent

omit [Field K] [LinearOrder K] [HasHypot K] in
/-- A stretch is silent if what it adds has no delivered request and no response. -/
theorem Silent.of_append {c' : ProcessPool K} (more : List (ProcessOutput K))
    (htrace : c'.trace = c.trace ++ more)
    (hresponses : sportResponses (outputs more) = [] ∧ switcherResponses (outputs more) = [])
    (hdelivered : sportDelivered more = [] ∧ switcherDelivered more = []) : Silent c c' where
  sportRequests := by
    rw [htrace, sportDelivered_append, hdelivered.1, List.append_nil]
  switcherRequests := by
    rw [htrace, switcherDelivered_append, hdelivered.2, List.append_nil]
  sportSent := by
    rw [htrace, outputs_append, sportResponses_append, hresponses.1, List.append_nil]
  switcherSent := by
    rw [htrace, outputs_append, switcherResponses_append, hresponses.2, List.append_nil]

omit [Field K] [LinearOrder K] [HasHypot K] in
/-- A call that puts nothing on the sport topics publishes no command. -/
theorem Call.commands_of_sportMessage {i : Call} (h : i.sportMessage = []) : i.commands = [] := by
  rw [Call.commands, h]
  rfl

/-- When `main` has dropped its handle only the destructors are left to it.

**Proof sketch.** The handle is dropped after the last iteration and after both bridges were
stopped, so `main` has its destructors left. A server thread is in a handler of the interleaved run,
which makes no commands if it is not the sport thread, or holds a message. -/
theorem Matches.ending (h : Matches sdk config n c ls rest)
    (hdropped : c.state.host.cmdVelPublisher = false) : Ending sdk config c := by
  obtain ⟨hrest, hloop⟩ := h.dropped hdropped
  have hmain : c.prog .loop = mainProgram rest := by
    rw [h.main, hloop]
    rfl
  refine ⟨⟨rest, hrest, hmain, h.toEnd⟩, h.wellFormed, h.prepared.now.dropped hdropped, hdropped,
    fun t ht => ?_, h.answers⟩
  rcases h.servers t ht with hlift | ⟨-, hmessage⟩
  · refine Or.inl ⟨_, hlift, fun hsport => ?_⟩
    have hcalls := System.calls_of_others (S := appSystem sdk) (c := Pool.idle App.init)
      (fun _ => calls_not_sport sdk) (fun _ _ => trivial) ls hsport
    exact hcalls.mono fun _ hi => Call.commands_of_sportMessage hi
  · exact Or.inr hmessage

omit [Field K] [LinearOrder K] [HasHypot K] in
/-- A bridge that cannot receive is not started. -/
theorem Host.Deaf.not_started {host : Host K} (h : host.Deaf)
    (hwellFormed : host.lifecycle.WellFormed) :
    host.lifecycle.sport.started = false ∧ host.lifecycle.switcher.started = false :=
  ⟨hwellFormed.sportServerStub.symm.trans h.1, hwellFormed.requestSubscriber.symm.trans h.2⟩

omit [HasHypot K] in
/-- After the handle is dropped no bridge is started. -/
theorem Ending.not_started (h : Ending sdk config c) :
    c.state.host.lifecycle.sport.started = false ∧
      c.state.host.lifecycle.switcher.started = false := h.deaf.not_started h.wellFormed

/-- All that a call of a server thread puts out is its command. -/
theorem Ending.outputs_call (h : Ending sdk config c) (e : Time) (i : Call) :
    commands (outputs (Process.call sdk config e c.state (.app i)).2) = i.commands ∧
      sportResponses (outputs (Process.call sdk config e c.state (.app i)).2) = [] ∧
      switcherResponses (outputs (Process.call sdk config e c.state (.app i)).2) = [] := by
  obtain ⟨-, houtputs, -⟩ := call_app sdk config e c.state i
  have hpublisher : c.state.host.lifecycle.switcher.responsePublisher = false :=
    h.wellFormed.responsePublisher.trans h.not_started.2
  rw [houtputs]
  refine ⟨?_, ?_, ?_⟩
  · rw [← commands_publications, publications_sent, commands_publications, commands_sportMessages,
      sportMessages, call_sportMessages]
    rfl
  · rw [sportResponses_sent, h.deaf.1]
    rfl
  · rw [switcherResponses_sent, hpublisher]
    rfl

omit [Field K] [LinearOrder K] [HasHypot K] in
/-- Silence keeps the answers in order, if the bridges are not started and the sport thread pays
what it owes.

**Proof sketch.** Nothing is delivered and no response is sent, so the two balances of responses
stay; the bridges are not started, so nothing is promised of them. The command that is published is
taken from what the sport thread owes. -/
theorem AnswersDelivered.silent (h : AnswersDelivered sdk c) {c' : ProcessPool K}
    (hstarted : c'.state.host.lifecycle.sport.started = false ∧
      c'.state.host.lifecycle.switcher.started = false)
    (hsilent : Silent c c') {more : List Int32}
    (hmore : commands (outputs c'.trace) = commands (outputs c.trace) ++ more)
    (howes : ∀ due, Owes sdk Call.commands (c.prog .sport) due →
      ∃ due', due = more ++ due' ∧ Owes sdk Call.commands (c'.prog .sport) due') :
    AnswersDelivered sdk c' := by
  constructor
  · obtain ⟨due, hdue, hlength, howed⟩ := h.fsmCommands
    obtain ⟨due', rfl, howed'⟩ := howes due howed
    refine ⟨due', ?_, ?_, howed'⟩
    · rw [hsilent.sportRequests, ← hdue, hmore, List.append_assoc]
    · rw [List.length_append] at hlength
      omega
  · obtain ⟨unsent, hunsent, hlength, -⟩ := h.sport
    rw [hsilent.sportRequests, hsilent.sportSent, hstarted.1]
    exact ⟨unsent, hunsent, hlength, fun _ hup => absurd hup Bool.false_ne_true⟩
  · obtain ⟨unsent, hunsent, hlength, -⟩ := h.switcher
    rw [hsilent.switcherRequests, hsilent.switcherSent, hstarted.2]
    exact ⟨unsent, hunsent, hlength, fun _ hup => absurd hup Bool.false_ne_true⟩

omit [HasHypot K] in
/-- A message arrives on an idle thread. -/
theorem Ending.arrive (h : Ending sdk config c) (message : Message)
    (hidle : c.prog message.thread = .done) :
    Ending sdk config
      { c with prog := Function.update c.prog message.thread (messageProgram sdk message) } := by
  refine { h with main := ?_, servers := ?_, answers := ?_ }
  · simpa [Function.update_of_ne (Ne.symm message.thread_ne_loop)] using h.main
  · intro u hu
    by_cases hut : u = message.thread
    · subst hut
      exact Or.inr ⟨message, rfl, by simp⟩
    · simpa [Function.update_of_ne hut] using h.servers u hu
  · refine h.answers.silent h.not_started ⟨rfl, rfl, rfl, rfl⟩ (List.append_nil _).symm
      fun due howed => ⟨due, rfl, ?_⟩
    by_cases hsport : Thread.sport = message.thread
    · rw [hsport, hidle] at howed
      exact Or.inr ⟨howed.eq_nil_of_done, message, by simp [hsport]⟩
    · simpa [Function.update_of_ne hsport] using howed

/-- A server thread makes the next call of a handler.

**Proof sketch.** The call publishes its command at most, which `Ending.outputs_call` says. On the
sport thread that command is the next it owes, by the definition of `Settles`; on another thread
there is none. -/
theorem Ending.advance (h : Ending sdk config c) {t : Thread} (ht : t ≠ .loop) (e : Time) {i : Call}
    {next : App K → AppProg K} (hprog : c.prog t = inProcess (.call i next))
    (hothers : t ≠ .sport → (Prog.call i next : AppProg K).Calls fun i => i.commands = []) :
    let c' : ProcessPool K :=
      { state := (Process.call sdk config e c.state (.app i)).1
        trace := c.trace ++ (Process.call sdk config e c.state (.app i)).2
        prog := Function.update c.prog t (inProcess (next c.state.app)) }
    Ending sdk config c' ∧ Silent c c' := by
  intro c'
  obtain ⟨hstate, -, hdelivered⟩ := call_app sdk config e c.state i
  obtain ⟨hcommands, hsport, hswitcher⟩ := h.outputs_call e i
  have hhost : c'.state.host = c.state.host := by
    simp only [c', hstate]
  have hloop : c'.prog .loop = c.prog .loop := Function.update_of_ne (Ne.symm ht) _ _
  have hsilent : Silent c c' := Silent.of_append _ rfl ⟨hsport, hswitcher⟩ (by
    rw [sportDelivered, switcherDelivered, hdelivered]
    exact ⟨rfl, rfl⟩)
  have hmore : commands (outputs c'.trace) = commands (outputs c.trace) ++ i.commands := by
    rw [← hcommands, outputs_append]
    exact List.filterMap_append
  refine ⟨⟨?_, hhost ▸ h.wellFormed, hhost ▸ h.deaf, hhost ▸ h.dropped, fun u hu => ?_, ?_⟩,
    hsilent⟩
  · rw [hhost, hloop]
    exact h.main
  · by_cases hut : u = t
    · subst hut
      exact Or.inl ⟨next c.state.app, by simp [c'], fun hne => (hothers hne).2 _⟩
    · simpa [c', Function.update_of_ne hut] using h.servers u hu
  · refine h.answers.silent (hhost ▸ h.not_started) hsilent hmore fun due howed => ?_
    by_cases hut : Thread.sport = t
    · subst hut
      rw [hprog] at howed
      rcases howed with ⟨q, hq, hdue⟩ | ⟨-, message, hmessage⟩
      · cases q with
        | done => exact absurd hq (by simp [inProcess])
        | call j after =>
          obtain ⟨hj, hnext⟩ := Prog.call.inj hq
          obtain rfl := ProcessCall.app.inj hj
          obtain ⟨rest, rfl, hrest⟩ := hdue
          refine ⟨rest, rfl, Or.inl ⟨after c.state.app, ?_, ?_⟩⟩
          · have hsame : inProcess (next c.state.app) = inProcess (after c.state.app) :=
              congrFun hnext c.state
            simpa [c'] using hsame
          · simpa using hrest c.state.app
      · exact absurd hmessage (by simp [inProcess, messageProgram])
    · rw [(hothers (Ne.symm hut)).1]
      exact ⟨due, rfl, by simpa [c', Function.update_of_ne hut] using howed⟩

omit [HasHypot K] in
/-- Only a reset can be delivered, and only the motion switcher is reset then. -/
theorem Ending.callback (h : Ending sdk config c) (message : Message) :
    ∃ q : AppProg K, (if c.state.host.isOpen message then
        inProcess (c.state.callback sdk message) else .done) = inProcess q ∧
      q.Calls fun i => i.commands = [] := by
  cases hopen : c.state.host.isOpen message with
  | false => exact ⟨.done, by simp [inProcess], trivial⟩
  | true =>
    cases message with
    | sportRequest request => exact absurd (h.deaf.1.symm.trans hopen) Bool.false_ne_true
    | switcherRequest request => exact absurd (h.deaf.2.symm.trans hopen) Bool.false_ne_true
    | reset =>
      refine ⟨.one .resetMotionSwitcher, ?_, ?_⟩
      · simp [Process.callback, h.dropped]
      · simp [Call.commands, Call.sportMessage]

omit [HasHypot K] in
/-- A message is lost or, if it is a reset, delivered.

**Proof sketch.** The channels of both bridges are closed, so only a reset can be delivered, and its
callback finds no handle and resets the motion switcher alone. This adds no request to the trace and
owes no command. -/
theorem Ending.deliver (h : Ending sdk config c) {message : Message}
    (hprog : c.prog message.thread = messageProgram sdk message) :
    let c' : ProcessPool K :=
      { state := c.state
        trace := c.trace ++ if c.state.host.isOpen message then [.delivered message] else []
        prog := Function.update c.prog message.thread
          (if c.state.host.isOpen message then inProcess (c.state.callback sdk message)
          else .done) }
    Ending sdk config c' ∧ Silent c c' := by
  intro c'
  let more : List (ProcessOutput K) :=
    if c.state.host.isOpen message then [.delivered message] else []
  have hdelivered : sportDelivered more = [] ∧ switcherDelivered more = [] := by
    cases message with
    | sportRequest request =>
      have hclosed : c.state.host.isOpen (.sportRequest request) = false := h.deaf.1
      simp [more, hclosed, sportDelivered, switcherDelivered, delivered]
    | switcherRequest request =>
      have hclosed : c.state.host.isOpen (.switcherRequest request) = false := h.deaf.2
      simp [more, hclosed, sportDelivered, switcherDelivered, delivered]
    | reset =>
      cases hopen : c.state.host.isOpen .reset <;>
        simp [more, hopen, sportDelivered, switcherDelivered, delivered, ProcessOutput.message?,
          Message.input, AppInput.sportRequest?, AppInput.switcherRequest?]
  have houtputs : outputs more = [] := by
    simp only [more]
    split_ifs <;> rfl
  have hsilent : Silent c c' :=
    Silent.of_append more rfl (houtputs ▸ ⟨rfl, rfl⟩) hdelivered
  have hmore : commands (outputs c'.trace) = commands (outputs c.trace) ++ [] := by
    rw [show c'.trace = c.trace ++ more from rfl, outputs_append, houtputs, List.append_nil,
      List.append_nil]
  obtain ⟨q, hq, hquiet⟩ := h.callback message
  have hprog' : c'.prog = Function.update c.prog message.thread (inProcess q) := by
    rw [← hq]
  refine ⟨⟨?_, h.wellFormed, h.deaf, h.dropped, fun u hu => ?_, ?_⟩, hsilent⟩
  · rw [hprog', Function.update_of_ne (Ne.symm message.thread_ne_loop)]
    exact h.main
  · rw [hprog']
    by_cases hut : u = message.thread
    · subst hut
      exact Or.inl ⟨q, by simp, fun _ => hquiet⟩
    · simpa [Function.update_of_ne hut] using h.servers u hu
  · refine h.answers.silent h.not_started hsilent hmore fun due howed => ⟨due, rfl, ?_⟩
    rw [hprog']
    by_cases hsport : Thread.sport = message.thread
    · rw [hsport, hprog] at howed
      have hnil : due = [] := by
        rcases howed with ⟨p, hp, -⟩ | ⟨hnil, -⟩
        · cases p <;> exact absurd hp (by simp [inProcess, messageProgram])
        · exact hnil
      have hsettles : q.Settles Call.commands (fun _ _ => []) [] :=
        Prog.settles_nil (hquiet.mono fun _ hi => ⟨hi, fun _ => rfl⟩)
      exact Or.inl ⟨q, by simp [hsport], hnil ▸ hsettles⟩
    · simpa [Function.update_of_ne hsport] using howed

omit [HasHypot K] in
/-- A destructor runs.

**Proof sketch.** What is left to `main` is a suffix of the destructors. None of them starts a
bridge or touches the handle, so the bridges stay deaf and the answers as they are. -/
theorem Ending.destruct (h : Ending sdk config c) {i : ProcessCall K}
    {next : Process K → ProcessProg K} (hprog : c.prog .loop = .call i next) :
    ∃ j : HostCall K, i = .host j ∧
      let c' : ProcessPool K :=
        { state := { c.state with host := c.state.host.apply config j }
          trace := c.trace
          prog := Function.update c.prog .loop (next c.state) }
      Ending sdk config c' ∧ Silent c c' := by
  obtain ⟨rest, hsuffix, hmain, hend⟩ := h.main
  have hcall := hmain.symm.trans hprog
  cases rest with
  | nil => exact absurd hcall (by simp [mainProgram])
  | cons step rest =>
    have hstep : ∃ j : HostCall K, step = .host j ∧ j ≠ .lifecycle .sportStart ∧
        j ≠ .lifecycle .switcherStart ∧ j ≠ .resetCmdVelPublisher := by
      have hmem := hsuffix.subset List.mem_cons_self
      simp only [destructors, List.mem_cons, List.not_mem_nil, or_false] at hmem
      rcases hmem with rfl | rfl | rfl <;> exact ⟨_, rfl, by simp, by simp, by simp⟩
    obtain ⟨j, rfl, hsport, hswitcher, hreset⟩ := hstep
    obtain ⟨rfl, rfl⟩ := Prog.call.inj hcall
    have hwellFormed : (c.state.host.apply config j).lifecycle.WellFormed :=
      Host.wellFormed_apply h.wellFormed j
    have hpublisher : c.state.host.lifecycle.switcher.responsePublisher = false :=
      h.wellFormed.responsePublisher.trans h.not_started.2
    have hdeaf : (c.state.host.apply config j).Deaf := by
      refine ⟨Host.sportServerStub_apply h.wellFormed h.deaf.1 hsport, ?_⟩
      rw [hwellFormed.requestSubscriber, ← hwellFormed.responsePublisher]
      exact Host.responsePublisher_apply h.wellFormed hpublisher hswitcher
    have hdropped : (c.state.host.apply config j).cmdVelPublisher = false := by
      cases j <;> first | rfl | exact h.dropped
    have hloop : Function.update c.prog .loop (mainProgram rest) .loop = mainProgram rest :=
      Function.update_self _ _ _
    have hprog' : ∀ u, u ≠ .loop → Function.update c.prog .loop (mainProgram rest) u = c.prog u :=
      fun u hu => Function.update_of_ne hu _ _
    refine ⟨j, rfl, ⟨⟨rest, ?_, hloop, hend⟩, hwellFormed, hdeaf, hdropped, fun u hu => ?_, ?_⟩,
      rfl, rfl, rfl, rfl⟩
    · exact (List.suffix_cons _ _).trans hsuffix
    · simpa [hprog' u hu] using h.servers u hu
    · exact h.answers.silent (hdeaf.not_started hwellFormed) ⟨rfl, rfl, rfl, rfl⟩
        (List.append_nil _).symm fun due howed => ⟨due, rfl, by simpa using howed⟩

/-- **One step after the handle is dropped** keeps the answers in order, and is silent.

**Proof sketch.** The step does nothing, lets a message arrive, or makes the next call of a thread.
A call of `main` is a destructor. A call of a server thread is the next of a handler, or the
delivery of the message it holds. -/
theorem Ending.step (h : Ending sdk config c) (l : Label Thread Message Time) :
    Ending sdk config ((processSystem sdk config).step c l) ∧
      Silent c ((processSystem sdk config).step c l) := by
  rcases System.step_cases (S := processSystem sdk config) (c := c) l with
    hsame | ⟨message, -, hidle, hstep⟩ | ⟨t, e, i, next, -, hprog, hstep⟩
  · rw [hsame]
    exact ⟨h, rfl, rfl, rfl, rfl⟩
  · rw [hstep]
    exact ⟨h.arrive message hidle, rfl, rfl, rfl, rfl⟩
  · rw [hstep]
    by_cases ht : t = .loop
    · subst ht
      obtain ⟨j, rfl, hdestruct⟩ := h.destruct hprog
      have hcall : (processSystem sdk config).call e c.state (.host j) =
        ({ c.state with host := c.state.host.apply config j }, []) := rfl
      rw [hcall, List.append_nil]
      exact hdestruct
    · rcases h.servers t ht with ⟨p, hp, hothers⟩ | ⟨message, rfl, hmessage⟩
      · cases p with
        | done => exact absurd (hprog.symm.trans hp) (by simp [inProcess])
        | call j after =>
          obtain ⟨rfl, rfl⟩ := Prog.call.inj (hprog.symm.trans hp)
          exact h.advance ht e hp hothers
      · obtain ⟨rfl, rfl⟩ := Prog.call.inj (hprog.symm.trans hmessage)
        exact h.deliver hmessage

/-- Everything that follows is silent. -/
theorem Ending.run (h : Ending sdk config c) (later : List (Label Thread Message Time)) :
    Ending sdk config (Run.run (processSystem sdk config).step c later) ∧
      Silent c (Run.run (processSystem sdk config).step c later) := by
  refine run_induction (processSystem sdk config).step
    (Q := fun c' => Ending sdk config c' ∧ Silent c c') ?_ ⟨h, rfl, rfl, rfl, rfl⟩ later
  rintro c' l ⟨hending, hsilent⟩
  exact ⟨(hending.step l).1, hsilent.trans (hending.step l).2⟩

variable (sdk config n) in
/-- Every moment of the process is one of the startup, is matched, or comes after the handle is
dropped.

**Proof sketch.** Induction on the run from its end. A step of the startup stays in it or ends it
with a matched state. A step from a matched state with the handle there is matched again; once the
handle is dropped, `Matches.ending` makes it a state of the last phase, which every step keeps. -/
theorem process_phases (ls : List (Label Thread Message Time)) :
    (∃ k, Starting sdk config n k (processRun sdk config n ls)) ∨
      (∃ ls' rest, Matches sdk config n (processRun sdk config n ls) ls' rest) ∨
        Ending sdk config (processRun sdk config n ls) := by
  induction ls using List.reverseRecOn with
  | nil => exact Or.inl ⟨0, starting_processStart⟩
  | append_singleton ls l ih =>
    have hrun : processRun sdk config n (ls ++ [l]) =
        (processSystem sdk config).step (processRun sdk config n ls) l := run_concat _ _ _ _
    rw [hrun]
    rcases ih with ⟨k, hstarting⟩ | ⟨ls', rest, hmatches⟩ | hending
    · rcases hstarting.step l with hagain | hstarted
      · exact Or.inl hagain
      · exact Or.inr (Or.inl ⟨[], _, hstarted⟩)
    · cases hholds : (processRun sdk config n ls).state.host.cmdVelPublisher with
      | true => exact Or.inr (Or.inl (hmatches.step l hholds))
      | false => exact Or.inr (Or.inr ((hmatches.ending hholds).step l).1)
    · exact Or.inr (Or.inr (hending.step l).1)

end AfterDrop

/-- **Every delivered request is answered.** Whatever arrives and whenever, for every number of
iterations of the loop and every interleaving, the commands on `/cmd_ctl` and the sport responses
are those of the sport requests that were delivered, in order, and the responses of the motion
switcher have the identities of the requests delivered to it, in order. At most the last one of
each is missing: a command while its request is being handled, a response also after its bridge
was stopped.

**Proof sketch.** `AnswersDelivered` holds in each of the three phases of `process_phases`. A thread
that is idle owes nothing, so no command is missing then. -/
theorem process_answers {K : Type} [Field K] [LinearOrder K] [HasHypot K] (sdk : UnitreeSdk K)
    (config : BridgeConfig) (n : ℕ) (ls : List (Label Thread Message Time)) :
    let c := processRun sdk config n ls
    (∃ unpublished, commands (outputs c.trace) ++ unpublished =
        (sportDelivered c.trace).flatMap (fun request => (commandFor sdk request).toList) ∧
      unpublished.length ≤ 1 ∧ (c.prog .sport = .done → unpublished = [])) ∧
    (∃ unsent, sportResponses (outputs c.trace) ++ unsent =
        (sportDelivered c.trace).map (sportResponse sdk) ∧
      unsent.length ≤ 1 ∧
        (c.prog .sport = .done → c.state.host.lifecycle.sport.started = true → unsent = [])) ∧
    ∃ unsent, (switcherResponses (outputs c.trace)).map Response.identity ++ unsent =
        (switcherDelivered c.trace).map Request.identity ∧
      unsent.length ≤ 1 ∧
        (c.prog .switcher = .done → c.state.host.lifecycle.switcher.started = true →
          unsent = []) := by
  intro c
  have h : AnswersDelivered sdk c := by
    rcases process_phases sdk config n ls with ⟨k, hstarting⟩ | ⟨ls', rest, hmatches⟩ | hending
    · exact hstarting.answers
    · exact hmatches.answers
    · exact hending.answers
  obtain ⟨unpublished, hcommands, hlength, howed⟩ := h.fsmCommands
  refine ⟨⟨unpublished, hcommands, hlength, fun hidle => ?_⟩, h.sport, h.switcher⟩
  rw [hidle] at howed
  exact howed.eq_nil_of_done

end SdkEventBridge
