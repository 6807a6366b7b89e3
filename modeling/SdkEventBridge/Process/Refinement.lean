import SdkEventBridge.Process.Simulation

set_option relaxedAutoImplicit false
set_option autoImplicit false

/-!
# The process refines the interleaved application

`appSystem` takes for granted that the channels are initialised and the handlers registered before
anything arrives, and that every response is sent. This file shows that `main` sees to it. Until
it drops its handles, whatever arrives and whenever, during the startup, the loop and the
shutdown, the process does what an interleaved run of the application does in which exactly the
delivered messages are handled; at most one response of each bridge is lost, when it is stopped.

## Main results

* `process_refines_interleaved` — the refinement.
-/

namespace SdkEventBridge

open PlanarNorm Resumption Run App

/-- **The process refines the interleaved application.** Until `main` drops its handle, what the
process has done, whatever arrived and whenever, is what an interleaved run of the application does
in which the inputs are the delivered messages, in order, and at most `n` iterations of the loop; on
both sides a call is one atomic step. It has published the same messages, and sent the same
responses but for at most one of each bridge, which is lost only after the bridge was stopped. Once
the `/reset` channel is open it is in the same state.

**Proof sketch.** The state is one of the startup or matched, by `starting_or_matches`. During the
startup nothing has happened and the empty run matches it. A matched state names the run; what each
bridge has lost comes from `SentUntil`, and is nothing while the bridge is started, since then its
sender has not ended. -/
theorem process_refines_interleaved {K : Type} [Field K] [LinearOrder K] [HasHypot K]
    (sdk : UnitreeSdk K) (config : BridgeConfig) (n : ℕ) (ls : List (Label Thread Message Time))
    (hholds : (processRun sdk config n ls).state.host.cmdVelPublisher = true) :
    let c := processRun sdk config n ls
    ∃ ls', let d := interleaved sdk ls'
      (inputs sdk ls').filter (fun input => decide (input ≠ .loop)) =
          (delivered c.trace).map Message.input ∧
        (inputs sdk ls').countP (fun input => decide (input = .loop)) ≤ n ∧
        publications d.trace = publications (outputs c.trace) ∧
        (∃ lost, sportResponses d.trace = sportResponses (outputs c.trace) ++ lost ∧
          lost.length ≤ 1 ∧ (c.state.host.lifecycle.sport.started = true → lost = [])) ∧
        (∃ lost, switcherResponses d.trace = switcherResponses (outputs c.trace) ++ lost ∧
          lost.length ≤ 1 ∧ (c.state.host.lifecycle.switcher.started = true → lost = [])) ∧
        (c.state.host.lifecycle.resetInitialized = true → c.state.app = d.state) := by
  intro c
  rcases starting_or_matches ls hholds with ⟨k, hstarting⟩ | ⟨ls', rest, h⟩
  · have htrace : c.trace = [] := hstarting.trace
    have hclosed : c.state.host.isOpen .reset = false := by
      rw [show c.state = startState sdk config k from hstarting.state]
      exact isOpen_startState sdk config hstarting.lt .reset
    refine ⟨[], ?_⟩
    rw [htrace]
    refine ⟨rfl, Nat.zero_le n, rfl, ⟨[], rfl, Nat.zero_le 1, fun _ => rfl⟩,
      ⟨[], rfl, Nat.zero_le 1, fun _ => rfl⟩, fun hreset => ?_⟩
    exact absurd (hclosed.symm.trans hreset) Bool.false_ne_true
  · obtain ⟨lost, hlost, hlength, hnone⟩ := h.sport.lost
    obtain ⟨lost', hlost', hlength', hnone'⟩ := h.switcher.lost
    refine ⟨ls', h.handled, ?_, h.published.symm, ⟨lost, hlost, hlength, fun hstarted => ?_⟩,
      ⟨lost', hlost', hlength', fun hstarted => ?_⟩, fun _ => h.app⟩
    · have hloops := h.loops
      omega
    · have hup := h.wellFormed.sportServerStub.trans hstarted
      exact hnone fun hended => Bool.false_ne_true (hended.1.symm.trans hup)
    · have hup := h.wellFormed.responsePublisher.trans hstarted
      exact hnone' fun hended => Bool.false_ne_true (hended.1.symm.trans hup)

/-- A reset that arrives before the handlers are registered. -/
theorem process_refines_interleaved_reset :
    let c := processRun (sampleSdk ℝ) ⟨0, "eth0"⟩ 1
      (List.replicate 5 (.advance .loop 0) ++ [.start .reset, .advance .reset 0, .advance .reset 0])
    ∃ ls', let d := interleaved (sampleSdk ℝ) ls'
      (inputs (sampleSdk ℝ) ls').filter (fun input => decide (input ≠ .loop)) =
          (delivered c.trace).map Message.input ∧
        (inputs (sampleSdk ℝ) ls').countP (fun input => decide (input = .loop)) ≤ 1 ∧
        publications d.trace = publications (outputs c.trace) ∧
        (∃ lost, sportResponses d.trace = sportResponses (outputs c.trace) ++ lost ∧
          lost.length ≤ 1 ∧ (c.state.host.lifecycle.sport.started = true → lost = [])) ∧
        (∃ lost, switcherResponses d.trace = switcherResponses (outputs c.trace) ++ lost ∧
          lost.length ≤ 1 ∧ (c.state.host.lifecycle.switcher.started = true → lost = [])) ∧
        (c.state.host.lifecycle.resetInitialized = true → c.state.app = d.state) :=
  process_refines_interleaved (sampleSdk ℝ) ⟨0, "eth0"⟩ 1 _ rfl

end SdkEventBridge
