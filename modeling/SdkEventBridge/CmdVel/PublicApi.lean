import SdkEventBridge.CmdVel.History

set_option relaxedAutoImplicit false
set_option autoImplicit false

/-!
# The whole public interface of the velocity publisher

Besides the operations the application uses, `CmdVelPublisher` offers `InitChannel`, which any
publication makes up for, `PublishMove`, which publishes a velocity past all bookkeeping, and
`PublishMoveFromParameter`, another name of `HandleMove`. This file says what the first two leave
behind: nothing but the channel flag.

## Main definitions

* `PublicCall.op?` — the operation behind a public call, if the call does any bookkeeping.
* `CmdVelPublisher.publicAfter` — the publisher after a history of public calls.

## Main results

* `CmdVelPublisher.apply_initChannel` — an operation neither needs nor disturbs the channel.
* `CmdVelPublisher.raw_publish_invisible` — raw publications are invisible to all other calls.
-/

namespace SdkEventBridge

open PlanarNorm Run

/-- The operation behind a public call; `InitChannel` and the raw `PublishMove` have none. -/
def PublicCall.op? {K : Type} : PublicCall K → Option CmdVelOp
  | .op o => some o
  | .publishMoveFromParameter parameterJson => some (.handleMove parameterJson)
  | .initChannel | .publishMove _ => none

namespace CmdVelPublisher

variable {K : Type} [Field K] [LinearOrder K] [HasHypot K] (sdk : UnitreeSdk K)

/-- An operation does the same on an initialised channel, and keeps it initialised.

**Proof sketch.** Case analysis on the operation: none reads the channel flag, and the ones that
publish set it, which an initialised channel has already. -/
theorem apply_initChannel (s : CmdVelPublisher K) (now : Time) (op : CmdVelOp) :
    s.initChannel.apply sdk now op =
      ((s.apply sdk now op).1.initChannel, (s.apply sdk now op).2) := by
  have hwalk : ∀ mode enabled, s.initChannel.setWalkMode mode enabled =
      ((s.setWalkMode mode enabled).1.initChannel, (s.setWalkMode mode enabled).2) := by
    intro mode enabled
    simp only [setWalkMode, initChannel_eq]
    split_ifs <;> simp [lockJoints, unlockJoints]
  cases op with
  | setContinuousMoveMode enabled => cases enabled <;> simp [apply, setContinuousMoveMode]
  | setSpeedLevel level =>
    simp only [apply, setSpeedLevel_eq, relimit, initChannel_eq]
    split_ifs <;> rfl
  | setMotionModeName name =>
    simp only [apply, setMotionModeName_eq, relimit, initChannel_eq]
    split_ifs <;> rfl
  | setGait gait =>
    simp only [apply, setGait, initChannel_eq]
    split_ifs <;> simp [lockJoints, unlockJoints]
  | setVisionWalk enabled => exact hwalk _ _
  | setClassicWalk enabled => exact hwalk _ _
  | setFastWalk enabled => exact hwalk _ _
  | handleMove p =>
    simp only [apply, handleMove, acceptMove, initChannel_eq]
    split_ifs
    · rfl
    · simp [applySpeedLimit_eq]
  | tick =>
    have hexpires : s.initChannel.tickExpires now = s.tickExpires now := by
      simp [tickExpires]
    simp only [apply, tick_eq, hexpires]
    split_ifs <;> simp
  | resetToDefaults => simp [apply, resetToDefaults]
  | lockJoints => simp [apply, lockJoints]
  | unlockJoints => simp [apply, unlockJoints]
  | setFreeWalk => simp [apply, setFreeWalk, unlockJoints]
  | handleStop => simp [apply, handleStop]

/-- A history does the same on an initialised channel. -/
theorem recorded_initChannel (h : List (Timed CmdVelOp)) :
    recorded (timedApply sdk) (init : CmdVelPublisher K).initChannel h =
      ⟨(stateAfter sdk h).initChannel, (after sdk h).trace⟩ := by
  induction h using List.reverseRecOn with
  | nil => rfl
  | append_singleton h x ih =>
    have hstep := apply_initChannel sdk (stateAfter sdk h) x.now x.op
    rw [recorded] at ih
    rw [recorded, run_concat, ih, after_trace_concat, stateAfter_concat, record, timedApply, hstep]

/-- The channel is initialised by an operation that publishes, and by no other.

**Proof sketch.** Case analysis on the operation. In each branch either a message is
published, which sets the flag, or neither changes. -/
theorem apply_channelInitialized (s : CmdVelPublisher K) (now : Time) (op : CmdVelOp) :
    (s.apply sdk now op).1.channelInitialized =
      (s.channelInitialized || !(s.apply sdk now op).2.isEmpty) := by
  have hwalk : ∀ mode enabled, (s.setWalkMode mode enabled).1.channelInitialized =
      (s.channelInitialized || !(s.setWalkMode mode enabled).2.isEmpty) := by
    intro mode enabled
    unfold setWalkMode
    split_ifs <;> simp [lockJoints, unlockJoints]
  have hrelimit : ∀ s' : CmdVelPublisher K, s'.relimit.1.channelInitialized =
      (s'.channelInitialized || !s'.relimit.2.isEmpty) := by
    intro s'
    unfold relimit
    split_ifs <;> simp
  cases op with
  | setContinuousMoveMode enabled => cases enabled <;> simp [apply, setContinuousMoveMode]
  | setSpeedLevel level =>
    simp only [apply, setSpeedLevel_eq]
    split_ifs
    · simp
    · exact hrelimit _
  | setMotionModeName name =>
    simp only [apply, setMotionModeName_eq]
    split_ifs
    · simp
    · exact hrelimit _
  | setGait gait =>
    simp only [apply, setGait]
    split_ifs <;> simp [lockJoints, unlockJoints]
  | setVisionWalk enabled => exact hwalk _ _
  | setClassicWalk enabled => exact hwalk _ _
  | setFastWalk enabled => exact hwalk _ _
  | handleMove p =>
    simp only [apply, handleMove, acceptMove]
    split_ifs <;> simp
  | tick =>
    simp only [apply, tick_eq]
    split_ifs <;> simp
  | resetToDefaults => simp [apply, resetToDefaults]
  | lockJoints => simp [apply, lockJoints]
  | unlockJoints => simp [apply, unlockJoints]
  | setFreeWalk => simp [apply, setFreeWalk, unlockJoints]
  | handleStop => simp [apply, handleStop]

/-! ## Histories of public calls -/

/-- A public call at its clock reading. -/
def timedApplyPublic (s : CmdVelPublisher K) (x : Timed (PublicCall K)) :
    CmdVelPublisher K × List (Twist K) :=
  s.applyPublic sdk x.now x.op

/-- The publisher after a history of public calls from construction. -/
def publicAfter (h : List (Timed (PublicCall K))) : Recorded (CmdVelPublisher K) (Twist K) :=
  recorded (timedApplyPublic sdk) init h

/-- The operations behind the calls of a history. -/
def operations (h : List (Timed (PublicCall K))) : List (Timed CmdVelOp) :=
  h.filterMap fun x => x.op.op?.map fun op => ⟨x.now, op⟩

/-- The last call acts on the state the others led to, and adds what it publishes. -/
theorem publicAfter_concat (h : List (Timed (PublicCall K))) (x : Timed (PublicCall K)) :
    publicAfter sdk (h ++ [x]) =
      ⟨((publicAfter sdk h).state.applyPublic sdk x.now x.op).1,
        (publicAfter sdk h).trace ++ ((publicAfter sdk h).state.applyPublic sdk x.now x.op).2⟩ :=
  run_concat _ _ _ _

/-- A public call is its operation, or changes the channel flag only. -/
theorem applyPublic_cases (s : CmdVelPublisher K) (now : Time) (call : PublicCall K) :
    (∃ op, call.op? = some op ∧ s.applyPublic sdk now call = s.apply sdk now op) ∨
      (call.op? = none ∧ (s.applyPublic sdk now call).1 = s.initChannel) := by
  cases call with
  | op o => exact Or.inl ⟨o, rfl, rfl⟩
  | initChannel => exact Or.inr ⟨rfl, rfl⟩
  | publishMove velocity =>
    refine Or.inr ⟨rfl, ?_⟩
    show (s.publishMove velocity).1 = s.initChannel
    rw [publishMove_eq, initChannel_eq]
  | publishMoveFromParameter parameterJson => exact Or.inl ⟨.handleMove parameterJson, rfl, rfl⟩

/-- Up to the channel flag, the publisher is in the state its operations lead to.

**Proof sketch.** Induction on the history from its end. A call that is an operation acts alike on
both sides by `apply_initChannel`; any other adds nothing to the operations and changes the flag
only. -/
theorem publicAfter_initChannel (h : List (Timed (PublicCall K))) :
    (publicAfter sdk h).state.initChannel = (stateAfter sdk (operations h)).initChannel := by
  induction h using List.reverseRecOn with
  | nil => rfl
  | append_singleton h x ih =>
    have hoperations : operations (h ++ [x]) =
        operations h ++ (x.op.op?.map fun op => (⟨x.now, op⟩ : Timed CmdVelOp)).toList := by
      rw [operations, List.filterMap_append, ← operations]
      cases h : x.op.op? <;> simp [h]
    rw [publicAfter_concat, hoperations]
    rcases applyPublic_cases sdk (publicAfter sdk h).state x.now x.op with
      ⟨op, hop, hcall⟩ | ⟨hop, hcall⟩
    · have hstep := congrArg Prod.fst
        (apply_initChannel sdk (publicAfter sdk h).state x.now op)
      rw [ih, apply_initChannel] at hstep
      rw [hop, hcall, Option.map_some, Option.toList_some, stateAfter_concat]
      exact hstep.symm
    · rw [hop, hcall, Option.map_none, Option.toList_none, List.append_nil, ← ih]
      simp

/-- The channel is initialised once `InitChannel` was called or something was published.

**Proof sketch.** Induction on the history from its end. For an operation this is
`apply_channelInitialized`; `InitChannel` and a raw `PublishMove` set the flag, and the history then
shows the call or its message. -/
theorem publicAfter_channelInitialized (h : List (Timed (PublicCall K))) :
    (publicAfter sdk h).state.channelInitialized = true ↔
      .initChannel ∈ h.map Timed.op ∨ (publicAfter sdk h).trace ≠ [] := by
  have hflag : ∀ twists : List (Twist K), (!twists.isEmpty) = true ↔ twists ≠ [] := by
    intro twists
    cases twists <;> simp
  induction h using List.reverseRecOn with
  | nil => simp [publicAfter, init]
  | append_singleton h x ih =>
    rw [publicAfter_concat]
    obtain ⟨now, call⟩ := x
    cases call with
    | op o =>
      have hcall : ((publicAfter sdk h).state.applyPublic sdk now (.op o)) =
          (publicAfter sdk h).state.apply sdk now o := rfl
      rw [hcall, apply_channelInitialized, Bool.or_eq_true, hflag, List.map_append,
        List.mem_append]
      refine (or_congr_left ih).trans ?_
      simp [or_assoc, imp_iff_not_or]
    | initChannel => simp [applyPublic]
    | publishMove velocity => simp [applyPublic]
    | publishMoveFromParameter parameterJson =>
      have hcall : ((publicAfter sdk h).state.applyPublic sdk now
          (.publishMoveFromParameter parameterJson)) =
          (publicAfter sdk h).state.apply sdk now (.handleMove parameterJson) := rfl
      rw [hcall, apply_channelInitialized, Bool.or_eq_true, hflag, List.map_append,
        List.mem_append]
      refine (or_congr_left ih).trans ?_
      simp [or_assoc, imp_iff_not_or]

/-- **Raw publications are invisible.** In every history of public calls each call that is an
operation publishes what it would publish if no `InitChannel` and no raw `PublishMove` had ever
been called, and the state is the same up to the channel flag; the flag says whether `InitChannel`
was called or anything published.

**Proof sketch.** By `publicAfter_initChannel` the two states are equal once both flags are set, so
they differ in the flag alone. As no operation reads it, each publishes the same from both states.
The flag itself is `publicAfter_channelInitialized`. -/
theorem raw_publish_invisible {K : Type} [Field K] [LinearOrder K] [HasHypot K]
    (sdk : UnitreeSdk K) (h : List (Timed (PublicCall K))) :
    (publicAfter sdk h).state =
        { stateAfter sdk (operations h) with
          channelInitialized := (publicAfter sdk h).state.channelInitialized } ∧
    (∀ now call op, call.op? = some op →
      ((publicAfter sdk h).state.applyPublic sdk now call).2 =
        ((stateAfter sdk (operations h)).apply sdk now op).2) ∧
    ((publicAfter sdk h).state.channelInitialized = true ↔
      .initChannel ∈ h.map Timed.op ∨ (publicAfter sdk h).trace ≠ []) := by
  have hstate := publicAfter_initChannel sdk h
  refine ⟨?_, ?_, ?_⟩
  · rw [initChannel_eq, initChannel_eq] at hstate
    have hsame : (publicAfter sdk h).state =
        { { (publicAfter sdk h).state with channelInitialized := true } with
          channelInitialized := (publicAfter sdk h).state.channelInitialized } := rfl
    rw [hstate] at hsame
    exact hsame
  · intro now call op hop
    rcases applyPublic_cases sdk (publicAfter sdk h).state now call with
      ⟨op', hop', hcall⟩ | ⟨hnone, -⟩
    · obtain rfl : op' = op := Option.some.inj (hop'.symm.trans hop)
      have hleft := congrArg Prod.snd (apply_initChannel sdk (publicAfter sdk h).state now op')
      have hright := congrArg Prod.snd
        (apply_initChannel sdk (stateAfter sdk (operations h)) now op')
      rw [hstate] at hleft
      rw [hcall]
      exact hleft.symm.trans hright
    · rw [hop] at hnone
      exact absurd hnone (by simp)
  · exact publicAfter_channelInitialized sdk h

end CmdVelPublisher

end SdkEventBridge
