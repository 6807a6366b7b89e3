import SdkEventBridge.CmdVel.Operations
import Mathlib.Order.Bounds.Basic

set_option relaxedAutoImplicit false
set_option autoImplicit false

/-!
# The velocity publisher over whole histories

The state of `CmdVelPublisher` mixes what was commanded (`lastVelocity`, which survives a stop)
with what is in effect (`hasActiveMove`). Over a history of calls from construction this file
reads the last published message off the history: which MOVE was accepted last, whether anything
stopped the robot since, and which caps were in use in the meantime. The second half is about
the clock: when `Tick` stops the robot.

## Main definitions

* `CmdVelPublisher.after`, `CmdVelPublisher.stateAfter` — the publisher after a history.
* `CmdVelPublisher.AcceptedSinceStop` — a MOVE of the history that nothing has stopped.
* `CmdVelPublisher.capsHeld` — the values `maxLinearSpeed` takes during a history.
* `CmdVelPublisher.QuietSecond` — default mode and no MOVE during the last 1000 ms.

## Main results

* `CmdVelPublisher.lastTwist_eq_latest_move` — the velocity history.
* `CmdVelPublisher.tick_stops_iff` — when the auto-stop deadline is kept.
-/

namespace SdkEventBridge

namespace CmdVelPublisher

open PlanarNorm Run

section History

variable {K : Type} [Field K] [LinearOrder K] [HasHypot K] (sdk : UnitreeSdk K)

/-- A call at its clock reading. -/
def timedApply (s : CmdVelPublisher K) (x : Timed CmdVelOp) :
    CmdVelPublisher K × List (Twist K) :=
  s.apply sdk x.now x.op

/-- The publisher after a history of calls from construction, with everything it published. -/
def after (h : List (Timed CmdVelOp)) : Recorded (CmdVelPublisher K) (Twist K) :=
  recorded (timedApply sdk) init h

/-- The state after a history of calls from construction. -/
def stateAfter (h : List (Timed CmdVelOp)) : CmdVelPublisher K :=
  run (next (timedApply sdk)) init h

/-- No call of `h`, made from `s` on, stops the robot. -/
def NoStop (s : CmdVelPublisher K) (h : List (Timed CmdVelOp)) : Prop :=
  Along (next (timedApply sdk)) (fun s x => s.stops x.now x.op = false) s h

/-- No call of `h`, made from `s` on, is an accepted MOVE. -/
def NoAccept (s : CmdVelPublisher K) (h : List (Timed CmdVelOp)) : Prop :=
  Along (next (timedApply sdk)) (fun s x => s.accepts x.op = false) s h

/-- The values `maxLinearSpeed` takes from state `s` on while `h` is handled. -/
def capsHeld (s : CmdVelPublisher K) (h : List (Timed CmdVelOp)) : Set K :=
  {c | ∃ mid, mid <+: h ∧ (run (next (timedApply sdk)) s mid).maxLinearSpeed = c}

/-- The call `x` of the history is a MOVE handled with unlocked joints, and nothing after it
stopped the robot. -/
structure AcceptedSinceStop (h pre : List (Timed CmdVelOp)) (x : Timed CmdVelOp)
    (post : List (Timed CmdVelOp)) : Prop where
  split : h = pre ++ x :: post
  accepted : (stateAfter sdk pre).accepts x.op = true
  noStop : NoStop sdk (stateAfter sdk (pre ++ [x])) post

/-- The last operation acts on the state the others led to. -/
@[simp] theorem stateAfter_concat (h : List (Timed CmdVelOp)) (x : Timed CmdVelOp) :
    stateAfter sdk (h ++ [x]) = ((stateAfter sdk h).apply sdk x.now x.op).1 :=
  run_concat _ _ _ _

/-- A history of two pieces goes on from where the first ends. -/
theorem stateAfter_append (h h' : List (Timed CmdVelOp)) :
    stateAfter sdk (h ++ h') = run (next (timedApply sdk)) (stateAfter sdk h) h' :=
  run_append _ _ _ _

/-- The state of a recorded history is that of the history. -/
@[simp] theorem after_state (h : List (Timed CmdVelOp)) :
    (after sdk h).state = stateAfter sdk h := recorded_state _ _ _

/-- The last operation adds what it publishes. -/
@[simp] theorem after_trace_concat (h : List (Timed CmdVelOp)) (x : Timed CmdVelOp) :
    (after sdk (h ++ [x])).trace =
      (after sdk h).trace ++ ((stateAfter sdk h).apply sdk x.now x.op).2 :=
  recorded_concat_trace _ _ _ _

/-- One more call adds the cap in use after it. -/
theorem capsHeld_concat (s : CmdVelPublisher K) (h : List (Timed CmdVelOp))
    (x : Timed CmdVelOp) :
    capsHeld sdk s (h ++ [x]) =
      insert (run (next (timedApply sdk)) s (h ++ [x])).maxLinearSpeed (capsHeld sdk s h) := by
  ext c
  simp only [capsHeld, Set.mem_ofPred_eq, Set.mem_insert_iff]
  constructor
  · rintro ⟨mid, hmid, rfl⟩
    rcases List.prefix_concat_iff.mp hmid with rfl | hmid
    · exact Or.inl rfl
    · exact Or.inr ⟨mid, hmid, rfl⟩
  · rintro (rfl | ⟨mid, hmid, rfl⟩)
    · exact ⟨_, List.prefix_rfl, rfl⟩
    · exact ⟨mid, hmid.trans (List.prefix_append _ _), rfl⟩

/-- The cap in use at the end is one of those held. -/
theorem mem_capsHeld_run (s : CmdVelPublisher K) (h : List (Timed CmdVelOp)) :
    (run (next (timedApply sdk)) s h).maxLinearSpeed ∈ capsHeld sdk s h :=
  ⟨h, List.prefix_rfl, rfl⟩

/-- A MOVE accepted since the last stop is the new call, or was one before it and the new call
does not stop.

**Proof sketch.** Compare the two splittings of the history at its last call. Either the MOVE is
that call, or it lies before it, and then the calls behind it are some `post'` and the last call,
none of which stops. -/
theorem AcceptedSinceStop.of_concat {h pre post : List (Timed CmdVelOp)}
    {x y : Timed CmdVelOp} (hacc : AcceptedSinceStop sdk (h ++ [y]) pre x post) :
    (x = y ∧ (stateAfter sdk h).accepts y.op = true) ∨
      ((stateAfter sdk h).stops y.now y.op = false ∧
        ∃ post', AcceptedSinceStop sdk h pre x post') := by
  obtain ⟨hsplit, haccept, hstop⟩ := hacc
  rcases split_concat hsplit with ⟨rfl, rfl, rfl⟩ | ⟨post', rfl, rfl⟩
  · exact Or.inl ⟨rfl, haccept⟩
  · rw [NoStop, along_concat] at hstop
    have hstate : stateAfter sdk (pre ++ x :: post') =
        run (next (timedApply sdk)) (stateAfter sdk (pre ++ [x])) post' := by
      rw [← stateAfter_append, List.append_assoc]; rfl
    refine Or.inr ⟨?_, post', rfl, haccept, hstop.1⟩
    rw [hstate]
    exact hstop.2

/-- A MOVE accepted since the last stop stays so under a call that does not stop. -/
theorem AcceptedSinceStop.concat {h pre post : List (Timed CmdVelOp)} {x y : Timed CmdVelOp}
    (hacc : AcceptedSinceStop sdk h pre x post)
    (hstop : (stateAfter sdk h).stops y.now y.op = false) :
    AcceptedSinceStop sdk (h ++ [y]) pre x (post ++ [y]) := by
  obtain ⟨rfl, haccept, hpost⟩ := hacc
  refine ⟨by simp, haccept, ?_⟩
  rw [NoStop, along_concat]
  refine ⟨hpost, ?_⟩
  rwa [← stateAfter_append, List.append_assoc]

variable [IsStrictOrderedRing K] [LawfulHypot K]

/-- The publisher is consistent with what it has published after every history. -/
theorem consistent_after (h : List (Timed CmdVelOp)) :
    Consistent (stateAfter sdk h) (after sdk h).trace := by
  rw [← after_state]
  exact run_induction (record (timedApply sdk))
    (Q := fun r : Recorded (CmdVelPublisher K) (Twist K) => Consistent r.state r.trace)
    (fun r x hr => hr.apply sdk x.now x.op) consistent_init h

/-- What the fields say about the history: either no MOVE is in effect, or the latest accepted
one is, limited to the least cap in use since.

**Proof sketch.** Induction on the history from its end. A last call that stops leaves no move
active, and no MOVE has been accepted since. A last call that accepts is the MOVE sought, with its
own cap as the only one held. Any other call carries on: the MOVE is the one of the induction
hypothesis, and the velocity is kept or limited once more by the new cap, so the caps compose to
their minimum by `MoveVelocity.limit_limit`. -/
theorem move_in_effect (h : List (Timed CmdVelOp)) :
    ((∀ pre x post, ¬ AcceptedSinceStop sdk h pre x post) ∧
      (stateAfter sdk h).hasActiveMove = false) ∨
    ∃ pre now p post c, AcceptedSinceStop sdk h pre ⟨now, .handleMove p⟩ post ∧
      NoAccept sdk (stateAfter sdk (pre ++ [⟨now, .handleMove p⟩])) post ∧
      IsLeast (capsHeld sdk (stateAfter sdk (pre ++ [⟨now, .handleMove p⟩])) post) c ∧
      (stateAfter sdk h).hasActiveMove = true ∧
      (stateAfter sdk h).lastVelocity = (parseMoveParameter sdk p).limit c := by
  -- Induction on the history from its end; the last call stops, accepts, or carries on.
  induction h using List.reverseRecOn with
  | nil =>
    refine Or.inl ⟨?_, rfl⟩
    rintro pre x post ⟨hsplit, -, -⟩
    simp at hsplit
  | append_singleton h y ih =>
    rw [stateAfter_concat]
    set s := stateAfter sdk h with hs
    by_cases hstop : s.stops y.now y.op = true
    · refine Or.inl ⟨fun pre x post hacc => ?_, (apply_of_stops s sdk y.now hstop).2⟩
      rcases hacc.of_concat with ⟨-, haccept⟩ | ⟨hno, -⟩
      · rw [← hs] at haccept
        cases hop : y.op <;> simp [hop, stops, accepts] at hstop haccept
      · rw [← hs, hstop] at hno
        exact absurd hno (by decide)
    have hstop' : s.stops y.now y.op = false := by simpa using hstop
    by_cases haccept : s.accepts y.op = true
    · obtain ⟨now, op⟩ := y
      obtain ⟨p, rfl, hunlocked⟩ := s.accepts_iff.mp haccept
      have happly := apply_of_accepts s sdk now (p := p) hunlocked
      refine Or.inr ⟨h, now, p, [], s.maxLinearSpeed, ⟨rfl, haccept, trivial⟩, trivial, ?_, ?_, ?_⟩
      · refine ⟨⟨[], List.prefix_rfl, ?_⟩, ?_⟩
        · rw [run_nil, stateAfter_concat, ← hs, happly]
        · rintro c ⟨mid, hmid, rfl⟩
          obtain rfl := List.prefix_nil.mp hmid
          rw [run_nil, stateAfter_concat, ← hs, happly]
      · rw [happly]
      · rw [happly]
    · have haccept' : s.accepts y.op = false := by simpa using haccept
      have hon := apply_of_carriesOn s sdk y.now hstop' haccept'
      rcases ih with ⟨hnone, hidle⟩ | ⟨pre, now, p, post, c, hacc, hnoacc, hleast, hactive, hvel⟩
      · refine Or.inl ⟨fun pre x post hacc => ?_, hon.hasActiveMove_eq.trans hidle⟩
        rcases hacc.of_concat with ⟨-, haccept⟩ | ⟨-, post', hacc'⟩
        · rw [← hs, haccept'] at haccept
          exact absurd haccept (by decide)
        · exact hnone _ _ _ hacc'
      · set s₁ := stateAfter sdk (pre ++ [⟨now, .handleMove p⟩]) with hs₁
        have hrun : run (next (timedApply sdk)) s₁ post = s := by
          rw [hs₁, ← stateAfter_append, hs, hacc.split, List.append_assoc]; rfl
        have hrun' : run (next (timedApply sdk)) s₁ (post ++ [y]) =
            (s.apply sdk y.now y.op).1 := by
          rw [run_concat, hrun]; rfl
        refine Or.inr ⟨pre, now, p, post ++ [y], min (s.apply sdk y.now y.op).1.maxLinearSpeed c,
          hacc.concat sdk hstop', ?_, ?_, hon.hasActiveMove_eq.trans hactive, ?_⟩
        · rw [NoAccept, along_concat, hrun]
          exact ⟨hnoacc, haccept'⟩
        · rw [capsHeld_concat, hrun']
          exact hleast.insert _
        · have hcpos : 0 < c := by
            obtain ⟨mid, -, hmid⟩ := hleast.1
            rw [← hmid, hs₁, ← stateAfter_append]
            exact (consistent_after sdk _).cap_pos
          have hmem : s.maxLinearSpeed ∈ capsHeld sdk s₁ post := hrun ▸ mem_capsHeld_run sdk s₁ post
          rcases hon.velocity with ⟨-, hsame, hcap⟩ | ⟨-, hlimit, -⟩
          · have hunlocked := (consistent_after sdk h).unlocked_of_active hactive
            rw [hsame, hvel, hcap hunlocked hactive, min_eq_right (hleast.2 hmem)]
          · have hpos : 0 < (s.apply sdk y.now y.op).1.maxLinearSpeed := by
              have := (consistent_after sdk (h ++ [y])).cap_pos
              rwa [stateAfter_concat] at this
            rw [hlimit, hvel, MoveVelocity.limit_limit hcpos hpos, min_comm]

end History

/-- **The velocity history.** The last published message is zero if no MOVE was accepted after
the latest stop, and otherwise the latest accepted MOVE, its linear part multiplied by
`min 1 (c / speed)` where `c` is the least cap in use since.

**Proof sketch.** The invariant `Consistent` says that the last message is the velocity of an active
move, and zero if none is active. `move_in_effect` gives that velocity, and limiting by `c` scales
by `min 1 (c / speed)`. -/
theorem lastTwist_eq_latest_move (sdk : UnitreeSdk ℝ) (h : List (Timed CmdVelOp)) :
    ((∀ pre x post, ¬ AcceptedSinceStop sdk h pre x post) ∧
      lastTwist (after sdk h).trace = 0) ∨
    ∃ pre now p post c, AcceptedSinceStop sdk h pre ⟨now, .handleMove p⟩ post ∧
      NoAccept sdk (stateAfter sdk (pre ++ [⟨now, .handleMove p⟩])) post ∧
      IsLeast (capsHeld sdk (stateAfter sdk (pre ++ [⟨now, .handleMove p⟩])) post) c ∧
      lastTwist (after sdk h).trace =
        Twist.ofVelocity ((parseMoveParameter sdk p).scaled
          (min 1 (c / (parseMoveParameter sdk p).speed))) := by
  have hlast := (consistent_after sdk h).lastTwist_eq
  rcases move_in_effect sdk h with
    ⟨hnone, hidle⟩ | ⟨pre, now, p, post, c, hacc, hnoacc, hleast, hactive, hvel⟩
  · exact Or.inl ⟨hnone, by simp [hlast, hidle]⟩
  · have hcpos : 0 < c := by
      obtain ⟨mid, -, hmid⟩ := hleast.1
      rw [← hmid, ← stateAfter_append]
      exact (consistent_after sdk _).cap_pos
    refine Or.inr ⟨pre, now, p, post, c, hacc, hnoacc, hleast, ?_⟩
    rw [hlast, hactive, if_pos rfl, hvel, MoveVelocity.limit_eq_scaled hcpos]

/-! ## The auto-stop deadline -/

section Deadline

variable {K : Type} [Field K] [LinearOrder K] [HasHypot K] (s : CmdVelPublisher K)
  (sdk : UnitreeSdk K)

/-- The call sets `lastMoveTime` to the clock reading. -/
def restartsClock : CmdVelOp → Bool
  | .setContinuousMoveMode enabled => !enabled
  | .resetToDefaults => true
  | .handleMove _ => !s.jointsLocked
  | _ => false

/-- An operation stores its clock reading if it restarts the clock, and keeps the stored one
otherwise.

**Proof sketch.** Case analysis on the operation. `SetContinuousMoveMode(false)`, an accepted MOVE
and a reset store the reading; the two operations that limit a velocity again and all others keep
the stored one. -/
theorem apply_lastMoveTime (now : Time) (op : CmdVelOp) :
    (s.apply sdk now op).1.lastMoveTime =
      if s.restartsClock op then now else s.lastMoveTime := by
  cases op with
  | setContinuousMoveMode enabled => cases enabled <;> rfl
  | handleMove p =>
    cases hl : s.jointsLocked <;> simp [apply, handleMove, acceptMove, restartsClock, hl]
  | setSpeedLevel level =>
    simp only [apply, setSpeedLevel_eq, relimit, restartsClock]
    split_ifs <;> simp_all
  | setMotionModeName name =>
    simp only [apply, setMotionModeName_eq, relimit, restartsClock]
    split_ifs <;> simp_all
  | _ =>
    simp only [apply, lockJoints, unlockJoints, setGait, setVisionWalk, setFreeWalk,
      setClassicWalk, setFastWalk, setWalkMode, handleStop, tick_eq, resetToDefaults,
      publishStop_eq, restartsClock]
    try split_ifs
    all_goals first | rfl | contradiction

/-- Nothing but `SetContinuousMoveMode(true)` switches the continuous mode on. -/
theorem apply_continuousMoveMode {now : Time} {op : CmdVelOp}
    (hop : op ≠ .setContinuousMoveMode true) (hoff : s.continuousMoveMode = false) :
    (s.apply sdk now op).1.continuousMoveMode = false := by
  have hsettings := congrArg Settings.continuousMoveMode (settings_apply s sdk now op)
  refine hsettings.trans ?_
  cases op with
  | setContinuousMoveMode enabled =>
    cases enabled
    · rfl
    · exact absurd rfl hop
  | resetToDefaults => rfl
  | _ =>
    simp only [Settings.apply, Settings.setWalkMode]
    try split_ifs
    all_goals exact hoff

/-- The calls of a history are made at non-decreasing clock readings. -/
def Chronological (h : List (Timed CmdVelOp)) : Prop :=
  h.Pairwise fun x y => x.now ≤ y.now

/-- During the second before `t` the continuous mode was off and no MOVE was handled. The state
at the beginning of that second is the one after every call made by then. -/
structure QuietSecond (h : List (Timed CmdVelOp)) (t : Time) : Prop where
  continuous_off : ∀ pre post, h = pre ++ post → (∀ x ∈ post, t - moveStopTimeout < x.now) →
    (stateAfter sdk pre).continuousMoveMode = false
  no_move : ∀ x ∈ h, ∀ p, x.op = .handleMove p → x.now ≤ t - moveStopTimeout

/-- A history that never switches the continuous mode on leaves it off. -/
theorem continuousMoveMode_off {h : List (Timed CmdVelOp)}
    (hop : ∀ x ∈ h, x.op ≠ .setContinuousMoveMode true) :
    (stateAfter sdk h).continuousMoveMode = false := by
  induction h using List.reverseRecOn with
  | nil => rfl
  | append_singleton h y ih =>
    rw [stateAfter_concat]
    exact apply_continuousMoveMode _ sdk (hop y (by simp))
      (ih fun x hx => hop x (List.mem_append_left _ hx))

/-- A history is quiet if its last MOVE is old enough and nothing switches the continuous mode
on. -/
theorem quietSecond_of_forall {h : List (Timed CmdVelOp)} {t : Time}
    (hop : ∀ x ∈ h, x.op ≠ .setContinuousMoveMode true)
    (hmove : ∀ x ∈ h, ∀ p, x.op = .handleMove p → x.now ≤ t - moveStopTimeout) :
    QuietSecond sdk h t where
  continuous_off := by
    rintro pre post rfl -
    exact continuousMoveMode_off sdk fun x hx => hop x (List.mem_append_left _ hx)
  no_move := hmove

/-- The deadline of an active move counts from a MOVE or from a call that switched the
continuous mode off.

**Proof sketch.** Induction on the history from its end. A last call that restarts the clock is the
one sought, unless it is a reset, which leaves no move active. Any other last call keeps
`lastMoveTime`, and as a move is active after it, one was active before. -/
theorem exists_lastMoveTime (h : List (Timed CmdVelOp))
    (hactive : (stateAfter sdk h).hasActiveMove = true) :
    ∃ x ∈ h, x.now = (stateAfter sdk h).lastMoveTime ∧
      ((∃ p, x.op = .handleMove p) ∨ x.op = .setContinuousMoveMode false) := by
  induction h using List.reverseRecOn with
  | nil => simp [stateAfter, init] at hactive
  | append_singleton h y ih =>
    rw [stateAfter_concat] at hactive ⊢
    rw [apply_lastMoveTime]
    by_cases hrestart : (stateAfter sdk h).restartsClock y.op = true
    · refine ⟨y, by simp, by rw [if_pos hrestart], ?_⟩
      cases hop : y.op with
      | handleMove p => exact Or.inl ⟨p, rfl⟩
      | setContinuousMoveMode enabled =>
        have : enabled = false := by simpa [hop, restartsClock] using hrestart
        exact Or.inr (by rw [this])
      | resetToDefaults =>
        simp [hop, apply, resetToDefaults] at hactive
      | _ => simp [hop, restartsClock] at hrestart
    · rw [if_neg hrestart]
      rcases (stateAfter sdk h).apply_cases sdk y.now y.op with
        ⟨-, hidle⟩ | ⟨p, hmove, hunlocked⟩ | hon
      · rw [hidle] at hactive
        exact absurd hactive (by decide)
      · exact absurd (by simp [hmove, restartsClock, hunlocked]) hrestart
      · obtain ⟨x, hx, hnow, hkind⟩ := ih (hon.hasActiveMove_eq ▸ hactive)
        exact ⟨x, by simp [hx], hnow, hkind⟩

/-- No call that restarted the clock is later than `lastMoveTime`.

**Proof sketch.** Induction on the history from its end. If the call is the last one, `lastMoveTime`
is its own reading. Otherwise the last call either stores its reading, which is not earlier in a
chronological history, or keeps the one of the induction hypothesis. -/
theorem le_lastMoveTime {h pre post : List (Timed CmdVelOp)} {x : Timed CmdVelOp}
    (hsorted : Chronological h) (hsplit : h = pre ++ x :: post)
    (hrestart : (stateAfter sdk pre).restartsClock x.op = true) :
    x.now ≤ (stateAfter sdk h).lastMoveTime := by
  induction h using List.reverseRecOn generalizing post with
  | nil => simp at hsplit
  | append_singleton h y ih =>
    obtain ⟨hsorted, -, hlast⟩ := List.pairwise_append.mp hsorted
    rw [stateAfter_concat, apply_lastMoveTime]
    rcases split_concat hsplit with ⟨rfl, rfl, rfl⟩ | ⟨post', rfl, hh⟩
    · rw [if_pos hrestart]
    · split_ifs
      · have hx : x ∈ h := by rw [hh]; simp
        exact hlast x hx y (by simp)
      · exact ih hsorted hh

end Deadline

/-- **The auto-stop deadline.** After a quiet second `Tick` leaves the robot stopped, except
where a nonzero move is active and the continuous mode, off all the time, was switched off once
more during that second.

**Proof sketch.** With no active move the last message is zero already. With an active one the
joints are unlocked and the mode is off, so `Tick` expires exactly if `lastMoveTime` is a second
old. If it is, no switch-off is later than it by `le_lastMoveTime`. If it is not,
`exists_lastMoveTime` names the call that stored it, which in a quiet second can only be a
switch-off, and the robot keeps its velocity. -/
theorem tick_stops_iff (sdk : UnitreeSdk ℝ) (h : List (Timed CmdVelOp)) (t : Time)
    (hsorted : Chronological (h ++ [⟨t, .tick⟩])) (hquiet : QuietSecond sdk h t) :
    lastTwist (after sdk (h ++ [⟨t, .tick⟩])).trace = 0 ↔
      ((stateAfter sdk h).hasActiveMove = true → (stateAfter sdk h).lastVelocity ≠ 0 →
        ∀ x ∈ h, t - moveStopTimeout < x.now → x.op ≠ .setContinuousMoveMode false) := by
  set s := stateAfter sdk h with hs
  have hcons := consistent_after sdk h
  have hlast := hcons.lastTwist_eq
  have hoff : s.continuousMoveMode = false := hquiet.continuous_off h [] (by simp) (by simp)
  rw [after_trace_concat, ← hs, apply, tick_eq]
  cases hactive : s.hasActiveMove with
  | false =>
    have hexp : ¬ s.tickExpires t = true := by simp [tickExpires, hactive]
    rw [if_neg hexp, List.append_nil, hlast, ← hs, hactive]
    simp
  | true =>
    have hunlocked : s.jointsLocked = false := hcons.unlocked_of_active hactive
    have hexp : s.tickExpires t = true ↔ s.lastMoveTime ≤ t - moveStopTimeout := by
      simp [tickExpires_iff, hunlocked, hoff, hactive]
    by_cases htime : s.lastMoveTime ≤ t - moveStopTimeout
    · -- The deadline is over, and no switch-off is later than it.
      rw [if_pos (hexp.mpr htime), publishStop_eq, lastTwist_concat]
      refine iff_of_true rfl fun _ _ x hx hlate hop => ?_
      obtain ⟨pre, post, hsplit⟩ := List.append_of_mem hx
      have hle := le_lastMoveTime sdk (List.pairwise_append.mp hsorted).1 hsplit (by rw [hop]; rfl)
      rw [← hs] at hle
      exact absurd (hle.trans htime) (not_le.mpr hlate)
    · -- The deadline was moved into the quiet second, so by a switch-off.
      rw [if_neg (fun he => htime (hexp.mp he)), List.append_nil, hlast, ← hs, hactive, if_pos rfl,
        Twist.ofVelocity_eq_zero]
      constructor
      · intro hzero _ hne
        exact absurd hzero hne
      · intro hcond
        by_contra hne
        obtain ⟨x, hx, hnow, ⟨p, hop⟩ | hop⟩ := exists_lastMoveTime sdk h hactive
        · have hle := hquiet.no_move x hx p hop
          rw [hnow, ← hs] at hle
          exact htime hle
        · rw [← hs] at hnow
          exact hcond rfl hne x hx (hnow ▸ not_le.mp htime) hop

/-- The deadline is kept one second after a MOVE. -/
theorem tick_stops_iff_after_move :
    let h : List (Timed CmdVelOp) := [⟨0, .unlockJoints⟩, ⟨0, .handleMove "\x7b\"x\":1\x7d"⟩]
    lastTwist (after (sampleSdk ℝ) (h ++ [⟨moveStopTimeout, .tick⟩])).trace = 0 := by
  intro h
  have hquiet : QuietSecond (sampleSdk ℝ) h moveStopTimeout :=
    quietSecond_of_forall _ (by simp [h]) (by simp [h])
  refine (tick_stops_iff (sampleSdk ℝ) h moveStopTimeout (by unfold Chronological; decide)
    hquiet).mpr fun _ _ => ?_
  decide

/-- The deadline is not kept when a client repeats the switch to the default mode. -/
theorem tick_misses_deadline :
    let h : List (Timed CmdVelOp) := [⟨0, .unlockJoints⟩, ⟨0, .handleMove "\x7b\"x\":1\x7d"⟩,
      ⟨900000000, .setContinuousMoveMode false⟩]
    Chronological (h ++ [⟨1100000000, .tick⟩]) ∧ QuietSecond (sampleSdk ℝ) h 1100000000 ∧
      lastTwist (after (sampleSdk ℝ) (h ++ [⟨1100000000, .tick⟩])).trace ≠ 0 := by
  intro h
  refine ⟨by unfold Chronological; decide, ?_, ?_⟩
  · exact quietSecond_of_forall _ (by simp [h]) (by simp [h, moveStopTimeout])
  · have hv : parseMoveParameter (sampleSdk ℝ) "\x7b\"x\":1\x7d" =
        ⟨((1 : Int32).toInt : ℝ), 0, 0⟩ := rfl
    have hpos : (0 : ℝ) < aiLowMaxLinearSpeed := by norm_num [aiLowMaxLinearSpeed]
    rw [(consistent_after _ _).lastTwist_eq]
    simp [h, stateAfter, next, timedApply, apply, init, unlockJoints, handleMove, acceptMove,
      applySpeedLimit_eq, setContinuousMoveMode, tick, moveStopTimeout, hv,
      MoveVelocity.limit_eq_zero hpos, MoveVelocity.ext_iff]

end CmdVelPublisher

end SdkEventBridge
