import SdkEventBridge.CmdVel.History

set_option relaxedAutoImplicit false
set_option autoImplicit false

/-!
# When the auto-stop may strike

`Tick` compares the clock with `m_lastMoveTime`, which a MOVE, a switch to the default mode and
a reset all set, and which means nothing before one of them. What makes the comparison safe is
an invariant over the whole history: an active move was accepted, and no accepted MOVE and no
switch to the default mode is later than `m_lastMoveTime`.

## Main definitions

* `CmdVelPublisher.TickIdle` — `Tick` publishes nothing and changes no field.
* `CmdVelPublisher.StopIsDue` — all there has to be before a `Tick` may stop the robot.
* `CmdVelPublisher.keepsContinuous` — the calls that do not end the continuous mode.

## Main results

* `CmdVelPublisher.no_premature_stop` — a `Tick` stops only when the stop is due.
-/

namespace SdkEventBridge

namespace CmdVelPublisher

open PlanarNorm Run

section AutoStop

variable {K : Type} [Field K]

/-- `Tick` at `t` publishes nothing and changes no field. -/
def TickIdle (s : CmdVelPublisher K) (t : Time) : Prop :=
  (s.tick t).2 = [] ∧ (s.tick t).1 = s

/-- `Tick` does something exactly when the deadline is over. -/
theorem tickIdle_iff {s : CmdVelPublisher K} {t : Time} :
    TickIdle s t ↔ s.tickExpires t = false := by
  rw [TickIdle, tick_eq]
  cases h : s.tickExpires t <;> simp

/-- The call leaves the continuous mode on. Besides MOVE, STOPMOVE and the locks these are the
walk modes, the gaits, BALANCESTAND, the speed level, the mode name and `Tick`. -/
def keepsContinuous : CmdVelOp → Bool
  | .setContinuousMoveMode enabled => enabled
  | .resetToDefaults => false
  | .setSpeedLevel _ | .setMotionModeName _ | .lockJoints | .unlockJoints | .setGait _
  | .setVisionWalk _ | .setFreeWalk | .setClassicWalk _ | .setFastWalk _ | .handleMove _
  | .handleStop | .tick => true

/-- Such a call keeps the continuous mode on. -/
theorem continuousMoveMode_apply {t : Settings} {op : CmdVelOp} (hop : keepsContinuous op = true)
    (hon : t.continuousMoveMode = true) : (t.apply op).continuousMoveMode = true := by
  cases op with
  | setContinuousMoveMode enabled => exact hop
  | resetToDefaults => exact absurd hop (by decide)
  | _ =>
    simp only [Settings.apply, Settings.setWalkMode]
    try split_ifs
    all_goals exact hon

variable [LinearOrder K] [HasHypot K] (sdk : UnitreeSdk K)

/-- What the history `h` has to be like for a `Tick` at `t` to stop the robot: the default mode,
unlocked joints, a MOVE accepted since the latest stop, lock or reset, and the latest accepted
MOVE and the latest switch to the default mode at least 1000 ms ago. -/
structure StopIsDue (h : List (Timed CmdVelOp)) (t : Time) : Prop where
  default_mode : (stateAfter sdk h).continuousMoveMode = false
  unlocked : (stateAfter sdk h).jointsLocked = false
  in_effect : ∃ pre now p post, AcceptedSinceStop sdk h pre ⟨now, .handleMove p⟩ post
  move_old : ∀ pre now p post, h = pre ++ ⟨now, .handleMove p⟩ :: post →
    (stateAfter sdk pre).jointsLocked = false → now ≤ t - moveStopTimeout
  switch_old : ∀ x ∈ h, x.op = .setContinuousMoveMode false → x.now ≤ t - moveStopTimeout

/-- In continuous mode `Tick` stays idle as long as no call ends that mode.

**Proof sketch.** By `settings_apply` the mode after a call depends on the settings alone, and a
call that keeps the mode leaves it on, so it is on after all of `mid`. An expired `Tick` would need
it off. -/
theorem tickIdle_of_continuous {s : CmdVelPublisher K} (hon : s.continuousMoveMode = true)
    {mid : List (Timed CmdVelOp)} (hmid : ∀ x ∈ mid, keepsContinuous x.op = true) (t : Time) :
    TickIdle (run (next (timedApply sdk)) s mid) t := by
  have hstill_on : (run (next (timedApply sdk)) s mid).settings.continuousMoveMode = true := by
    refine run_induction_along (next (timedApply sdk))
      (Q := fun s => s.settings.continuousMoveMode = true)
      (P := fun _ x => keepsContinuous x.op = true) ?_ hon (along_of_forall_mem _ hmid s)
    intro s x hs hx
    show ((s.apply sdk x.now x.op).1).settings.continuousMoveMode = true
    rw [settings_apply]
    exact continuousMoveMode_apply hx hs
  rw [tickIdle_iff, ← Bool.not_eq_true, tickExpires_iff]
  rintro ⟨-, hoff, -⟩
  rw [show (run (next (timedApply sdk)) s mid).continuousMoveMode = true from hstill_on] at hoff
  exact absurd hoff (by decide)

variable [IsStrictOrderedRing K] [LawfulHypot K]

/-- A `Tick` that does anything does it when the stop is due.

**Proof sketch.** A `Tick` that acts has expired, so the joints are unlocked, the mode is off, a
move is active and `lastMoveTime` is a second old. By `move_in_effect` an active move has an
accepted MOVE behind it. That MOVE and every call that switched the mode off restarted the clock, so
by `le_lastMoveTime` none of them is later than `lastMoveTime`. -/
theorem stopIsDue_of_tick {h : List (Timed CmdVelOp)} {t : Time} (hsorted : Chronological h)
    (hacts : ¬ TickIdle (stateAfter sdk h) t) : StopIsDue sdk h t := by
  rw [tickIdle_iff, Bool.not_eq_false, tickExpires_iff] at hacts
  obtain ⟨hunlocked, hoff, hactive, htime⟩ := hacts
  refine ⟨hoff, hunlocked, ?_, ?_, ?_⟩
  · rcases move_in_effect sdk h with ⟨-, hidle⟩ | ⟨pre, now, p, post, -, hacc, -⟩
    · rw [hidle] at hactive
      exact absurd hactive (by decide)
    · exact ⟨pre, now, p, post, hacc⟩
  · intro pre now p post hsplit hpre
    exact (le_lastMoveTime sdk hsorted hsplit (by simp [restartsClock, hpre])).trans htime
  · intro x hx hop
    obtain ⟨pre, post, hsplit⟩ := List.append_of_mem hx
    exact (le_lastMoveTime sdk hsorted hsplit (by rw [hop]; rfl)).trans htime

end AutoStop

/-- **No premature auto-stop.** A `Tick` that publishes or changes anything does so when the stop
is due. Hence no `Tick` acts between two MOVEs less than 1000 ms apart of which the first was
accepted, and none in continuous mode, whatever calls come in between that do not end it.

**Proof sketch.** The first part is `stopIsDue_of_tick` on the calls before the `Tick`. For the
second, a `Tick` between the two MOVEs that acted would have the first one a second old, and it is
not later than the second one, so the two would be a second apart. The third is
`tickIdle_of_continuous`. -/
theorem no_premature_stop (sdk : UnitreeSdk ℝ) (h : List (Timed CmdVelOp))
    (hsorted : Chronological h) :
    (∀ pre t post, h = pre ++ ⟨t, .tick⟩ :: post → ¬ TickIdle (stateAfter sdk pre) t →
      StopIsDue sdk pre t) ∧
    (∀ pre t₁ p₁ mid t₂ p₂ post,
      h = pre ++ ⟨t₁, .handleMove p₁⟩ :: (mid ++ ⟨t₂, .handleMove p₂⟩ :: post) →
      (stateAfter sdk pre).jointsLocked = false → t₂ - t₁ < moveStopTimeout →
      ∀ a t b, mid = a ++ ⟨t, .tick⟩ :: b →
        TickIdle (stateAfter sdk (pre ++ ⟨t₁, .handleMove p₁⟩ :: a)) t) ∧
    (∀ pre mid post, h = pre ++ (mid ++ post) →
      (stateAfter sdk pre).continuousMoveMode = true →
      (∀ x ∈ mid, keepsContinuous x.op = true) →
      ∀ a t b, mid = a ++ ⟨t, .tick⟩ :: b → TickIdle (stateAfter sdk (pre ++ a)) t) := by
  have hdue : ∀ pre t post, h = pre ++ ⟨t, .tick⟩ :: post →
      ¬ TickIdle (stateAfter sdk pre) t → StopIsDue sdk pre t := by
    rintro pre t post rfl hacts
    exact stopIsDue_of_tick sdk (List.pairwise_append.mp hsorted).1 hacts
  refine ⟨hdue, ?_, ?_⟩
  · intro pre t₁ p₁ mid t₂ p₂ post hsplit hunlocked hclose a t b hmid
    by_contra hacts
    have hold : t₁ ≤ t - moveStopTimeout := by
      refine (hdue _ t (b ++ ⟨t₂, .handleMove p₂⟩ :: post) ?_ hacts).move_old pre t₁ p₁ a rfl
        hunlocked
      rw [hsplit, hmid]
      simp
    have hle : t ≤ t₂ := by
      rw [hsplit, hmid] at hsorted
      have hrest := (List.pairwise_cons.mp (List.pairwise_append.mp hsorted).2.1).2
      rw [List.append_assoc] at hrest
      have htick := (List.pairwise_cons.mp (List.pairwise_append.mp hrest).2.1).1
      exact htick ⟨t₂, .handleMove p₂⟩ (by simp)
    -- The first MOVE is a second old at `t`, and the second one is later.
    have hfar : moveStopTimeout ≤ t₂ - t₁ := by
      have hsum := add_le_add hold hle
      exact le_sub_iff_add_le.mpr (by linarith)
    exact absurd hclose (not_lt.mpr hfar)
  · rintro pre mid post - hon hmid a t b rfl
    rw [stateAfter_append]
    exact tickIdle_of_continuous sdk hon (fun x hx => hmid x (by simp [hx])) t

/-- The `Tick` one second after a MOVE. -/
theorem no_premature_stop_after_move :
    StopIsDue (sampleSdk ℝ) [⟨0, .unlockJoints⟩, ⟨0, .handleMove "\x7b\"x\":1\x7d"⟩]
      moveStopTimeout := by
  refine (no_premature_stop (sampleSdk ℝ)
    [⟨0, .unlockJoints⟩, ⟨0, .handleMove "\x7b\"x\":1\x7d"⟩, ⟨moveStopTimeout, .tick⟩]
    (by unfold Chronological; decide)).1 _ moveStopTimeout [] rfl ?_
  rw [tickIdle_iff, Bool.not_eq_false, tickExpires_iff]
  exact ⟨rfl, rfl, rfl, by decide⟩

end CmdVelPublisher

end SdkEventBridge
