import SdkEventBridge.CmdVel.History

set_option relaxedAutoImplicit false
set_option autoImplicit false

/-!
# Where published velocities come from

The publisher moves the robot only as it was told to: a nonzero `Twist` is the velocity of a MOVE
with its linear part scaled down, and before that MOVE something has unlocked the joints. This
file reads both off a history of calls.

## Main definitions

* `CmdVelOp.unlocks` — the calls that unlock the joints.
* `CmdVelPublisher.Sourced` — a velocity that stems from an unlocking call and a later MOVE.

## Main results

* `CmdVelPublisher.sourced_of_mem_trace` — every nonzero `Twist` has such a source.
-/

namespace SdkEventBridge

open PlanarNorm Run

/-- The call unlocks the joints, whatever the state. -/
def CmdVelOp.unlocks : CmdVelOp → Bool
  | .unlockJoints | .setFreeWalk => true
  | .setGait gait => decide (1 ≤ gait) && decide (gait ≤ 4)
  | .setVisionWalk enabled | .setClassicWalk enabled | .setFastWalk enabled => enabled
  | .setContinuousMoveMode _ | .setSpeedLevel _ | .setMotionModeName _ | .resetToDefaults
  | .lockJoints | .handleMove _ | .handleStop | .tick => false

/-- Joints that are unlocked after a call were so before, or the call unlocks them. -/
theorem Settings.unlocked_of_apply {t : Settings} {op : CmdVelOp}
    (h : (t.apply op).jointsLocked = false) : t.jointsLocked = false ∨ op.unlocks = true := by
  have hwalk : ∀ mode enabled, (t.setWalkMode mode enabled).jointsLocked = false →
      t.jointsLocked = false ∨ enabled = true := by
    intro mode enabled
    unfold Settings.setWalkMode
    split_ifs with henabled <;> simp [henabled]
  cases op with
  | setGait gait =>
    simp only [Settings.apply] at h
    split_ifs at h with hzero hgait
    · exact Or.inr (by simp [CmdVelOp.unlocks, hgait])
    · exact Or.inl h
  | setVisionWalk enabled => exact hwalk _ _ h
  | setClassicWalk enabled => exact hwalk _ _ h
  | setFastWalk enabled => exact hwalk _ _ h
  | lockJoints => exact absurd h (by simp [Settings.apply])
  | resetToDefaults => exact absurd h (by simp [Settings.apply, Settings.init])
  | unlockJoints => exact Or.inr rfl
  | setFreeWalk => exact Or.inr rfl
  | setContinuousMoveMode enabled => exact Or.inl h
  | setSpeedLevel level => exact Or.inl h
  | setMotionModeName name => exact Or.inl h
  | handleMove p => exact Or.inl h
  | handleStop => exact Or.inl h
  | tick => exact Or.inl h

namespace CmdVelPublisher

variable {K : Type} [Field K] [LinearOrder K] (sdk : UnitreeSdk K)

/-- The velocity is that of a MOVE of the history, its linear part scaled by a factor in `(0, 1]`,
and the joints were unlocked by a call before that MOVE. -/
def Sourced (h : List (Timed CmdVelOp)) (v : MoveVelocity K) : Prop :=
  ∃ (u x : Timed CmdVelOp) (p : String) (k : K),
    [u, x].Sublist h ∧ u.op.unlocks = true ∧ x.op = .handleMove p ∧
      0 < k ∧ k ≤ 1 ∧ v = (parseMoveParameter sdk p).scaled k

variable {sdk} {h : List (Timed CmdVelOp)} {v : MoveVelocity K}

/-- A velocity that has a source keeps it. -/
theorem Sourced.concat (hv : Sourced sdk h v) (x : Timed CmdVelOp) :
    Sourced sdk (h ++ [x]) v := by
  obtain ⟨u, m, p, k, hsub, hrest⟩ := hv
  exact ⟨u, m, p, k, hsub.trans (List.sublist_append_left _ _), hrest⟩

variable [HasHypot K] [IsStrictOrderedRing K] [LawfulHypot K]

/-- Limiting scales by a positive factor. -/
theorem exists_limit_eq_scaled {c : K} (hc : 0 < c) (v : MoveVelocity K) :
    ∃ k, 0 < k ∧ k ≤ 1 ∧ v.limit c = v.scaled k := by
  rcases (hypot_nonneg v.vx v.vy).eq_or_lt with h0 | hpos
  · refine ⟨1, one_pos, le_rfl, ?_⟩
    have hspeed : v.speed = 0 := h0.symm
    rw [MoveVelocity.limit_of_speed_le (hspeed.le.trans hc.le)]
    ext <;> simp [MoveVelocity.scaled]
  · have hspeed : 0 < v.speed := hpos
    exact ⟨min 1 (c / v.speed), lt_min one_pos (div_pos hc hspeed), min_le_left _ _,
      MoveVelocity.limit_eq_scaled hc⟩

/-- A limited velocity has the source of the one it was made from. -/
theorem Sourced.limit {c : K} (hc : 0 < c) (hv : Sourced sdk h v) : Sourced sdk h (v.limit c) := by
  obtain ⟨u, m, p, k, hsub, hunlocks, hmove, hpos, hle, rfl⟩ := hv
  obtain ⟨k', hpos', hle', hlimit⟩ :=
    exists_limit_eq_scaled hc ((parseMoveParameter sdk p).scaled k)
  refine ⟨u, m, p, k' * k, hsub, hunlocks, hmove, mul_pos hpos' hpos,
    mul_le_one₀ hle' hpos.le hle, ?_⟩
  rw [hlimit]
  ext <;> simp [MoveVelocity.scaled, mul_assoc]

variable (sdk) in
/-- What a history has led to has its sources in it. -/
structure HasSources (h : List (Timed CmdVelOp)) : Prop where
  unlocked : (stateAfter sdk h).jointsLocked = false → ∃ u ∈ h, u.op.unlocks = true
  velocity : (stateAfter sdk h).hasActiveMove = true →
    Sourced sdk h (stateAfter sdk h).lastVelocity
  trace : ∀ t ∈ (after sdk h).trace,
    t = 0 ∨ ∃ v, Sourced sdk h v ∧ v.speed ≤ sportMaxLinearSpeed ∧ t = Twist.ofVelocity v

omit [HasHypot K] [LawfulHypot K] in
/-- No cap is above the one of the sport profile. -/
theorem capOf_le (profile : MotionProfile) (level : Int32) :
    (capOf profile level : K) ≤ sportMaxLinearSpeed := by
  unfold capOf
  split_ifs
  · exact le_rfl
  · norm_num [aiHighMaxLinearSpeed, sportMaxLinearSpeed]
  · norm_num [aiLowMaxLinearSpeed, sportMaxLinearSpeed]

/-- A `Twist` published by the last call is the velocity then in effect, if one is.

**Proof sketch.** A call publishes one message at most, so `t` is the last one of the longer
history. By `Consistent` that is zero or the velocity of the active move, whose speed is at most the
cap and so at most the greatest of all caps. -/
theorem eq_of_mem_apply {t : Twist K} (x : Timed CmdVelOp)
    (ht : t ∈ ((stateAfter sdk h).apply sdk x.now x.op).2) :
    t = 0 ∨ ((stateAfter sdk (h ++ [x])).hasActiveMove = true ∧
      (stateAfter sdk (h ++ [x])).lastVelocity.speed ≤ sportMaxLinearSpeed ∧
      t = Twist.ofVelocity (stateAfter sdk (h ++ [x])).lastVelocity) := by
  have hcon := consistent_after sdk (h ++ [x])
  have hlast : lastTwist (after sdk (h ++ [x])).trace = t := by
    rw [after_trace_concat]
    rcases apply_twists (stateAfter sdk h) sdk x.now x.op with hout | ⟨u, hout⟩
    · rw [hout] at ht
      exact absurd ht (by simp)
    · rw [hout, List.mem_singleton] at ht
      rw [hout, lastTwist_concat, ht]
  rw [hcon.lastTwist_eq] at hlast
  cases hactive : (stateAfter sdk (h ++ [x])).hasActiveMove with
  | false =>
    rw [hactive] at hlast
    exact Or.inl hlast.symm
  | true =>
    rw [hactive] at hlast
    refine Or.inr ⟨rfl, ?_, hlast.symm⟩
    calc (stateAfter sdk (h ++ [x])).lastVelocity.speed
        ≤ (stateAfter sdk (h ++ [x])).maxLinearSpeed := hcon.speed_le hactive
      _ = capOf _ _ := hcon.cap_eq
      _ ≤ sportMaxLinearSpeed := capOf_le _ _

/-- The velocity in effect after a call is a new MOVE's or was in effect before.

**Proof sketch.** A call that stops leaves no move active. An accepted MOVE is its own source, after
a call that unlocked the joints, which `HasSources` supplies. A call that carries on keeps the
velocity or scales it, and its source stays the same. -/
theorem HasSources.velocity_concat (hh : HasSources sdk h) (x : Timed CmdVelOp)
    (hactive : (stateAfter sdk (h ++ [x])).hasActiveMove = true) :
    Sourced sdk (h ++ [x]) (stateAfter sdk (h ++ [x])).lastVelocity := by
  have hcap := (consistent_after sdk h).cap_pos
  have hcap' := (consistent_after sdk (h ++ [x])).cap_pos
  rw [stateAfter_concat] at hactive hcap' ⊢
  rcases (stateAfter sdk h).apply_cases sdk x.now x.op with
    ⟨-, hidle⟩ | ⟨p, hp, hunlocked⟩ | hon
  · rw [hidle] at hactive
    exact absurd hactive (by decide)
  · obtain ⟨u, hu, hunlocks⟩ := hh.unlocked hunlocked
    obtain ⟨k, hpos, hle, hlimit⟩ := exists_limit_eq_scaled hcap (parseMoveParameter sdk p)
    refine ⟨u, x, p, k, ?_, hunlocks, hp, hpos, hle, ?_⟩
    · exact (List.singleton_sublist.mpr hu).append (List.Sublist.refl [x])
    · rw [hp, apply_of_accepts _ sdk x.now hunlocked]
      exact hlimit
  · have hbefore := (hh.velocity (hon.hasActiveMove_eq ▸ hactive)).concat x
    rcases hon.velocity with ⟨-, hvel, -⟩ | ⟨-, hvel, -⟩
    · rwa [hvel]
    · rw [hvel]
      exact hbefore.limit hcap'

/-- After every history unlocked joints, the velocity of an active move and every message have a
source in it.

**Proof sketch.** Induction on the history from its end. Unlocked joints were unlocked before or by
the last call; the velocity is `velocity_concat`; a message is an old one, or by `eq_of_mem_apply`
the velocity now in effect. -/
theorem hasSources (h : List (Timed CmdVelOp)) : HasSources sdk h := by
  induction h using List.reverseRecOn with
  | nil =>
    refine ⟨?_, ?_, ?_⟩
    · simp [stateAfter, init]
    · simp [stateAfter, init]
    · simp [after]
  | append_singleton h x ih =>
    have hvelocity := ih.velocity_concat x
    refine ⟨fun hunlocked => ?_, hvelocity, fun t ht => ?_⟩
    · have hsettings : (stateAfter sdk (h ++ [x])).settings =
          (stateAfter sdk h).settings.apply x.op := by
        rw [stateAfter_concat, settings_apply]
      have hafter : ((stateAfter sdk h).settings.apply x.op).jointsLocked = false := by
        rw [← hsettings]
        exact hunlocked
      rcases Settings.unlocked_of_apply hafter with hbefore | hunlocks
      · obtain ⟨u, hu, hunlocks⟩ := ih.unlocked hbefore
        exact ⟨u, List.mem_append_left _ hu, hunlocks⟩
      · exact ⟨x, by simp, hunlocks⟩
    · rw [after_trace_concat, List.mem_append] at ht
      rcases ht with hold | hnew
      · rcases ih.trace t hold with rfl | ⟨v, hv, hspeed, rfl⟩
        · exact Or.inl rfl
        · exact Or.inr ⟨v, hv.concat x, hspeed, rfl⟩
      · rcases eq_of_mem_apply x hnew with rfl | ⟨hactive, hspeed, rfl⟩
        · exact Or.inl rfl
        · exact Or.inr ⟨_, hvelocity hactive, hspeed, rfl⟩

/-- **Sources.** Every nonzero `Twist` is the scaled velocity of a MOVE that came after a call that
unlocks the joints, and its linear magnitude is at most the largest cap. -/
theorem sourced_of_mem_trace {t : Twist K} (ht : t ∈ (after sdk h).trace) (hne : t ≠ 0) :
    ∃ v, Sourced sdk h v ∧ v.speed ≤ sportMaxLinearSpeed ∧ t = Twist.ofVelocity v :=
  ((hasSources h).trace t ht).resolve_left hne

end CmdVelPublisher

end SdkEventBridge
