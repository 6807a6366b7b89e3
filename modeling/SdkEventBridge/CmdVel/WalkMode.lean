import SdkEventBridge.CmdVel.History

set_option relaxedAutoImplicit false
set_option autoImplicit false

/-!
# Walk modes and the lock

Enabling a walk mode unlocks the joints; disabling it and a reset lock them and clear the walk
mode. `LockJoints`, which `SetGait(0)` and the handlers of STANDUP, STANDDOWN, RECOVERYSTAND and
DAMP use, locks them and leaves the walk mode as it is. This file proves that these are all the
ways in which a walk mode can come to be in effect with locked joints.

## Main definitions

* `CmdVelOp.locksOnly` — the calls that lock without a look at the walk mode.
* `Settings.WalksUnlocked` — a walk mode in effect means unlocked joints.

## Main results

* `CmdVelPublisher.walks_unlocked_iff` — the runs in which that holds all along.
-/

namespace SdkEventBridge

open PlanarNorm Run

/-- The call locks the joints and leaves the walk mode as it is. -/
def CmdVelOp.locksOnly : CmdVelOp → Bool
  | .lockJoints => true
  | .setGait gait => gait == 0
  | .setContinuousMoveMode _ | .setSpeedLevel _ | .setMotionModeName _ | .resetToDefaults
  | .unlockJoints | .setVisionWalk _ | .setFreeWalk | .setClassicWalk _ | .setFastWalk _
  | .handleMove _ | .handleStop | .tick => false

namespace Settings

variable {t : Settings} {op : CmdVelOp}

/-- A walk mode is in effect only while the joints are unlocked. -/
def WalksUnlocked (t : Settings) : Prop := t.walkMode ≠ .none → t.jointsLocked = false

/-- `SetWalkMode` unlocks with every mode it enables and locks with every mode it disables. -/
theorem WalksUnlocked.setWalkMode (h : t.WalksUnlocked) (mode : WalkMode) (enabled : Bool) :
    (t.setWalkMode mode enabled).WalksUnlocked := by
  unfold Settings.setWalkMode
  split_ifs
  · exact fun _ => rfl
  · exact fun hne => absurd rfl hne
  · exact h

/-- Any other call than a bare lock keeps walk mode and lock in agreement, and a bare lock does
so while no walk mode is in effect.

**Proof sketch.** Case analysis on the operation. Those that set a walk mode unlock the joints,
those that clear one may lock them, and a bare lock comes while no mode is set. -/
theorem WalksUnlocked.apply (h : t.WalksUnlocked)
    (hop : op.locksOnly = true → t.walkMode = .none) : (t.apply op).WalksUnlocked := by
  cases op with
  | lockJoints => exact fun hne => absurd (hop rfl) hne
  | setGait gait =>
    simp only [Settings.apply]
    split_ifs with hzero
    · exact fun hne => absurd (hop (by simp [CmdVelOp.locksOnly, hzero])) hne
    · exact fun _ => rfl
    · exact h
  | unlockJoints => exact fun _ => rfl
  | setFreeWalk => exact fun _ => rfl
  | setVisionWalk enabled => exact h.setWalkMode _ _
  | setClassicWalk enabled => exact h.setWalkMode _ _
  | setFastWalk enabled => exact h.setWalkMode _ _
  | resetToDefaults => exact fun hne => absurd rfl hne
  | setContinuousMoveMode enabled => exact h
  | setSpeedLevel level => exact h
  | setMotionModeName name => exact h
  | handleMove p => exact h
  | handleStop => exact h
  | tick => exact h

/-- After a bare lock walk mode and lock agree only if no walk mode was in effect. -/
theorem walkMode_eq_none_of_apply (hop : op.locksOnly = true) (h : (t.apply op).WalksUnlocked) :
    t.walkMode = .none := by
  have hsame : (t.apply op).walkMode = t.walkMode ∧ (t.apply op).jointsLocked = true := by
    cases op <;> simp [CmdVelOp.locksOnly] at hop
    · exact ⟨rfl, rfl⟩
    · simp [Settings.apply, hop]
  by_contra hne
  have hunlocked := h (by rwa [hsame.1])
  rw [hsame.2] at hunlocked
  exact absurd hunlocked (by decide)

end Settings

namespace CmdVelPublisher

/-- **Walk modes and the lock.** In every state of a run from construction a walk mode is in
effect only while the joints are unlocked, in exactly the runs in which `LockJoints` and
`SetGait(0)` are called only while no walk mode is in effect.

**Proof sketch.** If every state of the run has the property, so has the one after a bare lock,
which keeps the walk mode it found; that mode was none. Conversely the property holds at
construction and every call keeps it by `WalksUnlocked.apply`, so it holds along the run. -/
theorem walks_unlocked_iff {K : Type} [Field K] [LinearOrder K] [HasHypot K] (sdk : UnitreeSdk K)
    (h : List (Timed CmdVelOp)) :
    (∀ pre post, h = pre ++ post → (stateAfter sdk pre).getWalkMode ≠ .none →
      (stateAfter sdk pre).isJointsLocked = false) ↔
    ∀ pre x post, h = pre ++ x :: post → x.op.locksOnly = true →
      (stateAfter sdk pre).getWalkMode = .none := by
  constructor
  · intro hwalks pre x post hsplit hlocks
    have hafter : (stateAfter sdk (pre ++ [x])).settings.WalksUnlocked :=
      hwalks (pre ++ [x]) post (by rw [hsplit, List.append_assoc]; rfl)
    rw [stateAfter_concat, settings_apply] at hafter
    exact Settings.walkMode_eq_none_of_apply hlocks hafter
  · rintro hlocks pre post rfl
    have halong : Along (next (timedApply sdk))
        (fun s x => x.op.locksOnly = true → s.getWalkMode = .none) init pre := by
      rw [along_iff_forall_split]
      rintro a x b rfl
      exact hlocks a x (b ++ post) (by simp)
    refine run_induction_along (next (timedApply sdk))
      (Q := fun s : CmdVelPublisher K => s.settings.WalksUnlocked) ?_ (fun hne => absurd rfl hne)
      halong
    intro s x hs hx
    show ((s.apply sdk x.now x.op).1).settings.WalksUnlocked
    rw [settings_apply]
    exact hs.apply hx

/-- A lock leaves the vision walk in effect. -/
theorem walks_locked :
    let h : List (Timed CmdVelOp) := [⟨0, .setVisionWalk true⟩, ⟨0, .lockJoints⟩]
    (stateAfter (sampleSdk ℝ) h).getWalkMode ≠ .none ∧
      (stateAfter (sampleSdk ℝ) h).isJointsLocked = true := by
  intro h
  have hmode : (stateAfter (sampleSdk ℝ) h).getWalkMode = .visionWalk := rfl
  rw [hmode]
  exact ⟨by decide, rfl⟩

end CmdVelPublisher

end SdkEventBridge
