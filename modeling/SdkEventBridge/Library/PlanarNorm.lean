import Mathlib.Analysis.Real.Sqrt
import Mathlib.Data.Rat.Sqrt
import Mathlib.Tactic.FieldSimp
import Mathlib.Tactic.Linarith
import Mathlib.Tactic.Positivity

set_option relaxedAutoImplicit false
set_option autoImplicit false

/-!
# The planar norm and clamping to a disc

Code that limits a planar velocity computes `hypot x y` and multiplies both components by
`c / hypot x y` when the magnitude exceeds the bound `c`. This file has the arithmetic of that
factor over any ordered field with a function `hypot` that is an exact Euclidean norm.

## Main definitions

* `PlanarNorm.HasHypot`, `PlanarNorm.LawfulHypot` — a field with a function `hypot`, and the law
  that makes it exact.
* `PlanarNorm.clampScale` — the factor that brings a magnitude `h` down to at most `c`.

## Main results

* `PlanarNorm.hypot_mul` — the norm is homogeneous.
* `PlanarNorm.clampScale_mul_self` — the clamped magnitude is `min h c`.
* `PlanarNorm.clampScale_comp` — clamping to `a` and then to `b` is clamping once to `min a b`.
-/

namespace PlanarNorm

/-- A type with a function meant as the Euclidean norm of a pair. -/
class HasHypot (K : Type) where
  hypot : K → K → K

export HasHypot (hypot)

/-- `hypot` is the exact Euclidean norm. -/
class LawfulHypot (K : Type) [Field K] [LinearOrder K] [HasHypot K] : Prop where
  hypot_nonneg : ∀ x y : K, 0 ≤ hypot x y
  hypot_sq : ∀ x y : K, hypot x y ^ 2 = x ^ 2 + y ^ 2

export LawfulHypot (hypot_nonneg hypot_sq)

/-- Exact real arithmetic. -/
noncomputable instance : HasHypot ℝ := ⟨fun x y => √(x ^ 2 + y ^ 2)⟩

/-- The square root of the sum of squares is the exact norm. -/
instance : LawfulHypot ℝ where
  hypot_nonneg _ _ := Real.sqrt_nonneg _
  hypot_sq x y := Real.sq_sqrt (by positivity)

/-- Rational arithmetic, for evaluation: exact on pairs with a rational norm. -/
instance : HasHypot ℚ := ⟨fun x y => Rat.sqrt (x ^ 2 + y ^ 2)⟩

section Hypot

variable {K : Type} [Field K] [LinearOrder K] [IsStrictOrderedRing K] [HasHypot K]
  [LawfulHypot K]

/-- The norm vanishes at the origin only. -/
theorem hypot_eq_zero {x y : K} : hypot x y = 0 ↔ x = 0 ∧ y = 0 := by
  constructor
  · intro h
    have hsq : x ^ 2 + y ^ 2 = 0 := by rw [← hypot_sq, h]; ring
    have hx := sq_nonneg x
    have hy := sq_nonneg y
    exact ⟨pow_eq_zero_iff two_ne_zero |>.mp (by linarith),
      pow_eq_zero_iff two_ne_zero |>.mp (by linarith)⟩
  · rintro ⟨rfl, rfl⟩
    have hsq := hypot_sq (0 : K) 0
    exact pow_eq_zero_iff two_ne_zero |>.mp (by rw [hsq]; ring)

/-- The norm of the origin. -/
@[simp] theorem hypot_zero_zero : hypot (0 : K) 0 = 0 := hypot_eq_zero.mpr ⟨rfl, rfl⟩

/-- A value whose square is `x² + y²` and which is not negative is the norm. -/
theorem hypot_eq_of_sq {x y h : K} (h0 : 0 ≤ h) (hsq : h ^ 2 = x ^ 2 + y ^ 2) :
    hypot x y = h := by
  have heq : hypot x y ^ 2 = h ^ 2 := by rw [hypot_sq, hsq]
  exact (pow_left_inj₀ (hypot_nonneg x y) h0 two_ne_zero).mp heq

/-- The norm is homogeneous under nonnegative factors. -/
theorem hypot_mul {s : K} (hs : 0 ≤ s) (x y : K) : hypot (x * s) (y * s) = hypot x y * s := by
  apply hypot_eq_of_sq
  · exact mul_nonneg (hypot_nonneg x y) hs
  · rw [mul_pow, hypot_sq]; ring

end Hypot

/-! ## The clamping factor -/

section Clamp

variable {K : Type} [Field K] [LinearOrder K]

/-- The factor by which a planar vector of magnitude `h` is multiplied to bring it into the disc
of radius `c`. -/
def clampScale (c h : K) : K := if c < h ∧ 0 < h then c / h else 1

/-- A magnitude above the cap is scaled down to it. -/
theorem clampScale_of_lt {c h : K} (hch : c < h) (hh : 0 < h) : clampScale c h = c / h :=
  if_pos ⟨hch, hh⟩

/-- A magnitude within the cap is left alone. -/
theorem clampScale_of_le {c h : K} (hch : h ≤ c) : clampScale c h = 1 :=
  if_neg fun hlt => absurd hlt.1 (not_lt.mpr hch)

variable {a b c h : K}

/-- Under a positive cap the factor is positive, so that clamping keeps directions. -/
theorem clampScale_pos [IsStrictOrderedRing K] (hc : 0 < c) : 0 < clampScale c h := by
  unfold clampScale
  split_ifs with hlt
  · exact div_pos hc hlt.2
  · exact one_pos

/-- The factor of a nonzero vector vanishes only with the bound. -/
theorem clampScale_eq_zero (hh : 0 < h) : clampScale c h = 0 ↔ c = 0 := by
  unfold clampScale
  split_ifs with hlt
  · rw [div_eq_zero_iff, or_iff_left hh.ne']
  · refine iff_of_false one_ne_zero ?_
    rintro rfl
    exact hlt ⟨hh, hh⟩

/-- Clamping never enlarges. -/
theorem clampScale_le_one [IsStrictOrderedRing K] : clampScale c h ≤ 1 := by
  unfold clampScale
  split_ifs with hlt
  · exact (div_le_one hlt.2).mpr hlt.1.le
  · exact le_rfl

/-- The factor is 1 or a quotient by a nonzero magnitude. -/
theorem clampScale_eq_one_or : clampScale c h = 1 ∨ (h ≠ 0 ∧ clampScale c h = c / h) := by
  unfold clampScale
  split_ifs with hlt
  · exact Or.inr ⟨hlt.2.ne', rfl⟩
  · exact Or.inl rfl

/-- For a nonzero vector the factor is `min 1 (c / h)`. -/
theorem clampScale_eq_min [IsStrictOrderedRing K] (hh : 0 < h) :
    clampScale c h = min 1 (c / h) := by
  rcases lt_or_ge c h with hch | hch
  · rw [clampScale_of_lt hch hh, min_eq_right ((div_le_one hh).mpr hch.le)]
  · rw [clampScale_of_le hch, min_eq_left ((one_le_div hh).mpr hch)]

/-- The clamped magnitude. -/
theorem clampScale_mul_self (hc : 0 < c) : h * clampScale c h = min h c := by
  rcases lt_or_ge c h with hch | hch
  · have hh : 0 < h := hc.trans hch
    rw [clampScale_of_lt hch hh, min_eq_right hch.le]
    field_simp
  · rw [clampScale_of_le hch, min_eq_left hch, mul_one]

/-- **Clamping twice.** Clamping to `a` and the result to `b` is clamping once to `min a b`.

**Proof sketch.** The first clamping leaves the magnitude `min h a` (`clampScale_mul_self`). Compare
`a` with `h` and then `b` with what is left: a cap that is not exceeded gives the factor 1, and of
two caps that are exceeded the quotients cancel. -/
theorem clampScale_comp (ha : 0 < a) (hb : 0 < b) :
    clampScale a h * clampScale b (h * clampScale a h) = clampScale (min a b) h := by
  rw [clampScale_mul_self ha]
  rcases lt_or_ge a h with hah | hah
  · have hh : 0 < h := ha.trans hah
    rw [min_eq_right hah.le, clampScale_of_lt hah hh,
      clampScale_of_lt ((min_le_left a b).trans_lt hah) hh]
    rcases lt_or_ge b a with hba | hba
    · rw [clampScale_of_lt hba ha, min_eq_right hba.le]
      field_simp
    · rw [clampScale_of_le hba, min_eq_left hba, mul_one]
  · rw [min_eq_left hah, clampScale_of_le hah, one_mul]
    rcases lt_or_ge b h with hbh | hbh
    · rw [min_eq_right (hbh.le.trans hah)]
    · rw [clampScale_of_le hbh, clampScale_of_le (le_min hah hbh)]

end Clamp

end PlanarNorm
