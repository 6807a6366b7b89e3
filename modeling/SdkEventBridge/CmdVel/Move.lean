import SdkEventBridge.CmdVel.Operations

set_option relaxedAutoImplicit false
set_option autoImplicit false

/-!
# From a MOVE parameter to a message

`HandleMove` parses its parameter, limits the parsed velocity and publishes it. This file says
what the parser returns for a parameter that is not well formed, where it does not report the
error but returns what it had assigned by then, and what the limiter does to a velocity: it is
the radial projection onto the disc whose radius is the cap in use.

## Main definitions

* `WellFormedMove` — a JSON map in which `x`, `y` and `z`, if present, are numbers.
* `numberAt`, `convertsAt` — what is read at a key, and whether reading it throws.
* `AssignsNothing` — all the parser assigns before it throws is zero.

## Main results

* `malformed_move_zero_iff` — when a malformed MOVE publishes zero.
* `applySpeedLimit_projects` — the limiter is the radial projection.
-/

namespace SdkEventBridge

open PlanarNorm

/-! ## Malformed parameters -/

section Malformed

variable {K : Type} (sdk : UnitreeSdk K)

/-- The key is absent, or its value converts to a number. -/
def convertsAt (jsonMap : sdk.Any) (key : String) : Bool :=
  match sdk.find jsonMap key with
  | none => true
  | some value => (sdk.fromJsonDouble value).isSome

/-- The number at the key, and zero if there is none. -/
def numberAt [Zero K] (jsonMap : sdk.Any) (key : String) : K :=
  ((sdk.find jsonMap key).bind sdk.fromJsonDouble).getD 0

/-- A MOVE parameter as the client should send it: a JSON map in which each present key among
`x`, `y` and `z` converts to a number. -/
def WellFormedMove (parameterJson : String) : Prop :=
  ∃ jsonMap, sdk.fromJsonString parameterJson = some jsonMap ∧ sdk.isJsonMap jsonMap = true ∧
    ∀ key ∈ ["x", "y", "z"], convertsAt sdk jsonMap key = true

/-- Everything the parser assigns before it comes to a value that is no number is zero. -/
def AssignsNothing [Zero K] (jsonMap : sdk.Any) : Prop :=
  numberAt sdk jsonMap "x" = 0 ∧
    (convertsAt sdk jsonMap "x" = true → numberAt sdk jsonMap "y" = 0)

variable {sdk}

/-- `if (it != jsonMap.end()) FromJson(it->second, target)` on a target that is zero. -/
theorem assignDouble_zero [Zero K] (jsonMap : sdk.Any) (key : String) :
    assignDouble sdk (sdk.find jsonMap key) 0 =
      if convertsAt sdk jsonMap key then some (numberAt sdk jsonMap key) else none := by
  unfold assignDouble convertsAt numberAt
  cases hfind : sdk.find jsonMap key with
  | none => rfl
  | some value => cases hvalue : sdk.fromJsonDouble value <;> simp [hvalue]

/-- Where reading throws, nothing is read. -/
theorem numberAt_of_not_convertsAt [Zero K] {jsonMap : sdk.Any} {key : String}
    (h : convertsAt sdk jsonMap key = false) : numberAt sdk jsonMap key = 0 := by
  unfold convertsAt at h
  cases hfind : sdk.find jsonMap key with
  | none => simp [hfind] at h
  | some value =>
    have hvalue : sdk.fromJsonDouble value = none := by simpa [hfind] using h
    simp [numberAt, hfind, hvalue]

/-- What was parsed as a map is a map, so a malformed parameter has a bad value in it. -/
theorem exists_not_convertsAt {parameterJson : String} {jsonMap : sdk.Any}
    (hmalformed : ¬ WellFormedMove sdk parameterJson)
    (hmap : parseJsonMap sdk parameterJson = some jsonMap) :
    ∃ key ∈ ["x", "y", "z"], convertsAt sdk jsonMap key = false := by
  unfold parseJsonMap at hmap
  split_ifs at hmap with hempty
  obtain ⟨hparse, hisMap⟩ := Option.filter_eq_some_iff.mp hmap
  by_contra hall
  refine hmalformed ⟨jsonMap, hparse, hisMap, fun key hkey => ?_⟩
  by_contra hne
  exact hall ⟨key, hkey, by simpa using hne⟩

/-- **Error results of the MOVE parser.** For a malformed parameter the parser returns what it
assigned before it came to the first bad value.

**Proof sketch.** One of the three values does not convert. The parser assigns `x`, `y` and `z` in
this order and leaves at the first one that does not, so case analysis on which of them convert
gives what was assigned; `z` is never among it. -/
theorem parseMoveParameter_of_malformed [Zero K] {parameterJson : String} {jsonMap : sdk.Any}
    (hmalformed : ¬ WellFormedMove sdk parameterJson)
    (hmap : parseJsonMap sdk parameterJson = some jsonMap) :
    parseMoveParameter sdk parameterJson =
      { vx := numberAt sdk jsonMap "x"
        vy := if convertsAt sdk jsonMap "x" then numberAt sdk jsonMap "y" else 0
        vyaw := 0 } := by
  obtain ⟨key, hkey, hbad⟩ := exists_not_convertsAt hmalformed hmap
  unfold parseMoveParameter
  simp only [hmap, MoveVelocity.zero_vx, MoveVelocity.zero_vy, MoveVelocity.zero_vyaw,
    assignDouble_zero]
  cases hx : convertsAt sdk jsonMap "x" with
  | false => simp [numberAt_of_not_convertsAt hx, MoveVelocity.ext_iff]
  | true =>
    cases hy : convertsAt sdk jsonMap "y" with
    | false => simp [numberAt_of_not_convertsAt hy]
    | true =>
      -- The bad value is the last one.
      have hz : convertsAt sdk jsonMap "z" = false := by
        simp only [List.mem_cons, List.not_mem_nil, or_false] at hkey
        rcases hkey with rfl | rfl | rfl
        · rw [hx] at hbad
          exact absurd hbad (by decide)
        · rw [hy] at hbad
          exact absurd hbad (by decide)
        · exact hbad
      simp [hz]

/-- The error result is zero iff nothing but zero was assigned. -/
theorem parseMoveParameter_eq_zero_iff [Zero K] {parameterJson : String}
    (hmalformed : ¬ WellFormedMove sdk parameterJson) :
    parseMoveParameter sdk parameterJson = 0 ↔
      ∀ jsonMap, parseJsonMap sdk parameterJson = some jsonMap → AssignsNothing sdk jsonMap := by
  cases hmap : parseJsonMap sdk parameterJson with
  | none =>
    refine iff_of_true ?_ (by simp)
    simp [parseMoveParameter, hmap]
  | some jsonMap =>
    rw [parseMoveParameter_of_malformed hmalformed hmap, MoveVelocity.ext_iff]
    simp [AssignsNothing]

/-- No angular velocity comes out of a malformed parameter. -/
theorem parseMoveParameter_vyaw_of_malformed [Zero K] {parameterJson : String}
    (hmalformed : ¬ WellFormedMove sdk parameterJson) :
    (parseMoveParameter sdk parameterJson).vyaw = 0 := by
  cases hmap : parseJsonMap sdk parameterJson with
  | none => simp [parseMoveParameter, hmap]
  | some jsonMap => rw [parseMoveParameter_of_malformed hmalformed hmap]

end Malformed

namespace MoveVelocity

variable {K : Type} [Field K] [LinearOrder K] [IsStrictOrderedRing K] [HasHypot K]
  [LawfulHypot K]

/-- A velocity without rotation is limited to zero only if it is zero or the cap is. -/
theorem limit_eq_zero_of_vyaw {c : K} {v : MoveVelocity K} (hyaw : v.vyaw = 0) :
    v.limit c = 0 ↔ c = 0 ∨ v = 0 := by
  rcases eq_or_ne v 0 with rfl | hne
  · simp
  have hplanar : ¬ (v.vx = 0 ∧ v.vy = 0) := fun h => hne (MoveVelocity.ext h.1 h.2 hyaw)
  have hspeed : 0 < v.speed :=
    (hypot_nonneg v.vx v.vy).lt_of_ne fun h0 => hplanar (hypot_eq_zero.mp h0.symm)
  rw [or_iff_left hne, ← clampScale_eq_zero hspeed, MoveVelocity.ext_iff]
  simp only [limit, zero_vx, zero_vy, zero_vyaw, hyaw, and_true, mul_eq_zero]
  tauto

/-- Exactly the velocities within the cap are not changed. -/
theorem limit_eq_self_iff {c : K} {v : MoveVelocity K} (hc : 0 < c) :
    v.limit c = v ↔ v.speed ≤ c := by
  constructor
  · intro h
    have hspeed : min v.speed c = v.speed := by rw [← speed_limit hc, h]
    exact min_eq_left_iff.mp hspeed
  · exact limit_of_speed_le

end MoveVelocity

namespace CmdVelPublisher

/-- **Malformed MOVEs.** A MOVE with a malformed parameter publishes nothing but zero if the
joints are locked or everything assigned before the bad value is zero, and only then; a cap of
zero, which no operation sets, would do as well.

**Proof sketch.** With locked joints nothing is published. Otherwise the one message is the parsed
velocity limited to the cap. Its rotation is zero since the value of `z` is assigned last, so it is
zero exactly if the cap is or the parsed velocity is, and the latter is `AssignsNothing`. -/
theorem malformed_move_zero_iff (sdk : UnitreeSdk ℝ) (s : CmdVelPublisher ℝ) (now : Time)
    (parameterJson : String) (hmalformed : ¬ WellFormedMove sdk parameterJson) :
    (∀ t ∈ (s.handleMove sdk now parameterJson).2, t = 0) ↔
      s.jointsLocked = true ∨ s.maxLinearSpeed = 0 ∨
        ∀ jsonMap, parseJsonMap sdk parameterJson = some jsonMap →
          AssignsNothing sdk jsonMap := by
  cases hlocked : s.jointsLocked with
  | true => simp [handleMove, hlocked]
  | false =>
    have hout : (s.handleMove sdk now parameterJson).2 =
        [Twist.ofVelocity ((parseMoveParameter sdk parameterJson).limit s.maxLinearSpeed)] :=
      congrArg Prod.snd (apply_of_accepts s sdk now hlocked)
    have hyaw := parseMoveParameter_vyaw_of_malformed hmalformed
    rw [hout, ← parseMoveParameter_eq_zero_iff hmalformed,
      ← MoveVelocity.limit_eq_zero_of_vyaw hyaw]
    simp

/-- A MOVE whose first value is bad publishes zero. -/
theorem malformed_move_zero_iff_bad_x :
    let p := "\x7b\"x\":\"bad\",\"y\":1\x7d"
    let sdk := sampleSdkWith ℝ p (.map [("x", .text "bad"), ("y", .number 1)])
    ∀ t ∈ ((init : CmdVelPublisher ℝ).unlockJoints.handleMove sdk 0 p).2, t = 0 := by
  intro p sdk
  have hparse : sdk.fromJsonString p = some (.map [("x", .text "bad"), ("y", .number 1)]) := rfl
  have hmalformed : ¬ WellFormedMove sdk p := by
    rintro ⟨jsonMap, hjson, -, hkeys⟩
    rw [hparse] at hjson
    obtain rfl := Option.some.inj hjson
    exact absurd (hkeys "x" (by simp)) Bool.false_ne_true
  refine (malformed_move_zero_iff sdk init.unlockJoints 0 p hmalformed).mpr
    (Or.inr (Or.inr fun jsonMap hmap => ?_))
  have hmap' : parseJsonMap sdk p = some (.map [("x", .text "bad"), ("y", .number 1)]) := rfl
  rw [hmap'] at hmap
  obtain rfl := Option.some.inj hmap
  exact ⟨rfl, fun hx => absurd hx Bool.false_ne_true⟩

/-- A MOVE whose second value is bad moves the robot with the first. -/
theorem malformed_move_moves :
    let p := "\x7b\"x\":1,\"y\":\"bad\"\x7d"
    let sdk := sampleSdkWith ℝ p (.map [("x", .number 1), ("y", .text "bad")])
    ¬ WellFormedMove sdk p ∧
      ∃ t ∈ ((init : CmdVelPublisher ℝ).unlockJoints.handleMove sdk 0 p).2, t ≠ 0 := by
  intro p sdk
  have hparse : sdk.fromJsonString p = some (.map [("x", .number 1), ("y", .text "bad")]) := rfl
  refine ⟨?_, ?_⟩
  · rintro ⟨jsonMap, hjson, -, hkeys⟩
    rw [hparse] at hjson
    obtain rfl := Option.some.inj hjson
    exact absurd (hkeys "y" (by simp)) Bool.false_ne_true
  · have hv : parseMoveParameter sdk p = ⟨((1 : Int32).toInt : ℝ), 0, 0⟩ := rfl
    have hpos : (0 : ℝ) < aiLowMaxLinearSpeed := by norm_num [aiLowMaxLinearSpeed]
    simp [handleMove, acceptMove, unlockJoints, init, applySpeedLimit_eq, hv,
      MoveVelocity.limit_eq_zero hpos, MoveVelocity.ext_iff]

/-! ## The limiter -/

/-- **The limiter is the radial projection** onto the disc whose radius is the cap. The rotation
is kept, the linear part is multiplied by a factor in `(0, 1]`, which is 1 or a quotient by a
nonzero magnitude, and is brought to magnitude `min speed cap`; successive caps act as the
smallest of them.

**Proof sketch.** The limiter multiplies the linear part by `clampScale cap speed`, which lies in
`(0, 1]`. Each law is the fact about that factor in the theory of planar norms: the speed after
limiting is the minimum, and limiting twice is limiting to the smaller cap, from which commutation
and idempotence follow. -/
theorem applySpeedLimit_projects (s : CmdVelPublisher ℝ) (a b : ℝ) (ha : 0 < a) (hb : 0 < b)
    (v : MoveVelocity ℝ) :
    let limitTo (cap : ℝ) (v : MoveVelocity ℝ) : MoveVelocity ℝ :=
      { s with maxLinearSpeed := cap }.applySpeedLimit v
    (limitTo a v).vyaw = v.vyaw ∧
      (∃ k, 0 < k ∧ k ≤ 1 ∧ (limitTo a v).vx = k * v.vx ∧ (limitTo a v).vy = k * v.vy ∧
        (k = 1 ∨ (hypot v.vx v.vy ≠ 0 ∧ k = a / hypot v.vx v.vy))) ∧
      hypot (limitTo a v).vx (limitTo a v).vy = min (hypot v.vx v.vy) a ∧
      ((limitTo a v).vx = 0 ∧ (limitTo a v).vy = 0 ↔ v.vx = 0 ∧ v.vy = 0) ∧
      (limitTo a v = v ↔ hypot v.vx v.vy ≤ a) ∧
      limitTo b (limitTo a v) = limitTo (min a b) v ∧
      limitTo b (limitTo a v) = limitTo a (limitTo b v) ∧
      limitTo a (limitTo a v) = limitTo a v := by
  intro limitTo
  have hlimit : ∀ cap w, limitTo cap w = w.limit cap := fun cap w =>
    applySpeedLimit_eq { s with maxLinearSpeed := cap } w
  have hspeed : ∀ w : MoveVelocity ℝ, hypot w.vx w.vy = w.speed := fun _ => rfl
  simp only [hlimit, hspeed]
  have hscale := clampScale_pos (h := v.speed) ha
  refine ⟨rfl, ?_, MoveVelocity.speed_limit ha, ?_, MoveVelocity.limit_eq_self_iff ha,
    MoveVelocity.limit_limit ha hb, ?_, ?_⟩
  · exact ⟨clampScale a v.speed, hscale, clampScale_le_one, mul_comm _ _, mul_comm _ _,
      clampScale_eq_one_or⟩
  · simp [MoveVelocity.limit, hscale.ne']
  · rw [MoveVelocity.limit_limit ha hb, MoveVelocity.limit_limit hb ha, min_comm]
  · rw [MoveVelocity.limit_limit ha ha, min_self]

/-- A velocity of magnitude 5 limited to 1.5 and then to 3.5. -/
theorem applySpeedLimit_projects_five :
    let limitTo (cap : ℝ) (v : MoveVelocity ℝ) : MoveVelocity ℝ :=
      { (init : CmdVelPublisher ℝ) with maxLinearSpeed := cap }.applySpeedLimit v
    limitTo 3.5 (limitTo 1.5 ⟨3, 4, 1⟩) = limitTo (min 1.5 3.5) ⟨3, 4, 1⟩ :=
  (applySpeedLimit_projects init 1.5 3.5 (by norm_num) (by norm_num) ⟨3, 4, 1⟩).2.2.2.2.2.1

end CmdVelPublisher

end SdkEventBridge
