import GroceryErp.Lib.Rows
import Mathlib.Data.Rat.Floor
import Mathlib.Algebra.Order.Field.Basic
import Mathlib.Algebra.Order.Round
import Mathlib.Algebra.BigOperators.Group.List.Basic
import Mathlib.Tactic.Linarith
import Mathlib.Tactic.Ring
import Mathlib.Tactic.FieldSimp
import Mathlib.Tactic.Positivity
import Mathlib.Tactic.NormNum

/-!
# Fixed-scale decimals over the rationals

Decimal columns and decimal quantisation, on exact rationals.  A value is *on
the grid* of scale `n` when it has at most `n` decimals; quantising to scale `n`
rounds to the nearest grid value, ties going away from zero.

## Main definitions

* `roundHalfUp` — the nearest integer, ties away from zero.
* `quantize n` — the nearest value with `n` decimals.
* `OnGrid n` — having at most `n` decimals.
* `quantum n` — the distance between neighbouring grid values.
* `roundUpTo` — the next multiple of a value.

## Main results

* `abs_quantize_sub_le` — quantising moves a value by at most half a quantum.
* `quantize_mono`, `quantize_neg` — it is monotone and odd.
* `quantize_eq_self` — it fixes the grid.
* `quantize_add_of_onGrid` — it commutes with a grid shift that keeps the sign.
* `quantize_add_of_onGrid_iff` — and with every grid shift but of a tie below zero.
* `quantize_add_eq_iff` — when what is added to a grid value is rounded off again.
* `isLeast_roundUpTo` — rounding up gives the least multiple.
* `roundUpTo_mono`, `roundUpTo_roundUpTo` — rounding up is monotone and idempotent.
-/

namespace Decimal

/-! ### Rounding to an integer -/

/-- The nearest integer, where a number in the middle goes away from zero. -/
def roundHalfUp (x : ℚ) : ℤ := if 0 ≤ x then ⌊x + 1 / 2⌋ else ⌈x - 1 / 2⌉

theorem roundHalfUp_of_nonneg {x : ℚ} (hx : 0 ≤ x) : roundHalfUp x = ⌊x + 1 / 2⌋ :=
  if_pos hx

theorem roundHalfUp_of_neg {x : ℚ} (hx : x < 0) : roundHalfUp x = ⌈x - 1 / 2⌉ :=
  if_neg (not_le.mpr hx)

@[simp] theorem roundHalfUp_intCast (k : ℤ) : roundHalfUp k = k := by
  unfold roundHalfUp
  split
  · rw [Int.floor_eq_iff]
    constructor <;> linarith
  · rw [Int.ceil_eq_iff]
    constructor <;> linarith

@[simp] theorem roundHalfUp_zero : roundHalfUp 0 = 0 := by
  simpa using roundHalfUp_intCast 0

theorem roundHalfUp_neg (x : ℚ) : roundHalfUp (-x) = -roundHalfUp x := by
  rcases lt_trichotomy x 0 with h | h | h
  · rw [roundHalfUp_of_neg h, roundHalfUp_of_nonneg (by linarith), ← Int.floor_neg]
    congr 1
    ring
  · simp [h]
  · rw [roundHalfUp_of_nonneg h.le, roundHalfUp_of_neg (by linarith), ← Int.ceil_neg]
    congr 1
    ring

theorem roundHalfUp_nonneg {x : ℚ} (hx : 0 ≤ x) : 0 ≤ roundHalfUp x := by
  rw [roundHalfUp_of_nonneg hx]
  exact Int.floor_nonneg.mpr (by linarith)

/-- Rounding moves a value by at most one half. -/
theorem abs_roundHalfUp_sub_le (x : ℚ) : |(roundHalfUp x : ℚ) - x| ≤ 1 / 2 := by
  rw [abs_le]
  rcases le_or_gt 0 x with h | h
  · rw [roundHalfUp_of_nonneg h]
    have h1 := Int.floor_le (x + 1 / 2)
    have h2 := Int.lt_floor_add_one (x + 1 / 2)
    constructor <;> linarith
  · rw [roundHalfUp_of_neg h]
    have h1 := Int.le_ceil (x - 1 / 2)
    have h2 := Int.ceil_lt_add_one (x - 1 / 2)
    constructor <;> linarith

theorem roundHalfUp_mono {x y : ℚ} (h : x ≤ y) : roundHalfUp x ≤ roundHalfUp y := by
  rcases le_or_gt 0 x with hx | hx
  · rw [roundHalfUp_of_nonneg hx, roundHalfUp_of_nonneg (hx.trans h)]
    exact Int.floor_le_floor (by linarith)
  · rcases le_or_gt 0 y with hy | hy
    · -- the signs differ, so zero separates the two results
      have h0 : 0 ≤ roundHalfUp (-x) := roundHalfUp_nonneg (by linarith)
      rw [roundHalfUp_neg] at h0
      have h1 := roundHalfUp_nonneg hy
      omega
    · rw [roundHalfUp_of_neg hx, roundHalfUp_of_neg hy]
      exact Int.ceil_le_ceil (by linarith)

/-- An integer shift that keeps the value nonnegative commutes with rounding. -/
theorem roundHalfUp_add_intCast {x : ℚ} (k : ℤ) (hx : 0 ≤ x) (hxk : 0 ≤ x + k) :
    roundHalfUp (x + k) = roundHalfUp x + k := by
  rw [roundHalfUp_of_nonneg hx, roundHalfUp_of_nonneg hxk, ← Int.floor_add_intCast]
  congr 1
  ring

/-- A nonnegative value rounds to `k` exactly when it lies in the half-open unit
interval around `k`. -/
theorem roundHalfUp_eq_iff {x : ℚ} (hx : 0 ≤ x) (k : ℤ) :
    roundHalfUp x = k ↔ (k : ℚ) - 1 / 2 ≤ x ∧ x < k + 1 / 2 := by
  rw [roundHalfUp_of_nonneg hx, Int.floor_eq_iff]
  constructor
  · rintro ⟨h1, h2⟩
    constructor <;> linarith
  · rintro ⟨h1, h2⟩
    constructor <;> linarith

/-! ### The grid of a scale -/

/-- `x` has at most `n` decimals, so a column with `n` decimals keeps it as it is. -/
def OnGrid (n : ℕ) (x : ℚ) : Prop := ∃ k : ℤ, x = k / 10 ^ n

/-- The distance between two neighbouring values with `n` decimals. -/
def quantum (n : ℕ) : ℚ := 1 / 10 ^ n

theorem quantum_pos (n : ℕ) : 0 < quantum n := by
  unfold quantum
  positivity

theorem onGrid_iff_den (n : ℕ) (x : ℚ) : OnGrid n x ↔ (x * 10 ^ n).den = 1 := by
  have h10 : (10 : ℚ) ^ n ≠ 0 := by positivity
  constructor
  · rintro ⟨k, rfl⟩
    rw [div_mul_cancel₀ _ h10]
    exact Rat.den_intCast k
  · intro h
    refine ⟨(x * 10 ^ n).num, ?_⟩
    rw [eq_div_iff h10]
    exact (Rat.den_eq_one_iff _).mp h |>.symm

instance (n : ℕ) (x : ℚ) : Decidable (OnGrid n x) :=
  decidable_of_iff _ (onGrid_iff_den n x).symm

theorem onGrid_zero (n : ℕ) : OnGrid n 0 := ⟨0, by simp⟩

theorem OnGrid.neg {n : ℕ} {x : ℚ} (h : OnGrid n x) : OnGrid n (-x) := by
  obtain ⟨k, rfl⟩ := h
  exact ⟨-k, by push_cast; ring⟩

theorem OnGrid.add {n : ℕ} {x y : ℚ} (hx : OnGrid n x) (hy : OnGrid n y) :
    OnGrid n (x + y) := by
  obtain ⟨k, rfl⟩ := hx
  obtain ⟨l, rfl⟩ := hy
  exact ⟨k + l, by push_cast; ring⟩

theorem OnGrid.sub {n : ℕ} {x y : ℚ} (hx : OnGrid n x) (hy : OnGrid n y) :
    OnGrid n (x - y) := by
  rw [sub_eq_add_neg]
  exact hx.add hy.neg

theorem OnGrid.mono {m n : ℕ} {x : ℚ} (hmn : m ≤ n) (hx : OnGrid m x) : OnGrid n x := by
  obtain ⟨k, rfl⟩ := hx
  obtain ⟨d, rfl⟩ := Nat.exists_eq_add_of_le hmn
  refine ⟨k * 10 ^ d, ?_⟩
  push_cast
  rw [pow_add]
  field_simp

theorem onGrid_sum {n : ℕ} : ∀ (l : List ℚ), (∀ x ∈ l, OnGrid n x) → OnGrid n l.sum := by
  intro l
  induction l with
  | nil => intro _; exact onGrid_zero n
  | cons x l ih =>
    intro h
    rw [List.sum_cons]
    exact (h x List.mem_cons_self).add (ih fun y hy => h y (List.mem_cons_of_mem _ hy))

theorem onGrid_sumWhere {α : Type*} {n : ℕ} {p : α → Prop} [DecidablePred p] {f : α → ℚ}
    {t : List α} (h : ∀ a ∈ t, p a → OnGrid n (f a)) : OnGrid n (Rows.sumWhere p f t) := by
  rw [Rows.sumWhere_eq_sum_map]
  apply onGrid_sum
  intro x hx
  obtain ⟨a, ha, rfl⟩ := List.mem_map.mp hx
  by_cases hp : p a
  · rw [if_pos hp]
    exact h a ha hp
  · rw [if_neg hp]
    exact onGrid_zero n

/-- A positive grid value is at least one quantum. -/
theorem OnGrid.quantum_le {n : ℕ} {x : ℚ} (h : OnGrid n x) (hx : 0 < x) : quantum n ≤ x := by
  obtain ⟨k, rfl⟩ := h
  have h10 : (0 : ℚ) < 10 ^ n := by positivity
  have hk : (0 : ℚ) < k := by
    rcases div_pos_iff.mp hx with ⟨h, -⟩ | ⟨-, h⟩
    · exact h
    · exact absurd h (not_lt.mpr h10.le)
  have hk0 : 0 < k := by exact_mod_cast hk
  have hk1 : (1 : ℚ) ≤ k := by exact_mod_cast hk0
  unfold quantum
  gcongr

/-! ### Quantising -/

/-- The nearest value with `n` decimals, ties going away from zero. -/
def quantize (n : ℕ) (x : ℚ) : ℚ := roundHalfUp (x * 10 ^ n) / 10 ^ n

theorem onGrid_quantize (n : ℕ) (x : ℚ) : OnGrid n (quantize n x) := ⟨_, rfl⟩

@[simp] theorem quantize_zero (n : ℕ) : quantize n 0 = 0 := by simp [quantize]

/-- Quantising fixes the grid: a value with so many decimals is its own rounding. -/
theorem quantize_eq_self {n : ℕ} {x : ℚ} (h : OnGrid n x) : quantize n x = x := by
  obtain ⟨k, rfl⟩ := h
  have h10 : (10 : ℚ) ^ n ≠ 0 := by positivity
  rw [quantize, div_mul_cancel₀ _ h10, roundHalfUp_intCast]

@[simp] theorem quantize_quantize (n : ℕ) (x : ℚ) :
    quantize n (quantize n x) = quantize n x :=
  quantize_eq_self (onGrid_quantize n x)

theorem quantize_neg (n : ℕ) (x : ℚ) : quantize n (-x) = -quantize n x := by
  unfold quantize
  rw [neg_mul, roundHalfUp_neg]
  push_cast
  ring

theorem quantize_nonneg {n : ℕ} {x : ℚ} (hx : 0 ≤ x) : 0 ≤ quantize n x := by
  unfold quantize
  have h : 0 ≤ roundHalfUp (x * 10 ^ n) := roundHalfUp_nonneg (by positivity)
  have h' : (0 : ℚ) ≤ roundHalfUp (x * 10 ^ n) := by exact_mod_cast h
  positivity

theorem quantize_mono {n : ℕ} {x y : ℚ} (h : x ≤ y) : quantize n x ≤ quantize n y := by
  unfold quantize
  have h1 : roundHalfUp (x * 10 ^ n) ≤ roundHalfUp (y * 10 ^ n) :=
    roundHalfUp_mono (by gcongr)
  have h2 : (roundHalfUp (x * 10 ^ n) : ℚ) ≤ roundHalfUp (y * 10 ^ n) := by exact_mod_cast h1
  gcongr

/-- Quantising moves a value by at most half a quantum. -/
theorem abs_quantize_sub_le (n : ℕ) (x : ℚ) : |quantize n x - x| ≤ quantum n / 2 := by
  have h10 : (0 : ℚ) < 10 ^ n := by positivity
  have hx : quantize n x - x = (roundHalfUp (x * 10 ^ n) - x * 10 ^ n) / 10 ^ n := by
    unfold quantize
    field_simp
  rw [hx, abs_div, abs_of_pos h10, div_le_iff₀ h10]
  calc |(roundHalfUp (x * 10 ^ n) : ℚ) - x * 10 ^ n| ≤ 1 / 2 := abs_roundHalfUp_sub_le _
    _ = quantum n / 2 * 10 ^ n := by unfold quantum; field_simp

/-- Two sums differ by no more than their terms do. -/
theorem abs_sum_map_sub_le {α : Type*} {l : List α} {f g m : α → ℚ}
    (h : ∀ a ∈ l, |f a - g a| ≤ m a) : |(l.map f).sum - (l.map g).sum| ≤ (l.map m).sum := by
  induction l with
  | nil => simp
  | cons a l ih =>
    have ha := h a List.mem_cons_self
    have hl := ih fun b hb => h b (List.mem_cons_of_mem a hb)
    simp only [List.map_cons, List.sum_cons]
    calc |f a + (l.map f).sum - (g a + (l.map g).sum)|
        = |(f a - g a) + ((l.map f).sum - (l.map g).sum)| := by
          congr 1
          ring
      _ ≤ |f a - g a| + |(l.map f).sum - (l.map g).sum| := abs_add_le _ _
      _ ≤ m a + (l.map m).sum := add_le_add ha hl

/-- A sum of rounded amounts is off by half a quantum for each of them. -/
theorem abs_sum_map_quantize_sub_le {α : Type*} (n : ℕ) (l : List α) (f : α → ℚ) :
    |(l.map fun a => quantize n (f a)).sum - (l.map f).sum| ≤ quantum n / 2 * l.length := by
  calc |(l.map fun a => quantize n (f a)).sum - (l.map f).sum|
      ≤ (l.map fun _ => quantum n / 2).sum :=
        abs_sum_map_sub_le fun a _ => abs_quantize_sub_le n (f a)
    _ = quantum n / 2 * l.length := by
        rw [List.map_const', List.sum_replicate, nsmul_eq_mul, mul_comm]

/-- A product of a rounded factor, and the product rounded. -/
theorem abs_mul_quantize_sub_le (m n : ℕ) {x : ℚ} (hx : 0 ≤ x) (y : ℚ) :
    |x * quantize m y - quantize n (x * y)| ≤ (quantum n + x * quantum m) / 2 := by
  have hfactor : |x * (quantize m y - y)| ≤ x * (quantum m / 2) := by
    rw [abs_mul, abs_of_nonneg hx]
    exact mul_le_mul_of_nonneg_left (abs_quantize_sub_le m y) hx
  calc |x * quantize m y - quantize n (x * y)|
      = |x * (quantize m y - y) - (quantize n (x * y) - x * y)| := by
        congr 1
        ring
    _ ≤ |x * (quantize m y - y)| + |quantize n (x * y) - x * y| := abs_sub _ _
    _ ≤ x * (quantum m / 2) + quantum n / 2 := add_le_add hfactor (abs_quantize_sub_le n _)
    _ = (quantum n + x * quantum m) / 2 := by ring

/-- A nonnegative value quantises to a grid value exactly when it lies in the
half-open interval of one quantum around it. -/
theorem quantize_eq_iff {n : ℕ} {x y : ℚ} (hx : 0 ≤ x) (hy : OnGrid n y) :
    quantize n x = y ↔ y - quantum n / 2 ≤ x ∧ x < y + quantum n / 2 := by
  obtain ⟨k, rfl⟩ := hy
  have h10 : (0 : ℚ) < 10 ^ n := by positivity
  have hk : quantize n x = k / 10 ^ n ↔ roundHalfUp (x * 10 ^ n) = k := by
    rw [quantize, div_left_inj' h10.ne', Int.cast_inj]
  have hl : (k : ℚ) / 10 ^ n - quantum n / 2 = (k - 1 / 2) / 10 ^ n := by
    unfold quantum
    ring
  have hr : (k : ℚ) / 10 ^ n + quantum n / 2 = (k + 1 / 2) / 10 ^ n := by
    unfold quantum
    ring
  rw [hk, roundHalfUp_eq_iff (by positivity), hl, hr, div_le_iff₀ h10, lt_div_iff₀ h10]

/-- An integer multiple of a grid value is a grid value. -/
theorem OnGrid.intCast_mul {n : ℕ} {x : ℚ} (k : ℤ) (hx : OnGrid n x) : OnGrid n (k * x) := by
  obtain ⟨l, rfl⟩ := hx
  exact ⟨k * l, by push_cast; ring⟩

/-- A grid shift that keeps the value nonnegative commutes with quantising. -/
theorem quantize_add_of_onGrid {n : ℕ} {x y : ℚ} (hy : OnGrid n y) (hx : 0 ≤ x)
    (hxy : 0 ≤ x + y) : quantize n (x + y) = quantize n x + y := by
  obtain ⟨k, rfl⟩ := hy
  have h10 : (0 : ℚ) < 10 ^ n := by positivity
  have hk : (x + k / 10 ^ n) * 10 ^ n = x * 10 ^ n + k := by field_simp
  have hxk : 0 ≤ x * 10 ^ n + k := by rw [← hk]; positivity
  unfold quantize
  rw [hk, roundHalfUp_add_intCast k (by positivity) hxk]
  push_cast
  ring

/-- Two grid values less than a quantum apart are equal. -/
theorem OnGrid.eq_of_abs_sub_lt {n : ℕ} {x y : ℚ} (hx : OnGrid n x) (hy : OnGrid n y)
    (h : |x - y| < quantum n) : x = y := by
  by_contra hne
  have hpos : 0 < |x - y| := abs_pos.mpr (sub_ne_zero.mpr hne)
  have habs : OnGrid n |x - y| := by
    rcases abs_choice (x - y) with habs | habs
    · rw [habs]
      exact hx.sub hy
    · rw [habs]
      exact (hx.sub hy).neg
  exact absurd (habs.quantum_le hpos) (not_le.mpr h)

theorem onGrid_quantum (n : ℕ) : OnGrid n (quantum n) := ⟨1, by simp [quantum]⟩

/-- **A grid shift commutes with quantising**, unless it takes a tie below zero: there the tie
goes the other way. -/
theorem quantize_add_of_onGrid_iff {n : ℕ} {x y : ℚ} (hy : OnGrid n y) (hx : 0 ≤ x) :
    quantize n (x + y) = quantize n x + y ↔ 0 ≤ x + y ∨ quantize n x ≠ x + quantum n / 2 := by
  have hquantum := quantum_pos n
  constructor
  · intro heq
    by_contra hcon
    rw [not_or, not_le, not_not] at hcon
    obtain ⟨hneg, htie⟩ := hcon
    -- below zero the tie is `z` above, so its opposite is rounded up to `z + quantum / 2`
    have hgrid : OnGrid n (-(x + y) + quantum n / 2) := by
      have hsum := ((onGrid_quantum n).sub (onGrid_quantize n x)).sub hy
      rw [htie] at hsum
      have hshape : quantum n - (x + quantum n / 2) - y = -(x + y) + quantum n / 2 := by ring
      rwa [hshape] at hsum
    have hopposite : quantize n (-(x + y)) = -(x + y) + quantum n / 2 :=
      (quantize_eq_iff (by linarith) hgrid).mpr ⟨by linarith, by linarith⟩
    rw [quantize_neg] at hopposite
    rw [htie] at heq
    linarith
  · rintro (hnonneg | hne)
    · exact quantize_add_of_onGrid hy hx hnonneg
    · refine (onGrid_quantize n (x + y)).eq_of_abs_sub_lt ((onGrid_quantize n x).add hy) ?_
      have hsum := abs_le.mp (abs_quantize_sub_le n (x + y))
      obtain ⟨hlow, hhigh⟩ := (quantize_eq_iff hx (onGrid_quantize n x)).mp rfl
      -- `x` is no tie, so it is strictly nearer than half a quantum to its rounding
      have hlow' : quantize n x - quantum n / 2 < x :=
        lt_of_le_of_ne hlow fun heq => hne (by linarith)
      exact abs_lt.mpr ⟨by linarith, by linarith⟩

/-- What is added to a grid value is rounded off again when it is less than half a quantum, or
half a quantum towards zero. -/
def RoundsOff (n : ℕ) (q e : ℚ) : Prop :=
  |e| < quantum n / 2 ∨ (e = quantum n / 2 ∧ q < 0) ∨ (e = -(quantum n / 2) ∧ 0 < q)

instance RoundsOff.decidable (n : ℕ) (q e : ℚ) : Decidable (RoundsOff n q e) :=
  inferInstanceAs (Decidable (_ ∨ _))

theorem roundsOff_neg {n : ℕ} {q e : ℚ} : RoundsOff n (-q) (-e) ↔ RoundsOff n q e := by
  unfold RoundsOff
  rw [abs_neg, neg_eq_iff_eq_neg, neg_inj, neg_lt_zero, neg_pos]
  refine or_congr_right or_comm

theorem quantize_add_eq_iff_of_nonneg {n : ℕ} {q e : ℚ} (hq : OnGrid n q) (h : 0 ≤ q + e) :
    quantize n (q + e) = q ↔ RoundsOff n q e := by
  have hquantum := quantum_pos n
  rw [quantize_eq_iff h hq]
  constructor
  · rintro ⟨hlow, hhigh⟩
    rcases eq_or_lt_of_le hlow with heq | hlt
    · exact .inr (.inr ⟨by linarith, by linarith⟩)
    · exact .inl (abs_lt.mpr ⟨by linarith, by linarith⟩)
  · rintro (habs | ⟨he, hneg⟩ | ⟨he, -⟩)
    · obtain ⟨hlow, hhigh⟩ := abs_lt.mp habs
      exact ⟨by linarith, by linarith⟩
    · -- a grid value below zero is a whole quantum below it
      have hle := hq.neg.quantum_le (neg_pos.mpr hneg)
      linarith
    · exact ⟨by linarith, by linarith⟩

/-- **A sum with a grid value is rounded to it exactly when the rest rounds off.** -/
theorem quantize_add_eq_iff {n : ℕ} {q e : ℚ} (hq : OnGrid n q) :
    quantize n (q + e) = q ↔ RoundsOff n q e := by
  rcases le_total 0 (q + e) with h | h
  · exact quantize_add_eq_iff_of_nonneg hq h
  · have hneg : 0 ≤ -q + -e := by linarith
    rw [← roundsOff_neg, ← quantize_add_eq_iff_of_nonneg hq.neg hneg, ← neg_add, quantize_neg,
      neg_inj]

/-! ### Multiples -/

/-- The remainder of a division whose quotient is cut off towards zero. -/
def truncMod (x y : ℚ) : ℚ := x - y * (if 0 ≤ x / y then ⌊x / y⌋ else ⌈x / y⌉ : ℤ)

/-- The multiple of `y` that is next above `x`, by way of the remainder. -/
def roundUpTo (y x : ℚ) : ℚ := if truncMod x y = 0 then x else x + (y - truncMod x y)

section Multiples

variable {x x' y : ℚ}

theorem truncMod_lt (hy : 0 < y) : truncMod x y < y := by
  have hx : x = y * (x / y) := (mul_div_cancel₀ x hy.ne').symm
  unfold truncMod
  split
  · have hfloor := Int.lt_floor_add_one (x / y)
    have hmul : y * (x / y) < y * (⌊x / y⌋ + 1) := mul_lt_mul_of_pos_left hfloor hy
    linarith
  · have hceil := Int.le_ceil (x / y)
    have hmul : y * (x / y) ≤ y * ⌈x / y⌉ := mul_le_mul_of_nonneg_left hceil hy.le
    linarith

/-- A value is what is left over of it and a multiple. -/
theorem exists_truncMod (x y : ℚ) : ∃ k : ℤ, x = y * k + truncMod x y := by
  refine ⟨if 0 ≤ x / y then ⌊x / y⌋ else ⌈x / y⌉, ?_⟩
  unfold truncMod
  ring

theorem truncMod_intCast_mul (hy : 0 < y) (k : ℤ) : truncMod (y * k) y = 0 := by
  unfold truncMod
  rw [mul_div_cancel_left₀ _ hy.ne', Int.floor_intCast, Int.ceil_intCast, ite_self, sub_self]

theorem le_roundUpTo (hy : 0 < y) : x ≤ roundUpTo y x := by
  have hlt : truncMod x y < y := truncMod_lt hy
  unfold roundUpTo
  split
  · exact le_refl x
  · linarith

/-- The result is a multiple of the pack that is rounded up to. -/
theorem exists_roundUpTo (x y : ℚ) : ∃ k : ℤ, roundUpTo y x = y * k := by
  obtain ⟨k, hk⟩ := exists_truncMod x y
  unfold roundUpTo
  by_cases hzero : truncMod x y = 0
  · rw [if_pos hzero]
    rw [hzero, add_zero] at hk
    exact ⟨k, hk⟩
  · rw [if_neg hzero]
    refine ⟨k + 1, ?_⟩
    push_cast
    linarith

/-- A multiple stays as it is. -/
theorem roundUpTo_intCast_mul (hy : 0 < y) (k : ℤ) : roundUpTo y (y * k) = y * k :=
  if_pos (truncMod_intCast_mul hy k)

/-- **Rounding up once more changes nothing.** -/
theorem roundUpTo_roundUpTo (hy : 0 < y) : roundUpTo y (roundUpTo y x) = roundUpTo y x := by
  obtain ⟨k, hk⟩ := exists_roundUpTo x y
  rw [hk, roundUpTo_intCast_mul hy]

/-- What is not negative is rounded up to the least multiple above it. -/
theorem roundUpTo_eq_ceil (hy : 0 < y) (hx : 0 ≤ x) : roundUpTo y x = y * ⌈x / y⌉ := by
  have hquotient : 0 ≤ x / y := div_nonneg hx hy.le
  have hmod : truncMod x y = x - y * ⌊x / y⌋ := by
    unfold truncMod
    rw [if_pos hquotient]
  unfold roundUpTo
  by_cases hzero : truncMod x y = 0
  · -- `x` is a multiple itself
    have hmultiple : x / y = ⌊x / y⌋ := by
      rw [div_eq_iff hy.ne']
      linarith
    have hceil : ⌈x / y⌉ = ⌊x / y⌋ := by
      rw [hmultiple, Int.ceil_intCast, Int.floor_intCast]
    rw [if_pos hzero, hceil]
    linarith
  · have hlt : ⌊x / y⌋ < x / y := by
      refine lt_of_le_of_ne (Int.floor_le _) fun heq => hzero ?_
      rw [hmod, heq, mul_div_cancel₀ _ hy.ne', sub_self]
    have hceil : ⌈x / y⌉ = ⌊x / y⌋ + 1 := by
      refine Int.ceil_eq_iff.mpr ⟨?_, ?_⟩
      · push_cast
        linarith
      · push_cast
        exact (Int.lt_floor_add_one _).le
    rw [if_neg hzero, hmod, hceil]
    push_cast
    ring

/-- **What is not negative is rounded up to the least multiple that is not below it.** -/
theorem isLeast_roundUpTo (hy : 0 < y) (hx : 0 ≤ x) :
    IsLeast {q | (∃ k : ℤ, q = y * k) ∧ x ≤ q} (roundUpTo y x) := by
  refine ⟨⟨exists_roundUpTo x y, le_roundUpTo hy⟩, ?_⟩
  rintro q ⟨⟨k, rfl⟩, hle⟩
  have hquotient : x / y ≤ k := (div_le_iff₀' hy).mpr hle
  rw [roundUpTo_eq_ceil hy hx]
  exact mul_le_mul_of_nonneg_left (by exact_mod_cast Int.ceil_le.mpr hquotient) hy.le

/-- **Rounding up is monotone**: more is never rounded up to less. -/
theorem roundUpTo_mono (hy : 0 < y) (hx : 0 ≤ x) (hle : x ≤ x') :
    roundUpTo y x ≤ roundUpTo y x' := by
  rw [roundUpTo_eq_ceil hy hx, roundUpTo_eq_ceil hy (hx.trans hle)]
  have hceil : ⌈x / y⌉ ≤ ⌈x' / y⌉ := Int.ceil_mono ((div_le_div_iff_of_pos_right hy).mpr hle)
  exact mul_le_mul_of_nonneg_left (by exact_mod_cast hceil) hy.le

end Multiples

end Decimal
