import DocMapper.Decimal.Shortest
import Mathlib.Algebra.Order.Field.Power
import Mathlib.Data.Rat.Floor
import Mathlib.Tactic.Linarith
import Mathlib.Tactic.NormNum
import Mathlib.Tactic.Positivity
/-!
The decimal that is found for a double is in the double's rounding interval, and the intervals
of two doubles have no number in common. The search cannot miss: a grid finer than half a step
between doubles has a point above every double that is nearer to it than to the next one, and
for doubles too large for the search to get there, the whole numbers do.
-/

namespace DocMapper

def Decimal.value (d : Decimal) : ℚ :=
  d.coefficient * 10 ^ d.exponent

namespace RoundingInterval

variable {i : RoundingInterval} {k : ℤ} {q : ℚ}

/-- A number, in units of the interval, that rounds to the number of the interval. -/
def Inside (i : RoundingInterval) (q : ℚ) : Prop :=
  (i.low < q * i.scale ∧ q * i.scale < i.high) ∨
    i.closed = true ∧ (i.low ≤ q * i.scale ∧ q * i.scale ≤ i.high)

theorem contains_iff {numerator denominator : ℕ} (positive : 0 < denominator) :
    i.contains numerator denominator = true ↔ i.Inside (numerator / denominator) := by
  have scaled : (numerator / denominator : ℚ) * i.scale = (numerator * i.scale : ℕ) / denominator := by
    push_cast
    ring
  have above : (0 : ℚ) < denominator := by exact_mod_cast positive
  rw [Inside, scaled, lt_div_iff₀ above, div_lt_iff₀ above, le_div_iff₀ above, div_le_iff₀ above]
  norm_cast
  cases closed : i.closed with
  | true =>
      simp only [contains, closed, ↓reduceIte, Bool.and_eq_true, decide_eq_true_eq, true_and]
      constructor
      · exact .inr
      · rintro (strict | loose)
        · exact ⟨strict.1.le, strict.2.le⟩
        · exact loose
  | false => simp [contains, closed]

theorem zpow_ten (k : ℤ) : (10 : ℚ) ^ k = (10 ^ k.toNat : ℕ) / (10 ^ (-k).toNat : ℕ) := by
  rcases Int.le_total 0 k with up | down
  · obtain ⟨n, rfl⟩ := Int.eq_ofNat_of_zero_le up
    simp
  · obtain ⟨n, hn⟩ := Int.eq_ofNat_of_zero_le (Int.neg_nonneg_of_nonpos down)
    obtain rfl : k = -n := by omega
    simp

theorem inside_grid_iff {c : ℕ} :
    i.contains (c * 10 ^ k.toNat) (10 ^ (-k).toNat) = true ↔ i.Inside (c * 10 ^ k) := by
  rw [contains_iff (by positivity), zpow_ten]
  push_cast
  rw [mul_div_assoc]

theorem onGrid?_inside {c : ℕ} (found : i.onGrid? k = some c) : i.Inside (c * 10 ^ k) := by
  rw [onGrid?] at found
  simp only [Nat.pow_eq] at found
  split at found
  · next here =>
      split at found
      · next next =>
          cases found
          simp only [Bool.and_eq_true] at next
          exact inside_grid_iff.mp next.1
      · cases found
        exact inside_grid_iff.mp here
  · split at found
    · next here =>
        cases found
        exact inside_grid_iff.mp here
    · cases found

/-- The multiple of a power of ten next below the number of the interval. -/
def gridBelow (i : RoundingInterval) (k : ℤ) : ℕ :=
  i.value * 10 ^ (-k).toNat / (i.scale * 10 ^ k.toNat)

theorem gridBelow_bounds (positive : 0 < i.scale) (k : ℤ) :
    (i.gridBelow k : ℚ) * 10 ^ k * i.scale ≤ i.value ∧
      (i.value : ℚ) < (i.gridBelow k + 1) * 10 ^ k * i.scale := by
  have up : (0 : ℚ) < (10 ^ (-k).toNat : ℕ) := by positivity
  have width : 0 < i.scale * 10 ^ k.toNat := by positivity
  have least := Nat.div_mul_le_self (i.value * 10 ^ (-k).toNat) (i.scale * 10 ^ k.toNat)
  have most := Nat.lt_div_mul_add width (a := i.value * 10 ^ (-k).toNat)
  rw [zpow_ten, mul_div_assoc', div_mul_eq_mul_div, div_le_iff₀ up, mul_div_assoc', div_mul_eq_mul_div,
    lt_div_iff₀ up]
  constructor
  · rw [gridBelow]
    exact_mod_cast (by linarith : _ ≤ _)
  · rw [gridBelow]
    exact_mod_cast (by linarith : _ < _)

theorem onGrid?_isSome (near : i.Inside (i.gridBelow k * 10 ^ k) ∨ i.Inside ((i.gridBelow k + 1 : ℕ) * 10 ^ k)) :
    (i.onGrid? k).isSome = true := by
  rw [← inside_grid_iff, ← inside_grid_iff] at near
  rw [onGrid?]
  simp only [Nat.pow_eq]
  split
  · split <;> rfl
  · next outside =>
      have hit := near.resolve_left outside
      rw [gridBelow] at hit
      rw [if_pos hit]
      rfl

theorem onGrid?_fine (positive : 0 < i.scale) (above : i.low < i.value)
    (fine : (i.value : ℚ) + 10 ^ k * i.scale < i.high) : (i.onGrid? k).isSome = true := by
  obtain ⟨least, most⟩ := gridBelow_bounds positive k
  have low : (i.low : ℚ) < i.value := by exact_mod_cast above
  apply onGrid?_isSome
  refine .inr (.inl ?_)
  push_cast
  constructor <;> linarith

theorem onGrid?_exact (positive : 0 < i.scale) (above : i.low < i.value) (below : i.value < i.high) {c : ℕ}
    (exact : (i.value : ℚ) = c * 10 ^ k * i.scale) : (i.onGrid? k).isSome = true := by
  obtain ⟨least, most⟩ := gridBelow_bounds positive k
  have unit : (0 : ℚ) < 10 ^ k * i.scale := by positivity
  have hit : i.gridBelow k = c := by
    rw [exact, mul_assoc, mul_assoc] at least most
    have atMost : (i.gridBelow k : ℚ) ≤ c := le_of_mul_le_mul_right least unit
    have atLeast : (c : ℚ) < i.gridBelow k + 1 := lt_of_mul_lt_mul_right most unit.le
    have : i.gridBelow k ≤ c := by exact_mod_cast atMost
    have : c < i.gridBelow k + 1 := by exact_mod_cast atLeast
    omega
  apply onGrid?_isSome
  rw [hit]
  refine .inl (.inl ?_)
  rw [← exact]
  exact_mod_cast And.intro above below

/-- A search that passes a grid with a point in the interval ends on such a point. -/
theorem search_inside {tries : ℕ} {j : ℤ} (reached : k - tries < j ∧ j ≤ k)
    (found : (i.onGrid? j).isSome = true) : i.Inside (i.search tries k).value := by
  induction tries generalizing k with
  | zero => omega
  | succ tries ih =>
      rw [search]
      cases here : i.onGrid? k with
      | some c => exact onGrid?_inside here
      | none =>
          have later : j ≠ k := by
            intro same
            rw [same, here] at found
            cases found
          exact ih (by omega)

end RoundingInterval

namespace Binary

/-- The positive finite doubles, each in its one form: all of the mantissa is in use, but for
the smallest doubles. -/
structure Canonical (mantissa : ℕ) (exponent : ℤ) (lowest : Bool) : Prop where
  positive : 0 < mantissa
  below : mantissa < 2 ^ 53
  least : -1074 ≤ exponent
  most : exponent ≤ 971
  full : -1074 < exponent → 2 ^ 52 ≤ mantissa
  lowest_iff : lowest = true ↔ mantissa = 2 ^ 52 ∧ -1074 < exponent

open RoundingInterval

variable {m n : ℕ} {e f : ℤ} {l p : Bool} {q : ℚ}

/-- How far down the rounding interval reaches, in quarters of a step. -/
def reach (lowest : Bool) : ℕ :=
  if lowest then 1 else 2

theorem zpow_two (e : ℤ) : (2 : ℚ) ^ (e - 2) = (2 ^ (e - 2).toNat : ℕ) / (2 ^ (2 - e).toNat : ℕ) := by
  rcases Int.le_total 2 e with up | down
  · obtain ⟨n, hn⟩ := Int.eq_ofNat_of_zero_le (Int.sub_nonneg_of_le up)
    have none : (2 - e).toNat = 0 := by omega
    rw [hn, none]
    simp
  · obtain ⟨n, hn⟩ := Int.eq_ofNat_of_zero_le (Int.sub_nonneg_of_le down)
    obtain rfl : e = 2 - n := by omega
    have none : (2 - (n : ℤ) - 2).toNat = 0 := by omega
    rw [none]
    simp

theorem inside_ofBinary_iff :
    (ofBinary m e l).Inside q ↔
      ((4 * m - reach l : ℕ) * 2 ^ (e - 2) < q ∧ q < (4 * m + 2 : ℕ) * 2 ^ (e - 2)) ∨
        m % 2 = 0 ∧ ((4 * m - reach l : ℕ) * 2 ^ (e - 2) ≤ q ∧ q ≤ (4 * m + 2 : ℕ) * 2 ^ (e - 2)) := by
  have scale : (0 : ℚ) < (2 ^ (2 - e).toNat : ℕ) := by positivity
  rw [zpow_two, mul_div_assoc', mul_div_assoc', div_lt_iff₀ scale, lt_div_iff₀ scale, div_le_iff₀ scale,
    le_div_iff₀ scale, Inside, ofBinary]
  simp only [decide_eq_true_eq, Nat.pow_eq]
  push_cast
  rfl

theorem tiny_grid {e : ℤ} (least : -1074 ≤ e) : (10 : ℚ) ^ (-324 : ℤ) < 2 * 2 ^ (e - 2) := by
  have small : (10 : ℚ) ^ (-324 : ℤ) < 2 ^ (-1075 : ℤ) := by
    have powers : 2 ^ 1075 < 10 ^ 324 := by decide +kernel
    rw [zpow_neg, zpow_neg]
    exact (inv_lt_inv₀ (by positivity) (by positivity)).mpr (by exact_mod_cast powers)
  have grows : (2 : ℚ) ^ (-1075 : ℤ) ≤ 2 ^ (e - 1) := zpow_le_zpow_right₀ (by norm_num) (by omega)
  have doubled : (2 : ℚ) * 2 ^ (e - 2) = 2 ^ (e - 1) := by
    rw [← zpow_one_add₀ (by norm_num)]
    congr 1
    omega
  rw [doubled]
  exact lt_of_lt_of_le small grows

theorem log2_le (canonical : Canonical m e l) : Nat.log2 m ≤ 52 := by
  have := (Nat.log2_lt canonical.positive.ne').mpr canonical.below
  omega

theorem shortest_inside (canonical : Canonical m e l) :
    (ofBinary m e l).Inside (Decimal.shortest m e l).value := by
  have size := log2_le canonical
  have least := canonical.least
  have most := canonical.most
  have positive := canonical.positive
  have scale : 0 < (ofBinary m e l).scale := by
    exact Nat.pow_pos Nat.two_pos
  have above : (ofBinary m e l).low < (ofBinary m e l).value := by
    have step : 4 * m - reach l < 4 * m := by
      rw [reach]
      split <;> omega
    exact Nat.mul_lt_mul_of_pos_right step (Nat.pow_pos Nat.two_pos)
  have below : (ofBinary m e l).value < (ofBinary m e l).high :=
    Nat.mul_lt_mul_of_pos_right (by omega) (Nat.pow_pos Nat.two_pos)
  rw [Decimal.shortest]
  -- For a small number the finest grid that is tried has a point between its neighbours.
  by_cases small : ((Nat.log2 m : ℤ) + 1 + e) * 30103 / 100000 + 1 ≤ 75
  · apply search_inside (j := -324) (by omega)
    apply onGrid?_fine scale above
    have tiny := tiny_grid least
    rw [zpow_two, mul_div_assoc', lt_div_iff₀ (by positivity)] at tiny
    generalize (10 : ℚ) ^ (-324 : ℤ) = width at tiny ⊢
    simp only [ofBinary, Nat.pow_eq]
    push_cast at tiny ⊢
    linarith
  · -- The number is whole, and the whole numbers are among the grids that are tried.
    apply search_inside (j := 0) (by omega)
    apply onGrid?_exact scale above below (c := m * 2 ^ e.toNat)
    obtain ⟨n, hn⟩ := Int.eq_ofNat_of_zero_le (show 0 ≤ e - 2 by omega)
    obtain rfl : e = n + 2 := by omega
    have none : (2 - ((n : ℤ) + 2)).toNat = 0 := by omega
    have exponent : ((n : ℤ) + 2).toNat = n + 2 := by omega
    simp only [ofBinary, none, exponent, hn, Int.toNat_natCast, Nat.pow_eq]
    push_cast
    ring

/-- Two neighbours share at most an end of their intervals, and that belongs to one of them. -/
theorem intervals_apart (first : Canonical m e l) (second : Canonical n f p) (before : e < f ∨ e = f ∧ m < n) :
    ((4 * m + 2 : ℕ) : ℚ) * 2 ^ (e - 2) < (4 * n - reach p : ℕ) * 2 ^ (f - 2) ∨
      ((4 * m + 2 : ℕ) : ℚ) * 2 ^ (e - 2) ≤ (4 * n - reach p : ℕ) * 2 ^ (f - 2) ∧
        (m % 2 = 1 ∨ n % 2 = 1) := by
  have unit : (0 : ℚ) < 2 ^ (e - 2) := by positivity
  have reached : reach p = if n = 2 ^ 52 ∧ -1074 < f then 1 else 2 := by
    rw [reach]
    exact if_congr second.lowest_iff rfl rfl
  rcases before with coarser | ⟨rfl, smaller⟩
  · have least := first.least
    have full := second.full (by omega)
    have below := first.below
    have steps : (2 : ℚ) * 2 ^ (e - 2) ≤ 2 ^ (f - 2) := by
      rw [← zpow_one_add₀ (by norm_num)]
      exact zpow_le_zpow_right₀ (by norm_num) (by omega)
    have wide : ((4 * n - reach p : ℕ) : ℚ) * (2 * 2 ^ (e - 2)) ≤ (4 * n - reach p : ℕ) * 2 ^ (f - 2) :=
      mul_le_mul_of_nonneg_left steps (by positivity)
    -- The largest mantissa is odd, so an even one leaves a gap.
    rcases Nat.mod_two_eq_zero_or_one m with even | odd
    · refine .inl (lt_of_lt_of_le ?_ wide)
      have gap : ((4 * m + 2 : ℕ) : ℚ) < (2 * (4 * n - reach p) : ℕ) := by
        exact_mod_cast (by rw [reached]; split <;> omega : 4 * m + 2 < 2 * (4 * n - reach p))
      push_cast at gap ⊢
      nlinarith
    · refine .inr ⟨le_trans ?_ wide, .inl odd⟩
      have touch : ((4 * m + 2 : ℕ) : ℚ) ≤ (2 * (4 * n - reach p) : ℕ) := by
        exact_mod_cast (by rw [reached]; split <;> omega : 4 * m + 2 ≤ 2 * (4 * n - reach p))
      push_cast at touch ⊢
      nlinarith
  · have full := first.full
    have two : reach p = 2 := by
      rw [reached, if_neg]
      rintro ⟨lowest, normal⟩
      have := full normal
      omega
    rw [two]
    by_cases next : n = m + 1
    · refine .inr ⟨mul_le_mul_of_nonneg_right ?_ unit.le, by omega⟩
      exact_mod_cast (by omega : 4 * m + 2 ≤ 4 * n - 2)
    · refine .inl (mul_lt_mul_of_pos_right ?_ unit)
      exact_mod_cast (by omega : 4 * m + 2 < 4 * n - 2)

theorem not_inside_both (first : Canonical m e l) (second : Canonical n f p) (before : e < f ∨ e = f ∧ m < n)
    (below : (ofBinary m e l).Inside q) : ¬(ofBinary n f p).Inside q := by
  intro above
  rw [inside_ofBinary_iff] at below above
  rcases intervals_apart first second before with gap | ⟨touch, odd⟩
  · rcases below with below | ⟨-, below⟩ <;> rcases above with above | ⟨-, above⟩ <;> linarith
  · rcases below with below | ⟨even, below⟩ <;> rcases above with above | ⟨even', above⟩
    · linarith
    · linarith
    · linarith
    · omega

/-- A number rounds to one double at most. -/
theorem inside_unique (first : Canonical m e l) (second : Canonical n f p)
    (below : (ofBinary m e l).Inside q) (above : (ofBinary n f p).Inside q) : m = n ∧ e = f ∧ l = p := by
  have order : (e < f ∨ e = f ∧ m < n) ∨ (f < e ∨ f = e ∧ n < m) ∨ e = f ∧ m = n := by omega
  rcases order with before | after | ⟨rfl, rfl⟩
  · exact absurd above (not_inside_both first second before below)
  · exact absurd below (not_inside_both second first after above)
  · refine ⟨rfl, rfl, ?_⟩
    rw [Bool.eq_iff_iff, first.lowest_iff, second.lowest_iff]

end Binary

end DocMapper
