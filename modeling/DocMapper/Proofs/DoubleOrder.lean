import DocMapper.Criteria.Evaluate
import Mathlib
/-!
Doubles that are equal as numbers are the same double, but for the sign of zero. So no
comparison tells them apart, on either side. All but those that are no number lie on one line. What
equality of doubles means is stated in no module of Mathlib alone, so all of Mathlib is imported.
-/

namespace DocMapper

open Float.Model

variable {x y : Float}

theorem equal_cases (equal : (x == y) = true) : x = y ∨ x = 0 ∧ y = -0 ∨ x = -0 ∧ y = 0 :=
  (Float.beq_iff_ne_nan_and_eq.mp equal).2.2

theorem unpack_zero : (0 : Float).toModel.unpack = .zero .positive := by
  rfl

theorem unpack_negative_zero : (-0 : Float).toModel.unpack = .zero .negative := by
  rfl

theorem compare_zero_left (s t : UnpackedFloat.Sign) (c : UnpackedFloat) :
    (UnpackedFloat.zero s).compare c = (UnpackedFloat.zero t).compare c := by
  cases c with
  | infinity r => cases r <;> rfl
  | finite r m e positive => cases r <;> rfl
  | notANumber => rfl
  | zero r => rfl

theorem compare_zero_right (s t : UnpackedFloat.Sign) (c : UnpackedFloat) :
    c.compare (.zero s) = c.compare (.zero t) := by
  cases c with
  | infinity r => cases r <;> rfl
  | finite r m e positive => cases r <;> rfl
  | notANumber => rfl
  | zero r => rfl

theorem compare_congr_left (equal : (x == y) = true) (c : UnpackedFloat) :
    x.toModel.unpack.compare c = y.toModel.unpack.compare c := by
  rcases equal_cases equal with rfl | ⟨rfl, rfl⟩ | ⟨rfl, rfl⟩
  · rfl
  · rw [unpack_zero, unpack_negative_zero, compare_zero_left]
  · rw [unpack_zero, unpack_negative_zero, compare_zero_left]

theorem compare_congr_right (equal : (x == y) = true) (c : UnpackedFloat) :
    c.compare x.toModel.unpack = c.compare y.toModel.unpack := by
  rcases equal_cases equal with rfl | ⟨rfl, rfl⟩ | ⟨rfl, rfl⟩
  · rfl
  · rw [unpack_zero, unpack_negative_zero, compare_zero_right]
  · rw [unpack_zero, unpack_negative_zero, compare_zero_right]

theorem lt_iff_compare : x < y ↔ x.toModel.unpack.compare y.toModel.unpack = some .lt := by
  show decide ((x.toModel.unpack.compare y.toModel.unpack == some .lt) = true) = true ↔ _
  simp

theorem le_iff_compare : x ≤ y ↔ (x.toModel.unpack.compare y.toModel.unpack).any Ordering.isLE = true := by
  show decide ((x.toModel.unpack.compare y.toModel.unpack).any (·.isLE) = true) = true ↔ _
  simp

theorem equal_iff_compare : (x == y) = true ↔ x.toModel.unpack.compare y.toModel.unpack = some .eq := by
  show (x.toModel.unpack.compare y.toModel.unpack == some .eq) = true ↔ _
  simp

theorem le_congr_left (equal : (x == y) = true) (z : Float) : x ≤ z ↔ y ≤ z := by
  rw [le_iff_compare, le_iff_compare, compare_congr_left equal]

theorem le_congr_right (equal : (x == y) = true) (z : Float) : z ≤ x ↔ z ≤ y := by
  rw [le_iff_compare, le_iff_compare, compare_congr_right equal]

theorem compareDoubles?_congr (equal : (x == y) = true) (z : Float) :
    compareDoubles? z x = compareDoubles? z y := by
  have below : z < x ↔ z < y := by
    rw [lt_iff_compare, lt_iff_compare, compare_congr_right equal]
  have above : x < z ↔ y < z := by
    rw [lt_iff_compare, lt_iff_compare, compare_congr_left equal]
  simp only [compareDoubles?, below, above, BEq.congr_right equal]

/-- Doubles that are equal are the same, unless one is the zero with a minus sign. -/
theorem eq_of_equal (equal : (x == y) = true) (first : x ≠ -0) (second : y ≠ -0) : x = y := by
  rcases equal_cases equal with same | ⟨-, zero⟩ | ⟨zero, -⟩
  · exact same
  · exact absurd zero second
  · exact absurd zero first

/-! ## Doubles on a line -/

/-- Where a double lies among the others: its side of zero, its exponent and its mantissa. What is no
number lies nowhere. -/
def placeOf? : UnpackedFloat → Option (ℤ × ℤ × ℤ)
  | .notANumber => none
  | .infinity .negative => some (-2, 0, 0)
  | .finite .negative mantissa exponent _ => some (-1, -exponent, -mantissa)
  | .zero _ => some (0, 0, 0)
  | .finite .positive mantissa exponent _ => some (1, exponent, mantissa)
  | .infinity .positive => some (2, 0, 0)

def comparePlaces : ℤ × ℤ × ℤ → ℤ × ℤ × ℤ → Ordering :=
  compareLex (compareOn Prod.fst) (compareLex (compareOn fun p => p.2.1) (compareOn fun p => p.2.2))

instance : Std.TransCmp comparePlaces :=
  inferInstanceAs (Std.TransCmp (compareLex _ (compareLex _ _)))

theorem compare_neg (a b : ℤ) : compare (-a) (-b) = (compare a b).swap := by
  have flipped : StrictAnti fun k : ℤ => -k := fun _ _ below => neg_lt_neg below
  rw [← cmp_eq_compare (-a), flipped.cmp_map_eq, cmp_eq_compare]
  exact Std.OrientedCmp.eq_swap

theorem compare_cast (m n : ℕ) : compare (m : ℤ) (n : ℤ) = compare m n := by
  rw [← cmp_eq_compare (m : ℤ), Nat.strictMono_cast.cmp_map_eq, cmp_eq_compare]

theorem compare_eq_places (a b : UnpackedFloat) :
    a.compare b = (placeOf? a).bind fun p => (placeOf? b).map fun q => comparePlaces p q := by
  cases a with
  | notANumber => rfl
  | infinity s => cases b with
    | notANumber => cases s <;> rfl
    | infinity r => cases s <;> cases r <;> rfl
    | zero r => cases s <;> rfl
    | finite r n f positive => cases s <;> cases r <;> rfl
  | zero s => cases b with
    | notANumber => rfl
    | infinity r => cases r <;> rfl
    | zero r => rfl
    | finite r n f positive => cases r <;> rfl
  | finite s m e positive => cases b with
    | notANumber => cases s <;> rfl
    | infinity r => cases s <;> cases r <;> rfl
    | zero r => cases s <;> rfl
    | finite r n f positive =>
        cases s <;> cases r
        · simp [UnpackedFloat.compare, placeOf?, comparePlaces, compareLex, compareOn, Ordering.swap_then,
            compare_neg, compare_cast]
        · rfl
        · rfl
        · simp [UnpackedFloat.compare, placeOf?, comparePlaces, compareLex, compareOn, compare_cast]

theorem compareDoubles?_eq_places (x y : Float) :
    compareDoubles? x y =
      (placeOf? x.toModel.unpack).bind fun p => (placeOf? y.toModel.unpack).map fun q => comparePlaces p q := by
  simp only [compareDoubles?, lt_iff_compare, equal_iff_compare, compare_eq_places]
  cases placeOf? x.toModel.unpack with
  | none => cases placeOf? y.toModel.unpack <;> rfl
  | some p => cases placeOf? y.toModel.unpack with
    | none => rfl
    | some q =>
        have turned : comparePlaces q p = (comparePlaces p q).swap := Std.OrientedCmp.eq_swap
        simp only [Option.bind_some, Option.map_some, Option.some.injEq, turned]
        cases comparePlaces p q <;> rfl

theorem isNaN_eq_isNone (x : Float) : x.isNaN = (placeOf? x.toModel.unpack).isNone := by
  show x.toModel.unpack.isNaN = _
  cases x.toModel.unpack with
  | infinity s => cases s <;> rfl
  | zero s => rfl
  | finite s m e positive => cases s <;> rfl
  | notANumber => rfl

theorem compareDoubles?_apart_iff : (compareDoubles? x y).getD .eq ≠ .eq ↔ x < y ∨ y < x := by
  simp only [compareDoubles?_eq_places, lt_iff_compare, compare_eq_places]
  cases placeOf? x.toModel.unpack with
  | none => cases placeOf? y.toModel.unpack <;> simp
  | some p => cases placeOf? y.toModel.unpack with
    | none => simp
    | some q =>
        have turned : comparePlaces q p = (comparePlaces p q).swap := Std.OrientedCmp.eq_swap
        simp only [Option.bind_some, Option.map_some, Option.getD_some, Option.some.injEq, turned]
        cases comparePlaces p q <;> simp

/-- What lies on a side of a number is a number. -/
theorem places_of_apart (apart : x < y ∨ y < x) :
    ∃ p q, placeOf? x.toModel.unpack = some p ∧ placeOf? y.toModel.unpack = some q := by
  simp only [lt_iff_compare, compare_eq_places] at apart
  cases first : placeOf? x.toModel.unpack with
  | none => simp [first] at apart
  | some p => cases second : placeOf? y.toModel.unpack with
    | none => simp [second] at apart
    | some q => exact ⟨p, q, rfl, rfl⟩

theorem compareDoubles?_of_places {p q : ℤ × ℤ × ℤ} (first : placeOf? x.toModel.unpack = some p)
    (second : placeOf? y.toModel.unpack = some q) : compareDoubles? x y = some (comparePlaces p q) := by
  rw [compareDoubles?_eq_places, first, second]
  rfl

end DocMapper
