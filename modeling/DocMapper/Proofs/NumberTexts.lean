import DocMapper.Decimal.Layout
import DocMapper.Geo
import DocMapper.Proofs.DoubleWords
import Mathlib.Data.List.TakeWhile
/-!
No two doubles are written alike. A text of digits reads back as the decimal it was laid out
from, that decimal rounds to one double only, and the words for infinities and for what is no
number have no digits.
-/

namespace DocMapper

namespace Decimal

/-- The number that digits with at most one point among them spell. -/
def reading (text : List Char) : ℚ :=
  let fraction := (text.dropWhile fun c => c ≠ '.').tail
  (Nat.ofDigitChars 10 ((text.takeWhile fun c => c ≠ '.') ++ fraction) 0 : ℚ) / 10 ^ fraction.length

theorem reading_whole {text : List Char} (whole : '.' ∉ text) :
    reading text = Nat.ofDigitChars 10 text 0 := by
  have all : ∀ c ∈ text, decide (c ≠ '.') = true := by
    intro c member
    exact decide_eq_true fun point => whole (point ▸ member)
  rw [reading, List.takeWhile_eq_self_iff.mpr all, List.dropWhile_eq_nil_iff.mpr all]
  simp

theorem reading_point {front back : List Char} (whole : '.' ∉ front) :
    reading (front ++ '.' :: back) = Nat.ofDigitChars 10 (front ++ back) 0 / 10 ^ back.length := by
  have all : ∀ c ∈ front, decide (c ≠ '.') = true := by
    intro c member
    exact decide_eq_true fun point => whole (point ▸ member)
  rw [reading, List.takeWhile_append_of_pos all, List.dropWhile_append_of_pos all]
  simp

theorem digits_isDigit (d : Decimal) : ∀ c ∈ d.digits, c.isDigit = true := by
  intro c member
  have written : c ∈ Nat.toDigits 10 d.coefficient := by simpa [digits] using member
  exact Nat.isDigit_of_mem_toDigits (by decide) (by decide) written

theorem point_not_mem {text : List Char} (digits : ∀ c ∈ text, c.isDigit = true) : '.' ∉ text := by
  intro member
  exact absurd (digits _ member) (by decide)

theorem ofDigitChars_digits (d : Decimal) : Nat.ofDigitChars 10 d.digits 0 = d.coefficient := by
  simp [digits]

theorem reading_positional (d : Decimal) : reading (d.positional "").toList = d.value := by
  have digits := digits_isDigit d
  have padded : ∀ n, ∀ c ∈ List.replicate n '0' ++ d.digits, c.isDigit = true := by
    intro n c member
    rcases List.mem_append.mp member with zero | digit
    · rw [List.eq_of_mem_replicate zero]
      decide
    · exact digits c digit
  rw [positional, value]
  split
  · -- All digits stand before the point, and zeros fill up to it.
    next whole =>
      have point : '.' ∉ d.digits ++ List.replicate d.exponent.toNat '0' := by
        intro member
        rcases List.mem_append.mp member with digit | zero
        · exact point_not_mem digits digit
        · exact absurd (List.eq_of_mem_replicate zero) (by decide)
      obtain ⟨n, hn⟩ := Int.eq_ofNat_of_zero_le whole
      simp only [String.toList_append, String.toList_ofList]
      rw [show "".toList = [] from rfl, List.append_nil, reading_whole point, Nat.ofDigitChars_append,
        ofDigitChars_digits, Nat.ofDigitChars_replicate_zero, hn]
      push_cast
      rw [Int.toNat_natCast, zpow_natCast, mul_comm]
  · -- Zeros in front leave at least one digit before the point.
    next fraction =>
      obtain ⟨n, hn⟩ := Int.eq_ofNat_of_zero_le (show 0 ≤ -d.exponent by omega)
      have exponent : d.exponent = -n := by omega
      simp only [String.toList_ofList, hn, Int.toNat_natCast]
      generalize all : List.replicate (n + 1 - d.digits.length) '0' ++ d.digits = text
      have long : n < text.length := by
        rw [← all]
        simp only [List.length_append, List.length_replicate]
        omega
      have front : '.' ∉ text.take (text.length - n) := by
        intro member
        have digit := padded _ _ (all ▸ List.mem_of_mem_take member)
        exact absurd digit (by decide)
      rw [reading_point front, List.take_append_drop, List.length_drop, ← all, Nat.ofDigitChars_append,
        Nat.ofDigitChars_replicate_zero, all, Nat.mul_zero, ofDigitChars_digits, exponent]
      have places : text.length - (text.length - n) = n := by omega
      rw [places, zpow_neg, zpow_natCast, div_eq_mul_inv]

def IsPlain (c : Char) : Prop :=
  c.isDigit = true ∨ c = '.'

instance (c : Char) : Decidable (IsPlain c) :=
  inferInstanceAs (Decidable (_ ∨ _))

theorem positional_chars (d : Decimal) : ∀ c ∈ (d.positional "").toList, IsPlain c := by
  have zeros : ∀ n, ∀ c ∈ List.replicate n '0', IsPlain c := by
    intro n c zero
    rw [List.eq_of_mem_replicate zero]
    exact .inl (by decide)
  have digits : ∀ c ∈ d.digits, IsPlain c := fun c digit => .inl (digits_isDigit d c digit)
  intro c member
  rw [positional] at member
  simp only at member
  split at member
  · simp only [String.toList_append, String.toList_ofList, String.toList_empty, List.append_nil] at member
    rcases List.mem_append.mp member with digit | zero
    · exact digits c digit
    · exact zeros _ c zero
  · have padded : ∀ n, ∀ c ∈ List.replicate n '0' ++ d.digits, IsPlain c := by
      intro n c either
      rcases List.mem_append.mp either with zero | digit
      · exact zeros n c zero
      · exact digits c digit
    rw [String.toList_ofList] at member
    rcases List.mem_append.mp member with front | back
    · exact padded _ c (List.mem_of_mem_take front)
    · rcases List.mem_cons.mp back with point | rest
      · exact .inr point
      · exact padded _ c (List.mem_of_mem_drop rest)

end Decimal

namespace Binary

/-- The text of a finite number without its sign. -/
def unsigned (mantissa : ℕ) (exponent : ℤ) (lowest : Bool) : String :=
  if mantissa = 0 then "0" else (Decimal.shortest mantissa exponent lowest).positional ""

def signText (negative : Bool) : String :=
  if negative then "-" else ""

theorem text_finite (negative : Bool) (mantissa : ℕ) (exponent : ℤ) (lowest : Bool) :
    Layout.plain.text (.finite negative mantissa exponent lowest) =
      signText negative ++ unsigned mantissa exponent lowest := by
  rw [Layout.text, unsigned, signText]
  by_cases zero : mantissa = 0 <;> simp [zero, Layout.plain]

theorem unsigned_chars (mantissa : ℕ) (exponent : ℤ) (lowest : Bool) :
    ∀ c ∈ (unsigned mantissa exponent lowest).toList, Decimal.IsPlain c := by
  rw [unsigned]
  split
  · intro c member
    rw [List.mem_singleton.mp member]
    exact .inl (by decide)
  · exact Decimal.positional_chars _

theorem reading_unsigned (mantissa : ℕ) (exponent : ℤ) (lowest : Bool) :
    Decimal.reading (unsigned mantissa exponent lowest).toList =
      if mantissa = 0 then 0 else (Decimal.shortest mantissa exponent lowest).value := by
  rw [unsigned]
  split
  · have zero : Nat.ofDigitChars 10 "0".toList 0 = 0 := by decide
    rw [Decimal.reading_whole (by decide), zero, Nat.cast_zero]
  · exact Decimal.reading_positional _

theorem value_positive {m : ℕ} {e : ℤ} {l : Bool} (canonical : Canonical m e l) :
    0 < (Decimal.shortest m e l).value := by
  have inside := shortest_inside canonical
  rw [inside_ofBinary_iff] at inside
  have positive : 0 < 4 * m - reach l := by
    have := canonical.positive
    rw [reach]
    split <;> omega
  have low : (0 : ℚ) < (4 * m - reach l : ℕ) * 2 ^ (e - 2) :=
    mul_pos (by exact_mod_cast positive) (by positivity)
  rcases inside with strict | ⟨-, loose⟩ <;> linarith

theorem unsigned_injective {m n : ℕ} {e f : ℤ} {l p : Bool}
    (first : ZeroOrCanonical m e l) (second : ZeroOrCanonical n f p)
    (same : unsigned m e l = unsigned n f p) : m = n ∧ e = f ∧ l = p := by
  have values := congrArg (fun text => Decimal.reading text.toList) same
  simp only [reading_unsigned] at values
  rcases first with ⟨rfl, rfl, rfl⟩ | first <;> rcases second with ⟨rfl, rfl, rfl⟩ | second
  · exact ⟨rfl, rfl, rfl⟩
  · rw [if_pos rfl, if_neg second.positive.ne'] at values
    exact absurd values (value_positive second).ne
  · rw [if_pos rfl, if_neg first.positive.ne'] at values
    exact absurd values (value_positive first).ne'
  · rw [if_neg first.positive.ne', if_neg second.positive.ne'] at values
    exact inside_unique first second (shortest_inside first) (values ▸ shortest_inside second)

theorem not_mem_text {c : Char} (other : ¬Decimal.IsPlain c ∧ c ≠ '-') (negative : Bool) (m : ℕ) (e : ℤ)
    (l : Bool) : c ∉ (Layout.plain.text (.finite negative m e l)).toList := by
  intro member
  rw [text_finite, String.toList_append] at member
  rcases List.mem_append.mp member with sign | body
  · cases negative with
    | false => exact absurd sign List.not_mem_nil
    | true => exact other.2 (List.mem_singleton.mp sign)
  · exact other.1 (unsigned_chars m e l c body)

theorem signed_injective {n n' : Bool} {m m' : ℕ} {e e' : ℤ} {l l' : Bool}
    (same : signText n ++ unsigned m e l = signText n' ++ unsigned m' e' l') :
    n = n' ∧ unsigned m e l = unsigned m' e' l' := by
  have chars := congrArg String.toList same
  rw [String.toList_append, String.toList_append] at chars
  -- Only one of the texts could start with the sign.
  have unlike : ∀ m e l, ∀ rest : List Char, (unsigned m e l).toList ≠ '-' :: rest := by
    intro m e l rest here
    exact absurd (unsigned_chars m e l '-' (here ▸ List.mem_cons_self)) (by decide)
  cases n <;> cases n'
  · exact ⟨rfl, String.toList_inj.mp chars⟩
  · exact absurd chars (unlike _ _ _ _)
  · exact absurd chars.symm (unlike _ _ _ _)
  · exact ⟨rfl, String.toList_inj.mp (List.append_cancel_left chars)⟩

theorem text_injective {a b : Binary} (first : a.Proper) (second : b.Proper)
    (same : Layout.plain.text a = Layout.plain.text b) : a = b := by
  have named : 'N' ∈ (Layout.plain.text .nan).toList := by decide
  have boundless : ∀ n, 'n' ∈ (Layout.plain.text (.infinite n)).toList := by decide
  -- The words for what is no number use letters that no number is written with.
  cases a with
  | nan =>
      cases b with
      | nan => rfl
      | infinite n => cases n <;> exact absurd same (by decide)
      | finite n m e l => exact absurd (same ▸ named) (not_mem_text (by decide) n m e l)
  | infinite n =>
      cases b with
      | nan => cases n <;> exact absurd same (by decide)
      | infinite n' => cases n <;> cases n' <;> first | rfl | exact absurd same (by decide)
      | finite n' m e l => exact absurd (same ▸ boundless n) (not_mem_text (by decide) n' m e l)
  | finite n m e l =>
      cases b with
      | nan => exact absurd (same ▸ named) (not_mem_text (by decide) n m e l)
      | infinite n' => exact absurd (same ▸ boundless n') (not_mem_text (by decide) n m e l)
      | finite n' m' e' l' =>
          rw [text_finite, text_finite] at same
          obtain ⟨rfl, bodies⟩ := signed_injective same
          obtain ⟨rfl, rfl, rfl⟩ := unsigned_injective first second bodies
          rfl

end Binary

theorem double_injective {x y : Float} (same : Layout.double x = Layout.double y) : x = y :=
  Binary.ofDouble_injective (Binary.text_injective (Binary.ofWord_proper _) (Binary.ofWord_proper _) same)

namespace Distance

theorem k_not_mem_double (x : Float) : 'k' ∉ (Layout.double x).toList := by
  rw [Layout.double]
  cases Binary.ofDouble x with
  | nan => decide
  | infinite n => cases n <;> decide
  | finite n m e l => exact Binary.not_mem_text (by decide) n m e l

/-- A distance can be told from its text: the letters of its unit are not among those a number
ends in. -/
theorem format_injective {d d' : Distance} (same : d.format = d'.format) : d = d' := by
  obtain ⟨x, unit⟩ := d
  obtain ⟨y, unit'⟩ := d'
  have chars := congrArg String.toList same
  simp only [format, String.toList_append] at chars
  -- With meters against kilometers the `k` would have to be part of a number.
  have apart : ∀ x y : Float, (Layout.double x).toList ++ ['m'] ≠ (Layout.double y).toList ++ ['k', 'm'] := by
    intro x y equal
    rw [show ['k', 'm'] = ['k'] ++ ['m'] from rfl, ← List.append_assoc] at equal
    apply k_not_mem_double x
    rw [List.append_cancel_right equal]
    simp
  have lengths : ∀ x y : Float, ∀ front : List Char,
      (Layout.double x).toList ++ ['m', 'i'] ≠ (Layout.double y).toList ++ (front ++ ['m']) := by
    intro x y front equal
    have last := congrArg List.getLast? equal
    simp [← List.append_assoc] at last
  cases unit <;> cases unit'
  · rw [double_injective (String.toList_inj.mp (List.append_cancel_right chars))]
  · exact absurd chars (apart x y)
  · exact absurd chars.symm (lengths y x [])
  · exact absurd chars.symm (apart y x)
  · rw [double_injective (String.toList_inj.mp (List.append_cancel_right chars))]
  · exact absurd chars.symm (lengths y x ['k'])
  · exact absurd chars (lengths x y [])
  · exact absurd chars (lengths x y ['k'])
  · rw [double_injective (String.toList_inj.mp (List.append_cancel_right chars))]

end Distance

end DocMapper
