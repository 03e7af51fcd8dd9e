import DocMapper.Routing
import DocMapper.Text.Wildcard
import Mathlib.Data.String.Basic
/-!
The names of a series. A number is written with at least six digits, so a name can be read
back and the name after it is the next number's, up to the largest number a name may hold.
-/

namespace DocMapper.Routing

/-- The number part of a name: the digits, filled up with zeros in front. -/
def paddedDigits (width generation : Nat) : List Char :=
  List.replicate (width - (Nat.toDigits 10 generation).length) '0' ++ Nat.toDigits 10 generation

/-- The index of a series with a given number, as wide as numbers are from the start. -/
def seriesName (indexPrefix : String) (generation : Nat) : String :=
  generationName indexPrefix generationWidth generation

theorem toList_generationName (indexPrefix : String) (width generation : Nat) :
    (generationName indexPrefix width generation).toList =
      indexPrefix.toList ++ '-' :: paddedDigits width generation := by
  simp [generationName, TimePattern.padLeft, paddedDigits, ← String.length_toList]

def valueOf (digits : List Char) : Nat :=
  Nat.ofDigitChars 10 digits 0

theorem valueOf_paddedDigits (width generation : Nat) : valueOf (paddedDigits width generation) = generation := by
  simp [valueOf, paddedDigits, Nat.ofDigitChars_append, Nat.ofDigitChars_replicate_zero]

theorem paddedDigits_digits (width generation : Nat) :
    ∀ c ∈ paddedDigits width generation, c.isDigit = true := by
  intro c member
  rcases List.mem_append.mp member with zero | digit
  · rw [List.eq_of_mem_replicate zero]
    decide
  · exact Nat.isDigit_of_mem_toDigits (by decide) (by decide) digit

theorem paddedDigits_length (width generation : Nat) :
    (paddedDigits width generation).length = max width (Nat.toDigits 10 generation).length := by
  simp only [paddedDigits, List.length_append, List.length_replicate]
  omega

theorem paddedDigits_ne_nil (width generation : Nat) : paddedDigits width generation ≠ [] := by
  simp [paddedDigits, Nat.toDigits_ne_nil]

/-- A number as a name may hold it: digits, at least one. -/
structure IsNumeral (digits : List Char) : Prop where
  written : digits ≠ []
  digits : ∀ c ∈ digits, c.isDigit = true

theorem paddedDigits_numeral (width generation : Nat) : IsNumeral (paddedDigits width generation) where
  written := paddedDigits_ne_nil width generation
  digits := paddedDigits_digits width generation

/-- What is read of a name with a number: nothing, if the number is too large. -/
theorem generationOf?_numeral {indexPrefix name : String} {digits : List Char}
    (chars : name.toList = indexPrefix.toList ++ '-' :: digits) (numeral : IsNumeral digits) :
    generationOf? indexPrefix name =
      if valueOf digits ≤ generationLimit then some (valueOf digits, max digits.length generationWidth) else none := by
  have read : Text.after? indexPrefix.toList name.toList = some ('-' :: digits) := Text.after?_eq_some_iff.mpr chars
  have plain : digits.all Char.isDigit = true := List.all_eq_true.mpr numeral.digits
  have written : digits.isEmpty = false := List.isEmpty_eq_false_iff.mpr numeral.written
  have value : digits.foldl (fun n c => 10 * n + (c.toNat - '0'.toNat)) 0 = valueOf digits :=
    Nat.ofDigitChars_eq_foldl.symm
  simp only [generationOf?, read, written, plain, value, Bool.not_true, Bool.or_false, Bool.false_eq_true, ↓reduceIte]

theorem generationOf?_generationName (indexPrefix : String) (width : Nat) {generation : Nat}
    (bounded : generation ≤ generationLimit) :
    generationOf? indexPrefix (generationName indexPrefix width generation) =
      some (generation, max (max width (Nat.toDigits 10 generation).length) generationWidth) := by
  rw [generationOf?_numeral (toList_generationName indexPrefix width generation) (paddedDigits_numeral width generation),
    valueOf_paddedDigits, if_pos bounded, paddedDigits_length]

theorem generationName_injective (indexPrefix : String) {width first second : Nat}
    (same : generationName indexPrefix width first = generationName indexPrefix width second) :
    first = second := by
  have texts := congrArg String.toList same
  rw [toList_generationName, toList_generationName] at texts
  have digits := List.tail_eq_of_cons_eq (List.append_cancel_left texts)
  rw [← valueOf_paddedDigits width first, digits, valueOf_paddedDigits]

theorem seriesName_injective (indexPrefix : String) {first second : Nat}
    (same : seriesName indexPrefix first = seriesName indexPrefix second) : first = second :=
  generationName_injective indexPrefix same

/-- A name that goes on after the dash with something else than digits is not in the series. -/
theorem ne_seriesName {indexPrefix name : String} {rest : List Char}
    (chars : name.toList = indexPrefix.toList ++ '-' :: rest) {c : Char} (member : c ∈ rest)
    (other : c.isDigit = false) (generation : Nat) : name ≠ seriesName indexPrefix generation := by
  intro same
  have texts := chars.symm.trans (congrArg String.toList same)
  rw [seriesName, toList_generationName] at texts
  have digits := List.tail_eq_of_cons_eq (List.append_cancel_left texts)
  rw [paddedDigits_digits generationWidth generation c (digits ▸ member)] at other
  cases other

theorem toDigits_length_mono {first second : Nat} (ordered : first ≤ second) :
    (Nat.toDigits 10 first).length ≤ (Nat.toDigits 10 second).length := by
  have positive : 0 < (Nat.toDigits 10 second).length := Nat.length_toDigits_pos
  have below := (Nat.length_toDigits_le_iff (b := 10) (by decide) positive).mp (Nat.le_refl _)
  exact (Nat.length_toDigits_le_iff (by decide) positive).mpr (Nat.lt_of_le_of_lt ordered below)

theorem generationName_wider (indexPrefix : String) {first second : Nat} (ordered : first ≤ second) :
    generationName indexPrefix (max (max generationWidth (Nat.toDigits 10 first).length) generationWidth) second =
      seriesName indexPrefix second := by
  -- A later number has no fewer digits, so a width that is too large for it came from the default.
  have longer := toDigits_length_mono ordered
  rw [← String.toList_inj, seriesName, toList_generationName, toList_generationName]
  have zeros : max (max generationWidth (Nat.toDigits 10 first).length) generationWidth -
      (Nat.toDigits 10 second).length = generationWidth - (Nat.toDigits 10 second).length := by
    omega
  simp only [paddedDigits, zeros]

theorem nextName_seriesName (indexPrefix : String) {generation : Nat}
    (bounded : generation ≤ generationLimit) :
    nextName indexPrefix (seriesName indexPrefix generation) =
      seriesName indexPrefix (min (generation + 1) generationLimit) := by
  have read := generationOf?_generationName indexPrefix generationWidth bounded
  rw [nextName, seriesName, read]
  exact generationName_wider indexPrefix (by omega)

theorem initialIndex_rollover {t : DocumentType} {aliases : RolloverAliases}
    {conditions : RolloverConditions} (backed : t.addressing = .rollover aliases conditions) :
    initialIndex t = some (seriesName aliases.indexPrefix 1) := by
  rw [initialIndex, backed]
  rfl

theorem matchesWildcard_append {front pattern text : List Char} (literal : '*' ∉ front) :
    Text.matchesWildcard (front ++ pattern) (front ++ text) = Text.matchesWildcard pattern text := by
  induction front with
  | nil => rfl
  | cons c rest ih =>
      have plain : c ≠ '*' := fun star => literal (star ▸ List.mem_cons_self)
      have tail := ih fun member => literal (List.mem_cons_of_mem c member)
      simp [Text.matchesWildcard, plain, tail]

theorem nil_mem_afterRun {text : List Char} (oneLine : '\n' ∉ text) : [] ∈ Text.afterRun text := by
  induction text with
  | nil => simp [Text.afterRun]
  | cons c rest ih =>
      have plain : c ≠ '\n' := fun feed => oneLine (feed ▸ List.mem_cons_self)
      have tail := ih fun member => oneLine (List.mem_cons_of_mem c member)
      simp [Text.afterRun, plain, tail]

theorem matchesWildcard_star {text : List Char} (oneLine : '\n' ∉ text) :
    Text.matchesWildcard ['*'] text = true := by
  simp only [Text.matchesWildcard, ↓reduceIte, List.any_eq_true]
  exact ⟨[], nil_mem_afterRun oneLine, rfl⟩

theorem seriesName_matches {indexPrefix : String} (literal : '*' ∉ indexPrefix.toList) (generation : Nat) :
    Text.matchesWildcard (indexPrefix ++ "-*").toList (seriesName indexPrefix generation).toList = true := by
  have oneLine : '\n' ∉ paddedDigits generationWidth generation := by
    intro member
    have digit := paddedDigits_digits generationWidth generation '\n' member
    exact absurd digit (by decide)
  have pattern : (indexPrefix ++ "-*").toList = (indexPrefix.toList ++ ['-']) ++ ['*'] := by
    simp
  have name : (seriesName indexPrefix generation).toList =
      (indexPrefix.toList ++ ['-']) ++ paddedDigits generationWidth generation := by
    simp [seriesName, toList_generationName]
  rw [pattern, name, matchesWildcard_append]
  · exact matchesWildcard_star oneLine
  · simpa using literal

theorem star_not_mem_seriesName {indexPrefix : String} (literal : '*' ∉ indexPrefix.toList)
    (generation : Nat) : '*' ∉ (seriesName indexPrefix generation).toList := by
  rw [seriesName, toList_generationName]
  intro member
  rcases List.mem_append.mp member with front | back
  · exact literal front
  · rcases List.mem_cons.mp back with dash | digit
    · exact absurd dash (by decide)
    · exact absurd (paddedDigits_digits _ _ _ digit) (by decide)

theorem self_mem_afterRun (text : List Char) : text ∈ Text.afterRun text := by
  cases text with
  | nil => exact List.mem_cons_self
  | cons c rest => exact List.mem_cons_self

theorem matchesWildcard_same_start {front pattern text : List Char}
    (taken : Text.matchesWildcard pattern text = true) :
    Text.matchesWildcard (front ++ pattern) (front ++ text) = true := by
  induction front with
  | nil => exact taken
  | cons c rest ih =>
      by_cases star : c = '*'
      · have step : rest ++ text ∈ Text.afterRun (c :: (rest ++ text)) := by
          simp [Text.afterRun, star, self_mem_afterRun]
        rw [List.cons_append, List.cons_append, Text.matchesWildcard, if_pos star, List.any_eq_true]
        exact ⟨_, step, ih⟩
      · simpa [Text.matchesWildcard, star] using ih

theorem nextName_generationName (indexPrefix current : String) :
    ∃ width generation, nextName indexPrefix current = generationName indexPrefix width generation := by
  rw [nextName]
  cases generationOf? indexPrefix current with
  | some read => exact ⟨_, _, rfl⟩
  | none => exact ⟨_, _, rfl⟩

theorem nextName_listed (indexPrefix current : String) :
    Text.matchesWildcard (indexPrefix ++ "-*").toList (nextName indexPrefix current).toList = true := by
  obtain ⟨width, generation, same⟩ := nextName_generationName indexPrefix current
  have pattern : (indexPrefix ++ "-*").toList = indexPrefix.toList ++ ['-', '*'] := by
    simp
  have oneLine : '\n' ∉ paddedDigits width generation := by
    intro member
    exact absurd (paddedDigits_digits width generation '\n' member) (by decide)
  rw [same, toList_generationName, pattern]
  apply matchesWildcard_same_start
  simpa [Text.matchesWildcard] using matchesWildcard_star oneLine

end DocMapper.Routing
