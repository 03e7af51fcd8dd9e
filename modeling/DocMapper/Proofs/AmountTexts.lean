import DocMapper.ByteSize
import DocMapper.Schedule.Basic
import DocMapper.Proofs.SeriesNames
import DocMapper.Proofs.TrimmedText
/-!
Spans of time and sizes as texts: digits and a unit. A text is read exactly if it has digits first
and one of the units behind them, and if what it amounts to can be counted in a word, that is, in
milliseconds, in seconds or in bytes; what is read is the value of the digits times the unit. A span
or a size is printed with the largest unit that divides it, so that no digit is lost, and is read
back from that; so is the schedule at intervals of such a span.
-/

namespace DocMapper

open Routing (valueOf IsNumeral)

/-! ## Digits and a unit -/

/-- A text that comes to digits and a unit, without the blanks around either and in lower case. -/
inductive Amount (raw : String) (digits : List Char) (unit : String) : Prop
  | intro {rest : List Char} (numeral : IsNumeral digits) (text : canonicalChars raw = digits ++ rest)
      (ends : ∀ c ∈ rest.head?, c.isDigit = false) (named : String.ofList (Text.trimChars rest) = unit)

section Digits

variable {text digits rest : List Char} {n : Nat}

theorem takeWhile_numeral (numeral : IsNumeral digits) (ends : ∀ c ∈ rest.head?, c.isDigit = false) :
    (digits ++ rest).takeWhile Char.isDigit = digits ∧ (digits ++ rest).dropWhile Char.isDigit = rest := by
  rw [List.takeWhile_append_of_pos numeral.digits, List.dropWhile_append_of_pos numeral.digits]
  cases rest with
  | nil => simp
  | cons c rest =>
      have stops : c.isDigit = false := ends c rfl
      simp [stops]

theorem leadingNumber?_eq_some_iff :
    leadingNumber? text = some (n, rest) ↔
      ∃ digits, IsNumeral digits ∧ text = digits ++ rest ∧ (∀ c ∈ rest.head?, c.isDigit = false) ∧
        valueOf digits = n ∧ n < wordLimit := by
  have value (digits : List Char) : digits.foldl (fun n c => 10 * n + (c.toNat - '0'.toNat)) 0 = valueOf digits :=
    Nat.ofDigitChars_eq_foldl.symm
  constructor
  · intro read
    simp only [leadingNumber?, value, Bool.or_eq_true, List.isEmpty_iff, decide_eq_true_eq] at read
    split at read
    · cases read
    · next kept =>
        cases read
        obtain ⟨written, small⟩ := not_or.mp kept
        refine ⟨text.takeWhile Char.isDigit, ⟨written, ?_⟩, List.takeWhile_append_dropWhile.symm, ?_, rfl,
          Nat.lt_of_not_le small⟩
        · exact List.all_eq_true.mp List.all_takeWhile
        · intro c first
          have stops := List.head?_dropWhile_not Char.isDigit text
          rw [Option.mem_def.mp first] at stops
          exact stops
  · rintro ⟨digits, numeral, rfl, ends, rfl, small⟩
    obtain ⟨taken, dropped⟩ := takeWhile_numeral numeral ends
    have written : digits.isEmpty = false := List.isEmpty_eq_false_iff.mpr numeral.written
    simp only [leadingNumber?, taken, dropped, written, value, Bool.false_or, ge_iff_le, decide_eq_true_eq]
    rw [if_neg (Nat.not_le.mpr small)]

end Digits

/-! ## What is read -/

namespace Duration

/-- The units of whole seconds. -/
def secondUnits : List (String × Nat) :=
  [("s", 1), ("m", 60), ("h", 60 * 60), ("d", 24 * 60 * 60)]

/-- What a text says: so many milliseconds, or so many seconds by way of a unit. -/
inductive Denotes (raw : String) : Duration → Prop
  | millis {digits : List Char} (amount : Amount raw digits "ms") (counted : valueOf digits < 2 ^ 64) :
      Denotes raw (.ofMillis (valueOf digits))
  | secs {digits : List Char} {unit : String} {size : Nat} (amount : Amount raw digits unit)
      (known : (unit, size) ∈ secondUnits) (counted : valueOf digits * size < 2 ^ 64) :
      Denotes raw (.ofSecs (valueOf digits * size))

theorem secondsPer?_eq_some_iff {unit : String} {size : Nat} :
    secondsPer? unit = some size ↔ (unit, size) ∈ secondUnits := by
  simp only [secondsPer?, secondUnits, List.mem_cons, Prod.mk.injEq, List.not_mem_nil, or_false]
  split_ifs <;> simp_all [eq_comm]

theorem positive_of_known {unit : String} {size : Nat} (known : (unit, size) ∈ secondUnits) : 0 < size := by
  have all : ∀ entry ∈ secondUnits, 0 < entry.2 := by decide
  exact all (unit, size) known

theorem ofAmount?_eq_some_iff {n : Nat} {unit : String} {d : Duration} :
    ofAmount? n unit = some d ↔
      unit = "ms" ∧ d = .ofMillis n ∨
        ∃ size, (unit, size) ∈ secondUnits ∧ n * size < wordLimit ∧ d = .ofSecs (n * size) := by
  by_cases millis : unit = "ms"
  · have unknown : ∀ size, ("ms", size) ∉ secondUnits := by simp [secondUnits]
    simp [ofAmount?, millis, unknown, eq_comm]
  · simp only [ofAmount?, millis, ↓reduceIte, Option.bind_eq_some_iff, secondsPer?_eq_some_iff, false_and, false_or]
    refine exists_congr fun size => and_congr_right fun _ => ?_
    split_ifs with small <;> simp [small, eq_comm]

theorem read?_eq_some_iff {text : List Char} {d : Duration} :
    read? text = some d ↔
      ∃ n rest, leadingNumber? text = some (n, rest) ∧ ofAmount? n (String.ofList (Text.trimChars rest)) = some d := by
  simp [read?, Option.bind_eq_some_iff]

theorem parse_eq_ok_iff_read? {raw : String} {d : Duration} :
    parse raw = .ok d ↔ read? (canonicalChars raw) = some d := by
  rw [parse]
  cases read? (canonicalChars raw) <;> simp

theorem parse_eq_ok_iff {raw : String} {d : Duration} : parse raw = .ok d ↔ Denotes raw d := by
  simp only [parse_eq_ok_iff_read?, read?_eq_some_iff, leadingNumber?_eq_some_iff, ofAmount?_eq_some_iff]
  constructor
  · rintro ⟨n, rest, ⟨digits, numeral, text, ends, rfl, small⟩, ⟨named, rfl⟩ | ⟨size, known, counted, rfl⟩⟩
    · exact .millis (.intro numeral text ends named) small
    · exact .secs (.intro numeral text ends rfl) known counted
  · rintro (⟨⟨numeral, text, ends, named⟩, counted⟩ | ⟨⟨numeral, text, ends, rfl⟩, known, counted⟩)
    · exact ⟨_, _, ⟨_, numeral, text, ends, rfl, counted⟩, .inl ⟨named, rfl⟩⟩
    · have small := Nat.lt_of_le_of_lt (Nat.le_mul_of_pos_right _ (positive_of_known known)) counted
      exact ⟨_, _, ⟨_, numeral, text, ends, rfl, small⟩, .inr ⟨_, known, counted, rfl⟩⟩

end Duration

namespace ByteSize

/-- The units of bytes. -/
def byteUnits : List (String × Nat) :=
  [("", 1), ("b", 1), ("k", 1024), ("kb", 1024), ("m", 1024 ^ 2), ("mb", 1024 ^ 2), ("g", 1024 ^ 3), ("gb", 1024 ^ 3),
    ("t", 1024 ^ 4), ("tb", 1024 ^ 4)]

/-- What a text says: so many bytes by way of a unit. -/
inductive Denotes (raw : String) : ByteSize → Prop
  | bytes {digits : List Char} {unit : String} {size : Nat} (amount : Amount raw digits unit)
      (known : (unit, size) ∈ byteUnits) (counted : valueOf digits * size < 2 ^ 64) : Denotes raw ⟨valueOf digits * size⟩

theorem bytesPer?_eq_some_iff {unit : String} {size : Nat} :
    bytesPer? unit = some size ↔ (unit, size) ∈ byteUnits := by
  constructor
  · intro read
    simp only [bytesPer?, Bool.or_eq_true, decide_eq_true_eq] at read
    split_ifs at read with one kilo mega giga tera <;> cases read
    · rcases one with rfl | rfl <;> decide
    · rcases kilo with rfl | rfl <;> decide
    · rcases mega with rfl | rfl <;> decide
    · rcases giga with rfl | rfl <;> decide
    · rcases tera with rfl | rfl <;> decide
  · intro known
    have all : ∀ entry ∈ byteUnits, bytesPer? entry.1 = some entry.2 := by decide
    exact all (unit, size) known

theorem positive_of_known {unit : String} {size : Nat} (known : (unit, size) ∈ byteUnits) : 0 < size := by
  have all : ∀ entry ∈ byteUnits, 0 < entry.2 := by decide
  exact all (unit, size) known

theorem read?_eq_some_iff {text : List Char} {amount : ByteSize} :
    read? text = some amount ↔
      ∃ n rest size, leadingNumber? text = some (n, rest) ∧
        (String.ofList (Text.trimChars rest), size) ∈ byteUnits ∧ n * size < wordLimit ∧ amount = ⟨n * size⟩ := by
  simp only [read?, Option.bind_eq_some_iff, Prod.exists, bytesPer?_eq_some_iff]
  constructor
  · rintro ⟨n, rest, number, size, known, sized⟩
    split at sized
    · next small =>
        cases sized
        exact ⟨n, rest, size, number, known, small, rfl⟩
    · cases sized
  · rintro ⟨n, rest, size, number, known, small, rfl⟩
    exact ⟨n, rest, number, size, known, if_pos small⟩

theorem parse_eq_ok_iff {raw : String} {size : ByteSize} : parse raw = .ok size ↔ Denotes raw size := by
  have read : parse raw = .ok size ↔ read? (canonicalChars raw) = some size := by
    rw [parse]
    cases read? (canonicalChars raw) <;> simp
  simp only [read, read?_eq_some_iff, leadingNumber?_eq_some_iff]
  constructor
  · rintro ⟨n, rest, size, ⟨digits, numeral, text, ends, rfl, -⟩, known, counted, rfl⟩
    exact .bytes (.intro numeral text ends rfl) known counted
  · rintro ⟨⟨numeral, text, ends, rfl⟩, known, counted⟩
    have small := Nat.lt_of_le_of_lt (Nat.le_mul_of_pos_right _ (positive_of_known known)) counted
    exact ⟨_, _, _, ⟨_, numeral, text, ends, rfl, small⟩, known, counted, rfl⟩

end ByteSize

/-! ## What is printed -/

/-- Letters that digits can stand in front of. -/
def Lettered (unit : String) : Prop :=
  ∀ c ∈ unit.toList, c.isDigit = false ∧ Text.isBlank c = false ∧ c.toLower = c

instance (unit : String) : Decidable (Lettered unit) :=
  List.decidableBAll (fun c : Char => c.isDigit = false ∧ Text.isBlank c = false ∧ c.toLower = c) unit.toList

section Printing

variable {unit : String} {n size : Nat}

theorem plain_of_isDigit {c : Char} (digit : c.isDigit = true) : Text.isBlank c = false ∧ c.toLower = c := by
  have bounds : 48 ≤ c.toNat ∧ c.toNat ≤ 57 := Char.isDigit_iff_toNat.mp digit
  constructor
  · simp only [Text.isBlank, Bool.or_eq_false_iff, Bool.and_eq_false_iff, decide_eq_false_iff_not]
    omega
  · refine dif_neg ?_
    rintro ⟨least, -⟩
    have above : 65 ≤ c.toNat := least
    omega

/-- A number and a unit as they are printed: no blank anywhere, and all in lower case. -/
theorem plain_written (lettered : Lettered unit) (n : Nat) :
    ∀ c ∈ (toString n ++ unit).toList, Text.isBlank c = false ∧ c.toLower = c := by
  intro c member
  rw [String.toList_append, Nat.toString_eq_ofList_toDigits, String.toList_ofList, List.mem_append] at member
  rcases member with digit | letter
  · exact plain_of_isDigit (Nat.isDigit_of_mem_toDigits (by decide) (by decide) digit)
  · exact (lettered c letter).2

theorem dropBlankEnd_of_solid {text : List Char} (solid : ∀ c ∈ text, Text.isBlank c = false) :
    Text.dropBlankEnd text = text := by
  have kept := Text.dropBlankEnd_append solid []
  rwa [List.append_nil, Text.dropBlankEnd, List.append_nil] at kept

theorem trimChars_of_solid {text : List Char} (solid : ∀ c ∈ text, Text.isBlank c = false) :
    Text.trimChars text = text := by
  cases text with
  | nil => rfl
  | cons c rest => exact (Text.trimChars_of_head (solid c List.mem_cons_self) rest).trans (dropBlankEnd_of_solid solid)

theorem map_toLower_of_plain {text : List Char} (plain : ∀ c ∈ text, Text.isBlank c = false ∧ c.toLower = c) :
    text.map Char.toLower = text :=
  (List.map_congr_left fun c member => (plain c member).2).trans (List.map_id text)

theorem amount_written (n : Nat) (lettered : Lettered unit) : Amount (toString n ++ unit) (Nat.toDigits 10 n) unit := by
  have plain := plain_written lettered n
  have chars : canonicalChars (toString n ++ unit) = (toString n ++ unit).toList := by
    rw [canonicalChars, trimChars_of_solid fun c member => (plain c member).1, map_toLower_of_plain plain]
  refine @Amount.intro _ _ _ unit.toList ⟨Nat.toDigits_ne_nil, fun c member =>
    Nat.isDigit_of_mem_toDigits (by decide) (by decide) member⟩ ?_ ?_ ?_
  · rw [chars, String.toList_append, Nat.toString_eq_ofList_toDigits, String.toList_ofList]
  · exact fun c first => (lettered c (List.mem_of_mem_head? first)).1
  · rw [trimChars_of_solid fun c member => (lettered c member).2.1, String.ofList_toList]

theorem find?_unit {units : List (String × Nat)}
    (found : units.find? (fun unit => decide (n ≥ unit.2) && decide (n % unit.2 = 0)) = some (unit, size)) :
    (unit, size) ∈ units ∧ n / size * size = n := by
  have divides := List.find?_some found
  simp only [Bool.and_eq_true, decide_eq_true_eq] at divides
  exact ⟨List.mem_of_find?_eq_some found, Nat.div_mul_cancel (Nat.dvd_of_mod_eq_zero divides.2)⟩

theorem valueOf_toDigits (n : Nat) : valueOf (Nat.toDigits 10 n) = n :=
  Nat.ofDigitChars_ten_toDigits

end Printing

namespace Duration

variable {n : Nat} {d : Duration}

theorem secs_ofSecs (n : Nat) : (ofSecs n).secs = n := by
  simp only [secs, ofSecs]
  omega

theorem millis_ofMillis (n : Nat) : (ofMillis n).millis = n := by
  simp only [millis, ofMillis]
  omega

/-- Whole seconds are printed with a unit that divides them. -/
theorem format_ofSecs (n : Nat) :
    ∃ unit size, (unit, size) ∈ secondUnits ∧ Lettered unit ∧ n / size * size = n ∧
      (ofSecs n).format = toString (n / size) ++ unit := by
  have whole : (ofSecs n).millis % 1000 = 0 := by
    simp only [millis, ofSecs]
    omega
  rw [format, if_neg (not_not.mpr whole), secs_ofSecs]
  dsimp only
  split
  · next unit size found =>
      obtain ⟨member, divides⟩ := find?_unit found
      have units : ∀ entry ∈ [("d", 86400), ("h", 3600), ("m", 60)], entry ∈ secondUnits ∧ Lettered entry.1 := by
        decide
      obtain ⟨known, lettered⟩ := units (unit, size) member
      exact ⟨unit, size, known, lettered, divides, rfl⟩
  · refine ⟨"s", 1, by decide, by decide, by omega, ?_⟩
    rw [Nat.div_one]
    rfl

theorem format_ofMillis (broken : n % 1000 ≠ 0) : (ofMillis n).format = toString n ++ "ms" := by
  rw [format, millis_ofMillis, if_pos broken]
  rfl

theorem ofMillis_eq_ofSecs (whole : n % 1000 = 0) : ofMillis n = ofSecs (n / 1000) := by
  rw [ofMillis, ofSecs, mk.injEq]
  omega

/-- What a text says is printed as a number and a unit that say it again. -/
theorem Denotes.printed {raw : String} (denotes : Denotes raw d) :
    ∃ (n : Nat) (unit : String), d.format = toString n ++ unit ∧ Lettered unit ∧ Denotes d.format d := by
  have seconds (n : Nat) (counted : n < 2 ^ 64) :
      ∃ (m : Nat) (unit : String), (ofSecs n).format = toString m ++ unit ∧ Lettered unit ∧
        Denotes (ofSecs n).format (ofSecs n) := by
    obtain ⟨unit, size, known, lettered, divides, printed⟩ := format_ofSecs n
    refine ⟨n / size, unit, printed, lettered, ?_⟩
    have said := Denotes.secs (amount_written (n / size) lettered) known (by rwa [valueOf_toDigits, divides])
    rwa [valueOf_toDigits, divides, ← printed] at said
  cases denotes with
  | secs amount known counted => exact seconds _ counted
  | @millis digits amount counted =>
      by_cases whole : valueOf digits % 1000 = 0
      · rw [ofMillis_eq_ofSecs whole]
        exact seconds _ (Nat.lt_of_le_of_lt (Nat.div_le_self _ _) counted)
      · have lettered : Lettered "ms" := by decide
        have said := Denotes.millis (amount_written (valueOf digits) lettered) (by rwa [valueOf_toDigits])
        rw [valueOf_toDigits, ← format_ofMillis whole] at said
        exact ⟨valueOf digits, "ms", format_ofMillis whole, lettered, said⟩

end Duration

namespace ByteSize

theorem Denotes.printed (size : ByteSize) (counted : size.bytes < 2 ^ 64) : Denotes size.format size := by
  obtain ⟨n⟩ := size
  rw [format]
  dsimp only
  split
  · next unit count found =>
      obtain ⟨member, divides⟩ := find?_unit found
      have units : ∀ entry ∈ [("tb", 1 <<< 40), ("gb", 1 <<< 30), ("mb", 1 <<< 20), ("kb", 1024)],
          entry ∈ byteUnits ∧ Lettered entry.1 := by
        decide
      obtain ⟨known, lettered⟩ := units (unit, count) member
      have said := Denotes.bytes (amount_written (n / count) lettered) known (by rwa [valueOf_toDigits, divides])
      rw [valueOf_toDigits, divides] at said
      exact said
  · have amount : Amount (toString n ++ "b") (Nat.toDigits 10 n) "b" := amount_written n (by decide)
    have known : ("b", 1) ∈ byteUnits := by decide
    have said := Denotes.bytes amount known (by rwa [valueOf_toDigits, Nat.mul_one])
    rw [valueOf_toDigits, Nat.mul_one] at said
    exact said

end ByteSize

/-! ## Schedules -/

namespace Schedule

section Words

variable {word rest : List Char} {others : List (List Char)} {c d : Char}

theorem words_singleton (c : Char) : words [c] = if Text.isBlank c then [] else [[c]] := rfl

theorem words_cons_cons (c d : Char) (rest : List Char) :
    words (c :: d :: rest) =
      if Text.isBlank c then words (d :: rest)
      else if Text.isBlank d then [c] :: words rest
      else match words (d :: rest) with
        | [] => [[c]]
        | word :: others => (c :: word) :: others := (rfl)

theorem words_cons (here : Text.isBlank c = false) (next : Text.isBlank d = false)
    (behind : words (d :: rest) = word :: others) : words (c :: d :: rest) = (c :: word) :: others := by
  simp [words_cons_cons, here, next, behind]

theorem words_of_solid (filled : word ≠ []) (solid : ∀ c ∈ word, Text.isBlank c = false) : words word = [word] := by
  induction word with
  | nil => exact absurd rfl filled
  | cons d word ih =>
      obtain ⟨here, solid⟩ := List.forall_mem_cons.mp solid
      cases word with
      | nil => simp [words_singleton, here]
      | cons e word => exact words_cons here (solid e List.mem_cons_self) (ih (List.cons_ne_nil e word) solid)

theorem words_append_blank (filled : word ≠ []) (solid : ∀ c ∈ word, Text.isBlank c = false)
    (blank : Text.isBlank c = true) (rest : List Char) : words (word ++ c :: rest) = word :: words rest := by
  induction word with
  | nil => exact absurd rfl filled
  | cons d word ih =>
      obtain ⟨here, solid⟩ := List.forall_mem_cons.mp solid
      cases word with
      | nil => simp [words_cons_cons, here, blank]
      | cons e word => exact words_cons here (solid e List.mem_cons_self) (ih (List.cons_ne_nil e word) solid)

end Words

/-- The mark of an interval. -/
def everyMark : List Char :=
  ['@', 'e', 'v', 'e', 'r', 'y']

theorem everyMark_solid : ∀ c ∈ everyMark, Text.isBlank c = false := by
  simp [everyMark, Text.isBlank]

/-- The mark of an interval in front of a text that has neither a blank nor a capital. -/
def everyText (amount : List Char) : List Char :=
  everyMark ++ ' ' :: amount

section Every

variable {amount : List Char}

/-- The words that are schedules by themselves. -/
def namedSchedules : List String :=
  ["@minutely", "@midnight", "@annually", "@hourly", "@daily", "@weekly", "@monthly", "@yearly"]

theorem every_not_named (amount : List Char) : ∀ name ∈ namedSchedules, String.ofList (everyText amount) ≠ name := by
  intro name member same
  have second : name.toList[1]? = some 'e' := by
    rw [← same, String.toList_ofList]
    rfl
  have names : ∀ name ∈ namedSchedules, name.toList[1]? ≠ some 'e' := by decide
  exact names name member second

theorem canonicalChars_everyText (filled : amount ≠ []) (plain : ∀ c ∈ amount, Text.isBlank c = false ∧ c.toLower = c) :
    canonicalChars (String.ofList (everyText amount)) = everyText amount := by
  have solid : Text.dropBlankEnd amount = amount := dropBlankEnd_of_solid fun c member => (plain c member).1
  have trimmed : Text.trimChars (everyText amount) = everyText amount := by
    obtain ⟨c, more, rfl⟩ := List.exists_cons_of_ne_nil filled
    rw [everyText, Text.trimChars_append (by decide) everyMark_solid, Text.dropBlankEnd_cons_kept solid]
  have behind : (' ' :: amount).map Char.toLower = ' ' :: amount := congrArg (' ' :: ·) (map_toLower_of_plain plain)
  rw [canonicalChars, String.toList_ofList, trimmed, everyText, List.map_append, behind]
  rfl

theorem wordCount_everyText (filled : amount ≠ []) (solid : ∀ c ∈ amount, Text.isBlank c = false) :
    wordCount (everyText amount) = 2 := by
  rw [wordCount, everyText, words_append_blank (by decide) everyMark_solid (by decide), words_of_solid filled solid]
  rfl

theorem amountText_everyText (solid : ∀ c ∈ amount, Text.isBlank c = false) :
    amountText (everyText amount) = amount := by
  have behind : Text.trimChars (' ' :: amount) = Text.trimChars amount := rfl
  exact behind.trans (trimChars_of_solid solid)

end Every

theorem parse_format_every {d : Duration} {raw : String} (denotes : Duration.Denotes raw d) (positive : d ≠ .zero) :
    parse (format ⟨.every d, none⟩) = .ok ⟨.every d, none⟩ := by
  obtain ⟨n, unit, printed, lettered, again⟩ := denotes.printed
  have plain := plain_written lettered n
  rw [← printed] at plain
  have filled : d.format.toList ≠ [] := by
    rw [printed, String.toList_append, Nat.toString_eq_ofList_toDigits, String.toList_ofList]
    exact List.append_ne_nil_of_left_ne_nil Nat.toDigits_ne_nil _
  have solid : ∀ c ∈ d.format.toList, Text.isBlank c = false := fun c member => (plain c member).1
  have text : format ⟨.every d, none⟩ = String.ofList (everyText d.format.toList) := by
    simp only [← String.toList_inj, String.toList_ofList, format, everyText, String.append_empty, String.toList_append]
    rfl
  have read : Duration.read? (canonicalChars d.format) = some d :=
    Duration.parse_eq_ok_iff_read?.mp (Duration.parse_eq_ok_iff.mpr again)
  have names := every_not_named d.format.toList
  simp only [namedSchedules, List.forall_mem_cons] at names
  obtain ⟨minutely, midnight, annually, hourly, daily, weekly, monthly, yearly, -⟩ := names
  simp only [text, parse, canonicalChars_everyText filled plain, minutely, midnight, annually, hourly, daily, weekly,
    monthly, yearly, wordCount_everyText filled solid, amountText_everyText solid, String.ofList_toList, read,
    decide_false, Bool.or_false, Bool.false_eq_true, Nat.reduceLeDiff, if_false, if_neg positive]
  exact if_neg positive

end Schedule

/-- Whatever is read as a span of time is printed as a text that is read as the same span, and so is
the schedule at intervals of such a span, unless it is zero; every size that can be counted in a word is read back
from its text. No reader wraps: what a text is read as is the value of its digits times its unit. -/
theorem units_survive_printing :
    (∀ raw d, Duration.parse raw = .ok d →
      Duration.parse d.format = .ok d ∧
        (d ≠ .zero → ∃ s, Schedule.every d = .ok s ∧ Schedule.parse s.format = .ok s)) ∧
    (∀ size : ByteSize, size.bytes < 2 ^ 64 → ByteSize.parse size.format = .ok size) ∧
    (∀ raw d, Duration.parse raw = .ok d ↔ Duration.Denotes raw d) ∧
    ∀ raw size, ByteSize.parse raw = .ok size ↔ ByteSize.Denotes raw size := by
  refine ⟨fun raw d read => ?_, fun size counted => ?_, fun raw d => Duration.parse_eq_ok_iff, fun raw size =>
    ByteSize.parse_eq_ok_iff⟩
  · have denotes := Duration.parse_eq_ok_iff.mp read
    obtain ⟨n, unit, printed, lettered, again⟩ := denotes.printed
    exact ⟨Duration.parse_eq_ok_iff.mpr again, fun positive =>
      ⟨⟨.every d, none⟩, if_neg positive, Schedule.parse_format_every denotes positive⟩⟩
  · exact ByteSize.parse_eq_ok_iff.mpr (ByteSize.Denotes.printed size counted)

/-- The greatest span of minutes that is a word in seconds, and the greatest size. -/
theorem greatest_amounts_survive_printing :
    Duration.parse " 307445734561825860 M " = .ok (.ofSecs (307445734561825860 * 60)) ∧
      Duration.ofSecs (307445734561825860 * 60) ≠ .zero ∧
      Duration.parse (Duration.ofSecs (307445734561825860 * 60)).format = .ok (.ofSecs (307445734561825860 * 60)) ∧
      (∃ s, Schedule.every (.ofSecs (307445734561825860 * 60)) = .ok s ∧ Schedule.parse s.format = .ok s) ∧
      (2 ^ 64 - 1 < 2 ^ 64 ∧ ByteSize.parse (ByteSize.format ⟨2 ^ 64 - 1⟩) = .ok ⟨2 ^ 64 - 1⟩) ∧
      Duration.Denotes " 307445734561825860 M " (.ofSecs (307445734561825860 * 60)) := by
  have read : Duration.parse " 307445734561825860 M " = .ok (.ofSecs (307445734561825860 * 60)) := by decide +kernel
  have positive : Duration.ofSecs (307445734561825860 * 60) ≠ .zero := by decide
  obtain ⟨spans, sizes, denoted, -⟩ := units_survive_printing
  obtain ⟨again, scheduled⟩ := spans _ _ read
  exact ⟨read, positive, again, scheduled positive, ⟨by decide, sizes ⟨2 ^ 64 - 1⟩ (by decide)⟩, (denoted _ _).mp read⟩

end DocMapper
