import DocMapper.Url.Percent
import Mathlib.Data.List.Flatten
import Mathlib.Data.Nat.Init
import Mathlib.Tactic.IntervalCases
/-!
What percent-encoding and reading back do to a text. A text without escapes reads back as the
bytes it is written in, and every escape makes the reading shorter than the text: so a text
that is no longer than another and reads back as that other is the same text. Encoding for a
path leaves alone what a text reads back as.
-/

namespace DocMapper.Percent

/-- The UTF-8 form of a text. -/
def bytes (text : List Char) : List UInt8 :=
  text.flatMap String.utf8EncodeChar

/-- Whether a text begins with a percent sign and two digits. -/
def startsEscape : List Char → Bool
  | '%' :: a :: b :: _ => (hexValue? a).isSome && (hexValue? b).isSome
  | _ => false

def hasEscape : List Char → Bool
  | [] => false
  | c :: rest => startsEscape (c :: rest) || hasEscape rest

/-! ## Bytes -/

@[simp] theorem bytes_nil : bytes [] = [] := rfl

@[simp] theorem bytes_cons (c : Char) (rest : List Char) :
    bytes (c :: rest) = String.utf8EncodeChar c ++ bytes rest := rfl

theorem bytes_length_le {part whole : List Char} (part_of : part.Sublist whole) :
    (bytes part).length ≤ (bytes whole).length :=
  (part_of.flatMap String.utf8EncodeChar).length_le

theorem toByteArray_bytes (text : List Char) : (bytes text).toByteArray = (String.ofList text).toByteArray :=
  String.toByteArray_ofList.symm

theorem bytes_inj {first second : List Char} : bytes first = bytes second ↔ first = second := by
  constructor
  · intro same
    have arrays := congrArg List.toByteArray same
    rw [toByteArray_bytes, toByteArray_bytes, String.toByteArray_inj] at arrays
    exact String.ofList_injective arrays
  · exact congrArg bytes

theorem decodeText?_eq_some_iff {text : List Char} {s : String} :
    decodeText? text = some s ↔ decode text = bytes s.toList := by
  have array : (⟨(decode text).toArray⟩ : ByteArray) = (decode text).toByteArray :=
    ByteArray.ext List.data_toByteArray.symm
  have written : s.toByteArray = (bytes s.toList).toByteArray := by
    rw [toByteArray_bytes, String.ofList_toList]
  rw [decodeText?, array, String.fromUTF8?]
  constructor
  · intro read
    split at read
    · have same := congrArg String.toByteArray (Option.some.inj read)
      have data := congrArg ByteArray.data (same.trans written)
      simpa [String.fromUTF8, List.data_toByteArray] using data
    · cases read
  · intro same
    have valid : (decode text).toByteArray.IsValidUTF8 := by
      rw [same, ← written]
      exact s.isValidUTF8
    rw [dif_pos valid]
    apply congrArg some
    apply String.toByteArray_inj.mp
    exact (congrArg List.toByteArray same).trans written.symm

/-! ## Reading -/

theorem decode_escape {a b : Char} {high low : Nat} (first : hexValue? a = some high)
    (second : hexValue? b = some low) (rest : List Char) :
    decode ('%' :: a :: b :: rest) = UInt8.ofNat (16 * high + low) :: decode rest := by
  rw [decode, first, second]

theorem decode_plain {c : Char} {rest : List Char} (plain : startsEscape (c :: rest) = false) :
    decode (c :: rest) = String.utf8EncodeChar c ++ decode rest := by
  rw [decode.eq_def]
  split
  · contradiction
  · next a b tail whole =>
      obtain ⟨rfl, rfl⟩ := List.cons.inj whole
      rw [startsEscape, Bool.and_eq_false_iff] at plain
      rcases plain with none | none <;> rw [Option.isSome_eq_false_iff, Option.isNone_iff_eq_none] at none
      · rw [none]
        rfl
      · rw [none]
        cases hexValue? a <;> rfl
  · next whole =>
      obtain ⟨rfl, rfl⟩ := List.cons.inj whole
      rfl

theorem escape_or_plain (c : Char) (rest : List Char) :
    (∃ a b tail high low, c = '%' ∧ rest = a :: b :: tail ∧ hexValue? a = some high ∧ hexValue? b = some low) ∨
      startsEscape (c :: rest) = false := by
  by_cases starts : startsEscape (c :: rest) = true
  · left
    rw [startsEscape.eq_def] at starts
    split at starts
    · next a b tail whole =>
        obtain ⟨rfl, rfl⟩ := List.cons.inj whole
        rw [Bool.and_eq_true, Option.isSome_iff_exists, Option.isSome_iff_exists] at starts
        obtain ⟨⟨high, first⟩, ⟨low, second⟩⟩ := starts
        exact ⟨a, b, tail, high, low, rfl, rfl, first, second⟩
    · cases starts
  · exact .inr (Bool.eq_false_iff.mpr starts)

theorem decode_of_no_escape {text : List Char} (plain : hasEscape text = false) : decode text = bytes text := by
  induction text with
  | nil => rfl
  | cons c rest ih =>
      rw [hasEscape, Bool.or_eq_false_iff] at plain
      rw [decode_plain plain.1, ih plain.2, bytes_cons]

theorem length_utf8EncodeChar_pos (c : Char) : 0 < (String.utf8EncodeChar c).length :=
  List.length_pos_iff.mpr String.utf8EncodeChar_ne_nil

/-- Reading never makes a text longer, and an escape makes it shorter. -/
theorem decode_length (text : List Char) :
    (decode text).length ≤ (bytes text).length ∧
      (hasEscape text = true → (decode text).length < (bytes text).length) := by
  -- An escape takes three characters at once, so a plain induction on the text does not reach its tail.
  induction size : text.length using Nat.strong_induction_on generalizing text with
  | _ n ih =>
    cases text with
    | nil => simp [decode, hasEscape]
    | cons c rest =>
        rcases escape_or_plain c rest with ⟨a, b, tail, high, low, rfl, rfl, first, second⟩ | plain
        · obtain ⟨bound, -⟩ := ih tail.length (by simp at size; omega) tail rfl
          have aLong := length_utf8EncodeChar_pos a
          have bLong := length_utf8EncodeChar_pos b
          have shorter : (decode ('%' :: a :: b :: tail)).length < (bytes ('%' :: a :: b :: tail)).length := by
            rw [decode_escape first second]
            simp only [bytes_cons, List.length_append, List.length_cons]
            omega
          exact ⟨shorter.le, fun _ => shorter⟩
        · obtain ⟨bound, strict⟩ := ih rest.length (by simp at size; omega) rest rfl
          rw [decode_plain plain, bytes_cons, List.length_append, List.length_append]
          refine ⟨Nat.add_le_add_left bound _, fun escaped => Nat.add_lt_add_left (strict ?_) _⟩
          rw [hasEscape, plain, Bool.false_or] at escaped
          exact escaped

/-- A text that is no longer than what it reads back as holds no escape and is what it reads back as. -/
theorem eq_of_decode {text other : List Char} (read : decode text = bytes other)
    (short : (bytes text).length ≤ (bytes other).length) : text = other ∧ hasEscape text = false := by
  have plain : hasEscape text = false := by
    by_contra escaped
    have shorter := (decode_length text).2 (Bool.not_eq_false _ ▸ escaped)
    rw [read] at shorter
    omega
  rw [decode_of_no_escape plain] at read
  exact ⟨bytes_inj.mp read, plain⟩

/-! ## Encoding -/

theorem hexValue?_hexDigit {n : Nat} (digit : n < 16) : hexValue? (hexDigit n) = some n := by
  interval_cases n <;> rfl

theorem decode_encodeByte (b : UInt8) (rest : List Char) :
    decode (encodeByte b ++ rest) = b :: decode rest := by
  have bound : b.toNat < 256 := b.toNat_lt
  have high : hexValue? (hexDigit (b.toNat / 16)) = some (b.toNat / 16) := hexValue?_hexDigit (by omega)
  have low : hexValue? (hexDigit (b.toNat % 16)) = some (b.toNat % 16) := hexValue?_hexDigit (by omega)
  have whole : 16 * (b.toNat / 16) + b.toNat % 16 = b.toNat := Nat.div_add_mod _ _
  rw [encodeByte]
  refine (decode_escape high low rest).trans ?_
  rw [whole, UInt8.ofNat_toNat]

theorem decode_encodeChar (c : Char) (rest : List Char) :
    decode (encodeChar c ++ rest) = String.utf8EncodeChar c ++ decode rest := by
  rw [encodeChar]
  induction String.utf8EncodeChar c with
  | nil => rfl
  | cons b tail ih =>
      rw [List.flatMap_cons, List.append_assoc, decode_encodeByte, ih, List.cons_append]

@[simp] theorem encode_nil (set : Char → Bool) : encode set [] = [] := rfl

theorem encode_cons (set : Char → Bool) (c : Char) (rest : List Char) :
    encode set (c :: rest) = (if set c then encodeChar c else [c]) ++ encode set rest := rfl

/-- The digits of an escape stand in a path as they are. -/
theorem inPath_of_hexValue? {c : Char} {n : Nat} (digit : hexValue? c = some n) : inPath c = false := by
  have ascii : ∀ m < 128, (hexValue? (Char.ofNat m)).isSome = true → inPath (Char.ofNat m) = false := by decide
  have small : c.toNat < 128 := by
    have bounds : ('0' ≤ c ∧ c ≤ '9') ∨ ('A' ≤ c ∧ c ≤ 'F') ∨ ('a' ≤ c ∧ c ≤ 'f') := by
      simp only [hexValue?, Bool.and_eq_true, decide_eq_true_eq] at digit
      grind
    rcases bounds with ⟨-, top⟩ | ⟨-, top⟩ | ⟨-, top⟩ <;> exact Nat.lt_of_le_of_lt (Char.le_def.mp top) (by decide)
  rw [← Char.ofNat_toNat c]
  apply ascii c.toNat small
  rw [Char.ofNat_toNat, digit]
  rfl

theorem head_encodeChar (c : Char) : ∃ rest, encodeChar c = '%' :: rest := by
  rw [encodeChar]
  cases form : String.utf8EncodeChar c with
  | nil => exact absurd form String.utf8EncodeChar_ne_nil
  | cons b more => exact ⟨_, rfl⟩

theorem head_of_encode {text tail : List Char} {c : Char} {n : Nat} (written : encode inPath text = c :: tail)
    (digit : hexValue? c = some n) : ∃ rest, text = c :: rest ∧ encode inPath rest = tail := by
  cases text with
  | nil => cases written
  | cons first rest =>
      rw [encode_cons] at written
      by_cases marked : inPath first = true
      · obtain ⟨more, form⟩ := head_encodeChar first
        rw [if_pos marked, form, List.cons_append] at written
        obtain ⟨rfl, -⟩ := List.cons.inj written
        cases digit
      · rw [if_neg marked, List.singleton_append] at written
        obtain ⟨rfl, rfl⟩ := List.cons.inj written
        exact ⟨rest, rfl, rfl⟩

theorem startsEscape_of_encode {c : Char} {rest : List Char} (plain : startsEscape (c :: rest) = false) :
    startsEscape (c :: encode inPath rest) = false := by
  rcases escape_or_plain c (encode inPath rest) with ⟨a, b, tail, high, low, rfl, written, first, second⟩ | stays
  · obtain ⟨more, rfl, later⟩ := head_of_encode written first
    obtain ⟨last, rfl, -⟩ := head_of_encode later second
    rw [startsEscape, first, second] at plain
    cases plain
  · exact stays

theorem decode_encode (text : List Char) : decode (encode inPath text) = decode text := by
  induction size : text.length using Nat.strong_induction_on generalizing text with
  | _ n ih =>
    cases text with
    | nil => rfl
    | cons c rest =>
        rcases escape_or_plain c rest with ⟨a, b, tail, high, low, rfl, rfl, first, second⟩ | plain
        · have later := ih tail.length (by simp at size; omega) tail rfl
          have kept : encode inPath ('%' :: a :: b :: tail) = '%' :: a :: b :: encode inPath tail := by
            have mark : inPath '%' = false := rfl
            simp [encode_cons, mark, inPath_of_hexValue? first, inPath_of_hexValue? second]
          rw [kept, decode_escape first second, decode_escape first second, later]
        · have later := ih rest.length (by simp at size; omega) rest rfl
          rw [encode_cons, decode_plain plain]
          by_cases marked : inPath c = true
          · rw [if_pos marked, decode_encodeChar, later]
          · rw [if_neg marked, List.singleton_append, decode_plain (startsEscape_of_encode plain), later]

end DocMapper.Percent
