import DocMapper.Proofs.DoubleOrder
/-!
Ranges that take in their bound, beside the same ranges without it and equality. "At most" is "less
or equal" as long as what counts as equal is also ordered as equal. Numbers are, and so is a text
with a number it spells. Texts that differ in case only count as equal but are ordered by code point,
and a number has no order against a text that spells it.
-/

namespace DocMapper

/-- One text or one number. -/
def Json.IsScalar : Json → Prop
  | .string _ | .number _ => True
  | _ => False

variable {x y : Float}

theorem compareDoubles?_eq_compare (x y : Float) : compareDoubles? x y = x.toModel.unpack.compare y.toModel.unpack := by
  rw [compareDoubles?_eq_places, compare_eq_places]

theorem compareDoubles?_eq_iff : compareDoubles? x y = some .eq ↔ (x == y) = true := by
  rw [compareDoubles?_eq_compare, equal_iff_compare]

theorem compareTexts_eq_iff {a b : String} : compareTexts a b = .eq ↔ a = b := by
  have library : compareTexts a b = compare a b := rfl
  rw [library, Std.LawfulEqCmp.compare_eq_iff_eq]

namespace Criteria

/-- A chain that asks for one thing of one field. -/
def asking (field : FieldPath) (condition : Condition) : Criteria :=
  ⟨[.ofCondition field condition .and]⟩

/-- A number is stored, and asked for is a text that spells it. -/
def SpelledOut (stored operand : Json) : Prop :=
  ∃ n text x, stored = .number n ∧ operand = .string text ∧ Decimal.parse? text = some x ∧ (x == n.toDouble) = true

/-- Two texts that differ in case only, the first one earlier by code point. -/
def CasedBefore (first second : Json) : Prop :=
  ∃ a b, first = .string a ∧ second = .string b ∧ Text.lower a = Text.lower b ∧ a < b

variable {document stored operand : Json} {field : FieldPath} {condition : Condition}

theorem holds_asking (found : field.lookup document = some stored) (single : stored.IsScalar) :
    (asking field condition).holds document = fieldHolds condition stored := by
  have node : nodeHolds (.ofCondition field condition .and) document = fieldHolds condition stored := by
    cases stored with
    | string | number => simp [nodeHolds, Node.ofCondition, found]
    | null | bool | array | object => exact single.elim
  simp [asking, holds, runs, runsOf, runHolds, node]

theorem anyValue_scalar (single : stored.IsScalar) (check : Json → Bool) : anyValue stored check = check stored := by
  cases stored with
  | string | number => rfl
  | null | bool | array | object => exact single.elim

@[grind →] theorem SpelledOut.order (spelled : SpelledOut stored operand) : stored.compare? operand = none := by
  obtain ⟨n, text, x, rfl, rfl, -⟩ := spelled
  rfl

@[grind →] theorem CasedBefore.order (cased : CasedBefore stored operand) : stored.compare? operand = some .lt := by
  obtain ⟨a, b, rfl, rfl, -, before⟩ := cased
  simp [Json.compare?, compareTexts, before]

@[grind →] theorem CasedBefore.order_back (cased : CasedBefore operand stored) : stored.compare? operand = some .gt := by
  obtain ⟨a, b, rfl, rfl, -, before⟩ := cased
  simp [Json.compare?, compareTexts, not_lt_of_gt before, before.ne']

/-! ## What equality takes in, for each pairing -/

theorem looselyEqual_numbers_iff (m n : Number) :
    looselyEqual (.number m) (.number n) = true ↔ Json.compare? (.number m) (.number n) = some .eq := by
  rw [looselyEqual, decide_eq_true_iff]

theorem looselyEqual_number_iff (text : String) (n : Number) :
    looselyEqual (.string text) (.number n) = true ↔ Json.compare? (.string text) (.number n) = some .eq := by
  cases read : Decimal.parse? text with
  | none => simp [looselyEqual, Json.compare?, read]
  | some x => simp [looselyEqual, Json.compare?, read, compareDoubles?_eq_iff]

theorem looselyEqual_spelled_iff (n : Number) (text : String) :
    looselyEqual (.number n) (.string text) = true ↔ SpelledOut (.number n) (.string text) := by
  cases read : Decimal.parse? text with
  | none => simp [looselyEqual, SpelledOut, read]
  | some x => simp [looselyEqual, SpelledOut, read]

theorem looselyEqual_texts_iff (a b : String) :
    looselyEqual (.string a) (.string b) = true ↔ Json.compare? (.string a) (.string b) = some .eq ∨
      CasedBefore (.string a) (.string b) ∨ CasedBefore (.string b) (.string a) := by
  rw [looselyEqual, decide_eq_true_iff]
  constructor
  · intro folded
    rcases lt_trichotomy a b with before | same | after
    · exact .inr (.inl ⟨a, b, rfl, rfl, folded, before⟩)
    · exact .inl (congrArg some (compareTexts_eq_iff.mpr same))
    · exact .inr (.inr ⟨b, a, rfl, rfl, folded.symm, after⟩)
  · rintro (ordered | ⟨_, _, ⟨⟩, ⟨⟩, folded, -⟩ | ⟨_, _, ⟨⟩, ⟨⟩, folded, -⟩)
    · rw [compareTexts_eq_iff.mp (Option.some.inj ordered)]
    · exact folded
    · exact folded.symm

/-- What counts as equal is ordered as equal, or case or spelling made it count so. -/
theorem looselyEqual_iff (single : stored.IsScalar) (asked : operand.IsScalar) :
    looselyEqual stored operand = true ↔
      stored.compare? operand = some .eq ∨ CasedBefore stored operand ∨ CasedBefore operand stored ∨
        SpelledOut stored operand := by
  cases stored with
  | number m => cases operand with
    | number n => simp [looselyEqual_numbers_iff, CasedBefore, SpelledOut]
    | string b => simp [looselyEqual_spelled_iff, CasedBefore, Json.compare?]
    | null | bool | array | object => exact asked.elim
  | string a => cases operand with
    | number n => simp [looselyEqual_number_iff, CasedBefore, SpelledOut]
    | string b => simp [looselyEqual_texts_iff, SpelledOut]
    | null | bool | array | object => exact asked.elim
  | null | bool | array | object => exact single.elim

/-! ## Ranges and equality -/

theorem atMost_iff (single : stored.IsScalar) (asked : operand.IsScalar) :
    (atMost stored operand = true ↔ stored.compare? operand = some .lt ∨ looselyEqual stored operand = true) ↔
      ¬SpelledOut stored operand ∧ ¬CasedBefore operand stored := by
  -- Case and spelling each go with an order of their own, so that no two of the four cases meet.
  rw [looselyEqual_iff single asked, atMost, Bool.or_eq_true, decide_eq_true_iff, decide_eq_true_iff]
  grind

theorem atLeast_iff (single : stored.IsScalar) (asked : operand.IsScalar) :
    (atLeast stored operand = true ↔ stored.compare? operand = some .gt ∨ looselyEqual stored operand = true) ↔
      ¬SpelledOut stored operand ∧ ¬CasedBefore stored operand := by
  rw [looselyEqual_iff single asked, atLeast, Bool.or_eq_true, decide_eq_true_iff, decide_eq_true_iff]
  grind

/-- For a field with one text or number, "at most" a text or number means "less or equal" unless a number
is asked for by a text that spells it, or a text by one that differs from it in case only and is earlier
by code point. "At least" means "greater or equal" unless it is the former, or such a text is later. -/
theorem ranges_take_in_equals_iff (found : field.lookup document = some stored) (single : stored.IsScalar)
    (asked : operand.IsScalar) :
    (((asking field (.lessEqual operand)).holds document ↔
        (asking field (.less operand)).holds document ∨ (asking field (.equals operand)).holds document) ↔
      ¬SpelledOut stored operand ∧ ¬CasedBefore operand stored) ∧
    (((asking field (.greaterEqual operand)).holds document ↔
        (asking field (.greater operand)).holds document ∨ (asking field (.equals operand)).holds document) ↔
      ¬SpelledOut stored operand ∧ ¬CasedBefore stored operand) := by
  simp only [holds_asking found single, fieldHolds, anyValue_scalar single, valueHolds, decide_eq_true_iff]
  exact ⟨atMost_iff single asked, atLeast_iff single asked⟩

/-- A note about a language, as it spells its name. -/
def languageNote : Json :=
  .object [("title", .string "Rust"), ("votes", .ofNat 42)]

theorem capital_title_at_most_small :
    ((asking ⟨"title"⟩ (.lessEqual (.string "rust"))).holds languageNote ↔
      (asking ⟨"title"⟩ (.less (.string "rust"))).holds languageNote ∨
        (asking ⟨"title"⟩ (.equals (.string "rust"))).holds languageNote) ∧
    ¬((asking ⟨"title"⟩ (.greaterEqual (.string "rust"))).holds languageNote ↔
      (asking ⟨"title"⟩ (.greater (.string "rust"))).holds languageNote ∨
        (asking ⟨"title"⟩ (.equals (.string "rust"))).holds languageNote) := by
  have found : FieldPath.lookup ⟨"title"⟩ languageNote = some (.string "Rust") := by decide +kernel
  have asked : Json.IsScalar (.string "rust") := trivial
  have ranges := ranges_take_in_equals_iff found trivial asked
  have unspelled : ¬SpelledOut (.string "Rust") (.string "rust") := by
    rintro ⟨n, _, _, ⟨⟩, -⟩
  have notLater : ¬CasedBefore (.string "rust") (.string "Rust") := by
    rintro ⟨_, _, ⟨⟩, ⟨⟩, -, before⟩
    exact absurd before (by decide)
  have earlier : CasedBefore (.string "Rust") (.string "rust") := ⟨"Rust", "rust", rfl, rfl, by decide +kernel, by decide⟩
  exact ⟨ranges.1.mpr ⟨unspelled, notLater⟩, fun also => (ranges.2.mp also).2 earlier⟩

/-- A number equals the text that spells it, and yet is not at most that text. -/
theorem spelled_number_not_at_most :
    ¬∀ (document : Json) (field : FieldPath) (stored operand : Json), field.lookup document = some stored →
      stored.IsScalar → operand.IsScalar →
      ((asking field (.lessEqual operand)).holds document ↔
        (asking field (.less operand)).holds document ∨ (asking field (.equals operand)).holds document) ∧
      ((asking field (.greaterEqual operand)).holds document ↔
        (asking field (.greater operand)).holds document ∨ (asking field (.equals operand)).holds document) := by
  intro consistent
  have found : FieldPath.lookup ⟨"votes"⟩ languageNote = some (.ofNat 42) := by decide +kernel
  have votes := (consistent languageNote ⟨"votes"⟩ (.ofNat 42) (.string "42") found trivial trivial).1
  have equal : (asking ⟨"votes"⟩ (.equals (.string "42"))).holds languageNote = true := by decide +kernel
  have above : (asking ⟨"votes"⟩ (.lessEqual (.string "42"))).holds languageNote = false := by decide +kernel
  rw [above] at votes
  exact Bool.false_ne_true (votes.mpr (.inr equal))

end Criteria

end DocMapper
