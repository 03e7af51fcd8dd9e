import DocMapper.Proofs.CheckedTypes
import Mathlib.Data.List.Forall2
/-!
What a text can be read as among the fields of a type. A reading cuts the text into pieces, at
points, low lines and capitals, and goes down the tree along fields that the pieces spell. Whatever
a text is resolved to ends such a reading; and if the whole text spells a field at the top, no
piece is looked for further down.
-/

namespace DocMapper.DocumentType

variable {fields : List Field} {f : Field} {before text head tail : List Char}

/-- A chain of fields from one level downwards: each is a property of the one before. -/
inductive Descends : List Field → List Field → Prop where
  | last {fields : List Field} {f : Field} (listed : f ∈ fields) : Descends fields [f]
  | next {fields chain : List Field} {parent : Field} (listed : parent ∈ fields)
      (later : Descends parent.properties chain) : Descends fields (parent :: chain)

/-- A text in pieces, none of them empty. Between two pieces stands a point or a low line, or
nothing where the second one begins with a capital. -/
inductive InPieces : List Char → List (List Char) → Prop where
  | whole {text : List Char} (filled : text ≠ []) : InPieces text [text]
  | mark {piece rest : List Char} {pieces : List (List Char)} {c : Char} (filled : piece ≠ [])
      (mark : c = '.' ∨ c = '_') (later : InPieces rest pieces) : InPieces (piece ++ c :: rest) (piece :: pieces)
  | capital {piece rest : List Char} {pieces : List (List Char)} {c : Char} (filled : piece ≠ [])
      (capital : Text.isUpper c = true) (later : InPieces (c :: rest) pieces) :
      InPieces (piece ++ c :: rest) (piece :: pieces)

/-- A text is one of the names of a field, but for case and low lines. -/
def Spells (text : List Char) (f : Field) : Prop :=
  normalizeChars text = normalizeChars f.name.toList ∨ normalizeChars text = normalizeChars f.engineName.toList

theorem answersTo_iff : answersTo f (normalizeChars text) = true ↔ Spells text f := by
  rw [answersTo, Bool.or_eq_true, decide_eq_true_eq, decide_eq_true_eq]
  exact or_congr eq_comm eq_comm

theorem spelled_of_find? (found : (fields.find? fun g => answersTo g (normalizeChars text)) = some f) :
    f ∈ fields ∧ Spells text f :=
  ⟨List.mem_of_find?_eq_some found, answersTo_iff.mp (by simpa using List.find?_some found)⟩

theorem unspelled_of_find? (nobody : (fields.find? fun g => answersTo g (normalizeChars text)) = none) :
    ∀ g ∈ fields, ¬Spells text g := by
  intro g listed spelled
  have silent := List.find?_eq_none.mp nobody g listed
  exact silent (answersTo_iff.mpr spelled)

theorem spelled_of_findParent? {parent : Field}
    (found : (fields.find? fun g => !g.properties.isEmpty && answersTo g (normalizeChars text)) = some parent) :
    parent ∈ fields ∧ Spells text parent := by
  have answers := List.find?_some found
  rw [Bool.and_eq_true] at answers
  exact ⟨List.mem_of_find?_eq_some found, answersTo_iff.mp answers.2⟩

/-- A text read as a field: its pieces spell a chain of fields that ends with it. -/
structure ReadAs (fields : List Field) (text : List Char) (f : Field) (chain : List Field) (pieces : List (List Char)) :
    Prop where
  descends : Descends fields chain
  ends : chain.getLast? = some f
  inPieces : InPieces text pieces
  spelled : List.Forall₂ Spells pieces chain

theorem ReadAs.whole (filled : text ≠ []) (listed : f ∈ fields) (spelled : Spells text f) :
    ReadAs fields text f [f] [text] where
  descends := .last listed
  ends := rfl
  inPieces := .whole filled
  spelled := .cons spelled .nil

/-! ## Cuts -/

/-- Where a text is cut: behind at least one character, at a point, a low line or a capital, of which
only the capital is kept. -/
structure Cut (text head tail : List Char) : Prop where
  filled : head ≠ []
  joint : ∃ c rest, text = head ++ c :: rest ∧
    ((c = '.' ∨ c = '_') ∧ tail = rest ∨ Text.isUpper c = true ∧ tail = c :: rest)

theorem cut_of_mem_cutsAfter (member : (head, tail) ∈ cutsAfter before text) :
    Cut (before ++ text) head tail ∧ before <+: head := by
  induction text generalizing before with
  | nil => cases member
  | cons c rest ih =>
      rw [cutsAfter, List.mem_append] at member
      rcases member with here | later
      · split_ifs at here with empty mark capital
        · cases here
        · cases List.mem_singleton.mp here
          refine ⟨⟨by simpa using empty, c, tail, rfl, .inl ⟨by simpa using mark, rfl⟩⟩, List.prefix_rfl⟩
        · cases List.mem_singleton.mp here
          exact ⟨⟨by simpa using empty, c, rest, rfl, .inr ⟨capital, rfl⟩⟩, List.prefix_rfl⟩
        · cases here
      · obtain ⟨cut, begins⟩ := ih later
        rw [List.append_assoc] at cut
        exact ⟨cut, (List.prefix_append before [c]).trans begins⟩

theorem cut_of_mem_cuts (member : (head, tail) ∈ cuts text) : Cut text head tail :=
  (cut_of_mem_cutsAfter member).1

theorem Cut.inPieces (cut : Cut text head tail) {pieces : List (List Char)} (later : InPieces tail pieces) :
    InPieces text (head :: pieces) := by
  obtain ⟨c, rest, rfl, ⟨mark, rfl⟩ | ⟨capital, rfl⟩⟩ := cut.joint
  · exact .mark cut.filled mark later
  · exact .capital cut.filled capital later

/-! ## Resolving -/

/-- How a text comes to be resolved: as the first field that it spells, or, where it spells none,
cut in two, the front as the first field with properties that it spells and the rest below. -/
theorem resolveAmong_eq_some {depth : Nat} (found : resolveAmong (depth + 1) fields text = some f) :
    text ≠ [] ∧
      ((fields.find? fun g => answersTo g (normalizeChars text)) = some f ∨
        (∀ g ∈ fields, ¬Spells text g) ∧ ∃ head tail parent, (head, tail) ∈ cuts text ∧
          (fields.find? fun g => !g.properties.isEmpty && answersTo g (normalizeChars head)) = some parent ∧
          resolveAmong depth parent.properties tail = some f) := by
  rw [resolveAmong] at found
  split_ifs at found with empty
  refine ⟨by simpa using empty, ?_⟩
  split at found
  · next g answers => exact .inl (answers.trans found)
  · next nobody =>
      refine .inr ⟨unspelled_of_find? nobody, ?_⟩
      obtain ⟨⟨head, tail⟩, member, below⟩ := List.exists_of_findSome?_eq_some found
      split at below
      · next parent answers => exact ⟨head, tail, parent, List.mem_reverse.mp member, answers, below⟩
      · cases below

theorem readAs_of_resolveAmong {depth : Nat} (found : resolveAmong depth fields text = some f) :
    ∃ chain pieces, ReadAs fields text f chain pieces := by
  -- On the depth: every level takes the front of the text away and goes on with the rest.
  induction depth generalizing fields text with
  | zero => cases found
  | succ depth ih =>
      obtain ⟨filled, whole | ⟨-, head, tail, parent, member, answers, below⟩⟩ := resolveAmong_eq_some found
      · obtain ⟨listed, spelled⟩ := spelled_of_find? whole
        exact ⟨[f], [text], .whole filled listed spelled⟩
      · obtain ⟨chain, pieces, later⟩ := ih below
        obtain ⟨listed, spelled⟩ := spelled_of_findParent? answers
        refine ⟨parent :: chain, head :: pieces, ?_⟩
        exact {
          descends := .next listed later.descends
          ends := by rw [List.getLast?_cons, later.ends]; rfl
          inPieces := (cut_of_mem_cuts member).inPieces later.inPieces
          spelled := .cons spelled later.spelled }

theorem resolveField_of_spelled {text : String} (filled : text ≠ "") (spelled : ∃ g ∈ fields, Spells text.toList g) :
    ∃ f ∈ fields, Spells text.toList f ∧ resolveField fields text = some f := by
  obtain ⟨g, listed, spelled⟩ := spelled
  cases first : fields.find? fun g => answersTo g (normalizeChars text.toList) with
  | none => exact absurd spelled (unspelled_of_find? first g listed)
  | some f =>
      obtain ⟨listed, spelled⟩ := spelled_of_find? first
      refine ⟨f, listed, spelled, ?_⟩
      have nonempty : text.toList.isEmpty = false := by simpa using filled
      rw [resolveField, resolveAmong, nonempty, first]
      rfl

variable {t : DocumentType}

theorem resolve_eq_some {text : String} {property : ResolvedProperty} :
    t.resolve text = some property ↔ ∃ f, resolveField t.fields text = some f ∧ ⟨f.path, f.type⟩ = property :=
  Option.map_eq_some_iff

/-- Whatever a text is resolved to ends a chain of fields whose names are spelled by the pieces of
the text; and if the whole text spells a field at the top, it is resolved to such a field. -/
theorem resolution_sound (t : DocumentType) (text : String) :
    (∀ property, t.resolve text = some property →
      ∃ f chain pieces, property = ⟨f.path, f.type⟩ ∧ ReadAs t.fields text.toList f chain pieces ∧
        ((∃ g ∈ t.fields, Spells text.toList g) → f ∈ t.fields)) ∧
      ((∃ g ∈ t.fields, Spells text.toList g) → text ≠ "" →
        ∃ f ∈ t.fields, Spells text.toList f ∧ t.resolve text = some ⟨f.path, f.type⟩) := by
  constructor
  · intro property resolved
    obtain ⟨f, found, rfl⟩ := resolve_eq_some.mp resolved
    obtain ⟨chain, pieces, reading⟩ := readAs_of_resolveAmong found
    refine ⟨f, chain, pieces, rfl, reading, fun spelled => ?_⟩
    have filled : text ≠ "" := by
      rintro rfl
      cases found
    obtain ⟨g, listed, -, first⟩ := resolveField_of_spelled filled spelled
    cases found.symm.trans first
    exact listed
  · intro spelled filled
    obtain ⟨f, listed, spelled, found⟩ := resolveField_of_spelled filled spelled
    exact ⟨f, listed, spelled, resolve_eq_some.mpr ⟨f, found, rfl⟩⟩

/-- The day of a stay, with a low line too many and under its name in the application. -/
theorem stay_day_read :
    visits.resolve "Stay__Day" = some ⟨⟨"stay.on"⟩, .date⟩ ∧
      ∃ f chain pieces, f.path = ⟨"stay.on"⟩ ∧ ReadAs visits.fields "Stay__Day".toList f chain pieces := by
  have resolved : visits.resolve "Stay__Day" = some ⟨⟨"stay.on"⟩, .date⟩ := by decide +kernel
  obtain ⟨f, chain, pieces, same, reading, -⟩ := (resolution_sound visits "Stay__Day").1 _ resolved
  exact ⟨resolved, f, chain, pieces, (congrArg ResolvedProperty.path same).symm, reading⟩

end DocMapper.DocumentType
