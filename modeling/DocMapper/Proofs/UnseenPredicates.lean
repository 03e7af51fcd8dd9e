import DocMapper.Criteria.Evaluate
import DocMapper.Proofs.CompiledQueries
/-!
What becomes of a name with something behind its `By`. The predicate is seen only where a new word
follows some `By`. Where none does, the name is accepted as one without a predicate: it means every
document, also when it says to delete them.
-/

namespace DocMapper

namespace MethodName

variable {word text : List Char} {entry : String × Subject} {predicate : String} {name : MethodName}

theorem counts_dropBlankEnd (solid : ∃ c, word.getLast? = some c ∧ Text.isBlank c = false)
    (unended : ¬word <:+ Text.dropBlankEnd text) :
    Counts word (Text.dropBlankEnd text) ↔ Counts word text := by
  obtain ⟨c, last, solid⟩ := solid
  obtain ⟨front, rfl⟩ := List.getLast?_eq_some_iff.mp last
  obtain ⟨blanks, whole, blank⟩ := Text.append_of_dropBlankEnd text
  constructor
  · rintro ⟨before, after, same, begins⟩
    exact ⟨before, after ++ blanks, by rw [whole, same, List.append_assoc], beginsWord_append begins blanks⟩
  · rintro ⟨before, after, same, begins⟩
    rcases List.append_eq_append_iff.mp (whole.symm.trans same) with ⟨extra, spilt, left⟩ | ⟨inner, kept, left⟩
    · -- The word would end in a blank, or end the text.
      cases extra using List.reverseRecOn with
      | nil => exact absurd ⟨before, by simpa using spilt⟩ unended
      | append_singleton extra d =>
          have last : c = d := by
            rw [← List.append_assoc, ← List.append_assoc] at spilt
            exact List.singleton_inj.mp (List.append_inj' spilt rfl).2
          have blankEnd : Text.isBlank c = true := blank c (by simp [left, last])
          exact absurd blankEnd (Bool.eq_false_iff.mp solid)
    · cases inner with
      | nil => exact absurd ⟨before, by simpa using kept.symm⟩ unended
      | cons d inner =>
          refine ⟨before, d :: inner, kept, ?_⟩
          rw [left] at begins
          exact begins

theorem sortCut_by (unsorted : ¬"OrderBy".toList <:+: text) :
    sortCut ("By".toList ++ text) = ("By".toList ++ text, []) := by
  have absent : cutAtWord? "OrderBy".toList ("By".toList ++ text) = none := by
    refine cutAtWord?_eq_none_iff.mpr fun ⟨before, after, same, _⟩ => ?_
    match before with
    | [] => simp at same
    | [c] => simp at same
    | c :: d :: before =>
        simp only [String.reduceToList, List.cons_append, List.nil_append, List.cons.injEq] at same
        exact unsorted ⟨before, after, same.2.2.symm⟩
  rw [sortCut, absent]

theorem groups_eq_nil_iff (listed : entry ∈ Subject.words) (unsorted : ¬"OrderBy".toList <:+: predicate.toList)
    (parsed : parse (entry.1 ++ "By" ++ predicate) = .ok name) :
    name.groups = [] ↔ ¬Counts "By".toList ("By" ++ predicate).toList := by
  rw [parse_word_by listed] at parsed
  obtain ⟨ended, groups⟩ := parseRest_eq_ok (mapError_eq_ok.mp parsed)
  have solid : ∃ c, "By".toList.getLast? = some c ∧ Text.isBlank c = false := ⟨'y', rfl, rfl⟩
  have trimmed : Text.dropBlankEnd ("By" ++ predicate).toList =
      "By".toList ++ Text.dropBlankEnd predicate.toList := by
    simpa using Text.dropBlankEnd_append_solid (c := 'y') rfl ['B'] predicate.toList
  have unended : ¬"By".toList <:+ Text.dropBlankEnd ("By" ++ predicate).toList := by
    rw [trimmed, ← Text.endsWith_iff]
    exact Bool.eq_false_iff.mp ended
  have keptUnsorted : ¬"OrderBy".toList <:+: Text.dropBlankEnd predicate.toList := by
    obtain ⟨blanks, whole, -⟩ := Text.append_of_dropBlankEnd predicate.toList
    have front : Text.dropBlankEnd predicate.toList <+: predicate.toList := ⟨blanks, whole.symm⟩
    exact fun sorted => unsorted (sorted.trans front.isInfix)
  -- Blanks at the end are cut before the word is looked for, which changes nothing here.
  rw [← counts_dropBlankEnd solid unended, trimmed, ← cutAtWord?_eq_none_iff]
  rw [predicate?, sortCut_by keptUnsorted, predicateCut] at groups
  cases cut : cutAtWord? "By".toList ("By".toList ++ Text.dropBlankEnd predicate.toList) with
  | none =>
      rw [cut] at groups
      simp [← Option.some.inj groups]
  | some found =>
      rw [cut] at groups
      simp [(groups?_eq_some groups).1]

end MethodName

namespace Query

open MethodName

/-- What an accepted name with something behind its `By` means: every document, just if no new word
follows a `By` after its subject's word. -/
theorem everything_iff_predicate_unseen {entry : String × Subject} (listed : entry ∈ Subject.words) {predicate : String}
    (unsorted : ¬"OrderBy".toList <:+: predicate.toList) :
    (∀ name, parse (entry.1 ++ "By" ++ predicate) = .ok name →
      (name.groups = [] ↔ ¬Counts "By".toList ("By" ++ predicate).toList)) ∧
    ∀ resolve arguments query, compileMethod resolve (entry.1 ++ "By" ++ predicate) arguments = .ok query →
      (query.criteria = .everything ↔ ¬Counts "By".toList ("By" ++ predicate).toList) := by
  constructor
  · intro name parsed
    exact groups_eq_nil_iff listed unsorted parsed
  · intro resolve arguments query compiled
    obtain ⟨name, parsed, compiled⟩ := bind_eq_ok.mp compiled
    rw [everything_iff_of_compile (filled_of_parse parsed) compiled]
    exact groups_eq_nil_iff listed unsorted parsed

/-- A predicate behind a small word is seen. -/
theorem title_behind_small_word_seen :
    ("delete", Subject.delete) ∈ Subject.words ∧ ¬"OrderBy".toList <:+: "titleByTitle".toList ∧
      ∃ name, parse ("delete" ++ "By" ++ "titleByTitle") = .ok name ∧ name.groups ≠ [] := by
  have parsed : parse ("delete" ++ "By" ++ "titleByTitle") =
      .ok ⟨"deleteBytitleByTitle", .delete, false, none, [[⟨"Title", "Title", .is⟩]], []⟩ := by
    decide +kernel
  have unsorted : ¬"OrderBy".toList <:+: "titleByTitle".toList := by decide
  have listed : ("delete", Subject.delete) ∈ Subject.words := by decide
  have unseen := (everything_iff_predicate_unseen listed unsorted).1 _ parsed
  refine ⟨listed, unsorted, _, parsed, fun none => ?_⟩
  exact unseen.mp none ⟨"Bytitle".toList, "Title".toList, rfl, rfl⟩

/-- A delete whose predicate starts small deletes every document. -/
theorem delete_by_small_title_matches_all :
    ("delete", Subject.delete) ∈ Subject.words ∧ "title" ≠ "" ∧ ¬"OrderBy".toList <:+: "title".toList ∧
      (∃ name, parse ("delete" ++ "By" ++ "title") = .ok name ∧ name.groups = []) ∧
      ∀ resolve, ∃ query, compileMethod resolve ("delete" ++ "By" ++ "title") [] = .ok query ∧
        query.subject = .delete ∧ query.criteria = .everything ∧ ∀ document, query.criteria.holds document = true := by
  have parsed : parse ("delete" ++ "By" ++ "title") = .ok ⟨"deleteBytitle", .delete, false, none, [], []⟩ := by
    decide +kernel
  have compiled : ∀ resolve, compileMethod resolve ("delete" ++ "By" ++ "title") [] =
      .ok ⟨.delete, .everything, [], none⟩ := by
    intro resolve
    rw [compileMethod, parsed]
    rfl
  refine ⟨by decide, by decide, by decide, ⟨_, parsed, rfl⟩, fun resolve => ?_⟩
  exact ⟨_, compiled resolve, rfl, rfl, fun document => rfl⟩

end Query

end DocMapper
