import DocMapper.Criteria.Evaluate
import DocMapper.Criteria.Render
/-!
Searches for a text at a place, and the query texts they are written as. A query text is read
back mark by mark: an escaped character stands for itself and a bare star is open. So the query
tells the text and the place, except that a search for the empty text at the start looks like one
at the end; those two find the same.
-/

namespace DocMapper.Criteria

inductive Place where
  | anywhere
  | atStart
  | atEnd
deriving DecidableEq

namespace Place

def condition (text : String) : Place → Condition
  | anywhere => .contains text
  | atStart => .startsWith text
  | atEnd => .endsWith text

def query (text : String) : Place → String
  | anywhere => "*" ++ escape text ++ "*"
  | atStart => escape text ++ "*"
  | atEnd => "*" ++ escape text

end Place

/-- What a query text asks for, character by character; nothing is where anything may stand. -/
def marks : List Char → List (Option Char)
  | '\\' :: c :: rest => some c :: marks rest
  | '*' :: rest => none :: marks rest
  | c :: rest => some c :: marks rest
  | [] => []

theorem marks_cons {c : Char} (plain : isReserved c = false) (rest : List Char) :
    marks (c :: rest) = some c :: marks rest := by
  have slash : c ≠ '\\' := by
    rintro rfl
    exact absurd plain (by decide)
  have star : c ≠ '*' := by
    rintro rfl
    exact absurd plain (by decide)
  rw [marks.eq_def]
  split <;> simp_all

theorem marks_escapeChars (text rest : List Char) :
    marks (escapeChars text ++ rest) = text.map some ++ marks rest := by
  induction text with
  | nil => rfl
  | cons c more ih =>
      have step : escapeChars (c :: more) = (if isReserved c then ['\\', c] else [c]) ++ escapeChars more := rfl
      rw [step, List.map_cons, List.cons_append, ← ih]
      cases reserved : isReserved c with
      | true => rfl
      | false => exact marks_cons reserved _

namespace Place

def marked (text : List Char) : Place → List (Option Char)
  | anywhere => none :: (text.map some ++ [none])
  | atStart => text.map some ++ [none]
  | atEnd => none :: text.map some

theorem marks_query (text : String) (place : Place) :
    marks (place.query text).toList = place.marked text.toList := by
  have alone := marks_escapeChars text.toList []
  have closed := marks_escapeChars text.toList ['*']
  rw [List.append_nil] at alone
  cases place with
  | anywhere =>
      simp only [query, escape, String.toList_append, String.toList_ofList]
      exact congrArg (none :: ·) closed
  | atStart =>
      simp only [query, escape, String.toList_append, String.toList_ofList]
      exact closed
  | atEnd =>
      simp only [query, escape, String.toList_append, String.toList_ofList]
      exact congrArg (none :: ·) (alone.trans (List.append_nil _))

theorem none_not_mem (text : List Char) : none ∉ text.map some := by
  simp

theorem marked_unlike_anywhere {place : Place} {text text' : List Char} (other : place ≠ anywhere) :
    anywhere.marked text ≠ place.marked text' := by
  intro same
  cases place with
  | anywhere => exact other rfl
  | atStart =>
      have fronts : none :: text.map some = text'.map some := List.append_cancel_right same
      exact none_not_mem text' (fronts ▸ List.mem_cons_self)
  | atEnd =>
      have rests := List.tail_eq_of_cons_eq same
      exact none_not_mem text' (rests ▸ List.mem_append_right _ List.mem_cons_self)

theorem marked_atStart_atEnd {text text' : List Char} (same : atStart.marked text = atEnd.marked text') :
    text = [] ∧ text' = [] := by
  cases text with
  | nil => exact ⟨rfl, List.map_eq_nil_iff.mp (List.tail_eq_of_cons_eq same).symm⟩
  | cons c rest => cases List.head_eq_of_cons_eq same

theorem map_some_injective {text text' : List Char} (same : text.map some = text'.map some) : text = text' :=
  (List.map_inj_right fun _ _ => Option.some.inj).mp same

theorem marked_injective {place : Place} {text text' : List Char}
    (same : place.marked text = place.marked text') : text = text' := by
  cases place with
  | anywhere => exact map_some_injective (List.append_cancel_right (List.tail_eq_of_cons_eq same))
  | atStart => exact map_some_injective (List.append_cancel_right same)
  | atEnd => exact map_some_injective (List.tail_eq_of_cons_eq same)

/-- A query text tells what is searched where, but for the empty text. -/
theorem query_cases {place place' : Place} {text text' : String}
    (same : place.query text = place'.query text') :
    place = place' ∧ text = text' ∨
      (place ≠ anywhere ∧ text = "") ∧ (place' ≠ anywhere ∧ text' = "") := by
  -- Equal texts have equal marks, and those show at which ends a star stands.
  have marks := congrArg (fun query => marks query.toList) same
  simp only [marks_query] at marks
  by_cases places : place = place'
  · subst place'
    exact .inl ⟨rfl, String.toList_inj.mp (marked_injective marks)⟩
  · cases place with
    | anywhere => exact absurd marks (marked_unlike_anywhere (Ne.symm places))
    | atStart =>
        cases place' with
        | anywhere => exact absurd marks.symm (marked_unlike_anywhere places)
        | atStart => exact absurd rfl places
        | atEnd =>
            obtain ⟨left, right⟩ := marked_atStart_atEnd marks
            exact .inr ⟨⟨by decide, String.toList_eq_nil_iff.mp left⟩, by decide, String.toList_eq_nil_iff.mp right⟩
    | atEnd =>
        cases place' with
        | anywhere => exact absurd marks.symm (marked_unlike_anywhere places)
        | atStart =>
            obtain ⟨left, right⟩ := marked_atStart_atEnd marks.symm
            exact .inr ⟨⟨by decide, String.toList_eq_nil_iff.mp right⟩, by decide, String.toList_eq_nil_iff.mp left⟩
        | atEnd => exact absurd rfl places

theorem valueHolds_empty {place : Place} (fixed : place ≠ anywhere) (actual : Json) :
    valueHolds (place.condition "") actual = actual.text?.isSome := by
  cases place with
  | anywhere => exact absurd rfl fixed
  | atStart => cases actual <;> rfl
  | atEnd => cases actual <;> rfl

theorem fieldHolds_condition (place : Place) (text : String) (actual : Json) :
    fieldHolds (place.condition text) actual = anyValue actual (valueHolds (place.condition text)) := by
  cases place <;> rfl

theorem fieldHolds_congr {place place' : Place} {text text' : String}
    (same : place.query text = place'.query text') (actual : Json) :
    fieldHolds (place.condition text) actual = fieldHolds (place'.condition text') actual := by
  rcases query_cases same with ⟨rfl, rfl⟩ | ⟨⟨fixed, rfl⟩, fixed', rfl⟩
  · rfl
  · rw [fieldHolds_condition, fieldHolds_condition, funext (valueHolds_empty fixed),
      funext (valueHolds_empty fixed')]

end Place

end DocMapper.Criteria
