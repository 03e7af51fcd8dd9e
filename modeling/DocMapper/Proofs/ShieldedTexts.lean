import DocMapper.Proofs.ClauseMeaning
/-!
What a query text says character by character, escapes included. The escape character is reserved
itself, so a run of backslashes is read in pairs from the left. In the escaped form of a text every
reserved character is escaped and no other one is, and so all that is left open in the query of a
search for a text are the stars that tell where the text has to stand.
-/

namespace DocMapper.Criteria

/-- Twenty-two characters have a meaning of their own in a query text. -/
theorem isReserved_iff {c : Char} : isReserved c = true ↔
    c ∈ ['+', '-', '=', '&', '|', '>', '<', '!', '(', ')', '\x7b', '\x7d', '[', ']', '^', '\x22', '~', '*', '?', ':',
      '\\', '/'] :=
  List.contains_iff_mem

/-- A character of a query text, and whether the backslash in front of it escapes it. -/
structure Glyph where
  char : Char
  escaped : Bool
deriving DecidableEq

namespace Glyph

def written (g : Glyph) : List Char :=
  if g.escaped then ['\\', g.char] else [g.char]

/-- A character of a text that is searched for. -/
def ofChar (c : Char) : Glyph :=
  ⟨c, isReserved c⟩

/-- A star that stands for any run of characters. -/
def star : Glyph :=
  ⟨'*', false⟩

end Glyph

/-- A query text from the left: a backslash that is not escaped escapes the character behind it. -/
def glyphs : List Char → List Glyph
  | '\\' :: c :: rest => ⟨c, true⟩ :: glyphs rest
  | c :: rest => ⟨c, false⟩ :: glyphs rest
  | [] => []

theorem written_glyphs (text : List Char) : (glyphs text).flatMap Glyph.written = text := by
  induction text using glyphs.induct with
  | case1 c rest ih => simp [glyphs, Glyph.written, ih]
  | case2 c rest other ih =>
      rw [glyphs.eq_2 c rest other, List.flatMap_cons, ih]
      rfl
  | case3 => rfl

theorem glyphs_plain {c : Char} (plain : isReserved c = false) (rest : List Char) :
    glyphs (c :: rest) = ⟨c, false⟩ :: glyphs rest := by
  refine glyphs.eq_2 c rest fun d more slash => ?_
  rw [slash] at plain
  cases plain

theorem glyphs_escapeChars (text rest : List Char) :
    glyphs (escapeChars text ++ rest) = text.map Glyph.ofChar ++ glyphs rest := by
  induction text with
  | nil => rfl
  | cons c more ih =>
      have step : escapeChars (c :: more) = (if isReserved c then ['\\', c] else [c]) ++ escapeChars more := rfl
      rw [step, List.append_assoc, List.map_cons, List.cons_append, ← ih, Glyph.ofChar]
      cases reserved : isReserved c with
      | true => rfl
      | false => exact glyphs_plain reserved _

theorem glyphs_escape (text : String) : glyphs (escape text).toList = text.toList.map Glyph.ofChar := by
  have read := glyphs_escapeChars text.toList []
  rw [List.append_nil, glyphs, List.append_nil] at read
  rw [escape, String.toList_ofList, read]

namespace Place

/-- What a search at a place writes in front of the text. -/
def opening : Place → List Glyph
  | anywhere | atEnd => [.star]
  | atStart => []

/-- What a search at a place writes behind the text. -/
def closing : Place → List Glyph
  | anywhere | atStart => [.star]
  | atEnd => []

theorem glyphs_query (place : Place) (text : String) :
    glyphs (place.query text).toList = place.opening ++ glyphs (escape text).toList ++ place.closing := by
  have closed := glyphs_escapeChars text.toList ['*']
  rw [glyphs_escape]
  cases place with
  | anywhere =>
      simp only [query, escape, String.toList_append, String.toList_ofList]
      exact congrArg (Glyph.star :: ·) closed
  | atStart =>
      simp only [query, escape, String.toList_append, String.toList_ofList]
      exact closed
  | atEnd =>
      rw [query, String.toList_append]
      exact (congrArg (Glyph.star :: ·) (glyphs_escape text)).trans (List.append_nil _).symm

theorem query_injective (place : Place) {text other : String} (same : place.query text = place.query other) :
    text = other := by
  rcases query_cases same with ⟨-, same⟩ | ⟨⟨-, rfl⟩, -, rfl⟩
  · exact same
  · rfl

end Place

/-- The text of a clause that is a query string. -/
def queryText? (clause : Json) : Option String :=
  ((clause.get? "query_string").bind (Json.get? "query")).bind Json.text?

theorem queryText?_clause (place : Place) (text : String) (n : Node) :
    queryText? (clause { n with condition := place.condition text }) = some (place.query text) := by
  have written : clause { n with condition := place.condition text } =
      wildcard n.field.text (place.query text) n.boost := by
    cases place <;> rfl
  have members := withBoost_get? n.boost
    [("query", .string (place.query text)), ("fields", .array [.string n.field.text]), ("analyze_wildcard", .bool true)]
    (by decide : "boost" ≠ "query")
  have body : (wildcard n.field.text (place.query text) n.boost).get? "query_string" =
      some (withBoost n.boost [("query", .string (place.query text)), ("fields", .array [.string n.field.text]),
        ("analyze_wildcard", .bool true)]) := rfl
  rw [queryText?, written, body, Option.bind_some, members, Dict.find?_ofPairs]
  rfl

/-- A text that is searched for brings no syntax into a query: as it is written there, all its reserved
characters are escaped, without the escaping backslashes it is the text again, and only the stars of
the operator stand around it. So the query text of an operator tells the text. -/
theorem searched_text_stays_text (text : String) :
    ((glyphs (escape text).toList).flatMap Glyph.written = (escape text).toList ∧
      (∀ g ∈ glyphs (escape text).toList, isReserved g.char = true → g.escaped = true) ∧
      (glyphs (escape text).toList).map Glyph.char = text.toList) ∧
    ∀ (place : Place) (n : Node), ∃ query,
      queryText? (clause { n with condition := place.condition text }) = some query ∧
      glyphs query.toList = place.opening ++ glyphs (escape text).toList ++ place.closing ∧
      ∀ (m : Node) (other : String),
        queryText? (clause { m with condition := place.condition other }) = some query → other = text := by
  refine ⟨⟨written_glyphs _, ?_, ?_⟩, fun place n => ⟨place.query text, ?_, place.glyphs_query text, ?_⟩⟩
  · rw [glyphs_escape]
    intro g member reserved
    obtain ⟨c, -, rfl⟩ := List.mem_map.mp member
    exact reserved
  · rw [glyphs_escape, List.map_map]
    exact List.map_id _
  · exact queryText?_clause place text n
  · intro m other same
    rw [queryText?_clause] at same
    exact place.query_injective (Option.some.inj same)

/-- Two backslashes and a star, the last of them escaped. -/
example : glyphs (escape "\\\\*").toList = [⟨'\\', true⟩, ⟨'\\', true⟩, ⟨'*', true⟩] := by decide

end DocMapper.Criteria
