import DocMapper.Text.Blank
import DocMapper.Text.Pieces
/-!
Trimming leaves a text alone that has been trimmed, also when more is written behind it that
does not end in a blank. A text without a separator is one piece, and the pieces of two texts
with a separator between them are those of the one and those of the other.
-/

namespace DocMapper.Text

theorem dropBlankEnd_cons_kept {c d : Char} {rest more : List Char} (kept : dropBlankEnd rest = d :: more) :
    dropBlankEnd (c :: rest) = c :: d :: more := by
  simp [dropBlankEnd, kept]

theorem dropBlankEnd_idem (text : List Char) : dropBlankEnd (dropBlankEnd text) = dropBlankEnd text := by
  induction text with
  | nil => rfl
  | cons c rest ih =>
      cases kept : dropBlankEnd rest with
      | nil => by_cases blank : isBlank c = true <;> simp [dropBlankEnd, kept, blank]
      | cons d more =>
          rw [kept] at ih
          rw [dropBlankEnd_cons_kept kept, dropBlankEnd_cons_kept ih]

/-- Blanks at the end of a text are dropped behind its last solid character. -/
theorem dropBlankEnd_append_solid {c : Char} (solid : isBlank c = false) (front back : List Char) :
    dropBlankEnd (front ++ c :: back) = front ++ c :: dropBlankEnd back := by
  have tail : dropBlankEnd (c :: back) = c :: dropBlankEnd back := by
    cases kept : dropBlankEnd back with
    | nil => simp [dropBlankEnd, kept, solid]
    | cons d more => exact dropBlankEnd_cons_kept kept
  induction front with
  | nil => exact tail
  | cons d front ih =>
      cases kept : front ++ c :: dropBlankEnd back with
      | nil => simp at kept
      | cons e more =>
          rw [kept] at ih
          rw [List.cons_append, List.cons_append, kept, dropBlankEnd_cons_kept ih]

theorem dropBlankEnd_of_last {c : Char} (solid : isBlank c = false) (front : List Char) :
    dropBlankEnd (front ++ [c]) = front ++ [c] :=
  dropBlankEnd_append_solid solid front []

theorem dropBlankEnd_append {word : List Char} (solid : ∀ c ∈ word, isBlank c = false) (rest : List Char) :
    dropBlankEnd (word ++ rest) = word ++ dropBlankEnd rest := by
  induction word with
  | nil => rfl
  | cons c word ih =>
      have kept := dropBlankEnd_append_solid (solid c List.mem_cons_self) [] (word ++ rest)
      exact kept.trans (congrArg (c :: ·) (ih fun d member => solid d (List.mem_cons_of_mem c member)))

theorem dropBlankEnd_append_blank {c : Char} (blank : isBlank c = true) (front : List Char) :
    dropBlankEnd (front ++ [c]) = dropBlankEnd front := by
  induction front with
  | nil => simp [dropBlankEnd, blank]
  | cons d front ih => rw [List.cons_append, dropBlankEnd, dropBlankEnd, ih]

theorem append_of_dropBlankEnd (text : List Char) :
    ∃ blanks, text = dropBlankEnd text ++ blanks ∧ ∀ c ∈ blanks, isBlank c = true := by
  induction text with
  | nil => exact ⟨[], rfl, by simp⟩
  | cons c rest ih =>
      obtain ⟨blanks, whole, blank⟩ := ih
      cases kept : dropBlankEnd rest with
      | nil =>
          rw [kept, List.nil_append] at whole
          by_cases here : isBlank c = true
          · have dropped : dropBlankEnd (c :: rest) = [] := by simp [dropBlankEnd, kept, here]
            refine ⟨c :: rest, by rw [dropped]; rfl, ?_⟩
            simpa [here, whole] using blank
          · have left : dropBlankEnd (c :: rest) = [c] := by simp [dropBlankEnd, kept, here]
            exact ⟨blanks, by rw [left, whole]; rfl, blank⟩
      | cons d more =>
          refine ⟨blanks, ?_, blank⟩
          rw [dropBlankEnd_cons_kept kept, ← kept]
          exact congrArg (c :: ·) whole

theorem head_of_dropBlankEnd {text rest : List Char} {c : Char} (kept : dropBlankEnd text = c :: rest) :
    ∃ more, text = c :: more := by
  cases text with
  | nil => simp [dropBlankEnd] at kept
  | cons d more =>
      refine ⟨more, ?_⟩
      simp only [dropBlankEnd] at kept
      split at kept
      · split at kept <;> simp_all
      · simp_all

theorem dropWhile_isBlank_solid {text rest : List Char} {c : Char}
    (left : text.dropWhile isBlank = c :: rest) : isBlank c = false := by
  induction text with
  | nil => simp at left
  | cons d more ih =>
      by_cases blank : isBlank d = true
      · exact ih (by simpa [blank] using left)
      · simp only [List.dropWhile_cons, blank, Bool.false_eq_true, ↓reduceIte, List.cons.injEq] at left
        rw [← left.1]
        exact Bool.eq_false_iff.mpr blank

theorem head_of_trimChars {text rest : List Char} {c : Char} (kept : trimChars text = c :: rest) :
    isBlank c = false := by
  obtain ⟨more, left⟩ := head_of_dropBlankEnd kept
  exact dropWhile_isBlank_solid left

theorem trimChars_of_head {c : Char} (solid : isBlank c = false) (rest : List Char) :
    trimChars (c :: rest) = dropBlankEnd (c :: rest) := by
  simp [trimChars, solid]

theorem trimChars_append {word : List Char} (filled : word ≠ []) (solid : ∀ c ∈ word, isBlank c = false)
    (rest : List Char) : trimChars (word ++ rest) = word ++ dropBlankEnd rest := by
  obtain ⟨c, more, rfl⟩ := List.exists_cons_of_ne_nil filled
  rw [List.cons_append, trimChars_of_head (solid c List.mem_cons_self), ← List.cons_append,
    dropBlankEnd_append solid]

theorem trimChars_idem (text : List Char) : trimChars (trimChars text) = trimChars text := by
  cases kept : trimChars text with
  | nil => rfl
  | cons c rest =>
      rw [trimChars_of_head (head_of_trimChars kept), ← kept, trimChars, dropBlankEnd_idem]

theorem trim_idem (text : String) : trim (trim text) = trim text := by
  simp [trim, trimChars_idem]

theorem toList_of_trim {text : String} (trimmed : trim text = text) : trimChars text.toList = text.toList := by
  have chars := congrArg String.toList trimmed
  simpa [trim] using chars

theorem trim_append_solid {text suffix : String} {c : Char} {front : List Char} (trimmed : trim text = text)
    (nonempty : text ≠ "") (ends : suffix.toList = front ++ [c]) (solid : isBlank c = false) :
    trim (text ++ suffix) = text ++ suffix := by
  have kept := toList_of_trim trimmed
  cases chars : text.toList with
  | nil => exact absurd (String.toList_eq_nil_iff.mp chars) nonempty
  | cons d rest =>
      have start : isBlank d = false := head_of_trimChars (kept.trans chars)
      have whole : trimChars ((d :: rest) ++ (front ++ [c])) = (d :: rest) ++ (front ++ [c]) := by
        rw [List.cons_append, trimChars_of_head start, ← List.cons_append, ← List.append_assoc,
          dropBlankEnd_of_last solid]
      rw [trim, String.toList_append, chars, ends, whole, ← ends, ← chars, ← String.toList_append,
        String.ofList_toList]

theorem endsWith_iff {word text : List Char} : endsWith text word = true ↔ word <:+ text := by
  rw [endsWith, startsWith, ← List.reverse_prefix, Option.isSome_iff_exists]
  exact exists_congr fun rest => after?_eq_some_iff.trans eq_comm

theorem pieces_of_not_mem {separator : Char} {text : List Char} (absent : separator ∉ text) :
    pieces separator text = [text] := by
  induction text with
  | nil => rfl
  | cons c rest ih =>
      have different : c ≠ separator := fun same => absent (same ▸ List.mem_cons_self)
      have tail := ih fun member => absent (List.mem_cons_of_mem c member)
      simp [pieces, different, tail]

theorem split_of_not_mem {separator : Char} {text : String} (absent : separator ∉ text.toList) :
    split separator text = [text] := by
  simp [split, pieces_of_not_mem absent]

theorem pieces_append (separator : Char) (front back : List Char) :
    pieces separator (front ++ separator :: back) = pieces separator front ++ pieces separator back := by
  induction front with
  | nil => simp [pieces]
  | cons first rest ih =>
      by_cases same : first = separator
      · simp [pieces, same, ih]
      · cases cut : pieces separator rest with
        | nil => exact absurd cut (pieces_ne_nil separator rest)
        | cons start others => simp [pieces, same, ih, cut]

theorem mem_pieces {separator : Char} {text piece : List Char} (member : piece ∈ pieces separator text) :
    piece.Sublist text ∧ separator ∉ piece := by
  induction text generalizing piece with
  | nil =>
      obtain rfl := List.mem_singleton.mp member
      exact ⟨List.Sublist.refl [], List.not_mem_nil⟩
  | cons first rest ih =>
      by_cases same : first = separator
      · rw [pieces, if_pos same, List.mem_cons] at member
        rcases member with rfl | later
        · exact ⟨List.nil_sublist _, List.not_mem_nil⟩
        · exact ⟨(ih later).1.cons first, (ih later).2⟩
      · cases cut : pieces separator rest with
        | nil => exact absurd cut (pieces_ne_nil separator rest)
        | cons start others =>
            simp only [pieces, same, ↓reduceIte, cut, List.mem_cons] at member
            rcases member with rfl | later
            · obtain ⟨inside, clear⟩ := ih (cut ▸ List.mem_cons_self)
              exact ⟨inside.cons_cons first, List.not_mem_cons_of_ne_of_not_mem (Ne.symm same) clear⟩
            · obtain ⟨inside, clear⟩ := ih (cut ▸ List.mem_cons_of_mem start later)
              exact ⟨inside.cons first, clear⟩

end DocMapper.Text
