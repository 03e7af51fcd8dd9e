import DocMapper.Proofs.AddressesBelow
import DocMapper.Proofs.PercentCoding
import Mathlib.Data.List.Basic
import Mathlib.Data.List.TakeWhile
/-!
Texts that an address can carry as one segment of its path. Written at the end of an address,
a text is the last segment and can be read back from it exactly if it holds no slash, no mark
that ends the path and no break, is not one of the segments that mean a place, looks like no
escape and does not end in a blank. Nothing else can come of a text that would read back as
it: whatever the path loses of a text makes what is left shorter than the text.
-/

namespace DocMapper.Url

/-- Characters that end a segment of a path, or the path. -/
def pathMarks : List Char := ['/', '\\', '?', '#']

/-- Texts that a path holds as one of its segments. -/
structure Carried (text : List Char) : Prop where
  unmarked : ∀ c ∈ text, c ∉ pathMarks
  unbroken : ∀ c ∈ text, counts c = true
  notHere : isHere text = false
  notUp : isUp text = false
  unescaped : Percent.hasEscape text = false

/-- No blank or control character at the end. -/
def EndsSolid (text : List Char) : Prop :=
  ∀ c ∈ text.getLast?, isBlankEnd c = false

/-! ## What stays of a text -/

theorem not_mem_pathMarks_iff {c : Char} : c ∉ pathMarks ↔ isSlash true c = false ∧ c ≠ '#' ∧ c ≠ '?' := by
  simp [pathMarks, isSlash]
  tauto

theorem isMarked_of_free {text : List Char} (free : ∀ c ∈ text, c ∉ pathMarks) : isMarked text = false := by
  have noHash : '#' ∉ text := fun there => (not_mem_pathMarks_iff.mp (free '#' there)).2.1 rfl
  have noMark : '?' ∉ text := fun there => (not_mem_pathMarks_iff.mp (free '?' there)).2.2 rfl
  simp [isMarked, noHash, noMark]

theorem withoutQuery_sublist (text : List Char) : (withoutQuery text).Sublist text :=
  cutOff_fst.1.trans cutOff_fst.1

theorem isMarked_withoutQuery (text : List Char) : isMarked (withoutQuery text) = false := by
  have noHash : '#' ∉ withoutQuery text := fun there => cutOff_fst.2 (cutOff_fst.1.subset there)
  have noMark : '?' ∉ withoutQuery text := cutOff_fst.2
  simp [isMarked, noHash, noMark]

theorem cleanedEnd_sublist (text : List Char) : (cleanedEnd text).Sublist text := by
  have trimmed := List.reverse_sublist.mpr (List.dropWhile_sublist isBlankEnd (l := text.reverse))
  rw [List.reverse_reverse] at trimmed
  exact List.filter_sublist.trans trimmed

theorem dropWhile_eq_self_iff {p : Char → Bool} {text : List Char} :
    text.dropWhile p = text ↔ ∀ c ∈ text.head?, p c = false := by
  cases text <;> simp [List.dropWhile_eq_self_iff]

theorem cleanedEnd_eq_self_iff {text : List Char} :
    cleanedEnd text = text ↔ (∀ c ∈ text, counts c = true) ∧ EndsSolid text := by
  have solid : EndsSolid text ↔ text.reverse.dropWhile isBlankEnd = text.reverse := by
    rw [dropWhile_eq_self_iff, List.head?_reverse, EndsSolid]
  rw [solid]
  constructor
  · intro whole
    have counted : ∀ c ∈ cleanedEnd text, counts c = true := fun c member => List.of_mem_filter member
    rw [whole] at counted
    refine ⟨counted, ?_⟩
    apply (List.dropWhile_sublist isBlankEnd).eq_of_length_le
    have filtered : (cleanedEnd text).length ≤ (text.reverse.dropWhile isBlankEnd).reverse.length :=
      List.length_filter_le counts _
    rw [whole, List.length_reverse] at filtered
    rw [List.length_reverse]
    exact filtered
  · rintro ⟨counted, untrimmed⟩
    rw [cleanedEnd, untrimmed, List.reverse_reverse]
    exact List.filter_eq_self.mpr counted

theorem map_of_no_slash {text : List Char} (clear : ∀ c ∈ text, isSlash true c = false) :
    text.map (fun c => if isSlash true c then '/' else c) = text := by
  refine (List.map_congr_left fun c there => ?_).trans (List.map_id' text)
  rw [clear c there]
  rfl

theorem mem_cutPath {text segment : List Char} (member : segment ∈ cutPath true text) :
    segment.Sublist text ∧ ∀ c ∈ segment, isSlash true c = false := by
  obtain ⟨inside, clear⟩ := Text.mem_pieces member
  obtain ⟨part, within, rfl⟩ := List.sublist_map_iff.mp inside
  have plain : ∀ c ∈ part, isSlash true c = false := by
    intro c there
    by_contra slash
    apply clear
    exact List.mem_map.mpr ⟨c, there, if_pos (Bool.not_eq_false _ ▸ slash)⟩
  rw [map_of_no_slash plain]
  exact ⟨within, plain⟩

theorem cutPath_of_no_slash {text : List Char} (clear : ∀ c ∈ text, isSlash true c = false) :
    cutPath true text = [text] := by
  have absent : '/' ∉ text := by
    intro there
    cases clear '/' there
  rw [cutPath, map_of_no_slash clear, Text.pieces_of_not_mem absent]

theorem endSegments_append {front : List Char} (unmarked : isMarked front = false) (back : List Char) :
    endSegments (front ++ '/' :: back) = cutPath true (front.filter counts) ++ endSegments back := by
  have absent : '#' ∉ front ∧ '?' ∉ front := by simpa [isMarked] using unmarked
  have slashed : isMarked (front.filter counts ++ ['/']) = false := by simp [isMarked, absent]
  have goes := withoutQuery_of_unmarked slashed (cleanedEnd back)
  rw [List.append_assoc, List.append_assoc, List.singleton_append, List.singleton_append] at goes
  rw [endSegments, cleanedEnd_append rfl, goes, cutPath_append, endSegments]

/-! ## One segment -/

theorem endSegments_of_carried {text : List Char} (carried : Carried text) (solid : EndsSolid text) :
    endSegments text = [text] := by
  have cleaned : cleanedEnd text = text := cleanedEnd_eq_self_iff.mpr ⟨carried.unbroken, solid⟩
  have whole : withoutQuery text = text := by
    have nothing : withoutQuery [] = [] := rfl
    simpa [nothing] using withoutQuery_of_unmarked (isMarked_of_free carried.unmarked) []
  have clear (c : Char) (there : c ∈ text) := (not_mem_pathMarks_iff.mp (carried.unmarked c there)).1
  rw [endSegments, cleaned, whole, cutPath_of_no_slash clear]

theorem follow_of_carried {text : List Char} (carried : Carried text) (solid : EndsSolid text) (path : List String) :
    follow path (endSegments text) = encodeSegment text :: path := by
  rw [endSegments_of_carried carried solid, follow, carried.notUp, carried.notHere]
  rfl

/-- What a path ends in after some segments: nothing, or the last of them. -/
theorem head_follow {segments : List (List Char)} (any : segments ≠ []) (path : List String) :
    (∃ rest, follow path segments = "" :: rest) ∨
      ∃ last ∈ segments, isHere last = false ∧ isUp last = false ∧
        ∃ rest, follow path segments = encodeSegment last :: rest := by
  rw [← List.dropLast_append_getLast any, follow_append (List.cons_ne_nil _ _)]
  rw [follow]
  split
  · exact .inl ⟨_, rfl⟩
  · next notUp =>
      split
      · exact .inl ⟨_, rfl⟩
      · next notHere =>
          right
          refine ⟨segments.getLast any, by simp, Bool.eq_false_iff.mpr notHere, Bool.eq_false_iff.mpr notUp, _, rfl⟩

theorem decodeText?_encodeSegment {segment : List Char} {text : String} :
    Percent.decodeText? (encodeSegment segment).toList = some text ↔
      Percent.decode segment = Percent.bytes text.toList := by
  rw [encodeSegment, String.toList_ofList, Percent.decodeText?_eq_some_iff, Percent.decode_encode]

theorem read_of_carried {text : String} (carried : Carried text.toList) :
    Percent.decodeText? (encodeSegment text.toList).toList = some text :=
  decodeText?_encodeSegment.mpr (Percent.decode_of_no_escape carried.unescaped)

/-- Only a text that can be carried is read back from the end of the path it is written behind. -/
theorem carried_of_read {text : String} {path rest : List String} {last : String}
    (ends : follow path (endSegments text.toList) = last :: rest)
    (read : Percent.decodeText? last.toList = some text) : Carried text.toList ∧ EndsSolid text.toList := by
  rcases head_follow (cutPath_ne_nil true (withoutQuery (cleanedEnd text.toList))) path with
    ⟨_, nothing⟩ | ⟨segment, member, notHere, notUp, _, written⟩
  · obtain ⟨rfl, -⟩ := List.cons.inj (nothing.symm.trans ends)
    have empty : Percent.bytes text.toList = Percent.bytes [] := (Percent.decodeText?_eq_some_iff.mp read).symm
    rw [Percent.bytes_inj.mp empty]
    exact ⟨⟨by simp, by simp, rfl, rfl, rfl⟩, by simp [EndsSolid]⟩
  · obtain ⟨rfl, -⟩ := List.cons.inj (written.symm.trans ends)
    have decoded := decodeText?_encodeSegment.mp read
    obtain ⟨within, clear⟩ := mem_cutPath member
    have left := withoutQuery_sublist (cleanedEnd text.toList)
    have cleaned := cleanedEnd_sublist text.toList
    -- Every part of the text is no longer than the text, so reading it back leaves no room for an escape.
    obtain ⟨rfl, unescaped⟩ :=
      Percent.eq_of_decode decoded (Percent.bytes_length_le (within.trans (left.trans cleaned)))
    have counted : cleanedEnd text.toList = text.toList := cleaned.antisymm (within.trans left)
    rw [counted] at left within
    have whole : withoutQuery text.toList = text.toList := left.antisymm within
    have unmarked := isMarked_withoutQuery text.toList
    rw [whole, isMarked, Bool.or_eq_false_iff] at unmarked
    obtain ⟨counts, solid⟩ := cleanedEnd_eq_self_iff.mp counted
    refine ⟨⟨fun c there => ?_, counts, notHere, notUp, unescaped⟩, solid⟩
    refine not_mem_pathMarks_iff.mpr ⟨clear c there, ?_, ?_⟩
    · rintro rfl
      simp [there] at unmarked
    · rintro rfl
      simp [there] at unmarked

end DocMapper.Url
