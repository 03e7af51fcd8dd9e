import DocMapper.Proofs.LongestSpelling
import DocMapper.Proofs.NameReading
import DocMapper.Proofs.SortClauses
/-!
Nothing of a method name is lost in reading it. What is read of an accepted name, put together
again with the words that reading cuts at, is the name: no character is dropped, none is read
twice, and every part says by its text which property it asks for and with which keyword. A part
holds no word that joins parts; a property to sort by may hold one, since the clause it stands
in is cut at directions only.
-/

namespace DocMapper

theorem exists_of_mapM {α β : Type} {f : α → Option β} {xs : List α} {ys : List β} {y : β}
    (read : xs.mapM f = some ys) (member : y ∈ ys) : ∃ x ∈ xs, f x = some y := by
  have each := mapM_eq_some_iff.mp read
  clear read
  induction each with
  | nil => cases member
  | @cons x _ xs _ here _ ih =>
      rcases List.mem_cons.mp member with rfl | later
      · exact ⟨x, List.mem_cons_self, here⟩
      · obtain ⟨x', further, read⟩ := ih later
        exact ⟨x', List.mem_cons_of_mem x further, read⟩

/-- A part that is its property with a spelling of its keyword behind it, or without one if it
asks for equality, and that no word would cut further. -/
structure Part.Spelled (part : Part) : Prop where
  property : part.property ≠ ""
  raw : (∃ spelling, (spelling, part.keyword) ∈ Keyword.spellings ∧ part.raw = part.property ++ spelling) ∨
    (part.raw = part.property ∧ part.keyword = .is)
  uncut : ∀ word ∈ ["And", "Or"], ¬MethodName.Counts word.toList part.raw.toList

/-- A property to sort by with its direction behind it, which an ascending one may lack. -/
structure OrderPart.Spelled (key : OrderPart) : Prop where
  property : key.property ≠ ""
  raw : key.raw = key.property ++ key.direction.ending ∨ (key.raw = key.property ∧ key.direction = .asc)

namespace MethodName

variable {word rest predicate p q raw piece : List Char} {text : String} {subject : Subject} {name : MethodName}

section Words

theorem counts_nil (nonempty : word ≠ []) : ¬Counts word [] := by
  rintro ⟨before, after, same, -⟩
  have empty := List.append_eq_nil_iff.mp (List.append_eq_nil_iff.mp same.symm).1
  exact nonempty empty.2

theorem Counts.of_infix (counts : Counts word p) (inside : p <:+: q) : Counts word q := by
  obtain ⟨before, after, rfl, begins⟩ := counts
  obtain ⟨left, right, rfl⟩ := inside
  exact ⟨left ++ before, after ++ right, by simp, beginsWord_append begins right⟩

theorem prefix_intercalate (joint first : List Char) (others : List (List Char)) :
    first <+: joint.intercalate (first :: others) := by
  cases others with
  | nil => simp
  | cons second others =>
      rw [List.intercalate_cons_cons, List.append_assoc]
      exact List.prefix_append _ _

theorem infix_intercalate {joint : List Char} {pieces : List (List Char)} (member : piece ∈ pieces) :
    piece <:+: joint.intercalate pieces := by
  induction pieces with
  | nil => cases member
  | cons first others ih =>
      rcases List.mem_cons.mp member with rfl | later
      · exact (prefix_intercalate joint piece others).isInfix
      · obtain ⟨second, others, rfl⟩ := List.exists_cons_of_ne_nil (List.ne_nil_of_mem later)
        rw [List.intercalate_cons_cons]
        exact (ih later).trans (List.suffix_append _ _).isInfix

theorem opens_of_first_piece (nonempty : word ≠ []) {c : Char} {first : List Char} {others : List (List Char)}
    (cut : splitFrom word 0 rest = first :: others) (here : opens word (c :: first) = true) :
    opens word (c :: rest) = true := by
  obtain ⟨tail, same, begins⟩ := opens_iff.mp here
  have starts : first <+: rest := by
    rw [← intercalate_splitFrom nonempty rest, cut]
    exact prefix_intercalate word first others
  obtain ⟨more, rfl⟩ := starts
  apply opens_iff.mpr
  refine ⟨tail ++ more, ?_, beginsWord_append begins more⟩
  rw [← List.cons_append, same, List.append_assoc]

theorem not_counts_of_mem_splitFrom (nonempty : word ≠ []) {skipped : Nat} {text : List Char}
    (member : piece ∈ splitFrom word skipped text) : ¬Counts word piece := by
  induction text generalizing skipped piece with
  | nil =>
      have empty : piece = [] := by simpa [splitFrom] using member
      exact empty ▸ counts_nil nonempty
  | cons c rest ih =>
      cases skipped with
      | succ skipped => exact ih member
      | zero =>
          rw [splitFrom_cons] at member
          split at member
          · rcases List.mem_cons.mp member with rfl | later
            · exact counts_nil nonempty
            · exact ih later
          next dull =>
            -- Without a cut the letter joins the first piece, which opens with the word only if the text does.
            obtain ⟨first, others, cut⟩ := List.exists_cons_of_ne_nil (splitFrom_ne_nil word 0 rest)
            rw [cut, List.modifyHead_cons] at member
            rcases List.mem_cons.mp member with rfl | later
            · rw [counts_cons]
              rintro (here | further)
              · exact dull (opens_of_first_piece nonempty cut here)
              · exact ih (cut ▸ List.mem_cons_self) further
            · exact ih (cut ▸ List.mem_cons_of_mem first later)

end Words

section Parts

theorem spelled_ofChars (nonempty : raw ≠ []) (uncut : ∀ word ∈ ["And", "Or"], ¬Counts word.toList raw) :
    (Part.ofChars raw).Spelled := by
  have chars : (Part.ofChars raw).raw = String.ofList raw := rfl
  rcases Keyword.split_spelled raw with ⟨entry, listed, read, property, same⟩ | read
  · refine ⟨?_, .inl ⟨entry.1, ?_, ?_⟩, ?_⟩
    · simpa [Part.ofChars] using property
    · have keyword : (Keyword.split raw).2 = entry.2 := congrArg Prod.snd read
      simpa [Part.ofChars, keyword] using listed
    · rw [← String.toList_inj]
      simpa [Part.ofChars] using same
    · simpa [chars] using uncut
  · refine ⟨?_, .inr ⟨?_, ?_⟩, ?_⟩
    · simpa [Part.ofChars, read] using nonempty
    · simp [Part.ofChars, read]
    · simp [Part.ofChars, read]
    · simpa [chars] using uncut

/-- Every part of a predicate is a piece between the words that join parts. -/
theorem spelled_of_groups? {groups : List (List Part)} (read : groups? predicate = some groups) :
    ∀ group ∈ groups, ∀ part ∈ group, part.Spelled := by
  intro group listed part member
  obtain ⟨alternative, cut, made⟩ := exists_of_mapM read listed
  obtain ⟨raw, within, filled⟩ := exists_of_mapM made member
  split at filled
  · cases filled
  next nonempty =>
    cases filled
    refine spelled_ofChars (by simpa using nonempty) ?_
    have joined : "And".toList.intercalate (splitAtWord "And" alternative) = alternative :=
      intercalate_splitFrom (by decide) alternative
    have inside : raw <:+: alternative := joined ▸ infix_intercalate within
    rintro word (_ | ⟨_, _ | ⟨_, ⟨⟩⟩⟩)
    · exact not_counts_of_mem_splitFrom (by decide) within
    · exact fun counts => not_counts_of_mem_splitFrom (by decide) cut (counts.of_infix inside)

theorem spelled_of_readGroups {predicate : Option (List Char)} {groups : List (List Part)}
    (read : readGroups predicate = some groups) : ∀ part ∈ groups.flatten, part.Spelled := by
  intro part member
  obtain ⟨group, listed, inside⟩ := List.mem_flatten.mp member
  cases predicate with
  | none =>
      obtain rfl : [] = groups := Option.some.inj read
      cases listed
  | some predicate => exact spelled_of_groups? read group listed part inside

end Parts

section Keys

theorem direction?_eq_some {text : List Char} {word : String} {direction : Direction}
    (found : direction? text = some (word, direction)) :
    word = direction.ending ∧ ∃ tail, text = word.toList ++ tail := by
  have listed := List.mem_of_find?_eq_some found
  have starts := List.find?_some found
  constructor
  · simp only [List.mem_cons, List.not_mem_nil, or_false, Prod.mk.injEq] at listed
    rcases listed with ⟨rfl, rfl⟩ | ⟨rfl, rfl⟩ <;> rfl
  · cases after : Text.after? word.toList text with
    | none => simp [after] at starts
    | some tail => exact ⟨tail, Text.after?_eq_some_iff.mp after⟩

theorem ending_eq_cons (direction : Direction) : ∃ c rest, direction.ending.toList = c :: rest := by
  cases direction <;> exact ⟨_, _, rfl⟩

theorem flatMap_orderFrom (skipped : Nat) (property rest : List Char) :
    ((orderFrom skipped property rest).flatMap fun key => key.raw.toList) = property.reverse ++ rest.drop skipped := by
  induction rest generalizing skipped property with
  | nil =>
      rw [List.drop_nil, List.append_nil]
      cases property <;> simp [orderFrom]
  | cons c rest ih =>
      cases skipped with
      | succ skipped =>
          rw [orderFrom]
          exact ih skipped property
      | zero =>
          rw [orderFrom]
          split
          · next word direction ended found =>
              -- The word of the direction begins here, and its other letters are skipped.
              obtain ⟨rfl, tail, same⟩ := direction?_eq_some found
              obtain ⟨d, more, written⟩ := ending_eq_cons direction
              have left : rest = more ++ tail := by
                rw [written] at same
                exact (List.cons.inj same).2
              have long : direction.ending.length - 1 = more.length := by
                rw [← String.length_toList, written, List.length_cons, Nat.add_sub_cancel]
              rw [List.flatMap_cons, ih, long, left, List.drop_left, List.drop_zero, ← left, same]
              simp
          · rw [ih 0 (c :: property)]
            simp

theorem spelled_of_mem_orderFrom {skipped : Nat} {property rest : List Char} {key : OrderPart}
    (member : key ∈ orderFrom skipped property rest) : key.Spelled := by
  induction rest generalizing skipped property with
  | nil =>
      cases property with
      | nil => simp [orderFrom] at member
      | cons c property =>
          obtain rfl : key = _ := by simpa [orderFrom] using member
          exact ⟨by simp, .inr ⟨rfl, rfl⟩⟩
  | cons c rest ih =>
      cases skipped with
      | succ skipped =>
          rw [orderFrom] at member
          exact ih member
      | zero =>
          rw [orderFrom] at member
          split at member
          · next word direction inside found =>
              obtain ⟨rfl, -⟩ := direction?_eq_some found
              rcases List.mem_cons.mp member with rfl | later
              · exact ⟨by simpa using inside, .inl rfl⟩
              · exact ih later
          · exact ih member

end Keys

/-- The predicate of a name, as its groups say it. -/
def predicateText (groups : List (List Part)) : List Char :=
  if groups = [] then []
  else "By".toList ++ "Or".toList.intercalate (groups.map fun group =>
    "And".toList.intercalate (group.map fun part => part.raw.toList))

/-- What stands behind the predicate of a name, as its properties to sort by say it. -/
def sortText (keys : List OrderPart) : List Char :=
  if keys = [] then [] else "OrderBy".toList ++ keys.flatMap fun key => key.raw.toList

theorem orderFrom_ne_nil {clause : List Char} (begins : beginsWord clause = true) : orderFrom 0 [] clause ≠ [] := by
  intro none
  have whole := flatMap_orderFrom 0 [] clause
  rw [none] at whole
  have empty : clause = [] := by simpa using whole.symm
  rw [empty] at begins
  cases begins

theorem eq_of_sortCut (rest : List Char) : rest = (sortCut rest).1 ++ sortText (sortCut rest).2 := by
  rw [sortCut]
  cases cut : cutAtWord? "OrderBy".toList rest with
  | none => simp [sortText]
  | some pieces =>
      obtain ⟨head, clause⟩ := pieces
      obtain ⟨whole, begins⟩ := append_of_cutAtWord? cut
      have clauseText := flatMap_orderFrom 0 [] clause
      rw [sortText, if_neg (orderFrom_ne_nil begins), clauseText, whole]
      simp

theorem spelled_of_sortCut (rest : List Char) : ∀ key ∈ (sortCut rest).2, key.Spelled := by
  rw [sortCut]
  cases cutAtWord? "OrderBy".toList rest with
  | none => simp
  | some pieces => exact fun key member => spelled_of_mem_orderFrom member

theorem eq_of_predicateCut {head : List Char} {groups : List (List Part)}
    (read : readGroups (predicateCut head).2 = some groups) : head = (predicateCut head).1 ++ predicateText groups := by
  rw [predicateCut] at read ⊢
  cases cut : cutAtWord? "By".toList head with
  | none =>
      rw [cut] at read
      obtain rfl : [] = groups := Option.some.inj read
      simp [predicateText]
  | some pieces =>
      obtain ⟨subjectText, predicate⟩ := pieces
      rw [cut] at read
      obtain ⟨any, -, joined⟩ := groups?_eq_some read
      obtain ⟨whole, -⟩ := append_of_cutAtWord? cut
      rw [predicateText, if_neg any, joined, whole, List.append_assoc]

theorem subject?_eq_some {whole : List Char} (found : subject? whole = some (subject, rest)) :
    ∃ word, (word, subject) ∈ Subject.words ∧ whole = word.toList ++ rest := by
  obtain ⟨entry, listed, read⟩ := List.exists_of_findSome?_eq_some found
  obtain ⟨after, starts, same⟩ := Option.map_eq_some_iff.mp read
  cases same
  exact ⟨entry.1, listed, Text.after?_eq_some_iff.mp starts⟩

/-- Reading a name loses nothing of it: the text of an accepted name is its subject's word, more of
its subject, the predicate that its groups say and the properties to sort by. -/
theorem read_names_whole (parsed : parse text = .ok name) :
    ∃ word subjectText, (word, name.subject) ∈ Subject.words ∧
      camelCase (Text.trimChars text.toList) =
        word.toList ++ subjectText ++ predicateText name.groups ++ sortText name.sort ∧
      (∀ group ∈ name.groups, group ≠ []) ∧
      (∀ part ∈ name.parts, part.Spelled) ∧
      ∀ key ∈ name.sort, key.Spelled := by
  obtain ⟨subject, rest, found, read⟩ := parse_eq_ok parsed
  obtain ⟨word, listed, whole⟩ := subject?_eq_some found
  obtain ⟨-, groups, rfl, sorted⟩ := parseRest_made read
  refine ⟨word, subjectText rest, listed, ?_, filled_of_parse parsed, spelled_of_readGroups groups, ?_⟩
  · calc camelCase (Text.trimChars text.toList)
        = word.toList ++ rest := whole
      _ = word.toList ++ ((sortCut rest).1 ++ sortText (sortCut rest).2) := by rw [← eq_of_sortCut]
      _ = word.toList ++ (subjectText rest ++ predicateText name.groups ++ sortText name.sort) := by
          rw [← sorted, eq_of_predicateCut groups, subjectText]
      _ = word.toList ++ subjectText rest ++ predicateText name.groups ++ sortText name.sort := by
          simp only [List.append_assoc]
  · rw [sorted]
    exact spelled_of_sortCut rest

/-- Blanks around a name are no part of it, and the low lines in it stand for capitals. -/
theorem low_lines_read_whole :
    ∃ name, parse " find_by_title_or_year_in_order_by_year_desc " = .ok name ∧
      predicateText name.groups = "ByTitleOrYearIn".toList ∧ sortText name.sort = "OrderByYearDesc".toList ∧
      ∃ word subjectText, (word, name.subject) ∈ Subject.words ∧
        camelCase (Text.trimChars " find_by_title_or_year_in_order_by_year_desc ".toList) =
          word.toList ++ subjectText ++ predicateText name.groups ++ sortText name.sort ∧
        (∀ group ∈ name.groups, group ≠ []) ∧
        (∀ part ∈ name.parts, part.Spelled) ∧
        ∀ key ∈ name.sort, key.Spelled := by
  have parsed : parse " find_by_title_or_year_in_order_by_year_desc " = .ok {
      text := " find_by_title_or_year_in_order_by_year_desc "
      subject := .find
      distinct := false
      limit := none
      groups := [[⟨"Title", "Title", .is⟩], [⟨"YearIn", "Year", .isIn⟩]]
      sort := [⟨"YearDesc", "Year", .desc⟩] } := by
    decide +kernel
  exact ⟨_, parsed, by decide +kernel, by decide +kernel, read_names_whole parsed⟩

/-- No word that joins parts cuts a clause to sort by, so one property may hold such a word. -/
theorem title_and_votes_uncut :
    ∃ name key, parse "findAllOrderByTitleAndVotes" = .ok name ∧ key ∈ name.sort ∧
      key.raw = "TitleAndVotes" ∧ Counts "And".toList key.raw.toList := by
  have parsed : parse "findAllOrderByTitleAndVotes" = .ok {
      text := "findAllOrderByTitleAndVotes"
      subject := .find
      distinct := false
      limit := none
      groups := []
      sort := [⟨"TitleAndVotes", "TitleAndVotes", .asc⟩] } := by
    decide +kernel
  have capital : beginsWord "Votes".toList = true := by decide
  exact ⟨_, _, parsed, List.mem_singleton_self _, rfl, "Title".toList, "Votes".toList, by decide, capital⟩

end MethodName

end DocMapper
