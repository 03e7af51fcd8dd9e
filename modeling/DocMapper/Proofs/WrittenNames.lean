import DocMapper.Proofs.LongestSpelling
import DocMapper.Proofs.NameReading
import DocMapper.Proofs.SortClauses
/-!
Writing method names and reading them back. A name is written from groups of parts and from
properties to sort by, joined by the words that reading cuts at. No property holds such a word
where reading would find it, and the spelling behind a property is the longest its text ends in.
Reading gives back what has been written, unless the name ends in `By` or in a blank.
-/

namespace DocMapper.MethodName

/-- A property as it can stand in a name: it starts with a capital, and none of the words stands at
its end or before a capital in it. -/
structure IsProperty (words : List String) (property : String) : Prop where
  ascii : ∀ c ∈ property.toList, c.toNat < 128
  capital : ∃ c rest, property.toList = c :: rest ∧ Text.isUpper c = true
  avoids : ∀ word ∈ words, Avoids word.toList property.toList

theorem IsProperty.of_head {words : List String} {property : String}
    (ascii : property.toList.all (fun c => c.toNat < 128) = true)
    (capital : property.toList.head?.map Text.isUpper = some true)
    (avoids : ∀ word ∈ words, Avoids word.toList property.toList) : IsProperty words property := by
  obtain ⟨c, first, upper⟩ := Option.map_eq_some_iff.mp capital
  obtain ⟨rest, same⟩ := List.head?_eq_some_iff.mp first
  exact ⟨by simpa using ascii, ⟨c, rest, same, upper⟩, avoids⟩

theorem IsProperty.begins {words : List String} {property : String} (isProperty : IsProperty words property) :
    beginsWord property.toList = true := by
  obtain ⟨c, rest, same, capital⟩ := isProperty.capital
  rw [same]
  simp [beginsWord, capital]

/-- A property with a spelling of a keyword behind it, the longest that the text ends in, or with
none if the property ends in none itself. -/
structure WrittenPart where
  property : String
  spelling : Option (String × Keyword)
  isProperty : IsProperty ["And", "Or", "OrderBy"] property
  longest : match spelling with
    | some entry => entry ∈ Keyword.spellings ∧ ∀ other ∈ Keyword.spellings,
        Keyword.EndsIn (property.toList ++ entry.1.toList) other.1 → other.1.length ≤ entry.1.length
    | none => ∀ other ∈ Keyword.spellings, ¬Keyword.EndsIn property.toList other.1

/-- A property to sort by, with its direction. -/
structure WrittenKey where
  property : String
  direction : Direction
  isProperty : IsProperty ["And", "Or", "OrderBy", "Asc", "Desc"] property

structure WrittenName where
  word : String × Subject
  groups : List (List WrittenPart)
  sort : List WrittenKey
  listed : word ∈ Subject.words
  any : groups ≠ []
  filled : ∀ group ∈ groups, group ≠ []

def WrittenPart.text (p : WrittenPart) : String :=
  match p.spelling with
  | some entry => p.property ++ entry.1
  | none => p.property

def WrittenPart.part (p : WrittenPart) : Part where
  raw := p.text
  property := p.property
  keyword := match p.spelling with
    | some entry => entry.2
    | none => .is

def WrittenKey.text (k : WrittenKey) : String :=
  k.property ++ k.direction.ending

def WrittenKey.orderPart (k : WrittenKey) : OrderPart :=
  ⟨k.text, k.property, k.direction⟩

def groupText (group : List WrittenPart) : String :=
  "And".intercalate (group.map WrittenPart.text)

namespace WrittenName

variable (w : WrittenName)

def predicate : String :=
  "Or".intercalate (w.groups.map groupText)

/-- What stands behind the predicate. -/
def clause : String :=
  if w.sort = [] then "" else "OrderBy" ++ String.join (w.sort.map WrittenKey.text)

def text : String :=
  w.word.1 ++ "By" ++ (w.predicate ++ w.clause)

/-- What the name says. -/
def reading : MethodName where
  text := w.text
  subject := w.word.2
  distinct := false
  limit := none
  groups := w.groups.map (·.map WrittenPart.part)
  sort := w.sort.map WrittenKey.orderPart

end WrittenName

section Parts

variable {word rest : List Char} {p : WrittenPart} {group : List WrittenPart} {entry : String × Keyword}

theorem isProperty_spelling (listed : entry ∈ Keyword.spellings) : IsProperty ["And", "Or", "OrderBy"] entry.1 := by
  have ascii : ∀ entry ∈ Keyword.spellings, entry.1.toList.all (fun c => c.toNat < 128) = true := by decide +kernel
  have capital : ∀ entry ∈ Keyword.spellings, entry.1.toList.head?.map Text.isUpper = some true := by decide +kernel
  have avoids : ∀ entry ∈ Keyword.spellings, ∀ word ∈ ["And", "Or", "OrderBy"],
      Avoids word.toList entry.1.toList := by decide +kernel
  exact .of_head (ascii entry listed) (capital entry listed) (avoids entry listed)

theorem follows_spelling (listed : entry ∈ Keyword.spellings) (rest : List Char) :
    Follows (entry.1.toList ++ rest) := by
  have other : ∀ entry ∈ Keyword.spellings, 2 ≤ entry.1.toList.length ∧ ¬"By".toList <+: entry.1.toList := by
    decide +kernel
  obtain ⟨long, notBy⟩ := other entry listed
  constructor
  · obtain ⟨c, more, same, upper⟩ := (isProperty_spelling listed).capital
    rw [same]
    simpa using upper
  · exact fun by_ => notBy (List.prefix_of_prefix_length_le by_ (List.prefix_append _ _) long)

theorem IsProperty.calm {words : List String} {property word : String} (isProperty : IsProperty words property)
    (member : word ∈ words) (joining : word.toList ∈ joiningWords) : Calm word.toList property.toList :=
  calm_of_avoids joining isProperty.ascii (isProperty.avoids word member)

theorem WrittenPart.begins (p : WrittenPart) : beginsWord p.text.toList = true := by
  obtain ⟨property, spelling, isProperty, longest⟩ := p
  cases spelling with
  | none => exact isProperty.begins
  | some entry =>
      rw [WrittenPart.text, String.toList_append]
      exact beginsWord_append isProperty.begins _

theorem WrittenPart.calm (p : WrittenPart) {word : String} (member : word ∈ ["And", "Or", "OrderBy"]) :
    Calm word.toList p.text.toList := by
  have joining : ∀ word ∈ ["And", "Or", "OrderBy"], word.toList ∈ joiningWords := by decide
  obtain ⟨property, spelling, isProperty, longest⟩ := p
  cases spelling with
  | none => exact isProperty.calm member (joining word member)
  | some entry =>
      obtain ⟨listed, -⟩ := longest
      rw [WrittenPart.text, String.toList_append]
      exact (isProperty.calm member (joining word member)).append
        ((isProperty_spelling listed).calm member (joining word member)) (follows_spelling listed)

theorem WrittenPart.ofChars_text (p : WrittenPart) : Part.ofChars p.text.toList = p.part := by
  obtain ⟨property, spelling, isProperty, longest⟩ := p
  cases spelling with
  | none =>
      have read := Keyword.split_of_none longest
      simp [Part.ofChars, WrittenPart.part, WrittenPart.text, read]
  | some entry =>
      have nonempty : property.toList ≠ [] := by
        obtain ⟨c, rest, same, -⟩ := isProperty.capital
        simp [same]
      have read := Keyword.split_of_longest longest.1 nonempty longest.2
      simp [Part.ofChars, WrittenPart.part, WrittenPart.text, read]

/-- The words that are cut at, each with words between the pieces. -/
def crossings : List (String × String) :=
  [("Or", "And"), ("OrderBy", "And"), ("OrderBy", "Or"), ("OrderBy", "By")]

/-- Before a new word, a word between pieces neither is nor starts the word that is cut at. -/
theorem quiet_joint {pair : String × String} (crossing : pair ∈ crossings) (begins : beginsWord rest = true) : Quiet pair.1.toList pair.2.toList rest := by
  cases rest with
  | nil => cases begins
  | cons c rest =>
      -- Only `Or` goes on to a longer word, and `OrderBy` goes on small.
      have notSmall : 'd' ≠ c := by
        rintro rfl
        have small : Text.isUpper 'd' = false := by decide
        simp [beginsWord, small] at begins
      simp only [crossings, List.mem_cons, List.not_mem_nil, or_false] at crossing
      rcases crossing with rfl | rfl | rfl | rfl <;> simp [Quiet, opens, Text.after?, notSmall]

theorem follows_joint {joint : String} (joins : joint ∈ ["And", "Or", "OrderBy"]) (rest : List Char) :
    Follows (joint.toList ++ rest) := by
  have capitals : Text.isUpper 'A' = true ∧ Text.isUpper 'O' = true := by decide
  simp only [List.mem_cons, List.not_mem_nil, or_false] at joins
  rcases joins with rfl | rfl | rfl <;> simp [Follows, capitals]

theorem follows_of_joint {joint : String} (joins : joint ∈ ["And", "Or", "OrderBy"])
    (after : rest = [] ∨ joint.toList <+: rest) : Follows rest := by
  rcases after with rfl | ⟨more, rfl⟩
  · simp [Follows]
  · exact follows_joint joins more

theorem toList_groupText (group : List WrittenPart) :
    (groupText group).toList = "And".toList.intercalate (group.map fun p => p.text.toList) := by
  rw [groupText, String.toList_intercalate, List.map_map]
  rfl

theorem parts_begin (group : List WrittenPart) :
    ∀ text ∈ group.map fun p => p.text.toList, beginsWord text = true :=
  List.forall_mem_map.mpr fun p _ => p.begins

theorem groupText_begins (filled : group ≠ []) : beginsWord (groupText group).toList = true := by
  rw [toList_groupText]
  exact beginsWord_intercalate (by simpa using filled) (parts_begin group)

theorem groupText_calm {word : String} (longer : word ∈ ["Or", "OrderBy"]) (group : List WrittenPart) :
    Calm word.toList (groupText group).toList := by
  have crossing : (word, "And") ∈ crossings := by simpa [crossings] using longer
  have calm : ∀ text ∈ group.map fun p => p.text.toList, Calm word.toList text :=
    List.forall_mem_map.mpr fun p _ => p.calm (List.mem_cons_of_mem _ longer)
  rw [toList_groupText]
  exact Calm.intercalate calm (parts_begin group) (follows_joint (by simp)) fun rest begins =>
    quiet_joint crossing begins

theorem splitAtWord_groupText (filled : group ≠ []) :
    splitAtWord "And" (groupText group).toList = group.map fun p => p.text.toList := by
  rw [splitAtWord, toList_groupText]
  refine splitFrom_intercalate (by decide) (by simpa using filled) (parts_begin group) ?_
  refine List.forall_mem_map.mpr fun p _ rest after => ?_
  exact p.calm (by simp) rest (follows_of_joint (by simp) after)

end Parts

namespace WrittenName

variable (w : WrittenName)

theorem toList_predicate :
    w.predicate.toList = "Or".toList.intercalate (w.groups.map fun group => (groupText group).toList) := by
  rw [predicate, String.toList_intercalate, List.map_map]
  rfl

theorem groups_begin : ∀ text ∈ w.groups.map fun group => (groupText group).toList, beginsWord text = true :=
  List.forall_mem_map.mpr fun group listed => groupText_begins (w.filled group listed)

theorem predicate_begins : beginsWord w.predicate.toList = true := by
  rw [toList_predicate]
  exact beginsWord_intercalate (by simpa using w.any) w.groups_begin

theorem predicate_calm : Calm "OrderBy".toList w.predicate.toList := by
  have crossing : ("OrderBy", "Or") ∈ crossings := by decide
  have calm : ∀ text ∈ w.groups.map fun group => (groupText group).toList, Calm "OrderBy".toList text :=
    List.forall_mem_map.mpr fun group _ => groupText_calm (by simp) group
  rw [toList_predicate]
  exact Calm.intercalate calm w.groups_begin (follows_joint (by simp)) fun rest begins => quiet_joint crossing begins

theorem splitAtWord_predicate :
    splitAtWord "Or" w.predicate.toList = w.groups.map fun group => (groupText group).toList := by
  rw [splitAtWord, toList_predicate]
  refine splitFrom_intercalate (by decide) (by simpa using w.any) w.groups_begin ?_
  refine List.forall_mem_map.mpr fun group _ rest after => ?_
  exact groupText_calm (by simp) group rest (follows_of_joint (by simp) after)

theorem groups?_predicate : groups? w.predicate.toList = some (w.groups.map (·.map WrittenPart.part)) := by
  rw [groups?, splitAtWord_predicate, mapM_eq_some_iff, List.forall₂_map_left_iff, List.forall₂_map_right_iff,
    List.forall₂_same]
  intro group listed
  rw [splitAtWord_groupText (w.filled group listed), mapM_eq_some_iff, List.forall₂_map_left_iff,
    List.forall₂_map_right_iff, List.forall₂_same]
  intro p _
  have nonempty : p.text.toList.isEmpty = false := by
    have begins := p.begins
    cases chars : p.text.toList with
    | nil => simp [chars, beginsWord] at begins
    | cons c rest => rfl
  rw [nonempty, p.ofChars_text]
  rfl

theorem keys_begin {keys : List WrittenKey} (any : keys ≠ []) :
    beginsWord (keys.flatMap fun k => k.text.toList) = true := by
  obtain ⟨k, keys, rfl⟩ := List.exists_cons_of_ne_nil any
  rw [List.flatMap_cons, WrittenKey.text, String.toList_append, List.append_assoc]
  exact beginsWord_append k.isProperty.begins _

theorem orderFrom_keys (keys : List WrittenKey) :
    orderFrom 0 [] (keys.flatMap fun k => k.text.toList) = keys.map WrittenKey.orderPart := by
  induction keys with
  | nil => rfl
  | cons k keys ih =>
      have avoids : ∀ direction : Direction, Avoids direction.ending.toList k.property.toList := by
        intro direction
        apply k.isProperty.avoids
        cases direction <;> decide
      have nonempty : k.property.toList.reverse ++ [] ≠ [] := by
        obtain ⟨c, rest, same, -⟩ := k.isProperty.capital
        simp [same]
      have ends : (keys.flatMap fun k => k.text.toList) = [] ∨
          beginsWord (keys.flatMap fun k => k.text.toList) = true := by
        by_cases last : keys = []
        · exact .inl (by rw [last, List.flatMap_nil])
        · exact .inr (keys_begin last)
      rw [List.flatMap_cons, WrittenKey.text, String.toList_append, List.append_assoc,
        orderFrom_property k.isProperty.ascii avoids (follows_ending k.direction _),
        orderFrom_ending k.direction nonempty ends, ih]
      simp [WrittenKey.orderPart, WrittenKey.text]

theorem toList_clause : w.clause.toList =
    if w.sort = [] then [] else "OrderBy".toList ++ w.sort.flatMap fun k => k.text.toList := by
  rw [clause]
  split
  · rfl
  · rw [String.toList_append, String.toList_join, List.flatMap_map]

theorem follows_clause : Follows w.clause.toList := by
  have joins : "OrderBy" ∈ ["And", "Or", "OrderBy"] := by simp
  refine follows_of_joint joins ?_
  rw [toList_clause]
  split
  · exact .inl rfl
  · exact .inr (List.prefix_append _ _)

theorem sortCut_tail : sortCut ("By".toList ++ (w.predicate.toList ++ w.clause.toList)) =
    ("By".toList ++ w.predicate.toList, w.sort.map WrittenKey.orderPart) := by
  have crossing : ("OrderBy", "By") ∈ crossings := by decide
  have quiet : Quiet "OrderBy".toList ("By".toList ++ w.predicate.toList) w.clause.toList := by
    refine quiet_append.mpr ⟨?_, w.predicate_calm _ w.follows_clause⟩
    exact quiet_joint crossing (beginsWord_append w.predicate_begins _)
  have cut := cutAtWord?_append quiet
  rw [List.append_assoc] at cut
  rw [sortCut, cut, toList_clause]
  by_cases unsorted : w.sort = []
  · simp [unsorted, cutAtWord?]
  · rw [if_neg unsorted, cutAtWord?_word (by decide) (keys_begin unsorted)]
    simp [orderFrom_keys]

theorem predicateCut_by : predicateCut ("By".toList ++ w.predicate.toList) = ([], some w.predicate.toList) := by
  rw [predicateCut, cutAtWord?_word (by decide) w.predicate_begins]

/-- A name whose end is kept, and is not `By`, is read back as written. -/
theorem parse_kept (kept : Text.dropBlankEnd (w.predicate ++ w.clause).toList = (w.predicate ++ w.clause).toList)
    (unended : ¬"By".toList <:+ "By".toList ++ (w.predicate ++ w.clause).toList) :
    parse w.text = .ok w.reading := by
  have capital : Text.isLower 'B' = false := by decide
  have cut : sortCut ("By".toList ++ (w.predicate ++ w.clause).toList) =
      ("By".toList ++ w.predicate.toList, w.sort.map WrittenKey.orderPart) := by
    rw [String.toList_append]
    exact w.sortCut_tail
  have subject : subjectText ("By".toList ++ (w.predicate ++ w.clause).toList) = [] := by
    rw [subjectText, cut, predicateCut_by]
  have predicate : predicate? ("By".toList ++ (w.predicate ++ w.clause).toList) = some w.predicate.toList := by
    rw [predicate?, cut, predicateCut_by]
  have small : ¬((("By".toList ++ (w.predicate ++ w.clause).toList).head?.map Text.isLower).getD false) = true := by
    simp [capital]
  rw [text, parse_word_by w.listed, kept, mapError_eq_ok, parseRest_eq, if_neg small,
    if_neg (mt Text.endsWith_iff.mp unended), subject, predicate, readGroups, groups?_predicate, cut]
  rfl

theorem exists_last : ∃ front c, (w.predicate ++ w.clause).toList = front ++ [c] := by
  have nonempty : (w.predicate ++ w.clause).toList ≠ [] := by
    intro none
    have begins := beginsWord_append w.predicate_begins w.clause.toList
    rw [← String.toList_append, none] at begins
    cases begins
  exact ⟨_, _, (List.dropLast_append_getLast nonempty).symm⟩

/-- Properties to sort by do not end in a blank, as their directions do not. -/
theorem clause_last (sorted : w.sort ≠ []) : ∃ front, w.clause.toList = front ++ ['c'] := by
  obtain ⟨keys, k, same⟩ : ∃ keys k, w.sort = keys ++ [k] := ⟨_, _, (List.dropLast_append_getLast sorted).symm⟩
  have written : ∃ front, k.direction.ending.toList = front ++ ['c'] := by
    cases k.direction
    · exact ⟨['A', 's'], rfl⟩
    · exact ⟨['D', 'e', 's'], rfl⟩
  obtain ⟨front, ending⟩ := written
  refine ⟨"OrderBy".toList ++ (keys.flatMap fun k => k.text.toList) ++ k.property.toList ++ front, ?_⟩
  rw [toList_clause, if_neg sorted, same]
  simp [WrittenKey.text, ending]

theorem parse_blank {front : List Char} {c : Char} (last : (w.predicate ++ w.clause).toList = front ++ [c])
    (blank : Text.isBlank c = true) : parse w.text ≠ .ok w.reading := by
  intro parsed
  have unsorted : w.sort = [] := by
    by_contra sorted
    obtain ⟨before, ends⟩ := w.clause_last sorted
    rw [String.toList_append, ends, ← List.append_assoc] at last
    have same : 'c' = c := List.singleton_inj.mp (List.append_inj' last rfl).2
    rw [← same] at blank
    exact absurd blank (by decide)
  have bare : (w.predicate ++ w.clause).toList = w.predicate.toList := by
    rw [String.toList_append, toList_clause, if_pos unsorted, List.append_nil]
  -- The blank is trimmed, so what is left of the name is too short for the groups it should have.
  rw [text, parse_word_by w.listed, mapError_eq_ok] at parsed
  obtain ⟨-, groups⟩ := parseRest_eq_ok parsed
  cases found : predicate? ("By".toList ++ Text.dropBlankEnd (w.predicate ++ w.clause).toList) with
  | none =>
      rw [found] at groups
      exact w.any (List.map_eq_nil_iff.mp (Option.some.inj groups).symm)
  | some predicate' =>
      rw [found] at groups
      have whole := length_predicate? found
      obtain ⟨blanks, kept, -⟩ := Text.append_of_dropBlankEnd front
      rw [groups?_injective groups w.groups?_predicate, ← bare, last, Text.dropBlankEnd_append_blank blank] at whole
      have shorter := congrArg List.length kept
      simp only [String.reduceToList, List.length_append, List.length_cons, List.length_nil] at whole shorter
      omega

/-- Writing a name and reading it gives the same groups and properties to sort by, just if the name
ends neither in `By` nor in a blank. -/
theorem parse_text_iff : parse w.text = .ok w.reading ↔
    ¬"By".toList <:+ w.text.toList ∧ ∀ c ∈ w.text.toList.getLast?, Text.isBlank c = false := by
  obtain ⟨front, c, last⟩ := w.exists_last
  have chars : w.text.toList = w.word.1.toList ++ ("By".toList ++ (w.predicate ++ w.clause).toList) := by
    rw [text, String.toList_append, String.toList_append, List.append_assoc]
  -- What follows the subject is no shorter than By, so the text ends in By just where that does.
  have ends : "By".toList <:+ w.text.toList ↔ "By".toList <:+ "By".toList ++ (w.predicate ++ w.clause).toList := by
    rw [chars]
    refine ⟨fun whole => ?_, fun tail => tail.trans (List.suffix_append _ _)⟩
    exact List.suffix_of_suffix_length_le whole (List.suffix_append _ _) (by simp)
  have lastChar : w.text.toList.getLast? = some c := by
    rw [chars, last, ← List.append_assoc, ← List.append_assoc, List.getLast?_concat]
  rw [lastChar, ends]
  constructor
  · intro parsed
    have solid : Text.isBlank c = false := by
      by_contra blank
      exact w.parse_blank last ((Bool.not_eq_false _).mp blank) parsed
    have kept : Text.dropBlankEnd (w.predicate ++ w.clause).toList = (w.predicate ++ w.clause).toList := by
      rw [last, Text.dropBlankEnd_of_last solid]
    rw [text, parse_word_by w.listed, kept, mapError_eq_ok] at parsed
    obtain ⟨ended, -⟩ := parseRest_eq_ok parsed
    refine ⟨mt Text.endsWith_iff.mpr (Bool.eq_false_iff.mp ended), ?_⟩
    rintro d ⟨⟩
    exact solid
  · rintro ⟨unended, solid⟩
    refine w.parse_kept ?_ unended
    rw [last, Text.dropBlankEnd_of_last (solid c rfl)]

/-- Properties that look like the words that reading cuts at. -/
def lookalikes : WrittenName where
  word := ("find", .find)
  groups := [
    [⟨"Organization", none, .of_head (by decide) (by decide) (by decide), by decide +kernel⟩,
      ⟨"Byline", some ("In", .isIn), .of_head (by decide) (by decide) (by decide), by decide +kernel⟩],
    [⟨"Android", none, .of_head (by decide) (by decide) (by decide), by decide +kernel⟩]]
  sort := [⟨"Description", .asc, .of_head (by decide) (by decide) (by decide)⟩]
  listed := by decide
  any := by simp
  filled := by simp

theorem lookalikes_read_back : lookalikes.text = "findByOrganizationAndBylineInOrAndroidOrderByDescriptionAsc" ∧
    parse lookalikes.text = .ok lookalikes.reading := by
  have written : lookalikes.text = "findByOrganizationAndBylineInOrAndroidOrderByDescriptionAsc" := by
    decide +kernel
  have last : lookalikes.text.toList.getLast? = some 'c' := by rw [written]; decide
  have unended : ¬"By".toList <:+ lookalikes.text.toList := by rw [written]; decide
  refine ⟨written, lookalikes.parse_text_iff.mpr ⟨unended, ?_⟩⟩
  rw [last]
  rintro c ⟨⟩
  rfl

/-- A property that ends in `By`. -/
def creator : WrittenName where
  word := ("find", .find)
  groups := [[⟨"CreatedBy", none, .of_head (by decide) (by decide) (by decide), by decide +kernel⟩]]
  sort := []
  listed := by decide
  any := by simp
  filled := by simp

/-- A last property that ends in `By` is taken for a `By` with nothing behind it. -/
theorem creator_refused : creator.text = "findByCreatedBy" ∧ parse creator.text ≠ .ok creator.reading ∧
    parse creator.text =
      .error (.malformedMethodName "findByCreatedBy" "it ends in 'By' with nothing to go by") := by
  have written : creator.text = "findByCreatedBy" := by decide +kernel
  have refused : parse creator.text =
      .error (.malformedMethodName "findByCreatedBy" "it ends in 'By' with nothing to go by") := by
    rw [written]
    decide +kernel
  exact ⟨written, by rw [refused]; simp, refused⟩

end WrittenName

end DocMapper.MethodName
