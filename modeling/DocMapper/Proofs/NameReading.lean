import DocMapper.Proofs.TrimmedText
import DocMapper.Proofs.WordCuts
import Mathlib.Data.List.Forall2
/-!
How a method name is taken apart: where its properties to sort by begin, where its predicate
begins, and into which groups the predicate falls. A name that is accepted has only groups with
parts in them, and its predicate is what its parts say, joined.
-/

namespace DocMapper

theorem mapM_eq_some_iff {α β : Type} {f : α → Option β} {xs : List α} {ys : List β} :
    xs.mapM f = some ys ↔ List.Forall₂ (fun x y => f x = some y) xs ys := by
  induction xs generalizing ys with
  | nil => simp [eq_comm]
  | cons x xs ih =>
      rw [List.mapM_cons, List.forall₂_cons_left_iff]
      constructor
      · intro all
        obtain ⟨y, here, rest⟩ := Option.bind_eq_some_iff.mp all
        obtain ⟨others, later, same⟩ := Option.bind_eq_some_iff.mp rest
        exact ⟨y, others, here, ih.mp later, (Option.some.inj same).symm⟩
      · rintro ⟨y, others, here, later, rfl⟩
        simp [here, ih.mpr later]

theorem mapError_eq_ok {ε ε' α : Type} {result : Except ε α} {f : ε → ε'} {a : α} :
    result.mapError f = .ok a ↔ result = .ok a := by
  cases result <;> simp [Except.mapError]

theorem map_eq_of_mapM {α β γ : Type} {f : α → Option β} {before : α → γ} {after : β → γ} {xs : List α}
    {ys : List β} (keeps : ∀ x y, f x = some y → before x = after y) (read : xs.mapM f = some ys) :
    xs.map before = ys.map after := by
  have each := mapM_eq_some_iff.mp read
  clear read
  induction each with
  | nil => rfl
  | cons here _ ih => rw [List.map_cons, List.map_cons, keeps _ _ here, ih]

namespace MethodName

variable {text : String} {rest head predicate : List Char} {subject : Subject} {name : MethodName}

/-- What comes before the properties to sort by, and these. -/
def sortCut (rest : List Char) : List Char × List OrderPart :=
  match cutAtWord? "OrderBy".toList rest with
  | some (head, clause) => (head, orderFrom 0 [] clause)
  | none => (rest, [])

/-- What stands before the predicate, and the predicate if there is one. -/
def predicateCut (head : List Char) : List Char × Option (List Char) :=
  match cutAtWord? "By".toList head with
  | some (subjectText, predicate) => (subjectText, some predicate)
  | none => (head, none)

def readGroups : Option (List Char) → Option (List (List Part))
  | none => some []
  | some predicate => groups? predicate

/-- A name that only lacks the groups of its predicate. -/
def completed (predicate? : Option (List Char)) (made : List (List Part) → MethodName) : Except String MethodName :=
  match predicate? with
  | none => .ok (made [])
  | some predicate =>
      match groups? predicate with
      | some groups => .ok (made groups)
      | none => .error "an And/Or has nothing on one side"

theorem completed_eq (predicate? : Option (List Char)) (made : List (List Part) → MethodName) :
    completed predicate? made =
      (readGroups predicate?).elim (.error "an And/Or has nothing on one side") fun groups => .ok (made groups) := by
  cases predicate? with
  | none => rfl
  | some predicate => cases read : groups? predicate <;> simp [completed, readGroups, read]

def subjectText (rest : List Char) : List Char :=
  (predicateCut (sortCut rest).1).1

def predicate? (rest : List Char) : Option (List Char) :=
  (predicateCut (sortCut rest).1).2

theorem parseRest_eq (text : String) (subject : Subject) (rest : List Char) :
    parseRest text subject rest =
      if (rest.head?.map Text.isLower).getD false then
        .error "the subject prefix must be followed by an uppercase letter"
      else if Text.endsWith rest "By".toList then .error "it ends in 'By' with nothing to go by"
      else
        match limitOf (subjectText rest), readGroups (predicate? rest) with
        | .error reason, _ => .error reason
        | .ok _, none => .error "an And/Or has nothing on one side"
        | .ok limit, some groups => .ok {
            text, subject, limit, groups
            distinct := Text.occurs "Distinct".toList (subjectText rest)
            sort := (sortCut rest).2 } := by
  by_cases small : (rest.head?.map Text.isLower).getD false = true
  · rw [parseRest, if_pos small, if_pos small]
    rfl
  by_cases ends : Text.endsWith rest "By".toList = true
  · rw [parseRest, if_neg small, if_neg small, if_pos ends, if_pos ends]
    rfl
  -- What neither the limit nor the groups decide is the same in every outcome.
  let made (limit : Option Nat) (groups : List (List Part)) : MethodName := {
    text, subject, limit, groups
    distinct := Text.occurs "Distinct".toList (subjectText rest)
    sort := (sortCut rest).2 }
  have body : parseRest text subject rest = (do
      let limit ← limitOf (subjectText rest)
      completed (predicate? rest) (made limit)) := by
    rw [parseRest, if_neg small, if_neg ends]
    rfl
  rw [body, if_neg small, if_neg ends]
  cases limitOf (subjectText rest) with
  | error reason => rfl
  | ok limit =>
      refine (completed_eq (predicate? rest) (made limit)).trans ?_
      cases readGroups (predicate? rest) <;> rfl

theorem parseRest_made (read : parseRest text subject rest = .ok name) :
    Text.endsWith rest "By".toList = false ∧ readGroups (predicate? rest) = some name.groups ∧
      name.subject = subject ∧ name.sort = (sortCut rest).2 := by
  rw [parseRest_eq] at read
  split at read
  · cases read
  split at read
  · cases read
  next ends =>
    cases limit : limitOf (subjectText rest) with
    | error reason => simp [limit] at read
    | ok limit' =>
        cases groups : readGroups (predicate? rest) with
        | none => simp [limit, groups] at read
        | some groups' =>
            simp only [limit, groups, Except.ok.injEq] at read
            subst read
            exact ⟨Bool.eq_false_iff.mpr ends, rfl, rfl, rfl⟩

theorem parseRest_eq_ok (read : parseRest text subject rest = .ok name) :
    Text.endsWith rest "By".toList = false ∧ readGroups (predicate? rest) = some name.groups := by
  obtain ⟨ended, groups, -⟩ := parseRest_made read
  exact ⟨ended, groups⟩

/-- No two words of subjects start alike, so a name that starts with one is read with it. -/
theorem subject?_word {entry : String × Subject} (listed : entry ∈ Subject.words) (rest : List Char) :
    subject? (entry.1.toList ++ rest) = some (entry.2, rest) := by
  simp only [Subject.words, List.mem_cons, List.not_mem_nil, or_false] at listed
  rcases listed with rfl | rfl | rfl | rfl | rfl | rfl | rfl | rfl | rfl | rfl <;> rfl

theorem camelFrom_append {word : List Char} (plain : ∀ c ∈ word, c ≠ '_') (rest : List Char) :
    camelFrom false (word ++ rest) = word ++ camelFrom false rest := by
  induction word with
  | nil => rfl
  | cons c word ih =>
      rw [List.cons_append, camelFrom, if_neg (plain c List.mem_cons_self),
        ih fun d member => plain d (List.mem_cons_of_mem c member)]
      rfl

theorem camelCase_append {word : List Char} (small : ∀ c ∈ word, Text.isUpper c = false ∧ c ≠ '_')
    (rest : List Char) : camelCase (word ++ rest) = word ++ camelCase rest := by
  have lines : (word ++ rest).contains '_' = rest.contains '_' := by
    have plain : '_' ∉ word := fun member => (small _ member).2 rfl
    simp [plain]
  have capitals : (word ++ rest).any Text.isUpper = rest.any Text.isUpper := by
    rw [List.any_append, List.any_eq_false.mpr fun c member => by simp [(small c member).1], Bool.false_or]
  rw [camelCase, camelCase, lines, capitals, camelFrom_append fun c member => (small c member).2]
  split <;> rfl

theorem camelCase_of_upper {c : Char} {name : List Char} (capital : Text.isUpper c = true) (member : c ∈ name) :
    camelCase name = name := by
  rw [camelCase, if_pos]
  rw [Bool.or_eq_true]
  exact .inr (List.any_eq_true.mpr ⟨c, member, capital⟩)

theorem words_small {entry : String × Subject} (listed : entry ∈ Subject.words) : entry.1.toList ≠ [] ∧
    ∀ c ∈ entry.1.toList, Text.isBlank c = false ∧ Text.isUpper c = false ∧ c ≠ '_' := by
  have letters : ∀ entry ∈ Subject.words, entry.1.toList ≠ [] ∧
      (entry.1.toList.all fun c => !Text.isBlank c && !Text.isUpper c && c ≠ '_') = true := by decide
  obtain ⟨filled, small⟩ := letters entry listed
  refine ⟨filled, fun c member => ?_⟩
  simpa [and_assoc] using List.all_eq_true.mp small c member

/-- A name that starts with a subject's word is read after the word, without the blanks at its
end and with capitals for low lines. -/
theorem parse_word {entry : String × Subject} (listed : entry ∈ Subject.words) (rest : String) :
    parse (entry.1 ++ rest) =
      (parseRest (entry.1 ++ rest) entry.2 (camelCase (Text.dropBlankEnd rest.toList))).mapError
        (.malformedMethodName (entry.1 ++ rest)) := by
  obtain ⟨filled, small⟩ := words_small listed
  have trimmed := Text.trimChars_append filled (fun c member => (small c member).1) rest.toList
  have cased := camelCase_append (fun c member => (small c member).2) (Text.dropBlankEnd rest.toList)
  rw [parse, String.toList_append, trimmed, cased, subject?_word listed]

theorem parse_word_by {entry : String × Subject} (listed : entry ∈ Subject.words) (predicate : String) :
    parse (entry.1 ++ "By" ++ predicate) =
      (parseRest (entry.1 ++ "By" ++ predicate) entry.2 ("By".toList ++ Text.dropBlankEnd predicate.toList)).mapError
        (.malformedMethodName (entry.1 ++ "By" ++ predicate)) := by
  have solid : ("By".toList.all fun c => !Text.isBlank c) = true := by decide
  have kept : Text.dropBlankEnd ("By".toList ++ predicate.toList) = "By".toList ++ Text.dropBlankEnd predicate.toList :=
    Text.dropBlankEnd_append (fun c member => by simpa using List.all_eq_true.mp solid c member) predicate.toList
  have capital : Text.isUpper 'B' = true := by decide
  have cased : camelCase ("By".toList ++ Text.dropBlankEnd predicate.toList) =
      "By".toList ++ Text.dropBlankEnd predicate.toList :=
    camelCase_of_upper capital (List.mem_append_left _ (by decide))
  rw [String.append_assoc, parse_word listed, String.toList_append, kept, cased]

/-- The groups of a predicate have parts, and what these say joins to the predicate. -/
theorem groups?_eq_some {groups : List (List Part)} (read : groups? predicate = some groups) :
    groups ≠ [] ∧ (∀ group ∈ groups, group ≠ []) ∧
      "Or".toList.intercalate (groups.map fun group =>
        "And".toList.intercalate (group.map fun part => part.raw.toList)) = predicate := by
  have parts : ∀ piece group, ((splitAtWord "And" piece).mapM fun part =>
      if part.isEmpty then none else some (Part.ofChars part)) = some group →
      splitAtWord "And" piece = group.map fun part => part.raw.toList := by
    intro piece group read
    rw [← List.map_id (splitAtWord "And" piece)]
    refine map_eq_of_mapM (fun raw part made => ?_) read
    split at made
    · cases made
    · cases made
      exact String.toList_ofList.symm
  have texts := map_eq_of_mapM parts read
  have joined : ∀ piece, "And".toList.intercalate (splitAtWord "And" piece) = piece :=
    intercalate_splitFrom (by decide)
  refine ⟨?_, ?_, ?_⟩
  · rintro rfl
    exact splitFrom_ne_nil _ 0 predicate (List.map_eq_nil_iff.mp texts)
  · rintro group member rfl
    have cut := texts ▸ List.mem_map_of_mem member
    obtain ⟨piece, -, none⟩ := List.mem_map.mp cut
    exact splitFrom_ne_nil _ 0 piece none
  · -- Both cuts are undone by joining the pieces with the word of the cut.
    have whole := congrArg (List.map fun pieces => "And".toList.intercalate pieces) texts
    rw [List.map_map, List.map_map] at whole
    have back : (splitAtWord "Or" predicate).map (fun piece =>
        "And".toList.intercalate (splitAtWord "And" piece)) = splitAtWord "Or" predicate := by
      simp only [joined, List.map_id']
    calc "Or".toList.intercalate (groups.map fun group =>
          "And".toList.intercalate (group.map fun part => part.raw.toList))
        = "Or".toList.intercalate (splitAtWord "Or" predicate) := congrArg _ (whole.symm.trans back)
      _ = predicate := intercalate_splitFrom (by decide) predicate

theorem groups?_injective {other : List Char} {groups : List (List Part)} (read : groups? predicate = some groups)
    (alsoRead : groups? other = some groups) : predicate = other :=
  (groups?_eq_some read).2.2.symm.trans (groups?_eq_some alsoRead).2.2

/-- A predicate has room for its `By` in front. -/
theorem length_predicate? (found : predicate? rest = some predicate) : predicate.length + 2 ≤ rest.length := by
  have shorter : (sortCut rest).1.length ≤ rest.length := by
    rw [sortCut]
    cases cut : cutAtWord? "OrderBy".toList rest with
    | none => exact Nat.le_refl _
    | some pieces =>
        have long := congrArg List.length (append_of_cutAtWord? cut).1
        simp only [List.length_append] at long
        dsimp only
        omega
  rw [predicate?, predicateCut] at found
  cases cut : cutAtWord? "By".toList (sortCut rest).1 with
  | none =>
      rw [cut] at found
      cases found
  | some pieces =>
      rw [cut] at found
      have long := congrArg List.length (append_of_cutAtWord? cut).1
      rw [Option.some.inj found] at long
      simp only [String.reduceToList, List.length_append, List.length_cons, List.length_nil] at long
      omega

theorem parse_eq_ok (parsed : parse text = .ok name) :
    ∃ subject rest, subject? (camelCase (Text.trimChars text.toList)) = some (subject, rest) ∧
      parseRest text subject rest = .ok name := by
  rw [parse] at parsed
  cases found : subject? (camelCase (Text.trimChars text.toList)) with
  | none => simp [found, Except.mapError] at parsed
  | some start =>
      rw [found] at parsed
      exact ⟨start.1, start.2, rfl, mapError_eq_ok.mp parsed⟩

theorem filled_of_parse (parsed : parse text = .ok name) : ∀ group ∈ name.groups, group ≠ [] := by
  obtain ⟨subject, rest, -, read⟩ := parse_eq_ok parsed
  obtain ⟨-, groups⟩ := parseRest_eq_ok read
  cases predicate : predicate? rest with
  | none =>
      rw [predicate] at groups
      simp [← Option.some.inj groups]
  | some predicate' =>
      rw [predicate] at groups
      exact (groups?_eq_some groups).2.1

end MethodName

end DocMapper
