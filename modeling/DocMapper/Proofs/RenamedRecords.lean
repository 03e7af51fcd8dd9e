import DocMapper.DocumentType.Renaming
import DocMapper.Proofs.SiblingNames
import Mathlib.Data.List.Nodup
/-!
Records that become documents and come back, and documents that become records and come back.
One rule decides both: at every object that the fields of the type lead to, each key has to
return. A key that some field answers to returns if the new name finds that field again, any
other key if no field answers to it in the new names either. Engine names tell siblings apart,
so what a record risks is a key of its own that is an engine name. Two fields may share a name
in the application, and then a document loses what it has in the second of them.
-/

namespace DocMapper

/-- The members of every object in a value are in key order. -/
inductive Json.Ordered : Json → Prop where
  | null : Ordered .null
  | bool (b : Bool) : Ordered (.bool b)
  | number (n : Number) : Ordered (.number n)
  | string (text : String) : Ordered (.string text)
  | array {items : List Json} (each : ∀ item ∈ items, Ordered item) : Ordered (.array items)
  | object {members : Dict Json} (keys : Dict.Ordered members) (each : ∀ entry ∈ members, Ordered entry.2) :
      Ordered (.object members)

theorem map_eq_self_iff {α : Type} {f : α → α} {xs : List α} : xs.map f = xs ↔ ∀ x ∈ xs, f x = x := by
  simpa using List.map_inj_left (l := xs) (f := f) (g := id)

namespace DocumentType

variable {n : Naming} {fields level : List Field} {members : Dict Json} {items : List Json} {value : Json}
  {key : String} {f : Field}

def Naming.other : Naming → Naming
  | .toEngine => .fromEngine
  | .fromEngine => .toEngine

@[simp] theorem Naming.other_source (n : Naming) (f : Field) : n.other.source f = n.target f := by
  cases n <;> rfl

@[simp] theorem Naming.other_target (n : Naming) (f : Field) : n.other.target f = n.source f := by
  cases n <;> rfl

theorem Naming.mem_of_find? (found : n.find? fields key = some f) : f ∈ fields :=
  List.mem_of_find?_eq_some found

theorem Naming.source_of_find? (found : n.find? fields key = some f) : n.source f = key := by
  simpa using List.find?_some found

theorem Naming.find?_eq_none_iff : n.find? fields key = none ↔ ∀ f ∈ fields, n.source f ≠ key := by
  simp [Naming.find?]

theorem SiblingsDiffer.find? (differ : SiblingsDiffer fields) (member : f ∈ fields) :
    Naming.fromEngine.find? fields f.engineName = some f :=
  differ.find?_engineName member

/-! ## One renaming -/

def renamedKey (n : Naming) (fields : List Field) (key : String) : String :=
  match n.find? fields key with
  | some f => n.target f
  | none => key

def renameMember (n : Naming) (fields : List Field) (member : String × Json) : String × Json :=
  match n.find? fields member.1 with
  | some f => (n.target f, rename n f.properties member.2)
  | none => member

theorem renameMember_key (n : Naming) (fields : List Field) (member : String × Json) :
    (renameMember n fields member).1 = renamedKey n fields member.1 := by
  rw [renameMember, renamedKey]
  cases n.find? fields member.1 <;> rfl

theorem renameMembers_eq (renamed : Dict Json) (members : List (String × Json)) :
    renameMembers n fields renamed members =
      (members.map (renameMember n fields)).foldl (fun d entry => Dict.put entry.1 entry.2 d) renamed := by
  induction members generalizing renamed with
  | nil => rfl
  | cons member rest ih =>
      rw [renameMembers, List.map_cons, List.foldl_cons, renameMember]
      cases n.find? fields member.1 with
      | none => exact ih _
      | some f => exact ih _

theorem rename_object (members : Dict Json) :
    rename n fields (.object members) = .object (Dict.ofPairs (members.map (renameMember n fields))) := by
  rw [rename, renameMembers_eq, Dict.ofPairs]

theorem rename_array (items : List Json) :
    rename n fields (.array items) = .array (items.map (rename n fields)) := by
  have each : ∀ items, renameItems n fields items = items.map (rename n fields) := by
    intro items
    induction items with
    | nil => rfl
    | cons item rest ih => rw [renameItems, ih, List.map_cons]
  rw [rename, each]

/-! ## There and back -/

/-- The field that a key names is the one its new name finds, or nobody answers to the key
in either naming. -/
def Returns (n : Naming) (fields : List Field) (key : String) : Prop :=
  match n.find? fields key with
  | some f => n.other.find? fields (n.target f) = some f
  | none => n.other.find? fields key = none

theorem Returns.back (returns : Returns n fields key) :
    renamedKey n.other fields (renamedKey n fields key) = key := by
  rw [Returns] at returns
  rw [renamedKey, renamedKey]
  cases found : n.find? fields key with
  | none =>
      rw [found] at returns
      rw [returns]
  | some f =>
      rw [found] at returns
      dsimp only at returns ⊢
      rw [returns]
      exact (Naming.other_target n f).trans (Naming.source_of_find? found)

theorem returns_of_back (differ : SiblingsDiffer fields) {start : String}
    (back : renamedKey n.other fields (renamedKey n fields start) = key) : Returns n fields key := by
  -- The last renaming took the key from a field that answers to it, or left it alone.
  rw [renamedKey] at back
  cases last : n.other.find? fields (renamedKey n fields start) with
  | some g =>
      rw [last] at back
      have answers : n.source g = key := by simpa using back
      have listed := Naming.mem_of_find? last
      cases found : n.find? fields key with
      | none => exact absurd answers (Naming.find?_eq_none_iff.mp found g listed)
      | some f =>
          rw [Returns, found]
          cases n with
          | toEngine => exact differ.find? (Naming.mem_of_find? found)
          | fromEngine =>
              have same : f = g := by
                have here := differ.find? listed
                rw [show g.engineName = key from answers, found] at here
                exact Option.some.inj here
              have named : renamedKey .fromEngine fields start = g.name := (Naming.source_of_find? last).symm
              rw [named] at last
              rw [same]
              exact last
  | none =>
      rw [last] at back
      have kept : renamedKey n fields start = key := back
      rw [kept] at last
      rw [renamedKey] at kept
      cases first : n.find? fields start with
      | some f =>
          -- The first renaming would have led to a name that some field answers to.
          rw [first] at kept
          have named : n.other.source f = key := by simpa using kept
          exact absurd named (Naming.find?_eq_none_iff.mp last f (Naming.mem_of_find? first))
      | none =>
          rw [first] at kept
          cases kept
          rw [Returns, first]
          exact last

theorem renameMember_back {member : String × Json} (returns : Returns n fields member.1) :
    renameMember n.other fields (renameMember n fields member) = (member.1,
      match n.find? fields member.1 with
      | some f => rename n.other f.properties (rename n f.properties member.2)
      | none => member.2) := by
  rw [Returns] at returns
  cases found : n.find? fields member.1 with
  | none =>
      rw [found] at returns
      dsimp only at returns ⊢
      have kept : renameMember n fields member = member := by rw [renameMember, found]
      rw [kept, renameMember, returns]
  | some f =>
      rw [found] at returns
      dsimp only at returns ⊢
      have renamed : renameMember n fields member = (n.target f, rename n f.properties member.2) := by
        rw [renameMember, found]
      rw [renamed, renameMember, returns]
      dsimp only
      rw [Naming.other_target, Naming.source_of_find? found]

theorem rename_object_back (returns : ∀ key ∈ Dict.keys members, Returns n fields key)
    (ordered : Dict.Ordered members) :
    rename n.other fields (rename n fields (.object members)) =
      .object (members.map fun member => renameMember n.other fields (renameMember n fields member)) := by
  let there := members.map (renameMember n fields)
  have keys : ∀ member ∈ members,
      (renameMember n.other fields (renameMember n fields member)).1 = member.1 := by
    intro member listed
    rw [renameMember_key, renameMember_key]
    exact (returns _ (List.mem_map_of_mem listed)).back
  have distinct : (there.map Prod.fst).Nodup := by
    -- Two members with one new key would have had one key before.
    refine List.Nodup.of_map (renamedKey n.other fields) ?_
    have before : (there.map Prod.fst).map (renamedKey n.other fields) = Dict.keys members := by
      rw [List.map_map, List.map_map, Dict.keys]
      refine List.map_congr_left fun member listed => ?_
      exact (renameMember_key ..).symm.trans (keys member listed)
    rw [before]
    exact ordered.keys_nodup
  have perm : ((Dict.ofPairs there).map (renameMember n.other fields)).Perm
      (members.map fun member => renameMember n.other fields (renameMember n fields member)) := by
    have entries := (Dict.perm_ofPairs distinct).map (renameMember n.other fields)
    rwa [List.map_map] at entries
  have still : Dict.Ordered
      (members.map fun member => renameMember n.other fields (renameMember n fields member)) := by
    refine List.pairwise_map.mpr (ordered.imp_of_mem fun first second before => ?_)
    rw [keys _ first, keys _ second]
    exact before
  rw [rename_object, rename_object, still.ofPairs_of_perm perm]

theorem object_back_iff (differ : SiblingsDiffer fields) (ordered : Dict.Ordered members) :
    rename n.other fields (rename n fields (.object members)) = .object members ↔
      (∀ key ∈ Dict.keys members, Returns n fields key) ∧
        ∀ member ∈ members, ∀ f, n.find? fields member.1 = some f →
          rename n.other f.properties (rename n f.properties member.2) = member.2 := by
  have values (returns : ∀ key ∈ Dict.keys members, Returns n fields key) :
      rename n.other fields (rename n fields (.object members)) = .object members ↔
        ∀ member ∈ members, ∀ f, n.find? fields member.1 = some f →
          rename n.other f.properties (rename n f.properties member.2) = member.2 := by
    rw [rename_object_back returns ordered, Json.object.injEq, map_eq_self_iff]
    refine forall₂_congr fun member listed => ?_
    rw [renameMember_back (returns _ (List.mem_map_of_mem listed)), Prod.ext_iff]
    cases n.find? fields member.1 with
    | none => simp
    | some f => simp
  constructor
  · intro back
    have returns : ∀ key ∈ Dict.keys members, Returns n fields key := by
      intro key there
      rw [rename_object, rename_object, Json.object.injEq] at back
      rw [← back] at there
      -- The key was written by the second renaming, from a key that the first one wrote.
      obtain ⟨entry, written, rfl⟩ := List.mem_map.mp there
      obtain ⟨middle, stored, rfl⟩ := List.mem_map.mp (Dict.mem_of_mem_ofPairs written)
      obtain ⟨start, -, rfl⟩ := List.mem_map.mp (Dict.mem_of_mem_ofPairs stored)
      rw [renameMember_key, renameMember_key]
      exact returns_of_back differ rfl
    exact ⟨returns, (values returns).mp back⟩
  · rintro ⟨returns, each⟩
    exact (values returns).mpr each

theorem array_back_iff :
    rename n.other fields (rename n fields (.array items)) = .array items ↔
      ∀ item ∈ items, rename n.other fields (rename n fields item) = item := by
  rw [rename_array, rename_array, List.map_map, Json.array.injEq, map_eq_self_iff]
  rfl

/-- The objects that the fields of a type lead to, and the fields at each of them. -/
inductive Reaches (n : Naming) : List Field → Json → List Field → Dict Json → Prop where
  | here {fields : List Field} {members : Dict Json} : Reaches n fields (.object members) fields members
  | item {fields level : List Field} {items : List Json} {item : Json} {members : Dict Json} (listed : item ∈ items)
      (further : Reaches n fields item level members) : Reaches n fields (.array items) level members
  | property {fields level : List Field} {outer members : Dict Json} {entry : String × Json} {f : Field}
      (listed : entry ∈ outer) (found : n.find? fields entry.1 = some f)
      (further : Reaches n f.properties entry.2 level members) : Reaches n fields (.object outer) level members

theorem Reaches.differ (reached : Reaches n fields value level members) (differ : SiblingsDiffer fields) :
    SiblingsDiffer level := by
  induction reached with
  | here => exact differ
  | item listed further ih => exact ih differ
  | property listed found further ih => exact ih (differ.properties (Naming.mem_of_find? found))

/-- A value comes back just if all keys return that the fields lead to. -/
theorem rename_back_iff (differ : SiblingsDiffer fields) (ordered : value.Ordered) :
    rename n.other fields (rename n fields value) = value ↔
      ∀ level members, Reaches n fields value level members → ∀ key ∈ Dict.keys members, Returns n level key := by
  -- On the document; entering a member moves on to the fields below it.
  induction ordered generalizing fields with
  | null | bool | number | string =>
      refine iff_of_true (by simp [rename]) ?_
      rintro level members ⟨⟩
  | array each ih =>
      rw [array_back_iff]
      constructor
      · rintro back level members (_ | ⟨listed, further⟩ | _)
        exact (ih _ listed differ).mp (back _ listed) _ _ further
      · intro returns item listed
        exact (ih item listed differ).mpr fun level members further => returns level members (.item listed further)
  | object keys each ih =>
      rw [object_back_iff differ keys]
      constructor
      · rintro ⟨returns, back⟩ level members (_ | _ | ⟨listed, found, further⟩)
        · exact returns
        · have below := differ.properties (Naming.mem_of_find? found)
          exact (ih _ listed below).mp (back _ listed _ found) _ _ further
      · intro returns
        refine ⟨returns _ _ .here, fun member listed f found => ?_⟩
        have below := differ.properties (Naming.mem_of_find? found)
        exact (ih member listed below).mpr fun level members further =>
          returns level members (.property listed found further)

/-! ## Records and documents -/

theorem returns_toEngine_iff (differ : SiblingsDiffer level) :
    Returns .toEngine level key ↔ ((∀ f ∈ level, f.name ≠ key) → ∀ f ∈ level, f.engineName ≠ key) := by
  rw [Returns]
  cases found : Naming.toEngine.find? level key with
  | none =>
      have undeclared := Naming.find?_eq_none_iff.mp found
      exact Naming.find?_eq_none_iff.trans ⟨fun clear _ => clear, fun clear => clear undeclared⟩
  | some f =>
      have listed := Naming.mem_of_find? found
      exact iff_of_true (differ.find? listed) fun undeclared => absurd (Naming.source_of_find? found) (undeclared f listed)

theorem returns_fromEngine_iff (differ : SiblingsDiffer level) :
    Returns .fromEngine level key ↔ ((∀ f ∈ level, f.engineName ≠ key) → ∀ f ∈ level, f.name ≠ key) ∧
      ∀ f ∈ level, f.engineName = key → level.find? (fun g => g.name = f.name) = some f := by
  rw [Returns]
  cases found : Naming.fromEngine.find? level key with
  | none =>
      have undeclared := Naming.find?_eq_none_iff.mp found
      refine Naming.find?_eq_none_iff.trans ⟨fun clear => ⟨fun _ => clear, ?_⟩, fun clear => clear.1 undeclared⟩
      exact fun f listed answers => absurd answers (undeclared f listed)
  | some f =>
      have listed := Naming.mem_of_find? found
      have answers : f.engineName = key := Naming.source_of_find? found
      refine ⟨fun first => ⟨fun undeclared => absurd answers (undeclared f listed), ?_⟩, fun clear => clear.2 f listed answers⟩
      rintro g member rfl
      -- Only one field of a level answers to an engine name.
      rw [differ.find? member] at found
      cases found
      exact first

variable {env : Environment} {config : TypeConfig} {t : DocumentType}

theorem fromEngine_toEngine (built : build env config = .ok t) {record : Json} (ordered : record.Ordered)
    (own : ∀ level members, Reaches .toEngine t.fields record level members → ∀ key ∈ Dict.keys members,
      (∀ f ∈ level, f.name ≠ key) → ∀ f ∈ level, f.engineName ≠ key) :
    t.fromEngine (t.toEngine record) = record := by
  have differ := build_differ built
  refine (rename_back_iff (n := .toEngine) differ ordered).mpr fun level members reached key there => ?_
  exact (returns_toEngine_iff (reached.differ differ)).mpr (own level members reached key there)

/-- A record comes back from its document just if no key of its own, at any object that the fields
of its type lead to, is the engine name of a field there. -/
theorem record_comes_back_iff (built : build env config = .ok t) {record : Json} (ordered : record.Ordered) :
    t.fromEngine (t.toEngine record) = record ↔
      ∀ level members, Reaches .toEngine t.fields record level members → ∀ key ∈ Dict.keys members,
        (∀ f ∈ level, f.name ≠ key) → ∀ f ∈ level, f.engineName ≠ key := by
  have differ := build_differ built
  refine (rename_back_iff (n := .toEngine) differ ordered).trans ?_
  refine forall₃_congr fun level members reached => forall₂_congr fun key there => ?_
  exact returns_toEngine_iff (reached.differ differ)

section Answers

/-- Answers whose author and editor have changed names in the engine. -/
def answersConfig : TypeConfig where
  name := "Answer"
  indexName := none
  aliasName := none
  timePattern := none
  timeField := none
  rollover := none
  settings := .none
  relation := none
  fields := [⟨"author", some "editor", .keyword, none, []⟩, ⟨"editor", some "author", .keyword, none, []⟩,
    ⟨"comments", none, .nested, none, [⟨"posted_at", some "postedAt", .date, none, []⟩]⟩]

def answerFields : List Field :=
  [⟨"author", "editor", ⟨"editor"⟩, .keyword, none, []⟩, ⟨"editor", "author", ⟨"author"⟩, .keyword, none, []⟩,
    ⟨"comments", "comments", ⟨"comments"⟩, .nested, none,
      [⟨"posted_at", "postedAt", ⟨"comments.postedAt"⟩, .date, none, []⟩]⟩]

def answers : DocumentType where
  name := "Answer"
  indexName := "answer"
  aliasName := none
  addressing := .fixed "answer"
  relation := .none
  settings := .none
  fields := answerFields
  roles := []
  rolloverSchedule := none

def comment : Json :=
  .object [("posted_at", .string "2026-03-14"), ("text", .string "+1")]

/-- An answer with a comment, and with members that no field declares. -/
def answer : Json :=
  .object [("author", .string "ann"), ("comments", .array [comment]), ("editor", .string "ben"), ("extra", .bool true)]

theorem answer_ordered : answer.Ordered := by
  have commented : comment.Ordered := .object (by decide +kernel) (by simpa using ⟨.string _, .string _⟩)
  have comments : Json.Ordered (.array [comment]) := .array (by simpa using commented)
  exact .object (by decide +kernel) (by simpa using ⟨.string _, comments, .string _, .bool _⟩)

/-- Names that change places come back, at every level. -/
theorem swapped_names_come_back :
    build .empty answersConfig = .ok answers ∧ answer.Ordered ∧ answers.fromEngine (answers.toEngine answer) = answer := by
  have built : build .empty answersConfig = .ok answers := by rfl
  refine ⟨built, answer_ordered, (record_comes_back_iff built answer_ordered).mpr ?_⟩
  intro level members reached
  cases reached with
  | here => decide
  | property listed found further =>
      simp only [List.mem_cons, List.not_mem_nil, or_false] at listed
      obtain rfl | rfl | rfl | rfl := listed <;> cases found
      · cases further
      · -- Only the comments lead to another object.
        obtain - | @⟨_, _, _, _, _, listed, further⟩ := further
        cases List.mem_singleton.mp listed
        cases further with
        | here => decide
        | property listed found further =>
            simp only [List.mem_cons, List.not_mem_nil, or_false] at listed
            obtain rfl | rfl := listed <;> cases found
            cases further
      · cases further

end Answers

/-- A document comes back from its record just if, at every object that the fields of its type
lead to, no key of its own is the name of a field there, and of the fields that share a name only
the first is in the document. -/
theorem document_comes_back_iff (built : build env config = .ok t) {document : Json} (ordered : document.Ordered) :
    t.toEngine (t.fromEngine document) = document ↔
      ∀ level members, Reaches .fromEngine t.fields document level members → ∀ key ∈ Dict.keys members,
        ((∀ f ∈ level, f.engineName ≠ key) → ∀ f ∈ level, f.name ≠ key) ∧
          ∀ f ∈ level, f.engineName = key → level.find? (fun g => g.name = f.name) = some f := by
  have differ := build_differ built
  refine (rename_back_iff (n := .fromEngine) differ ordered).trans ?_
  refine forall₃_congr fun level members reached => forall₂_congr fun key there => ?_
  exact returns_fromEngine_iff (reached.differ differ)

section Titles

/-- Books whose title has a field for each language, all with one name in the application. -/
def booksConfig : TypeConfig where
  name := "Book"
  indexName := none
  aliasName := none
  timePattern := none
  timeField := none
  rollover := none
  settings := .none
  relation := none
  fields := [⟨"title", some "title_en", .text, none, []⟩, ⟨"title", some "title_de", .text, none, []⟩]

def books : DocumentType where
  name := "Book"
  indexName := "book"
  aliasName := none
  addressing := .fixed "book"
  relation := .none
  settings := .none
  fields := [⟨"title", "title_en", ⟨"title_en"⟩, .text, none, []⟩, ⟨"title", "title_de", ⟨"title_de"⟩, .text, none, []⟩]
  roles := []
  rolloverSchedule := none

theorem build_books : build .empty booksConfig = .ok books := by
  rfl

/-- A book of one title, in the language of the first field. -/
def englishBook : Json :=
  .object [("title_en", .string "The House")]

/-- A book with a title in both languages. -/
def translatedBook : Json :=
  .object [("title_de", .string "Das Haus"), ("title_en", .string "The House")]

theorem translatedBook_ordered : translatedBook.Ordered :=
  .object (by decide +kernel) (by simpa using ⟨.string _, .string _⟩)

theorem first_title_comes_back :
    build .empty booksConfig = .ok books ∧ englishBook.Ordered ∧ books.toEngine (books.fromEngine englishBook) = englishBook := by
  have ordered : englishBook.Ordered := .object (by decide +kernel) (by simpa using .string _)
  refine ⟨build_books, ordered, (document_comes_back_iff build_books ordered).mpr ?_⟩
  intro level members reached
  cases reached with
  | here =>
      simp only [Dict.keys, List.map_cons, List.map_nil, List.mem_singleton]
      rintro key rfl
      refine ⟨by decide, fun f listed engine => ?_⟩
      simp only [books, List.mem_cons, List.not_mem_nil, or_false] at listed
      obtain rfl | rfl := listed
      · rfl
      · exact absurd engine (by decide)
  | property listed found further =>
      cases List.mem_singleton.mp listed
      cases found
      cases further

/-- The second title takes the place of the first one in the record, and only the first field
is written back. -/
theorem second_title_lost :
    ¬ ∀ (env : Environment) (config : TypeConfig) (t : DocumentType), build env config = .ok t →
      ∀ document : Json, document.Ordered →
        (∀ level members, Reaches .fromEngine t.fields document level members → ∀ key ∈ Dict.keys members,
          (∀ f ∈ level, f.engineName ≠ key) → ∀ f ∈ level, f.name ≠ key) →
        t.toEngine (t.fromEngine document) = document := by
  intro every
  have lost : books.toEngine (books.fromEngine translatedBook) ≠ translatedBook := by
    have one : books.toEngine (books.fromEngine translatedBook) = englishBook := by rfl
    rw [one]
    simp [englishBook, translatedBook]
  refine lost (every _ _ _ build_books _ translatedBook_ordered ?_)
  intro level members reached
  cases reached with
  | here => decide
  | property listed found further =>
      simp only [List.mem_cons, List.not_mem_nil, or_false] at listed
      obtain rfl | rfl := listed <;> cases found <;> cases further

end Titles

end DocumentType

end DocMapper
