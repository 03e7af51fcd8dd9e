import DocMapper.FieldPath
import DocMapper.Proofs.RenamedRecords
/-!
Values that differ at some places only. A write along a path changes a value at the place where
the path ends, and what it has to make on the way there is new. Renaming takes two such values to
two such values, with the places renamed too, so long as the keys of the first value return and
so do the steps of the paths: a step that some other key is renamed to would bury what is there.
-/

namespace DocMapper

namespace Json

variable {before middle after value : Json} {members : Dict Json} {key : String} {segments : List String}
  {places more : List String → Prop}

/-- The members of one object are in the other, up to what is at some places and what is new on the way there. -/
inductive SameBut : (List String → Prop) → Json → Json → Prop where
  | same {places : List String → Prop} {value : Json} : SameBut places value value
  | filled {places : List String → Prop} {before after : Json} (here : places []) : SameBut places before after
  | object {places : List String → Prop} {before after : Dict Json}
      (kept : ∀ key, Dict.has key before = true → Dict.has key after = true)
      (fresh : ∀ key, Dict.has key before = false → Dict.has key after = true → ∃ rest, places (key :: rest))
      (values : ∀ key old new, Dict.find? key before = some old → Dict.find? key after = some new →
        SameBut (fun rest => places (key :: rest)) old new) :
      SameBut places (.object before) (.object after)

theorem SameBut.mono (same : SameBut places before after) (wider : ∀ place, places place → more place) :
    SameBut more before after := by
  induction same generalizing more with
  | same => exact .same
  | filled here => exact .filled (wider [] here)
  | object kept fresh values ih =>
      refine .object kept (fun key absent present => ?_) (fun key old new there here => ?_)
      · obtain ⟨rest, place⟩ := fresh key absent present
        exact ⟨rest, wider _ place⟩
      · exact ih key old new there here fun rest => wider (key :: rest)

theorem SameBut.trans (first : SameBut places before middle) (second : SameBut places middle after) :
    SameBut places before after := by
  induction first generalizing after with
  | same => exact second
  | filled here => exact .filled here
  | @object places before middle kept fresh values ih =>
      cases second with
      | same => exact .object kept fresh values
      | filled here => exact .filled here
      | @object _ _ after keptAgain freshAgain valuesAgain =>
          refine .object (fun key there => keptAgain key (kept key there)) (fun key absent present => ?_)
            (fun key old new there here => ?_)
          · cases passed : Dict.has key middle with
            | true => exact fresh key absent passed
            | false => exact freshAgain key passed present
          · obtain ⟨passing, passed⟩ := Dict.has_eq_true_iff.mp (kept key (Dict.has_eq_true_iff.mpr ⟨old, there⟩))
            exact ih key old passing there passed (valuesAgain key passing new passed here)

theorem SameBut.remove {left right : Dict Json} (same : SameBut places (.object left) (.object right)) (key : String) :
    SameBut (fun place => places place ∧ place.head? ≠ some key)
      (.object (Dict.remove key left)) (.object (Dict.remove key right)) := by
  cases same with
  | same => exact .same
  | filled here => exact .filled ⟨here, nofun⟩
  | object kept fresh values =>
      simp only [Dict.has] at kept fresh
      have apart {other : String} (different : ¬other = key) (rest : List String) :
          (other :: rest).head? ≠ some key := by simpa using different
      refine .object (fun other => ?_) (fun other => ?_) (fun other old new => ?_)
      · simp only [Dict.has, Dict.find?_remove]
        split
        · exact id
        · exact kept other
      · simp only [Dict.has, Dict.find?_remove]
        split
        · exact fun _ none => by cases none
        · next different =>
            intro absent present
            obtain ⟨rest, place⟩ := fresh other absent present
            exact ⟨rest, place, apart different rest⟩
      · simp only [Dict.find?_remove]
        split
        · exact fun none => by cases none
        · next different =>
            intro there here
            exact (values other old new there here).mono fun rest place => ⟨place, apart different rest⟩

theorem SameBut.put {new : Json} (place : ∃ rest, places (key :: rest))
    (inner : ∀ old, Dict.find? key members = some old → SameBut (fun rest => places (key :: rest)) old new) :
    SameBut places (.object members) (.object (Dict.put key new members)) := by
  refine .object (fun other there => ?_) (fun other absent present => ?_) (fun other old found there here => ?_)
  · rw [Dict.has_put, there, Bool.or_true]
  · rw [Dict.has_put, absent, Bool.or_false, decide_eq_true_eq] at present
    exact present ▸ place
  · rw [Dict.find?_put] at here
    split at here
    · next same =>
        cases here
        exact same ▸ inner old (same ▸ there)
    · rw [there] at here
      cases here
      exact .same

/-- A write along a path changes nothing but the place it leads to. -/
theorem sameBut_assignAlong? (assigned : FieldPath.assignAlong? value segments before = some after) :
    SameBut (· = segments) before after := by
  induction segments generalizing before after with
  | nil => cases assigned
  | cons segment rest ih =>
      cases before with
      | object members =>
          cases rest with
          | nil =>
              cases assigned
              exact .put ⟨[], rfl⟩ fun old _ => .filled rfl
          | cons next more =>
              obtain ⟨inner, below, rfl⟩ := Option.map_eq_some_iff.mp assigned
              refine .put ⟨next :: more, rfl⟩ fun old found => ?_
              rw [found, Option.getD_some] at below
              exact (ih below).mono fun place same => congrArg (segment :: ·) same
      | _ => cases rest <;> cases assigned

/-! ## Members in order -/

theorem Ordered.keys (ordered : (Json.object members).Ordered) : Dict.Ordered members := by
  cases ordered with
  | object keys each => exact keys

theorem Ordered.member (ordered : (Json.object members).Ordered) (found : Dict.find? key members = some value) :
    value.Ordered := by
  cases ordered with
  | object keys each => exact each _ (Dict.mem_of_find? found)

theorem Ordered.put (ordered : (Json.object members).Ordered) (key : String) (added : value.Ordered) :
    (Json.object (Dict.put key value members)).Ordered := by
  cases ordered with
  | object keys each =>
      refine .object (keys.put key value) fun entry listed => ?_
      rcases Dict.mem_put listed with rfl | stored
      · exact added
      · exact each entry stored

theorem Ordered.remove (ordered : (Json.object members).Ordered) (key : String) :
    (Json.object (Dict.remove key members)).Ordered := by
  cases ordered with
  | object keys each => exact .object (keys.filter _) fun entry listed => each entry (List.mem_of_mem_filter listed)

theorem Ordered.assignAlong? (ordered : before.Ordered) (added : value.Ordered)
    (assigned : FieldPath.assignAlong? value segments before = some after) : after.Ordered := by
  induction segments generalizing before after with
  | nil => cases assigned
  | cons segment rest ih =>
      cases before with
      | object members =>
          cases rest with
          | nil =>
              cases assigned
              exact ordered.put segment added
          | cons next more =>
              obtain ⟨inner, below, rfl⟩ := Option.map_eq_some_iff.mp assigned
              refine ordered.put segment (ih ?_ below)
              cases found : Dict.find? segment members with
              | none => exact .object Dict.ordered_nil fun _ listed => by cases listed
              | some old => exact ordered.member found
      | _ => cases rest <;> cases assigned

end Json

namespace DocumentType

variable {n : Naming} {fields : List Field} {members : Dict Json} {value before after : Json} {key : String}
  {segments : List String} {places : List String → Prop}

theorem ordered_rename (n : Naming) (fields : List Field) (ordered : value.Ordered) : (rename n fields value).Ordered := by
  induction ordered generalizing fields with
  | null | bool | number | string =>
      simp only [rename]
      constructor
  | array each ih =>
      rw [rename_array]
      refine .array fun item listed => ?_
      obtain ⟨original, member, rfl⟩ := List.mem_map.mp listed
      exact ih original member fields
  | object keys each ih =>
      rw [rename_object]
      refine .object (Dict.ordered_ofPairs _) fun entry listed => ?_
      obtain ⟨original, member, rfl⟩ := List.mem_map.mp (Dict.mem_of_mem_ofPairs listed)
      rw [renameMember]
      cases n.find? fields original.1 with
      | some f => exact ih original member f.properties
      | none => exact each original member

/-! ## Members of a renamed object -/

theorem key_of_renamed {old new : Json} {name : String} (renamed : renameMember n fields (key, old) = (name, new)) :
    renamedKey n fields key = name :=
  (renameMember_key n fields (key, old)).symm.trans (congrArg Prod.fst renamed)

theorem exists_of_find?_renamed (ordered : Dict.Ordered members)
    (found : Dict.find? key (Dict.ofPairs (members.map (renameMember n fields))) = some value) :
    ∃ old inner, Dict.find? old members = some inner ∧ renameMember n fields (old, inner) = (key, value) := by
  obtain ⟨⟨old, inner⟩, listed, same⟩ := List.mem_map.mp (Dict.mem_of_mem_ofPairs (Dict.mem_of_find? found))
  exact ⟨old, inner, ordered.find?_of_mem listed, same⟩

theorem has_renamed (n : Naming) (fields : List Field) (there : Dict.find? key members = some value) :
    Dict.has (renamedKey n fields key) (Dict.ofPairs (members.map (renameMember n fields))) = true := by
  have listed := List.mem_map_of_mem (f := renameMember n fields) (Dict.mem_of_find? there)
  rw [Dict.has_eq_true_iff, ← renameMember_key n fields (key, value)]
  simp only [Dict.find?_ofPairs]
  exact Dict.has_eq_true_iff.mp (Dict.has_of_mem (List.mem_reverse.mpr listed))

theorem Returns.injective {other : String} (returns : Returns n fields key) (also : Returns n fields other)
    (same : renamedKey n fields key = renamedKey n fields other) : key = other := by
  rw [← returns.back, same, also.back]

/-! ## Places -/

/-- Every key returns of the objects that the fields lead to. -/
def AllReturn (n : Naming) (fields : List Field) (value : Json) : Prop :=
  ∀ level members, Reaches n fields value level members → ∀ key ∈ Dict.keys members, Returns n level key

/-- A path of keys under their new names. Below a key that no field answers to nothing is renamed. -/
def renamedPath (n : Naming) : List Field → List String → List String
  | _, [] => []
  | fields, key :: rest => renamedKey n fields key ::
      match n.find? fields key with
      | some f => renamedPath n f.properties rest
      | none => rest

/-- The steps of a path return, but for the last one. -/
def StepsReturn (n : Naming) : List Field → List String → Prop
  | _, [] | _, [_] => True
  | fields, key :: next :: rest => Returns n fields key ∧
      match n.find? fields key with
      | some f => StepsReturn n f.properties (next :: rest)
      | none => True

theorem StepsReturn.below {rest : List String} (steps : StepsReturn n fields (key :: rest)) {f : Field}
    (found : n.find? fields key = some f) : StepsReturn n f.properties rest := by
  cases rest with
  | nil => trivial
  | cons next more =>
      have inner := steps.2
      rwa [found] at inner

/-- The places that others have under the new names. -/
def Renamed (n : Naming) (fields : List Field) (places : List String → Prop) (place : List String) : Prop :=
  ∃ old, places old ∧ renamedPath n fields old = place

theorem AllReturn.here (all : AllReturn n fields (.object members)) (there : Dict.find? key members = some value) :
    Returns n fields key :=
  all _ _ .here key (List.mem_map_of_mem (Dict.mem_of_find? there))

theorem AllReturn.property (all : AllReturn n fields (.object members)) (there : Dict.find? key members = some value)
    {f : Field} (found : n.find? fields key = some f) : AllReturn n f.properties value :=
  fun level inner reached => all level inner (.property (Dict.mem_of_find? there) found reached)

theorem AllReturn.remove (all : AllReturn n fields (.object members)) (key : String) :
    AllReturn n fields (.object (Dict.remove key members)) := by
  rintro level inner (_ | _ | ⟨listed, found, further⟩)
  · intro other there
    exact all _ _ .here other ((List.filter_sublist.map Prod.fst).subset there)
  · exact all _ _ (.property (List.mem_of_mem_filter listed) found further)

/-- What an object gives under a new name it gives without any other of its members. -/
theorem find?_renamed_remove {gone : String} (ordered : Dict.Ordered members)
    (all : AllReturn n fields (.object members))
    (found : Dict.find? key (Dict.ofPairs (members.map (renameMember n fields))) = some value)
    (other : renamedKey n.other fields key ≠ gone) :
    Dict.find? key (Dict.ofPairs ((Dict.remove gone members).map (renameMember n fields))) = some value := by
  obtain ⟨old, inner, there, same⟩ := exists_of_find?_renamed ordered found
  have named : renamedKey n fields old = key := key_of_renamed same
  have stays : old ≠ gone := by rwa [← named, (all.here there).back] at other
  have kept : Dict.find? old (Dict.remove gone members) = some inner := by rw [Dict.find?_remove, if_neg stays, there]
  obtain ⟨given, still⟩ := Dict.has_eq_true_iff.mp (has_renamed n fields kept)
  rw [named] at still
  have still_ordered : Dict.Ordered (Dict.remove gone members) := ordered.filter _
  obtain ⟨again, alike, held, twin⟩ := exists_of_find?_renamed still_ordered still
  -- Only one key is renamed to this one.
  have alsoNamed : renamedKey n fields again = key := key_of_renamed twin
  have one : again = old :=
    ((all.remove gone).here held).injective (all.here there) (alsoNamed.trans named.symm)
  subst one
  cases kept.symm.trans held
  rw [still, ← (Prod.mk.inj (same.symm.trans twin)).2]

/-- What is there to be looked up is on a path whose steps return. -/
theorem AllReturn.steps (all : AllReturn n fields before) (found : FieldPath.lookupAlong segments before = some value) :
    StepsReturn n fields segments := by
  induction segments generalizing fields before with
  | nil => trivial
  | cons key rest ih =>
      cases rest with
      | nil => trivial
      | cons next more =>
          cases before with
          | object members =>
              obtain ⟨inner, there, below⟩ := Option.bind_eq_some_iff.mp found
              refine ⟨all.here there, ?_⟩
              cases answers : n.find? fields key with
              | none => trivial
              | some f => exact ih (all.property there answers) below
          | _ => cases found

theorem renamed_nil (here : places []) : Renamed n fields places [] :=
  ⟨[], here, rfl⟩

theorem not_renamed_nil (proper : ¬places []) : ¬Renamed n fields places [] := by
  rintro ⟨place, there, none⟩
  cases place with
  | nil => exact proper there
  | cons key rest => cases none

theorem renamed_cons {rest : List String} (place : places (key :: rest)) :
    ∃ below, Renamed n fields places (renamedKey n fields key :: below) :=
  ⟨_, key :: rest, place, rfl⟩

theorem sameBut_member {old new old' new' : Json} {name : String}
    (first : renameMember n fields (key, old) = (name, old')) (second : renameMember n fields (key, new) = (name, new'))
    (undeclared : n.find? fields key = none → Json.SameBut (fun rest => places (key :: rest)) old new)
    (declared : ∀ f, n.find? fields key = some f →
      Json.SameBut (Renamed n f.properties fun rest => places (key :: rest))
        (rename n f.properties old) (rename n f.properties new)) :
    Json.SameBut (fun rest => Renamed n fields places (name :: rest)) old' new' := by
  have named : renamedKey n fields key = name := key_of_renamed first
  rw [renameMember] at first second
  cases answers : n.find? fields key with
  | none =>
      rw [answers] at first second
      cases first
      cases second
      refine (undeclared answers).mono fun rest place => ⟨key :: rest, place, ?_⟩
      rw [renamedPath, named, answers]
  | some f =>
      rw [answers] at first second
      cases first
      cases second
      refine (declared f answers).mono ?_
      rintro _ ⟨rest, place, rfl⟩
      refine ⟨key :: rest, place, ?_⟩
      rw [renamedPath, named, answers]

/-- Renamed, two values that differ at some places only differ at these places only. -/
theorem sameBut_rename (same : Json.SameBut places before after) (ordered : before.Ordered)
    (alsoOrdered : after.Ordered) (all : AllReturn n fields before)
    (steps : ∀ place, places place → StepsReturn n fields place) :
    Json.SameBut (Renamed n fields places) (rename n fields before) (rename n fields after) := by
  -- Along the evidence: the same value, a place that was filled, or objects alike member by member.
  induction same generalizing fields with
  | same => exact .same
  | filled here => exact .filled (renamed_nil here)
  | @object places left right kept fresh values ih =>
      rw [rename_object, rename_object]
      refine .object (fun name there => ?_) (fun name absent present => ?_) (fun name old' new' there here => ?_)
      · obtain ⟨value, found⟩ := Dict.has_eq_true_iff.mp there
        obtain ⟨key, old, stored, same⟩ := exists_of_find?_renamed ordered.keys found
        obtain ⟨new, still⟩ := Dict.has_eq_true_iff.mp (kept key (Dict.has_eq_true_iff.mpr ⟨old, stored⟩))
        have named : renamedKey n fields key = name := key_of_renamed same
        exact named ▸ has_renamed n fields still
      · obtain ⟨value, found⟩ := Dict.has_eq_true_iff.mp present
        obtain ⟨key, new, stored, same⟩ := exists_of_find?_renamed alsoOrdered.keys found
        have named : renamedKey n fields key = name := key_of_renamed same
        cases before : Dict.has key left with
        | true =>
            obtain ⟨old, there⟩ := Dict.has_eq_true_iff.mp before
            rw [← named, has_renamed n fields there] at absent
            cases absent
        | false =>
            obtain ⟨rest, place⟩ := fresh key before (Dict.has_eq_true_iff.mpr ⟨new, stored⟩)
            exact named ▸ renamed_cons place
      · obtain ⟨key, old, stored, first⟩ := exists_of_find?_renamed ordered.keys there
        obtain ⟨other, new, held, second⟩ := exists_of_find?_renamed alsoOrdered.keys here
        have named : renamedKey n fields key = name := key_of_renamed first
        have alsoNamed : renamedKey n fields other = name := key_of_renamed second
        by_cases one : key = other
        · subst one
          refine sameBut_member first second (fun _ => values key old new stored held) fun f answers => ?_
          refine ih key old new stored held (ordered.member stored) (alsoOrdered.member held)
            (all.property stored answers) fun rest place => ?_
          exact (steps _ place).below answers
        · -- The other key is new and a write ends there, for it would return like the first one.
          have lost : ¬Returns n fields other := fun returns =>
            one ((all.here stored).injective returns (named.trans alsoNamed.symm))
          have new : Dict.has other left = false := by
            by_contra there
            obtain ⟨old, there⟩ := Dict.has_eq_true_iff.mp (Bool.not_eq_false _ ▸ there)
            exact lost (all.here there)
          obtain ⟨rest, place⟩ := fresh other new (Dict.has_eq_true_iff.mpr ⟨_, held⟩)
          cases rest with
          | nil =>
              refine .filled ⟨[other], place, ?_⟩
              rw [renamedPath, alsoNamed]
              cases n.find? fields other <;> rfl
          | cons next more => exact absurd (steps _ place).1 lost

end DocumentType

end DocMapper
