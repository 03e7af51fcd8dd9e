import DocMapper.Proofs.CheckedTypes
/-!
What the body of a new index tells of its type. Mappings are kept under engine names, so a field would
be lost if a sibling had its name, or if a field at the top had the name of the join field. Built types
rule out the former; without the latter the mappings, read back, are the tree of the fields with the
join field beside it, but for the order of siblings. The aliases are those that were asked for.
-/

namespace DocMapper

theorem FieldType.ofName?_name (type : FieldType) : FieldType.ofName? type.name = some type := by
  cases type <;> rfl

theorem FieldType.name_injective : Function.Injective FieldType.name := by
  intro a b same
  have read := congrArg FieldType.ofName? same
  rw [ofName?_name, ofName?_name] at read
  exact Option.some.inj read

namespace DocumentType

/-! ## Reading a body -/

/-- A field as the engine knows it. -/
structure MappedField where
  name : String
  type : String
  properties : List MappedField

mutual

/-- The field that a mapping under a name stands for. -/
def readField : String × Json → Option MappedField
  | (name, .object mapping) => do
      let type ← (Dict.find? "type" mapping).bind Json.text?
      return ⟨name, type, ← readNested mapping⟩
  | _ => none

def readFields : List (String × Json) → Option (List MappedField)
  | [] => some []
  | entry :: rest => do return (← readField entry) :: (← readFields rest)

/-- The fields below a mapping; one without properties has none. -/
def readNested : List (String × Json) → Option (List MappedField)
  | [] => some []
  | (key, value) :: rest =>
      if key = "properties" then
        match value with
        | .object nested => readFields nested
        | _ => none
      else readNested rest

end

/-- An alias as a body lists it. -/
def readAlias : String × Json → Option BirthAlias
  | (name, .object []) => some ⟨name, false⟩
  | (name, .object [("is_write_index", .bool true)]) => some ⟨name, true⟩
  | _ => none

/-- The aliases a body lists, by name; one without a list has none. -/
def listedAliases (body : Json) : Dict Json :=
  ((body.get? "aliases").bind Json.members?).getD []

/-! ## Trees up to order -/

mutual

def mapped : Field → MappedField
  | ⟨_, engineName, _, type, _, properties⟩ => ⟨engineName, type.name, mappedAll properties⟩

def mappedAll : List Field → List MappedField
  | [] => []
  | f :: rest => mapped f :: mappedAll rest

end

theorem mapped_type_eq_iff {f g : Field} : (mapped f).type = (mapped g).type ↔ f.type = g.type := by
  cases f
  cases g
  exact FieldType.name_injective.eq_iff

/-- The same fields at every depth, siblings in any order. -/
inductive SameTree : List MappedField → List MappedField → Prop where
  | nil : SameTree [] []
  | cons {name type : String} {below below' rest rest' : List MappedField} (properties : SameTree below below')
      (siblings : SameTree rest rest') : SameTree (⟨name, type, below⟩ :: rest) (⟨name, type, below'⟩ :: rest')
  | swap (f g : MappedField) (rest : List MappedField) : SameTree (f :: g :: rest) (g :: f :: rest)
  | trans {fields middle other : List MappedField} (first : SameTree fields middle) (second : SameTree middle other) :
      SameTree fields other

theorem SameTree.refl : (fields : List MappedField) → SameTree fields fields
  | [] => .nil
  | ⟨_, _, properties⟩ :: rest => .cons (refl properties) (refl rest)

theorem SameTree.of_perm {fields other : List MappedField} (same : fields.Perm other) : SameTree fields other := by
  induction same with
  | nil => exact .nil
  | cons f _ ih =>
      obtain ⟨name, type, properties⟩ := f
      exact .cons (.refl properties) ih
  | swap f g rest => exact .swap g f rest
  | trans _ _ first second => exact .trans first second

/-- The join field, on types that have it. -/
def joinEntry (t : DocumentType) : List MappedField :=
  if t.relation = .none then [] else [⟨joinField, "join", []⟩]

/-! ## Mappings -/

section Reading

variable {members others : List (String × Json)} {entry : String × Json} {fields : List MappedField}

theorem readFields_cons_eq_some :
    readFields (entry :: members) = some fields ↔
      ∃ f rest, readField entry = some f ∧ readFields members = some rest ∧ fields = f :: rest := by
  rw [readFields]
  cases readField entry <;> cases readFields members <;> simp [eq_comm]

/-- In whatever order the mappings stand, the same fields are read. -/
theorem readFields_perm (same : members.Perm others) (read : readFields members = some fields) :
    ∃ found, readFields others = some found ∧ found.Perm fields := by
  induction same generalizing fields with
  | nil => exact ⟨fields, read, .refl fields⟩
  | cons entry _ ih =>
      obtain ⟨f, rest, first, later, rfl⟩ := readFields_cons_eq_some.mp read
      obtain ⟨found, there, perm⟩ := ih later
      exact ⟨f :: found, readFields_cons_eq_some.mpr ⟨f, found, first, there, rfl⟩, perm.cons f⟩
  | swap second first rest =>
      obtain ⟨f, more, one, later, rfl⟩ := readFields_cons_eq_some.mp read
      obtain ⟨g, last, other, remaining, rfl⟩ := readFields_cons_eq_some.mp later
      refine ⟨g :: f :: last, ?_, .swap f g last⟩
      exact readFields_cons_eq_some.mpr ⟨g, f :: last, other, readFields_cons_eq_some.mpr ⟨f, last, one, remaining, rfl⟩, rfl⟩
  | trans _ _ first second =>
      obtain ⟨middle, there, perm⟩ := first read
      obtain ⟨found, last, further⟩ := second there
      exact ⟨found, last, further.trans perm⟩

end Reading

theorem mappingOf_eq (f : Field) :
    mappingOf f = (f.engineName, .object ((if f.properties = [] then [] else
      [("properties", .object (mappingsOf f.properties))]) ++ [("type", .string f.type.name)])) := by
  obtain ⟨_, _, _, _, _, properties⟩ := f
  cases properties <;> rfl

theorem mappingsOf_cons (f : Field) (rest : List Field) :
    mappingsOf (f :: rest) = Dict.put f.engineName (mappingOf f).2 (mappingsOf rest) := by
  rw [mappingsOf, mappingOf_eq]

theorem mappedAll_cons (f : Field) (rest : List Field) :
    mappedAll (f :: rest) = ⟨f.engineName, f.type.name, mappedAll f.properties⟩ :: mappedAll rest := by
  cases f
  rfl

theorem readField_mappingOf {f : Field} {below : List MappedField}
    (read : readFields (mappingsOf f.properties) = some below) :
    readField (mappingOf f) = some ⟨f.engineName, f.type.name, below⟩ := by
  rw [mappingOf_eq]
  by_cases leaf : f.properties = []
  · have none : below = [] := by simpa [leaf, mappingsOf, readFields, eq_comm] using read
    simp [leaf, none, readField, readNested, Dict.find?, Json.text?]
  · simp [leaf, read, readField, readNested, Dict.find?, Json.text?]

theorem perm_mappingsOf_cons {f : Field} {rest : List Field} (fresh : f.engineName ∉ Dict.keys (mappingsOf rest)) :
    (mappingsOf (f :: rest)).Perm (mappingOf f :: mappingsOf rest) := by
  have entry : (f.engineName, (mappingOf f).2) = mappingOf f := by rw [mappingOf_eq]
  rw [mappingsOf_cons, ← entry]
  exact Dict.perm_put fresh _

theorem keys_mappingsOf {fields : List Field} (names : (fields.map Field.engineName).Nodup) :
    (Dict.keys (mappingsOf fields)).Perm (fields.map Field.engineName) := by
  induction fields with
  | nil => exact .nil
  | cons f rest ih =>
      obtain ⟨fresh, others⟩ := List.nodup_cons.mp names
      have keys := ih others
      have grown := (perm_mappingsOf_cons fun there => fresh (keys.subset there)).map Prod.fst
      rw [List.map_cons, mappingOf_eq] at grown
      exact grown.trans (keys.cons f.engineName)

/-- Where siblings differ at every level, nothing is lost of the tree. -/
theorem readFields_mappingsOf {fields : List Field} (differ : SiblingsDiffer fields) :
    ∃ read, readFields (mappingsOf fields) = some read ∧ SameTree read (mappedAll fields) := by
  induction fields using Field.treeInduction with
  | nil => exact ⟨[], by simp [mappingsOf, readFields], .nil⟩
  | cons f rest below later =>
      obtain ⟨nested, readBelow, sameBelow⟩ := below (differ.properties List.mem_cons_self)
      obtain ⟨others, readRest, sameRest⟩ := later differ.rest
      have fresh : f.engineName ∉ Dict.keys (mappingsOf rest) := fun there =>
        (List.nodup_cons.mp differ.names).1 ((keys_mappingsOf differ.rest.names).subset there)
      have all : readFields (mappingOf f :: mappingsOf rest) = some (⟨f.engineName, f.type.name, nested⟩ :: others) :=
        readFields_cons_eq_some.mpr ⟨_, _, readField_mappingOf readBelow, readRest, rfl⟩
      obtain ⟨read, there, perm⟩ := readFields_perm (perm_mappingsOf_cons fresh).symm all
      refine ⟨read, there, (SameTree.of_perm perm).trans ?_⟩
      rw [mappedAll_cons]
      exact .cons sameBelow sameRest

section Bodies

variable {env : Environment} {config : TypeConfig} {t : DocumentType} {aliases : List BirthAlias}

/-- The join field stands beside the fields, if none of them has its name. -/
theorem readFields_propertyMappings (differ : SiblingsDiffer t.fields)
    (free : joinField ∉ t.fields.map Field.engineName) :
    ∃ read, readFields t.propertyMappings = some read ∧ SameTree read (t.joinEntry ++ mappedAll t.fields) := by
  obtain ⟨fields, read, same⟩ := readFields_mappingsOf differ
  have fresh : joinField ∉ Dict.keys (mappingsOf t.fields) := fun there =>
    free ((keys_mappingsOf differ.names).subset there)
  have joined (join : Json) (entry : readField (joinField, join) = some ⟨joinField, "join", []⟩) :
      ∃ read, readFields (Dict.put joinField join (mappingsOf t.fields)) = some read ∧
        SameTree read (⟨joinField, "join", []⟩ :: mappedAll t.fields) := by
    have all := readFields_cons_eq_some.mpr ⟨_, _, entry, read, rfl⟩
    obtain ⟨found, there, perm⟩ := readFields_perm (Dict.perm_put fresh join).symm all
    exact ⟨found, there, (SameTree.of_perm perm).trans (.cons .nil same)⟩
  rw [propertyMappings, joinMapping, relationEnds, joinEntry]
  cases t.relation with
  | none => exact ⟨fields, read, same⟩
  | parentOf child => exact joined _ (by simp [readField, readNested, Dict.find?, Json.text?])
  | childOf parent routing => exact joined _ (by simp [readField, readNested, Dict.find?, Json.text?])

theorem get?_mappings_indexBody (t : DocumentType) (aliases : List BirthAlias) :
    (t.indexBody aliases).get? "mappings" = some (.object [("properties", .object t.propertyMappings)]) := by
  simp only [indexBody, Json.ofPairs, Json.get?, Dict.find?_ofPairs]
  cases aliases with
  | nil => cases indexSettings t.settings <;> simp [Dict.find?]
  | cons a rest => cases indexSettings t.settings <;> simp [Dict.find?]

theorem readAlias_aliasOptions (a : BirthAlias) : readAlias (aliasOptions a) = some a := by
  obtain ⟨name, isWrite⟩ := a
  cases isWrite <;> rfl

theorem perm_listedAliases (t : DocumentType) (distinct : (aliases.map BirthAlias.name).Nodup) :
    (listedAliases (t.indexBody aliases)).Perm (aliases.map aliasOptions) := by
  rw [listedAliases, get?_aliases_indexBody]
  cases aliases with
  | nil => exact .nil
  | cons a rest =>
      have names : ((a :: rest).map aliasOptions).map Prod.fst = (a :: rest).map BirthAlias.name := by
        rw [List.map_map]
        rfl
      exact Dict.perm_ofPairs (names ▸ distinct)

/-- The body an index is created with has the fields of its type under their engine names, with their
types and at every depth; beside them the join field, exactly on a type with a relation; and the aliases
that were asked for, the one to write through marked as such. -/
theorem bodies_mirror_types (built : build env config = .ok t) (free : joinField ∉ t.fields.map Field.engineName)
    (distinct : (aliases.map BirthAlias.name).Nodup) :
    (∃ properties read,
      (t.indexBody aliases).get? "mappings" = some (.object [("properties", .object properties)]) ∧
      readFields properties = some read ∧ SameTree read (t.joinEntry ++ mappedAll t.fields)) ∧
    ((listedAliases (t.indexBody aliases)).map readAlias).Perm (aliases.map some) := by
  obtain ⟨read, there, same⟩ := readFields_propertyMappings (build_differ built) free
  refine ⟨⟨t.propertyMappings, read, get?_mappings_indexBody t aliases, there, same⟩, ?_⟩
  have listed := (perm_listedAliases t distinct).map readAlias
  rwa [List.map_map, show readAlias ∘ aliasOptions = some from funext readAlias_aliasOptions] at listed

theorem visits_mirrored :
    (∃ properties read,
      (visits.indexBody [⟨"visits-write", true⟩, ⟨"visits", false⟩]).get? "mappings" =
        some (.object [("properties", .object properties)]) ∧
      readFields properties = some read ∧
      SameTree read [⟨"kdm_relation", "join", []⟩, ⟨"stay", "object", [⟨"on", "date", []⟩]⟩,
        ⟨"who", "object", [⟨"number", "keyword", []⟩]⟩, ⟨"house", "keyword", []⟩]) ∧
    ((listedAliases (visits.indexBody [⟨"visits-write", true⟩, ⟨"visits", false⟩])).map readAlias).Perm
      [some ⟨"visits-write", true⟩, some ⟨"visits", false⟩] := by
  have built : build .empty visitsConfig = .ok visits := rfl
  exact bodies_mirror_types built (by decide) (by decide)

end Bodies

end DocumentType

end DocMapper
