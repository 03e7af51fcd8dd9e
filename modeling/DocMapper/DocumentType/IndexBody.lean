import DocMapper.DocumentType.Basic
import DocMapper.Text.Case
/-!
What an index of a document type is created with: settings, the types of the fields under
their engine names, the join field of parents and children, and aliases.
-/

namespace DocMapper.DocumentType

/-- The field that tells parents and children apart; only types with a relation have it. -/
def joinField : String := "kdm_relation"

/-- An alias a new index is born with. -/
structure BirthAlias where
  name : String
  isWrite : Bool
deriving DecidableEq, Repr

def indexSettings (s : SettingsConfig) : List (String × Json) :=
  (s.shards.map fun n => ("number_of_shards", Json.ofNat n)).toList ++
    (s.replicas.map fun n => ("number_of_replicas", Json.ofNat n)).toList ++
    (s.refreshInterval.map fun text => ("refresh_interval", Json.string text)).toList

mutual

def mappingOf : Field → String × Json
  | ⟨_, engineName, _, type, _, properties⟩ =>
      let nested := mappingsOf properties
      let members := match properties with
        | [] => []
        | _ :: _ => [("properties", Json.object nested)]
      (engineName, .object (members ++ [("type", .string type.name)]))

def mappingsOf : List Field → List (String × Json)
  | [] => []
  | f :: rest =>
      let (name, mapping) := mappingOf f
      Dict.put name mapping (mappingsOf rest)

end

/-- The types on either side of the relation, parent first. -/
def relationEnds (t : DocumentType) : Option (String × String) :=
  match t.relation with
  | .none => none
  | .parentOf child => some (t.name, child)
  | .childOf parent _ => some (parent, t.name)

def joinMapping (t : DocumentType) : Option Json :=
  t.relationEnds.map fun (parent, child) => .object [
    ("relations", .object [(Text.lower parent, .string (Text.lower child))]),
    ("type", .string "join")]

def propertyMappings (t : DocumentType) : List (String × Json) :=
  match t.joinMapping with
  | some join => Dict.put joinField join (mappingsOf t.fields)
  | none => mappingsOf t.fields

def aliasOptions (a : BirthAlias) : String × Json :=
  (a.name, .object (if a.isWrite then [("is_write_index", .bool true)] else []))

def indexBody (t : DocumentType) (aliases : List BirthAlias) : Json :=
  .ofPairs (
    (match indexSettings t.settings with
      | [] => []
      | settings => [("settings", .object [("index", .ofPairs settings)])]) ++
    [("mappings", .object [("properties", .object t.propertyMappings)])] ++
    (match aliases with
      | [] => []
      | aliases => [("aliases", .ofPairs (aliases.map aliasOptions))]))

/-- What a document of the type carries in the join field; a child names its parent. -/
def joinValue (t : DocumentType) (parentId : Option String) : Option Json :=
  match t.relation with
  | .none => none
  | .parentOf _ => some (.string (Text.lower t.name))
  | .childOf _ _ => some (.object [("name", .string (Text.lower t.name)), ("parent", .ofText parentId)])

end DocMapper.DocumentType
