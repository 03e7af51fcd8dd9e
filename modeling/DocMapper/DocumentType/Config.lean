import DocMapper.FieldType
import DocMapper.Json.Decode
/-!
Document types as people describe them. Nothing here is checked: texts may hold
placeholders, roles may collide and patterns may be empty. `TypeConfig.ofJson?` refuses only
what does not have the shape of a description.
-/

namespace DocMapper

/-- A special purpose of a field; a document type has at most one field for each. -/
inductive Role where
  | identity
  | version
  | score
  | indexName
  | completion
  | parentId
deriving DecidableEq, Repr

namespace Role

def all : List Role :=
  [.identity, .version, .score, .indexName, .completion, .parentId]

def name : Role → String
  | .identity => "identity"
  | .version => "version"
  | .score => "score"
  | .indexName => "index-name"
  | .completion => "completion"
  | .parentId => "parent-id"

def word : Role → String
  | .indexName => "index_name"
  | .parentId => "parent_id"
  | role => role.name

def ofWord? (word : String) : Option Role :=
  all.find? fun role => role.word = word

end Role

structure FieldConfig where
  name : String
  engineName : Option String
  type : FieldType
  role : Option Role
  properties : List FieldConfig

structure RolloverConfig where
  writeAlias : String
  readAlias : Option String
  indexPrefix : Option String
  maxAge : Option String
  /-- Zero means that there is no limit. -/
  maxDocs : Option Nat
  maxSize : Option String
  schedule : Option String
deriving DecidableEq, Repr

structure SettingsConfig where
  shards : Option Nat
  replicas : Option Nat
  refreshInterval : Option String
deriving DecidableEq, Repr

inductive RelationConfig where
  | parentOf (child : String)
  | childOf (parent : String) (routingField : Option String)
deriving DecidableEq, Repr

structure TypeConfig where
  name : String
  indexName : Option String
  aliasName : Option String
  timePattern : Option String
  timeField : Option String
  rollover : Option RolloverConfig
  settings : SettingsConfig
  relation : Option RelationConfig
  fields : List FieldConfig

open Json.Decode

namespace FieldConfig

def typeOf? (value : Json) : Option FieldType :=
  (word? value).bind FieldType.ofName?

def roleOf? (value : Json) : Option Role :=
  (word? value).bind Role.ofWord?

/-- A field whose properties have been read already. -/
def withProperties? (members : Dict Json) (properties : List FieldConfig) : Option FieldConfig := do
  let name ← required? "name" Json.text? members
  let engineName ← optional? "engine_name" Json.text? members
  let type ← withDefault? "type" .text typeOf? members
  let role ← optional? "role" roleOf? members
  return { name, engineName, type, role, properties }

mutual

def ofJson? : Json → Option FieldConfig
  | .object members => (propertiesIn? members).bind (withProperties? members)
  | .array [name] => withProperties? [("name", name)] []
  | .array [name, engineName] => withProperties? [("name", name), ("engine_name", engineName)] []
  | .array [name, engineName, type] =>
      withProperties? [("name", name), ("engine_name", engineName), ("type", type)] []
  | .array [name, engineName, type, role] =>
      withProperties? [("name", name), ("engine_name", engineName), ("type", type), ("role", role)] []
  | .array [name, engineName, type, role, properties] =>
      (listOf? properties).bind
        (withProperties? [("name", name), ("engine_name", engineName), ("type", type), ("role", role)])
  | _ => none

def propertiesIn? : List (String × Json) → Option (List FieldConfig)
  -- The fields under the member `properties`.
  | [] => some []
  | (key, value) :: rest => if key = "properties" then listOf? value else propertiesIn? rest

def listOf? : Json → Option (List FieldConfig)
  | .array items => itemsOf? items
  | _ => none

def itemsOf? : List Json → Option (List FieldConfig)
  | [] => some []
  | item :: rest =>
      match ofJson? item, itemsOf? rest with
      | some field, some fields => some (field :: fields)
      | _, _ => none

end

end FieldConfig

namespace RolloverConfig

def memberNames : List String :=
  ["write_alias", "read_alias", "index_prefix", "max_age", "max_docs", "max_size", "schedule"]

def ofJson? (value : Json) : Option RolloverConfig := do
  let members ← value.record? memberNames
  return {
    writeAlias := ← required? "write_alias" Json.text? members
    readAlias := ← optional? "read_alias" Json.text? members
    indexPrefix := ← optional? "index_prefix" Json.text? members
    maxAge := ← optional? "max_age" Json.text? members
    maxDocs := ← optional? "max_docs" (natBelow? (1 <<< 64)) members
    maxSize := ← optional? "max_size" Json.text? members
    schedule := ← optional? "schedule" Json.text? members }

end RolloverConfig

namespace SettingsConfig

def none : SettingsConfig := ⟨Option.none, Option.none, Option.none⟩

def ofJson? (value : Json) : Option SettingsConfig := do
  let members ← value.record? ["shards", "replicas", "refresh_interval"]
  return {
    shards := ← optional? "shards" (natBelow? (1 <<< 32)) members
    replicas := ← optional? "replicas" (natBelow? (1 <<< 32)) members
    refreshInterval := ← optional? "refresh_interval" Json.text? members }

end SettingsConfig

namespace RelationConfig

def ofJson? : Json → Option RelationConfig
  | .object [(kind, .object members)] =>
      if kind = "parent_of" then (required? "child" Json.text? members).map .parentOf
      else if kind = "child_of" then do
        let parent ← required? "parent" Json.text? members
        let routingField ← optional? "routing_field" Json.text? members
        return .childOf parent routingField
      else none
  | _ => none

end RelationConfig

namespace TypeConfig

def memberNames : List String :=
  ["name", "index_name", "alias", "time_pattern", "time_field", "rollover", "settings", "relation", "fields"]

def ofJson? (value : Json) : Option TypeConfig := do
  let members ← value.record? memberNames
  return {
    name := ← required? "name" Json.text? members
    indexName := ← optional? "index_name" Json.text? members
    aliasName := ← optional? "alias" Json.text? members
    timePattern := ← optional? "time_pattern" Json.text? members
    timeField := ← optional? "time_field" Json.text? members
    rollover := ← optional? "rollover" RolloverConfig.ofJson? members
    settings := ← withDefault? "settings" .none SettingsConfig.ofJson? members
    relation := ← optional? "relation" RelationConfig.ofJson? members
    fields := ← withDefault? "fields" [] FieldConfig.listOf? members }

end TypeConfig

end DocMapper
