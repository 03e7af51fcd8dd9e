import DocMapper.DocumentType.Config
import DocMapper.FieldPath
import DocMapper.Rollover.Conditions
import DocMapper.Schedule.Basic
/-!
A document type that has been checked: its fields with their paths in the engine's names, the
roles some of them have, and where its documents live.
-/

namespace DocMapper

structure Field where
  name : String
  engineName : String
  path : FieldPath
  type : FieldType
  role : Option Role
  properties : List Field

/-- The aliases of a series of indices, named after its prefix and a number. -/
structure RolloverAliases where
  writeAlias : String
  readAlias : Option String
  indexPrefix : String
deriving DecidableEq, Repr

/-- Where documents live: in one index, in one index per stretch of time, or in a series of
indices behind a write alias. -/
inductive Addressing where
  | fixed (index : String)
  /-- Without a time field the present picks the index. -/
  | timeBased (pattern : String) (timeField : Option FieldPath)
  | rollover (aliases : RolloverAliases) (conditions : RolloverConditions)
deriving DecidableEq, Repr

def Addressing.name : Addressing → String
  | .fixed _ => "fixed"
  | .timeBased _ _ => "time-based"
  | .rollover _ _ => "rollover"

/-- How a type relates to another one. Children live on the shard of their parent, which the
value at `routing` picks. -/
inductive Relation where
  | none
  | parentOf (child : String)
  | childOf (parent : String) (routing : FieldPath)
deriving DecidableEq, Repr

structure DocumentType where
  name : String
  indexName : String
  aliasName : Option String
  addressing : Addressing
  relation : Relation
  settings : SettingsConfig
  fields : List Field
  roles : List (Role × FieldPath)
  /-- How often to check the rollover conditions, where the type says so itself. -/
  rolloverSchedule : Option Schedule

namespace DocumentType

def roleField (t : DocumentType) (role : Role) : Option FieldPath :=
  t.roles.lookup role

def isRolloverBacked (t : DocumentType) : Bool :=
  match t.addressing with
  | .rollover _ _ => true
  | _ => false

/-- The field that a path of engine names leads to. -/
def fieldAlong? (fields : List Field) : List String → Option Field
  | [] => none
  | [last] => fields.find? fun f => f.engineName = last
  | segment :: next :: rest =>
      match fields.find? fun f => f.engineName = segment with
      | some f => fieldAlong? f.properties (next :: rest)
      | none => none

def fieldAt? (t : DocumentType) (path : FieldPath) : Option Field :=
  fieldAlong? t.fields path.segments

end DocumentType

end DocMapper
