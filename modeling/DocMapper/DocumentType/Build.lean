import DocMapper.DocumentType.Resolve
import DocMapper.Placeholder
import DocMapper.Time.Pattern
/-!
Checking a description of a document type. Its texts are filled in from the environment
first; then every role must belong to one field, siblings must differ in their engine names,
and the addressing must be usable. A rollover block decides the addressing, without one a
time pattern does, and without both there is one index.
-/

namespace DocMapper.DocumentType

/-- A text with its placeholders filled in and without blanks around it. -/
def filled (env : Environment) (raw : Option String) : Option String :=
  raw.map fun text => Text.trim (Placeholder.resolve env text)

def filledNonempty (env : Environment) (raw : Option String) : Option String :=
  -- As `filled`; a text of nothing but blanks counts as none.
  (filled env raw).filter fun text => text ≠ ""

/-- The fields bound to roles so far, by their names in the application and their paths. -/
abbrev Bindings := List (Role × (String × FieldPath))

def languageChild (parent name : String) : String :=
  if parent = "" then name else s!"{parent}.{name}"

def bindRole (type : String) (role : Option Role) (name : String) (path : FieldPath) (bound : Bindings) :
    Except ConfigError Bindings :=
  match role with
  | none => .ok bound
  | some role =>
      match bound.lookup role with
      | some (first, _) => .error (.duplicateFieldRole type role.name first name)
      | none => .ok (bound ++ [(role, (name, path))])

def engineNameOf (env : Environment) (name : String) (config : Option String) : String :=
  match config with
  | some engineName => Placeholder.resolve env engineName
  | none => name

mutual

/-- Builds a field below a parent, among siblings whose engine names have been `seen`. -/
def buildField (env : Environment) (type : String) (parent : FieldPath) (languageParent : String)
    (seen : List String) (bound : Bindings) : FieldConfig → Except ConfigError (Field × Bindings)
  | ⟨rawName, rawEngineName, fieldType, role, properties⟩ => do
      let name := Placeholder.resolve env rawName
      let engineName := engineNameOf env name rawEngineName
      if seen.contains engineName then throw (.duplicateField type engineName)
      let path := parent.child engineName
      let languagePath := languageChild languageParent name
      let bound ← bindRole type role languagePath path bound
      let (properties, bound) ← buildFields env type path languagePath [] bound properties
      return ({ name, engineName, path, type := fieldType, role, properties }, bound)

def buildFields (env : Environment) (type : String) (parent : FieldPath) (languageParent : String)
    (seen : List String) (bound : Bindings) : List FieldConfig → Except ConfigError (List Field × Bindings)
  | [] => .ok ([], bound)
  | config :: rest => do
      let (field, bound) ← buildField env type parent languageParent seen bound config
      let (fields, bound) ← buildFields env type parent languageParent (field.engineName :: seen) bound rest
      return (field :: fields, bound)

end

/-- Reads a text if there is one. -/
def readOption {α : Type} (read : String → Except ConfigError α) : Option String → Except ConfigError (Option α)
  | some raw => (read raw).map some
  | none => .ok none

def rolloverAddressing (env : Environment) (type : String) (config : RolloverConfig) :
    Except ConfigError (Addressing × Option Schedule) := do
  let writeAlias := Text.trim (Placeholder.resolve env config.writeAlias)
  if writeAlias = "" then throw (.emptyWriteAlias type)
  let maxAge ← readOption Duration.parse (filledNonempty env config.maxAge)
  let maxSize ← readOption ByteSize.parse (filledNonempty env config.maxSize)
  let conditions : RolloverConditions := ⟨maxAge, config.maxDocs.filter (0 < ·), maxSize⟩
  if conditions.isEmpty then throw (.emptyRolloverConditions type)
  let schedule ← readOption Schedule.parse (filledNonempty env config.schedule)
  let aliases : RolloverAliases := {
    writeAlias
    readAlias := filledNonempty env config.readAlias
    indexPrefix := (filledNonempty env config.indexPrefix).getD writeAlias }
  return (.rollover aliases conditions, schedule)

def timeAddressing (type : String) (fields : List Field) (pattern : String) (timeField : Option String) :
    Except ConfigError Addressing := do
  if pattern = "" then throw (.emptyTimePattern type)
  if !TimePattern.isValid pattern then throw (.invalidTimePattern type pattern)
  match timeField.filter (· ≠ "") with
  | none => return .timeBased pattern none
  | some field =>
      match resolveIn fields field with
      | some property => return .timeBased pattern (some property.path)
      | none => throw (.unknownTimeField type field)

def addressingOf (env : Environment) (config : TypeConfig) (type indexName : String) (fields : List Field) :
    Except ConfigError (Addressing × Option Schedule) :=
  match config.rollover, filled env config.timePattern with
  | some rollover, _ => rolloverAddressing env type rollover
  | none, some pattern => do
      return (← timeAddressing type fields pattern (filled env config.timeField), none)
  | none, none => .ok (.fixed indexName, none)

def relationOf (env : Environment) (config : Option RelationConfig) (type : String) (fields : List Field)
    (roles : List (Role × FieldPath)) : Except ConfigError Relation :=
  match config with
  | none => .ok .none
  | some (.parentOf child) => .ok (.parentOf (Placeholder.resolve env child))
  | some (.childOf rawParent routingField) =>
      let parent := Placeholder.resolve env rawParent
      match routingField with
      | some field =>
          match resolveIn fields field with
          | some property => .ok (.childOf parent property.path)
          | none => .error (.unknownRoutingField type field)
      | none =>
          match roles.lookup .parentId with
          | some path => .ok (.childOf parent path)
          | none => .error (.missingParentRouting type parent)

def build (env : Environment) (config : TypeConfig) : Except ConfigError DocumentType := do
  let name := Placeholder.resolve env config.name
  let indexName := (filled env config.indexName).getD (Text.lower name)
  if indexName = "" then throw (.emptyIndexName name)
  let (fields, bound) ← buildFields env name ⟨""⟩ "" [] [] config.fields
  let roles := bound.map fun binding => (binding.1, binding.2.2)
  let (addressing, rolloverSchedule) ← addressingOf env config name indexName fields
  let relation ← relationOf env config.relation name fields roles
  return {
    name, indexName, addressing, relation, fields, roles, rolloverSchedule
    aliasName := filledNonempty env config.aliasName
    settings := { config.settings with refreshInterval := filled env config.settings.refreshInterval } }

end DocMapper.DocumentType
