import DocMapper.DocumentType.Build
/-!
The document types of a program. Descriptions are kept under their names as written; each is
checked when it is first asked for and the result is kept, while a fault is found anew each
time. A new description under a name forgets what was built from the old one.
-/

namespace DocMapper

structure Registry where
  env : Environment
  configs : Dict TypeConfig
  built : Dict DocumentType

namespace Registry

def empty (env : Environment) : Registry := ⟨env, [], []⟩

def register (r : Registry) (config : TypeConfig) : Registry :=
  { r with configs := Dict.put config.name config r.configs, built := Dict.remove config.name r.built }

def ofConfigs (env : Environment) (configs : List TypeConfig) : Registry :=
  configs.foldl register (empty env)

def names (r : Registry) : List String :=
  Dict.keys r.configs

def get (r : Registry) (name : String) : Except ConfigError DocumentType × Registry :=
  match Dict.find? name r.configs with
  | none => (.error (.unknownDocumentType name), r)
  | some config =>
      match Dict.find? name r.built with
      | some t => (.ok t, r)
      | none =>
          match DocumentType.build r.env config with
          | .ok t => (.ok t, { r with built := Dict.put name t r.built })
          | .error e => (.error e, r)

/-- Checks types in turn, up to the first that has a fault. -/
def getEach (r : Registry) : List String → Except ConfigError (List DocumentType) × Registry
  | [] => (.ok [], r)
  | name :: rest =>
      match r.get name with
      | (.error e, r) => (.error e, r)
      | (.ok t, r) =>
          match r.getEach rest with
          | (.error e, r) => (.error e, r)
          | (.ok ts, r) => (.ok (t :: ts), r)

def validateAll (r : Registry) : Except ConfigError (List DocumentType) × Registry :=
  r.getEach r.names

end Registry

end DocMapper
