import DocMapper.Deployment
import DocMapper.Settings.Layers
import DocMapper.Toml.Document
/-!
Where a deployment comes from: a file, and under it the environment variables of the process.
Neither need be there, and what both leave out has its default.
-/

namespace DocMapper

namespace Settings

/-- Of several kinds of relation the first by name counts. -/
def firstMember : Json → Json
  | .object (first :: _) => .object [first]
  | value => value

def inTypes (f : Json → Json) : Json → Json
  | .array types => .array (types.map f)
  | value => value

def oneRelation : Json → Json
  | .object members => .object (Dict.modify "relation" firstMember members)
  | value => value

def ofFile? : Option String → Option Json
  | some text => (Toml.parse? text).map .object
  | none => some (.object [])

end Settings

/-- The deployment that a file and the variables of a process describe. -/
def Deployment.load? (file : Option String) (process : Dict String) : Option Deployment := do
  let settings := Settings.overlaid (Settings.ofVariables process) (← Settings.ofFile? file)
  match settings with
  | .object members =>
      ofJson? (.object (Dict.modify "document_types" (Settings.inTypes Settings.oneRelation) members))
  | _ => none

end DocMapper
