import DocMapper.DocumentType.Basic
import DocMapper.Json.Parser
import DocMapper.Json.Printer
/-!
Records as an application writes them and documents as the engine stores them: the same
values under the names of the one or the other. Names nobody declared stay, and lists are
renamed item by item.
-/

namespace DocMapper.DocumentType

inductive Naming where
  | toEngine
  | fromEngine
deriving DecidableEq, Repr

namespace Naming

def source (n : Naming) (f : Field) : String :=
  match n with
  | .toEngine => f.name
  | .fromEngine => f.engineName

def target (n : Naming) (f : Field) : String :=
  match n with
  | .toEngine => f.engineName
  | .fromEngine => f.name

def find? (n : Naming) (fields : List Field) (key : String) : Option Field :=
  fields.find? fun f => n.source f = key

end Naming

mutual

def rename (n : Naming) (fields : List Field) : Json → Json
  | .object members => .object (renameMembers n fields [] members)
  | .array items => .array (renameItems n fields items)
  | value => value

def renameMembers (n : Naming) (fields : List Field) (renamed : Dict Json) : List (String × Json) → Dict Json
  -- Renamed members join those before them; of two with one name the later counts.
  | [] => renamed
  | (key, value) :: rest =>
      match n.find? fields key with
      | some f => renameMembers n fields (Dict.put (n.target f) (rename n f.properties value) renamed) rest
      | none => renameMembers n fields (Dict.put key value renamed) rest

def renameItems (n : Naming) (fields : List Field) : List Json → List Json
  | [] => []
  | item :: rest => rename n fields item :: renameItems n fields rest

end

def toEngine (t : DocumentType) (record : Json) : Json :=
  rename .toEngine t.fields record

def fromEngine (t : DocumentType) (document : Json) : Json :=
  rename .fromEngine t.fields document

def toWire (t : DocumentType) (record : Json) : String :=
  (t.toEngine record).render

/-- Bytes that came back and are no document. -/
structure WireError where
  bytes : Nat
  type : String
deriving DecidableEq, Repr

def WireError.message (e : WireError) : String :=
  s!"💀 {e.bytes} bytes came back for '{e.type}' and none of them were JSON"

def fromWire (t : DocumentType) (text : String) : Except WireError Json :=
  match Json.parse? text with
  | some document => .ok (t.fromEngine document)
  | none => .error ⟨text.utf8ByteSize, t.name⟩

end DocMapper.DocumentType
