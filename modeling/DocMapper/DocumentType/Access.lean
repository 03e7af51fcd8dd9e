import DocMapper.DocumentType.Basic
import DocMapper.Json.Printer
import DocMapper.Time.Reading
/-!
Reading and writing the fields with roles in a document. A write gives nothing when the type
has no such field or the document has no room for it.
-/

namespace DocMapper.DocumentType

def roleValue (t : DocumentType) (role : Role) (document : Json) : Option Json :=
  (t.roleField role).bind fun path => path.lookup document

def assignRole? (t : DocumentType) (role : Role) (value document : Json) : Option Json :=
  (t.roleField role).bind fun path => path.assign? value document

/-- As `assignRole?`, leaving a document alone that cannot be written. -/
def withRole (t : DocumentType) (role : Role) (value document : Json) : Json :=
  (t.assignRole? role value document).getD document

/-- A text or a number as a text. -/
def scalarText : Json → Option String
  | .string text => some text
  | .number n => some (Json.numberText n)
  | _ => none

def identityOf (t : DocumentType) (document : Json) : Option String :=
  (t.roleValue .identity document).bind scalarText

def versionOf (t : DocumentType) (document : Json) : Option Int :=
  (t.roleValue .version document).bind Json.int?

def parentIdOf (t : DocumentType) (document : Json) : Option String :=
  (t.roleValue .parentId document).bind scalarText

/-- The value that picks a child's shard. -/
def routingOf (t : DocumentType) (document : Json) : Option String :=
  match t.relation with
  | .childOf _ routing => (routing.lookup document).bind scalarText
  | _ => none

/-- The instant a value stands for: a timestamp, a date, or milliseconds since 1970. -/
def instantOf : Json → Option Instant
  | .string text => Instant.ofText? text
  | .number n => n.int?.bind Instant.ofMillis?
  | _ => none

/-- The instant that picks the index of a document. -/
def timeOf (t : DocumentType) (document : Json) : Option Instant :=
  match t.addressing with
  | .timeBased _ (some field) => (field.lookup document).bind instantOf
  | _ => none

end DocMapper.DocumentType
