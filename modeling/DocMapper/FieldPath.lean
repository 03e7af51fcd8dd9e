import DocMapper.Json.Basic
import DocMapper.Text.Pieces
/-!
Dotted paths to the fields of a document. A write along a path makes the objects it needs
and never replaces a value that is not an object: `assign?` then gives nothing.
-/

namespace DocMapper

structure FieldPath where
  text : String
deriving DecidableEq, Repr

namespace FieldPath

def segments (p : FieldPath) : List String :=
  Text.split '.' p.text

def child (p : FieldPath) (segment : String) : FieldPath :=
  if p.text.isEmpty then ⟨segment⟩ else ⟨p.text ++ "." ++ segment⟩

def lookupAlong : List String → Json → Option Json
  | [], value => some value
  | segment :: rest, .object members => (Dict.find? segment members).bind (lookupAlong rest)
  | _ :: _, _ => none

def lookup (p : FieldPath) (document : Json) : Option Json :=
  lookupAlong p.segments document

def assignAlong? (value : Json) : List String → Json → Option Json
  | [], _ => none
  | [last], .object members => some (.object (Dict.put last value members))
  | segment :: next :: rest, .object members =>
      (assignAlong? value (next :: rest) ((Dict.find? segment members).getD (.object []))).map fun inner =>
        .object (Dict.put segment inner members)
  | _ :: _, _ => none

def assign? (p : FieldPath) (value document : Json) : Option Json :=
  assignAlong? value p.segments document

end FieldPath

end DocMapper
