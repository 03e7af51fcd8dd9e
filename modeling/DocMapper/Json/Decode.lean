import DocMapper.Json.Basic
/-!
Reading records out of JSON. Members nobody asks for are passed over, a missing member has a
default or is an error, and a null is no value only where a value may be missing. A record
may also be written as the list of its members in order.
-/

namespace DocMapper.Json

/-- The members of a record, by name. -/
def record? (names : List String) : Json → Option (Dict Json)
  | .object members => some members
  | .array items => if items.length ≤ names.length then some (names.zip items) else none
  | _ => none

namespace Decode

def required? {α : Type} (key : String) (read : Json → Option α) (members : Dict Json) : Option α :=
  (Dict.find? key members).bind read

def withDefault? {α : Type} (key : String) (default : α) (read : Json → Option α) (members : Dict Json) :
    Option α :=
  match Dict.find? key members with
  | some value => read value
  | none => some default

def optional? {α : Type} (key : String) (read : Json → Option α) (members : Dict Json) : Option (Option α) :=
  match Dict.find? key members with
  | none | some .null => some none
  | some value => (read value).map some

def natBelow? (limit : Nat) (value : Json) : Option Nat :=
  value.nat?.filter (· < limit)

/-- A word for one of several choices. A choice may also be the only member of an object,
with nothing in it. -/
def word? : Json → Option String
  | .string word => some word
  | .object [(word, .null)] => some word
  | _ => none

end Decode

end DocMapper.Json
