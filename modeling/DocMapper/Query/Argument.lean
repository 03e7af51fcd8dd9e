import DocMapper.Error
import DocMapper.Geo
import DocMapper.Json.Printer
/-!
The arguments a method is called with, and what each use of one accepts.
-/

namespace DocMapper

inductive Argument where
  | value (value : Json)
  | point (p : GeoPoint)
  | distance (d : Distance)
  | box (box : GeoBox)
  | list (values : List Json)
deriving DecidableEq

namespace Argument

def ofJson (value : Json) : Argument :=
  -- An object of two members that reads as a box or as a point becomes one; all else stays a
  -- plain value.
  match value with
  | .object [a, b] =>
      let corner (key : String) := (Dict.find? key [a, b]).bind GeoPoint.ofJson?
      match corner "top_left", corner "bottom_right" with
      | some topLeft, some bottomRight => .box ⟨topLeft, bottomRight⟩
      | _, _ =>
          match GeoPoint.ofJson? value with
          | some p => .point p
          | none => .value value
  | _ => .value value

def describe : Argument → String
  | .value .null => "null"
  | .value (.string _) => "a string"
  | .value (.array _) | .list _ => "a list"
  | .value _ => "a value"
  | .point _ => "a point"
  | .distance _ => "a distance"
  | .box _ => "a box"

def scalar (token : String) : Argument → Except DerivationError Json
  | .value json => .ok json
  | other => .error (.invalidArgument token s!"expected a plain value, got {other.describe}")

def text (token : String) : Argument → Except DerivationError String
  -- A number or a truth value is also accepted as the text that spells it.
  | .value (.string text) => .ok text
  | .value (.number n) => .ok (Json.numberText n)
  | .value (.bool b) => .ok (Json.bool b).render
  | other => .error (.invalidArgument token s!"expected text, got {other.describe}")

def values (token : String) : Argument → Except DerivationError (List Json)
  -- A lone value is a collection of one.
  | .list items => .ok items
  | .value (.array items) => .ok items
  | .value .null => .error (.invalidArgument token "expected a collection, got null")
  | .value json => .ok [json]
  | other => .error (.invalidArgument token s!"expected a collection, got {other.describe}")

def pointOf (token : String) : Argument → Except DerivationError GeoPoint
  | .point p => .ok p
  | .value json =>
      match GeoPoint.ofJson? json with
      | some p => .ok p
      | none => .error (.invalidArgument token s!"expected a point, got {json.render}")
  | other => .error (.invalidArgument token s!"expected a point, got {other.describe}")

/-- The first `count` arguments, and those after them. -/
def take (token : String) (count : Nat) (arguments : List Argument) :
    Except DerivationError (List Argument × List Argument) :=
  if arguments.length < count then .error (.arityMismatch token count arguments.length)
  else .ok (arguments.take count, arguments.drop count)

def next (token : String) : List Argument → Except DerivationError (Argument × List Argument)
  | [] => .error (.arityMismatch token 1 0)
  | argument :: rest => .ok (argument, rest)

end Argument

end DocMapper
