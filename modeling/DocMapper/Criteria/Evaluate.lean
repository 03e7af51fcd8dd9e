import DocMapper.Criteria.Basic
import DocMapper.Criteria.EditDistance
import DocMapper.Regex.Reading
import DocMapper.Text.Case
/-!
Whether a document satisfies a chain, decided from the document alone. A field with several
values satisfies a condition when one of them does, a missing or null field satisfies none,
and `noneOf` asks that none of the values is in the set. Texts compare without regard to
case where they are searched and by code point where they are ordered.
-/

namespace DocMapper

def compareDoubles? (a b : Float) : Option Ordering :=
  if a < b then some .lt else if a == b then some .eq else if b < a then some .gt else none

def compareTexts (a b : String) : Ordering :=
  if a < b then .lt else if a = b then .eq else .gt

/-- Numbers compare as numbers, texts by code point, a text with a number by the number it
spells; other pairs are not ordered. -/
def Json.compare? (actual expected : Json) : Option Ordering :=
  match actual, expected with
  | .number a, .number b => compareDoubles? a.toDouble b.toDouble
  | .string a, .string b => some (compareTexts a b)
  | .string a, .number b => (Decimal.parse? a).bind fun x => compareDoubles? x b.toDouble
  | .bool a, .bool b => some (compare a.toNat b.toNat)
  | _, _ => none

namespace Criteria

/-- Equal up to case, and up to whether a number is spelled as a text. -/
def looselyEqual (actual expected : Json) : Bool :=
  match actual, expected with
  | .string a, .string b => Text.lower a = Text.lower b
  | .number _, .number _ => actual.compare? expected = some .eq
  | .string a, .number b | .number b, .string a =>
      match Decimal.parse? a with
      | some x => x == b.toDouble
      | none => false
  | _, _ => actual.same expected

def anyValue (actual : Json) (check : Json → Bool) : Bool :=
  match actual with
  | .array items => items.any check
  | value => check value

def searchText (actual : Json) (expected : String) (check : List Char → List Char → Bool) : Bool :=
  match actual with
  | .string text => check (Text.lowerChars text.toList) (Text.lowerChars expected.toList)
  | _ => false

def inSet (actual : Json) (values : List Json) : Bool :=
  values.any fun value => looselyEqual actual value

def atLeast (actual bound : Json) : Bool :=
  actual.compare? bound = some .gt || actual.compare? bound = some .eq

def atMost (actual bound : Json) : Bool :=
  actual.compare? bound = some .lt || actual.compare? bound = some .eq

def nearEnough (actual expected : List Char) : Bool :=
  EditDistance.distance actual expected ≤ EditDistance.allowance expected

/-- A condition on one value of a field; geo conditions and `noneOf` look at the whole field. -/
def valueHolds (condition : Condition) (actual : Json) : Bool :=
  match condition with
  | .equals value => looselyEqual actual value
  | .contains text => searchText actual text fun a e => Text.occurs e a
  | .startsWith text => searchText actual text Text.startsWith
  | .endsWith text => searchText actual text Text.endsWith
  | .fuzzy text => searchText actual text nearEnough
  | .expression pattern =>
      match actual with
      | .string text => Regex.spans pattern text
      | _ => false
  | .between low high => low.all (atLeast actual) && high.all (atMost actual)
  | .less value => actual.compare? value = some .lt
  | .lessEqual value => atMost actual value
  | .greater value => actual.compare? value = some .gt
  | .greaterEqual value => atLeast actual value
  | .anyOf values => inSet actual values
  | .noneOf _ | .within _ _ | .boundedBy _ => false

/-- A field that reads as one point counts as that point, else a list as its points. -/
def pointHolds (actual : Json) (check : GeoPoint → Bool) : Bool :=
  match GeoPoint.ofJson? actual with
  | some p => check p
  | none =>
      match actual with
      | .array items => (items.filterMap GeoPoint.ofJson?).any check
      | _ => false

def inCircle (center : GeoPoint) (radius : Distance) (p : GeoPoint) : Bool :=
  p.distanceKm center ≤ radius.inKm

/-- A condition on the field's value, which is there and not null. -/
def fieldHolds (condition : Condition) (actual : Json) : Bool :=
  match condition with
  | .noneOf values => !anyValue actual fun value => inSet value values
  | .within center radius => pointHolds actual (inCircle center radius)
  | .boundedBy box => pointHolds actual box.contains
  | condition => anyValue actual (valueHolds condition)

def nodeHolds (n : Node) (document : Json) : Bool :=
  let raw := match n.field.lookup document with
    | none | some .null => false
    | some actual => fieldHolds n.condition actual
  raw != n.negated

def runHolds (document : Json) (run : List Node) : Bool :=
  run.all fun n => nodeHolds n document

def holds (c : Criteria) (document : Json) : Bool :=
  c.nodes.isEmpty || c.runs.any (runHolds document)

end Criteria

end DocMapper
