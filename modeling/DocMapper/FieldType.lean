/-!
The types of fields, by the words the engine has for them.
-/

namespace DocMapper

inductive FieldType where
  | text
  | keyword
  | long
  | integer
  | double
  | float
  | boolean
  | date
  | geoPoint
  | completion
  | object
  | nested
deriving DecidableEq, Repr

namespace FieldType

def all : List FieldType :=
  [.text, .keyword, .long, .integer, .double, .float, .boolean, .date, .geoPoint, .completion, .object, .nested]

def name : FieldType → String
  | .text => "text"
  | .keyword => "keyword"
  | .long => "long"
  | .integer => "integer"
  | .double => "double"
  | .float => "float"
  | .boolean => "boolean"
  | .date => "date"
  | .geoPoint => "geo_point"
  | .completion => "completion"
  | .object => "object"
  | .nested => "nested"

def isGeo (t : FieldType) : Bool :=
  t = .geoPoint

def ofName? (name : String) : Option FieldType :=
  all.find? fun t => t.name = name

end FieldType

end DocMapper
