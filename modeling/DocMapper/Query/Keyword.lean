import DocMapper.Criteria.Basic
/-!
The words that say, at the end of a part of a method name, what the part asks of its
property. A part is read with the longest word that leaves a property in front of it, or as
plain equality with none.
-/

namespace DocMapper

inductive Keyword where
  | is
  | isNot
  | between
  | lessThan
  | lessThanEqual
  | greaterThan
  | greaterThanEqual
  | before
  | after
  | like
  | notLike
  | startingWith
  | endingWith
  | containing
  | notContaining
  | isIn
  | isNotIn
  | isTrue
  | isFalse
  | regex
  | fuzzy
  | near
  | within
  /-- The words from here on are known, so that they do not end up in a property, but there is no
  query for them. -/
  | present
  | isNull
  | isNotNull
  | isEmpty
  | isNotEmpty
deriving DecidableEq, Repr

namespace Keyword

def name : Keyword → String
  | .is => "Is"
  | .isNot => "IsNot"
  | .between => "Between"
  | .lessThan => "LessThan"
  | .lessThanEqual => "LessThanEqual"
  | .greaterThan => "GreaterThan"
  | .greaterThanEqual => "GreaterThanEqual"
  | .before => "Before"
  | .after => "After"
  | .like => "Like"
  | .notLike => "NotLike"
  | .startingWith => "StartingWith"
  | .endingWith => "EndingWith"
  | .containing => "Containing"
  | .notContaining => "NotContaining"
  | .isIn => "In"
  | .isNotIn => "NotIn"
  | .isTrue => "True"
  | .isFalse => "False"
  | .regex => "Regex"
  | .fuzzy => "Fuzzy"
  | .near => "Near"
  | .within => "Within"
  | .present => "Exists"
  | .isNull => "IsNull"
  | .isNotNull => "IsNotNull"
  | .isEmpty => "IsEmpty"
  | .isNotEmpty => "IsNotEmpty"

/-- Every spelling of every keyword; the order does not matter. -/
def spellings : List (String × Keyword) := [
  ("Is", .is), ("Equals", .is), ("IsNot", .isNot), ("Not", .isNot), ("IsBetween", .between),
  ("Between", .between), ("IsLessThan", .lessThan), ("LessThan", .lessThan),
  ("IsLessThanEqual", .lessThanEqual), ("LessThanEqual", .lessThanEqual),
  ("IsGreaterThan", .greaterThan), ("GreaterThan", .greaterThan),
  ("IsGreaterThanEqual", .greaterThanEqual), ("GreaterThanEqual", .greaterThanEqual),
  ("IsBefore", .before), ("Before", .before), ("IsAfter", .after), ("After", .after),
  ("IsLike", .like), ("Like", .like), ("IsNotLike", .notLike), ("NotLike", .notLike),
  ("IsStartingWith", .startingWith), ("StartingWith", .startingWith),
  ("StartsWith", .startingWith), ("IsEndingWith", .endingWith), ("EndingWith", .endingWith),
  ("EndsWith", .endingWith), ("IsContaining", .containing), ("Containing", .containing),
  ("Contains", .containing), ("IsNotContaining", .notContaining),
  ("NotContaining", .notContaining), ("NotContains", .notContaining), ("IsIn", .isIn),
  ("In", .isIn), ("IsNotIn", .isNotIn), ("NotIn", .isNotIn), ("IsTrue", .isTrue),
  ("True", .isTrue), ("IsFalse", .isFalse), ("False", .isFalse), ("MatchesRegex", .regex),
  ("Matches", .regex), ("Regex", .regex), ("IsFuzzy", .fuzzy), ("Fuzzy", .fuzzy),
  ("IsNear", .near), ("Near", .near), ("IsWithin", .within), ("Within", .within),
  ("Exists", .present), ("IsNull", .isNull), ("Null", .isNull), ("IsNotNull", .isNotNull),
  ("NotNull", .isNotNull), ("IsEmpty", .isEmpty), ("Empty", .isEmpty),
  ("IsNotEmpty", .isNotEmpty), ("NotEmpty", .isNotEmpty)]

/-- The property a part leaves in front of a spelling; a part that is all spelling leaves none. -/
def propertyBefore? (part : List Char) (spelling : String) : Option (List Char) :=
  match Text.after? spelling.toList.reverse part.reverse with
  | some (c :: rest) => some (c :: rest).reverse
  | _ => none

/-- The longer of two readings, the later one if they are as long. -/
def longer (a b : String × Keyword) : String × Keyword :=
  if b.1.length < a.1.length then a else b

/-- The longest spelling in a table that a part ends in. -/
def longestIn (table : List (String × Keyword)) (part : List Char) : Option (String × Keyword) :=
  match table.filter fun entry => (propertyBefore? part entry.1).isSome with
  | [] => none
  | first :: rest => some (rest.foldl longer first)

/-- A part read with a given table of spellings. -/
def splitWith (table : List (String × Keyword)) (part : List Char) : List Char × Keyword :=
  match longestIn table part with
  | some (spelling, keyword) => (part.take (part.length - spelling.length), keyword)
  | none => (part, .is)

def split (part : List Char) : List Char × Keyword :=
  splitWith spellings part

/-- The operator a keyword stands for and whether it is denied, where the arguments have no
say in it. -/
def operator? : Keyword → Option (Operator × Bool)
  | .is | .isTrue | .isFalse => some (.equals, false)
  | .isNot => some (.equals, true)
  | .between => some (.between, false)
  | .lessThan => some (.less, false)
  | .lessThanEqual | .before => some (.lessEqual, false)
  | .greaterThan => some (.greater, false)
  | .greaterThanEqual | .after => some (.greaterEqual, false)
  | .like | .startingWith => some (.startsWith, false)
  | .notLike => some (.startsWith, true)
  | .endingWith => some (.endsWith, false)
  | .containing => some (.contains, false)
  | .notContaining => some (.contains, true)
  | .isIn => some (.anyOf, false)
  | .isNotIn => some (.noneOf, false)
  | .regex => some (.expression, false)
  | .fuzzy => some (.fuzzy, false)
  | .near | .within | .present | .isNull | .isNotNull | .isEmpty | .isNotEmpty => none

def isSupported : Keyword → Bool
  | .present | .isNull | .isNotNull | .isEmpty | .isNotEmpty => false
  | _ => true

/-- How many arguments a keyword takes; the geo keywords take one instead of two if it is a box. -/
def arity : Keyword → Nat
  | .isTrue | .isFalse | .present | .isNull | .isNotNull | .isEmpty | .isNotEmpty => 0
  | .between | .near | .within => 2
  | _ => 1

end Keyword

end DocMapper
