import DocMapper.Error
import DocMapper.Query.Keyword
import DocMapper.Text.Blank
import DocMapper.Text.Case
/-!
Method names as queries. A name is a subject such as `find`, perhaps a limit, then after `By`
parts joined by `And` and `Or`, and after `OrderBy` the properties to sort by:

    findTop10ByNameContainingAndAgeBetweenOrPriceLessThanOrderByAgeDesc

These words count only where a new word begins after them, so `Organization` and `Android`
stay whole. A name in lower case with low lines between its words is read as if its words
began with capitals.
-/

namespace DocMapper

inductive Subject where
  | find
  | count
  | exist
  | delete
deriving DecidableEq, Repr

def Subject.name : Subject → String
  | .find => "find"
  | .count => "count"
  | .exist => "exists"
  | .delete => "delete"

/-- The words a method name can start with; no two start alike. -/
def Subject.words : List (String × Subject) := [
  ("find", .find), ("read", .find), ("get", .find), ("query", .find), ("search", .find),
  ("stream", .find), ("count", .count), ("exists", .exist), ("delete", .delete), ("remove", .delete)]

structure Part where
  raw : String
  property : String
  keyword : Keyword
deriving DecidableEq, Repr

def Part.ofChars (raw : List Char) : Part :=
  let (property, keyword) := Keyword.split raw
  ⟨String.ofList raw, String.ofList property, keyword⟩

structure OrderPart where
  raw : String
  property : String
  direction : Direction
deriving DecidableEq, Repr

/-- What a method name says. No groups mean that every document is meant. -/
structure MethodName where
  text : String
  subject : Subject
  distinct : Bool
  limit : Option Nat
  groups : List (List Part)
  sort : List OrderPart
deriving DecidableEq, Repr

namespace MethodName

def parts (m : MethodName) : List Part :=
  m.groups.flatten

def camelFrom (raise : Bool) : List Char → List Char
  | [] => []
  | c :: rest =>
      if c = '_' then camelFrom true rest
      else (if raise then Text.upperChar c else [c]) ++ camelFrom false rest

/-- Words between low lines become words with capitals; a name that has a capital stays. -/
def camelCase (name : List Char) : List Char :=
  if !name.contains '_' || name.any Text.isUpper then name else camelFrom false name

/-- Whether a new word begins here. A text's end begins none. -/
def beginsWord : List Char → Bool
  | [] => false
  | c :: _ => Text.isUpper c || c.toNat ≥ 128

/-- What stands before and after the first `word` that a new word follows. -/
def cutAtWord? (word : List Char) : List Char → Option (List Char × List Char)
  | [] => none
  | c :: rest =>
      let later := (cutAtWord? word rest).map fun cut => (c :: cut.1, cut.2)
      match Text.after? word (c :: rest) with
      | some tail => if beginsWord tail then some ([], tail) else later
      | none => later

/-- Cuts at every `word` that a new word follows; the first `skipped` characters belong to a
word already cut out. -/
def splitFrom (word : List Char) : Nat → List Char → List (List Char)
  | _, [] => [[]]
  | skipped + 1, _ :: rest => splitFrom word skipped rest
  | 0, c :: rest =>
      let atWord := match Text.after? word (c :: rest) with
        | some tail => beginsWord tail
        | none => false
      if atWord then [] :: splitFrom word (word.length - 1) rest
      else match splitFrom word 0 rest with
        | [] => [[c]]
        | piece :: more => (c :: piece) :: more

def splitAtWord (word : String) (text : List Char) : List (List Char) :=
  splitFrom word.toList 0 text

def afterMarker? (marker : List Char) : List Char → Option (List Char)
  -- What follows a marker of the limit: a number, a new word or nothing.
  | [] => none
  | c :: rest =>
      match Text.after? marker (c :: rest) with
      | some [] => some []
      | some (d :: tail) =>
          if d.isDigit || Text.isUpper d then some (d :: tail) else afterMarker? marker rest
      | none => afterMarker? marker rest

/-- The limit a marker gives: one, unless a number follows it. -/
def limitAfter (marker : String) (tail : List Char) : Except String Nat :=
  let digits := tail.takeWhile Char.isDigit
  let n := digits.foldl (fun n c => 10 * n + (c.toNat - '0'.toNat)) 0
  if digits.isEmpty then .ok 1
  else if n = 0 then .error s!"'{marker}0' asks for nothing"
  else if n < 1 <<< 64 then .ok n
  else .error s!"'{marker}{String.ofList digits}' is not a usable limit"

def limitOf (subject : List Char) : Except String (Option Nat) :=
  match afterMarker? "Top".toList subject with
  | some tail => (limitAfter "Top" tail).map some
  | none =>
      match afterMarker? "First".toList subject with
      | some tail => (limitAfter "First" tail).map some
      | none => .ok none

/-- The direction that ends a property to sort by: the clause's end or a new word follows it. -/
def direction? (text : List Char) : Option (String × Direction) :=
  [("Desc", Direction.desc), ("Asc", Direction.asc)].find? fun entry =>
    match Text.after? entry.1.toList text with
    | some tail => tail.isEmpty || beginsWord tail
    | none => false

/-- Reads the properties to sort by. `property` holds the one being read, last character
first; one without a direction at the end is ascending. -/
def orderFrom : Nat → List Char → List Char → List OrderPart
  | _, [], [] => []
  | _, c :: property, [] =>
      let name := String.ofList (c :: property).reverse
      [⟨name, name, .asc⟩]
  | skipped + 1, property, _ :: rest => orderFrom skipped property rest
  | 0, property, c :: rest =>
      match property.isEmpty, direction? (c :: rest) with
      | false, some (word, direction) =>
          let name := String.ofList property.reverse
          ⟨name ++ word, name, direction⟩ :: orderFrom (word.length - 1) [] rest
      | _, _ => orderFrom 0 (c :: property) rest

/-- The groups of a predicate, unless a word that joins has nothing on one side. -/
def groups? (predicate : List Char) : Option (List (List Part)) :=
  (splitAtWord "Or" predicate).mapM fun group =>
    (splitAtWord "And" group).mapM fun part =>
      if part.isEmpty then none else some (Part.ofChars part)

def noSubject : String :=
  "it does not start with find, read, get, query, search, stream, count, exists, delete or remove"

/-- The subject a name starts with, and what follows its word. -/
def subject? (name : List Char) : Option (Subject × List Char) :=
  Subject.words.findSome? fun entry =>
    (Text.after? entry.1.toList name).map fun rest => (entry.2, rest)

/-- Reads a name after its subject's word. -/
def parseRest (text : String) (subject : Subject) (rest : List Char) : Except String MethodName := do
  if (rest.head?.map Text.isLower).getD false then
    throw "the subject prefix must be followed by an uppercase letter"
  if Text.endsWith rest "By".toList then throw "it ends in 'By' with nothing to go by"
  let (head, order) := match cutAtWord? "OrderBy".toList rest with
    | some (head, clause) => (head, orderFrom 0 [] clause)
    | none => (rest, [])
  let (subjectText, predicate) := match cutAtWord? "By".toList head with
    | some (subjectText, predicate) => (subjectText, some predicate)
    | none => (head, none)
  let limit ← limitOf subjectText
  let groups ← match predicate with
    | none => pure []
    | some predicate =>
        match groups? predicate with
        | some groups => pure groups
        | none => throw "an And/Or has nothing on one side"
  return {
    text, subject, limit, groups
    distinct := Text.occurs "Distinct".toList subjectText
    sort := order }

def parse (text : String) : Except DerivationError MethodName :=
  let result := match subject? (camelCase (Text.trimChars text.toList)) with
    | some (subject, rest) => parseRest text subject rest
    | none => .error noSubject
  result.mapError fun reason => .malformedMethodName text reason

end MethodName

end DocMapper
