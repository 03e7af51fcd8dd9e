import DocMapper.FieldPath
import DocMapper.Geo
import DocMapper.Json.Printer
/-!
Criteria: an ordered chain of conditions on fields. The chain is flat. A condition that
joins with `or` opens a new run, and the chain asks for any run all of whose conditions
hold, so that `a and b or c and d` means `(a and b) or (c and d)`. How the first node joins
is never looked at.
-/

namespace DocMapper

/-- What is asked of a field. -/
inductive Condition where
  | equals (value : Json)
  | contains (text : String)
  | startsWith (text : String)
  | endsWith (text : String)
  | fuzzy (text : String)
  | expression (pattern : String)
  | between (low high : Option Json)
  | less (value : Json)
  | lessEqual (value : Json)
  | greater (value : Json)
  | greaterEqual (value : Json)
  | anyOf (values : List Json)
  | noneOf (values : List Json)
  | within (center : GeoPoint) (radius : Distance)
  | boundedBy (box : GeoBox)
deriving DecidableEq

inductive Operator where
  | equals
  | contains
  | startsWith
  | endsWith
  | fuzzy
  | expression
  | between
  | less
  | lessEqual
  | greater
  | greaterEqual
  | anyOf
  | noneOf
  | within
  | boundedBy
deriving DecidableEq, Repr

def Operator.name : Operator → String
  | .equals => "EQUALS"
  | .contains => "CONTAINS"
  | .startsWith => "STARTS_WITH"
  | .endsWith => "ENDS_WITH"
  | .fuzzy => "FUZZY"
  | .expression => "EXPRESSION"
  | .between => "BETWEEN"
  | .less => "LESS"
  | .lessEqual => "LESS_EQUAL"
  | .greater => "GREATER"
  | .greaterEqual => "GREATER_EQUAL"
  | .anyOf => "IN"
  | .noneOf => "NOT_IN"
  | .within => "WITHIN"
  | .boundedBy => "BOUNDED_BY"

def Operator.isFilter : Operator → Bool
  -- Geo operators filter, they do not score.
  | .within | .boundedBy => true
  | _ => false

namespace Condition

def operator : Condition → Operator
  | .equals _ => .equals
  | .contains _ => .contains
  | .startsWith _ => .startsWith
  | .endsWith _ => .endsWith
  | .fuzzy _ => .fuzzy
  | .expression _ => .expression
  | .between _ _ => .between
  | .less _ => .less
  | .lessEqual _ => .lessEqual
  | .greater _ => .greater
  | .greaterEqual _ => .greaterEqual
  | .anyOf _ => .anyOf
  | .noneOf _ => .noneOf
  | .within _ _ => .within
  | .boundedBy _ => .boundedBy

def isFilter (c : Condition) : Bool :=
  c.operator.isFilter

/-- Whether the condition is the denial of the clause it is written with. -/
def isDenial (c : Condition) : Bool :=
  c.operator = .noneOf

def boundText (bound : Option Json) : String :=
  match bound with
  | some value => value.render
  | none => "*"

def operandText : Condition → String
  | .equals value | .less value | .lessEqual value | .greater value | .greaterEqual value => value.render
  | .contains text | .startsWith text | .endsWith text | .fuzzy text | .expression text =>
      Json.quoted text
  | .between low high => s!"[{boundText low}, {boundText high}]"
  | .anyOf values | .noneOf values => (Json.array values).render
  | .within center radius => s!"{radius.format} of {center.format}"
  | .boundedBy box => s!"{box.topLeft.format}..{box.bottomRight.format}"

end Condition

/-- How a node joins the nodes before it. -/
inductive Joint where
  | and
  | or
deriving DecidableEq, Repr

structure Node where
  field : FieldPath
  condition : Condition
  negated : Bool
  boost : Option Float32
  joint : Joint
deriving DecidableEq

namespace Node

/-- A plain node: neither negated nor boosted. -/
def ofCondition (field : FieldPath) (condition : Condition) (joint : Joint) : Node where
  field := field
  condition := condition
  negated := false
  boost := none
  joint := joint

def boosted (n : Node) (boost : Float32) : Node :=
  -- A boost that is no number counts as none.
  { n with boost := if boost.isNaN then none else some boost }

def boostText (n : Node) : String :=
  match n.boost with
  | some boost => "^" ++ Layout.single boost
  | none => ""

def format (n : Node) : String :=
  (if n.negated then "NOT " else "") ++ s!"{n.field.text} {n.condition.operator.name} " ++
    n.condition.operandText ++ n.boostText

end Node

structure Criteria where
  nodes : List Node
deriving DecidableEq

namespace Criteria

def everything : Criteria := ⟨[]⟩

def push (c : Criteria) (n : Node) : Criteria :=
  ⟨c.nodes ++ [n]⟩

/-- Appends a chain, its first node joining as given. -/
def append (a : Criteria) (joint : Joint) (b : Criteria) : Criteria :=
  match b.nodes with
  | [] => a
  | first :: rest => ⟨a.nodes ++ { first with joint := joint } :: rest⟩

def andAlso (a b : Criteria) : Criteria := a.append .and b

def orElse (a b : Criteria) : Criteria := a.append .or b

/-- Cuts a chain before each node but the first that joins with `or`. -/
def runsOf : List Node → List (List Node)
  | [] => []
  | [n] => [[n]]
  | n :: next :: rest =>
      match runsOf (next :: rest) with
      | [] => [[n]]
      | run :: others =>
          if next.joint = .or then [n] :: run :: others else (n :: run) :: others

def runs (c : Criteria) : List (List Node) :=
  runsOf c.nodes

theorem flatten_runsOf (nodes : List Node) : (runsOf nodes).flatten = nodes := by
  induction nodes with
  | nil => rfl
  | cons n rest ih =>
      cases rest with
      | nil => rfl
      | cons next more =>
          simp only [runsOf]
          split
          · next h => rw [h] at ih; simp at ih
          · next run others h =>
              rw [h] at ih
              split <;> simpa using ih

def formatRest : List Node → String
  | [] => ""
  | n :: rest => (if n.joint = .or then " OR " else " AND ") ++ n.format ++ formatRest rest

def format (c : Criteria) : String :=
  match c.nodes with
  | [] => "<everything>"
  | n :: rest => n.format ++ formatRest rest

end Criteria

inductive Direction where
  | asc
  | desc
deriving DecidableEq, Repr

def Direction.word : Direction → String
  | .asc => "asc"
  | .desc => "desc"

/-- One key to order results by; it stands beside a chain, not in it. -/
structure SortKey where
  field : FieldPath
  direction : Direction
deriving DecidableEq, Repr

end DocMapper
