import DocMapper.FieldType
import DocMapper.Query.Argument
import DocMapper.Query.MethodName
/-!
From a method name, the properties of a document type and arguments to criteria. Parts take
their arguments from the left, in the order they are written, as many as each keyword
needs; none may be missing and none may be left over.

A part whose property is unknown is read once more, whole, as a property that is asked for
equality. Equality on a geo field asks for a circle of one metre, and what `Near` and
`Within` ask for depends on the shape of their arguments.
-/

namespace DocMapper

/-- A property as the engine knows it. -/
structure ResolvedProperty where
  path : FieldPath
  type : FieldType
deriving DecidableEq, Repr

abbrev Resolver := String → Option ResolvedProperty

/-- What to do, with which documents, in which order, and with how many. -/
structure CompiledQuery where
  subject : Subject
  criteria : Criteria
  sort : List SortKey
  limit : Option Nat
deriving DecidableEq

namespace Query

/-- How far from a point still counts as being there. -/
def exactPointRadius : Distance := .km 0.001

def resolvePart (resolve : Resolver) (part : Part) : Except DerivationError (ResolvedProperty × Keyword) :=
  match resolve part.property with
  | some property => .ok (property, part.keyword)
  | none =>
      match (if part.keyword = .is then none else resolve part.raw) with
      | some property => .ok (property, .is)
      | none => .error (.missingProperty part.raw part.property)

/-- A box, or a point and a corner opposite to it, or a point and a distance from it. -/
def nearby (token : String) (arguments : List Argument) :
    Except DerivationError (Condition × List Argument) := do
  let (first, rest) ← Argument.next token arguments
  match first with
  | .box box => return (.boundedBy box, rest)
  | first =>
      let center ← first.pointOf token
      let (second, rest) ← Argument.next token rest
      let corner (a : Argument) : Except DerivationError (Condition × List Argument) := do
        return (.boundedBy ⟨center, ← a.pointOf token⟩, rest)
      match second with
      | .distance radius => return (.within center radius, rest)
      | .value (.string raw) =>
          match Distance.parse raw with
          | .ok radius => return (.within center radius, rest)
          | .error _ => corner second
      | _ => corner second

def noQuery (token : String) (keyword : Keyword) : DerivationError :=
  .unsupportedPredicate token keyword.name

def onArgument {α : Type} (token : String) (arguments : List Argument)
    (read : String → Argument → Except DerivationError α) (condition : α → Condition) :
    Except DerivationError (Condition × List Argument) := do
  let (argument, rest) ← Argument.next token arguments
  return (condition (← read token argument), rest)

def bound (value : Json) : Option Json :=
  -- Null as a bound leaves that end open.
  if value.isNull then none else some value

/-- The condition of a keyword with a fixed operator. -/
def conditionOf (token : String) (keyword : Keyword) (operator : Operator) (isGeo : Bool)
    (arguments : List Argument) : Except DerivationError (Condition × List Argument) :=
  match keyword with
  | .isTrue => .ok (.equals (.bool true), arguments)
  | .isFalse => .ok (.equals (.bool false), arguments)
  | _ =>
      match operator with
      | .equals =>
          if isGeo then onArgument token arguments (fun t a => a.pointOf t) (.within · exactPointRadius)
          else onArgument token arguments (fun t a => a.scalar t) .equals
      | .between => do
          let (bounds, rest) ← Argument.take token 2 arguments
          match bounds with
          | [low, high] => return (.between (bound (← low.scalar token)) (bound (← high.scalar token)), rest)
          | _ => throw (noQuery token keyword)
      | .less => onArgument token arguments (fun t a => a.scalar t) .less
      | .lessEqual => onArgument token arguments (fun t a => a.scalar t) .lessEqual
      | .greater => onArgument token arguments (fun t a => a.scalar t) .greater
      | .greaterEqual => onArgument token arguments (fun t a => a.scalar t) .greaterEqual
      | .startsWith => onArgument token arguments (fun t a => a.text t) .startsWith
      | .endsWith => onArgument token arguments (fun t a => a.text t) .endsWith
      | .contains => onArgument token arguments (fun t a => a.text t) .contains
      | .fuzzy => onArgument token arguments (fun t a => a.text t) .fuzzy
      | .expression => onArgument token arguments (fun t a => a.text t) .expression
      | .anyOf => onArgument token arguments (fun t a => a.values t) .anyOf
      | .noneOf => onArgument token arguments (fun t a => a.values t) .noneOf
      | .within | .boundedBy => .error (noQuery token keyword)

/-- The condition of a part, and whether it is denied. -/
def condition (token : String) (keyword : Keyword) (isGeo : Bool) (arguments : List Argument) :
    Except DerivationError ((Condition × Bool) × List Argument) :=
  if !keyword.isSupported then .error (noQuery token keyword)
  else if keyword = .near || keyword = .within then
    (nearby token arguments).map fun (condition, rest) => ((condition, false), rest)
  else match keyword.operator? with
    | none => .error (noQuery token keyword)
    | some (operator, negated) =>
        (conditionOf token keyword operator isGeo arguments).map fun (condition, rest) =>
          ((condition, negated), rest)

def node (resolve : Resolver) (joint : Joint) (part : Part) (arguments : List Argument) :
    Except DerivationError (Node × List Argument) := do
  let (property, keyword) ← resolvePart resolve part
  let ((condition, negated), rest) ← condition part.raw keyword property.type.isGeo arguments
  return ({ Node.ofCondition property.path condition joint with negated := negated }, rest)

/-- The nodes of parts that follow each other, and the arguments they leave. -/
def nodes (resolve : Resolver) : List (Joint × Part) → List Argument →
    Except DerivationError (List Node × List Argument)
  | [], arguments => .ok ([], arguments)
  | (joint, part) :: parts, arguments => do
      let (first, rest) ← node resolve joint part arguments
      let (others, rest) ← nodes resolve parts rest
      return (first :: others, rest)

/-- The parts of a group, the first one joining as given and the others with `and`. -/
def jointed (joint : Joint) : List Part → List (Joint × Part)
  | [] => []
  | part :: rest => (joint, part) :: rest.map fun p => (.and, p)

/-- All parts of a name; the first part of every group but the first opens a new run. -/
def jointedParts : List (List Part) → List (Joint × Part)
  | [] => []
  | group :: rest => jointed .and group ++ rest.flatMap (jointed .or)

def sortKey (resolve : Resolver) (order : OrderPart) : Except DerivationError SortKey :=
  match resolve order.property with
  | some property => .ok ⟨property.path, order.direction⟩
  | none => .error (.unknownSortProperty order.raw order.property)

def compile (resolve : Resolver) (name : MethodName) (arguments : List Argument) :
    Except DerivationError CompiledQuery := do
  let (nodes, rest) ← nodes resolve (jointedParts name.groups) arguments
  if !rest.isEmpty then
    throw (.trailingArguments name.text (arguments.length - rest.length) arguments.length)
  let sort ← name.sort.mapM (sortKey resolve)
  return ⟨name.subject, ⟨nodes⟩, sort, name.limit⟩

def compileMethod (resolve : Resolver) (method : String) (arguments : List Argument) :
    Except DerivationError CompiledQuery := do
  compile resolve (← MethodName.parse method) arguments

end Query

end DocMapper
