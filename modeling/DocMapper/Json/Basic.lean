import DocMapper.Dict
/-!
JSON values. A number is a whole number that fits 64 bits, signed or not, or a double; the
two never compare equal. The members of an object are in key order.
-/

namespace DocMapper

inductive Number where
  | int (value : Int)
  | real (value : Float)
deriving DecidableEq

inductive Json where
  | null
  | bool (value : Bool)
  | number (value : Number)
  | string (value : String)
  | array (items : List Json)
  | object (members : List (String × Json))

instance : Inhabited Json := ⟨.null⟩

namespace Number

def toDouble : Number → Float
  | .int n => if 0 ≤ n then n.toNat.toUInt64.toFloat else -(n.natAbs.toUInt64.toFloat)
  | .real x => x

def nat? : Number → Option Nat
  | .int n => if 0 ≤ n then some n.toNat else none
  | .real _ => none

def int? : Number → Option Int
  | .int n => if n < (1 <<< 63 : Nat) then some n else none
  | .real _ => none

def same : Number → Number → Bool
  -- Equal as numbers of the same kind.
  | .int a, .int b => a = b
  | .real a, .real b => a == b
  | _, _ => false

end Number

namespace Json

def ofNat (n : Nat) : Json := .number (.int n)

def ofInt (n : Int) : Json := .number (.int n)

def ofDouble (x : Float) : Json :=
  -- A double that is no number has no JSON form but `null`.
  if x.isFinite then .number (.real x) else .null

def ofPairs (members : List (String × Json)) : Json :=
  .object (Dict.ofPairs members)

def ofOption (value : Option Json) : Json :=
  value.getD .null

def ofText (value : Option String) : Json :=
  match value with
  | some text => .string text
  | none => .null

mutual

def same : Json → Json → Bool
  -- Structural equality, with doubles compared as numbers.
  | .null, .null => true
  | .bool a, .bool b => a == b
  | .number a, .number b => a.same b
  | .string a, .string b => a == b
  | .array a, .array b => sameItems a b
  | .object a, .object b => sameMembers a b
  | _, _ => false

def sameItems : List Json → List Json → Bool
  | [], [] => true
  | a :: as, b :: bs => same a b && sameItems as bs
  | _, _ => false

def sameMembers : List (String × Json) → List (String × Json) → Bool
  | [], [] => true
  | (k, a) :: as, (l, b) :: bs => k == l && same a b && sameMembers as bs
  | _, _ => false

end

mutual

def decEq : (a b : Json) → Decidable (a = b)
  | .null, .null => isTrue rfl
  | .bool a, .bool b => decidable_of_iff (a = b) (by simp)
  | .number a, .number b => decidable_of_iff (a = b) (by simp)
  | .string a, .string b => decidable_of_iff (a = b) (by simp)
  | .array a, .array b =>
      have := decEqItems a b
      decidable_of_iff (a = b) (by simp)
  | .object a, .object b =>
      have := decEqMembers a b
      decidable_of_iff (a = b) (by simp)
  | .null, .bool _ | .null, .number _ | .null, .string _ | .null, .array _ | .null, .object _
  | .bool _, .null | .bool _, .number _ | .bool _, .string _ | .bool _, .array _ | .bool _, .object _
  | .number _, .null | .number _, .bool _ | .number _, .string _ | .number _, .array _
  | .number _, .object _ | .string _, .null | .string _, .bool _ | .string _, .number _
  | .string _, .array _ | .string _, .object _ | .array _, .null | .array _, .bool _
  | .array _, .number _ | .array _, .string _ | .array _, .object _ | .object _, .null
  | .object _, .bool _ | .object _, .number _ | .object _, .string _ | .object _, .array _ =>
      isFalse (by simp)

def decEqItems : (a b : List Json) → Decidable (a = b)
  | [], [] => isTrue rfl
  | a :: as, b :: bs =>
      have := decEq a b
      have := decEqItems as bs
      decidable_of_iff (a = b ∧ as = bs) (by simp)
  | [], _ :: _ | _ :: _, [] => isFalse (by simp)

def decEqMembers : (a b : List (String × Json)) → Decidable (a = b)
  | [], [] => isTrue rfl
  | (k, a) :: as, (l, b) :: bs =>
      have := decEq a b
      have := decEqMembers as bs
      decidable_of_iff ((k = l ∧ a = b) ∧ as = bs) (by simp)
  | [], _ :: _ | _ :: _, [] => isFalse (by simp)

end

instance : DecidableEq Json := decEq

def members? : Json → Option (Dict Json)
  | .object members => some members
  | _ => none

def items? : Json → Option (List Json)
  | .array items => some items
  | _ => none

def text? : Json → Option String
  | .string text => some text
  | _ => none

def bool? : Json → Option Bool
  | .bool b => some b
  | _ => none

def double? : Json → Option Float
  | .number n => some n.toDouble
  | _ => none

def nat? : Json → Option Nat
  | .number n => n.nat?
  | _ => none

def int? : Json → Option Int
  | .number n => n.int?
  | _ => none

def isNull : Json → Bool
  | .null => true
  | _ => false

def get? (key : String) : Json → Option Json
  | .object members => Dict.find? key members
  | _ => none

def descend? : List String → Json → Option Json
  -- Follows keys, and positions in arrays, from a value down. A position is written without
  -- leading zeros.
  | [], value => some value
  | key :: rest, .object members => (Dict.find? key members).bind (descend? rest)
  | key :: rest, .array items =>
      match key.toNat? with
      | some n => if toString n = key then items[n]?.bind (descend? rest) else none
      | none => none
  | _ :: _, _ => none

end Json

end DocMapper
