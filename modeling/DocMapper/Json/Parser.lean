import DocMapper.Json.Basic
/-!
Reading JSON text. A text is one value with blanks around it; values nest at most 127 deep,
a string holds no bare control character and no lone half of a surrogate pair, and of two
members with one key the later counts.

A number without point and exponent that fits 64 bits stays whole. Any other becomes a
double, from at most the leading digits that fit 64 bits and one power of ten; a number
too large for a double is refused.
-/

namespace DocMapper.Json.Parser

def isSpace (c : Char) : Bool :=
  c = ' ' || c = '\n' || c = '\t' || c = '\r'

def skip (text : List Char) : List Char :=
  text.dropWhile isSpace

def hexValue? (c : Char) : Option Nat :=
  if c.isDigit then some (c.toNat - 48)
  else if 'a' ≤ c && c ≤ 'f' then some (c.toNat - 87)
  else if 'A' ≤ c && c ≤ 'F' then some (c.toNat - 55)
  else none

def hex4? : List Char → Option (Nat × List Char)
  | a :: b :: c :: d :: rest => do
      let a ← hexValue? a
      let b ← hexValue? b
      let c ← hexValue? c
      let d ← hexValue? d
      return (((a * 16 + b) * 16 + c) * 16 + d, rest)
  | _ => none

/-- What follows `\u`: one unit, or two that make up a pair. -/
def unicodeEscape? (text : List Char) : Option (Char × List Char) := do
  let (unit, rest) ← hex4? text
  if 0xDC00 ≤ unit && unit < 0xE000 then none
  else if 0xD800 ≤ unit && unit < 0xDC00 then
    match rest with
    | '\\' :: 'u' :: more =>
        let (low, rest) ← hex4? more
        if 0xDC00 ≤ low && low < 0xE000 then
          return (Char.ofNat (0x10000 + (unit - 0xD800) * 0x400 + (low - 0xDC00)), rest)
        else none
    | _ => none
  else return (Char.ofNat unit, rest)

def simpleEscape? (c : Char) : Option Char :=
  if c = '"' || c = '\\' || c = '/' then some c
  else if c = 'b' then some '\x08'
  else if c = 'f' then some '\x0c'
  else if c = 'n' then some '\n'
  else if c = 'r' then some '\r'
  else if c = 't' then some '\t'
  else none

/-- The rest of a string after its opening quote; `read` holds what came before, last first. -/
def stringBody? : Nat → List Char → List Char → Option (String × List Char)
  | 0, _, _ => none
  | fuel + 1, read, text =>
      match text with
      | [] => none
      | '"' :: rest => some (String.ofList read.reverse, rest)
      | '\\' :: 'u' :: rest =>
          match unicodeEscape? rest with
          | some (c, rest) => stringBody? fuel (c :: read) rest
          | none => none
      | '\\' :: c :: rest =>
          match simpleEscape? c with
          | some c => stringBody? fuel (c :: read) rest
          | none => none
      | c :: rest =>
          if c = '\\' || c.toNat < 0x20 then none
          else stringBody? fuel (c :: read) rest

/-- The significant digits of a number that still fit 64 bits, and how many places the
remaining ones shift it. -/
structure Significand where
  value : Nat
  shift : Int
  full : Bool

def Significand.wholeDigit (s : Significand) (c : Char) : Significand :=
  let next := 10 * s.value + (c.toNat - 48)
  if s.full || next ≥ 1 <<< 64 then { s with shift := s.shift + 1, full := true }
  else { s with value := next }

def Significand.fractionDigit (s : Significand) (c : Char) : Significand :=
  let next := 10 * s.value + (c.toNat - 48)
  if s.full || next ≥ 1 <<< 64 then { s with full := true }
  else { s with value := next, shift := s.shift - 1 }

def powerOfTen (n : Nat) : Float :=
  Float.ofScientific 1 false n

/-- Scales by a power of ten, in steps of at most 308 places. -/
def scale? : Nat → Float → Int → Option Float
  | 0, _, _ => none
  | fuel + 1, x, exponent =>
      if exponent.natAbs ≤ 308 then
        if 0 ≤ exponent then
          let y := x * powerOfTen exponent.natAbs
          if y.isInf then none else some y
        else some (x / powerOfTen exponent.natAbs)
      else if x == 0.0 then some x
      else if 0 ≤ exponent then none
      else scale? fuel (x / powerOfTen 308) (exponent + 308)

def real? (negative : Bool) (s : Significand) (exponent : Int) : Option Json :=
  (scale? 10 s.value.toUInt64.toFloat (s.shift + exponent)).map fun x =>
    .number (.real (if negative then -x else x))

/-- An exponent after its `e`. -/
def exponent? (text : List Char) : Option (Int × List Char) :=
  let (negative, text) := match text with
    | '+' :: rest => (false, rest)
    | '-' :: rest => (true, rest)
    | rest => (false, rest)
  let digits := text.takeWhile Char.isDigit
  if digits.isEmpty then none
  else
    let n : Nat := digits.foldl (fun n c => min (10 * n + (c.toNat - 48)) (1 <<< 31)) 0
    some (if negative then -(n : Int) else n, text.dropWhile Char.isDigit)

def afterSignificand? (negative : Bool) (s : Significand) (text : List Char) : Option (Json × List Char) :=
  match text with
  | c :: rest =>
      if c = 'e' || c = 'E' then do
        let (e, rest) ← exponent? rest
        return (← real? negative s e, rest)
      else (real? negative s 0).map fun x => (x, text)
  | [] => (real? negative s 0).map fun x => (x, [])

/-- A number after its sign. -/
def number? (negative : Bool) (text : List Char) : Option (Json × List Char) :=
  let whole := text.takeWhile Char.isDigit
  let rest := text.dropWhile Char.isDigit
  if whole.isEmpty || (whole.headD '0' = '0' && whole.length > 1) then none
  else
    let s := whole.foldl Significand.wholeDigit ⟨0, 0, false⟩
    match rest with
    | '.' :: more =>
        let fraction := more.takeWhile Char.isDigit
        if fraction.isEmpty then none
        else
          let start : Significand := if s.full then { s with full := false } else s
          afterSignificand? negative (fraction.foldl Significand.fractionDigit start)
            (more.dropWhile Char.isDigit)
    | c :: _ =>
        if c = 'e' || c = 'E' || s.full then afterSignificand? negative s rest
        else some (whole? s.value, rest)
    | [] =>
        if s.full then afterSignificand? negative s []
        else some (whole? s.value, [])
where
  whole? (n : Nat) : Json :=
    if negative then
      if n = 0 || n > 1 <<< 63 then .number (.real (-(n.toUInt64.toFloat))) else ofInt (-(n : Int))
    else ofNat n

mutual

/-- A value, with blanks before it already skipped. `depth` is how many more levels may open. -/
def value? (fuel depth : Nat) (text : List Char) : Option (Json × List Char) :=
  match fuel with
  | 0 => none
  | fuel + 1 =>
      match text with
      | 'n' :: 'u' :: 'l' :: 'l' :: rest => some (.null, rest)
      | 't' :: 'r' :: 'u' :: 'e' :: rest => some (.bool true, rest)
      | 'f' :: 'a' :: 'l' :: 's' :: 'e' :: rest => some (.bool false, rest)
      | '"' :: rest => (stringBody? (rest.length + 1) [] rest).map fun (s, rest) => (.string s, rest)
      | '-' :: rest => number? true rest
      | '[' :: rest =>
          if depth ≤ 1 then none
          else match skip rest with
            | ']' :: rest => some (.array [], rest)
            | rest => (items? fuel (depth - 1) [] rest).map fun (items, rest) => (.array items, rest)
      | '\x7b' :: rest =>
          if depth ≤ 1 then none
          else match skip rest with
            | '\x7d' :: rest => some (.object [], rest)
            | rest => (members? fuel (depth - 1) [] rest).map fun (members, rest) => (.object members, rest)
      | c :: rest => if c.isDigit then number? false (c :: rest) else none
      | [] => none

/-- Items up to the closing bracket, at least one; `read` holds those before, last first. -/
def items? (fuel depth : Nat) (read : List Json) (text : List Char) : Option (List Json × List Char) :=
  match fuel with
  | 0 => none
  | fuel + 1 =>
      match value? fuel depth text with
      | none => none
      | some (item, rest) =>
          match skip rest with
          | ',' :: rest => items? fuel depth (item :: read) (skip rest)
          | ']' :: rest => some ((item :: read).reverse, rest)
          | _ => none

/-- Members up to the closing brace, at least one. -/
def members? (fuel depth : Nat) (read : Dict Json) (text : List Char) : Option (Dict Json × List Char) :=
  match fuel with
  | 0 => none
  | fuel + 1 =>
      match text with
      | '"' :: rest =>
          match stringBody? (rest.length + 1) [] rest with
          | none => none
          | some (key, rest) =>
              match skip rest with
              | ':' :: rest =>
                  match value? fuel depth (skip rest) with
                  | none => none
                  | some (value, rest) =>
                      match skip rest with
                      | ',' :: rest => members? fuel depth (read.put key value) (skip rest)
                      | '\x7d' :: rest => some (read.put key value, rest)
                      | _ => none
              | _ => none
      | _ => none

end

end Parser

def parse? (text : String) : Option Json :=
  let chars := text.toList
  match Parser.value? (2 * chars.length + 2) 128 (Parser.skip chars) with
  | some (value, rest) => if (Parser.skip rest).isEmpty then some value else none
  | none => none

end DocMapper.Json
