import DocMapper.Text.Case
import DocMapper.Text.Pieces
import DocMapper.Url.Percent
import DocMapper.Url.Punycode
/-!
The hosts of addresses: names, and numbers of four or sixteen bytes. A host that can be read
is kept in its canonical spelling.
-/

namespace DocMapper.Host

/-- Characters that no host has. -/
def forbidden (c : Char) : Bool :=
  ['\x00', '\t', '\n', '\r', ' ', '#', '/', ':', '<', '>', '?', '@', '[', '\\', ']', '^', '|'].contains c

def forbiddenInName (c : Char) : Bool :=
  forbidden c || c.toNat < 0x20 || c = '%' || c.toNat = 0x7f

/-! ## Four bytes -/

def digitsValue? (base : Nat) (digits : List Char) : Option Nat :=
  digits.foldlM (fun n c => (Percent.hexValue? c).bind fun d => if d < base then some (base * n + d) else none) 0

def number? : List Char → Option Nat
  -- A number: hexadecimal after `0x`, octal after a zero, else decimal.
  | [] => none
  | '0' :: 'x' :: digits | '0' :: 'X' :: digits => digitsValue? 16 digits
  | '0' :: d :: digits => digitsValue? 8 (d :: digits)
  | digits => digitsValue? 10 digits

def parts (name : List Char) : List (List Char) :=
  -- The parts of a name between dots; a dot at its end ends it.
  match (Text.pieces '.' name).reverse with
  | [] :: before :: rest => (before :: rest).reverse
  | other => other.reverse

/-- Whether the last part of a name makes it a number or nothing. -/
def endsInNumber (name : List Char) : Bool :=
  match (parts name).getLast? with
  | none | some [] => false
  | some last => last.all Char.isDigit || (last.take 2 = ['0', 'x'] || last.take 2 = ['0', 'X']) && (number? last).isSome

def ofNumbers? : Nat → List Nat → Option Nat
  -- All parts but the last stand for a byte; the last one for all bytes that are left.
  | _, [] => none
  | bytes, [last] => if last < Nat.pow 256 bytes then some last else none
  | 0, _ :: _ :: _ => none
  | bytes + 1, n :: next :: rest =>
      if n < 256 then (ofNumbers? bytes (next :: rest)).map fun m => n * Nat.pow 256 bytes + m else none

def fourBytes? (name : List Char) : Option String := do
  let numbers ← (parts name).mapM number?
  let n ← ofNumbers? 4 numbers
  return s!"{n >>> 24}.{n >>> 16 % 256}.{n >>> 8 % 256}.{n % 256}"

/-! ## Sixteen bytes -/

def group? (digits : List Char) : Option Nat :=
  if digits.isEmpty || 4 < digits.length then none else digitsValue? 16 digits

def byte? (digits : List Char) : Option Nat :=
  if digits.isEmpty || 3 < digits.length || (digits.head? = some '0' && 1 < digits.length) then none
  else (digitsValue? 10 digits).filter (· < 256)

/-- The last part of an address, which may spell two groups as four bytes. -/
def lastGroups? (text : List Char) : Option (List Nat) :=
  if text.contains '.' then
    match (Text.pieces '.' text).mapM byte? with
    | some [a, b, c, d] => some [256 * a + b, 256 * c + d]
    | _ => none
  else (group? text).map fun n => [n]

def groups? (text : List Char) : Option (List Nat) :=
  if text.isEmpty then some []
  else
    let pieces := Text.pieces ':' text
    match pieces.dropLast.mapM group?, pieces.getLast?.bind lastGroups? with
    | some first, some last => some (first ++ last)
    | _, _ => none

/-- What stands before and after the first two colons in a row. -/
def cutAtGap? : List Char → Option (List Char × List Char)
  | ':' :: ':' :: rest => some ([], rest)
  | c :: rest => (cutAtGap? rest).map fun (before, after) => (c :: before, after)
  | [] => none

/-- Eight groups; two colons stand for as many zeros as it takes. -/
def eightGroups? (text : List Char) : Option (List Nat) :=
  match cutAtGap? text with
  | none => (groups? text).filter fun groups => groups.length = 8
  | some (before, after) => do
      if before.contains '.' then none
      let high ← groups? before
      let low ← groups? after
      if high.length + low.length < 8 then
        some (high ++ List.replicate (8 - high.length - low.length) 0 ++ low)
      else none

def zeros (groups : List Nat) : Nat :=
  (groups.takeWhile (· = 0)).length

/-- The place and length of the first longest run of zeros. -/
def longestRun : Nat → List Nat → Nat × Nat
  | _, [] => (0, 0)
  | place, g :: rest =>
      let here := zeros (g :: rest)
      let (later, length) := longestRun (place + 1) rest
      if length ≤ here then (place, here) else (later, length)

def hexGroup (n : Nat) : String :=
  String.ofList (Nat.toDigits 16 n)

def joinGroups (groups : List Nat) : String :=
  String.intercalate ":" (groups.map hexGroup)

def formatGroups (groups : List Nat) : String :=
  let (place, length) := longestRun 0 groups
  if length < 2 then joinGroups groups
  else joinGroups (groups.take place) ++ "::" ++ joinGroups (groups.drop (place + length))

/-! ## Names -/

def asciiLabel (label : List Char) : List Char :=
  -- One part of a name in ASCII and in lower case. Lower case stands in for the mapping of
  -- UTS 46, whose tables also normalize characters, drop some and refuse others.
  let lowered := Text.lowerChars label
  if lowered.all fun c => c.toNat < 0x80 then lowered else "xn--".toList ++ Punycode.encode lowered

def asciiName (name : List Char) : List Char :=
  Text.joined '.' ((Text.pieces '.' name).map asciiLabel)

def bracketed? (text : List Char) : Option String :=
  match text.getLast? with
  | some ']' => (eightGroups? text.dropLast).map fun groups => s!"[{formatGroups groups}]"
  | _ => none

def parse? (text : List Char) : Option String :=
  match text with
  | '[' :: rest => bracketed? rest
  | _ =>
      match Percent.decodeText? text with
      | none => none
      | some decoded =>
          let name := asciiName decoded.toList
          if name.isEmpty || name.any forbiddenInName then none
          else if endsInNumber name then fourBytes? name
          else some (String.ofList name)

/-- The host of any other address, which nobody looks into. -/
def opaque? (text : List Char) : Option String :=
  match text with
  | '[' :: rest => bracketed? rest
  | _ => if text.any forbidden then none else some (String.ofList (Percent.encode Percent.controls text))

end DocMapper.Host
