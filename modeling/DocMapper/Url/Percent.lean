/-!
Percent-encoding: characters that have a meaning of their own in an address are written as
the bytes of their UTF-8 form, each as a percent sign and two digits.
-/

namespace DocMapper.Percent

def hexDigit (n : Nat) : Char :=
  if n < 10 then Char.ofNat ('0'.toNat + n) else Char.ofNat ('A'.toNat + n - 10)

def hexValue? (c : Char) : Option Nat :=
  if '0' ≤ c && c ≤ '9' then some (c.toNat - '0'.toNat)
  else if 'A' ≤ c && c ≤ 'F' then some (c.toNat - 'A'.toNat + 10)
  else if 'a' ≤ c && c ≤ 'f' then some (c.toNat - 'a'.toNat + 10)
  else none

def encodeByte (b : UInt8) : List Char :=
  ['%', hexDigit (b.toNat / 16), hexDigit (b.toNat % 16)]

def encodeChar (c : Char) : List Char :=
  (String.utf8EncodeChar c).flatMap encodeByte

def encode (set : Char → Bool) (text : List Char) : List Char :=
  text.flatMap fun c => if set c then encodeChar c else [c]

def decode : List Char → List UInt8
  -- The bytes an encoded text stands for. A percent sign that no two digits follow stands for
  -- itself.
  | [] => []
  | '%' :: a :: b :: rest =>
      match hexValue? a, hexValue? b with
      | some high, some low => UInt8.ofNat (16 * high + low) :: decode rest
      | _, _ => '%'.toUInt8 :: decode (a :: b :: rest)
  | c :: rest => String.utf8EncodeChar c ++ decode rest

def decodeText? (text : List Char) : Option String :=
  String.fromUTF8? ⟨(decode text).toArray⟩

/-! ## The sets of an address -/

/-- Characters that never stand in an address. -/
def controls (c : Char) : Bool :=
  c.toNat < 0x20 || 0x7e < c.toNat

def inFragment (c : Char) : Bool :=
  controls c || [' ', '"', '<', '>', '\x60'].contains c

def inQuery (c : Char) : Bool :=
  controls c || [' ', '"', '#', '<', '>'].contains c

def inSpecialQuery (c : Char) : Bool :=
  inQuery c || c = '\''

def inPath (c : Char) : Bool :=
  inFragment c || ['#', '?', '\x7b', '\x7d'].contains c

def inUserinfo (c : Char) : Bool :=
  inPath c || ['/', ':', ';', '=', '@', '[', '\\', ']', '^', '|'].contains c

/-- A name or a value among the pairs of a query, where a plus stands for a blank. -/
def formText (text : List Char) : List Char :=
  text.flatMap fun c =>
    if c = ' ' then ['+']
    else if c.isAlphanum || ['*', '-', '.', '_'].contains c then [c]
    else encodeChar c

end DocMapper.Percent
