import DocMapper.Duration
import DocMapper.Json.Basic
/-!
Sizes of stored data, in bytes. The units are powers of 1024, written out or by their first
letter; a number without a unit counts bytes.
-/

namespace DocMapper

structure ByteSize where
  bytes : Nat
deriving DecidableEq, Repr

namespace ByteSize

def kb (n : Nat) : ByteSize := ⟨n * 1024⟩

def mb (n : Nat) : ByteSize := ⟨n * 1024 * 1024⟩

def gb (n : Nat) : ByteSize := ⟨n * 1024 * 1024 * 1024⟩

def bytesPer? (unit : String) : Option Nat :=
  if unit = "" || unit = "b" then some 1
  else if unit = "kb" || unit = "k" then some 1024
  else if unit = "mb" || unit = "m" then some (1 <<< 20)
  else if unit = "gb" || unit = "g" then some (1 <<< 30)
  else if unit = "tb" || unit = "t" then some (1 <<< 40)
  else none

def read? (text : List Char) : Option ByteSize :=
  (leadingNumber? text).bind fun (amount, rest) =>
    (bytesPer? (String.ofList (Text.trimChars rest))).bind fun size =>
      if amount * size < wordLimit then some ⟨amount * size⟩ else none

def parse (raw : String) : Except ConfigError ByteSize :=
  match read? (canonicalChars raw) with
  | some size => .ok size
  | none => .error (.invalidByteSize raw)

def ofJson? : Json → Option ByteSize
  -- A size in a configuration is a count of bytes or a text.
  | .string text => (parse text).toOption
  | value => value.nat?.map fun n => ⟨n⟩

def format (size : ByteSize) : String :=
  let units := [("tb", 1 <<< 40), ("gb", 1 <<< 30), ("mb", 1 <<< 20), ("kb", 1024)]
  match units.find? fun unit => size.bytes ≥ unit.2 && size.bytes % unit.2 = 0 with
  | some (unit, count) => s!"{size.bytes / count}{unit}"
  | none => s!"{size.bytes}b"

end ByteSize

end DocMapper
