import DocMapper.Error
import DocMapper.Text.Blank
/-!
Spans of time and their short notation: a whole number and one of the units `ms`, `s`,
`m`, `h` and `d`. Printing picks the largest unit that divides the span.
-/

namespace DocMapper

structure Duration where
  nanos : Nat
deriving DecidableEq, Repr

/-- Whole numbers in configuration texts are below this bound. -/
def wordLimit : Nat := 1 <<< 64

/-- The whole number a text starts with, and what follows it. -/
def leadingNumber? (text : List Char) : Option (Nat × List Char) :=
  let digits := text.takeWhile Char.isDigit
  let amount := digits.foldl (fun n c => 10 * n + (c.toNat - '0'.toNat)) 0
  if digits.isEmpty || amount ≥ wordLimit then none
  else some (amount, text.dropWhile Char.isDigit)

/-- A text in its canonical spelling: trimmed, with ASCII letters in lower case. -/
def canonicalChars (raw : String) : List Char :=
  (Text.trimChars raw.toList).map Char.toLower

namespace Duration

def zero : Duration := ⟨0⟩

def ofMillis (n : Nat) : Duration := ⟨n * 1000000⟩

def ofSecs (n : Nat) : Duration := ⟨n * 1000000000⟩

def secs (d : Duration) : Nat := d.nanos / 1000000000

def subsecNanos (d : Duration) : Nat := d.nanos % 1000000000

def millis (d : Duration) : Nat := d.nanos / 1000000

/-- Seconds in one of a unit, apart from milliseconds. -/
def secondsPer? (unit : String) : Option Nat :=
  if unit = "s" then some 1
  else if unit = "m" then some 60
  else if unit = "h" then some 3600
  else if unit = "d" then some 86400
  else none

def ofAmount? (amount : Nat) (unit : String) : Option Duration :=
  if unit = "ms" then some (ofMillis amount)
  else (secondsPer? unit).bind fun size =>
    if amount * size < wordLimit then some (ofSecs (amount * size)) else none

def read? (text : List Char) : Option Duration :=
  (leadingNumber? text).bind fun (amount, rest) =>
    ofAmount? amount (String.ofList (Text.trimChars rest))

def parse (raw : String) : Except ConfigError Duration :=
  match read? (canonicalChars raw) with
  | some d => .ok d
  | none => .error (.invalidDuration raw)

def format (d : Duration) : String :=
  if d.millis % 1000 ≠ 0 then s!"{d.millis}ms"
  else
    let secs := d.secs
    match [("d", 86400), ("h", 3600), ("m", 60)].find? fun unit => secs ≥ unit.2 && secs % unit.2 = 0 with
    | some (unit, size) => s!"{secs / size}{unit}"
    | none => s!"{secs}s"

end Duration

end DocMapper
