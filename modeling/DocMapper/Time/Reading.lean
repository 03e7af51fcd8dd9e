import DocMapper.Time.Calendar
import DocMapper.Text.Blank
import DocMapper.Text.Pieces
/-!
Reading instants. A timestamp has a date, a time to the second or finer, and an offset; a
plain date means its first instant.
-/

namespace DocMapper.Instant

def digitsValue (digits : List Char) : Nat :=
  digits.foldl (fun n c => 10 * n + (c.toNat - '0'.toNat)) 0

/-- Exactly `count` digits. -/
def fixedDigits? (count : Nat) (text : List Char) : Option (Nat × List Char) :=
  let digits := text.take count
  if digits.length = count && digits.all Char.isDigit then some (digitsValue digits, text.drop count)
  else none

def expect? (c : Char) : List Char → Option (List Char)
  | d :: rest => if d = c then some rest else none
  | [] => none

def fraction? (text : List Char) : Option (Nat × List Char) :=
  -- A fraction after its point: nine places count, further digits are passed over.
  let digits := text.takeWhile Char.isDigit
  let counted := digits.take 9
  if digits.isEmpty then none
  else some (digitsValue counted * Nat.pow 10 (9 - counted.length), text.dropWhile Char.isDigit)

def offset? : List Char → Option (Int × List Char)
  -- An offset in seconds: `Z`, or hours and minutes with a sign and a colon.
  | [] => none
  | c :: rest =>
      if c = 'Z' || c = 'z' then some (0, rest)
      else if c = '+' || c = '-' || c = '−' then do
        let (hours, rest) ← fixedDigits? 2 rest
        let rest ← expect? ':' rest
        let (minutes, rest) ← fixedDigits? 2 rest
        if 60 ≤ minutes then none
        else
          let seconds : Int := hours * 3600 + minutes * 60
          if 86400 ≤ seconds then none
          else return (if c = '+' then seconds else -seconds, rest)
      else none

/-- The instant of a date and time; second 60 is the leap second after 59. -/
def ofParts? (d : Date) (hour minute second nanos : Nat) (offset : Int) : Option Instant :=
  if !d.valid || hour ≥ 24 || minute ≥ 60 || second > 60 then none
  else
    let (second, nanos) := if second = 60 then (59, nanos + 1000000000) else (second, nanos)
    let secs := d.toDays * 86400 + (hour * 3600 + minute * 60 + second : Nat) - offset
    some ⟨secs, nanos⟩

def timestamp? (text : List Char) : Option Instant := do
  let (year, text) ← fixedDigits? 4 text
  let text ← expect? '-' text
  let (month, text) ← fixedDigits? 2 text
  let text ← expect? '-' text
  let (day, text) ← fixedDigits? 2 text
  let text ← match text with
    | c :: rest => if c = 'T' || c = 't' || c = ' ' then some rest else none
    | [] => none
  let (hour, text) ← fixedDigits? 2 text
  let text ← expect? ':' text
  let (minute, text) ← fixedDigits? 2 text
  let text ← expect? ':' text
  let (second, text) ← fixedDigits? 2 text
  let (nanos, text) ← match text with
    | '.' :: rest => fraction? rest
    | rest => some (0, rest)
  let (offset, text) ← offset? text
  if text.isEmpty then ofParts? ⟨year, month, day⟩ hour minute second nanos offset else none

/-- One to `most` digits after blanks. -/
def number? (most : Nat) (text : List Char) : Option (Nat × List Char) :=
  let text := text.dropWhile Text.isBlank
  let digits := (text.takeWhile Char.isDigit).take most
  if digits.isEmpty then none else some (digitsValue digits, text.drop digits.length)

def year? (text : List Char) : Option (Int × List Char) :=
  -- A year has four digits at most, or a sign and any number of them.
  match text.dropWhile Text.isBlank with
  | '-' :: rest => signed true rest
  | '+' :: rest => signed false rest
  | rest => (number? 4 rest).map fun (n, rest) => (n, rest)
where
  signed (negative : Bool) (rest : List Char) : Option (Int × List Char) :=
    let digits := rest.takeWhile Char.isDigit
    if digits.isEmpty then none
    else some (if negative then -(digitsValue digits : Int) else digitsValue digits, rest.dropWhile Char.isDigit)

def startOfDate? (text : List Char) : Option Instant := do
  -- The first instant of a date written as year, month and day.
  let (year, text) ← year? text
  let text ← expect? '-' text
  let (month, text) ← number? 2 text
  let text ← expect? '-' text
  let (day, text) ← number? 2 text
  if text.isEmpty then ofParts? ⟨year, month, day⟩ 0 0 0 0 0 else none

def ofText? (text : String) : Option Instant :=
  match timestamp? text.toList with
  | some i => some i
  | none => startOfDate? text.toList

end DocMapper.Instant
