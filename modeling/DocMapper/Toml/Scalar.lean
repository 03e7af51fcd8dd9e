import DocMapper.Toml.Text
import DocMapper.Decimal.Reading
import DocMapper.Time.Calendar
/-!
TOML values written as one word: booleans, whole numbers, decimals and moments. Digits may
be grouped by underscores between them; a whole number fits 64 bits with its sign. A moment
has no JSON form of its own: it becomes an object with its text as only member.
-/

namespace DocMapper.Toml

/-- Digits without the underscores that group them. -/
def digits? (isDigit : Char → Bool) : List Char → Option (List Char)
  | [] => none
  | [c] => if isDigit c then some [c] else none
  | c :: '_' :: rest => if isDigit c then (digits? isDigit rest).map (c :: ·) else none
  | c :: rest => if isDigit c then (digits? isDigit rest).map (c :: ·) else none

def whole? (text : List Char) : Option (List Char) :=
  -- Digits of a decimal number, the first of which is zero only if it stands alone.
  match text with
  | '0' :: _ :: _ => none
  | _ => digits? Char.isDigit text

def signed : List Char → Bool × List Char
  | '-' :: rest => (true, rest)
  | '+' :: rest => (false, rest)
  | rest => (false, rest)

def inBase? (base : Nat) (text : List Char) : Option Json := do
  let isDigit := fun (c : Char) => (Json.Parser.hexValue? c).any (· < base)
  let digits ← digits? isDigit text
  let n := digits.foldl (fun n c => base * n + (Json.Parser.hexValue? c).getD 0) 0
  if n < 1 <<< 63 then some (.ofNat n) else none

def integer? (text : List Char) : Option Json :=
  match text with
  | '0' :: 'x' :: rest => inBase? 16 rest
  | '0' :: 'o' :: rest => inBase? 8 rest
  | '0' :: 'b' :: rest => inBase? 2 rest
  | _ => do
      let (negative, rest) := signed text
      let n : Int := Decimal.digitsValue (← whole? rest)
      let n := if negative then -n else n
      let limit : Int := (1 <<< 63 : Nat)
      if -limit ≤ n && n < limit then some (.ofInt n) else none

/-- The digits of an exponent with their sign. -/
def exponent? (text : List Char) : Option (List Char) := do
  let (negative, rest) := signed text
  let digits ← digits? Char.isDigit rest
  return if negative then '-' :: digits else digits

def magnitude? (text : List Char) : Option (List Char) := do
  -- A decimal without sign: it has a fraction, an exponent or both.
  let isGrouped := fun (c : Char) => c.isDigit || c = '_'
  let whole ← whole? (text.takeWhile isGrouped)
  let (fraction, rest) ← match text.dropWhile isGrouped with
    | '.' :: more => do
        let fraction ← digits? Char.isDigit (more.takeWhile isGrouped)
        pure ('.' :: fraction, more.dropWhile isGrouped)
    | rest => pure ([], rest)
  match rest with
  | c :: rest =>
      if c = 'e' || c = 'E' then return whole ++ fraction ++ 'e' :: (← exponent? rest)
      else none
  | [] => if fraction.isEmpty then none else return whole ++ fraction

def decimal? (text : List Char) : Option Json := do
  let (negative, rest) := signed text
  let unsigned ← if rest = "inf".toList || rest = "nan".toList then pure rest
    else magnitude? rest
  let x ← Decimal.parse? (String.ofList unsigned)
  if x.isInf && !negative && rest.head? ≠ some 'i' then none
  else some (.number (.real (if negative then -x else x)))

/-! ## Moments -/

/-- Digits, as many as there have to be, that make up a number in a range. -/
def numberIn? (count least most : Nat) (text : List Char) : Option (Nat × List Char) :=
  let digits := text.take count
  let n := Decimal.digitsValue digits
  if digits.length = count && digits.all Char.isDigit && least ≤ n && n ≤ most then some (n, text.drop count)
  else none

def sign? (wanted : Char) : List Char → Option (List Char)
  | c :: rest => if c = wanted then some rest else none
  | [] => none

def date? (text : List Char) : Option (List Char) := do
  let (year, rest) ← numberIn? 4 0 9999 text
  let (month, rest) ← numberIn? 2 1 12 (← sign? '-' rest)
  let (_, rest) ← numberIn? 2 1 (Date.daysInMonth year month) (← sign? '-' rest)
  return rest

def time? (text : List Char) : Option (List Char) := do
  -- A minute may end with a leap second.
  let (_, rest) ← numberIn? 2 0 23 text
  let (_, rest) ← numberIn? 2 0 59 (← sign? ':' rest)
  let (_, rest) ← numberIn? 2 0 60 (← sign? ':' rest)
  match rest with
  | '.' :: fraction =>
      if (fraction.headD '.').isDigit then return fraction.dropWhile Char.isDigit else none
  | rest => return rest

def isOffset : List Char → Bool
  -- Nothing, or a difference from UTC.
  | [] => true
  | c :: rest =>
      if c = 'Z' || c = 'z' then rest.isEmpty
      else (c = '+' || c = '-') && ((do
        let (_, rest) ← numberIn? 2 0 23 rest
        let (_, rest) ← numberIn? 2 0 59 (← sign? ':' rest)
        return rest) : Option (List Char)).any List.isEmpty

def isTime (text : List Char) : Bool :=
  (time? text).any isOffset

/-- A date, a date and a time with a letter between them, or a time of any day. -/
def isMoment (text : List Char) : Bool :=
  match date? text with
  | some [] => true
  | some (c :: rest) => (c = 'T' || c = 't') && isTime rest
  | none => time? text = some []

def momentMember : String := "$__toml_private_datetime"

def moment (text : List Char) : Json :=
  .object [(momentMember, .string (String.ofList text))]

def isWordPart (c : Char) : Bool :=
  c.isAlphanum || c = '_' || c = '+' || c = '-' || c = '.' || c = ':'

def word? (text : List Char) : Option Json :=
  if text = "true".toList then some (.bool true)
  else if text = "false".toList then some (.bool false)
  else if isMoment text then some (moment text)
  else (decimal? text).or (integer? text)

/-- A value written as one word. A date and its time may also be two words with a space
between them. -/
def scalar? (text : List Char) : Option (Json × List Char) :=
  let word := text.takeWhile isWordPart
  let rest := text.dropWhile isWordPart
  let alone := (word? word).map fun value => (value, rest)
  match rest with
  | ' ' :: more =>
      let time := more.takeWhile isWordPart
      if date? word = some [] && isTime time then
        some (moment (word ++ ' ' :: time), more.dropWhile isWordPart)
      else alone
  | _ => alone

end DocMapper.Toml
