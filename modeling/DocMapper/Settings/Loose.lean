import DocMapper.Decimal.Reading
import DocMapper.Text.Blank
import DocMapper.Text.Pieces
import DocMapper.Toml.Text
/-!
Values in the loose form that environment variables are written in: booleans, numbers,
quoted text, lists in brackets and members in braces are told by their looks, and any text
that is none of these stands for itself.
-/

namespace DocMapper.Settings.Loose

def isSpace (c : Char) : Bool :=
  c = ' ' || c = '\t' || c = '\n' || c = '\x0c' || c = '\r'

def skipSpace (text : List Char) : List Char :=
  text.dropWhile isSpace

def isSeparator (c : Char) : Bool :=
  c = ',' || c = '\x7b' || c = '\x7d' || c = '[' || c = ']'

/-- A whole number that fits 64 bits, signed or not. -/
def whole? (text : List Char) : Option Json :=
  let (negative, digits) := match text with
    | '-' :: rest => (true, rest)
    | '+' :: rest => (false, rest)
    | rest => (false, rest)
  if digits.isEmpty || !digits.all Char.isDigit then none
  else
    let n := Decimal.digitsValue digits
    if negative then (if n ≤ 1 <<< 63 then some (.ofInt (-(n : Int))) else none)
    else if n < 1 <<< 64 then some (.ofNat n) else none

/-- What a word without quotes stands for. -/
def bare (word : List Char) : Json :=
  let text := String.ofList word
  match (if '.' ∈ word then Decimal.parse? text else none) with
  | some x => .number (.real x)
  | none => (whole? word).getD (.string text)

/-- The name of a member, with blanks around it. -/
def key? (text : List Char) : Option (String × List Char) := do
  let (key, rest) ← match skipSpace text with
    | '"' :: rest => Toml.basic? (rest.length + 1) [] rest
    | text =>
        let word := text.takeWhile Toml.isBare
        if word.isEmpty then none else some (String.ofList word, text.dropWhile Toml.isBare)
  return (key, skipSpace rest)

mutual

def value? (fuel : Nat) (text : List Char) : Option (Json × List Char) :=
  match fuel with
  | 0 => none
  | fuel + 1 =>
      let text := skipSpace text
      match Text.after? "true".toList text, Text.after? "false".toList text, text with
      | some rest, _, _ => some (.bool true, skipSpace rest)
      | _, some rest, _ => some (.bool false, skipSpace rest)
      | _, _, '\x7b' :: rest =>
          (members? fuel [] rest).map fun (members, rest) => (.object members, skipSpace rest)
      | _, _, '[' :: rest => (items? fuel [] rest).map fun (items, rest) => (.array items, skipSpace rest)
      | _, _, '"' :: rest =>
          (Toml.basic? (rest.length + 1) [] rest).map fun (s, rest) => (.string s, skipSpace rest)
      | _, _, '\'' :: rest =>
          match rest with
          | c :: '\'' :: rest => some (.string (String.singleton c), skipSpace rest)
          | _ => none
      | _, _, _ =>
          let word := text.takeWhile fun c => !isSeparator c
          some (bare (Text.trimChars word), text.dropWhile fun c => !isSeparator c)

/-- Items up to the closing bracket, which may follow a comma; `read` holds those before,
last first. -/
def items? (fuel : Nat) (read : List Json) (text : List Char) : Option (List Json × List Char) :=
  match fuel with
  | 0 => none
  | fuel + 1 =>
      match text with
      | ']' :: rest => some (read.reverse, rest)
      | _ =>
          match value? fuel text with
          | some (item, ',' :: rest) => items? fuel (item :: read) rest
          | some (item, ']' :: rest) => some ((item :: read).reverse, rest)
          | _ => none

/-- Members up to the closing brace, which may follow a comma. -/
def members? (fuel : Nat) (read : Dict Json) (text : List Char) : Option (Dict Json × List Char) :=
  match fuel with
  | 0 => none
  | fuel + 1 =>
      match text with
      | '\x7d' :: rest => some (read, rest)
      | _ =>
          match key? text with
          | some (key, '=' :: rest) =>
              match value? fuel rest with
              | some (value, ',' :: rest) => members? fuel (Dict.put key value read) rest
              | some (value, '\x7d' :: rest) => some (Dict.put key value read, rest)
              | _ => none
          | _ => none

end

end Loose

def loose (text : String) : Json :=
  let chars := text.toList
  match Loose.value? (2 * chars.length + 2) chars with
  | some (value, []) => value
  | _ => .string text

end DocMapper.Settings
