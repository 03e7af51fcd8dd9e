import DocMapper.Json.Basic
import DocMapper.Decimal.Layout
/-!
JSON text. `render` writes a value on one line without blanks, `renderIndented` one member
or item a line, two spaces deeper for each level.
-/

namespace DocMapper.Json

def hexDigit (n : Nat) : Char :=
  (Nat.toDigits 16 n).headD '0'

def escapeChar (c : Char) : List Char :=
  -- Quotes, backslashes and control characters are escaped; all else stands for itself.
  if c = '"' then ['\\', '"']
  else if c = '\\' then ['\\', '\\']
  else if c = '\n' then ['\\', 'n']
  else if c = '\r' then ['\\', 'r']
  else if c = '\t' then ['\\', 't']
  else if c = '\x08' then ['\\', 'b']
  else if c = '\x0c' then ['\\', 'f']
  else if c.toNat < 0x20 then ['\\', 'u', '0', '0', hexDigit (c.toNat / 16), hexDigit (c.toNat % 16)]
  else [c]

def quoted (text : String) : String :=
  String.ofList ('"' :: text.toList.flatMap escapeChar ++ ['"'])

def numberText : Number → String
  | .int n => toString n
  | .real x => Layout.json.text (.ofDouble x)

mutual

def render : Json → String
  | .null => "null"
  | .bool b => if b then "true" else "false"
  | .number n => numberText n
  | .string text => quoted text
  | .array items => "[" ++ renderItems items ++ "]"
  | .object members => "\x7b" ++ renderMembers members ++ "\x7d"

def renderItems : List Json → String
  | [] => ""
  | [item] => render item
  | item :: next :: rest => render item ++ "," ++ renderItems (next :: rest)

def renderMembers : List (String × Json) → String
  | [] => ""
  | [(key, value)] => quoted key ++ ":" ++ render value
  | (key, value) :: next :: rest => quoted key ++ ":" ++ render value ++ "," ++ renderMembers (next :: rest)

end

def indent (level : Nat) : String :=
  String.ofList ('\n' :: List.replicate (2 * level) ' ')

mutual

def renderAt (level : Nat) : Json → String
  | .array [] => "[]"
  | .array (item :: rest) => "[" ++ itemsAt (level + 1) (item :: rest) ++ indent level ++ "]"
  | .object [] => "\x7b\x7d"
  | .object (member :: rest) => "\x7b" ++ membersAt (level + 1) (member :: rest) ++ indent level ++ "\x7d"
  | .null => "null"
  | .bool b => if b then "true" else "false"
  | .number n => numberText n
  | .string text => quoted text

def itemsAt (level : Nat) : List Json → String
  | [] => ""
  | [item] => indent level ++ renderAt level item
  | item :: next :: rest => indent level ++ renderAt level item ++ "," ++ itemsAt level (next :: rest)

def membersAt (level : Nat) : List (String × Json) → String
  | [] => ""
  | [(key, value)] => indent level ++ quoted key ++ ": " ++ renderAt level value
  | (key, value) :: next :: rest =>
      indent level ++ quoted key ++ ": " ++ renderAt level value ++ "," ++ membersAt level (next :: rest)

end

def renderIndented (value : Json) : String :=
  renderAt 0 value

end DocMapper.Json
