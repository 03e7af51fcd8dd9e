import DocMapper.Dict
import DocMapper.Text.Blank
import DocMapper.Text.Pieces
/-!
Tokens `${key}` and `${key:fallback}` in configuration texts. The key is looked up without
the blanks around it; a token whose key nobody knows and that has no fallback stays as it
is. Values that are filled in are not looked at again.
-/

namespace DocMapper

/-- Tables of properties, asked in order. -/
structure Environment where
  tables : List (Dict String)

namespace Environment

def empty : Environment := ⟨[]⟩

def find? (env : Environment) (key : String) : Option String :=
  env.tables.findSome? (Dict.find? key)

end Environment

namespace Placeholder

structure Token where
  key : List Char
  fallback : Option (List Char)

/-- The text a token was read from. -/
def Token.source (t : Token) : List Char :=
  '$' :: '\x7b' :: t.key ++ (match t.fallback with
    | some text => ':' :: text
    | none => []) ++ ['\x7d']

/-- Reads a token after its opening brace: a key without `:` and closing brace, not empty, then
the closing brace or a fallback without one. -/
def token? (text : List Char) : Option (Token × List Char) :=
  let inKey (c : Char) : Bool := c ≠ '\x7d' && c ≠ ':'
  let key := text.takeWhile inKey
  if key.isEmpty then none
  else match text.dropWhile inKey with
    | '\x7d' :: rest => some (⟨key, none⟩, rest)
    | ':' :: rest =>
        match rest.dropWhile (· ≠ '\x7d') with
        | '\x7d' :: after => some (⟨key, some (rest.takeWhile (· ≠ '\x7d'))⟩, after)
        | _ => none
    | _ => none

def Token.value (env : Environment) (t : Token) : List Char :=
  match env.find? (String.ofList (Text.trimChars t.key)) with
  | some value => value.toList
  | none => t.fallback.getD t.source

/-- Fills in tokens from the left. -/
def resolveChars (env : Environment) : Nat → List Char → List Char
  | 0, text => text
  | _, [] => []
  | fuel + 1, '$' :: '\x7b' :: rest =>
      match token? rest with
      | some (t, after) => t.value env ++ resolveChars env fuel after
      | none => '$' :: resolveChars env fuel ('\x7b' :: rest)
  | fuel + 1, c :: rest => c :: resolveChars env fuel rest

def resolve (env : Environment) (text : String) : String :=
  String.ofList (resolveChars env text.toList.length text.toList)

end Placeholder

end DocMapper
