import DocMapper.Json.Parser
/-!
The small parts of a TOML document: blanks, line ends, comments and quoted text. A line ends
with a line feed, before which a carriage return may stand; no other control character but
the tab may appear anywhere.
-/

namespace DocMapper.Toml

def isBlank (c : Char) : Bool :=
  c = ' ' || c = '\t'

def skipBlanks (text : List Char) : List Char :=
  text.dropWhile isBlank

/-- Characters that comments and quoted text may hold as they are. -/
def isPlain (c : Char) : Bool :=
  c = '\t' || (0x20 ≤ c.toNat && c.toNat ≠ 0x7F)

def newline? : List Char → Option (List Char)
  | '\n' :: rest => some rest
  | '\r' :: '\n' :: rest => some rest
  | _ => none

/-- What follows the line, which holds nothing more than blanks and a comment. -/
def lineEnd? (text : List Char) : Option (List Char) :=
  let rest := match skipBlanks text with
    | '#' :: comment => comment.dropWhile isPlain
    | rest => rest
  if rest.isEmpty then some [] else newline? rest

/-- Skips blanks, line ends and comments. Nothing is left of a text that ends in a comment. -/
def skipLines (inComment : Bool) : List Char → List Char
  | [] => []
  | '\n' :: rest => skipLines false rest
  | '\r' :: '\n' :: rest => skipLines false rest
  | c :: rest =>
      if inComment then (if isPlain c then skipLines true rest else [])
      else if isBlank c then skipLines false rest
      else if c = '#' then skipLines true rest
      else c :: rest

/-- Skips blanks and line ends. -/
def skipSpace : List Char → List Char
  | [] => []
  | '\n' :: rest => skipSpace rest
  | '\r' :: '\n' :: rest => skipSpace rest
  | c :: rest => if isBlank c then skipSpace rest else c :: rest

/-! ## Quoted text -/

/-- A character given by the digits of its number, as many as there have to be. -/
def numbered? (count : Nat) (text : List Char) : Option (Char × List Char) := do
  let digits ← (text.take count).mapM Json.Parser.hexValue?
  let number := digits.foldl (fun n d => 16 * n + d) 0
  if digits.length = count && number.isValidChar then some (Char.ofNat number, text.drop count) else none

def escape? : List Char → Option (Char × List Char)
  | 'b' :: rest => some ('\x08', rest)
  | 't' :: rest => some ('\t', rest)
  | 'n' :: rest => some ('\n', rest)
  | 'f' :: rest => some ('\x0c', rest)
  | 'r' :: rest => some ('\r', rest)
  | '"' :: rest => some ('"', rest)
  | '\\' :: rest => some ('\\', rest)
  | 'u' :: rest => numbered? 4 rest
  | 'U' :: rest => numbered? 8 rest
  | _ => none

/-- What follows a backslash at the end of a line: the text goes on with the next character
that is no space. -/
def foldedLine? (text : List Char) : Option (List Char) :=
  (newline? (skipBlanks text)).map skipSpace

/-- The rest of a text in double quotes on one line; `read` holds what came before, last first. -/
def basic? : Nat → List Char → List Char → Option (String × List Char)
  | 0, _, _ => none
  | fuel + 1, read, text =>
      match text with
      | [] => none
      | '"' :: rest => some (String.ofList read.reverse, rest)
      | '\\' :: rest => (escape? rest).bind fun (c, rest) => basic? fuel (c :: read) rest
      | c :: rest => if isPlain c then basic? fuel (c :: read) rest else none

/-- The rest of a text in single quotes on one line. -/
def literal? (text : List Char) : Option (String × List Char) :=
  let inside := fun (c : Char) => isPlain c && c ≠ '\''
  match text.dropWhile inside with
  | '\'' :: rest => some (String.ofList (text.takeWhile inside), rest)
  | _ => none

/-- The rest of a text in threefold quotes. Up to two quotes may stand anywhere in it, also
just before the closing ones. Backslashes count where the quotes are double. -/
def lines? (quote : Char) : Nat → List Char → List Char → Option (String × List Char)
  | 0, _, _ => none
  | fuel + 1, read, text =>
      match text with
      | [] => none
      | c :: rest =>
          if c = quote then
            let run := (text.takeWhile fun x => x = quote).length
            if 3 ≤ run then
              let kept := min (run - 3) 2
              some (String.ofList (read.reverse ++ List.replicate kept quote), text.drop (kept + 3))
            else lines? quote fuel (c :: read) rest
          else if c = '\\' && quote = '"' then
            match escape? rest, foldedLine? rest with
            | some (c, rest), _ => lines? quote fuel (c :: read) rest
            | none, some rest => lines? quote fuel read rest
            | none, none => none
          else match newline? text with
            | some rest => lines? quote fuel ('\n' :: read) rest
            | none => if isPlain c then lines? quote fuel (c :: read) rest else none

def openedLines? (quote : Char) (text : List Char) : Option (String × List Char) :=
  -- A line end right after the opening quotes does not count.
  lines? quote (text.length + 1) [] ((newline? text).getD text)

def quoted? (text : List Char) : Option (String × List Char) :=
  match text with
  | '"' :: '"' :: '"' :: rest => openedLines? '"' rest
  | '\'' :: '\'' :: '\'' :: rest => openedLines? '\'' rest
  | '"' :: rest => basic? (rest.length + 1) [] rest
  | '\'' :: rest => literal? rest
  | _ => none

/-! ## Keys -/

def isBare (c : Char) : Bool :=
  c.isAlphanum || c = '_' || c = '-'

def key? (text : List Char) : Option (String × List Char) :=
  -- A key is a bare word or a text quoted on one line.
  match text with
  | '"' :: rest => basic? (rest.length + 1) [] rest
  | '\'' :: rest => literal? rest
  | _ =>
      let word := text.takeWhile isBare
      if word.isEmpty then none else some (String.ofList word, text.dropWhile isBare)

/-- Keys joined by points, at most so many, with blanks around each. -/
def keyPath? : Nat → List Char → Option ((List String × String) × List Char)
  | 0, _ => none
  | most + 1, text => do
      let (key, rest) ← key? (skipBlanks text)
      match skipBlanks rest with
      | '.' :: rest =>
          let ((path, last), rest) ← keyPath? most rest
          return ((key :: path, last), rest)
      | rest => return (([], key), rest)

/-- How many keys may be joined, and how deep values may nest. -/
def mostLevels : Nat := 79

end DocMapper.Toml
