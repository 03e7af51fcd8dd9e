import DocMapper.Text.Pieces
import DocMapper.Toml.Scalar
import DocMapper.Toml.Table
/-!
TOML documents. A document is read line by line into its tables, and a document that breaks
any rule is no document: there is no partial answer.
-/

namespace DocMapper.Toml

mutual

/-- A value that begins here. `depth` is how many more levels may open. -/
def value? (fuel depth : Nat) (text : List Char) : Option (Json × List Char) :=
  match fuel with
  | 0 => none
  | fuel + 1 =>
      match text with
      | '[' :: rest => if depth = 0 then none else items? fuel (depth - 1) [] (skipLines false rest)
      | '\x7b' :: rest =>
          if depth = 0 then none
          else match skipBlanks rest with
            | '\x7d' :: rest => some (.object [], rest)
            | rest => members? fuel (depth - 1) [] rest
      | c :: rest =>
          if c = '"' || c = '\'' then (quoted? (c :: rest)).map fun (s, rest) => (.string s, rest)
          else scalar? (c :: rest)
      | [] => none

/-- Items up to the closing bracket; `read` holds those before, last first. -/
def items? (fuel depth : Nat) (read : List Json) (text : List Char) : Option (Json × List Char) :=
  match fuel with
  | 0 => none
  | fuel + 1 =>
      match text with
      | ']' :: rest => some (.array read.reverse, rest)
      | _ => do
          let (item, rest) ← value? fuel depth text
          match skipLines false rest with
          | ',' :: rest => items? fuel depth (item :: read) (skipLines false rest)
          | ']' :: rest => some (.array (item :: read).reverse, rest)
          | _ => none

/-- Members up to the closing brace, at least one, on the same line. -/
def members? (fuel depth : Nat) (read : Entries) (text : List Char) : Option (Json × List Char) :=
  match fuel with
  | 0 => none
  | fuel + 1 => do
      let ((path, key), rest) ← keyPath? mostLevels text
      let rest ← sign? '=' rest
      let (value, rest) ← value? fuel depth (skipBlanks rest)
      let read ← Entries.joined? key value path read
      match skipBlanks rest with
      | ',' :: rest => members? fuel depth read rest
      | '\x7d' :: rest => some (.object (membersOf read), rest)
      | _ => none

end

/-- What has been read, and the path to the table that lines are about. -/
structure Reading where
  root : Entries
  here : List String

/-- The key of a header, its closing brackets and the end of its line. -/
def header? (closing : List Char) (text : List Char) : Option ((List String × String) × List Char) := do
  let (keys, rest) ← keyPath? mostLevels text
  return (keys, ← lineEnd? (← Text.after? closing rest))

/-- One line, or several where its value goes on. -/
def Reading.line? (r : Reading) (text : List Char) : Option (Reading × List Char) :=
  match text with
  | '[' :: '[' :: rest => do
      let ((path, key), rest) ← header? [']', ']'] rest
      let root ← r.root.inside? (Entries.extended? key) path
      return (⟨root, path ++ [key]⟩, rest)
  | '[' :: rest => do
      let ((path, key), rest) ← header? [']'] rest
      let root ← r.root.inside? (Entries.opened? key) path
      return (⟨root, path ++ [key]⟩, rest)
  | _ => do
      let ((path, key), rest) ← keyPath? mostLevels text
      let rest ← sign? '=' rest
      let (value, rest) ← value? (text.length + 1) mostLevels (skipBlanks rest)
      let rest ← lineEnd? rest
      let root ← r.root.inside? (Entries.joined? key value path) r.here
      return (⟨root, r.here⟩, rest)

def Reading.lines? : Nat → Reading → List Char → Option Entries
  | 0, _, _ => none
  | fuel + 1, r, text =>
      match skipBlanks text with
      | [] => some r.root
      | text =>
          match lineEnd? text with
          | some rest => lines? fuel r rest
          | none => (r.line? text).bind fun (r, rest) => lines? fuel r rest

/-- The members of a document. A byte order mark at its start is passed over. -/
def parse? (text : String) : Option (Dict Json) :=
  let chars := match text.toList with
    | '\uFEFF' :: rest => rest
    | chars => chars
  (Reading.lines? (chars.length + 1) ⟨[], []⟩ chars).map membersOf

end DocMapper.Toml
