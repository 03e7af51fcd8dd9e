import DocMapper.Regex.Basic
import DocMapper.Text.Pieces
/-!
Reading a pattern: groups, alternatives, repetitions, bracketed sets with their operators,
escapes, named properties and flags. There is no look-around and there are no references
back to a group; a pattern that asks for them, or is malformed, is refused.
-/

namespace DocMapper.Regex

structure Flags where
  ignoreCase : Bool := false
  multiLine : Bool := false
  dotMatchesNewline : Bool := false
  unicode : Bool := true
  verbose : Bool := false
  crlf : Bool := false

namespace Flags

def word (f : Flags) : Charset := if f.unicode then .word else .asciiWord

def lineStart (f : Flags) : Anchor :=
  if f.multiLine then (if f.crlf then .anyLineStart else .lineStart) else .textStart

def lineEnd (f : Flags) : Anchor :=
  if f.multiLine then (if f.crlf then .anyLineEnd else .lineEnd) else .textEnd

/-- What `.` stands for; without Unicode it could split a character, so it is refused. -/
def dot? (f : Flags) : Option Charset :=
  if !f.unicode then none
  else if f.dotMatchesNewline then some .any
  else if f.crlf then some (.complement (.union (.single '\n') (.single '\r')))
  else some (.complement (.single '\n'))

def folded (f : Flags) (s : Charset) : Charset :=
  if f.ignoreCase then .ignoringCase s else s

end Flags

/-- Drops what a verbose pattern does not mean: blanks, and comments up to the line's end. -/
def skipBlanks (f : Flags) : Nat → List Char → List Char
  | 0, text => text
  | fuel + 1, text =>
      if !f.verbose then text
      else match text with
        | '#' :: rest => skipBlanks f fuel (rest.dropWhile (· ≠ '\n'))
        | c :: rest => if Text.isBlank c then skipBlanks f fuel rest else text
        | [] => []

def skipped (f : Flags) (text : List Char) : List Char :=
  skipBlanks f (text.length + 1) text

def hexDigit? (c : Char) : Option Nat :=
  if c.isDigit then some (c.toNat - 48)
  else if 'a' ≤ c && c ≤ 'f' then some (c.toNat - 87)
  else if 'A' ≤ c && c ≤ 'F' then some (c.toNat - 55)
  else none

def hexValue? (digits : List Char) : Option Nat :=
  digits.foldlM (fun n c => (hexDigit? c).map fun d => 16 * n + d) 0

def scalar? (n : Nat) : Option Char :=
  if h : n.isValidChar then some (Char.ofNatAux n h) else none

/-- A character by its number: a fixed count of digits, or any count in braces. -/
def hexEscape? (count : Nat) (text : List Char) : Option (Char × List Char) :=
  match text with
  | '\x7b' :: rest =>
      let digits := rest.takeWhile (· ≠ '\x7d')
      if digits.isEmpty || digits.length > 8 then none
      else match rest.dropWhile (· ≠ '\x7d') with
        | _ :: after => do return (← scalar? (← hexValue? digits), after)
        | [] => none
  | _ =>
      let digits := text.take count
      if digits.length < count then none
      else do return (← scalar? (← hexValue? digits), text.drop count)

/-- The part of a property's name after its `=`, `:` or `!=`, and whether it is denied. -/
def propertySet? (name : List Char) : Option Charset :=
  let notSign (c : Char) : Bool := c ≠ '=' && c ≠ ':' && c ≠ '!'
  match name.dropWhile notSign with
  | [] => Charset.property? name
  | '!' :: '=' :: value => (Charset.property? value).map .complement
  | _ :: value => Charset.property? value

/-- What follows `\p` or `\P`. -/
def property? (f : Flags) (denied : Bool) (text : List Char) : Option (Charset × List Char) :=
  let finish (denied : Bool) (name : List Char) (rest : List Char) : Option (Charset × List Char) :=
    (propertySet? name).map fun s =>
      let s := f.folded s
      (if denied then .complement s else s, rest)
  if !f.unicode then none
  else match text with
    | '\x7b' :: rest =>
        match rest.dropWhile (· ≠ '\x7d') with
        | _ :: after =>
            match rest.takeWhile (· ≠ '\x7d') with
            | '^' :: name => finish (!denied) name after
            | name => finish denied name after
        | [] => none
    | c :: rest => finish denied [c] rest
    | [] => none

def escapable (c : Char) : Bool :=
  c.toNat < 128 && !c.isAlphanum && c ≠ '<' && c ≠ '>'

inductive Escape where
  | char (c : Char)
  | set (s : Charset)
  | anchor (a : Anchor)

def letterSet? (f : Flags) (c : Char) : Option Charset :=
  let pick (unicode ascii : Charset) := if f.unicode then unicode else ascii
  let denied (s : Charset) := if f.unicode then some (Charset.complement s) else none
  if c = 'd' then some (pick .digit .asciiDigit)
  else if c = 's' then some (pick .blank .asciiSpace)
  else if c = 'w' then some (pick .word .asciiWord)
  else if c = 'D' then denied .digit
  else if c = 'S' then denied .blank
  else if c = 'W' then denied .word
  else none

def boundary? (f : Flags) (text : List Char) : Option (Anchor × List Char) :=
  match text with
  | '\x7b' :: rest =>
      let name := String.ofList (rest.takeWhile (· ≠ '\x7d'))
      let after := (rest.dropWhile (· ≠ '\x7d')).drop 1
      if name = "start" then some (.wordStart f.word, after)
      else if name = "end" then some (.wordEnd f.word, after)
      else if name = "start-half" then some (.beforeWord f.word, after)
      else if name = "end-half" then some (.afterWord f.word, after)
      else none
  | _ => some (.wordBoundary f.word, text)

/-- What follows a backslash. -/
def escape? (f : Flags) (text : List Char) : Option (Escape × List Char) :=
  match text with
  | [] => none
  | c :: rest =>
      if c = 'p' || c = 'P' then (property? f (c = 'P') rest).map fun (s, rest) => (.set s, rest)
      else if c = 'x' then (hexEscape? 2 rest).map fun (c, rest) => (.char c, rest)
      else if c = 'u' then (hexEscape? 4 rest).map fun (c, rest) => (.char c, rest)
      else if c = 'U' then (hexEscape? 8 rest).map fun (c, rest) => (.char c, rest)
      else if c = 'a' then some (.char '\x07', rest)
      else if c = 'f' then some (.char '\x0c', rest)
      else if c = 't' then some (.char '\t', rest)
      else if c = 'n' then some (.char '\n', rest)
      else if c = 'r' then some (.char '\r', rest)
      else if c = 'v' then some (.char '\x0b', rest)
      else if c = 'A' then some (.anchor .textStart, rest)
      else if c = 'z' then some (.anchor .textEnd, rest)
      else if c = 'b' then (boundary? f rest).map fun (a, rest) => (.anchor a, rest)
      else if c = 'B' then some (.anchor (.noWordBoundary f.word), rest)
      else if c = '<' then some (.anchor (.wordStart f.word), rest)
      else if c = '>' then some (.anchor (.wordEnd f.word), rest)
      else if escapable c then some (.char c, rest)
      else (letterSet? f c).map fun s => (.set s, rest)

/-- A class such as `:digit:` after its opening bracket; nothing if it is none. -/
def namedClass? (text : List Char) : Option (Charset × List Char) :=
  match text with
  | ':' :: rest =>
      let (denied, rest) := match rest with
        | '^' :: more => (true, more)
        | more => (false, more)
      let name := rest.takeWhile (· ≠ ':')
      match rest.dropWhile (· ≠ ':') with
      | ':' :: ']' :: after =>
          (Charset.named? (String.ofList name)).map fun s =>
            (if denied then .complement s else s, after)
      | _ => none
  | _ => none

inductive SetOperator where
  | inter
  | except
  | differ

def SetOperator.apply : SetOperator → Charset → Charset → Charset
  | .inter, a, b => .inter a b
  | .except, a, b => .except a b
  | .differ, a, b => .differ a b

/-- What has been read of a bracketed set: the parts left of the last operator, that
operator, and the items since. -/
structure OpenSet where
  left : Option (Charset × SetOperator)
  items : Charset
  untouched : Bool

def OpenSet.start : OpenSet := ⟨none, Charset.none, true⟩

def OpenSet.add (o : OpenSet) (s : Charset) : OpenSet :=
  { o with items := .union o.items s, untouched := false }

def OpenSet.value (f : Flags) (o : OpenSet) : Charset :=
  match o.left with
  -- Where case is ignored, an operator does not tell it apart on either side.
  | some (left, op) => op.apply (f.folded left) (f.folded o.items)
  | none => o.items

def OpenSet.operator (f : Flags) (o : OpenSet) (op : SetOperator) : OpenSet :=
  ⟨some (o.value f, op), Charset.none, false⟩

/-- One item of a bracketed set: a character or a class. -/
def setItem? (f : Flags) (text : List Char) : Option (Escape × List Char) :=
  match text with
  | '\\' :: rest => escape? f rest
  | c :: rest => some (.char c, rest)
  | [] => none

/-- Reads on in a bracketed set up to its closing bracket. -/
def setBody? (f : Flags) : Nat → OpenSet → List Char → Option (Charset × List Char)
  | 0, _, _ => none
  | fuel + 1, o, text =>
      match skipped f text with
      | [] => none
      | ']' :: rest => some (o.value f, rest)
      | '[' :: rest =>
          match namedClass? rest with
          | some (s, rest) => setBody? f fuel (o.add s) rest
          | none =>
              match setOpen? f fuel rest with
              | some (s, rest) => setBody? f fuel (o.add s) rest
              | none => none
      | '&' :: '&' :: rest => setBody? f fuel (o.operator f .inter) rest
      | '-' :: '-' :: rest => setBody? f fuel (o.operator f .except) rest
      | '~' :: '~' :: rest => setBody? f fuel (o.operator f .differ) rest
      | text =>
          match setItem? f text with
          | none => none
          | some (.anchor _, _) => none
          | some (first, rest) =>
              let rest := skipped f rest
              let isRange := match rest with
                | '-' :: more =>
                    match skipped f more with
                    | ']' :: _ | '-' :: _ => false
                    | _ => true
                | _ => false
              if isRange then
                match first, setItem? f (skipped f (rest.drop 1)) with
                | .char low, some (.char high, rest) =>
                    if low.toNat ≤ high.toNat then setBody? f fuel (o.add (.run low.toNat high.toNat)) rest
                    else none
                | _, _ => none
              else match first with
                | .char c => setBody? f fuel (o.add (.single c)) rest
                | .set s => setBody? f fuel (o.add s) rest
                | .anchor _ => none
where
  /-- A bracketed set after its opening bracket. Hyphens, or else one closing bracket, at its
  start stand for themselves. -/
  setOpen? (f : Flags) (fuel : Nat) (text : List Char) : Option (Charset × List Char) :=
    let text := skipped f text
    let (denied, text) := match text with
      | '^' :: rest => (true, skipped f rest)
      | _ => (false, text)
    let hyphens := text.takeWhile (· = '-')
    let o := if hyphens.isEmpty then OpenSet.start else OpenSet.start.add (.single '-')
    let (o, text) := match o.untouched, text.dropWhile (· = '-') with
      | true, ']' :: rest => (o.add (.single ']'), rest)
      | _, rest => (o, rest)
    (setBody? f fuel o text).bind fun (s, rest) =>
      if !f.unicode && denied then none
      else
        let s := f.folded s
        some (if denied then .complement s else s, rest)

/-- Reads flag letters up to `:` or the closing parenthesis, which stays. -/
def flags? : Nat → Flags → Bool → Bool → List Char → Option (Flags × List Char)
  | 0, _, _, _, _ => none
  | fuel + 1, f, off, dangling, text =>
      match text with
      | [] => none
      | ':' :: _ | ')' :: _ => if dangling then none else some (f, text)
      | '-' :: rest => if off then none else flags? fuel f true true rest
      | c :: rest =>
          let next := flags? fuel
          let on := !off
          if c = 'i' then next { f with ignoreCase := on } off false rest
          else if c = 'm' then next { f with multiLine := on } off false rest
          else if c = 's' then next { f with dotMatchesNewline := on } off false rest
          else if c = 'U' then next f off false rest
          else if c = 'u' then next { f with unicode := on } off false rest
          else if c = 'R' then next { f with crlf := on } off false rest
          else if c = 'x' then next { f with verbose := on } off false rest
          else none

def isNameStart (c : Char) : Bool :=
  c = '_' || Charset.alphabetic.has c

def isNameChar (c : Char) : Bool :=
  isNameStart c || c = '.' || c = '[' || c = ']' || Charset.has (.categories ["N"]) c

def groupName? (text : List Char) : Option (List Char × List Char) :=
  let name := text.takeWhile (· ≠ '>')
  match name, text.dropWhile (· ≠ '>') with
  | c :: more, _ :: rest => if isNameStart c && more.all isNameChar then some (name, rest) else none
  | _, _ => none

/-- A number in braces, with blanks around it. -/
def repeatCount? (text : List Char) : Option Nat :=
  let digits := Text.trimChars text
  let n := digits.foldl (fun n c => 10 * n + (c.toNat - 48)) 0
  if digits.isEmpty || !digits.all Char.isDigit || n ≥ 1 <<< 32 then none else some n

def repeatRange? (text : List Char) : Option (Nat × Option Nat) :=
  match Text.cutAt? ',' text with
  | none => (repeatCount? text).map fun n => (n, some n)
  | some (low, high) =>
      if (Text.trimChars high).isEmpty then (repeatCount? low).map fun n => (n, none)
      else do
        let low ← repeatCount? low
        let high ← repeatCount? high
        if low ≤ high then some (low, some high) else none

/-- What has been read of a group. An item is `none` where flags were set, which cannot be
repeated. -/
structure OpenGroup where
  flags : Flags
  alternatives : List Pattern
  items : List (Option Pattern)

namespace OpenGroup

def add (g : OpenGroup) (p : Pattern) : OpenGroup :=
  { g with items := some p :: g.items }

def sequence (g : OpenGroup) : Pattern :=
  g.items.foldl (fun after item => match item with
    | some p => .seq p after
    | none => after) .empty

def next (g : OpenGroup) : OpenGroup :=
  { g with alternatives := g.sequence :: g.alternatives, items := [] }

def value (g : OpenGroup) : Pattern :=
  g.alternatives.foldl (fun right left => .either left right) g.sequence

def repeatLast? (g : OpenGroup) (least : Nat) (most : Option Nat) : Option OpenGroup :=
  match g.items with
  | some p :: rest => some { g with items := some (.repeated p least most) :: rest }
  | _ => none

end OpenGroup

/-- A pattern as far as a closing parenthesis, the names used so far, and the rest. -/
structure GroupRead where
  pattern : Pattern
  names : List (List Char)
  rest : List Char

def dropLazyMark (text : List Char) : List Char :=
  match text with
  | '?' :: rest => rest
  | _ => text

/-- Reads on in a group, `depth` levels below the outermost one still allowed. -/
def groupBody? : Nat → Nat → OpenGroup → List (List Char) → List Char → Option GroupRead
  | 0, _, _, _, _ => none
  | fuel + 1, depth, g, names, text =>
      let nested (flags : Flags) (names : List (List Char)) (rest : List Char) : Option GroupRead :=
        match depth with
        | 0 => none
        | depth + 1 =>
            match groupBody? fuel depth ⟨flags, [], []⟩ names rest with
            | some inner =>
                match inner.rest with
                | ')' :: rest => groupBody? fuel (depth + 1) (g.add inner.pattern) inner.names rest
                | _ => none
            | none => none
      let named (rest : List Char) : Option GroupRead :=
        match groupName? rest with
        | some (name, rest) => if names.contains name then none else nested g.flags (name :: names) rest
        | none => none
      let repeatLast (least : Nat) (most : Option Nat) (rest : List Char) : Option GroupRead :=
        match g.repeatLast? least most with
        | some g => groupBody? fuel depth g names (dropLazyMark rest)
        | none => none
      match skipped g.flags text with
      | [] => some ⟨g.value, names, []⟩
      | ')' :: rest => some ⟨g.value, names, ')' :: rest⟩
      | '|' :: rest => groupBody? fuel depth g.next names rest
      | '*' :: rest => repeatLast 0 none rest
      | '+' :: rest => repeatLast 1 none rest
      | '?' :: rest => repeatLast 0 (some 1) rest
      | '\x7b' :: rest =>
          match repeatRange? (rest.takeWhile (· ≠ '\x7d')), rest.dropWhile (· ≠ '\x7d') with
          | some (least, most), _ :: rest => repeatLast least most rest
          | _, _ => none
      | '.' :: rest =>
          match g.flags.dot? with
          | some s => groupBody? fuel depth (g.add (.set s)) names rest
          | none => none
      | '^' :: rest => groupBody? fuel depth (g.add (.anchor g.flags.lineStart)) names rest
      | '$' :: rest => groupBody? fuel depth (g.add (.anchor g.flags.lineEnd)) names rest
      | '[' :: rest =>
          match setBody?.setOpen? g.flags (rest.length + 1) rest with
          | some (s, rest) => groupBody? fuel depth (g.add (.set s)) names rest
          | none => none
      | '\\' :: rest =>
          match escape? g.flags rest with
          | some (.char c, rest) => groupBody? fuel depth (g.add (.set (g.flags.folded (.single c)))) names rest
          | some (.set s, rest) => groupBody? fuel depth (g.add (.set s)) names rest
          | some (.anchor a, rest) => groupBody? fuel depth (g.add (.anchor a)) names rest
          | none => none
      | '(' :: '?' :: 'P' :: '<' :: rest => named rest
      | '(' :: '?' :: '<' :: '=' :: _ => none
      | '(' :: '?' :: '<' :: '!' :: _ => none
      | '(' :: '?' :: '<' :: rest => named rest
      | '(' :: '?' :: rest =>
          match flags? (rest.length + 1) g.flags false false rest with
          | some (flags, ':' :: rest) => nested flags names rest
          | some (flags, ')' :: after) =>
              if rest.length = after.length + 1 then none
              else groupBody? fuel depth { g with flags := flags, items := none :: g.items } names after
          | _ => none
      | '(' :: rest => nested g.flags names rest
      | c :: rest => groupBody? fuel depth (g.add (.set (g.flags.folded (.single c)))) names rest

/-- The largest pattern that is accepted, in single-character steps. It stands in for the limit of ten
megabytes on a compiled pattern: what a step takes in memory is not told here. -/
def sizeLimit : Nat := 100000

/-- Groups nest at most 250 deep. -/
def parse? (ignoreCase : Bool) (source : String) : Option Pattern :=
  let text := source.toList
  match groupBody? (2 * text.length + 2) 250 ⟨{ ignoreCase }, [], []⟩ [] text with
  | some ⟨p, _, []⟩ => if p.size ≤ sizeLimit then some p else none
  | _ => none

def spans (pattern text : String) : Bool :=
  -- Whether a pattern, wrapped to span the whole text, matches it in any case. A malformed
  -- pattern matches nothing.
  (parse? true ("^(?:" ++ pattern ++ ")$")).any fun p => p.found text

end DocMapper.Regex
