import DocMapper.Regex.Charset
/-!
Patterns, and the places where a pattern can end when it starts at given places of a text.
Only whether there is a match is asked, so which of several ways a match takes does not
matter and a repetition is neither greedy nor lazy.
-/

namespace DocMapper.Regex

/-- A condition on a place in a text. -/
inductive Anchor where
  | textStart
  | textEnd
  | lineStart
  | lineEnd
  /-- Line ends are `\r\n`, `\r` or `\n`. -/
  | anyLineStart
  | anyLineEnd
  | wordBoundary (word : Charset)
  | noWordBoundary (word : Charset)
  | wordStart (word : Charset)
  | wordEnd (word : Charset)
  | beforeWord (word : Charset)
  | afterWord (word : Charset)
deriving Repr

inductive Pattern where
  | empty
  | set (s : Charset)
  | anchor (a : Anchor)
  | seq (a b : Pattern)
  | either (a b : Pattern)
  | repeated (a : Pattern) (least : Nat) (most : Option Nat)
deriving Repr

def Anchor.holds (text : Array Char) (place : Nat) (a : Anchor) : Bool :=
  let before : Option Char := if place = 0 then none else text[place - 1]?
  let after : Option Char := text[place]?
  let isWord (word : Charset) (c : Option Char) := c.any word.has
  match a with
  | .textStart => before.isNone
  | .textEnd => after.isNone
  | .lineStart => before.isNone || before = some '\n'
  | .lineEnd => after.isNone || after = some '\n'
  | .anyLineStart => before.isNone || before = some '\n' || (before = some '\r' && after ≠ some '\n')
  | .anyLineEnd => after.isNone || after = some '\r' || (after = some '\n' && before ≠ some '\r')
  | .wordBoundary word => isWord word before != isWord word after
  | .noWordBoundary word => isWord word before == isWord word after
  | .wordStart word => !isWord word before && isWord word after
  | .wordEnd word => isWord word before && !isWord word after
  | .beforeWord word => !isWord word before
  | .afterWord word => !isWord word after

namespace Pattern

def merge (a b : List Nat) : List Nat :=
  b.foldl (fun places p => if places.contains p then places else places ++ [p]) a

/-- Applies a step again and again to the places found last, at most `fuel` times, and
collects all places on the way. -/
def closure (step : List Nat → List Nat) : Nat → List Nat → List Nat → List Nat
  | 0, found, _ => found
  | fuel + 1, found, latest =>
      let fresh := (step latest).filter fun p => !found.contains p
      if fresh.isEmpty then found else closure step fuel (found ++ fresh) fresh

def iterate (step : List Nat → List Nat) : Nat → List Nat → List Nat
  | 0, places => places
  | n + 1, places => if places.isEmpty then [] else iterate step n (step places)

/-- The places where the pattern can end, from any of the given places. -/
def ends (text : Array Char) : Pattern → List Nat → List Nat
  | .empty, places => places
  | .set s, places =>
      (places.filter fun p => text[p]?.any s.has).map (· + 1)
  | .anchor a, places => places.filter fun p => a.holds text p
  | .seq a b, places => ends text b (ends text a places)
  | .either a b, places => merge (ends text a places) (ends text b places)
  | .repeated a least most, places =>
      let reached := iterate (ends text a) least places
      match most with
      | some n => closure (ends text a) (n - least) reached reached
      | none => closure (ends text a) (text.size + 1) reached reached

def found (p : Pattern) (text : String) : Bool :=
  let chars := text.toList.toArray
  !(p.ends chars (List.range (chars.size + 1))).isEmpty

/-- How many single-character steps the pattern unfolds to. -/
def size : Pattern → Nat
  | .empty => 1
  | .set _ => 1
  | .anchor _ => 1
  | .seq a b => a.size + b.size
  | .either a b => a.size + b.size + 1
  | .repeated a least most => a.size * max 1 (max least (most.getD 0)) + 1

end Pattern

end DocMapper.Regex
