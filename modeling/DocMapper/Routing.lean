import DocMapper.DocumentType.Access
import DocMapper.Time.Pattern
/-!
Which index a read, a write or a rollover goes to. Reads go through the read alias of a type
if it has one; a write of a rollover type always goes to its write alias. The indices of a
series are numbered `-000001`, `-000002` and so on; a number that is taken is a collision,
never a reason to pick another one.
-/

namespace DocMapper

structure NamingCollision where
  type : String
  index : String
deriving DecidableEq, Repr

def NamingCollision.message (c : NamingCollision) : String :=
  s!"💀 Rollover of '{c.type}' wanted to create index '{c.index}', but it already exists. " ++
    "Someone or something got there first. Refusing to improvise a different name."

inductive TargetError where
  | config (e : ConfigError)
  | collision (c : NamingCollision)
deriving DecidableEq, Repr

namespace Routing

/-- How many digits the number of an index has at least. -/
def generationWidth : Nat := 6

def generationLimit : Nat := (1 <<< 64) - 1

def generationName (indexPrefix : String) (width generation : Nat) : String :=
  indexPrefix ++ "-" ++ TimePattern.padLeft '0' width (toString generation)

/-- The number of an index of a series, and its width. -/
def generationOf? (indexPrefix index : String) : Option (Nat × Nat) :=
  match Text.after? indexPrefix.toList index.toList with
  | some ('-' :: digits) =>
      if digits.isEmpty || !digits.all Char.isDigit then none
      else
        let n := digits.foldl (fun n c => 10 * n + (c.toNat - '0'.toNat)) 0
        if n ≤ generationLimit then some (n, max digits.length generationWidth) else none
  | _ => none

/-- The index after another one; an index outside the series is followed by the first. -/
def nextName (indexPrefix current : String) : String :=
  match generationOf? indexPrefix current with
  | some (n, width) => generationName indexPrefix width (min (n + 1) generationLimit)
  | none => generationName indexPrefix generationWidth 1

def readTarget (t : DocumentType) : String :=
  match t.addressing with
  | .fixed index => t.aliasName.getD index
  | .timeBased pattern _ => t.aliasName.getD (TimePattern.wildcard pattern)
  | .rollover aliases _ => (aliases.readAlias.orElse fun _ => t.aliasName).getD (aliases.indexPrefix ++ "-*")

/-- Where a document is written, or where one would be written now. -/
def writeTarget (t : DocumentType) (now : Instant) (document : Option Json) : String :=
  match t.addressing with
  | .fixed index => index
  | .timeBased pattern _ =>
      let instant := (document.bind t.timeOf).getD now
      (TimePattern.expand? pattern instant).getD t.indexName
  | .rollover aliases _ => aliases.writeAlias

/-- The index that takes over from `current`, unless it is there already. -/
def rolloverTarget (t : DocumentType) (current : String) (existing : List String) :
    Except TargetError String :=
  match t.addressing with
  | .rollover aliases _ =>
      let target := nextName aliases.indexPrefix current
      if target = current || existing.contains target then .error (.collision ⟨t.name, target⟩)
      else .ok target
  | _ => .error (.config (.notRolloverBacked t.name))

def initialIndex (t : DocumentType) : Option String :=
  match t.addressing with
  | .rollover aliases _ => some (generationName aliases.indexPrefix generationWidth 1)
  | _ => none

end Routing

end DocMapper
