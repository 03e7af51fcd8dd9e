import DocMapper.DocumentType.IndexBody
import DocMapper.Engine.Call
import DocMapper.Routing
/-!
Keeping a series of indices going. `bootstrap` makes sure that the write alias points
somewhere; `tick` looks at the index it points at and, if that has had enough, creates the
next one. Creating it and moving the alias is one call, so an attempt that ends early leaves
no half-made index behind for the next one.
-/

namespace DocMapper

inductive RolloverError where
  | config (e : ConfigError)
  | collision (c : NamingCollision)
  | noWriteIndex (type aliasName : String)
  | engine (f : Fault)
deriving DecidableEq, Repr

def RolloverError.ofTarget : TargetError → RolloverError
  | .config e => .config e
  | .collision c => .collision c

def RolloverError.message : RolloverError → String
  | .config e => e.message
  | .collision c => c.message
  | .noWriteIndex type aliasName =>
      s!"💀 Write alias '{aliasName}' of '{type}' does not point at any index. Was it bootstrapped?"
  | .engine f => f.message

/-- How an attempt went that reached its end. -/
inductive RolloverReport where
  /-- No limit is reached; the index keeps the write alias. -/
  | notNeeded (index : String) (stats : IndexStats)
  | rolledOver (source target : String) (reasons : List RolloverReason)
deriving DecidableEq, Repr

namespace Rollover

open DocumentType (BirthAlias)

/-- The aliases for reading that every index of a series has. -/
def readAliases (t : DocumentType) (aliases : RolloverAliases) : List BirthAlias :=
  let names := match aliases.readAlias, t.aliasName with
    | some read, some own => if read = own then [read] else [read, own]
    | read, own => read.toList ++ own.toList
  (names.filter fun name => name ≠ aliases.writeAlias).map fun name => ⟨name, false⟩

def firstAliases (t : DocumentType) (aliases : RolloverAliases) : List BirthAlias :=
  ⟨aliases.writeAlias, true⟩ :: readAliases t aliases

def call (c : Call) : Attempt RolloverError c.Reply :=
  c.attempt .engine

/-- The index that an alias did not find is there all the same: it gets the alias back. -/
def createFirst (t : DocumentType) (aliases : RolloverAliases) (first : String) :
    Attempt RolloverError (Option String) := do
  if ← call (.indexExists first) then
    call (.swapAlias ⟨aliases.writeAlias, none, first⟩)
    return none
  call (.createIndex first (t.indexBody (firstAliases t aliases)))
  return some first

/-- Makes sure that the write alias points somewhere. Gives the index that was created for it. -/
def bootstrap (t : DocumentType) : Attempt RolloverError (Option String) :=
  match t.addressing, Routing.initialIndex t with
  | .rollover aliases _, some first => do
      match ← call (.writeIndex aliases.writeAlias) with
      | some _ => return none
      | none => createFirst t aliases first
  | _, _ => .lift (.error (.config (.notRolloverBacked t.name)))

def rollOver (t : DocumentType) (aliases : RolloverAliases) (current : String) (reasons : List RolloverReason) :
    Attempt RolloverError RolloverReport := do
  let existing ← call (.listIndices (aliases.indexPrefix ++ "-*"))
  let next ← Attempt.lift ((Routing.rolloverTarget t current existing).mapError .ofTarget)
  call (.rollover ⟨aliases.writeAlias, current, next, t.indexBody (readAliases t aliases)⟩)
  return .rolledOver current next reasons

def tick (t : DocumentType) : Attempt RolloverError RolloverReport :=
  match t.addressing with
  | .rollover aliases conditions => do
      match ← call (.writeIndex aliases.writeAlias) with
      | none => throw (.noWriteIndex t.name aliases.writeAlias)
      | some current =>
          let stats ← call (.indexStats current)
          match conditions.metBy stats with
          | [] => return .notNeeded current stats
          | reasons => rollOver t aliases current reasons
  | _ => .lift (.error (.config (.notRolloverBacked t.name)))

end Rollover

end DocMapper
