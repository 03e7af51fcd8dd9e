import DocMapper.Criteria.Basic
import DocMapper.Dialogue
import DocMapper.Engine.Fault
import DocMapper.Rollover.Conditions
/-!
What a search engine is asked for, and what it may answer. A call either gets its reply or
ends in a fault. Programs over calls are dialogues, so one call is one step of a program, and
every step that goes wrong can be seen.
-/

namespace DocMapper

/-- Moves an alias in one step; its target becomes the write index. Without `source` nothing
loses the alias. -/
structure AliasSwap where
  aliasName : String
  source : Option String
  target : String
deriving DecidableEq, Repr

/-- Creates `target` and hands it the write flag of an alias in one step. The engine refuses
if the alias no longer writes into `source`, which keeps the alias for reads. -/
structure RolloverRequest where
  aliasName : String
  source : String
  target : String
  body : Json

structure IndexRequest where
  /-- An index or an alias. -/
  target : String
  /-- Without one the engine mints one. -/
  id : Option String
  routing : Option String
  document : Json
  /-- Whether a search right after the write has to see it. -/
  refresh : Bool

/-- Where a document landed. -/
structure IndexReply where
  index : String
  id : String
  version : Option Int
deriving DecidableEq, Repr

structure SearchRequest where
  criteria : Criteria
  sort : List SortKey
  limit : Option Nat

structure Hit where
  index : String
  id : String
  score : Option Float
  source : Json

inductive Call where
  | createIndex (index : String) (body : Json)
  | indexExists (index : String)
  /-- The names that match a wildcard pattern, in order. -/
  | listIndices (pattern : String)
  /-- The index an alias writes into, if it points anywhere. -/
  | writeIndex (aliasName : String)
  | swapAlias (swap : AliasSwap)
  | rollover (request : RolloverRequest)
  | indexStats (index : String)
  | indexDocument (request : IndexRequest)
  | search (target : String) (request : SearchRequest)
  | count (target : String) (criteria : Criteria)
  /-- Whether there was a document to delete. -/
  | deleteDocument (index id : String) (routing : Option String)

namespace Call

abbrev Reply : Call → Type
  | createIndex .. | swapAlias .. | rollover .. => Unit
  | indexExists .. | deleteDocument .. => Bool
  | listIndices .. => List String
  | writeIndex .. => Option String
  | indexStats .. => IndexStats
  | indexDocument .. => IndexReply
  | search .. => List Hit
  | count .. => Nat

def name : Call → String
  | createIndex .. => "create_index"
  | indexExists .. => "index_exists"
  | listIndices .. => "list_indices"
  | writeIndex .. => "write_index_for_alias"
  | swapAlias .. => "swap_alias"
  | rollover .. => "rollover"
  | indexStats .. => "index_stats"
  | indexDocument .. => "index_document"
  | search .. => "search"
  | count .. => "count"
  | deleteDocument .. => "delete_document"

end Call

abbrev Program := Dialogue fun c : Call => Except Fault c.Reply

abbrev Attempt (ε α : Type) := ExceptT ε Program α

/-- Makes one call, and ends the attempt if it goes wrong. -/
def Call.attempt {ε : Type} (fault : Fault → ε) (c : Call) : Attempt ε c.Reply :=
  .mk (.ask c fun
    | .ok reply => .done (.ok reply)
    | .error f => .done (.error (fault f)))

def Attempt.lift {ε α : Type} (result : Except ε α) : Attempt ε α :=
  .mk (.done result)

end DocMapper
