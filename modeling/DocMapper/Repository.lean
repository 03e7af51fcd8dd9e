import DocMapper.DocumentType.Access
import DocMapper.DocumentType.Registry
import DocMapper.DocumentType.Renaming
import DocMapper.Failure
import DocMapper.Query.Compile
/-!
What a program does with its documents: save them, search and count them, and run queries
written as method names. Records are under the names of the program, documents under those
of the engine; on the way out a document gets its join field, and on the way back the fields
with roles are filled in and the join field is taken away again.
-/

namespace DocMapper

/-- How records become documents and documents records; either may refuse. -/
structure Mapper where
  toEngine : DocumentType → Json → Except String Json
  fromEngine : DocumentType → Json → Except String Json

/-- Changes names and nothing else. -/
def Mapper.renaming : Mapper where
  toEngine t record := .ok (t.toEngine record)
  fromEngine t document := .ok (t.fromEngine document)

structure Repository where
  registry : Registry
  mapper : Mapper
  /-- For series whose type has no schedule of its own. -/
  defaultSchedule : Schedule

/-- What a query gives; which of these depends on its subject. -/
inductive QueryResult where
  | documents (records : List Json)
  | count (n : Nat)
  | exist (found : Bool)
  | deleted (n : Nat)

namespace Repository

def find (r : Repository) (name : String) : Except Failure DocumentType :=
  (r.registry.get name).1.mapError fun e => .of (.config e)

def document (r : Repository) (t : DocumentType) (record : Json) : Except Failure Json :=
  (r.mapper.toEngine t record).mapError fun reason => .of (.mapping t.name reason)

/-- A document without its join field, as a record. -/
def record (r : Repository) (t : DocumentType) (document : Json) : Except Failure Json :=
  let bare := match document with
    | .object members => .object (Dict.remove DocumentType.joinField members)
    | document => document
  (r.mapper.fromEngine t bare).mapError fun reason => .of (.reading reason)

def parentOf (t : DocumentType) (document : Json) : Option String :=
  -- The value that picks a document's parent: its routing, or else the parent it names.
  (t.routingOf document).orElse fun _ => t.parentIdOf document

/-- A document with its join field, if its type has a relation. -/
def withJoin (t : DocumentType) (document : Json) : Json :=
  match t.joinValue (parentOf t document), document with
  | some join, .object members => .object (Dict.put DocumentType.joinField join members)
  | _, document => document

def readTarget (r : Repository) (name : String) : Except Failure String := do
  return Routing.readTarget (← r.find name)

def writeTarget (r : Repository) (now : Instant) (name : String) (record : Json) : Except Failure String := do
  let t ← r.find name
  let document ← r.document t record
  return Routing.writeTarget t now (some document)

def compile (r : Repository) (name method : String) (arguments : List Argument) :
    Except Failure CompiledQuery := do
  let t ← r.find name
  (Query.compileMethod t.resolve method arguments).mapError fun e => .of (.derivation e)

def call (c : Call) : Attempt Failure c.Reply :=
  c.attempt fun f => .of (.engine f)

def bootstrapFixed (t : DocumentType) (name index : String) : Attempt Failure (Option String) := do
  if ← call (.indexExists index) then return none
  let aliases : List DocumentType.BirthAlias := (t.aliasName.map fun aliasName => ⟨aliasName, false⟩).toList
  (call (.createIndex index (t.indexBody aliases))).during (.creatingIndex index name)
  return some index

/-- Gets the indices of a type ready: the first of a series, or the only one. Gives the index
that was created. Indices for stretches of time come into being when they are written to. -/
def bootstrap (r : Repository) (name : String) : Attempt Failure (Option String) := do
  let t ← Attempt.lift (r.find name)
  match t.addressing with
  | .rollover _ _ => (Rollover.bootstrap t).adapt fun e => .of (.rollover e)
  | .fixed index => bootstrapFixed t name index
  | .timeBased _ _ => return none

/-- What the engine knows of a document, put into the fields with roles. -/
def written (t : DocumentType) (reply : IndexReply) (document : Json) : Json :=
  let identified := t.withRole .identity (.string reply.id) document
  let versioned := match reply.version with
    | some version => t.withRole .version (.ofInt version) identified
    | none => identified
  t.withRole .indexName (.string reply.index) versioned

def indexRequest (t : DocumentType) (now : Instant) (mapped : Json) : IndexRequest :=
  let document := withJoin t mapped
  { target := Routing.writeTarget t now (some document)
    id := t.identityOf document
    routing := t.routingOf mapped
    document
    refresh := true }

/-- Saves a record. Gives it back with its identity, version and index filled in. -/
def save (r : Repository) (now : Instant) (name : String) (record : Json) : Attempt Failure Json := do
  let t ← Attempt.lift (r.find name)
  let mapped ← Attempt.lift (r.document t record)
  let request := indexRequest t now mapped
  let reply ← (call (.indexDocument request)).during (.saving name request.target)
  Attempt.lift (r.record t (written t reply request.document))

def found (t : DocumentType) (hit : Hit) : Json :=
  let identified := t.withRole .identity (.string hit.id) hit.source
  let scored := match hit.score with
    | some score => t.withRole .score (.ofDouble score) identified
    | none => identified
  t.withRole .indexName (.string hit.index) scored

/-- The records that satisfy a chain, with identity, score and index filled in. -/
def search (r : Repository) (name : String) (request : SearchRequest) : Attempt Failure (List Json) := do
  let t ← Attempt.lift (r.find name)
  let target := Routing.readTarget t
  let hits ← (call (.search target request)).during (.searching target name)
  Attempt.lift (hits.mapM fun hit => r.record t (found t hit))

def count (r : Repository) (name : String) (criteria : Criteria) : Attempt Failure Nat := do
  let t ← Attempt.lift (r.find name)
  let target := Routing.readTarget t
  (call (.count target criteria)).during (.counting name target)

/-- Deletes hits in turn. Gives how many of them were still there. -/
def deleteHits (t : DocumentType) : List Hit → Attempt Failure Nat
  | [] => return 0
  | hit :: rest => do
      let gone ← call (.deleteDocument hit.index hit.id (t.routingOf hit.source))
      let others ← deleteHits t rest
      return others + gone.toNat

def delete (r : Repository) (name : String) (request : SearchRequest) : Attempt Failure Nat := do
  let t ← Attempt.lift (r.find name)
  let hits ← call (.search (Routing.readTarget t) request)
  deleteHits t hits

def execute (r : Repository) (name method : String) (arguments : List Argument) :
    Attempt Failure QueryResult := do
  let query ← Attempt.lift (r.compile name method arguments)
  let request : SearchRequest := ⟨query.criteria, query.sort, query.limit⟩
  match query.subject with
  | .find => return .documents (← r.search name request)
  | .count => return .count (← r.count name query.criteria)
  | .exist => return .exist ((← r.count name query.criteria) > 0)
  | .delete => return .deleted (← r.delete name request)

/-- The type whose series a trigger keeps going, and when the trigger fires: the schedule
asked for, or else the type's own, or else the default. -/
def rolloverTrigger (r : Repository) (name : String) (schedule : Option Schedule) :
    Except Failure (DocumentType × Schedule) := do
  let t ← r.find name
  if !t.isRolloverBacked then throw (.of (.config (.notRolloverBacked name)))
  return (t, (schedule.orElse fun _ => t.rolloverSchedule).getD r.defaultSchedule)

end Repository

end DocMapper
