import DocMapper.Criteria.Evaluate
import DocMapper.Engine.Call
import DocMapper.Json.Printer
import DocMapper.Text.Pieces
import DocMapper.Text.Wildcard
import DocMapper.Time.Calendar
/-!
A search engine that keeps everything in memory. Indices have a birth time, aliases with a
write flag, and documents with a version and a size; an index that is written to and does
not exist comes into being. `Memory.answer` is one call: it checks first and changes then,
so a call that goes wrong leaves the engine as it was.
-/

namespace DocMapper

structure StoredDocument where
  source : Json
  /-- Without an upper bound here, where an engine has a signed word of 64 bits. -/
  version : Int
  bytes : Nat

structure MemoryIndex where
  createdAt : Instant
  body : Json
  /-- Whether the index takes the writes of each of its aliases. -/
  aliases : Dict Bool
  documents : Dict StoredDocument

structure Memory where
  indices : Dict MemoryIndex
  /-- How many identities were minted, without the bound that a word of 64 bits would set. -/
  minted : Nat

namespace MemoryIndex

/-- The aliases an index body asks for. -/
def aliasesIn (body : Json) : Dict Bool :=
  match (body.get? "aliases").bind Json.members? with
  | some aliases =>
      Dict.mapValues (fun _ options => ((options.get? "is_write_index").bind Json.bool?).getD false) aliases
  | none => []

def create (now : Instant) (body : Json) : MemoryIndex :=
  ⟨now, body, aliasesIn body, []⟩

def stats (index : MemoryIndex) (now : Instant) : IndexStats :=
  ⟨now.since index.createdAt, index.documents.length, index.documents.foldl (fun total d => total + d.2.bytes) 0⟩

def store (index : MemoryIndex) (id : String) (document : Json) : MemoryIndex × Int :=
  let version := match Dict.find? id index.documents with
    | some previous => previous.version + 1
    | none => 1
  ({ index with documents := Dict.put id ⟨document, version, document.render.utf8ByteSize⟩ index.documents }, version)

/-- The hits of a chain in one index, by identity. -/
def hits (index : MemoryIndex) (name : String) (criteria : Criteria) : List Hit :=
  (index.documents.filter fun d => criteria.holds d.2.source).map fun d => ⟨name, d.1, some 1.0, d.2.source⟩

end MemoryIndex

namespace Memory

def empty : Memory := ⟨[], 0⟩

/-- The indices with an alias, and whether each takes its writes. -/
def holders (m : Memory) (aliasName : String) : List (String × Bool) :=
  m.indices.filterMap fun (name, index) => (Dict.find? aliasName index.aliases).map fun isWrite => (name, isWrite)

/-- The first index that takes the writes of an alias, or else its only index. -/
def writeIndex? (m : Memory) (aliasName : String) : Option String :=
  match (m.holders aliasName).find? Prod.snd with
  | some (name, _) => some name
  | none =>
      match m.holders aliasName with
      | [(name, _)] => some name
      | _ => none

/-- Whether one piece of a read target takes in an index: as its name, by a wildcard, or as
one of its aliases. -/
def selects (m : Memory) (piece name : String) (index : MemoryIndex) : Bool :=
  if Dict.has piece m.indices then name = piece
  else if piece.toList.contains '*' then Text.matchesWildcard piece.toList name.toList
  else Dict.has piece index.aliases

/-- The pieces of a read target, between commas. -/
def targetPieces (target : String) : List String :=
  ((Text.split ',' target).map Text.trim).filter fun piece => piece ≠ ""

def readTargets (m : Memory) (target : String) : Dict MemoryIndex :=
  m.indices.filter fun (name, index) => (targetPieces target).any fun piece => m.selects piece name index

/-- Nobody takes the writes of an alias any more. -/
def withoutWriter (aliasName : String) (indices : Dict MemoryIndex) : Dict MemoryIndex :=
  Dict.mapValues (fun _ index => { index with aliases := Dict.modify aliasName (fun _ => false) index.aliases }) indices

def withAliases (f : Dict Bool → Dict Bool) (index : MemoryIndex) : MemoryIndex :=
  { index with aliases := f index.aliases }

def compareHits (a b : Hit) : List SortKey → Ordering
  -- Missing and null values come last, in either direction; values that cannot be compared tie.
  | [] => .eq
  | key :: rest =>
      let value (hit : Hit) := (key.field.lookup hit.source).filter fun v => !v.isNull
      let order := match value a, value b with
        | none, none => .eq
        | none, some _ => .gt
        | some _, none => .lt
        | some x, some y =>
            let natural := (x.compare? y).getD .eq
            if key.direction = .desc then natural.swap else natural
      if order = .eq then compareHits a b rest else order

/-- Puts a hit behind the last one that it does not come before. The list is in reverse. -/
def insertHit (sort : List SortKey) (hit : Hit) : List Hit → List Hit
  | [] => [hit]
  | last :: earlier =>
      if compareHits hit last sort = .lt then last :: insertHit sort hit earlier else hit :: last :: earlier

def sortHits (sort : List SortKey) (hits : List Hit) : List Hit :=
  (hits.foldl (fun sorted hit => insertHit sort hit sorted) []).reverse

def search (m : Memory) (target : String) (request : SearchRequest) : List Hit :=
  let hits := (m.readTargets target).flatMap fun (name, index) => index.hits name request.criteria
  let sorted := if request.sort.isEmpty then hits else sortHits request.sort hits
  match request.limit with
  | some limit => sorted.take limit
  | none => sorted

def count (m : Memory) (target : String) (criteria : Criteria) : Nat :=
  ((m.readTargets target).flatMap fun (_, index) =>
    index.documents.filter fun d => criteria.holds d.2.source).length

def createIndex (m : Memory) (now : Instant) (name : String) (body : Json) : Except Fault Memory :=
  if Dict.has name m.indices then .error (.indexTaken name)
  else .ok { m with indices := Dict.put name (.create now body) m.indices }

def swapAlias (m : Memory) (s : AliasSwap) : Except Fault Memory :=
  let held (source : String) : Bool :=
    ((Dict.find? source m.indices).map fun index => Dict.has s.aliasName index.aliases).getD false
  if !Dict.has s.target m.indices then .error (.swapTargetMissing s.aliasName s.target)
  else match s.source.filter fun source => !held source with
    | some source => .error (.aliasNotOn s.aliasName source)
    | none =>
        let released := match s.source with
          | some source => Dict.modify source (withAliases (Dict.remove s.aliasName)) m.indices
          | none => m.indices
        .ok { m with
          indices := Dict.modify s.target (withAliases (Dict.put s.aliasName true)) (withoutWriter s.aliasName released) }

def rollover (m : Memory) (now : Instant) (r : RolloverRequest) : Except Fault Memory :=
  if Dict.has r.target m.indices then .error (.rolloverTargetTaken r.aliasName r.target)
  else if m.writeIndex? r.aliasName ≠ some r.source then
    .error (.writesElsewhere r.aliasName (m.writeIndex? r.aliasName) r.source)
  else
    let created := withAliases (Dict.put r.aliasName true) (.create now r.body)
    .ok { m with indices := Dict.put r.target created (withoutWriter r.aliasName m.indices) }

/-- The index a write goes to, which may not exist yet. -/
def writeTarget (m : Memory) (target : String) : Except Fault String :=
  if Dict.has target m.indices then .ok target
  else match m.writeIndex? target with
    | some index => .ok index
    | none =>
        if !(m.holders target).isEmpty then .error (.noWriteIndex target)
        else if target.toList.contains '*' then .error (.wildcardWrite target)
        else .ok target

/-- The identity of a new document, and how many have been minted by then. -/
def identify (m : Memory) : Option String → String × Nat
  | some id => (id, m.minted)
  | none => (s!"mem-{m.minted + 1}", m.minted + 1)

def indexDocument (m : Memory) (now : Instant) (r : IndexRequest) : Except Fault (IndexReply × Memory) :=
  match m.writeTarget r.target with
  | .error fault => .error fault
  | .ok name =>
      let index := (Dict.find? name m.indices).getD (.create now (.object []))
      let (id, minted) := m.identify r.id
      let (index, version) := index.store id r.document
      .ok (⟨name, id, some version⟩, ⟨Dict.put name index m.indices, minted⟩)

def deleteDocument (m : Memory) (name id : String) : Bool × Memory :=
  let found := ((Dict.find? name m.indices).map fun index => Dict.has id index.documents).getD false
  let without (index : MemoryIndex) : MemoryIndex := { index with documents := Dict.remove id index.documents }
  (found, if found then { m with indices := Dict.modify name without m.indices } else m)

def change (m : Memory) : Except Fault Memory → Except Fault Unit × Memory
  | .ok changed => (.ok (), changed)
  | .error fault => (.error fault, m)

def answer (now : Instant) : (c : Call) → Memory → Except Fault c.Reply × Memory
  | .createIndex index body, m => m.change (m.createIndex now index body)
  | .indexExists index, m => (.ok (Dict.has index m.indices), m)
  | .listIndices pattern, m =>
      (.ok ((Dict.keys m.indices).filter fun name => Text.matchesWildcard pattern.toList name.toList), m)
  | .writeIndex aliasName, m => (.ok (m.writeIndex? aliasName), m)
  | .swapAlias s, m => m.change (m.swapAlias s)
  | .rollover r, m => m.change (m.rollover now r)
  | .indexStats index, m =>
      match Dict.find? index m.indices with
      | some found => (.ok (found.stats now), m)
      | none => (.error (.noStats index), m)
  | .indexDocument r, m =>
      match m.indexDocument now r with
      | .ok (reply, changed) => (.ok reply, changed)
      | .error fault => (.error fault, m)
  | .search target request, m => (.ok (m.search target request), m)
  | .count target criteria, m => (.ok (m.count target criteria), m)
  | .deleteDocument index id _, m =>
      let (found, changed) := m.deleteDocument index id
      (.ok found, changed)

/-- A program that has the engine to itself while no time passes. -/
def run {α : Type} (now : Instant) (program : Program α) (m : Memory) : α × Memory :=
  program.conduct (answer now) m

end Memory

end DocMapper
