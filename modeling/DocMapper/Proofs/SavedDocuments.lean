import DocMapper.Proofs.SeriesIntegrity
import DocMapper.Repository
/-!
What a save leaves behind and what a search sees. A save is one write: it is acknowledged with
the index and the identity that its document is stored under, and it changes no alias. A search
sees a document if and only if its read target takes in the index of the document, which is the
index of that name, or else those that the wildcard or the alias in the target selects.
-/

namespace DocMapper

namespace Memory

variable {m changed : Memory} {now : Instant} {target name id : String}

theorem indexDocument_of_target {r : IndexRequest} (goes : m.writeTarget r.target = .ok name) (now : Instant) :
    ∃ reply changed, m.indexDocument now r = .ok (reply, changed) ∧ reply.index = name := by
  rw [indexDocument, goes]
  exact ⟨_, _, rfl, rfl⟩

theorem indexDocument_stored {r : IndexRequest} {reply : IndexReply}
    (done : m.indexDocument now r = .ok (reply, changed)) :
    changed.document? reply.index reply.id = some r.document := by
  rw [indexDocument_document? done, if_pos ⟨rfl, rfl⟩]

theorem selects_named {index : MemoryIndex} (named : Dict.has target m.indices = true) :
    m.selects target name index = true ↔ name = target := by
  simp [selects, named]

theorem selects_unnamed {index : MemoryIndex} (unnamed : Dict.has target m.indices = false)
    (found : Dict.find? name m.indices = some index) :
    m.selects target name index = true ↔
      if '*' ∈ target.toList then Text.matchesWildcard target.toList name.toList = true
      else ∃ isWrite, m.flag? name target = some isWrite := by
  rw [flag?, found, Option.bind_some, selects, unnamed]
  by_cases wild : '*' ∈ target.toList
  · simp [wild]
  · simp [wild, Dict.has_eq_true_iff]

/-- An index has a piece of a target for its name, or no index does, and the piece is a wildcard
that the name matches or an alias of the index. -/
def TakenBy (m : Memory) (piece name : String) : Prop :=
  Dict.has name m.indices = true ∧
    (name = piece ∨ Dict.has piece m.indices = false ∧
      if '*' ∈ piece.toList then Text.matchesWildcard piece.toList name.toList = true
      else ∃ isWrite, m.flag? name piece = some isWrite)

theorem takenBy_iff {piece : String} :
    m.TakenBy piece name ↔ ∃ index, Dict.find? name m.indices = some index ∧ m.selects piece name index = true := by
  rw [TakenBy, Dict.has_eq_true_iff]
  constructor
  · rintro ⟨⟨index, found⟩, same | ⟨unnamed, selected⟩⟩
    · have named : Dict.has piece m.indices = true := Dict.has_eq_true_iff.mpr ⟨index, same ▸ found⟩
      exact ⟨index, found, (selects_named named).mpr same⟩
    · exact ⟨index, found, (selects_unnamed unnamed found).mpr selected⟩
  · rintro ⟨index, found, selected⟩
    refine ⟨⟨index, found⟩, ?_⟩
    cases named : Dict.has piece m.indices with
    | true => exact .inl ((selects_named named).mp selected)
    | false => exact .inr ⟨rfl, (selects_unnamed named found).mp selected⟩

theorem mem_keys_readTargets_iff (ordered : m.Ordered) :
    name ∈ Dict.keys (m.readTargets target) ↔ ∃ piece ∈ targetPieces target, m.TakenBy piece name := by
  simp only [takenBy_iff]
  constructor
  · intro member
    obtain ⟨⟨_, index⟩, kept, rfl⟩ := List.mem_map.mp member
    obtain ⟨stored, selected⟩ := List.mem_filter.mp kept
    obtain ⟨piece, listed, selected⟩ := List.any_eq_true.mp selected
    exact ⟨piece, listed, index, ordered.find?_of_mem stored, selected⟩
  · rintro ⟨piece, listed, index, found, selected⟩
    have kept : (name, index) ∈ m.readTargets target :=
      List.mem_filter.mpr ⟨Dict.mem_of_find? found, List.any_eq_true.mpr ⟨piece, listed, selected⟩⟩
    exact List.mem_map_of_mem kept

theorem mem_keys_readTargets (ordered : m.Ordered) (single : ',' ∉ target.toList)
    (tidy : DocumentType.Tidy target) :
    name ∈ Dict.keys (m.readTargets target) ↔ Dict.has name m.indices = true ∧
      (name = target ∨ Dict.has target m.indices = false ∧
        if '*' ∈ target.toList then Text.matchesWildcard target.toList name.toList = true
        else ∃ isWrite, m.flag? name target = some isWrite) := by
  rw [mem_keys_readTargets_iff ordered, Rollover.targetPieces_single single tidy]
  simp only [List.mem_singleton, exists_eq_left, TakenBy]

/-- A search for everything, in no particular order and without a limit. -/
def searchAll : SearchRequest := ⟨.everything, [], none⟩

theorem mem_hits_everything (index : MemoryIndex) (hit : Hit) :
    hit ∈ index.hits name .everything ↔
      ∃ entry ∈ index.documents, hit = ⟨name, entry.1, some 1.0, entry.2.source⟩ := by
  simp [MemoryIndex.hits, Criteria.everything, Criteria.holds, eq_comm]

theorem mem_searchAll (hit : Hit) :
    hit ∈ m.search target searchAll ↔
      ∃ entry ∈ m.readTargets target, hit ∈ entry.2.hits entry.1 .everything := by
  simp [search, searchAll]

theorem mem_searchAll_stored (ordered : m.Ordered) {document : Json}
    (stored : m.document? name id = some document) :
    ⟨name, id, some 1.0, document⟩ ∈ m.search target searchAll ↔ name ∈ Dict.keys (m.readTargets target) := by
  rw [mem_searchAll]
  constructor
  · rintro ⟨⟨listed, index⟩, read, hit⟩
    obtain ⟨entry, -, same⟩ := (mem_hits_everything index _).mp hit
    cases same
    exact List.mem_map_of_mem read
  · intro member
    obtain ⟨⟨listed, index⟩, read, same⟩ := List.mem_map.mp member
    cases same
    refine ⟨_, read, (mem_hits_everything index _).mpr ?_⟩
    rw [document?, ordered.find?_of_mem (List.mem_of_mem_filter read), Option.bind_some] at stored
    obtain ⟨kept, found, rfl⟩ := Option.map_eq_some_iff.mp stored
    exact ⟨(id, kept), Dict.mem_of_find? found, rfl⟩

end Memory

namespace Repository

variable {r : Repository} {name : String} {t : DocumentType} {m after : Memory} {now : Instant}

theorem run_save (found : r.find name = .ok t) {record mapped : Json}
    (mapping : r.document t record = .ok mapped) :
    Memory.run now (r.save now name record).run m =
      match m.indexDocument now (indexRequest t now mapped) with
      | .ok (reply, after) => (r.record t (written t reply (withJoin t mapped)), after)
      | .error fault => (.error (.during (.saving name (indexRequest t now mapped).target) (.of (.engine fault))), m) := by
  rw [save, found, lift_ok_bind, mapping, lift_ok_bind]
  cases done : m.indexDocument now (indexRequest t now mapped) with
  | error fault =>
      have refused : Memory.answer now (.indexDocument (indexRequest t now mapped)) m = (.error fault, m) := by
        rw [Memory.answer, done]
      refine (Dialogue.conduct_ask ..).trans ?_
      rw [refused]
      rfl
  | ok granted =>
      have answered : Memory.answer now (.indexDocument (indexRequest t now mapped)) m = (.ok granted.1, granted.2) := by
        rw [Memory.answer, done]
      refine (Dialogue.conduct_ask ..).trans ?_
      rw [answered]
      rfl

/-- A save that succeeded was one write, which the engine acknowledged. -/
theorem save_acknowledged (found : r.find name = .ok t) {record result : Json}
    (saved : Memory.run now (r.save now name record).run m = (.ok result, after)) :
    ∃ mapped reply, r.document t record = .ok mapped ∧
      m.indexDocument now (indexRequest t now mapped) = .ok (reply, after) ∧
      r.record t (written t reply (withJoin t mapped)) = .ok result := by
  cases mapping : r.document t record with
  | error e =>
      rw [save, found, lift_ok_bind, mapping, lift_error_bind] at saved
      cases saved
  | ok mapped =>
      rw [run_save found mapping] at saved
      cases done : m.indexDocument now (indexRequest t now mapped) with
      | error fault =>
          rw [done] at saved
          cases saved
      | ok granted =>
          rw [done] at saved
          obtain ⟨reply, changed⟩ := granted
          obtain ⟨given, rfl⟩ := Prod.mk.inj saved
          exact ⟨mapped, reply, rfl, done, given⟩

/-- A hit as a record, for a program whose records differ from documents in their names alone. -/
def renamedHit (t : DocumentType) (hit : Hit) : Json :=
  t.fromEngine (match found t hit with
    | .object members => .object (Dict.remove DocumentType.joinField members)
    | document => document)

theorem run_search (found : r.find name = .ok t) (renames : r.mapper = .renaming) (request : SearchRequest) :
    Memory.run now (r.search name request).run m =
      (.ok ((m.search (Routing.readTarget t) request).map (renamedHit t)), m) := by
  have read : (fun hit => r.record t (Repository.found t hit)) = fun hit => .ok (renamedHit t hit) := by
    funext hit
    change (r.mapper.fromEngine t _).mapError _ = _
    rw [renames]
    rfl
  rw [search, found, lift_ok_bind]
  dsimp only
  rw [read]
  refine (Dialogue.conduct_ask ..).trans ?_
  exact congrArg (fun records => (records, m)) List.mapM_pure

end Repository

end DocMapper
