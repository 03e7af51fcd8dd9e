import DocMapper.Engine.Memory
import DocMapper.Proofs.DictLaws
/-!
What a caller can tell apart in an engine: which indices there are, which alias is on which
index with which flag, and which document is stored where. For every call that changes the
engine there is one lemma per view, so nothing else opens the calls.
-/

namespace DocMapper.Memory

/-- Whether an index takes the writes of an alias; nothing if it does not have the alias. -/
def flag? (m : Memory) (name aliasName : String) : Option Bool :=
  (Dict.find? name m.indices).bind fun index => Dict.find? aliasName index.aliases

def document? (m : Memory) (name id : String) : Option Json :=
  (Dict.find? name m.indices).bind fun index => (Dict.find? id index.documents).map StoredDocument.source

def stored? (m : Memory) (name id : String) : Option StoredDocument :=
  (Dict.find? name m.indices).bind fun index => Dict.find? id index.documents

def Ordered (m : Memory) : Prop :=
  Dict.Ordered m.indices

@[simp] theorem flag?_empty (name aliasName : String) : Memory.empty.flag? name aliasName = none := rfl

@[simp] theorem document?_empty (name id : String) : Memory.empty.document? name id = none := rfl

theorem document?_eq (m : Memory) (name id : String) :
    m.document? name id = (m.stored? name id).map StoredDocument.source := by
  rw [document?, stored?]
  cases Dict.find? name m.indices <;> rfl

theorem ordered_empty : Memory.empty.Ordered :=
  Dict.ordered_nil

theorem flag?_absent {m : Memory} {name : String} (absent : Dict.has name m.indices = false)
    (aliasName : String) : m.flag? name aliasName = none := by
  rw [flag?, Dict.has_eq_false_iff.mp absent]
  rfl

theorem has_of_flag? {m : Memory} {name aliasName : String} {isWrite : Bool}
    (flagged : m.flag? name aliasName = some isWrite) : Dict.has name m.indices = true := by
  by_contra absent
  rw [flag?_absent (Bool.eq_false_iff.mpr absent)] at flagged
  cases flagged

section Holders

variable {m : Memory} {aliasName : String}

theorem mem_holders_iff (ordered : m.Ordered) {name : String} {isWrite : Bool} :
    (name, isWrite) ∈ m.holders aliasName ↔ m.flag? name aliasName = some isWrite := by
  simp only [holders, List.mem_filterMap, flag?, Option.bind_eq_some_iff]
  constructor
  · rintro ⟨⟨listed, index⟩, member, held⟩
    obtain ⟨flag, found, same⟩ := Option.map_eq_some_iff.mp held
    cases same
    exact ⟨index, ordered.find?_of_mem member, found⟩
  · rintro ⟨index, found, held⟩
    refine ⟨(name, index), Dict.mem_of_find? found, ?_⟩
    simp [held]

theorem holders_eq_nil_iff (ordered : m.Ordered) :
    m.holders aliasName = [] ↔ ∀ name, m.flag? name aliasName = none := by
  constructor
  · intro none name
    cases flagged : m.flag? name aliasName with
    | none => rfl
    | some isWrite =>
        have member := (mem_holders_iff ordered).mpr flagged
        rw [none] at member
        cases member
  · intro unheld
    apply List.eq_nil_iff_forall_not_mem.mpr
    rintro ⟨name, isWrite⟩ member
    have flagged := (mem_holders_iff ordered).mp member
    rw [unheld name] at flagged
    cases flagged

theorem writeIndex?_unheld (ordered : m.Ordered) (unheld : ∀ name, m.flag? name aliasName = none) :
    m.writeIndex? aliasName = none := by
  rw [writeIndex?, (holders_eq_nil_iff ordered).mpr unheld]
  rfl

theorem mem_holders_of_writeIndex? {name : String} (writes : m.writeIndex? aliasName = some name) :
    ∃ isWrite, (name, isWrite) ∈ m.holders aliasName := by
  rw [writeIndex?] at writes
  split at writes
  · next found isWrite search =>
      cases writes
      exact ⟨isWrite, List.mem_of_find?_eq_some search⟩
  · split at writes
    · next found isWrite single =>
        cases writes
        exact ⟨isWrite, single ▸ List.mem_cons_self⟩
    · cases writes

theorem writeIndex?_flagged (ordered : m.Ordered) {name : String}
    (flagged : m.flag? name aliasName = some true)
    (only : ∀ other, m.flag? other aliasName = some true → other = name) :
    m.writeIndex? aliasName = some name := by
  have listed := (mem_holders_iff ordered).mpr flagged
  rw [writeIndex?]
  cases search : (m.holders aliasName).find? Prod.snd with
  | none => exact absurd rfl (List.find?_eq_none.mp search (name, true) listed)
  | some holder =>
      -- The first holder with a write flag has to be the only one.
      obtain ⟨found, isWrite⟩ := holder
      have writes : isWrite = true := by simpa using List.find?_some search
      have held := (mem_holders_iff ordered).mp (List.mem_of_find?_eq_some search)
      rw [writes] at held
      exact congrArg some (only found held)

theorem not_flagged_of_unresolved (ordered : m.Ordered) (unresolved : m.writeIndex? aliasName = none)
    (name : String) : m.flag? name aliasName ≠ some true := by
  intro flagged
  have listed := (mem_holders_iff ordered).mpr flagged
  rw [writeIndex?] at unresolved
  cases search : (m.holders aliasName).find? Prod.snd with
  | none => exact absurd rfl (List.find?_eq_none.mp search (name, true) listed)
  | some holder =>
      rw [search] at unresolved
      cases unresolved

end Holders

section Creation

variable {m changed : Memory} {now : Instant} {created : String} {body : Json}

theorem createIndex_fresh (done : m.createIndex now created body = .ok changed) :
    Dict.has created m.indices = false := by
  rw [createIndex] at done
  split at done
  · cases done
  · next absent => exact Bool.eq_false_iff.mpr absent

theorem createIndex_eq (done : m.createIndex now created body = .ok changed) :
    changed = { m with indices := Dict.put created (.create now body) m.indices } := by
  rw [createIndex] at done
  split at done <;> cases done
  rfl

theorem createIndex_of_fresh (absent : Dict.has created m.indices = false) :
    m.createIndex now created body =
      .ok { m with indices := Dict.put created (.create now body) m.indices } := by
  simp [createIndex, absent]

theorem createIndex_ordered (ordered : m.Ordered) (done : m.createIndex now created body = .ok changed) :
    changed.Ordered := by
  rw [createIndex_eq done]
  exact ordered.put created _

theorem createIndex_has (done : m.createIndex now created body = .ok changed) (name : String) :
    Dict.has name changed.indices = (decide (created = name) || Dict.has name m.indices) := by
  rw [createIndex_eq done]
  exact Dict.has_put ..

theorem createIndex_flag? (done : m.createIndex now created body = .ok changed) (name aliasName : String) :
    changed.flag? name aliasName =
      if created = name then Dict.find? aliasName (MemoryIndex.aliasesIn body) else m.flag? name aliasName := by
  rw [createIndex_eq done, flag?, flag?, Dict.find?_put]
  by_cases same : created = name <;> simp [same, MemoryIndex.create]

/-- An index that comes into being without documents adds nothing to what is stored. -/
theorem stored?_born {indices : Dict MemoryIndex} {target : String} (absent : Dict.has target indices = false)
    {born : MemoryIndex} (blank : born.documents = []) (minted : Nat) (name id : String) :
    stored? ⟨Dict.put target born indices, minted⟩ name id = stored? ⟨indices, minted⟩ name id := by
  rw [stored?, stored?, Dict.find?_put]
  split
  · next same =>
      subst same
      rw [Dict.has_eq_false_iff.mp absent, Option.bind_some, blank]
      rfl
  · rfl

theorem createIndex_stored? (done : m.createIndex now created body = .ok changed) (name id : String) :
    changed.stored? name id = m.stored? name id := by
  rw [createIndex_eq done]
  exact stored?_born (createIndex_fresh done) rfl m.minted name id

theorem createIndex_document? (done : m.createIndex now created body = .ok changed) (name id : String) :
    changed.document? name id = m.document? name id := by
  rw [document?_eq, document?_eq, createIndex_stored? done]

end Creation

section Flags

theorem find?_withoutWriter (aliasName name : String) (indices : Dict MemoryIndex) :
    Dict.find? name (withoutWriter aliasName indices) = (Dict.find? name indices).map fun index =>
      { index with aliases := Dict.modify aliasName (fun _ => false) index.aliases } :=
  Dict.find?_mapValues ..

/-- An alias that nobody writes through any more. -/
def lowered (aliasName other : String) (flag : Option Bool) : Option Bool :=
  if other = aliasName then flag.map fun _ => false else flag

theorem flag_withoutWriter (aliasName name other : String) (indices : Dict MemoryIndex) :
    (Dict.find? name (withoutWriter aliasName indices)).bind (fun index => Dict.find? other index.aliases) =
      lowered aliasName other
        ((Dict.find? name indices).bind fun index => Dict.find? other index.aliases) := by
  rw [find?_withoutWriter]
  cases Dict.find? name indices with
  | none => simp [lowered]
  | some index =>
      simp only [Option.map_some, Option.bind_some, Dict.find?_modify]
      rfl

theorem stored?_withoutWriter (indices : Dict MemoryIndex) (minted : Nat) (aliasName name id : String) :
    stored? ⟨withoutWriter aliasName indices, minted⟩ name id = stored? ⟨indices, minted⟩ name id := by
  rw [stored?, stored?, find?_withoutWriter]
  cases Dict.find? name indices <;> rfl

theorem stored?_withAliases (indices : Dict MemoryIndex) (minted : Nat) (target : String) (f : Dict Bool → Dict Bool)
    (name id : String) :
    stored? ⟨Dict.modify target (withAliases f) indices, minted⟩ name id = stored? ⟨indices, minted⟩ name id := by
  rw [stored?, stored?, Dict.find?_modify]
  split
  · cases Dict.find? name indices <;> rfl
  · rfl

end Flags

section Rollover

variable {m changed : Memory} {now : Instant} {r : RolloverRequest}

theorem rollover_granted (done : m.rollover now r = .ok changed) :
    Dict.has r.target m.indices = false ∧ m.writeIndex? r.aliasName = some r.source ∧
      changed = { m with
        indices := Dict.put r.target (withAliases (Dict.put r.aliasName true) (.create now r.body))
          (withoutWriter r.aliasName m.indices) } := by
  rw [rollover] at done
  split at done
  · cases done
  · next absent =>
      split at done
      · cases done
      · next writes =>
          cases done
          exact ⟨Bool.eq_false_iff.mpr absent, not_not.mp writes, rfl⟩

theorem rollover_ordered (ordered : m.Ordered) (done : m.rollover now r = .ok changed) : changed.Ordered := by
  rw [(rollover_granted done).2.2]
  exact (Dict.Ordered.mapValues ordered _).put r.target _

theorem rollover_has (done : m.rollover now r = .ok changed) (name : String) :
    Dict.has name changed.indices = (decide (r.target = name) || Dict.has name m.indices) := by
  rw [(rollover_granted done).2.2, Dict.has_put, withoutWriter, Dict.has_mapValues]

theorem rollover_flag? (done : m.rollover now r = .ok changed) (name aliasName : String) :
    changed.flag? name aliasName =
      if r.target = name then
        if r.aliasName = aliasName then some true else Dict.find? aliasName (MemoryIndex.aliasesIn r.body)
      else lowered r.aliasName aliasName (m.flag? name aliasName) := by
  rw [(rollover_granted done).2.2, flag?, flag?, Dict.find?_put]
  by_cases same : r.target = name
  · simp [same, withAliases, MemoryIndex.create, Dict.find?_put]
  · simp only [same, ↓reduceIte]
    exact flag_withoutWriter ..

theorem rollover_stored? (done : m.rollover now r = .ok changed) (name id : String) :
    changed.stored? name id = m.stored? name id := by
  obtain ⟨absent, -, same⟩ := rollover_granted done
  have unnamed : Dict.has r.target (withoutWriter r.aliasName m.indices) = false := by
    rw [withoutWriter, Dict.has_mapValues, absent]
  rw [same, stored?_born unnamed rfl, stored?_withoutWriter]

theorem rollover_document? (done : m.rollover now r = .ok changed) (name id : String) :
    changed.document? name id = m.document? name id := by
  rw [document?_eq, document?_eq, rollover_stored? done]

end Rollover

section Attaching

variable {m changed : Memory} {aliasName target : String}

theorem attach_granted (done : m.swapAlias ⟨aliasName, none, target⟩ = .ok changed) :
    Dict.has target m.indices = true ∧
      changed = { m with
        indices := Dict.modify target (withAliases (Dict.put aliasName true)) (withoutWriter aliasName m.indices) } := by
  rw [swapAlias] at done
  split at done
  · cases done
  · next present =>
      cases done
      exact ⟨by simpa using present, rfl⟩

theorem attach_of_present (present : Dict.has target m.indices = true) :
    m.swapAlias ⟨aliasName, none, target⟩ = .ok { m with
      indices := Dict.modify target (withAliases (Dict.put aliasName true)) (withoutWriter aliasName m.indices) } := by
  simp [swapAlias, present]

theorem attach_ordered (ordered : m.Ordered) (done : m.swapAlias ⟨aliasName, none, target⟩ = .ok changed) :
    changed.Ordered := by
  rw [(attach_granted done).2]
  exact (Dict.Ordered.mapValues ordered _).modify target _

theorem attach_has (done : m.swapAlias ⟨aliasName, none, target⟩ = .ok changed) (name : String) :
    Dict.has name changed.indices = Dict.has name m.indices := by
  rw [(attach_granted done).2, Dict.has_modify, withoutWriter, Dict.has_mapValues]

theorem attach_flag? (done : m.swapAlias ⟨aliasName, none, target⟩ = .ok changed) (name : String) :
    changed.flag? name aliasName =
      if name = target then some true else (m.flag? name aliasName).map fun _ => false := by
  obtain ⟨present, same⟩ := attach_granted done
  rw [same, flag?, flag?, Dict.find?_modify, find?_withoutWriter]
  by_cases hit : name = target
  · subst hit
    obtain ⟨index, found⟩ := Dict.has_eq_true_iff.mp present
    simp [found, withAliases, Dict.find?_put]
  · cases Dict.find? name m.indices <;> simp [hit, Dict.find?_modify]

end Attaching

section Moving

variable {m changed : Memory} {s : AliasSwap}

/-- The index that a swap takes its alias away from does not have it any more. -/
def released (m : Memory) (s : AliasSwap) : Dict MemoryIndex :=
  match s.source with
  | some source => Dict.modify source (withAliases (Dict.remove s.aliasName)) m.indices
  | none => m.indices

theorem flag_released (m : Memory) (s : AliasSwap) (name other : String) :
    (Dict.find? name (m.released s)).bind (fun index => Dict.find? other index.aliases) =
      if other = s.aliasName ∧ s.source = some name then none else m.flag? name other := by
  cases from_ : s.source with
  | none => simp [released, from_, flag?]
  | some source =>
      simp only [released, from_, Dict.find?_modify, flag?]
      by_cases hit : name = source
      · cases Dict.find? name m.indices with
        | none => simp [hit]
        | some index => by_cases same : other = s.aliasName <;> simp [hit, same, withAliases, Dict.find?_remove]
      · simp [hit, Ne.symm hit]

theorem has_released (m : Memory) (s : AliasSwap) (name : String) :
    Dict.has name (m.released s) = Dict.has name m.indices := by
  rw [released]
  cases s.source with
  | none => rfl
  | some source => exact Dict.has_modify ..

theorem swapAlias_granted (done : m.swapAlias s = .ok changed) :
    Dict.has s.target m.indices = true ∧
      changed = { m with
        indices := Dict.modify s.target (withAliases (Dict.put s.aliasName true))
          (withoutWriter s.aliasName (m.released s)) } := by
  rw [swapAlias] at done
  split at done
  · cases done
  · next present =>
      split at done
      · cases done
      · cases done
        exact ⟨by simpa using present, rfl⟩

/-- After a swap the target alone takes the writes of the alias; no flag of another alias changes. -/
theorem swapAlias_flag? (done : m.swapAlias s = .ok changed) (name other : String) :
    changed.flag? name other =
      if other = s.aliasName then
        if name = s.target then some true
        else if s.source = some name then none
        else (m.flag? name other).map fun _ => false
      else m.flag? name other := by
  obtain ⟨present, same⟩ := swapAlias_granted done
  rw [same, flag?, Dict.find?_modify]
  -- The source lets go of the alias, its writers are lowered, and the target takes the flag last.
  by_cases hit : name = s.target
  · subst hit
    have there : Dict.has s.target (withoutWriter s.aliasName (m.released s)) = true := by
      rw [withoutWriter, Dict.has_mapValues, has_released, present]
    obtain ⟨index, found⟩ := Dict.has_eq_true_iff.mp there
    have before := flag_withoutWriter s.aliasName s.target other (m.released s)
    rw [found, flag_released] at before
    by_cases moved : other = s.aliasName
    · simp [moved, found, withAliases, Dict.find?_put]
    · simpa [moved, found, withAliases, Dict.find?_put, Ne.symm moved, lowered] using before
  · have before := flag_withoutWriter s.aliasName name other (m.released s)
    rw [flag_released] at before
    simp only [hit, ↓reduceIte, before, lowered]
    by_cases moved : other = s.aliasName <;> by_cases left : s.source = some name <;> simp [moved, left]

theorem swapAlias_stored? (done : m.swapAlias s = .ok changed) (name id : String) :
    changed.stored? name id = m.stored? name id := by
  rw [(swapAlias_granted done).2, stored?_withAliases, stored?_withoutWriter, released]
  cases s.source with
  | none => rfl
  | some source => exact stored?_withAliases ..

end Moving

section Writing

variable {m changed : Memory} {now : Instant} {r : IndexRequest} {reply : IndexReply}

/-- The index a document is put into, which comes into being if it has to. -/
def written (m : Memory) (now : Instant) (name : String) : MemoryIndex :=
  (Dict.find? name m.indices).getD (.create now (.object []))

theorem indexDocument_granted (done : m.indexDocument now r = .ok (reply, changed)) :
    m.writeTarget r.target = .ok reply.index ∧
      Dict.find? reply.index changed.indices =
        some ((m.written now reply.index).store reply.id r.document).1 ∧
      changed.indices = Dict.put reply.index ((m.written now reply.index).store reply.id r.document).1 m.indices := by
  rw [indexDocument] at done
  cases target : m.writeTarget r.target with
  | error fault =>
      rw [target] at done
      cases done
  | ok name =>
      rw [target] at done
      cases done
      exact ⟨rfl, Dict.find?_put_same .., rfl⟩

theorem indexDocument_ordered (ordered : m.Ordered) (done : m.indexDocument now r = .ok (reply, changed)) :
    changed.Ordered := by
  rw [Ordered, (indexDocument_granted done).2.2]
  exact Dict.Ordered.put ordered _ _

theorem indexDocument_has (done : m.indexDocument now r = .ok (reply, changed)) (name : String) :
    Dict.has name changed.indices = (decide (reply.index = name) || Dict.has name m.indices) := by
  rw [(indexDocument_granted done).2.2]
  exact Dict.has_put ..

theorem indexDocument_flag? (done : m.indexDocument now r = .ok (reply, changed)) (name aliasName : String) :
    changed.flag? name aliasName = m.flag? name aliasName := by
  rw [flag?, flag?, (indexDocument_granted done).2.2, Dict.find?_put]
  by_cases hit : reply.index = name
  · subst hit
    -- An index that the write brings into being has no aliases either.
    cases found : Dict.find? reply.index m.indices with
    | none => simp [written, found, MemoryIndex.store, MemoryIndex.create, MemoryIndex.aliasesIn, Json.get?]
    | some index => simp [written, found, MemoryIndex.store]
  · simp [hit]

/-- What a write puts in a place: the document, in the version after the one that is there. -/
def nextStored (m : Memory) (name id : String) (document : Json) : StoredDocument where
  source := document
  version := match m.stored? name id with
    | some previous => previous.version + 1
    | none => 1
  bytes := document.render.utf8ByteSize

theorem indexDocument_stored? (done : m.indexDocument now r = .ok (reply, changed)) (name id : String) :
    changed.stored? name id =
      if name = reply.index ∧ id = reply.id then some (m.nextStored reply.index reply.id r.document)
      else m.stored? name id := by
  have opened (id : String) : Dict.find? id (m.written now reply.index).documents = m.stored? reply.index id := by
    rw [written, stored?]
    cases Dict.find? reply.index m.indices <;> rfl
  have stored : ((m.written now reply.index).store reply.id r.document).1.documents =
      Dict.put reply.id (m.nextStored reply.index reply.id r.document) (m.written now reply.index).documents := by
    rw [nextStored, ← opened]
    rfl
  rw [stored?, (indexDocument_granted done).2.2, Dict.find?_put]
  by_cases here : reply.index = name
  · subst here
    rw [if_pos rfl, Option.bind_some, stored, Dict.find?_put, opened]
    by_cases same : reply.id = id
    · rw [if_pos same, if_pos ⟨rfl, same.symm⟩]
    · rw [if_neg same, if_neg fun both => same both.2.symm]
  · rw [if_neg here, if_neg fun both => here both.1.symm, stored?]

theorem indexDocument_document? (done : m.indexDocument now r = .ok (reply, changed)) (name id : String) :
    changed.document? name id =
      if reply.index = name ∧ reply.id = id then some r.document else m.document? name id := by
  rw [document?_eq, document?_eq, indexDocument_stored? done]
  by_cases here : reply.index = name ∧ reply.id = id
  · rw [if_pos here, if_pos ⟨here.1.symm, here.2.symm⟩]
    rfl
  · rw [if_neg here, if_neg fun both => here ⟨both.1.symm, both.2.symm⟩]

/-- What a write reports and counts is what the engine identifies its document by. -/
theorem indexDocument_identity (done : m.indexDocument now r = .ok (reply, changed)) :
    (reply.id, changed.minted) = m.identify r.id := by
  rw [indexDocument] at done
  split at done
  · cases done
  · cases done
    rfl

theorem writeTarget_through {aliasName name : String} (unnamed : Dict.has aliasName m.indices = false)
    (writes : m.writeIndex? aliasName = some name) : m.writeTarget aliasName = .ok name := by
  simp [writeTarget, unnamed, writes]

theorem writeTarget_named {name : String} (named : Dict.has name m.indices = true) :
    m.writeTarget name = .ok name := by
  simp [writeTarget, named]

end Writing

theorem deleteDocument_flag? (m : Memory) (index id name aliasName : String) :
    (m.deleteDocument index id).2.flag? name aliasName = m.flag? name aliasName := by
  rw [deleteDocument]
  dsimp only
  split
  · rw [flag?, flag?, Dict.find?_modify]
    by_cases hit : name = index
    · cases Dict.find? name m.indices <;> simp [hit]
    · simp [hit]
  · rfl

end DocMapper.Memory
