import DocMapper.Proofs.AliasFlags
import Mathlib.Data.List.Nodup
/-!
Which stored documents a search finds, and what their deletion leaves. In every state that the
engine gets into, an index has its name to itself and a document its identity within its index,
so a search finds every matching document once, however often the target names its index, and
what is deleted leaves every other document as it was.
-/

namespace DocMapper

/-- Where a hit is stored. -/
def Hit.place (hit : Hit) : String × String :=
  (hit.index, hit.id)

def MemoryIndex.thin (index : MemoryIndex) (keep : String → Bool) : MemoryIndex :=
  { index with documents := index.documents.filter fun d => keep d.1 }

namespace Dict

variable {indices : Dict MemoryIndex}

/-- The names of the indices are in order, and the identities in each of them are. -/
structure Keyed (indices : Dict MemoryIndex) : Prop where
  names : Ordered indices
  documents : ∀ entry ∈ indices, Ordered entry.2.documents

theorem Keyed.put (keyed : Keyed indices) (name : String) {index : MemoryIndex} (ordered : Ordered index.documents) :
    Keyed (Dict.put name index indices) where
  names := keyed.names.put name index
  documents := by
    intro entry member
    rcases mem_put member with rfl | stored
    · exact ordered
    · exact keyed.documents entry stored

theorem Keyed.mapValues (keyed : Keyed indices) {f : String → MemoryIndex → MemoryIndex}
    (keeps : ∀ name index, Ordered index.documents → Ordered (f name index).documents) :
    Keyed (Dict.mapValues f indices) where
  names := Ordered.mapValues keyed.names f
  documents := by
    intro entry member
    obtain ⟨before, stored, rfl⟩ := List.mem_map.mp member
    exact keeps before.1 before.2 (keyed.documents before stored)

theorem Keyed.modify (keyed : Keyed indices) (name : String) {f : MemoryIndex → MemoryIndex}
    (keeps : ∀ index, Ordered index.documents → Ordered (f index).documents) :
    Keyed (Dict.modify name f indices) where
  names := keyed.names.modify name f
  documents := by
    intro entry member
    obtain ⟨before, stored, rfl⟩ := List.mem_map.mp member
    split
    · exact keeps before.2 (keyed.documents before stored)
    · exact keyed.documents before stored

theorem Keyed.find? (keyed : Keyed indices) {name : String} {index : MemoryIndex}
    (found : Dict.find? name indices = some index) : Ordered index.documents :=
  keyed.documents _ (mem_of_find? found)

end Dict

namespace Memory

variable {m changed : Memory} {now : Instant} {target name id : String} {criteria : Criteria} {hit : Hit}
  {sort : List SortKey} {keep : String → String → Bool}

/-! ## States of the engine -/

def Keyed (m : Memory) : Prop :=
  Dict.Keyed m.indices

theorem keyed_empty : Memory.empty.Keyed where
  names := ordered_empty
  documents _ listed := absurd listed List.not_mem_nil

theorem createIndex_keyed (keyed : m.Keyed) {body : Json} (done : m.createIndex now name body = .ok changed) :
    changed.Keyed := by
  rw [createIndex_eq done]
  exact keyed.put name Dict.ordered_nil

theorem withoutWriter_keyed {indices : Dict MemoryIndex} (keyed : Dict.Keyed indices) (aliasName : String) :
    Dict.Keyed (withoutWriter aliasName indices) :=
  keyed.mapValues fun _ _ ordered => ordered

theorem withAliases_keyed {indices : Dict MemoryIndex} (keyed : Dict.Keyed indices) (name : String)
    (f : Dict Bool → Dict Bool) : Dict.Keyed (Dict.modify name (withAliases f) indices) :=
  keyed.modify name fun _ ordered => ordered

theorem swapAlias_keyed (keyed : m.Keyed) {s : AliasSwap} (done : m.swapAlias s = .ok changed) : changed.Keyed := by
  rw [swapAlias] at done
  split at done
  · cases done
  split at done
  · cases done
  cases done
  refine withAliases_keyed (withoutWriter_keyed ?_ s.aliasName) s.target _
  cases s.source with
  | none => exact keyed
  | some source => exact withAliases_keyed keyed source _

theorem rollover_keyed (keyed : m.Keyed) {r : RolloverRequest} (done : m.rollover now r = .ok changed) :
    changed.Keyed := by
  rw [(rollover_granted done).2.2]
  exact (withoutWriter_keyed keyed r.aliasName).put r.target Dict.ordered_nil

theorem indexDocument_keyed (keyed : m.Keyed) {r : IndexRequest} {reply : IndexReply}
    (done : m.indexDocument now r = .ok (reply, changed)) : changed.Keyed := by
  rw [indexDocument] at done
  split at done
  · cases done
  · next goes _ =>
      cases done
      refine keyed.put goes (Dict.Ordered.put ?_ _ _)
      cases found : Dict.find? goes m.indices with
      | none => exact Dict.ordered_nil
      | some index => exact keyed.find? found

/-- Every index with only those of its documents that are kept. -/
def thin (m : Memory) (keep : String → String → Bool) : Memory :=
  { m with indices := Dict.mapValues (fun name index => index.thin (keep name)) m.indices }

theorem Keyed.thin (keyed : m.Keyed) (keep : String → String → Bool) : (m.thin keep).Keyed := by
  have ordered : ∀ (name : String) (index : MemoryIndex), Dict.Ordered index.documents →
      Dict.Ordered (index.thin (keep name)).documents := fun _ _ ordered => ordered.filter _
  exact Dict.Keyed.mapValues keyed ordered

theorem deleteDocument_eq (m : Memory) (name id : String) :
    m.deleteDocument name id = ((m.stored? name id).isSome,
      if (m.stored? name id).isSome then m.thin fun n i => (n, i) ≠ (name, id) else m) := by
  have there : ((Dict.find? name m.indices).map fun index => Dict.has id index.documents).getD false =
      (m.stored? name id).isSome := by
    rw [stored?]
    cases Dict.find? name m.indices <;> rfl
  have without : Dict.modify name (fun index => { index with documents := Dict.remove id index.documents }) m.indices =
      (m.thin fun n i => (n, i) ≠ (name, id)).indices := by
    refine List.map_congr_left fun entry _ => ?_
    by_cases same : entry.1 = name
    · simp [same, Dict.remove, MemoryIndex.thin]
    · simp [same, MemoryIndex.thin]
  rw [deleteDocument, there, without]
  rfl

theorem deleteDocument_keyed (keyed : m.Keyed) (name id : String) : (m.deleteDocument name id).2.Keyed := by
  rw [deleteDocument_eq]
  dsimp only
  split
  · exact keyed.thin _
  · exact keyed

/-- What holds before a change and after it if it is granted holds in any case. -/
theorem change_preserves {motive : Memory → Prop} {outcome : Except Fault Memory} (before : motive m)
    (granted : ∀ changed, outcome = .ok changed → motive changed) : motive (m.change outcome).2 := by
  cases outcome with
  | error fault => exact before
  | ok changed => exact granted changed rfl

theorem answer_keyed (keyed : m.Keyed) (now : Instant) (c : Call) : (answer now c m).2.Keyed := by
  cases c with
  | createIndex index body => exact change_preserves keyed fun _ done => createIndex_keyed keyed done
  | swapAlias s => exact change_preserves keyed fun _ done => swapAlias_keyed keyed done
  | rollover r => exact change_preserves keyed fun _ done => rollover_keyed keyed done
  | indexDocument r =>
      rw [answer]
      cases done : m.indexDocument now r with
      | error fault => exact keyed
      | ok granted => exact indexDocument_keyed keyed done
  | deleteDocument index id routing => exact deleteDocument_keyed keyed index id
  | indexStats index =>
      rw [answer]
      split <;> exact keyed
  | indexExists | listIndices | writeIndex | search | count => exact keyed

theorem run_keyed {α : Type} (keyed : m.Keyed) (now : Instant) (program : Program α) :
    (Memory.run now program m).2.Keyed := by
  induction program generalizing m with
  | done result => exact keyed
  | ask call next ih => exact ih _ (answer_keyed keyed now call)

/-! ## What is kept -/

theorem thin_all (m : Memory) : (m.thin fun _ _ => true) = m := by
  simp [thin, MemoryIndex.thin, Dict.mapValues]

theorem thin_thin (m : Memory) (first second : String → String → Bool) :
    (m.thin first).thin second = m.thin fun name id => first name id && second name id := by
  simp [thin, MemoryIndex.thin, Dict.mapValues, Bool.and_comm]

theorem stored?_iff (keyed : m.Keyed) {stored : StoredDocument} :
    m.stored? name id = some stored ↔
      ∃ index, (name, index) ∈ m.indices ∧ (id, stored) ∈ index.documents := by
  rw [stored?, Option.bind_eq_some_iff]
  constructor
  · rintro ⟨index, found, there⟩
    exact ⟨index, Dict.mem_of_find? found, Dict.mem_of_find? there⟩
  · rintro ⟨index, listed, there⟩
    exact ⟨index, keyed.names.find?_of_mem listed, (keyed.documents _ listed).find?_of_mem there⟩

theorem stored?_thin (keyed : m.Keyed) (keep : String → String → Bool) (name id : String) :
    (m.thin keep).stored? name id = if keep name id then m.stored? name id else none := by
  rw [stored?, stored?, thin, Dict.find?_mapValues]
  cases found : Dict.find? name m.indices with
  | none => simp
  | some index =>
      rw [Option.map_some, Option.bind_some, Option.bind_some, MemoryIndex.thin,
        (keyed.find? found).find?_filter]
      cases Dict.find? id index.documents with
      | none => simp
      | some stored => cases kept : keep name id <;> simp [Option.filter, kept]

/-- What is stored has no say in what a target takes in. -/
theorem keys_readTargets_thin (m : Memory) (keep : String → String → Bool) (target : String) :
    Dict.keys ((m.thin keep).readTargets target) = Dict.keys (m.readTargets target) := by
  have selected (entry : String × MemoryIndex) (piece : String) :
      (m.thin keep).selects piece entry.1 (entry.2.thin (keep entry.1)) = m.selects piece entry.1 entry.2 := by
    rw [selects, selects, thin, Dict.has_mapValues]
    rfl
  have taken : (m.thin keep).readTargets target =
      Dict.mapValues (fun name index => index.thin (keep name)) (m.readTargets target) := by
    rw [readTargets, readTargets, Dict.mapValues, thin, Dict.mapValues, List.filter_map]
    refine congrArg _ (List.filter_congr fun entry _ => ?_)
    exact congrArg (List.any (targetPieces target)) (funext fun piece => selected entry piece)
  rw [taken, Dict.keys, Dict.mapValues, List.map_map]
  rfl

/-! ## What is found -/

theorem insertHit_perm (sort : List SortKey) (hit : Hit) (sorted : List Hit) :
    (insertHit sort hit sorted).Perm (hit :: sorted) := by
  induction sorted with
  | nil => exact List.Perm.refl _
  | cons last earlier ih =>
      rw [insertHit]
      split
      · exact (ih.cons last).trans (List.Perm.swap _ _ _)
      · exact List.Perm.refl _

theorem sortHits_perm (sort : List SortKey) (hits : List Hit) : (sortHits sort hits).Perm hits := by
  have inserted : ∀ (hits sorted : List Hit),
      (hits.foldl (fun sorted hit => insertHit sort hit sorted) sorted).Perm (hits ++ sorted) := by
    intro hits
    induction hits with
    | nil => exact fun _ => List.Perm.refl _
    | cons hit rest ih =>
        intro sorted
        refine (ih _).trans ?_
        exact ((insertHit_perm sort hit sorted).append_left rest).trans List.perm_middle
  have all := inserted hits []
  rw [List.append_nil] at all
  exact (List.reverse_perm _).trans all

/-- An order to sort by changes nothing but the order of the hits. -/
theorem search_perm (m : Memory) (target : String) (criteria : Criteria) (sort : List SortKey) :
    (m.search target ⟨criteria, sort, none⟩).Perm (m.search target ⟨criteria, [], none⟩) := by
  rw [search, search]
  dsimp only
  split
  · exact List.Perm.refl _
  · exact sortHits_perm sort _

theorem mem_readTargets_of_keys (keyed : m.Keyed) {index : MemoryIndex} (listed : (name, index) ∈ m.indices)
    (taken : name ∈ Dict.keys (m.readTargets target)) : (name, index) ∈ m.readTargets target := by
  obtain ⟨⟨_, other⟩, member, rfl⟩ := List.mem_map.mp taken
  have found := keyed.names.find?_of_mem listed
  rw [keyed.names.find?_of_mem (List.mem_of_mem_filter member)] at found
  cases found
  exact member

theorem mem_search (keyed : m.Keyed) :
    hit ∈ m.search target ⟨criteria, sort, none⟩ ↔ hit.index ∈ Dict.keys (m.readTargets target) ∧
      ∃ stored, m.stored? hit.index hit.id = some stored ∧ criteria.holds stored.source = true ∧
        hit = ⟨hit.index, hit.id, some 1.0, stored.source⟩ := by
  have found : hit ∈ m.search target ⟨criteria, sort, none⟩ ↔
      ∃ entry ∈ m.readTargets target, hit ∈ entry.2.hits entry.1 criteria := by
    rw [(search_perm m target criteria sort).mem_iff]
    simp [search]
  rw [found]
  constructor
  · rintro ⟨⟨name, index⟩, read, hits⟩
    obtain ⟨⟨id, stored⟩, there, rfl⟩ := List.mem_map.mp hits
    obtain ⟨there, holds⟩ := List.mem_filter.mp there
    have listed := List.mem_of_mem_filter read
    exact ⟨List.mem_map_of_mem read, stored, (stored?_iff keyed).mpr ⟨index, listed, there⟩, holds, rfl⟩
  · rintro ⟨taken, stored, kept, holds, same⟩
    obtain ⟨index, listed, there⟩ := (stored?_iff keyed).mp kept
    refine ⟨(hit.index, index), mem_readTargets_of_keys keyed listed taken, ?_⟩
    rw [same]
    exact List.mem_map.mpr ⟨(hit.id, stored), List.mem_filter.mpr ⟨there, holds⟩, rfl⟩

theorem mem_places (keyed : m.Keyed) {stored : StoredDocument} (there : m.stored? name id = some stored) :
    (name, id) ∈ (m.search target ⟨criteria, sort, none⟩).map Hit.place ↔
      name ∈ Dict.keys (m.readTargets target) ∧ criteria.holds stored.source = true := by
  constructor
  · intro member
    obtain ⟨hit, found, same⟩ := List.mem_map.mp member
    cases same
    obtain ⟨taken, kept, kept_there, holds, -⟩ := (mem_search keyed).mp found
    cases kept_there.symm.trans there
    exact ⟨taken, holds⟩
  · rintro ⟨taken, holds⟩
    have found : ⟨name, id, some 1.0, stored.source⟩ ∈ m.search target ⟨criteria, sort, none⟩ :=
      (mem_search keyed).mpr ⟨taken, stored, there, holds, rfl⟩
    exact List.mem_map_of_mem found

theorem search_nodup (keyed : m.Keyed) :
    ((m.search target ⟨criteria, sort, none⟩).map Hit.place).Nodup := by
  have places : (m.search target ⟨criteria, [], none⟩).map Hit.place =
      (m.readTargets target).flatMap fun entry =>
        (entry.2.documents.filter fun d => criteria.holds d.2.source).map fun d => (entry.1, d.1) := by
    simp [search, MemoryIndex.hits, Hit.place, List.map_flatMap, Function.comp_def]
  rw [((search_perm m target criteria sort).map Hit.place).nodup_iff, places, List.nodup_flatMap]
  constructor
  · intro entry taken
    have ordered := keyed.documents entry (List.mem_of_mem_filter taken)
    have identities := (ordered.filter fun d => criteria.holds d.2.source).keys_nodup
    have paired := List.Nodup.map (f := fun id => (entry.1, id)) (fun _ _ same => (Prod.mk.inj same).2) identities
    rwa [Dict.keys, List.map_map] at paired
  · -- Two indices have two names.
    have names : (m.readTargets target).Pairwise fun a b => a.1 < b.1 := List.Pairwise.filter _ keyed.names
    refine names.imp fun before => ?_
    intro place first second
    obtain ⟨_, -, rfl⟩ := List.mem_map.mp first
    obtain ⟨_, -, same⟩ := List.mem_map.mp second
    exact absurd (Prod.mk.inj same).1 (ne_of_gt before)

theorem count_eq (m : Memory) (target : String) (criteria : Criteria) (sort : List SortKey) :
    m.count target criteria = (m.search target ⟨criteria, sort, none⟩).length := by
  rw [(search_perm m target criteria sort).length_eq]
  simp [count, search, MemoryIndex.hits, List.length_flatMap]

theorem count_thin (keyed : m.Keyed)
    (dropped : ∀ hit ∈ m.search target ⟨criteria, sort, none⟩, keep hit.index hit.id = false) :
    (m.thin keep).count target criteria = 0 := by
  rw [count_eq _ _ _ sort, List.length_eq_zero_iff, List.eq_nil_iff_forall_not_mem]
  intro hit found
  obtain ⟨taken, stored, there, holds, same⟩ := (mem_search (keyed.thin keep)).mp found
  rw [keys_readTargets_thin] at taken
  rw [stored?_thin keyed] at there
  split at there
  · next kept =>
      have before : hit ∈ m.search target ⟨criteria, sort, none⟩ :=
        (mem_search keyed).mpr ⟨taken, stored, there, holds, same⟩
      rw [dropped hit before] at kept
      cases kept
  · cases there

end Memory

end DocMapper
