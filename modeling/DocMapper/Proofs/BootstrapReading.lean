import DocMapper.Proofs.SavedDocuments
import DocMapper.Proofs.WriteRouting
/-!
Whether a type can be read where it is written once it has been bootstrapped. An index that a
bootstrap creates is born with every alias for reading, so reads reach it unless another index
has the name they go to. What a bootstrap finds there already it leaves as it is, with the
aliases that it has and without those that it lacks; only the write alias may come to it again.
-/

namespace DocMapper

open Routing Rollover

namespace Repository

/-- The names that a type gives to indices and aliases. -/
def givenNames (t : DocumentType) : List String :=
  t.aliasName.toList ++ match t.addressing with
    | .fixed index => [index]
    | .timeBased _ _ => []
    | .rollover aliases _ => aliases.writeAlias :: aliases.indexPrefix :: aliases.readAlias.toList

/-- Names that a read target may hold as they are. -/
structure PlainNames (t : DocumentType) : Prop where
  literal : ∀ name ∈ givenNames t, '*' ∉ name.toList ∧ ',' ∉ name.toList
  /-- The name of an only index comes from the name of its type if nothing else is given. -/
  tidy : ∀ index, t.addressing = .fixed index → DocumentType.Tidy index

/-- Reads of a type take in an index. -/
def Reaches (m : Memory) (t : DocumentType) (index : String) : Prop :=
  index ∈ Dict.keys (m.readTargets (Routing.readTarget t))

/-- Every record that becomes a document is saved into one index. -/
def SavesInto (r : Repository) (name : String) (t : DocumentType) (m : Memory) (index : String) : Prop :=
  ∀ now record mapped, r.document t record = .ok mapped → ∃ reply after,
    Memory.run now (r.save now name record).run m = (r.record t (written t reply (withJoin t mapped)), after) ∧
      reply.index = index ∧ after.document? index reply.id = some (withJoin t mapped)

/-- The first index of a series is there, and nothing resolves its write alias. -/
def Reattaches (t : DocumentType) (m : Memory) : Prop :=
  ∃ aliases conditions, t.addressing = .rollover aliases conditions ∧
    m.writeIndex? aliases.writeAlias = none ∧ Dict.has (seriesName aliases.indexPrefix 1) m.indices = true

/-- No index has the name of the write alias. -/
def AliasUnclaimed (t : DocumentType) (m : Memory) : Prop :=
  ∀ aliases conditions, t.addressing = .rollover aliases conditions →
    Dict.has aliases.writeAlias m.indices = false

/-- When reads of a type reach the index that its saves go into, for each way a bootstrap may end. -/
structure LeftReadable (t : DocumentType) (m : Memory) (result : Option String) (changed : Memory) (index : String) :
    Prop where
  created : ∀ created, result = some created → AliasUnclaimed t m → index = created ∧
    (Reaches changed t index ↔ Routing.readTarget t = index ∨ Dict.has (Routing.readTarget t) m.indices = false)
  untouched : result = none → ¬Reattaches t m → (Reaches changed t index ↔ Reaches m t index)
  /-- The first index gets its write alias back, and no other one. -/
  reattached : ∀ aliases conditions, t.addressing = .rollover aliases conditions → Reattaches t m → AliasUnclaimed t m →
    result = none ∧ index = seriesName aliases.indexPrefix 1 ∧
      (Reaches changed t index ↔ Reaches m t index ∨ Routing.readTarget t = aliases.writeAlias)
  /-- Reads that take in the whole series by its prefix need no alias. -/
  byPrefix : ∀ aliases conditions, t.addressing = .rollover aliases conditions → Reattaches t m → AliasUnclaimed t m →
    Routing.readTarget t = aliases.indexPrefix ++ "-*" →
      (Reaches changed t index ↔ Dict.has (aliases.indexPrefix ++ "-*") m.indices = false)
  /-- An index that has the name of the write alias takes the saves, whatever the alias points at. -/
  claimed : ∀ aliases conditions, t.addressing = .rollover aliases conditions →
    Dict.has aliases.writeAlias m.indices = true → index = aliases.writeAlias ∧
      (Reaches changed t index ↔ Reaches m t index ∧ ∀ created, result = some created → Routing.readTarget t ≠ created)

variable {r : Repository} {name : String} {t : DocumentType} {m changed : Memory} {now : Instant}
  {aliases : RolloverAliases} {conditions : RolloverConditions} {index : String}

namespace PlainNames

theorem ownAlias (plain : PlainNames t) {aliasName : String} (given : t.aliasName = some aliasName) :
    '*' ∉ aliasName.toList ∧ ',' ∉ aliasName.toList :=
  plain.literal aliasName (by simp [givenNames, given])

theorem onlyIndex (plain : PlainNames t) (only : t.addressing = .fixed index) :
    '*' ∉ index.toList ∧ ',' ∉ index.toList :=
  plain.literal index (by simp [givenNames, only])

theorem writeAlias (plain : PlainNames t) (backed : t.addressing = .rollover aliases conditions) :
    '*' ∉ aliases.writeAlias.toList ∧ ',' ∉ aliases.writeAlias.toList :=
  plain.literal _ (by simp [givenNames, backed])

theorem indexPrefix (plain : PlainNames t) (backed : t.addressing = .rollover aliases conditions) :
    '*' ∉ aliases.indexPrefix.toList ∧ ',' ∉ aliases.indexPrefix.toList :=
  plain.literal _ (by simp [givenNames, backed])

theorem readThrough (plain : PlainNames t) (backed : t.addressing = .rollover aliases conditions)
    (through : ReadsThrough t aliases name) : '*' ∉ name.toList ∧ ',' ∉ name.toList := by
  rcases through with read | own
  · exact plain.literal name (by simp [givenNames, backed, read])
  · exact plain.ownAlias own

end PlainNames

theorem savesInto_of_target (found : r.find name = .ok t)
    (goes : ∀ now document, m.writeTarget (Routing.writeTarget t now document) = .ok index) :
    SavesInto r name t m index := by
  intro now record mapped mapping
  obtain ⟨reply, after, done, landed⟩ :=
    Memory.indexDocument_of_target (r := indexRequest t now mapped) (goes now _) now
  refine ⟨reply, after, ?_, landed, ?_⟩
  · rw [run_save found mapping, done]
  · rw [← landed]
    exact Memory.indexDocument_stored done

theorem savesInto_fixed (found : r.find name = .ok t) (only : t.addressing = .fixed index)
    (present : Dict.has index m.indices = true) : SavesInto r name t m index := by
  apply savesInto_of_target found
  intro now document
  rw [Routing.writeTarget, only]
  exact Memory.writeTarget_named present

theorem savesInto_named (found : r.find name = .ok t) (backed : t.addressing = .rollover aliases conditions)
    (named : Dict.has aliases.writeAlias m.indices = true) : SavesInto r name t m aliases.writeAlias := by
  apply savesInto_of_target found
  intro now document
  rw [Routing.writeTarget, backed]
  exact Memory.writeTarget_named named

theorem savesInto_through (found : r.find name = .ok t) (backed : t.addressing = .rollover aliases conditions)
    (unnamed : Dict.has aliases.writeAlias m.indices = false) (writes : m.writeIndex? aliases.writeAlias = some index) :
    SavesInto r name t m index := by
  apply savesInto_of_target found
  intro now document
  rw [Routing.writeTarget, backed]
  exact Memory.writeTarget_through unnamed writes

theorem savesInto_series (found : r.find name = .ok t) (backed : t.addressing = .rollover aliases conditions)
    (writes : m.writeIndex? aliases.writeAlias = some index) :
    SavesInto r name t m (if Dict.has aliases.writeAlias m.indices then aliases.writeAlias else index) := by
  cases named : Dict.has aliases.writeAlias m.indices with
  | true => exact savesInto_named found backed named
  | false => exact savesInto_through found backed named writes

/-- What a bootstrap that has the engine to itself finds, and what it does about it. -/
inductive Bootstrapped (t : DocumentType) (now : Instant) (m : Memory) : Option String → Memory → Prop where
  | present {index : String} (only : t.addressing = .fixed index) (present : Dict.has index m.indices = true) :
      Bootstrapped t now m none m
  | created {index : String} {changed : Memory} (only : t.addressing = .fixed index)
      (done : m.createIndex now index (t.indexBody (t.aliasName.map fun aliasName => ⟨aliasName, false⟩).toList) =
        .ok changed) :
      Bootstrapped t now m (some index) changed
  | resolved {aliases : RolloverAliases} {conditions : RolloverConditions} {current : String}
      (backed : t.addressing = .rollover aliases conditions)
      (writes : m.writeIndex? aliases.writeAlias = some current) :
      Bootstrapped t now m none m
  | reattached {aliases : RolloverAliases} {conditions : RolloverConditions} {changed : Memory}
      (backed : t.addressing = .rollover aliases conditions) (reattaches : Reattaches t m)
      (done : m.swapAlias ⟨aliases.writeAlias, none, seriesName aliases.indexPrefix 1⟩ = .ok changed) :
      Bootstrapped t now m none changed
  | begun {aliases : RolloverAliases} {conditions : RolloverConditions} {changed : Memory}
      (backed : t.addressing = .rollover aliases conditions)
      (unheld : m.writeIndex? aliases.writeAlias = none)
      (done : m.createIndex now (seriesName aliases.indexPrefix 1) (t.indexBody (firstAliases t aliases)) =
        .ok changed) :
      Bootstrapped t now m (some (seriesName aliases.indexPrefix 1)) changed

theorem run_bootstrap_fixed (found : r.find name = .ok t) (only : t.addressing = .fixed index) (now : Instant)
    (m : Memory) : ∃ result changed, Memory.run now (r.bootstrap name).run m = (.ok result, changed) ∧
      Bootstrapped t now m result changed := by
  rw [bootstrap, found, lift_ok_bind, only]
  dsimp only
  rw [bootstrapFixed]
  cases present : Dict.has index m.indices with
  | true =>
      refine ⟨none, m, (run_attempt ..).trans ?_, .present only present⟩
      rw [Memory.answer, present]
      rfl
  | false =>
      have granted : m.createIndex now index
          (t.indexBody (t.aliasName.map fun aliasName => ⟨aliasName, false⟩).toList) = .ok _ :=
        Memory.createIndex_of_fresh present
      refine ⟨some index, _, (run_attempt ..).trans ?_, .created only granted⟩
      rw [Memory.answer, present]
      refine (Dialogue.conduct_ask ..).trans ?_
      rw [Memory.answer, granted]
      rfl

theorem run_bootstrap_series (found : r.find name = .ok t) (backed : t.addressing = .rollover aliases conditions)
    (now : Instant) (m : Memory) : ∃ result changed, Memory.run now (r.bootstrap name).run m = (.ok result, changed) ∧
      Bootstrapped t now m result changed := by
  have whole : ∀ result changed, Memory.run now (Rollover.bootstrap t).run m = (.ok result, changed) →
      Memory.run now (r.bootstrap name).run m = (.ok result, changed) := by
    intro result changed run
    rw [Memory.run] at run
    rw [Logbook.run_bootstrap found backed, Memory.run, Dialogue.conduct_bind, run]
    rfl
  cases writes : m.writeIndex? aliases.writeAlias with
  | some current => exact ⟨none, m, whole _ _ (run_bootstrap_writing backed now writes), .resolved backed writes⟩
  | none =>
      cases present : Dict.has (seriesName aliases.indexPrefix 1) m.indices with
      | true =>
          obtain ⟨changed, done, run⟩ := run_bootstrap_attaching backed now writes present
          exact ⟨none, changed, whole _ _ run, .reattached backed ⟨_, _, backed, writes, present⟩ done⟩
      | false =>
          obtain ⟨changed, done, run⟩ := run_bootstrap_creating backed now writes present
          exact ⟨_, changed, whole _ _ run, .begun backed writes done⟩

theorem run_bootstrap_untimed (found : r.find name = .ok t)
    (untimed : ∀ pattern field, t.addressing ≠ .timeBased pattern field) (now : Instant) (m : Memory) :
    ∃ result changed, Memory.run now (r.bootstrap name).run m = (.ok result, changed) ∧
      Bootstrapped t now m result changed := by
  cases addressed : t.addressing with
  | timeBased pattern field => exact absurd addressed (untimed pattern field)
  | fixed index => exact run_bootstrap_fixed found addressed now m
  | rollover aliases conditions => exact run_bootstrap_series found addressed now m

theorem writeIndex?_attached {aliasName : String} (ordered : m.Ordered)
    (done : m.swapAlias ⟨aliasName, none, index⟩ = .ok changed) : changed.writeIndex? aliasName = some index := by
  apply Memory.writeIndex?_flagged (Memory.attach_ordered ordered done)
  · rw [Memory.attach_flag? done, if_pos rfl]
  · intro other flagged
    by_contra different
    rw [Memory.attach_flag? done, if_neg different] at flagged
    simp at flagged

theorem writeIndex?_begun (ordered : m.Ordered) (unheld : m.writeIndex? aliases.writeAlias = none)
    (done : m.createIndex now index (t.indexBody (firstAliases t aliases)) = .ok changed) :
    changed.writeIndex? aliases.writeAlias = some index := by
  apply Memory.writeIndex?_flagged (Memory.createIndex_ordered ordered done)
  · rw [Memory.createIndex_flag? done, if_pos rfl, firstAliases_write]
  · intro other flagged
    by_contra different
    rw [Memory.createIndex_flag? done, if_neg (Ne.symm different)] at flagged
    exact Memory.not_flagged_of_unresolved ordered unheld other flagged

/-- Reads take in a new index that they are meant for, unless they go to another one by its name. -/
theorem mem_readTargets_created {target : String} {body : Json} (ordered : m.Ordered)
    (single : ',' ∉ target.toList) (tidy : DocumentType.Tidy target)
    (done : m.createIndex now index body = .ok changed)
    (meant : target = index ∨ if '*' ∈ target.toList then Text.matchesWildcard target.toList index.toList = true
      else ∃ isWrite, Dict.find? target (MemoryIndex.aliasesIn body) = some isWrite) :
    index ∈ Dict.keys (changed.readTargets target) ↔ target = index ∨ Dict.has target m.indices = false := by
  rw [Memory.mem_keys_readTargets (Memory.createIndex_ordered ordered done) single tidy,
    Memory.createIndex_has done, Memory.createIndex_has done, Memory.createIndex_flag? done]
  constructor
  · rintro ⟨-, same | ⟨unnamed, -⟩⟩
    · exact .inl same.symm
    · exact .inr (Bool.or_eq_false_iff.mp unnamed).2
  · intro free
    refine ⟨by simp, ?_⟩
    by_cases same : target = index
    · exact .inl same.symm
    · have different : ¬index = target := Ne.symm same
      refine .inr ⟨by simp [different, free.resolve_left same], ?_⟩
      simpa using meant.resolve_left same

/-- A new index takes the reads away from the others if these reads go to its name. -/
theorem mem_readTargets_beside {target other : String} {body : Json} (ordered : m.Ordered)
    (single : ',' ∉ target.toList) (tidy : DocumentType.Tidy target)
    (done : m.createIndex now index body = .ok changed) (present : Dict.has other m.indices = true) :
    other ∈ Dict.keys (changed.readTargets target) ↔ other ∈ Dict.keys (m.readTargets target) ∧ target ≠ index := by
  have different : index ≠ other := by
    rintro rfl
    exact absurd (present.symm.trans (Memory.createIndex_fresh done)) (by decide)
  rw [Memory.mem_keys_readTargets (Memory.createIndex_ordered ordered done) single tidy,
    Memory.mem_keys_readTargets ordered single tidy, Memory.createIndex_has done, Memory.createIndex_has done,
    Memory.createIndex_flag? done, if_neg different]
  by_cases same : target = index
  · subst same
    simp [different.symm]
  · simp [present, same, Ne.symm same]

/-- Reads through an alias take in the index that it is put on, and no other reads change. -/
theorem mem_readTargets_attached {target aliasName other : String} (ordered : m.Ordered)
    (single : ',' ∉ target.toList) (tidy : DocumentType.Tidy target) (literal : '*' ∉ aliasName.toList)
    (done : m.swapAlias ⟨aliasName, none, index⟩ = .ok changed) :
    other ∈ Dict.keys (changed.readTargets target) ↔ other ∈ Dict.keys (m.readTargets target) ∨
      other = index ∧ target = aliasName ∧ Dict.has aliasName m.indices = false := by
  have present := (Memory.attach_granted done).1
  rw [Memory.mem_keys_readTargets (Memory.attach_ordered ordered done) single tidy,
    Memory.mem_keys_readTargets ordered single tidy, Memory.attach_has done, Memory.attach_has done,
    Memory.swapAlias_flag? done]
  by_cases through : target = aliasName
  · subst through
    by_cases put : other = index
    · subst put
      simp only [present, literal]
      grind
    · simp [put, literal]
  · simp [through]

theorem readTarget_fixed (only : t.addressing = .fixed index) : Routing.readTarget t = t.aliasName.getD index := by
  rw [Routing.readTarget, only]

theorem readTarget_plain {env : Environment} {config : TypeConfig} (built : DocumentType.build env config = .ok t)
    (untimed : ∀ pattern field, t.addressing ≠ .timeBased pattern field) (plain : PlainNames t) :
    ',' ∉ (Routing.readTarget t).toList ∧ DocumentType.Tidy (Routing.readTarget t) := by
  have own : ∀ aliasName, t.aliasName = some aliasName → DocumentType.Tidy aliasName :=
    fun _ given => DocumentType.build_ownAlias built given
  cases addressed : t.addressing with
  | timeBased pattern field => exact absurd addressed (untimed pattern field)
  | fixed index =>
      rw [readTarget_fixed addressed]
      cases given : t.aliasName with
      | some aliasName => exact ⟨(plain.ownAlias given).2, own aliasName given⟩
      | none => exact ⟨(plain.onlyIndex addressed).2, plain.tidy index addressed⟩
  | rollover aliases conditions =>
      have tidy := DocumentType.build_tidy built addressed
      -- Reads go through the read alias, the own alias or the pattern over the prefix.
      rcases readTarget_eq addressed with through | wildcard
      · exact ⟨(plain.readThrough addressed through).2, through.elim (tidy.readAlias _) (own _)⟩
      · rw [wildcard]
        exact ⟨by simpa using (plain.indexPrefix addressed).2, tidy_pattern tidy.indexPrefix⟩

theorem begun_meant (backed : t.addressing = .rollover aliases conditions) (plain : PlainNames t) :
    if '*' ∈ (Routing.readTarget t).toList then
      Text.matchesWildcard (Routing.readTarget t).toList (seriesName aliases.indexPrefix 1).toList = true
    else ∃ isWrite, Dict.find? (Routing.readTarget t)
      (MemoryIndex.aliasesIn (t.indexBody (firstAliases t aliases))) = some isWrite := by
  rcases readTarget_eq backed with through | wildcard
  · rw [if_neg (plain.readThrough backed through).1]
    -- Reads may go through the write alias itself, which has a flag of its own.
    by_cases write : Routing.readTarget t = aliases.writeAlias
    · rw [write]
      exact ⟨true, firstAliases_write⟩
    · exact ⟨false, firstAliases_read through write⟩
  · rw [wildcard, if_pos (by simp)]
    exact seriesName_matches (plain.indexPrefix backed).1 1

theorem created_meant (only : t.addressing = .fixed index) (plain : PlainNames t) :
    Routing.readTarget t = index ∨ if '*' ∈ (Routing.readTarget t).toList then
      Text.matchesWildcard (Routing.readTarget t).toList index.toList = true
    else ∃ isWrite, Dict.find? (Routing.readTarget t) (MemoryIndex.aliasesIn
      (t.indexBody (t.aliasName.map fun aliasName => ⟨aliasName, false⟩).toList)) = some isWrite := by
  rw [readTarget_fixed only]
  cases given : t.aliasName with
  | none => exact .inl rfl
  | some aliasName =>
      refine .inr ?_
      rw [Option.getD_some, if_neg (plain.ownAlias given).1, DocumentType.find?_aliasesIn_indexBody]
      exact ⟨false, by simp⟩

section Exits

variable (plain : PlainNames t) (single : ',' ∉ (Routing.readTarget t).toList)
  (tidy : DocumentType.Tidy (Routing.readTarget t)) (ordered : m.Ordered)

include plain single tidy ordered

/-- The first index of a series is in reach of reads by the prefix, unless an index has the name that
these go to. -/
theorem reaches_byPrefix (backed : t.addressing = .rollover aliases conditions)
    (present : Dict.has (seriesName aliases.indexPrefix 1) m.indices = true)
    (wildcard : Routing.readTarget t = aliases.indexPrefix ++ "-*") :
    Reaches m t (seriesName aliases.indexPrefix 1) ↔ Dict.has (aliases.indexPrefix ++ "-*") m.indices = false := by
  have literal : '*' ∉ aliases.indexPrefix.toList := (plain.indexPrefix backed).1
  have starred : '*' ∈ (aliases.indexPrefix ++ "-*").toList := by simp
  have other : seriesName aliases.indexPrefix 1 ≠ aliases.indexPrefix ++ "-*" := by
    intro same
    exact star_not_mem_seriesName literal 1 (same ▸ starred)
  rw [Reaches, Memory.mem_keys_readTargets ordered single tidy, wildcard, if_pos starred]
  simp only [present, other, seriesName_matches literal, false_or, and_true, true_and]

theorem leftReadable_created (only : t.addressing = .fixed index)
    (done : m.createIndex now index (t.indexBody (t.aliasName.map fun aliasName => ⟨aliasName, false⟩).toList) =
      .ok changed) : LeftReadable t m (some index) changed index where
  created _ same _ := ⟨Option.some.inj same,
    mem_readTargets_created ordered single tidy done (created_meant only plain)⟩
  untouched := nofun
  reattached _ _ backed := nomatch only.symm.trans backed
  byPrefix _ _ backed := nomatch only.symm.trans backed
  claimed _ _ backed := nomatch only.symm.trans backed

theorem leftReadable_reattached (backed : t.addressing = .rollover aliases conditions) (reattaches : Reattaches t m)
    (done : m.swapAlias ⟨aliases.writeAlias, none, seriesName aliases.indexPrefix 1⟩ = .ok changed) :
    LeftReadable t m none changed
      (if Dict.has aliases.writeAlias changed.indices then aliases.writeAlias else seriesName aliases.indexPrefix 1) := by
  have literal : '*' ∉ aliases.writeAlias.toList := (plain.writeAlias backed).1
  have attached : ∀ index, Reaches changed t index ↔ Reaches m t index ∨ index = seriesName aliases.indexPrefix 1 ∧
      Routing.readTarget t = aliases.writeAlias ∧ Dict.has aliases.writeAlias m.indices = false :=
    fun index => mem_readTargets_attached ordered single tidy literal done
  rw [Memory.attach_has done]
  constructor
  case created => exact nofun
  case untouched => exact fun _ untouched => absurd reattaches untouched
  case reattached =>
    intro _ _ addressed _ unclaimed
    cases backed.symm.trans addressed
    simp [unclaimed _ _ backed, attached]
  case byPrefix =>
    intro _ _ addressed _ unclaimed wildcard
    cases backed.symm.trans addressed
    obtain ⟨_, _, addressed, -, present⟩ := reattaches
    cases backed.symm.trans addressed
    -- The pattern ends in a star and the write alias has none, so the swap adds nothing it takes.
    have other : aliases.indexPrefix ++ "-*" ≠ aliases.writeAlias := by
      intro same
      exact literal (same ▸ by simp)
    rw [unclaimed _ _ backed, attached, wildcard]
    simpa [other] using reaches_byPrefix plain single tidy ordered backed present wildcard
  case claimed =>
    intro _ _ addressed held
    cases backed.symm.trans addressed
    simp [held, attached]

theorem leftReadable_begun (backed : t.addressing = .rollover aliases conditions)
    (done : m.createIndex now (seriesName aliases.indexPrefix 1) (t.indexBody (firstAliases t aliases)) = .ok changed) :
    LeftReadable t m (some (seriesName aliases.indexPrefix 1)) changed
      (if Dict.has aliases.writeAlias changed.indices then aliases.writeAlias else seriesName aliases.indexPrefix 1) := by
  have fresh := Memory.createIndex_fresh done
  have first : ¬Reattaches t m := by
    rintro ⟨_, _, addressed, -, present⟩
    cases backed.symm.trans addressed
    exact absurd (present.symm.trans fresh) (by decide)
  rw [Memory.createIndex_has done]
  constructor
  case created =>
    intro created same unclaimed
    cases same
    -- The alias may have the name of the index that was just created.
    have goes : (if (decide (seriesName aliases.indexPrefix 1 = aliases.writeAlias) ||
        Dict.has aliases.writeAlias m.indices) = true then aliases.writeAlias
        else seriesName aliases.indexPrefix 1) = seriesName aliases.indexPrefix 1 := by
      by_cases own : seriesName aliases.indexPrefix 1 = aliases.writeAlias <;> simp [own, unclaimed _ _ backed]
    rw [goes]
    exact ⟨rfl, mem_readTargets_created ordered single tidy done (.inr (begun_meant backed plain))⟩
  case untouched => exact nofun
  case reattached => exact fun _ _ _ put => absurd put first
  case byPrefix => exact fun _ _ _ put => absurd put first
  case claimed =>
    intro _ _ addressed held
    cases backed.symm.trans addressed
    rw [held, Bool.or_true, if_pos rfl]
    refine ⟨rfl, (mem_readTargets_beside ordered single tidy done held).trans ?_⟩
    simp [Reaches]

end Exits

theorem leftReadable_present (only : t.addressing = .fixed index) : LeftReadable t m none m index where
  created := nofun
  untouched _ _ := Iff.rfl
  reattached _ _ backed := nomatch only.symm.trans backed
  byPrefix _ _ backed := nomatch only.symm.trans backed
  claimed _ _ backed := nomatch only.symm.trans backed

theorem leftReadable_resolved (backed : t.addressing = .rollover aliases conditions)
    (writes : m.writeIndex? aliases.writeAlias = some index) :
    LeftReadable t m none m (if Dict.has aliases.writeAlias m.indices then aliases.writeAlias else index) := by
  have resolved : ¬Reattaches t m := by
    rintro ⟨_, _, addressed, unheld, -⟩
    cases backed.symm.trans addressed
    exact nomatch writes.symm.trans unheld
  constructor
  case created => exact nofun
  case untouched => exact fun _ _ => Iff.rfl
  case reattached => exact fun _ _ _ put => absurd put resolved
  case byPrefix => exact fun _ _ _ put => absurd put resolved
  case claimed =>
    intro _ _ addressed held
    cases backed.symm.trans addressed
    simp [held]

/-- After a bootstrap every save of a type goes into one index, and how the bootstrap ended and what
it found says whether reads of the type reach this index. -/
theorem bootstrap_leaves_readable {env : Environment} {config : TypeConfig}
    (built : DocumentType.build env config = .ok t) (found : r.find name = .ok t)
    (untimed : ∀ pattern field, t.addressing ≠ .timeBased pattern field) (plain : PlainNames t)
    (ordered : m.Ordered) (now : Instant) :
    ∃ result changed index, Memory.run now (r.bootstrap name).run m = (.ok result, changed) ∧
      SavesInto r name t changed index ∧ LeftReadable t m result changed index := by
  obtain ⟨single, tidy⟩ := readTarget_plain built untimed plain
  obtain ⟨result, changed, run, done⟩ := run_bootstrap_untimed found untimed now m
  -- Every exit leaves one index that saves go to; what reads reach is what the exit changed.
  cases done with
  | present only present =>
      exact ⟨_, _, _, run, savesInto_fixed found only present, leftReadable_present only⟩
  | created only done =>
      have present := (Memory.createIndex_has done _).trans (by rw [decide_eq_true rfl, Bool.true_or])
      exact ⟨_, _, _, run, savesInto_fixed found only present, leftReadable_created plain single tidy ordered only done⟩
  | resolved backed writes =>
      exact ⟨_, _, _, run, savesInto_series found backed writes, leftReadable_resolved backed writes⟩
  | reattached backed reattaches done =>
      exact ⟨_, _, _, run, savesInto_series found backed (writeIndex?_attached ordered done),
        leftReadable_reattached plain single tidy ordered backed reattaches done⟩
  | begun backed unheld done =>
      exact ⟨_, _, _, run, savesInto_series found backed (writeIndex?_begun ordered unheld done),
        leftReadable_begun plain single tidy ordered backed done⟩

section Notes

/-- Notes, in one index that is read through an alias. -/
def notesConfig : TypeConfig where
  name := "Note"
  indexName := some "notes"
  aliasName := some "notes-read"
  timePattern := none
  timeField := none
  rollover := none
  settings := .none
  relation := none
  fields := []

def notes : DocumentType where
  name := "Note"
  indexName := "notes"
  aliasName := some "notes-read"
  addressing := .fixed "notes"
  relation := .none
  settings := .none
  fields := []
  roles := []
  rolloverSchedule := none

def noteProgram : Repository where
  registry := Registry.ofConfigs .empty [notesConfig]
  mapper := .renaming
  defaultSchedule := .minutely

theorem build_notes : DocumentType.build .empty notesConfig = .ok notes := rfl

theorem plainNames_notes : PlainNames notes where
  literal := by decide
  tidy := by
    intro index only
    cases only
    exact ⟨by decide, by decide⟩

theorem new_notes_readable : ∃ result changed index,
    Memory.run ⟨0, 0⟩ (noteProgram.bootstrap "Note").run Memory.empty = (.ok result, changed) ∧
      SavesInto noteProgram "Note" notes changed index ∧ Reaches changed notes index := by
  have untimed : ∀ pattern field, notes.addressing ≠ .timeBased pattern field := nofun
  have found : noteProgram.find "Note" = .ok notes := rfl
  obtain ⟨result, changed, index, run, saves, left⟩ :=
    bootstrap_leaves_readable build_notes found untimed plainNames_notes Memory.ordered_empty ⟨0, 0⟩
  have given : result = some "notes" := Except.ok.inj (congrArg Prod.fst run).symm
  have unclaimed : AliasUnclaimed notes Memory.empty := nofun
  exact ⟨result, changed, index, run, saves, (left.created "notes" given unclaimed).2.mpr (.inr rfl)⟩

/-- Whether a bootstrap leaves reads in reach of the index that saves go into. -/
def LeavesReadable (r : Repository) (name : String) (t : DocumentType) (m : Memory) : Prop :=
  ∀ now result changed index, Memory.run now (r.bootstrap name).run m = (.ok result, changed) →
    SavesInto r name t changed index → Reaches changed t index

theorem not_leavesReadable {result : Option String}
    (run : Memory.run ⟨0, 0⟩ (r.bootstrap name).run m = (.ok result, changed)) (saves : SavesInto r name t changed index)
    (unread : index ∉ Dict.keys (changed.readTargets (Routing.readTarget t))) : ¬LeavesReadable r name t m :=
  fun readable => unread (readable ⟨0, 0⟩ result changed index run saves)

/-- An engine with one index that has some aliases. -/
def engineOf (index : String) (aliases : Dict Bool) : Memory :=
  ⟨[(index, { MemoryIndex.create ⟨0, 0⟩ (.object []) with aliases })], 0⟩

/-- Notes, in an index that has the name of their type, with a blank in front. -/
def paddedConfig : TypeConfig :=
  { notesConfig with name := " note", indexName := none, aliasName := none }

def paddedNotes : DocumentType :=
  { notes with name := " note", indexName := " note", aliasName := none, addressing := .fixed " note" }

def paddedProgram : Repository :=
  { noteProgram with registry := Registry.ofConfigs .empty [paddedConfig] }

theorem plainNames_logLines : PlainNames logLines where
  literal := by decide
  tidy := nofun

/-- No way a bootstrap may end leaves every type readable. The only index may be there without its
alias, reads may go to another index that has their name, or drop a blank of the name; in a series the
alias may resolve to an index that is not read, the first index may get it back without the one for
reading, or an index that has its name may take the saves. -/
theorem old_indices_unreadable :
    (¬∀ (env : Environment) (config : TypeConfig) (t : DocumentType) (r : Repository) (name : String) (m : Memory),
      DocumentType.build env config = .ok t → r.find name = .ok t →
      (∀ pattern field, t.addressing ≠ .timeBased pattern field) → PlainNames t → m.Ordered →
      LeavesReadable r name t m) ∧
    ¬LeavesReadable noteProgram "Note" notes (engineOf "notes" []) ∧
    ¬LeavesReadable noteProgram "Note" notes (engineOf "notes-read" []) ∧
    DocumentType.build .empty paddedConfig = .ok paddedNotes ∧
    ¬LeavesReadable paddedProgram " note" paddedNotes Memory.empty ∧
    DocumentType.build .empty logLinesConfig = .ok logLines ∧ PlainNames logLines ∧
    ¬LeavesReadable Logbook.logProgram "LogLine" logLines (engineOf "logs-000001" [("logs-write", true)]) ∧
    ¬LeavesReadable Logbook.logProgram "LogLine" logLines (engineOf "logs-000001" []) ∧
    ¬LeavesReadable Logbook.logProgram "LogLine" logLines (engineOf "logs-write" []) := by
  have old : ¬LeavesReadable noteProgram "Note" notes (engineOf "notes" []) :=
    not_leavesReadable rfl (savesInto_fixed rfl rfl rfl) (by decide)
  have found : Logbook.logProgram.find "LogLine" = .ok logLines := by rfl
  have backed : logLines.addressing = .rollover logAliases _ := rfl
  have goes : SavesInto Logbook.logProgram "LogLine" logLines (engineOf "logs-000001" [("logs-write", true)]) "logs-000001" :=
    savesInto_through found backed rfl rfl
  have unread : "logs-000001" ∉ Dict.keys
      ((engineOf "logs-000001" [("logs-write", true)]).readTargets (Routing.readTarget logLines)) := by decide
  -- Saves reach an old index in each of these states, and the read target leaves it out.
  refine ⟨fun readable => ?_, old, ?_, rfl, ?_, build_logLines, plainNames_logLines,
    not_leavesReadable rfl goes unread, not_leavesReadable rfl goes unread, ?_⟩
  · exact old (readable .empty notesConfig notes noteProgram "Note" _ build_notes rfl nofun plainNames_notes
      (List.pairwise_singleton ..))
  · exact not_leavesReadable rfl (savesInto_fixed rfl rfl rfl) (by decide)
  · exact not_leavesReadable rfl (savesInto_fixed rfl rfl rfl) (by decide)
  · exact not_leavesReadable rfl (savesInto_named found backed rfl) (by decide)

end Notes

end Repository

end DocMapper
