import DocMapper.Proofs.CarriedRecords
import DocMapper.Proofs.SubjectWords
/-!
What the subjects of one query have to do with each other. Finding gives every matching document
once, counting says how many these are, asking whether there are any says whether that is more
than none, and deleting takes just these away.
-/

namespace DocMapper.Repository

variable {r : Repository} {name rest : String} {t : DocumentType} {m after : Memory} {now : Instant}
  {criteria : Criteria} {sort : List SortKey} {arguments : List Argument} {hits : List Hit} {entry : String × Subject}

/-! ## One subject at a time -/

theorem run_count (found : r.find name = .ok t) (now : Instant) (m : Memory) :
    Memory.run now (r.count name criteria).run m = (.ok (m.count (Routing.readTarget t) criteria), m) := by
  rw [count, found, lift_ok_bind]
  rfl

/-- Whether a document is stored in another place than all hits. -/
def spared (hits : List Hit) (index id : String) : Bool :=
  (index, id) ∉ hits.map Hit.place

theorem run_deleteHits (keyed : m.Keyed) (apart : (hits.map Hit.place).Nodup)
    (stored : ∀ hit ∈ hits, (m.stored? hit.index hit.id).isSome) :
    Memory.run now (deleteHits t hits).run m = (.ok hits.length, m.thin (spared hits)) := by
  induction hits generalizing m with
  | nil =>
      have all : m.thin (spared []) = m := m.thin_all
      rw [all]
      rfl
  | cons hit others ih =>
      obtain ⟨first, later⟩ := List.nodup_cons.mp apart
      let less := m.thin fun index id => (index, id) ≠ hit.place
      have gone : m.deleteDocument hit.index hit.id = (true, less) := by
        rw [Memory.deleteDocument_eq, stored hit List.mem_cons_self, if_pos rfl]
        rfl
      -- The places differ, so a deletion leaves the other hits where they are.
      have still : ∀ other ∈ others, (less.stored? other.index other.id).isSome := by
        intro other listed
        have different : (other.index, other.id) ≠ hit.place :=
          fun same => first (List.mem_map.mpr ⟨other, listed, same⟩)
        rw [Memory.stored?_thin keyed, if_pos (decide_eq_true different)]
        exact stored other (List.mem_cons_of_mem hit listed)
      have both : less.thin (spared others) = m.thin (spared (hit :: others)) := by
        rw [Memory.thin_thin]
        refine congrArg m.thin (funext₂ fun index id => ?_)
        rw [spared, spared, List.map_cons, ← Bool.decide_and]
        exact decide_eq_decide.mpr (List.mem_cons.not.trans not_or).symm
      refine (run_attempt ..).trans ?_
      rw [Memory.answer, gone]
      refine (run_bind_ok (ih (keyed.thin _) later still)).trans ?_
      rw [both]
      rfl

theorem run_delete (found : r.find name = .ok t) (keyed : m.Keyed) :
    Memory.run now (r.delete name ⟨criteria, sort, none⟩).run m =
      (.ok (m.search (Routing.readTarget t) ⟨criteria, sort, none⟩).length,
        m.thin (spared (m.search (Routing.readTarget t) ⟨criteria, sort, none⟩))) := by
  have stored : ∀ hit ∈ m.search (Routing.readTarget t) ⟨criteria, sort, none⟩, (m.stored? hit.index hit.id).isSome := by
    intro hit listed
    obtain ⟨-, stored, there, -⟩ := (Memory.mem_search keyed).mp listed
    rw [there]
    rfl
  rw [delete, found, lift_ok_bind]
  exact (run_attempt ..).trans (run_deleteHits keyed (Memory.search_nodup keyed) stored)

/-! ## All subjects of a query -/

/-- What a subject gives that finds these hits. -/
def answerTo (t : DocumentType) (hits : List Hit) : Subject → QueryResult
  | .find => .documents (hits.map (renamedHit t))
  | .count => .count hits.length
  | .exist => .exist (hits.length > 0)
  | .delete => .deleted hits.length

theorem run_execute (found : r.find name = .ok t) (renames : r.mapper = .renaming) (keyed : m.Keyed)
    {method : String} {subject : Subject} (compiled : r.compile name method arguments = .ok ⟨subject, criteria, sort, none⟩)
    (hits_eq : m.search (Routing.readTarget t) ⟨criteria, sort, none⟩ = hits) (now : Instant) :
    Memory.run now (r.execute name method arguments).run m =
      (.ok (answerTo t hits subject), if subject = .delete then m.thin (spared hits) else m) := by
  have counted : m.count (Routing.readTarget t) criteria = hits.length := by
    rw [m.count_eq _ _ sort, hits_eq]
  subst hits_eq
  rw [execute, compiled, lift_ok_bind]
  cases subject with
  | find => exact run_bind_ok (run_search found renames _)
  | count =>
      refine (run_bind_ok (run_count found now m)).trans ?_
      rw [counted]
      rfl
  | exist =>
      refine (run_bind_ok (run_count found now m)).trans ?_
      rw [counted]
      rfl
  | delete => exact run_bind_ok (run_delete found keyed)

/-- One of the pieces of what a type reads from takes in an index. -/
def Behind (m : Memory) (t : DocumentType) (index : String) : Prop :=
  ∃ piece ∈ Memory.targetPieces (Routing.readTarget t), m.TakenBy piece index

theorem behind_iff (keyed : m.Keyed) (index : String) :
    Behind m t index ↔ index ∈ Dict.keys (m.readTargets (Routing.readTarget t)) :=
  (Memory.mem_keys_readTargets_iff keyed.names).symm

/-- The subjects' words before the rest of one name ask for the same documents, in a state of the
engine where these are the hits, and deleting them leads to the state `after`. -/
structure Agreement (r : Repository) (name rest : String) (arguments : List Argument) (t : DocumentType)
    (m : Memory) (criteria : Criteria) (hits : List Hit) (after : Memory) : Prop where
  compiled : ∀ entry ∈ Subject.words, ∃ sort,
    r.compile name (entry.1 ++ rest) arguments = .ok ⟨entry.2, criteria, sort, none⟩
  answers : ∀ entry ∈ Subject.words, ∀ now, Memory.run now (r.execute name (entry.1 ++ rest) arguments).run m =
    (.ok (answerTo t hits entry.2), if entry.2 = .delete then after else m)
  /-- The hits are the matching documents of the indices that reads of the type take in. -/
  matching : ∀ hit, hit ∈ hits ↔ Behind m t hit.index ∧
    ∃ stored, m.stored? hit.index hit.id = some stored ∧ criteria.holds stored.source = true ∧
      hit = ⟨hit.index, hit.id, some 1.0, stored.source⟩
  once : (hits.map Hit.place).Nodup
  /-- Where a save has stored a record, finding gives this back, with what the engine knows of it. -/
  carried : ∀ (env : Environment) (config : TypeConfig), DocumentType.build env config = .ok t →
    ∀ members, (Json.object members).Ordered →
      (∀ level inner, DocumentType.Reaches .toEngine t.fields (.object members) level inner →
        ∀ key ∈ Dict.keys inner, (∀ f ∈ level, f.name ≠ key) → ∀ f ∈ level, f.engineName ≠ key) →
      (∀ role ∈ [Role.identity, .score, .indexName], t.StepsClear role) →
      ∀ hit ∈ hits, m.document? hit.index hit.id = some (withJoin t (t.toEngine (.object members))) →
        t.Carries [.identity, .score, .indexName] (.object members) (renamedHit t hit)
  /-- Nothing is left to count after the deletion. -/
  emptied : ∀ entry ∈ Subject.words, entry.2 = .count → ∀ now,
    Memory.run now (r.execute name (entry.1 ++ rest) arguments).run after = (.ok (.count 0), after)
  kept : ∀ index id stored, after.stored? index id = some stored ↔
    m.stored? index id = some stored ∧ ¬(Behind m t index ∧ criteria.holds stored.source = true)
  /-- The deletion takes away documents and nothing else. -/
  thinned : after = m.thin (spared hits)

theorem agreement (found : r.find name = .ok t) (renames : r.mapper = .renaming) (keyed : m.Keyed)
    (compiled : ∀ entry ∈ Subject.words, r.compile name (entry.1 ++ rest) arguments = .ok ⟨entry.2, criteria, sort, none⟩)
    (hits_eq : m.search (Routing.readTarget t) ⟨criteria, sort, none⟩ = hits) :
    Agreement r name rest arguments t m criteria hits (m.thin (spared hits)) where
  compiled := fun entry listed => ⟨sort, compiled entry listed⟩
  answers := fun entry listed now => run_execute found renames keyed (compiled entry listed) hits_eq now
  matching := by
    subst hits_eq
    intro hit
    rw [behind_iff keyed]
    exact Memory.mem_search keyed
  once := by
    subst hits_eq
    exact Memory.search_nodup keyed
  carried := by
    intro env config built members ordered own clear hit listed stored
    have source := Memory.document?_of_mem_search keyed (hits_eq ▸ listed)
    exact carries_found built ordered (DocumentType.fromEngine_toEngine built ordered own) clear
      (Option.some.inj (source.symm.trans stored))
  emptied := by
    intro entry listed counts now
    have none : (m.thin (spared hits)).count (Routing.readTarget t) criteria = 0 := by
      subst hits_eq
      exact Memory.count_thin keyed fun hit listed => decide_eq_false (not_not.mpr (List.mem_map_of_mem listed))
    rw [Memory.count_eq _ _ _ sort] at none
    refine (run_execute found renames (keyed.thin _) (compiled entry listed) rfl now).trans ?_
    rw [counts, answerTo, none]
    rfl
  kept := by
    intro index id stored
    subst hits_eq
    -- Spared is what no hit lies at, and the hits are what matches behind the target.
    have left (there : m.stored? index id = some stored) :
        spared (m.search (Routing.readTarget t) ⟨criteria, sort, none⟩) index id = true ↔
          ¬(Behind m t index ∧ criteria.holds stored.source = true) := by
      rw [behind_iff keyed]
      exact decide_eq_true_iff.trans (not_congr (Memory.mem_places keyed there))
    rw [Memory.stored?_thin keyed]
    constructor
    · intro still
      split at still
      · next untouched => exact ⟨still, (left still).mp untouched⟩
      · cases still
    · rintro ⟨there, unmatched⟩
      rw [if_pos ((left there).mpr unmatched), there]
  thinned := rfl

/-- Of a name without a limit, either no subject compiles and nothing is touched, or the subjects
agree. -/
theorem subjects_agree (found : r.find name = .ok t) (renames : r.mapper = .renaming) (keyed : m.Keyed)
    (unlimited : ∀ said, MethodName.parse ("find" ++ rest) = .ok said → said.limit = none) (arguments : List Argument) :
    (∀ entry ∈ Subject.words, ∃ failure, r.compile name (entry.1 ++ rest) arguments = .error failure ∧
        ∀ now, Memory.run now (r.execute name (entry.1 ++ rest) arguments).run m = (.error failure, m)) ∨
      ∃ criteria hits after, Agreement r name rest arguments t m criteria hits after := by
  have compile_eq (method : String) : r.compile name method arguments =
      (Query.compileMethod t.resolve method arguments).mapError fun e => .of (.derivation e) := by
    rw [compile, found]
    rfl
  rcases Query.compile_words t.resolve rest arguments with refused | ⟨read, criteria, sort, same⟩
  · refine .inl fun entry listed => ?_
    obtain ⟨e, refused⟩ := refused entry listed
    have failed : r.compile name (entry.1 ++ rest) arguments = .error (.of (.derivation e)) := by
      rw [compile_eq, refused]
      rfl
    refine ⟨_, failed, fun now => ?_⟩
    rw [execute, failed, lift_error_bind]
    rfl
  · have said := unlimited _ (same ("find", .find) (by decide)).1
    have open_ended : read.limit = none := said
    have compiled : ∀ entry ∈ Subject.words,
        r.compile name (entry.1 ++ rest) arguments = .ok ⟨entry.2, criteria, sort, none⟩ := by
      intro entry listed
      rw [compile_eq, (same entry listed).2, open_ended]
      rfl
    exact .inr ⟨criteria, _, _, agreement found renames keyed compiled rfl⟩

section Memos

/-- Memos that are read through the name of an index and a wildcard that takes it in once more. -/
def memosConfig : TypeConfig where
  name := "Memo"
  indexName := some "memos-1"
  aliasName := some "memos-1,memos-*"
  timePattern := none
  timeField := none
  rollover := none
  settings := .none
  relation := none
  fields := [⟨"title", none, .keyword, none, []⟩]

def memos : DocumentType where
  name := "Memo"
  indexName := "memos-1"
  aliasName := some "memos-1,memos-*"
  addressing := .fixed "memos-1"
  relation := .none
  settings := .none
  fields := [⟨"title", "title", ⟨"title"⟩, .keyword, none, []⟩]
  roles := []
  rolloverSchedule := none

def memoProgram : Repository where
  registry := Registry.ofConfigs .empty [memosConfig]
  mapper := .renaming
  defaultSchedule := .minutely

def memo (title : String) : StoredDocument :=
  ⟨.object [("title", .string title)], 1, 16⟩

/-- An engine with three memos in two indices, two of them about milk. -/
def fridge : Memory :=
  ⟨[("memos-1", ⟨⟨0, 0⟩, .object [], [], [("a", memo "milk"), ("b", memo "tea")]⟩),
    ("memos-2", ⟨⟨0, 0⟩, .object [], [], [("a", memo "milk")]⟩)], 0⟩

theorem fridge_keyed : fridge.Keyed where
  names := by decide +kernel
  documents := by
    intro entry listed
    simp only [fridge, List.mem_cons, List.not_mem_nil, or_false] at listed
    obtain rfl | rfl := listed <;> decide +kernel

theorem milk_agrees : ∃ criteria hits after,
    Agreement memoProgram "Memo" "ByTitle" [.value (.string "milk")] memos fridge criteria hits after ∧
      hits.length = 2 := by
  have unlimited : ∀ said, MethodName.parse ("find" ++ "ByTitle") = .ok said → said.limit = none := by
    intro said parsed
    have read : MethodName.parse ("find" ++ "ByTitle") =
        .ok ⟨"findByTitle", .find, false, none, [[⟨"Title", "Title", .is⟩]], []⟩ := by rfl
    cases read.symm.trans parsed
    rfl
  have found : memoProgram.find "Memo" = .ok memos := by rfl
  have counted : (Memory.run ⟨0, 0⟩ (memoProgram.execute "Memo" ("count" ++ "ByTitle")
      [.value (.string "milk")]).run fridge).1 = .ok (.count 2) := by rfl
  rcases subjects_agree found rfl fridge_keyed unlimited [.value (.string "milk")] with refused | agreed
  · obtain ⟨failure, -, failed⟩ := refused ("count", .count) (by decide)
    rw [failed] at counted
    cases counted
  · obtain ⟨criteria, hits, after, agree⟩ := agreed
    rw [agree.answers ("count", .count) (by decide)] at counted
    exact ⟨criteria, hits, after, agree, QueryResult.count.inj (Except.ok.inj counted)⟩

end Memos

end DocMapper.Repository
