import DocMapper.Proofs.FilledPlaces
/-!
What becomes of the entries of a record when it is written. An entry is stored under the engine's
name for it, and one that no field declares under its own; engine names tell siblings apart, so two
entries come together in one way only: an undeclared key is the engine's name for another key of the
record. Then the entry that is later in key order is stored and the other one is gone.
-/

namespace DocMapper.DocumentType

variable {n : Naming} {fields : List Field} {members : Dict Json} {key other own : String} {value : Json} {f : Field}

/-- Of the entries that are renamed alike the last one is kept. -/
theorem find?_renamed_last (ordered : Dict.Ordered members) (there : Dict.find? key members = some value)
    (last : ∀ other ∈ Dict.keys members, renamedKey n fields other = renamedKey n fields key → other ≤ key) :
    Dict.find? (renamedKey n fields key) (Dict.ofPairs (members.map (renameMember n fields))) =
      some (renameMember n fields (key, value)).2 := by
  obtain ⟨front, back, rfl⟩ := List.append_of_mem (Dict.mem_of_find? there)
  have passed : renamedKey n fields key ∉ Dict.keys (back.map (renameMember n fields)).reverse := by
    rw [Dict.keys, List.map_reverse, List.mem_reverse, List.map_map, List.mem_map]
    rintro ⟨entry, listed, same⟩
    have later : key < entry.1 := by
      have behind := (List.pairwise_append.mp ordered).2.1
      exact List.rel_of_pairwise_cons behind listed
    have member : entry.1 ∈ Dict.keys (front ++ (key, value) :: back) :=
      List.mem_map_of_mem (List.mem_append_right front (List.mem_cons_of_mem _ listed))
    exact absurd (last _ member ((renameMember_key n fields entry).symm.trans same)) (not_le.mpr later)
  rw [Dict.find?_ofPairs, List.map_append, List.map_cons, List.reverse_append, List.reverse_cons, List.append_assoc,
    Dict.find?_append, Dict.find?_eq_none passed, ← renameMember_key n fields (key, value)]
  simp [Dict.find?]

/-! ## Entries that meet -/

/-- A key of the record that no field declares is the engine's name for another key of it. -/
structure Clash (fields : List Field) (members : Dict Json) (own : String) (f : Field) : Prop where
  own_there : own ∈ Dict.keys members
  undeclared : ∀ g ∈ fields, g.name ≠ own
  named_there : f.name ∈ Dict.keys members
  declared : fields.find? (fun g => g.name = f.name) = some f
  meets : f.engineName = own

theorem renamedKey_declared (declared : fields.find? (fun g => g.name = key) = some f) :
    renamedKey .toEngine fields key = f.engineName := by
  rw [renamedKey, show Naming.toEngine.find? fields key = some f from declared]
  rfl

theorem renamedKey_undeclared (undeclared : ∀ g ∈ fields, g.name ≠ key) : renamedKey .toEngine fields key = key := by
  rw [renamedKey, Naming.find?_eq_none_iff.mpr undeclared]

theorem renameMember_declared (declared : fields.find? (fun g => g.name = key) = some f) :
    (renameMember .toEngine fields (key, value)).2 = rename .toEngine f.properties value := by
  rw [renameMember, show Naming.toEngine.find? fields key = some f from declared]

theorem renameMember_undeclared (undeclared : ∀ g ∈ fields, g.name ≠ key) :
    (renameMember .toEngine fields (key, value)).2 = value := by
  rw [renameMember, Naming.find?_eq_none_iff.mpr undeclared]

theorem declared_or_not (fields : List Field) (key : String) :
    (∃ f, fields.find? (fun g => g.name = key) = some f ∧ f.name = key) ∨ ∀ g ∈ fields, g.name ≠ key := by
  cases found : fields.find? (fun g => g.name = key) with
  | some f => exact .inl ⟨f, rfl, by simpa using List.find?_some found⟩
  | none => exact .inr (by simpa using found)

theorem Clash.eq_or_eq (clash : Clash fields members own f) (differ : SiblingsDiffer fields)
    (same : renamedKey .toEngine fields other = own) : other = own ∨ other = f.name := by
  rcases declared_or_not fields other with ⟨g, declared, named⟩ | undeclared
  · -- Only one field has the engine name.
    have again := differ.find? (List.mem_of_find?_eq_some declared)
    rw [← renamedKey_declared declared, same, ← clash.meets,
      differ.find? (List.mem_of_find?_eq_some clash.declared)] at again
    cases again
    exact .inr named.symm
  · exact .inl ((renamedKey_undeclared undeclared).symm.trans same)

theorem clash_of_alike (differ : SiblingsDiffer fields) (there : key ∈ Dict.keys members)
    (also : other ∈ Dict.keys members) (same : renamedKey .toEngine fields other = renamedKey .toEngine fields key)
    (apart : other ≠ key) : ∃ own f, Clash fields members own f ∧ (key = own ∨ key = f.name) := by
  rcases declared_or_not fields key with ⟨f, declared, named⟩ | undeclared <;>
    rcases declared_or_not fields other with ⟨g, alsoDeclared, alsoNamed⟩ | alsoUndeclared
  · have one := differ.find? (List.mem_of_find?_eq_some declared)
    rw [← renamedKey_declared declared, ← same, renamedKey_declared alsoDeclared,
      differ.find? (List.mem_of_find?_eq_some alsoDeclared)] at one
    cases one
    exact absurd (alsoNamed.symm.trans named) apart
  · rw [renamedKey_undeclared alsoUndeclared, renamedKey_declared declared] at same
    subst named
    exact ⟨other, f, ⟨also, alsoUndeclared, there, declared, same.symm⟩, .inr rfl⟩
  · rw [renamedKey_undeclared undeclared, renamedKey_declared alsoDeclared] at same
    subst alsoNamed
    exact ⟨key, g, ⟨there, undeclared, also, alsoDeclared, same⟩, .inl rfl⟩
  · rw [renamedKey_undeclared undeclared, renamedKey_undeclared alsoUndeclared] at same
    exact absurd same apart

/-! ## What a document has of a record -/

/-- An entry is in the document, under its own key or the engine's name for it, and no other entry
of the record is meant to be there. -/
structure EntryKept (t : DocumentType) (members : Dict Json) (key : String) (value : Json) : Prop where
  undeclared : (∀ f ∈ t.fields, f.name ≠ key) → (t.toEngine (.object members)).get? key = some value
  declared : ∀ f, t.fields.find? (fun f => f.name = key) = some f →
    (t.toEngine (.object members)).get? f.engineName = some (rename .toEngine f.properties value)
  alone : ∀ other ∈ Dict.keys members, renamedKey .toEngine t.fields other = renamedKey .toEngine t.fields key → other = key

variable {env : Environment} {config : TypeConfig} {t : DocumentType}

theorem get?_toEngine_last (ordered : Dict.Ordered members) (there : Dict.find? key members = some value)
    (last : ∀ other ∈ Dict.keys members,
      renamedKey .toEngine t.fields other = renamedKey .toEngine t.fields key → other ≤ key) :
    (t.toEngine (.object members)).get? (renamedKey .toEngine t.fields key) =
      some (renameMember .toEngine t.fields (key, value)).2 := by
  rw [toEngine, rename_object]
  exact find?_renamed_last ordered there last

theorem entryKept_of_alone (ordered : Dict.Ordered members) (there : Dict.find? key members = some value)
    (alone : ∀ other ∈ Dict.keys members,
      renamedKey .toEngine t.fields other = renamedKey .toEngine t.fields key → other = key) :
    EntryKept t members key value := by
  have stored := get?_toEngine_last ordered there fun other also same => (alone other also same).le
  refine ⟨fun undeclared => ?_, fun f declared => ?_, alone⟩
  · rwa [renamedKey_undeclared undeclared, renameMember_undeclared undeclared] at stored
  · rwa [renamedKey_declared declared, renameMember_declared declared] at stored

theorem Clash.apart (clash : Clash fields members own f) : f.name ≠ own :=
  clash.undeclared f (List.mem_of_find?_eq_some clash.declared)

theorem Clash.alike (clash : Clash fields members own f) :
    renamedKey .toEngine fields f.name = renamedKey .toEngine fields own := by
  rw [renamedKey_declared clash.declared, renamedKey_undeclared clash.undeclared, clash.meets]

theorem Clash.stored (clash : Clash t.fields members own f) (differ : SiblingsDiffer t.fields)
    (ordered : Dict.Ordered members) {named : Json} (there : Dict.find? own members = some value)
    (also : Dict.find? f.name members = some named) :
    (t.toEngine (.object members)).get? own =
      some (if own < f.name then rename .toEngine f.properties named else value) := by
  split
  · next later =>
      have last := get?_toEngine_last (t := t) ordered also fun other _ same => by
        rw [clash.alike, renamedKey_undeclared clash.undeclared] at same
        rcases clash.eq_or_eq differ same with rfl | rfl
        · exact later.le
        · exact le_rfl
      rwa [clash.alike, renamedKey_undeclared clash.undeclared, renameMember_declared clash.declared] at last
  · next earlier =>
      have last := get?_toEngine_last (t := t) ordered there fun other _ same => by
        rw [renamedKey_undeclared clash.undeclared] at same
        rcases clash.eq_or_eq differ same with rfl | rfl
        · exact le_rfl
        · exact not_lt.mp earlier
      rwa [renamedKey_undeclared clash.undeclared, renameMember_undeclared clash.undeclared] at last

/-- An entry of a record is kept just if it meets no other one, and of two that meet the later one
in key order is what the document has. -/
theorem entry_kept_iff (built : build env config = .ok t) (ordered : Dict.Ordered members) :
    (∀ key value, Dict.find? key members = some value →
      (EntryKept t members key value ↔ ∀ own f, Clash t.fields members own f → key ≠ own ∧ key ≠ f.name)) ∧
    ∀ own f, Clash t.fields members own f → ∀ value named,
      Dict.find? own members = some value → Dict.find? f.name members = some named →
      (t.toEngine (.object members)).get? own =
        some (if own < f.name then rename .toEngine f.properties named else value) := by
  have differ := build_differ built
  refine ⟨fun key value there => ⟨fun kept own f clash => ⟨?_, ?_⟩, fun clear => ?_⟩, ?_⟩
  · rintro rfl
    exact clash.apart (kept.alone f.name clash.named_there clash.alike)
  · rintro rfl
    exact clash.apart (kept.alone own clash.own_there clash.alike.symm).symm
  · refine entryKept_of_alone ordered there fun other also same => ?_
    by_contra apart
    obtain ⟨own, f, clash, meets | meets⟩ :=
      clash_of_alike differ (List.mem_map_of_mem (Dict.mem_of_find? there)) also same apart
    · exact (clear own f clash).1 meets
    · exact (clear own f clash).2 meets
  · exact fun own f clash value named there also => clash.stored differ ordered there also

section Responses

/-- Responses to a question, whose identity has another name in the engine. -/
def responsesConfig : TypeConfig where
  name := "Response"
  indexName := none
  aliasName := none
  timePattern := none
  timeField := none
  rollover := none
  settings := .none
  relation := none
  fields := [⟨"question_id", some "questionId", .keyword, none, []⟩]

def questionId : Field :=
  ⟨"question_id", "questionId", ⟨"questionId"⟩, .keyword, none, []⟩

def responses : DocumentType where
  name := "Response"
  indexName := "response"
  aliasName := none
  addressing := .fixed "response"
  relation := .none
  settings := .none
  fields := [questionId]
  roles := []
  rolloverSchedule := none

theorem build_responses : build .empty responsesConfig = .ok responses := by
  rfl

/-- A response with a member of its own. -/
def response : Dict Json :=
  [("question_id", .string "q-1"), ("text", .string "Yes")]

/-- A response that has a member under the engine's name for its question. -/
def quotingResponse : Dict Json :=
  [("questionId", .string "mine"), ("question_id", .string "q-1")]

theorem quotingResponse_ordered : Dict.Ordered quotingResponse := by
  decide +kernel

theorem quotingResponse_clash : Clash responses.fields quotingResponse "questionId" questionId where
  own_there := by decide
  undeclared := by decide
  named_there := by decide
  declared := rfl
  meets := rfl

/-- One response is kept whole, and of the other one only the identity of its question is. -/
theorem response_kept_whole :
    build .empty responsesConfig = .ok responses ∧ Dict.Ordered response ∧ Dict.Ordered quotingResponse ∧
      (∀ key value, Dict.find? key response = some value → EntryKept responses response key value) ∧
      (responses.toEngine (.object quotingResponse)).get? "questionId" = some (.string "q-1") := by
  have ordered : Dict.Ordered response := by decide +kernel
  refine ⟨build_responses, ordered, quotingResponse_ordered, fun key value there => ?_, ?_⟩
  · refine ((entry_kept_iff build_responses ordered).1 key value there).mpr fun own f clash => ?_
    have named : f = questionId := List.mem_singleton.mp (List.mem_of_find?_eq_some clash.declared)
    have own_there := clash.own_there
    rw [← clash.meets, named] at own_there
    exact absurd own_there (by decide)
  · have stored := (entry_kept_iff build_responses quotingResponse_ordered).2 _ _ quotingResponse_clash
      (.string "mine") (.string "q-1") rfl rfl
    rwa [if_pos (by decide +kernel)] at stored

/-- The member under the engine's name for the question is gone from the document. -/
theorem own_member_overwritten :
    ¬ ∀ (env : Environment) (config : TypeConfig) (t : DocumentType), build env config = .ok t →
      ∀ members : Dict Json, Dict.Ordered members → ∀ key value, Dict.find? key members = some value →
        ((∀ f ∈ t.fields, f.name ≠ key) → (t.toEngine (.object members)).get? key = some value) ∧
          ∀ f, t.fields.find? (fun f => f.name = key) = some f →
            (t.toEngine (.object members)).get? f.engineName = some (rename .toEngine f.properties value) := by
  intro every
  have kept := (every _ _ _ build_responses _ quotingResponse_ordered "questionId" (.string "mine") rfl).1
    quotingResponse_clash.undeclared
  have gone : (responses.toEngine (.object quotingResponse)).get? "questionId" = some (.string "q-1") := by
    rfl
  rw [gone] at kept
  simp at kept

end Responses

end DocMapper.DocumentType
