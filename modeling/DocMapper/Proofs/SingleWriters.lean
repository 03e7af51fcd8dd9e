import DocMapper.Proofs.AliasFlags
import Mathlib.Data.List.Induction
/-!
How many indices take the writes of one alias. A swap and a rollover of the alias leave one
index with its flag, whatever was there before. An index that is created brings the flags its
body asks for, and takes none away: so there are two writers exactly when an index is born with
the flag while another one has it.
-/

namespace DocMapper

/-- What a call does with the write flag of one alias, if it is granted. -/
inductive FlagChange where
  | kept
  /-- A new index has it too. -/
  | raised (name : String)
  /-- One index has it and no other does. -/
  | handed (name : String)
deriving DecidableEq

/-- Which indices have a flag after a change, by which of them had it before. -/
def FlagChange.holds (before : String → Prop) : FlagChange → String → Prop
  | .kept, name => before name
  | .raised born, name => name = born ∨ before name
  | .handed owner, name => name = owner

/-- What the birth of an index with a body does with the flag of an alias. -/
def birthChange (aliasName name : String) (body : Json) : FlagChange :=
  if Dict.find? aliasName (MemoryIndex.aliasesIn body) = some true then .raised name else .kept

def Call.flagChange (aliasName : String) : Call → FlagChange
  | .createIndex index body => birthChange aliasName index body
  | .swapAlias s => if s.aliasName = aliasName then .handed s.target else .kept
  | .rollover r => if r.aliasName = aliasName then .handed r.target else birthChange aliasName r.target r.body
  | _ => .kept

namespace Memory

/-- Calls in turn, each at its own time. -/
def after (m : Memory) (calls : List (Instant × Call)) : Memory :=
  calls.foldl (fun m call => (answer call.1 call.2 m).2) m

def Granted (now : Instant) (c : Call) (m : Memory) : Prop :=
  ∃ reply, (answer now c m).1 = .ok reply

def Flagged (m : Memory) (aliasName name : String) : Prop :=
  m.flag? name aliasName = some true

instance (m : Memory) (aliasName name : String) : Decidable (m.Flagged aliasName name) :=
  inferInstanceAs (Decidable (_ = _))

/-- At most one index takes the writes of an alias. -/
def SingleWriter (m : Memory) (aliasName : String) : Prop :=
  ∀ one other, m.Flagged aliasName one → m.Flagged aliasName other → one = other

section Step

variable {m : Memory} {now : Instant} {c : Call} {aliasName name : String}

theorem granted_change {outcome : Except Fault Memory} :
    (∃ reply, (m.change outcome).1 = .ok reply) ↔ ∃ changed, outcome = .ok changed := by
  cases outcome <;> simp [change]

theorem granted_indexDocument {r : IndexRequest} :
    Granted now (.indexDocument r) m ↔ ∃ reply changed, m.indexDocument now r = .ok (reply, changed) := by
  rw [Granted, answer]
  cases m.indexDocument now r with
  | error fault => simp
  | ok granted => exact ⟨fun _ => ⟨granted.1, granted.2, rfl⟩, fun _ => ⟨granted.1, rfl⟩⟩

theorem answer_refused (refused : ¬Granted now c m) : (answer now c m).2 = m := by
  -- A change that fails touches nothing; a deletion is always granted, and the rest only read.
  cases c with
  | createIndex index body =>
      cases outcome : m.createIndex now index body with
      | error fault => simp [answer, outcome, change]
      | ok changed => exact absurd (granted_change.mpr ⟨changed, outcome⟩) refused
  | swapAlias s =>
      cases outcome : m.swapAlias s with
      | error fault => simp [answer, outcome, change]
      | ok changed => exact absurd (granted_change.mpr ⟨changed, outcome⟩) refused
  | rollover r =>
      cases outcome : m.rollover now r with
      | error fault => simp [answer, outcome, change]
      | ok changed => exact absurd (granted_change.mpr ⟨changed, outcome⟩) refused
  | indexDocument r =>
      cases outcome : m.indexDocument now r with
      | error fault => simp [answer, outcome]
      | ok granted => exact absurd (granted_indexDocument.mpr ⟨granted.1, granted.2, outcome⟩) refused
  | indexStats index => cases found : Dict.find? index m.indices <;> simp [answer, found]
  | deleteDocument index id routing => exact absurd ⟨_, rfl⟩ refused
  | indexExists index => rfl
  | listIndices pattern => rfl
  | writeIndex aliasName => rfl
  | search target request => rfl
  | count target criteria => rfl

theorem holds_birthChange {body : Json} {before : String → Prop} {born : String} (fresh : ¬before born) :
    (birthChange aliasName born body).holds before name ↔
      if born = name then Dict.find? aliasName (MemoryIndex.aliasesIn body) = some true else before name := by
  rw [birthChange]
  by_cases asked : Dict.find? aliasName (MemoryIndex.aliasesIn body) = some true
  · by_cases hit : born = name
    · simp [asked, hit, FlagChange.holds]
    · simp [asked, hit, FlagChange.holds, Ne.symm hit]
  · by_cases hit : born = name
    · subst hit
      simp [asked, FlagChange.holds, fresh]
    · simp [asked, hit, FlagChange.holds]

theorem flagged_answer (granted : Granted now c m) :
    (answer now c m).2.Flagged aliasName name ↔ (c.flagChange aliasName).holds (m.Flagged aliasName) name := by
  -- A birth raises the flag on an index that cannot have had it; a swap or a rollover moves it.
  cases c with
  | createIndex index body =>
      obtain ⟨changed, done⟩ := granted_change.mp granted
      have fresh : ¬m.Flagged aliasName index := by
        rw [Flagged, flag?_absent (createIndex_fresh done)]
        exact fun flagged => nomatch flagged
      rw [Call.flagChange, holds_birthChange fresh]
      simp only [answer, done, change, Flagged, createIndex_flag? done]
      split <;> rfl
  | swapAlias s =>
      obtain ⟨changed, done⟩ := granted_change.mp granted
      simp only [answer, done, change, Flagged, swapAlias_flag? done, Call.flagChange]
      by_cases moved : s.aliasName = aliasName
      · by_cases hit : name = s.target
        · simp [moved, hit, FlagChange.holds]
        · by_cases left : s.source = some name <;> simp [moved, hit, left, FlagChange.holds]
      · simp [moved, Ne.symm moved, FlagChange.holds, Flagged]
  | rollover r =>
      obtain ⟨changed, done⟩ := granted_change.mp granted
      have fresh : ¬m.Flagged aliasName r.target := by
        rw [Flagged, flag?_absent (rollover_granted done).1]
        exact fun flagged => nomatch flagged
      by_cases own : r.aliasName = aliasName
      · simp only [answer, done, change, Flagged, rollover_flag? done, Call.flagChange, own, ↓reduceIte,
          FlagChange.holds, lowered]
        by_cases hit : r.target = name
        · simp [hit]
        · cases m.flag? name aliasName <;> simp [hit, Ne.symm hit]
      · simp only [Call.flagChange, own, ↓reduceIte, holds_birthChange fresh]
        simp only [answer, done, change, Flagged, rollover_flag? done, own, ↓reduceIte, lowered, Ne.symm own]
        split <;> rfl
  | indexDocument r =>
      obtain ⟨reply, changed, done⟩ := granted_indexDocument.mp granted
      simp [answer, done, Flagged, indexDocument_flag? done, Call.flagChange, FlagChange.holds]
  | deleteDocument index id routing =>
      simp [answer, Flagged, deleteDocument_flag?, Call.flagChange, FlagChange.holds]
  | indexStats index =>
      cases found : Dict.find? index m.indices <;> simp [answer, found, Call.flagChange, FlagChange.holds]
  | indexExists index => rfl
  | listIndices pattern => rfl
  | writeIndex aliasName => rfl
  | search target request => rfl
  | count target criteria => rfl

theorem raised_fresh (granted : Granted now c m) (raised : c.flagChange aliasName = .raised name) :
    ¬m.Flagged aliasName name := by
  have born : ∀ {index : String} {body : Json}, birthChange aliasName index body = .raised name → index = name := by
    intro index body raised
    rw [birthChange] at raised
    split at raised
    · exact FlagChange.raised.inj raised
    · cases raised
  intro flagged
  have present := has_of_flag? flagged
  cases c with
  | createIndex index body =>
      obtain ⟨changed, done⟩ := granted_change.mp granted
      rw [← born raised, createIndex_fresh done] at present
      cases present
  | rollover r =>
      obtain ⟨changed, done⟩ := granted_change.mp granted
      rw [Call.flagChange] at raised
      split at raised
      · cases raised
      · rw [← born raised, (rollover_granted done).1] at present
        cases present
  | swapAlias s =>
      rw [Call.flagChange] at raised
      split at raised <;> cases raised
  | _ => cases raised

/-- One call leaves a single writer, unless it raises the flag while an index has it. -/
theorem SingleWriter.answer (single : m.SingleWriter aliasName)
    (unmatched : ∀ name, Granted now c m → c.flagChange aliasName = .raised name →
      ∀ other, ¬m.Flagged aliasName other) :
    (Memory.answer now c m).2.SingleWriter aliasName := by
  intro one other flagged also
  by_cases granted : Granted now c m
  · rw [flagged_answer granted] at flagged also
    cases change : c.flagChange aliasName with
    | kept =>
        rw [change] at flagged also
        exact single one other flagged also
    | handed owner =>
        rw [change] at flagged also
        exact flagged.trans also.symm
    | raised born =>
        have nobody := unmatched born granted change
        rw [change] at flagged also
        have first := flagged.resolve_right (nobody one)
        exact first.trans (also.resolve_right (nobody other)).symm
  · rw [answer_refused granted] at flagged also
    exact single one other flagged also

end Step

section Runs

theorem after_append (m : Memory) (calls : List (Instant × Call)) (now : Instant) (c : Call) :
    m.after (calls ++ [(now, c)]) = (answer now c (m.after calls)).2 := by
  simp [after]

/-- Along a run of calls from the empty engine an alias never has two writers if and only if no
index is born with its flag, by a creation or by the rollover of another alias, while an index
has it. -/
theorem single_writer_iff (calls : List (Instant × Call)) (aliasName : String) :
    (∀ earlier, earlier <+: calls → (empty.after earlier).SingleWriter aliasName) ↔
      ∀ earlier now c name, earlier ++ [(now, c)] <+: calls → Granted now c (empty.after earlier) →
        c.flagChange aliasName = .raised name → ∀ other, ¬(empty.after earlier).Flagged aliasName other := by
  constructor
  · intro single earlier now c name reached granted raised other flagged
    have joined := single _ reached
    rw [after_append] at joined
    have born : (answer now c (empty.after earlier)).2.Flagged aliasName name := by
      rw [flagged_answer granted, raised]
      exact .inl rfl
    have still : (answer now c (empty.after earlier)).2.Flagged aliasName other := by
      rw [flagged_answer granted, raised]
      exact .inr flagged
    exact raised_fresh granted raised (joined other name still born ▸ flagged)
  · intro unmatched earlier
    -- The last call is split off: the ones before it are a history too.
    induction earlier using List.reverseRecOn with
    | nil =>
        intro _ one other flagged
        cases flagged
    | append_singleton earlier call ih =>
        intro reached
        obtain ⟨now, c⟩ := call
        rw [after_append]
        have single := ih ((List.prefix_append earlier [(now, c)]).trans reached)
        exact single.answer fun name granted raised => unmatched earlier now c name reached granted raised

/-- Two indices of one series that both ask for the write flag. -/
def twinBirths : List (Instant × Call) :=
  let body : Json := .object [("aliases", .object [("logs-write", .object [("is_write_index", .bool true)])])]
  [(⟨0, 0⟩, .createIndex "logs-000001" body), (⟨0, 0⟩, .createIndex "logs-000002" body)]

theorem twin_births_both_write : ¬(empty.after twinBirths).SingleWriter "logs-write" := by
  intro single
  have same := single "logs-000001" "logs-000002" (by decide +kernel) (by decide +kernel)
  exact absurd same (by decide)

end Runs

end Memory

end DocMapper
