import DocMapper.Proofs.MatchingDocuments
import DocMapper.Proofs.SingleWriters
/-!
Identities that the engine mints. It counts its mints, so no two of them are alike, but it does not
look whether an identity is free: a program may have chosen the next one already. Then the mint
takes the place of the document that has it, and that is the only way in which it can go wrong.
-/

namespace DocMapper

def Call.Deletes (name id : String) (c : Call) : Prop :=
  ∃ routing, c = .deleteDocument name id routing

/-- Whether a call puts a single document in its place, or takes it away. -/
def Call.isEdit : Call → Bool
  | .indexDocument _ | .deleteDocument .. => true
  | _ => false

namespace Memory

variable {m changed : Memory} {now : Instant} {c : Call} {name id : String} {calls : List (Instant × Call)}
  {r : IndexRequest} {reply : IndexReply}

/-! ## What a call does to what is stored -/

theorem deleteDocument_stored? (keyed : m.Keyed) (index other name id : String) :
    (m.deleteDocument index other).2.stored? name id =
      if name = index ∧ id = other then none else m.stored? name id := by
  rw [deleteDocument_eq]
  dsimp only
  split
  · rw [stored?_thin keyed]
    by_cases here : name = index ∧ id = other
    · simp [here]
    · have apart : (name, id) ≠ (index, other) := fun same => here (Prod.mk.inj same)
      rw [if_neg here, if_pos (decide_eq_true apart)]
  · next absent =>
      split
      · next here =>
          rw [here.1, here.2]
          simpa using absent
      · rfl

theorem answer_stored?_of_not_edit (unedited : c.isEdit = false) (now : Instant) (m : Memory) (name id : String) :
    (answer now c m).2.stored? name id = m.stored? name id := by
  let kept (changed : Memory) := changed.stored? name id = m.stored? name id
  cases c with
  | createIndex index body =>
      exact change_preserves (motive := kept) rfl fun _ done => createIndex_stored? done name id
  | swapAlias s => exact change_preserves (motive := kept) rfl fun _ done => swapAlias_stored? done name id
  | rollover request => exact change_preserves (motive := kept) rfl fun _ done => rollover_stored? done name id
  | indexStats index =>
      rw [answer]
      split <;> rfl
  | indexDocument | deleteDocument => cases unedited
  | indexExists | listIndices | writeIndex | search | count => rfl

/-- A call puts a document in a place. -/
def Writes (m : Memory) (now : Instant) (c : Call) (name id : String) : Prop :=
  ∃ r changed version, c = .indexDocument r ∧ m.indexDocument now r = .ok (⟨name, id, version⟩, changed)

theorem writes_iff_of_granted (done : m.indexDocument now r = .ok (reply, changed)) :
    m.Writes now (.indexDocument r) name id ↔ name = reply.index ∧ id = reply.id := by
  constructor
  · rintro ⟨_, _, version, ⟨⟩, granted⟩
    rw [done] at granted
    cases granted
    exact ⟨rfl, rfl⟩
  · rintro ⟨rfl, rfl⟩
    exact ⟨r, changed, reply.version, rfl, done⟩

theorem not_writes_of_refused {fault : Fault} (refused : m.indexDocument now r = .error fault) :
    ¬m.Writes now (.indexDocument r) name id := by
  rintro ⟨_, _, version, ⟨⟩, granted⟩
  rw [refused] at granted
  cases granted

theorem deletes_iff {index other : String} {routing : Option String} :
    (Call.deleteDocument index other routing).Deletes name id ↔ name = index ∧ id = other := by
  constructor
  · rintro ⟨_, ⟨⟩⟩
    exact ⟨rfl, rfl⟩
  · rintro ⟨rfl, rfl⟩
    exact ⟨routing, rfl⟩

theorem stored_answer_iff (keyed : m.Keyed) (now : Instant) (c : Call) (name id : String) :
    ((answer now c m).2.stored? name id).isSome = true ↔
      m.Writes now c name id ∨ (m.stored? name id).isSome = true ∧ ¬c.Deletes name id := by
  -- Only an indexing or a deletion changes what is stored.
  cases edits : c.isEdit with
  | false =>
      have unwritten : ¬m.Writes now c name id := by
        rintro ⟨r, changed, version, rfl, -⟩
        cases edits
      have undeleted : ¬c.Deletes name id := by
        rintro ⟨routing, rfl⟩
        cases edits
      simp [answer_stored?_of_not_edit edits, unwritten, undeleted]
  | true =>
      cases c with
      | indexDocument r =>
          have undeleted : ¬(Call.indexDocument r).Deletes name id := by
            rintro ⟨_, ⟨⟩⟩
          rw [answer]
          cases done : m.indexDocument now r with
          | error fault => simp [not_writes_of_refused done, undeleted]
          | ok granted =>
              dsimp only
              rw [indexDocument_stored? done, writes_iff_of_granted done]
              by_cases here : name = granted.1.index ∧ id = granted.1.id
              · simp [here]
              · simp [here, undeleted]
      | deleteDocument index other routing =>
          have unwritten : ¬m.Writes now (.deleteDocument index other routing) name id := by
            rintro ⟨_, _, _, ⟨⟩, _⟩
          rw [answer]
          dsimp only
          rw [deleteDocument_stored? keyed, deletes_iff]
          simp only [unwritten, false_or]
          by_cases here : name = index ∧ id = other
          · simp [here]
          · simp [here]
      | _ => cases edits

/-! ## What the engine mints -/

def mintedId (n : Nat) : String :=
  s!"mem-{n}"

theorem mintedId_injective {n k : Nat} (same : mintedId n = mintedId k) : n = k := by
  have digits : Nat.toDigits 10 n = Nat.toDigits 10 k := by
    simpa [mintedId] using congrArg String.toList same
  calc
    n = Nat.ofDigitChars 10 (Nat.toDigits 10 n) 0 := Nat.ofDigitChars_ten_toDigits.symm
    _ = Nat.ofDigitChars 10 (Nat.toDigits 10 k) 0 := by rw [digits]
    _ = k := Nat.ofDigitChars_ten_toDigits

theorem minted_le_answer (now : Instant) (c : Call) (m : Memory) :
    m.minted ≤ (answer now c m).2.minted := by
  let counted (changed : Memory) := m.minted ≤ changed.minted
  -- An indexing without an id mints one; no other call touches the counter.
  cases c with
  | createIndex index body =>
      exact change_preserves (motive := counted) le_rfl fun _ done => (createIndex_eq done).symm ▸ le_rfl
  | swapAlias s =>
      exact change_preserves (motive := counted) le_rfl fun _ done => (swapAlias_granted done).2.symm ▸ le_rfl
  | rollover request =>
      exact change_preserves (motive := counted) le_rfl fun _ done => (rollover_granted done).2.2.symm ▸ le_rfl
  | indexDocument r =>
      rw [answer]
      cases done : m.indexDocument now r with
      | error fault => exact le_rfl
      | ok granted =>
          have given := congrArg Prod.snd (indexDocument_identity done)
          dsimp only at given ⊢
          rw [given]
          cases r.id with
          | none => exact Nat.le_succ _
          | some id => exact le_rfl
  | deleteDocument index id routing =>
      rw [answer, deleteDocument_eq]
      dsimp only
      split <;> exact le_rfl
  | indexStats index =>
      rw [answer]
      split <;> exact le_rfl
  | indexExists | listIndices | writeIndex | search | count => exact le_rfl

/-! ## Runs -/

/-- Along a run of calls the program has put a document under an identity of its own choice, and
nobody has deleted it since. -/
inductive Chosen (name id : String) : List (Instant × Call) → Prop where
  | written {calls : List (Instant × Call)} {now : Instant} {r : IndexRequest} {version : Option Int} {changed : Memory}
      (given : r.id = some id) (done : (empty.after calls).indexDocument now r = .ok (⟨name, id, version⟩, changed)) :
      Chosen name id (calls ++ [(now, .indexDocument r)])
  | kept {calls : List (Instant × Call)} {now : Instant} {c : Call} (before : Chosen name id calls)
      (stays : ¬c.Deletes name id) : Chosen name id (calls ++ [(now, c)])

theorem not_chosen_nil : ¬Chosen name id [] := by
  generalize none : ([] : List (Instant × Call)) = calls
  rintro (_ | _) <;> simp at none

theorem chosen_snoc_iff : Chosen name id (calls ++ [(now, c)]) ↔
    (∃ r version changed, c = .indexDocument r ∧ r.id = some id ∧
      (empty.after calls).indexDocument now r = .ok (⟨name, id, version⟩, changed)) ∨
    Chosen name id calls ∧ ¬c.Deletes name id := by
  constructor
  · generalize whole : calls ++ [(now, c)] = run
    rintro (⟨given, done⟩ | ⟨before, stays⟩) <;> obtain ⟨rfl, last⟩ := List.append_inj' whole rfl <;> cases last
    · exact .inl ⟨_, _, _, rfl, given, done⟩
    · exact .inr ⟨before, stays⟩
  · rintro (⟨r, version, changed, rfl, given, done⟩ | ⟨before, stays⟩)
    · exact .written given done
    · exact .kept before stays

theorem after_keyed (calls : List (Instant × Call)) : (empty.after calls).Keyed := by
  induction calls using List.reverseRecOn with
  | nil => exact keyed_empty
  | append_singleton calls call ih =>
      rw [after_append]
      exact answer_keyed ih call.1 call.2

/-- Of the identities still to be minted, those are taken in an index that the program has chosen there. -/
theorem taken_iff (calls : List (Instant × Call)) (name : String) {n : Nat} (unminted : (empty.after calls).minted < n) :
    ((empty.after calls).stored? name (mintedId n)).isSome = true ↔ Chosen name (mintedId n) calls := by
  induction calls using List.reverseRecOn with
  | nil => exact iff_of_false (by simp [after, empty, stored?]) not_chosen_nil
  | append_singleton calls call ih =>
      obtain ⟨now, c⟩ := call
      rw [after_append] at unminted ⊢
      have before := ih ((minted_le_answer now c _).trans_lt unminted)
      rw [stored_answer_iff (after_keyed calls), before, chosen_snoc_iff]
      refine or_congr_left ⟨?_, ?_⟩
      · rintro ⟨r, changed, version, rfl, done⟩
        refine ⟨r, version, changed, rfl, ?_, done⟩
        have given := indexDocument_identity done
        cases named : r.id with
        | some id =>
            rw [named] at given
            exact congrArg some (congrArg Prod.fst given).symm
        | none =>
            -- The engine's own identity is the next one, and that has been minted by now.
            rw [named] at given
            obtain ⟨same, count⟩ := Prod.mk.inj given
            rw [answer, done] at unminted
            have one := mintedId_injective same
            dsimp only at unminted count
            omega
      · rintro ⟨r, version, changed, rfl, -, done⟩
        exact ⟨r, changed, version, rfl, done⟩

/-- After any run of calls, the identity that a write gets from the engine is free in its index, and
all that is stored stays as it is, exactly if no document is there under an identity that the program
chose and the engine comes to only now. Other places are never touched. -/
theorem mint_fresh_iff (unnamed : r.id = none)
    (done : (empty.after calls).indexDocument now r = .ok (reply, changed)) :
    ((empty.after calls).stored? reply.index reply.id = none ↔ ¬Chosen reply.index reply.id calls) ∧
    ((∀ name id stored, (empty.after calls).stored? name id = some stored → changed.stored? name id = some stored) ↔
      ¬Chosen reply.index reply.id calls) ∧
    ∀ name id, ¬(name = reply.index ∧ id = reply.id) → changed.stored? name id = (empty.after calls).stored? name id := by
  have minted : reply.id = mintedId ((empty.after calls).minted + 1) := by
    have given := indexDocument_identity done
    rw [unnamed] at given
    exact congrArg Prod.fst given
  have free : (empty.after calls).stored? reply.index reply.id = none ↔ ¬Chosen reply.index reply.id calls := by
    have taken := taken_iff calls reply.index (Nat.lt_succ_self (empty.after calls).minted)
    rw [← minted] at taken
    rw [← taken, Bool.not_eq_true, Option.isSome_eq_false_iff, Option.isNone_iff_eq_none]
  have others : ∀ name id, ¬(name = reply.index ∧ id = reply.id) →
      changed.stored? name id = (empty.after calls).stored? name id := by
    intro name id elsewhere
    rw [indexDocument_stored? done, if_neg elsewhere]
  refine ⟨free, ?_, others⟩
  rw [← free]
  constructor
  · intro kept
    cases there : (empty.after calls).stored? reply.index reply.id with
    | none => rfl
    | some previous =>
        -- The document that was there would have to be in the version after its own.
        have next := kept _ _ _ there
        rw [indexDocument_stored? done, if_pos ⟨rfl, rfl⟩, nextStored, there] at next
        have version := congrArg StoredDocument.version (Option.some.inj next)
        dsimp only at version
        omega
  · intro absent name id stored there
    rw [others name id ?_, there]
    rintro ⟨rfl, rfl⟩
    rw [absent] at there
    cases there

section Notes

def note (id : Option String) : IndexRequest where
  target := "notes"
  id
  routing := none
  document := .object []
  refresh := true

/-- Two notes with identities that the engine might have minted, the first of which is deleted. -/
def chosenNotes : List (Instant × Call) :=
  [(⟨0, 0⟩, .indexDocument (note (some "mem-1"))), (⟨0, 0⟩, .indexDocument (note (some "mem-2"))),
    (⟨1, 0⟩, .deleteDocument "notes" "mem-1" none)]

/-- The engine's first identity is free again, so the note that stays is left alone. -/
theorem deleted_identity_minted : ∃ reply changed,
    (empty.after chosenNotes).indexDocument ⟨2, 0⟩ (note none) = .ok (reply, changed) ∧ reply.id = "mem-1" ∧
      (empty.after chosenNotes).stored? "notes" "mem-1" = none ∧
      ∀ name id stored, (empty.after chosenNotes).stored? name id = some stored → changed.stored? name id = some stored := by
  have unnamed : (note none).id = none := rfl
  obtain ⟨free, kept, -⟩ := mint_fresh_iff unnamed
    (show (empty.after chosenNotes).indexDocument ⟨2, 0⟩ (note none) = .ok (_, _) from rfl)
  have unchosen : ¬Chosen "notes" "mem-1" chosenNotes := by
    change ¬Chosen "notes" "mem-1" (([(⟨0, 0⟩, .indexDocument (note (some "mem-1")))] ++
      [(⟨0, 0⟩, .indexDocument (note (some "mem-2")))]) ++ [(⟨1, 0⟩, .deleteDocument "notes" "mem-1" none)])
    rw [chosen_snoc_iff]
    rintro (⟨r, version, changed, none, -⟩ | ⟨-, stays⟩)
    · cases none
    · exact stays ⟨none, rfl⟩
  exact ⟨_, _, rfl, rfl, free.mpr unchosen, kept.mpr unchosen⟩

/-- A note that has the engine's first identity already is overwritten by the first note without one. -/
theorem chosen_identity_minted_again :
    ¬∀ (calls : List (Instant × Call)) (now : Instant) (r : IndexRequest) (reply : IndexReply) (changed : Memory),
      r.id = none → (empty.after calls).indexDocument now r = .ok (reply, changed) →
      (empty.after calls).stored? reply.index reply.id = none ∧
        ∀ name id stored, (empty.after calls).stored? name id = some stored → changed.stored? name id = some stored := by
  intro fresh
  have free := (fresh [(⟨0, 0⟩, .indexDocument (note (some "mem-1")))] ⟨1, 0⟩ (note none) _ _ rfl rfl).1
  cases free

end Notes

end Memory

end DocMapper
