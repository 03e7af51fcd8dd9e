import DocMapper.Proofs.SeriesCalls
/-!
Who holds the write alias of a series. It is on the indices with the numbers 1 to `last`, and
one of them takes the writes. Every change to the engine that a job of the series may ask for
keeps this up; a rollover is granted to the newest index alone.
-/

namespace DocMapper.Rollover

open Routing

/-- The write alias is on the first `last` indices and writes into number `writer`. Both are 0
when no index has it. -/
structure Held (aliases : RolloverAliases) (m : Memory) (last writer : Nat) : Prop where
  ordered : m.Ordered
  flags : ∀ name isWrite, m.flag? name aliases.writeAlias = some isWrite ↔
    ∃ k, 1 ≤ k ∧ k ≤ last ∧ name = seriesName aliases.indexPrefix k ∧ isWrite = decide (k = writer)
  writer_le : writer ≤ last
  started : 0 < last → 0 < writer
  bounded : last ≤ generationLimit

namespace Held

variable {t : DocumentType} {aliases : RolloverAliases} {m changed : Memory} {last writer : Nat}
  {now : Instant}

theorem empty (aliases : RolloverAliases) : Held aliases Memory.empty 0 0 where
  ordered := Memory.ordered_empty
  flags := by
    intro name isWrite
    constructor
    · intro flagged
      cases flagged
    · rintro ⟨k, positive, small, -⟩
      omega
  writer_le := Nat.le_refl 0
  started := id
  bounded := Nat.zero_le _

theorem flag_of_le (held : Held aliases m last writer) {k : Nat} (positive : 1 ≤ k) (small : k ≤ last) :
    m.flag? (seriesName aliases.indexPrefix k) aliases.writeAlias = some (decide (k = writer)) :=
  (held.flags _ _).mpr ⟨k, positive, small, rfl, rfl⟩

theorem has_of_le (held : Held aliases m last writer) {k : Nat} (positive : 1 ≤ k) (small : k ≤ last) :
    Dict.has (seriesName aliases.indexPrefix k) m.indices = true :=
  Memory.has_of_flag? (held.flag_of_le positive small)

theorem last_lt_of_absent (held : Held aliases m last writer) {k : Nat} (positive : 1 ≤ k)
    (absent : Dict.has (seriesName aliases.indexPrefix k) m.indices = false) : last < k := by
  by_contra small
  rw [held.has_of_le positive (by omega)] at absent
  cases absent

theorem flag?_eq (held : Held aliases m last writer) (name : String) (unlisted : ∀ k, 1 ≤ k → k ≤ last →
    name ≠ seriesName aliases.indexPrefix k) : m.flag? name aliases.writeAlias = none := by
  cases flagged : m.flag? name aliases.writeAlias with
  | none => rfl
  | some isWrite =>
      obtain ⟨k, positive, small, same, -⟩ := (held.flags _ _).mp flagged
      exact absurd same (unlisted k positive small)

theorem writeIndex?_eq (held : Held aliases m last writer) :
    m.writeIndex? aliases.writeAlias =
      if writer = 0 then none else some (seriesName aliases.indexPrefix writer) := by
  split
  · next nobody =>
      apply Memory.writeIndex?_unheld held.ordered
      intro name
      have none : last = 0 := by
        have := held.started
        omega
      exact held.flag?_eq name fun k positive small => by omega
  · next somebody =>
      apply Memory.writeIndex?_flagged held.ordered
      · rw [held.flag_of_le (by omega) held.writer_le]
        simp
      · intro other flagged
        obtain ⟨k, -, -, same, writes⟩ := (held.flags _ _).mp flagged
        rw [same, of_decide_eq_true writes.symm]

theorem writeIndex?_of_pos (held : Held aliases m last writer) (positive : 0 < writer) :
    m.writeIndex? aliases.writeAlias = some (seriesName aliases.indexPrefix writer) := by
  rw [held.writeIndex?_eq, if_neg (by omega)]

theorem create (held : Held aliases m last writer)
    (done : m.createIndex now (seriesName aliases.indexPrefix 1) (t.indexBody (firstAliases t aliases)) =
      .ok changed) : last = 0 ∧ Held aliases changed 1 1 := by
  have absent := Memory.createIndex_fresh done
  have small := held.last_lt_of_absent (Nat.le_refl 1) absent
  refine ⟨by omega, Memory.createIndex_ordered held.ordered done, ?_, Nat.le_refl 1, fun _ => Nat.one_pos,
    by decide⟩
  intro name isWrite
  rw [Memory.createIndex_flag? done, firstAliases_write]
  constructor
  · intro flagged
    split at flagged
    · next same => exact ⟨1, Nat.le_refl 1, Nat.le_refl 1, same.symm, by simpa using flagged.symm⟩
    · rw [held.flag?_eq name fun k positive small => by omega] at flagged
      cases flagged
  · rintro ⟨k, positive, small, same, writes⟩
    have first : k = 1 := by omega
    subst first
    simp [same, writes]

/-- Whoever held the alias keeps it; the first index takes the writes. -/
theorem attach (held : Held aliases m last writer)
    (done : m.swapAlias ⟨aliases.writeAlias, none, seriesName aliases.indexPrefix 1⟩ = .ok changed) :
    Held aliases changed (max last 1) 1 := by
  refine ⟨Memory.attach_ordered held.ordered done, ?_, by omega, fun _ => Nat.one_pos, ?_⟩
  · intro name isWrite
    rw [Memory.attach_flag? done]
    constructor
    · intro flagged
      split at flagged
      · next same => exact ⟨1, Nat.le_refl 1, by omega, same, by simpa using flagged.symm⟩
      · next other =>
          obtain ⟨before, found, lowered⟩ := Option.map_eq_some_iff.mp flagged
          obtain ⟨k, positive, small, same, -⟩ := (held.flags _ _).mp found
          -- An index that had the alias before is not the first one, so it only lost the writes.
          have later : k ≠ 1 := fun first => other (first ▸ same)
          exact ⟨k, positive, by omega, same, by simp [later, ← lowered]⟩
    · rintro ⟨k, positive, small, same, writes⟩
      by_cases first : k = 1
      · subst first
        simp [same, writes]
      · have other : name ≠ seriesName aliases.indexPrefix 1 := by
          intro equal
          exact first (seriesName_injective _ (same.symm.trans equal))
        rw [if_neg other, same, held.flag_of_le positive (by omega)]
        simp [writes, first]
  · have := held.bounded
    have : 1 ≤ generationLimit := by decide
    omega

/-- A rollover is granted when the alias writes into the newest index, and only if that is the
one the request names. -/
theorem roll (held : Held aliases m last writer) {current : String}
    (done : m.rollover now (rolloverRequest t aliases current) = .ok changed) :
    0 < last ∧ writer = last ∧ current = seriesName aliases.indexPrefix last ∧
      nextName aliases.indexPrefix current = seriesName aliases.indexPrefix (last + 1) ∧
      Held aliases changed (last + 1) (last + 1) := by
  obtain ⟨absent, writes, -⟩ := Memory.rollover_granted done
  have positive : 0 < writer := by
    by_contra nobody
    rw [rolloverRequest, held.writeIndex?_eq, if_pos (by omega)] at writes
    cases writes
  have named : current = seriesName aliases.indexPrefix writer := by
    rw [rolloverRequest, held.writeIndex?_of_pos positive] at writes
    exact (Option.some.inj writes).symm
  have atMost := held.writer_le
  have bounded := held.bounded
  have next := nextName_seriesName aliases.indexPrefix (Nat.le_trans atMost bounded)
  -- The name asked for is free, so its number is past the last one, also where numbers end.
  rw [rolloverRequest, named, next] at absent
  have fresh := held.last_lt_of_absent (by simp [generationLimit]) absent
  have newest : writer = last := by omega
  have room : last + 1 ≤ generationLimit := by omega
  have target : nextName aliases.indexPrefix current = seriesName aliases.indexPrefix (last + 1) := by
    rw [named, next, newest, Nat.min_eq_left room]
  refine ⟨by omega, newest, newest ▸ named, target, Memory.rollover_ordered held.ordered done, ?_,
    Nat.le_refl _, fun _ => Nat.succ_pos _, room⟩
  intro name isWrite
  -- The new index has the flag, and all others are lowered.
  rw [Memory.rollover_flag? done]
  simp only [rolloverRequest, target, ↓reduceIte, Memory.lowered]
  constructor
  · intro flagged
    split at flagged
    · next same => exact ⟨last + 1, by omega, Nat.le_refl _, same.symm, by simpa using flagged.symm⟩
    · obtain ⟨before, found, lowered⟩ := Option.map_eq_some_iff.mp flagged
      obtain ⟨k, positive, small, same, -⟩ := (held.flags _ _).mp found
      have older : k ≠ last + 1 := by omega
      exact ⟨k, positive, by omega, same, by simp [older, ← lowered]⟩
  · rintro ⟨k, positive, small, same, writes⟩
    by_cases new : k = last + 1
    · simp [same, new, writes]
    · have other : seriesName aliases.indexPrefix (last + 1) ≠ name := by
        intro equal
        exact new (seriesName_injective _ (same.symm.trans equal.symm))
      rw [if_neg other, same, held.flag_of_le positive (by omega)]
      simp [writes, new]

theorem write (held : Held aliases m last writer) {request : IndexRequest} {reply : IndexReply}
    (done : m.indexDocument now request = .ok (reply, changed)) : Held aliases changed last writer where
  ordered := Memory.indexDocument_ordered held.ordered done
  flags := by
    intro name isWrite
    rw [Memory.indexDocument_flag? done]
    exact held.flags name isWrite
  writer_le := held.writer_le
  started := held.started
  bounded := held.bounded

end Held

end DocMapper.Rollover
