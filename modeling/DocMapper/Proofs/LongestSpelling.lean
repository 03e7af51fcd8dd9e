import DocMapper.Query.Keyword
import Mathlib.Data.List.Nodup
/-!
Which keyword a part of a method name ends in: that of the longest spelling that leaves a
property in front. `Reads` says this of a table of spellings without saying where in the table they
stand. A table is read so whatever its order if entries that spell alike mean alike, and only then;
no two entries of the table of all spellings even spell alike.
-/

namespace DocMapper.Keyword

variable {table shuffled : List (String × Keyword)} {part property : List Char} {entry other : String × Keyword}
  {reading reading' : List Char × Keyword}

/-- Whether a part is a property with a spelling behind it. -/
def EndsIn (part : List Char) (spelling : String) : Prop :=
  ∃ property, property ≠ [] ∧ part = property ++ spelling.toList

/-- What a table makes of a part: a property and the keyword of the longest spelling that leaves one
in front of it, or nothing but a property, asked for equality. -/
inductive Reads (table : List (String × Keyword)) (part : List Char) : List Char × Keyword → Prop where
  | spelled {property : List Char} {entry : String × Keyword} (listed : entry ∈ table) (nonempty : property ≠ [])
      (whole : part = property ++ entry.1.toList)
      (longest : ∀ other ∈ table, EndsIn part other.1 → other.1.length ≤ entry.1.length) :
      Reads table part (property, entry.2)
  | bare (unspelled : ∀ other ∈ table, ¬EndsIn part other.1) : Reads table part (part, .is)

/-- Entries that spell alike mean the same keyword. -/
def Unequivocal (table : List (String × Keyword)) : Prop :=
  ∀ entry ∈ table, ∀ other ∈ table, entry.1 = other.1 → entry.2 = other.2

theorem propertyBefore?_isSome_iff {spelling : String} :
    (propertyBefore? part spelling).isSome = true ↔ EndsIn part spelling := by
  have reversed : ∀ rest, Text.after? spelling.toList.reverse part.reverse = some rest ↔
      part = rest.reverse ++ spelling.toList := by
    intro rest
    rw [Text.after?_eq_some_iff, ← List.reverse_inj, List.reverse_reverse, List.reverse_append,
      List.reverse_reverse]
  rw [propertyBefore?]
  constructor
  · intro found
    split at found
    · next c rest left =>
        exact ⟨(c :: rest).reverse, by simp, (reversed _).mp left⟩
    · cases found
  · rintro ⟨property, nonempty, same⟩
    obtain ⟨c, rest, whole⟩ := List.exists_cons_of_ne_nil (mt List.reverse_eq_nil_iff.mp nonempty)
    have left : Text.after? spelling.toList.reverse part.reverse = some (c :: rest) := by
      rw [reversed, ← whole, List.reverse_reverse, same]
    rw [left]
    rfl

instance (part : List Char) (spelling : String) : Decidable (EndsIn part spelling) :=
  decidable_of_iff _ propertyBefore?_isSome_iff

theorem foldl_longer (entries : List (String × Keyword)) (first : String × Keyword) :
    entries.foldl longer first ∈ first :: entries ∧
      ∀ entry ∈ first :: entries, entry.1.length ≤ (entries.foldl longer first).1.length := by
  -- The longest entry so far is carried along.
  induction entries generalizing first with
  | nil => simp
  | cons next rest ih =>
      obtain ⟨member, longest⟩ := ih (longer first next)
      have either : longer first next = first ∨ longer first next = next := by
        rw [longer]
        split <;> simp
      have bounds : first.1.length ≤ (longer first next).1.length ∧
          next.1.length ≤ (longer first next).1.length := by
        rw [longer]
        split <;> omega
      have best := longest (longer first next) List.mem_cons_self
      constructor
      · rcases List.mem_cons.mp member with same | later
        · rw [List.foldl_cons, same]
          rcases either with first | next <;> simp [*]
        · exact List.mem_cons_of_mem _ (List.mem_cons_of_mem _ later)
      · intro entry inside
        rcases List.mem_cons.mp inside with rfl | inside
        · exact Nat.le_trans bounds.1 best
        · rcases List.mem_cons.mp inside with rfl | later
          · exact Nat.le_trans bounds.2 best
          · exact longest entry (List.mem_cons_of_mem _ later)

theorem longestIn_eq_some (found : longestIn table part = some entry) :
    entry ∈ table ∧ EndsIn part entry.1 ∧
      ∀ other ∈ table, EndsIn part other.1 → other.1.length ≤ entry.1.length := by
  rw [longestIn] at found
  split at found
  · cases found
  · next first rest kept =>
      cases found
      obtain ⟨member, longest⟩ := foldl_longer rest first
      rw [← kept] at member longest
      obtain ⟨listed, ends⟩ := List.mem_filter.mp member
      refine ⟨listed, propertyBefore?_isSome_iff.mp ends, fun other inside suits => ?_⟩
      apply longest
      exact List.mem_filter.mpr ⟨inside, propertyBefore?_isSome_iff.mpr suits⟩

theorem longestIn_eq_none (found : longestIn table part = none) :
    ∀ other ∈ table, ¬EndsIn part other.1 := by
  rw [longestIn] at found
  split at found
  · next kept =>
      intro other inside suits
      have fits := propertyBefore?_isSome_iff.mpr suits
      exact List.filter_eq_nil_iff.mp kept other inside fits
  · cases found

/-! ## What a table makes of a part -/

theorem reads_splitWith (table : List (String × Keyword)) (part : List Char) :
    Reads table part (splitWith table part) := by
  rw [splitWith]
  cases found : longestIn table part with
  | none => exact .bare (longestIn_eq_none found)
  | some entry =>
      obtain ⟨listed, ⟨property, nonempty, whole⟩, longest⟩ := longestIn_eq_some found
      have front : part.take (part.length - entry.1.length) = property := by
        simp [whole, String.length_toList]
      simp only [front]
      exact .spelled listed nonempty whole longest

theorem Reads.perm (order : table.Perm shuffled) (reads : Reads table part reading) : Reads shuffled part reading := by
  cases reads with
  | spelled listed nonempty whole longest =>
      exact .spelled (order.mem_iff.mp listed) nonempty whole fun other inside =>
        longest other (order.mem_iff.mpr inside)
  | bare unspelled => exact .bare fun other inside => unspelled other (order.mem_iff.mpr inside)

/-- Two longest spellings that a part ends in are the same text, so they mean the same keyword. -/
theorem Reads.unique (clear : Unequivocal table) (first : Reads table part reading)
    (second : Reads table part reading') : reading = reading' := by
  cases first with
  | @spelled property entry listed nonempty whole longest =>
      have ends : EndsIn part entry.1 := ⟨property, nonempty, whole⟩
      cases second with
      | @spelled property' entry' listed' nonempty' whole' longest' =>
          have ends' : EndsIn part entry'.1 := ⟨property', nonempty', whole'⟩
          have long : entry.1.length = entry'.1.length :=
            Nat.le_antisymm (longest' entry listed ends) (longest entry' listed' ends')
          obtain ⟨front, alike⟩ := List.append_inj' (whole.symm.trans whole')
            (by simpa [String.length_toList] using long)
          rw [front, clear entry listed entry' listed' (String.toList_inj.mp alike)]
      | bare unspelled => exact absurd ends (unspelled entry listed)
  | bare unspelled =>
      cases second with
      | @spelled property entry listed nonempty whole longest =>
          exact absurd ⟨property, nonempty, whole⟩ (unspelled entry listed)
      | bare _ => rfl

theorem splitWith_eq_iff (clear : Unequivocal table) : splitWith table part = reading ↔ Reads table part reading := by
  constructor
  · rintro rfl
    exact reads_splitWith table part
  · exact (reads_splitWith table part).unique clear

/-! ## The order of a table -/

theorem EndsIn.length_lt {spelling : String} (ends : EndsIn part spelling) : spelling.length < part.length := by
  obtain ⟨property, nonempty, rfl⟩ := ends
  rw [List.length_append, String.length_toList]
  exact Nat.lt_add_of_pos_left (List.length_pos_iff.mpr nonempty)

/-- Of the entries that are as long, the last one is taken. -/
theorem splitWith_last (nonempty : property ≠ [])
    (longest : ∀ other ∈ table, EndsIn (property ++ entry.1.toList) other.1 → other.1.length ≤ entry.1.length) :
    splitWith (table ++ [entry]) (property ++ entry.1.toList) = (property, entry.2) := by
  have last : longestIn (table ++ [entry]) (property ++ entry.1.toList) = some entry := by
    have ends : EndsIn (property ++ entry.1.toList) entry.1 := ⟨property, nonempty, rfl⟩
    have fits := propertyBefore?_isSome_iff.mpr ends
    simp only [longestIn, List.filter_append, List.filter_cons, fits, ↓reduceIte, List.filter_nil]
    cases kept : table.filter fun other => (propertyBefore? (property ++ entry.1.toList) other.1).isSome with
    | nil => rfl
    | cons first rest =>
        obtain ⟨best, -⟩ := foldl_longer rest first
        rw [← kept] at best
        obtain ⟨listed, suits⟩ := List.mem_filter.mp best
        have short := longest _ listed (propertyBefore?_isSome_iff.mp suits)
        simp [longer, Nat.not_lt.mpr short]
  rw [splitWith, last]
  simp [String.length_toList]

/-- The order of a table matters exactly if two of its entries spell alike and mean different keywords. -/
theorem order_irrelevant_iff :
    (∀ shuffled, shuffled.Perm table → ∀ part, splitWith shuffled part = splitWith table part) ↔
      Unequivocal table := by
  constructor
  · intro same entry listed other inside alike
    -- Behind a single character there is no room for a longer spelling, so whichever of the two
    -- entries stands last gives the keyword.
    have meant : ∀ last ∈ table, last.1 = entry.1 → (splitWith table ('x' :: entry.1.toList)).2 = last.2 := by
      intro last member spells
      obtain ⟨front, back, stands⟩ := List.append_of_mem member
      have moved : (front ++ back ++ [last]).Perm table := by
        rw [stands]
        exact (List.perm_append_singleton last (front ++ back)).trans List.perm_middle.symm
      have read : splitWith (front ++ back ++ [last]) (['x'] ++ last.1.toList) = (['x'], last.2) := by
        refine splitWith_last (by simp) fun other _ ends => ?_
        have short := ends.length_lt
        rw [List.length_append, List.length_singleton, String.length_toList] at short
        omega
      rw [← same _ moved, ← spells]
      exact congrArg Prod.snd read
    exact (meant entry listed rfl).symm.trans (meant other inside alike.symm)
  · intro clear shuffled order part
    exact ((splitWith_eq_iff clear).mpr ((reads_splitWith shuffled part).perm order)).symm

/-! ## The table of all spellings -/

theorem spellings_nodup : (spellings.map Prod.fst).Nodup := by
  decide +kernel

theorem unequivocal_spellings : Unequivocal spellings := by
  intro entry listed other inside alike
  rw [List.inj_on_of_nodup_map spellings_nodup listed inside alike]

theorem split_eq_iff : split part = reading ↔ Reads spellings part reading :=
  splitWith_eq_iff unequivocal_spellings

theorem split_of_longest (listed : entry ∈ spellings) (nonempty : property ≠ [])
    (longest : ∀ other ∈ spellings, EndsIn (property ++ entry.1.toList) other.1 →
      other.1.length ≤ entry.1.length) :
    split (property ++ entry.1.toList) = (property, entry.2) :=
  split_eq_iff.mpr (.spelled listed nonempty rfl longest)

theorem split_of_none (bare : ∀ other ∈ spellings, ¬EndsIn part other.1) : split part = (part, .is) :=
  split_eq_iff.mpr (.bare bare)

/-- A part is read as a property with a spelling of its keyword behind it, or as a property. -/
theorem split_spelled (part : List Char) :
    (∃ entry ∈ spellings, split part = ((split part).1, entry.2) ∧ (split part).1 ≠ [] ∧
      part = (split part).1 ++ entry.1.toList) ∨ split part = (part, .is) := by
  have reads : Reads spellings part (split part) := reads_splitWith spellings part
  generalize split part = reading at reads
  cases reads with
  | @spelled property entry listed nonempty whole longest => exact .inl ⟨entry, listed, rfl, nonempty, whole⟩
  | bare unspelled => exact .inr rfl

/-- A part is read with the longest spelling behind its property, or else as a property that is asked
for equality, in whatever order the spellings are listed. -/
theorem longest_spelling_in_any_order (part : List Char) (reading : List Char × Keyword) :
    (split part = reading ↔ Reads spellings part reading) ∧
      ∀ table, table.Perm spellings → splitWith table part = split part := by
  constructor
  · exact split_eq_iff
  · intro table order
    exact order_irrelevant_iff.mpr unequivocal_spellings table order part

theorem age_not_in_listed_backwards :
    spellings.reverse.Perm spellings ∧
      split "AgeIsNotIn".toList = ("Age".toList, .isNotIn) ∧
      splitWith spellings.reverse "AgeIsNotIn".toList = ("Age".toList, .isNotIn) := by
  have backwards : spellings.reverse.Perm spellings := List.reverse_perm spellings
  have listed : ("IsNotIn", Keyword.isNotIn) ∈ spellings := by decide
  have longest : ∀ other ∈ spellings, EndsIn "AgeIsNotIn".toList other.1 → other.1.length ≤ "IsNotIn".length := by
    decide +kernel
  obtain ⟨read, anyOrder⟩ := longest_spelling_in_any_order "AgeIsNotIn".toList ("Age".toList, .isNotIn)
  have readThere := read.mpr (.spelled listed (by decide) (by decide) longest)
  exact ⟨backwards, readThere, (anyOrder _ backwards).trans readThere⟩

end DocMapper.Keyword
