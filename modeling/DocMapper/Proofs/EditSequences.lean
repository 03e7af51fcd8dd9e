import DocMapper.Criteria.Evaluate
import Mathlib.Order.Bounds.Basic
/-!
What the edit distance of two texts means. Edits change one character each, anywhere in a text, and
may follow one another in any order. `apart` measures two texts from their first characters on: one
edit never takes a text further away by more than one, and as many edits as it says are enough. The
table that is computed goes through prefixes instead, so its entries are `apart` of the texts read
backwards, which the same numbers of edits turn into each other.
-/

namespace DocMapper.EditDistance

/-- One character of a text is inserted, dropped or replaced. -/
inductive Edit : List Char → List Char → Prop where
  | insert (front back : List Char) (c : Char) : Edit (front ++ back) (front ++ c :: back)
  | drop (front back : List Char) (c : Char) : Edit (front ++ c :: back) (front ++ back)
  | replace (front back : List Char) (c d : Char) : Edit (front ++ c :: back) (front ++ d :: back)

/-- So many edits, one after another, turn a text into another one. -/
inductive Edits : Nat → List Char → List Char → Prop where
  | none (text : List Char) : Edits 0 text text
  | more {n : Nat} {source middle target : List Char} (before : Edits n source middle) (last : Edit middle target) :
      Edits (n + 1) source target

variable {n : Nat} {source target changed : List Char}

theorem Edit.behind (c : Char) (edit : Edit source target) : Edit (c :: source) (c :: target) := by
  cases edit with
  | insert front back d => exact .insert (c :: front) back d
  | drop front back d => exact .drop (c :: front) back d
  | replace front back d e => exact .replace (c :: front) back d e

theorem Edits.behind (c : Char) (edits : Edits n source target) : Edits n (c :: source) (c :: target) := by
  induction edits with
  | none text => exact .none (c :: text)
  | more before last ih => exact .more ih (last.behind c)

theorem Edit.reverse (edit : Edit source target) : Edit source.reverse target.reverse := by
  cases edit with
  | insert front back c => simpa using Edit.insert back.reverse front.reverse c
  | drop front back c => simpa using Edit.drop back.reverse front.reverse c
  | replace front back c d => simpa using Edit.replace back.reverse front.reverse c d

theorem Edits.reverse (edits : Edits n source target) : Edits n source.reverse target.reverse := by
  induction edits with
  | none text => exact .none text.reverse
  | more before last ih => exact .more ih last.reverse

theorem edits_reverse_iff : Edits n source.reverse target.reverse ↔ Edits n source target := by
  constructor
  · intro edits
    simpa using edits.reverse
  · exact Edits.reverse

/-! ## The distance from the first characters on -/

/-- How many edits it takes if the first characters are kept or replaced, or one of them goes. -/
def apart : List Char → List Char → Nat
  | [], target => target.length
  | source, [] => source.length
  | c :: source, d :: target =>
      min (min (apart source target + if c = d then 0 else 1) (apart source (d :: target) + 1))
        (apart (c :: source) target + 1)
termination_by source target => source.length + target.length

@[simp] theorem apart_nil_left (target : List Char) : apart [] target = target.length := by
  rw [apart]

@[simp] theorem apart_nil_right (source : List Char) : apart source [] = source.length := by
  cases source <;> simp [apart]

theorem apart_cons_cons (c d : Char) (source target : List Char) :
    apart (c :: source) (d :: target) =
      min (min (apart source target + if c = d then 0 else 1) (apart source (d :: target) + 1))
        (apart (c :: source) target + 1) := by
  rw [apart]

@[simp] theorem apart_self (text : List Char) : apart text text = 0 := by
  induction text with
  | nil => simp
  | cons c rest ih => simp [apart_cons_cons, ih]

theorem apart_cons_left_le (c : Char) (source target : List Char) :
    apart (c :: source) target ≤ apart source target + 1 := by
  cases target with
  | nil => simp
  | cons d target =>
      rw [apart_cons_cons]
      omega

theorem apart_cons_right_le (d : Char) (source target : List Char) :
    apart source (d :: target) ≤ apart source target + 1 := by
  cases source with
  | nil => simp
  | cons c source =>
      rw [apart_cons_cons]
      omega

theorem apart_le_cons_right (d : Char) (source target : List Char) :
    apart source target ≤ apart source (d :: target) + 1 := by
  induction source with
  | nil =>
      simp only [apart_nil_left, List.length_cons]
      omega
  | cons c source ih =>
      have shorter := apart_cons_left_le c source target
      rw [apart_cons_cons]
      omega

theorem apart_replace_le (c d : Char) (source target : List Char) :
    apart source (d :: target) ≤ apart source (c :: target) + 1 := by
  induction source with
  | nil => simp
  | cons e source ih =>
      rw [apart_cons_cons, apart_cons_cons]
      split <;> split <;> omega

/-- What one edit at the start does to the distance, it does behind any front. -/
theorem apart_behind_le {before after : List Char} (near : ∀ source, apart source after ≤ apart source before + 1)
    (front : List Char) : ∀ source, apart source (front ++ after) ≤ apart source (front ++ before) + 1 := by
  induction front with
  | nil => exact near
  | cons d front below =>
      intro source
      have none := below []
      induction source with
      | nil =>
          simp only [apart_nil_left, List.cons_append, List.length_cons] at none ⊢
          omega
      | cons c source ih =>
          have kept := below source
          have inserted := below (c :: source)
          simp only [List.cons_append, apart_cons_cons] at ih ⊢
          omega

theorem apart_edit_le (source : List Char) (edit : Edit target changed) :
    apart source changed ≤ apart source target + 1 := by
  cases edit with
  | insert front back c => exact apart_behind_le (fun source => apart_cons_right_le c source back) front source
  | drop front back c => exact apart_behind_le (fun source => apart_le_cons_right c source back) front source
  | replace front back c d => exact apart_behind_le (fun source => apart_replace_le c d source back) front source

theorem apart_le (edits : Edits n source target) : apart source target ≤ n := by
  induction edits with
  | none text => simp
  | @more _ source _ _ before last ih =>
      have nearby := apart_edit_le source last
      omega

theorem edits_insert_all (target : List Char) : Edits target.length [] target := by
  induction target with
  | nil => exact .none []
  | cons c rest ih => exact .more ih (.insert [] rest c)

theorem edits_drop_all (source : List Char) : Edits source.length source [] := by
  induction source with
  | nil => exact .none []
  | cons c rest ih => exact .more (ih.behind c) (.drop [] [] c)

theorem edits_apart (source target : List Char) : Edits (apart source target) source target := by
  induction source, target using apart.induct with
  | case1 target =>
      rw [apart_nil_left]
      exact edits_insert_all target
  | case2 source _ =>
      rw [apart_nil_right]
      exact edits_drop_all source
  | case3 c source d target kept dropped inserted =>
      have least : apart (c :: source) (d :: target) = apart source target + (if c = d then 0 else 1) ∨
          apart (c :: source) (d :: target) = apart source (d :: target) + 1 ∨
          apart (c :: source) (d :: target) = apart (c :: source) target + 1 := by
        rw [apart_cons_cons]
        omega
      rcases least with least | least | least
      · rw [least]
        split
        · next same => exact same ▸ kept.behind c
        · exact .more (kept.behind c) (.replace [] target c d)
      · rw [least]
        exact .more (dropped.behind c) (.drop [] (d :: target) c)
      · rw [least]
        exact .more inserted (.insert [] target d)

/-! ## The table -/

/-- A row of the table, from one prefix of the target on. The texts are those read so far, last character
first. -/
def rowOf (source : List Char) : List Char → List Char → List Nat
  | read, [] => [apart source read]
  | read, d :: rest => apart source read :: rowOf source (d :: read) rest

theorem rowOf_eq_cons (source read rest : List Char) :
    ∃ more, rowOf source read rest = apart source read :: more := by
  cases rest with
  | nil => exact ⟨[], rfl⟩
  | cons d rest => exact ⟨rowOf source (d :: read) rest, rfl⟩

theorem firstRow_eq (target : List Char) : firstRow target = rowOf [] [] target := by
  have counted : ∀ read rest : List Char, rowOf [] read rest = List.range' read.length (rest.length + 1) := by
    intro read rest
    induction rest generalizing read with
    | nil => simp [rowOf]
    | cons d rest ih => rw [rowOf, ih, apart_nil_left, List.length_cons, ← List.range'_succ, List.length_cons]
  rw [counted, firstRow, List.range_eq_range']
  rfl

/-- From the row above and the entry to its left, every entry is the distance of two longer prefixes. -/
theorem rowFrom_rowOf (c : Char) (source read rest : List Char) :
    apart (c :: source) read :: rowFrom c (apart (c :: source) read) rest (rowOf source read rest) =
      rowOf (c :: source) read rest := by
  induction rest generalizing read with
  | nil => rfl
  | cons d rest ih =>
      obtain ⟨more, above⟩ := rowOf_eq_cons source (d :: read) rest
      rw [rowOf, rowOf, ← ih (d :: read), above, rowFrom, apart_cons_cons]

theorem nextRow_rowOf (c : Char) (source target : List Char) :
    nextRow c target (rowOf source [] target) = rowOf (c :: source) [] target := by
  obtain ⟨more, row⟩ := rowOf_eq_cons source [] target
  rw [← rowFrom_rowOf, nextRow, row]
  simp

/-- The invariant of the table: after some of the source, its last row is that of what was read. -/
theorem foldl_nextRow (source read target : List Char) :
    source.foldl (fun row c => nextRow c target row) (rowOf read [] target) = rowOf (source.reverse ++ read) [] target := by
  induction source generalizing read with
  | nil => rfl
  | cons c rest ih => rw [List.foldl_cons, nextRow_rowOf, ih, List.reverse_cons, List.append_assoc, List.singleton_append]

theorem getLastD_rowOf (source read rest : List Char) :
    (rowOf source read rest).getLastD 0 = apart source (rest.reverse ++ read) := by
  induction rest generalizing read with
  | nil => rfl
  | cons d rest ih =>
      obtain ⟨more, row⟩ := rowOf_eq_cons source (d :: read) rest
      have later := ih (d :: read)
      rw [row] at later
      rw [rowOf, row, List.reverse_cons, List.append_assoc, List.singleton_append, ← later]
      rfl

theorem distance_eq_apart (source target : List Char) :
    distance source target = apart source.reverse target.reverse := by
  rw [distance, firstRow_eq, foldl_nextRow, getLastD_rowOf, List.append_nil, List.append_nil]

theorem edits_distance (source target : List Char) : Edits (distance source target) source target := by
  rw [distance_eq_apart, ← edits_reverse_iff]
  exact edits_apart source.reverse target.reverse

theorem distance_le (edits : Edits n source target) : distance source target ≤ n := by
  rw [distance_eq_apart]
  exact apart_le edits.reverse

/-- The distance is the least number of single characters to insert, drop or replace so that one text
becomes the other. -/
theorem distance_isLeast (source target : List Char) :
    IsLeast {n | Edits n source target} (distance source target) :=
  ⟨edits_distance source target, fun _ edits => distance_le edits⟩

example : distance "kitten".toList "sitting".toList = 3 := by decide

end DocMapper.EditDistance

namespace DocMapper.Criteria

open EditDistance

/-- A fuzzy search takes a text that a number of edits within the allowance of the term turns into it. -/
theorem nearEnough_iff {actual expected : List Char} :
    nearEnough actual expected = true ↔ ∃ n ≤ allowance expected, Edits n actual expected := by
  rw [nearEnough, decide_eq_true_iff]
  constructor
  · intro near
    exact ⟨_, near, edits_distance actual expected⟩
  · rintro ⟨n, allowed, edits⟩
    exact (distance_le edits).trans allowed

end DocMapper.Criteria
