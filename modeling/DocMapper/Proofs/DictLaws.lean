import DocMapper.Dict
import Mathlib.Data.List.Perm.Basic
import Mathlib.Data.String.Basic
/-!
What each map operation does to a look-up, and that the operations keep the keys of a map in
order. Only an ordered map has one entry for each key, so walks over all entries agree with
look-ups there and nowhere else. Such a map is made of its entries alone: `ofPairs` gives it
back from them in whatever order they come. A table of pairs under keys of another kind needs no
order for that, only distinct keys.
-/

namespace DocMapper.Dict

variable {α β : Type}

theorem find?_mapValues (f : String → α → β) (key : String) (d : Dict α) :
    find? key (mapValues f d) = (find? key d).map (f key) := by
  induction d with
  | nil => rfl
  | cons entry rest ih =>
      by_cases same : entry.1 = key
      · subst key
        simp [mapValues, find?]
      · simp only [mapValues, List.map_cons, find?, same, ↓reduceIte]
        exact ih

theorem find?_modify (changed key : String) (f : α → α) (d : Dict α) :
    find? key (modify changed f d) =
      if key = changed then (find? key d).map f else find? key d := by
  induction d with
  | nil => simp [modify, find?]
  | cons entry rest ih =>
      have step : modify changed f (entry :: rest) =
          (entry.1, if entry.1 = changed then f entry.2 else entry.2) :: modify changed f rest := by
        by_cases here : entry.1 = changed <;> simp [modify, here]
      rw [step]
      by_cases hit : entry.1 = key
      · subst key
        by_cases here : entry.1 = changed <;> simp [find?, here]
      · simp only [find?, hit, ↓reduceIte]
        exact ih

theorem find?_remove (dropped key : String) (d : Dict α) :
    find? key (remove dropped d) = if key = dropped then none else find? key d := by
  induction d with
  | nil => simp [remove]
  | cons entry rest ih =>
      have step : remove dropped (entry :: rest) =
          if entry.1 = dropped then remove dropped rest else entry :: remove dropped rest := by
        by_cases gone : entry.1 = dropped <;> simp [remove, gone]
      rw [step]
      split
      · next gone =>
          rw [ih, find?, gone]
          split
          · rfl
          · next different => rw [if_neg (Ne.symm different)]
      · next stays =>
          rw [find?, find?, ih]
          by_cases here : entry.1 = key
          · rw [if_pos here, if_neg (here ▸ stays), if_pos here]
          · rw [if_neg here, if_neg here]

theorem remove_remove (key : String) (d : Dict α) : remove key (remove key d) = remove key d := by
  simp [remove, List.filter_filter]

theorem remove_put (key : String) (value : α) (d : Dict α) : remove key (put key value d) = remove key d := by
  induction d with
  | nil => simp [remove, put]
  | cons entry rest ih => grind [put, remove]

theorem remove_modify (key : String) (f : α → α) (d : Dict α) : remove key (modify key f d) = remove key d := by
  induction d with
  | nil => rfl
  | cons entry rest ih => grind [modify, remove]

theorem has_put (key other : String) (value : α) (d : Dict α) :
    has other (put key value d) = (decide (key = other) || has other d) := by
  by_cases same : key = other <;> simp [has, find?_put, same]

theorem has_mapValues (f : String → α → β) (key : String) (d : Dict α) :
    has key (mapValues f d) = has key d := by
  simp [has, find?_mapValues]

theorem has_modify (changed key : String) (f : α → α) (d : Dict α) :
    has key (modify changed f d) = has key d := by
  by_cases same : key = changed <;> simp [has, find?_modify, same]

theorem has_eq_true_iff {key : String} {d : Dict α} : has key d = true ↔ ∃ v, find? key d = some v := by
  simp [has, Option.isSome_iff_exists]

theorem has_eq_false_iff {key : String} {d : Dict α} : has key d = false ↔ find? key d = none := by
  simp [has]

theorem mem_of_find? {key : String} {value : α} {d : Dict α} (found : find? key d = some value) :
    (key, value) ∈ d := by
  induction d with
  | nil => simp at found
  | cons entry rest ih =>
      simp only [find?] at found
      split at found
      · next same =>
          cases found
          subst key
          exact List.mem_cons_self
      · exact List.mem_cons_of_mem _ (ih found)

theorem has_of_mem {key : String} {value : α} {d : Dict α} (member : (key, value) ∈ d) : has key d = true := by
  induction d with
  | nil => cases member
  | cons entry rest ih =>
      by_cases same : entry.1 = key
      · simp [has, find?, same]
      · rcases List.mem_cons.mp member with first | further
        · exact absurd (congrArg Prod.fst first).symm same
        · simpa [has, find?, same] using ih further

theorem mem_keys {key : String} {d : Dict α} (present : has key d = true) : key ∈ keys d := by
  by_contra absent
  rw [has, find?_eq_none absent] at present
  cases present

theorem mem_put {key : String} {value : α} {entry : String × α} {d : Dict α}
    (member : entry ∈ put key value d) : entry = (key, value) ∨ entry ∈ d := by
  induction d with
  | nil => simpa [put] using member
  | cons head rest ih => grind [put]

instance (d : Dict α) : Decidable (Ordered d) :=
  inferInstanceAs (Decidable (List.Pairwise _ d))

theorem ordered_nil : Ordered ([] : Dict α) :=
  List.Pairwise.nil

theorem Ordered.put {d : Dict α} (ordered : Ordered d) (key : String) (value : α) :
    Ordered (Dict.put key value d) := by
  induction d with
  | nil => simp [Dict.put, Ordered]
  | cons head rest ih =>
      have later : ∀ entry ∈ rest, head.1 < entry.1 :=
        fun entry member => List.rel_of_pairwise_cons ordered member
      have tail : Ordered rest := List.Pairwise.of_cons ordered
      rw [Dict.put]
      split
      · next same => exact List.Pairwise.cons (fun entry member => same ▸ later entry member) tail
      · next different =>
          split
          · next before =>
              apply List.Pairwise.cons _ ordered
              intro entry member
              rcases List.mem_cons.mp member with first | further
              · subst entry
                exact before
              · exact lt_trans before (later entry further)
          · next notBefore =>
              -- The key goes further back, where only it and older keys can come to stand.
              apply List.Pairwise.cons _ (ih tail)
              intro entry member
              rcases mem_put member with new | old
              · subst entry
                exact lt_of_le_of_ne (not_lt.mp notBefore) (Ne.symm different)
              · exact later entry old

theorem Ordered.mapValues {d : Dict α} (ordered : Ordered d) (f : String → α → β) :
    Ordered (Dict.mapValues f d) :=
  List.Pairwise.map _ (fun _ _ before => before) ordered

theorem Ordered.modify {d : Dict α} (ordered : Ordered d) (key : String) (f : α → α) :
    Ordered (Dict.modify key f d) := by
  have kept : ∀ entry : String × α, (if entry.1 = key then (entry.1, f entry.2) else entry).1 = entry.1 := by
    intro entry
    split <;> rfl
  apply List.Pairwise.map _ _ ordered
  intro a b before
  simpa [kept] using before

theorem Ordered.find?_of_mem {d : Dict α} (ordered : Ordered d) {key : String} {value : α}
    (member : (key, value) ∈ d) : find? key d = some value := by
  induction d with
  | nil => simp at member
  | cons head rest ih =>
      rcases List.mem_cons.mp member with first | further
      · subst head
        simp [find?]
      · have before : head.1 < key := List.rel_of_pairwise_cons ordered further
        rw [find?, if_neg (ne_of_lt before)]
        exact ih (List.Pairwise.of_cons ordered) further

theorem Ordered.put_find? {d : Dict α} (ordered : Ordered d) {key : String} {value : α}
    (found : find? key d = some value) : Dict.put key value d = d := by
  induction d with
  | nil => cases found
  | cons entry rest ih =>
      obtain ⟨k, v⟩ := entry
      rw [find?_cons] at found
      rw [Dict.put]
      by_cases same : k = key
      · rw [if_pos same] at found
        cases found
        rw [if_pos same.symm, same]
      · rw [if_neg same] at found
        have later : k < key := List.rel_of_pairwise_cons ordered (mem_of_find? found)
        rw [if_neg (Ne.symm same), if_neg (lt_asymm later), ih (List.Pairwise.of_cons ordered) found]

theorem ordered_foldl_put {pairs : List (String × α)} {d : Dict α} (ordered : Ordered d) :
    Ordered (pairs.foldl (fun d entry => put entry.1 entry.2 d) d) := by
  induction pairs generalizing d with
  | nil => exact ordered
  | cons pair rest ih => exact ih (ordered.put pair.1 pair.2)

theorem ordered_ofPairs (pairs : List (String × α)) : Ordered (ofPairs pairs) :=
  ordered_foldl_put ordered_nil

theorem find?_append (key : String) (front back : Dict α) :
    find? key (front ++ back) = (find? key front).orElse fun _ => find? key back := by
  induction front with
  | nil => rfl
  | cons entry rest ih =>
      by_cases same : entry.1 = key <;> simp [find?, same, ih]

theorem find?_foldl_put (key : String) (pairs : List (String × α)) (d : Dict α) :
    find? key (pairs.foldl (fun d entry => put entry.1 entry.2 d) d) =
      (find? key pairs.reverse).orElse fun _ => find? key d := by
  induction pairs generalizing d with
  | nil => rfl
  | cons pair rest ih =>
      rw [List.foldl_cons, ih, find?_put, List.reverse_cons, find?_append]
      cases find? key rest.reverse with
      | some value => rfl
      | none => by_cases same : pair.1 = key <;> simp [find?, same]

theorem find?_ofPairs (key : String) (pairs : List (String × α)) :
    find? key (ofPairs pairs) = find? key pairs.reverse := by
  rw [ofPairs, find?_foldl_put]
  cases find? key pairs.reverse <;> rfl

/-- What a map is made of is what was given for it. -/
theorem mem_of_mem_ofPairs {pairs : List (String × α)} {entry : String × α} (member : entry ∈ ofPairs pairs) :
    entry ∈ pairs := by
  have found := (ordered_ofPairs pairs).find?_of_mem member
  rw [find?_ofPairs] at found
  exact List.mem_reverse.mp (mem_of_find? found)

theorem Ordered.keys_nodup {d : Dict α} (ordered : Ordered d) : (keys d).Nodup :=
  List.pairwise_map.mpr (ordered.imp ne_of_lt)

/-- Two ordered maps with the same entries are one map. -/
theorem Ordered.eq_of_perm {d e : Dict α} (ordered : Ordered d) (alsoOrdered : Ordered e) (same : d.Perm e) : d = e :=
  same.eq_of_pairwise (fun _ _ _ _ before after => absurd before (lt_asymm after)) ordered alsoOrdered

theorem perm_put {key : String} {d : Dict α} (fresh : key ∉ keys d) (value : α) :
    (put key value d).Perm ((key, value) :: d) := by
  induction d with
  | nil => exact List.Perm.refl _
  | cons entry rest ih =>
      obtain ⟨different, later⟩ := not_or.mp (List.mem_cons.not.mp fresh)
      rw [put, if_neg different]
      split
      · exact List.Perm.refl _
      · exact ((ih later).cons entry).trans (List.Perm.swap _ _ _)

theorem perm_foldl_put {pairs : List (String × α)} {d : Dict α} (distinct : (pairs.map Prod.fst ++ keys d).Nodup) :
    (pairs.foldl (fun d entry => put entry.1 entry.2 d) d).Perm (pairs ++ d) := by
  induction pairs generalizing d with
  | nil => exact List.Perm.refl _
  | cons pair rest ih =>
      have fresh : pair.1 ∉ keys d := fun there =>
        (List.nodup_cons.mp distinct).1 (List.mem_append_right _ there)
      have grown : (keys (put pair.1 pair.2 d)).Perm (pair.1 :: keys d) := (perm_put fresh pair.2).map Prod.fst
      have still : (rest.map Prod.fst ++ keys (put pair.1 pair.2 d)).Nodup :=
        ((grown.append_left _).trans List.perm_middle).nodup_iff.mpr distinct
      exact (ih still).trans (((perm_put fresh pair.2).append_left rest).trans List.perm_middle)

/-- Pairs with different keys all become entries. -/
theorem perm_ofPairs {pairs : List (String × α)} (distinct : (pairs.map Prod.fst).Nodup) :
    (ofPairs pairs).Perm pairs := by
  have all := perm_foldl_put (d := []) (by simpa [keys] using distinct)
  simpa [ofPairs] using all

/-- A map is made of its entries, in whatever order these come. -/
theorem Ordered.ofPairs_of_perm {pairs : List (String × α)} {d : Dict α} (ordered : Ordered d)
    (same : pairs.Perm d) : ofPairs pairs = d :=
  (ordered_ofPairs pairs).eq_of_perm ordered
    ((perm_ofPairs ((same.map Prod.fst).nodup_iff.mpr ordered.keys_nodup)).trans same)

theorem Ordered.filter {d : Dict α} (ordered : Ordered d) (keep : String × α → Bool) : Ordered (d.filter keep) :=
  List.Pairwise.filter keep ordered

theorem Ordered.find?_filter {d : Dict α} (ordered : Ordered d) (keep : String × α → Bool) (key : String) :
    find? key (d.filter keep) = (find? key d).filter fun value => keep (key, value) := by
  induction d with
  | nil => rfl
  | cons entry rest ih =>
      obtain ⟨k, v⟩ := entry
      have tail := ih (List.Pairwise.of_cons ordered)
      by_cases same : k = key
      · subst same
        have last : find? k rest = none := by
          refine find?_eq_none fun there => ?_
          obtain ⟨other, member, same⟩ := List.mem_map.mp there
          exact absurd same (ne_of_gt (List.rel_of_pairwise_cons ordered member))
        cases kept : keep (k, v) <;> simp [find?, kept, tail, last, Option.filter]
      · cases kept : keep (k, v) <;> simp [find?, kept, tail, same]

theorem lookup_eq_some_iff_mem {κ : Type} [DecidableEq κ] {entries : List (κ × α)}
    (distinct : (entries.map Prod.fst).Nodup) {key : κ} {value : α} :
    entries.lookup key = some value ↔ (key, value) ∈ entries := by
  induction entries with
  | nil => simp
  | cons entry rest ih =>
      obtain ⟨first, held⟩ := entry
      obtain ⟨fresh, others⟩ := List.nodup_cons.mp distinct
      rw [List.lookup_cons, List.mem_cons, ← ih others]
      by_cases same : key = first
      · subst same
        have later : rest.lookup key ≠ some value :=
          fun found => fresh (List.mem_map.mpr ⟨(key, value), (ih others).mp found, rfl⟩)
        simp [later, eq_comm]
      · have different : (key == first) = false := beq_eq_false_iff_ne.mpr same
        simp [different, same]

end DocMapper.Dict
