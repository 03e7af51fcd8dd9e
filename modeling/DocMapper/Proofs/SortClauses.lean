import DocMapper.Proofs.WordCuts
/-!
Reading the properties to sort by. A property without a direction inside is passed over as it is,
and the direction behind it ends it.
-/

namespace DocMapper

/-- How a name writes a direction. -/
def Direction.ending : Direction → String
  | .asc => "Asc"
  | .desc => "Desc"

namespace MethodName

variable {p rest property : List Char}

theorem follows_ending (direction : Direction) (rest : List Char) : Follows (direction.ending.toList ++ rest) := by
  have capitals : Text.isUpper 'A' = true ∧ Text.isUpper 'D' = true := by decide
  cases direction <;> simp [Follows, Direction.ending, capitals]

theorem direction?_eq_none {c : Char} (ascii : ∀ d ∈ c :: p, d.toNat < 128)
    (avoids : ∀ direction : Direction, Avoids direction.ending.toList (c :: p)) (follows : Follows rest) :
    direction? (c :: p ++ rest) = none := by
  have apart : ∀ direction : Direction, NoneCompleted direction.ending.toList rest := by
    intro direction
    refine follows.noneCompleted ?_
    cases direction <;> decide
  -- Where the word occurs at all, a small letter goes on with it.
  have inside : ∀ direction : Direction, ∀ tail, Text.after? direction.ending.toList (c :: p ++ rest) = some tail →
      (tail.isEmpty || beginsWord tail) = false := by
    intro direction tail found
    obtain ⟨d, more, rfl, small⟩ :=
      small_of_avoids ascii (avoids direction) (apart direction) (Text.after?_eq_some_iff.mp found)
    simp [small]
  refine List.find?_eq_none.mpr fun entry listed => ?_
  have written : ∃ direction : Direction, entry.1 = direction.ending := by
    simp only [List.mem_cons, List.not_mem_nil, or_false] at listed
    rcases listed with rfl | rfl
    · exact ⟨.desc, rfl⟩
    · exact ⟨.asc, rfl⟩
  obtain ⟨direction, same⟩ := written
  rw [same]
  cases found : Text.after? direction.ending.toList (c :: p ++ rest) with
  | none => simp
  | some tail => simpa using inside direction tail found

/-- A property that no direction ends is read to its end. -/
theorem orderFrom_property (ascii : ∀ c ∈ p, c.toNat < 128)
    (avoids : ∀ direction : Direction, Avoids direction.ending.toList p) (follows : Follows rest) :
    orderFrom 0 property (p ++ rest) = orderFrom 0 (p.reverse ++ property) rest := by
  induction p generalizing property with
  | nil => rfl
  | cons c p ih =>
      have here := direction?_eq_none ascii avoids follows
      have later : orderFrom 0 (c :: property) (p ++ rest) = orderFrom 0 (p.reverse ++ c :: property) rest :=
        ih (fun d member => ascii d (List.mem_cons_of_mem c member)) fun direction => (avoids direction).of_cons
      rw [List.cons_append] at here ⊢
      rw [orderFrom, here]
      simp [later]

theorem orderFrom_skip (property skipped rest : List Char) :
    orderFrom skipped.length property (skipped ++ rest) = orderFrom 0 property rest := by
  induction skipped with
  | nil => rfl
  | cons c skipped ih =>
      rw [List.length_cons, List.cons_append, orderFrom]
      exact ih

theorem direction?_ending (direction : Direction) (ends : rest = [] ∨ beginsWord rest = true) :
    direction? (direction.ending.toList ++ rest) = some (direction.ending, direction) := by
  cases direction with
  | asc => simpa [direction?, Direction.ending, Text.after?] using ends.resolve_left
  | desc => simpa [direction?, Direction.ending, Text.after?] using ends

theorem orderFrom_ending (direction : Direction) (nonempty : property ≠ []) (ends : rest = [] ∨ beginsWord rest = true) :
    orderFrom 0 property (direction.ending.toList ++ rest) =
      ⟨String.ofList property.reverse ++ direction.ending, String.ofList property.reverse, direction⟩ ::
        orderFrom 0 [] rest := by
  have found := direction?_ending direction ends
  have inside : property.isEmpty = false := by simpa using nonempty
  have written : ∃ c tail, direction.ending.toList = c :: tail := by
    cases direction <;> exact ⟨_, _, rfl⟩
  obtain ⟨c, tail, same⟩ := written
  have long : direction.ending.length - 1 = tail.length := by
    rw [← String.length_toList, same]
    rfl
  rw [same, List.cons_append] at found ⊢
  rw [orderFrom, found, inside]
  simp only [long, orderFrom_skip]

end MethodName

end DocMapper
