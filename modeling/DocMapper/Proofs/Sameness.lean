import DocMapper.Proofs.DoubleOrder
/-!
Values that count as the same JSON value differ at most in the signs of zeros. Sameness is
symmetric and transitive, objects that are the same have the same members, and no comparison of
a document with a value can tell the value from the same one.
-/

namespace DocMapper

theorem Number.same_symm {a b : Number} (same : a.same b = true) : b.same a = true := by
  cases a <;> cases b
  · simpa [Number.same, eq_comm] using same
  · cases same
  · cases same
  · exact BEq.symm same

theorem Number.same_trans {a b c : Number} (first : a.same b = true) (second : b.same c = true) :
    a.same c = true := by
  cases a with
  | int m =>
      cases b with
      | int n => rwa [of_decide_eq_true first]
      | real y => cases first
  | real x =>
      cases b with
      | int n => cases first
      | real y =>
          cases c with
          | int n => cases second
          | real z => exact BEq.trans first second

theorem Number.equal_of_same {a b : Number} (same : a.same b = true) :
    a = b ∨ (a.toDouble == b.toDouble) = true := by
  cases a <;> cases b
  · exact .inl (congrArg Number.int (of_decide_eq_true same))
  · cases same
  · cases same
  · exact .inr same

namespace Json

mutual

theorem same_symm : ∀ {a b : Json}, a.same b = true → b.same a = true
  | .null, .null, same => same
  | .bool _, .bool _, same => beq_iff_eq.mpr (beq_iff_eq.mp same).symm
  | .number _, .number _, same => Number.same_symm same
  | .string _, .string _, same => beq_iff_eq.mpr (beq_iff_eq.mp same).symm
  | .array _, .array _, same => sameItems_symm same
  | .object _, .object _, same => sameMembers_symm same

theorem sameItems_symm : ∀ {a b : List Json}, sameItems a b = true → sameItems b a = true
  | [], [], same => same
  | _ :: _, _ :: _, same => by
      simp only [sameItems, Bool.and_eq_true] at same ⊢
      exact ⟨same_symm same.1, sameItems_symm same.2⟩

theorem sameMembers_symm : ∀ {a b : List (String × Json)}, sameMembers a b = true → sameMembers b a = true
  | [], [], same => same
  | (_, _) :: _, (_, _) :: _, same => by
      simp only [sameMembers, Bool.and_eq_true, beq_iff_eq] at same ⊢
      exact ⟨⟨same.1.1.symm, same_symm same.1.2⟩, sameMembers_symm same.2⟩

end

mutual

theorem same_trans : ∀ {a b c : Json}, a.same b = true → b.same c = true → a.same c = true
  | .null, .null, .null, first, _ => first
  | .bool _, .bool _, .bool _, first, second => by simp_all [Json.same]
  | .number _, .number _, .number _, first, second => Number.same_trans first second
  | .string _, .string _, .string _, first, second => by simp_all [Json.same]
  | .array _, .array _, .array _, first, second => sameItems_trans first second
  | .object _, .object _, .object _, first, second => sameMembers_trans first second

theorem sameItems_trans : ∀ {a b c : List Json},
    sameItems a b = true → sameItems b c = true → sameItems a c = true
  | [], [], [], first, _ => first
  | _ :: _, _ :: _, _ :: _, first, second => by
      simp only [sameItems, Bool.and_eq_true] at first second ⊢
      exact ⟨same_trans first.1 second.1, sameItems_trans first.2 second.2⟩

theorem sameMembers_trans : ∀ {a b c : List (String × Json)},
    sameMembers a b = true → sameMembers b c = true → sameMembers a c = true
  | [], [], [], first, _ => first
  | (_, _) :: _, (_, _) :: _, (_, _) :: _, first, second => by
      simp only [sameMembers, Bool.and_eq_true, beq_iff_eq] at first second ⊢
      exact ⟨⟨first.1.1.trans second.1.1, same_trans first.1.2 second.1.2⟩,
        sameMembers_trans first.2 second.2⟩

end

theorem same_congr {a b : Json} (same : a.same b = true) (value : Json) : value.same a = value.same b := by
  rw [Bool.eq_iff_iff]
  exact ⟨fun left => same_trans left same, fun right => same_trans right (same_symm same)⟩

theorem sameMembers_find? {a b : List (String × Json)} (same : sameMembers a b = true) (key : String) :
    Option.Rel (fun v w => v.same w = true) (Dict.find? key a) (Dict.find? key b) := by
  induction a generalizing b with
  | nil =>
      cases b with
      | nil => exact .none
      | cons entry rest => cases same
  | cons entry rest ih =>
      cases b with
      | nil => cases same
      | cons other more =>
          obtain ⟨⟨keys, values⟩, tails⟩ := by simpa [sameMembers] using same
          rw [Dict.find?, Dict.find?, ← keys]
          split
          · exact .some values
          · exact ih tails

theorem same_get? {a b : Json} (same : a.same b = true) (key : String) :
    Option.Rel (fun v w => v.same w = true) (a.get? key) (b.get? key) := by
  cases a with
  | object members =>
      cases b with
      | object others => exact sameMembers_find? same key
      | _ => cases same
  | _ => cases b <;> first | exact .none | cases same

theorem same_of_get? {a b : Json} (same : a.same b = true) {key : String} {v w : Json}
    (found : a.get? key = some v) (found' : b.get? key = some w) : v.same w = true := by
  have related := same_get? same key
  rw [found, found'] at related
  cases related
  assumption

end Json

open Json

theorem compareDoubles?_same {m n : Number} (same : m.same n = true) (x : Float) :
    compareDoubles? x m.toDouble = compareDoubles? x n.toDouble := by
  rcases Number.equal_of_same same with equal | equal
  · rw [equal]
  · exact compareDoubles?_congr equal x

theorem compare?_congr {a b : Json} (same : a.same b = true) (actual : Json) :
    actual.compare? a = actual.compare? b := by
  cases a with
  | null => cases b <;> first | rfl | cases same
  | bool p =>
      cases b with
      | bool q => rw [beq_iff_eq.mp same]
      | _ => cases same
  | number m =>
      cases b with
      | number n =>
          cases actual with
          | number k => exact compareDoubles?_same same _
          | string text => simp only [Json.compare?, compareDoubles?_same same]
          | _ => rfl
      | _ => cases same
  | string text =>
      cases b with
      | string other => rw [beq_iff_eq.mp same]
      | _ => cases same
  | array items => cases b <;> first | (cases actual <;> rfl) | cases same
  | object members => cases b <;> first | (cases actual <;> rfl) | cases same

theorem looselyEqual_congr {a b : Json} (same : a.same b = true) (actual : Json) :
    Criteria.looselyEqual actual a = Criteria.looselyEqual actual b := by
  have structural := Json.same_congr same actual
  -- Only numbers can be the same without being equal; whatever is no number compares by structure.
  cases a with
  | null => cases b <;> first | rfl | cases same
  | bool p =>
      cases b with
      | bool q => rw [beq_iff_eq.mp same]
      | _ => cases same
  | number m =>
      cases b with
      | number n =>
          cases actual with
          | number k => simp only [Criteria.looselyEqual, compare?_congr same]
          | string text =>
              have spelled : ∀ x : Float, (x == m.toDouble) = (x == n.toDouble) := by
                intro x
                rcases Number.equal_of_same same with equal | equal
                · rw [equal]
                · exact BEq.congr_right equal
              simp only [Criteria.looselyEqual, spelled]
          | _ => exact structural
      | _ => cases same
  | string text =>
      cases b with
      | string other => rw [beq_iff_eq.mp same]
      | _ => cases same
  | array items =>
      cases b with
      | array others => cases actual <;> exact structural
      | _ => cases same
  | object members =>
      cases b with
      | object others => cases actual <;> exact structural
      | _ => cases same

theorem inSet_congr {a b : List Json} (same : Json.sameItems a b = true) (actual : Json) :
    Criteria.inSet actual a = Criteria.inSet actual b := by
  induction a generalizing b with
  | nil =>
      cases b with
      | nil => rfl
      | cons value rest => cases same
  | cons value rest ih =>
      cases b with
      | nil => cases same
      | cons other more =>
          obtain ⟨here, later⟩ := by simpa [Json.sameItems] using same
          have tails := ih later
          simp only [Criteria.inSet, List.any_cons] at tails ⊢
          rw [looselyEqual_congr here, tails]

end DocMapper
