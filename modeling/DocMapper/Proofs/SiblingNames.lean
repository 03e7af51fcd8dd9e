import DocMapper.Proofs.BuiltSeries
import Mathlib.Data.List.Nodup
/-!
What building promises of fields: below every parent, and at the top, no two of them have one
engine name. Nothing of the kind is promised of the names in the application.
-/

namespace DocMapper.DocumentType

/-- Siblings differ in their engine names, at every level. -/
inductive SiblingsDiffer : List Field → Prop where
  | intro {fields : List Field} (names : (fields.map Field.engineName).Nodup)
      (properties : ∀ f ∈ fields, SiblingsDiffer f.properties) : SiblingsDiffer fields

theorem SiblingsDiffer.names {fields : List Field} (differ : SiblingsDiffer fields) :
    (fields.map Field.engineName).Nodup := by
  cases differ with
  | intro names properties => exact names

theorem SiblingsDiffer.properties {fields : List Field} (differ : SiblingsDiffer fields) {f : Field} (member : f ∈ fields) :
    SiblingsDiffer f.properties := by
  cases differ with
  | intro names properties => exact properties f member

theorem SiblingsDiffer.rest {first : Field} {rest : List Field} (differ : SiblingsDiffer (first :: rest)) :
    SiblingsDiffer rest :=
  .intro (List.nodup_cons.mp differ.names).2 fun _ listed => differ.properties (List.mem_cons_of_mem first listed)

/-- An engine name finds the one field that has it. -/
theorem SiblingsDiffer.find?_engineName {fields : List Field} (differ : SiblingsDiffer fields) {f : Field}
    (member : f ∈ fields) : (fields.find? fun g => g.engineName = f.engineName) = some f := by
  have unique := List.inj_on_of_nodup_map differ.names
  cases found : fields.find? fun g => g.engineName = f.engineName with
  | none => simpa using List.find?_eq_none.mp found f member
  | some g =>
      have same : g.engineName = f.engineName := by simpa using List.find?_some found
      rw [unique (List.mem_of_find?_eq_some found) member same]

mutual

theorem buildField_differ {env : Environment} {type language : String} {parent : FieldPath} {seen : List String}
    {bound after : Bindings} {field : Field} : (config : FieldConfig) →
    buildField env type parent language seen bound config = .ok (field, after) →
      field.engineName ∉ seen ∧ SiblingsDiffer field.properties
  | ⟨rawName, rawEngineName, fieldType, role, configs⟩, built => by
      rw [buildField] at built
      obtain ⟨fresh, built⟩ := guard_eq_ok.mp built
      obtain ⟨roles, -, built⟩ := bind_eq_ok.mp built
      obtain ⟨⟨properties, others⟩, below, built⟩ := bind_eq_ok.mp built
      cases built
      obtain ⟨names, each⟩ := buildFields_differ configs below
      exact ⟨by simpa using fresh, .intro names fun f member => (each f member).2⟩

theorem buildFields_differ {env : Environment} {type language : String} {parent : FieldPath} {seen : List String}
    {bound after : Bindings} {fields : List Field} : (configs : List FieldConfig) →
    buildFields env type parent language seen bound configs = .ok (fields, after) →
      (fields.map Field.engineName).Nodup ∧ ∀ f ∈ fields, f.engineName ∉ seen ∧ SiblingsDiffer f.properties
  | [], built => by
      cases built
      exact ⟨List.nodup_nil, fun _ member => absurd member List.not_mem_nil⟩
  | config :: rest, built => by
      rw [buildFields] at built
      obtain ⟨⟨field, roles⟩, first, built⟩ := bind_eq_ok.mp built
      obtain ⟨⟨fields, others⟩, later, built⟩ := bind_eq_ok.mp built
      cases built
      -- The later fields are built with the name of this one among the names seen.
      obtain ⟨names, each⟩ := buildFields_differ rest later
      have own := buildField_differ config first
      refine ⟨List.nodup_cons.mpr ⟨?_, names⟩, ?_⟩
      · rw [List.mem_map]
        rintro ⟨f, member, same⟩
        exact (each f member).1 (same ▸ List.mem_cons_self)
      · intro f member
        rcases List.mem_cons.mp member with rfl | further
        · exact own
        · exact ⟨fun there => (each f further).1 (List.mem_cons_of_mem _ there), (each f further).2⟩

end

theorem build_differ {env : Environment} {config : TypeConfig} {t : DocumentType}
    (built : build env config = .ok t) : SiblingsDiffer t.fields := by
  obtain ⟨bound, steps⟩ := build_steps built
  obtain ⟨names, each⟩ := buildFields_differ config.fields steps.fields
  exact .intro names fun f member => (each f member).2

end DocMapper.DocumentType
