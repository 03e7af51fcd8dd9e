import DocMapper.Proofs.SiblingNames
/-!
The fields of a type as a tree, and the tree of their descriptions. `Field.inTree` lists all
fields of a tree, parents first; `Field.treeInduction` goes from the properties of every field
to the fields. What is built is the description laid out, name by name and path by path, and the
roles come to be bound in the order of the list.
-/

namespace DocMapper

namespace FieldConfig

mutual

/-- A description and all those below it, parents first. -/
def family : FieldConfig → List FieldConfig
  | ⟨name, engineName, type, role, properties⟩ => ⟨name, engineName, type, role, properties⟩ :: inTree properties

def inTree : List FieldConfig → List FieldConfig
  | [] => []
  | config :: rest => family config ++ inTree rest

end

theorem inTree_cons (config : FieldConfig) (rest : List FieldConfig) :
    inTree (config :: rest) = config :: (inTree config.properties ++ inTree rest) := by
  cases config
  rfl

@[elab_as_elim]
theorem treeInduction {motive : List FieldConfig → Prop} (nil : motive [])
    (cons : ∀ config rest, motive config.properties → motive rest → motive (config :: rest)) :
    (configs : List FieldConfig) → motive configs
  | [] => nil
  | ⟨name, engineName, type, role, properties⟩ :: rest =>
      cons ⟨name, engineName, type, role, properties⟩ rest (treeInduction nil cons properties)
        (treeInduction nil cons rest)

/-- The engine name that a description stands for. -/
def engineNameIn (env : Environment) (config : FieldConfig) : String :=
  DocumentType.engineNameOf env (Placeholder.resolve env config.name) config.engineName

/-- Two fields, wherever they stand, have one role. -/
def SharesRole (configs : List FieldConfig) : Prop :=
  ¬((inTree configs).filterMap FieldConfig.role).Nodup

/-- Two siblings have one engine name, at the top or below some field. -/
def SharesName (env : Environment) (configs : List FieldConfig) : Prop :=
  ¬(configs.map (engineNameIn env)).Nodup ∨
    ∃ config ∈ inTree configs, ¬(config.properties.map (engineNameIn env)).Nodup

end FieldConfig

namespace Field

mutual

/-- A field and all those below it, parents first. -/
def family : Field → List Field
  | ⟨name, engineName, path, type, role, properties⟩ =>
      ⟨name, engineName, path, type, role, properties⟩ :: inTree properties

def inTree : List Field → List Field
  | [] => []
  | f :: rest => family f ++ inTree rest

end

theorem inTree_cons (f : Field) (rest : List Field) :
    inTree (f :: rest) = f :: (inTree f.properties ++ inTree rest) := by
  cases f
  rfl

theorem mem_inTree_iff {f : Field} {fields : List Field} :
    f ∈ inTree fields ↔ ∃ g ∈ fields, f = g ∨ f ∈ inTree g.properties := by
  induction fields with
  | nil => simp [inTree]
  | cons g rest ih =>
      rw [inTree_cons, List.mem_cons, List.mem_append, ih]
      constructor
      · rintro (same | below | ⟨other, listed, there⟩)
        · exact ⟨g, List.mem_cons_self, .inl same⟩
        · exact ⟨g, List.mem_cons_self, .inr below⟩
        · exact ⟨other, List.mem_cons_of_mem g listed, there⟩
      · rintro ⟨other, listed, there⟩
        rcases List.mem_cons.mp listed with rfl | further
        · exact there.imp_right .inl
        · exact .inr (.inr ⟨other, further, there⟩)

theorem mem_inTree {f : Field} {fields : List Field} (listed : f ∈ fields) : f ∈ inTree fields :=
  mem_inTree_iff.mpr ⟨f, listed, .inl rfl⟩

theorem mem_inTree_below {f g : Field} {fields : List Field} (listed : g ∈ fields)
    (below : f ∈ inTree g.properties) : f ∈ inTree fields :=
  mem_inTree_iff.mpr ⟨g, listed, .inr below⟩

@[elab_as_elim]
theorem treeInduction {motive : List Field → Prop} (nil : motive [])
    (cons : ∀ f rest, motive f.properties → motive rest → motive (f :: rest)) :
    (fields : List Field) → motive fields
  | [] => nil
  | ⟨name, engineName, path, type, role, properties⟩ :: rest =>
      cons ⟨name, engineName, path, type, role, properties⟩ rest (treeInduction nil cons properties)
        (treeInduction nil cons rest)

/-- What every field of a level has and hands down to its properties, all fields below have. -/
theorem inTree_of_hereditary {motive : Field → Prop} {fields : List Field} (top : ∀ f ∈ fields, motive f)
    (down : ∀ parent, motive parent → ∀ f ∈ parent.properties, motive f) : ∀ f ∈ inTree fields, motive f := by
  induction fields using treeInduction with
  | nil => exact fun f there => absurd there List.not_mem_nil
  | cons g rest below later =>
      intro f there
      rw [inTree_cons, List.mem_cons, List.mem_append] at there
      rcases there with rfl | deeper | further
      · exact top f List.mem_cons_self
      · exact below (down g (top g List.mem_cons_self)) f deeper
      · exact later (fun f listed => top f (List.mem_cons_of_mem g listed)) f further

/-- The role of a field, bound to its path. -/
def binding? (f : Field) : Option (Role × FieldPath) :=
  f.role.map fun role => (role, f.path)

end Field

namespace DocumentType

/-! ## Descriptions laid out -/

mutual

/-- The field that a description stands for, below a parent. -/
def laidOut (env : Environment) (parent : FieldPath) : FieldConfig → Field
  | ⟨rawName, rawEngineName, type, role, properties⟩ =>
      let name := Placeholder.resolve env rawName
      let engineName := engineNameOf env name rawEngineName
      let path := parent.child engineName
      { name, engineName, path, type, role, properties := laidOutAll env path properties }

def laidOutAll (env : Environment) (parent : FieldPath) : List FieldConfig → List Field
  | [] => []
  | config :: rest => laidOut env parent config :: laidOutAll env parent rest

end

section Layout

variable {env : Environment} {parent : FieldPath}

theorem laidOutAll_eq_map (configs : List FieldConfig) :
    laidOutAll env parent configs = configs.map (laidOut env parent) := by
  induction configs with
  | nil => rfl
  | cons config rest ih => rw [laidOutAll, ih, List.map_cons]

@[simp] theorem laidOut_engineName (config : FieldConfig) :
    (laidOut env parent config).engineName = config.engineNameIn env := by
  cases config
  rfl

@[simp] theorem laidOut_role (config : FieldConfig) : (laidOut env parent config).role = config.role := by
  cases config
  rfl

@[simp] theorem laidOut_path (config : FieldConfig) :
    (laidOut env parent config).path = parent.child (laidOut env parent config).engineName := by
  cases config
  rfl

@[simp] theorem laidOut_properties (config : FieldConfig) :
    (laidOut env parent config).properties = laidOutAll env (laidOut env parent config).path config.properties := by
  cases config
  rfl

theorem path_of_laidOutAll {configs : List FieldConfig} {f : Field} (listed : f ∈ laidOutAll env parent configs) :
    f.path = parent.child f.engineName := by
  rw [laidOutAll_eq_map] at listed
  obtain ⟨config, -, rfl⟩ := List.mem_map.mp listed
  exact laidOut_path config

theorem laidOutAll_engineNames (configs : List FieldConfig) :
    (laidOutAll env parent configs).map Field.engineName = configs.map (FieldConfig.engineNameIn env) := by
  rw [laidOutAll_eq_map, List.map_map]
  exact List.map_congr_left fun config _ => laidOut_engineName config

theorem roles_laidOutAll (configs : List FieldConfig) :
    (Field.inTree (laidOutAll env parent configs)).filterMap Field.role =
      (FieldConfig.inTree configs).filterMap FieldConfig.role := by
  induction configs using FieldConfig.treeInduction generalizing parent with
  | nil => rfl
  | cons config rest below later =>
      simp only [laidOutAll, Field.inTree_cons, FieldConfig.inTree_cons, List.filterMap_cons, laidOut_role,
        laidOut_properties, List.filterMap_append, below, later]

/-- Every description stands for a field of the tree, and its properties for those of the field. -/
theorem exists_laidOut (env : Environment) (parent : FieldPath) {configs : List FieldConfig} {config : FieldConfig}
    (there : config ∈ FieldConfig.inTree configs) :
    ∃ f ∈ Field.inTree (laidOutAll env parent configs),
      f.properties.map Field.engineName = config.properties.map (FieldConfig.engineNameIn env) := by
  induction configs using FieldConfig.treeInduction generalizing parent with
  | nil => cases there
  | cons first rest below later =>
      rw [FieldConfig.inTree_cons, List.mem_cons, List.mem_append] at there
      rw [laidOutAll]
      rcases there with rfl | deeper | further
      · refine ⟨laidOut env parent config, Field.mem_inTree List.mem_cons_self, ?_⟩
        rw [laidOut_properties, laidOutAll_engineNames]
      · obtain ⟨f, inside, same⟩ := below (laidOut env parent first).path deeper
        refine ⟨f, Field.mem_inTree_below List.mem_cons_self ?_, same⟩
        rwa [laidOut_properties]
      · obtain ⟨f, inside, same⟩ := later parent further
        refine ⟨f, ?_, same⟩
        rw [Field.inTree_cons]
        exact List.mem_cons_of_mem _ (List.mem_append_right _ inside)

theorem paths_below {configs : List FieldConfig} :
    ∀ p ∈ Field.inTree (laidOutAll env parent configs), ∀ f ∈ p.properties, f.path = p.path.child f.engineName := by
  have laid : ∀ {parent : FieldPath} {configs : List FieldConfig}, ∀ f ∈ laidOutAll env parent configs,
      ∃ below, f.properties = laidOutAll env f.path below := by
    intro parent configs f listed
    rw [laidOutAll_eq_map] at listed
    obtain ⟨config, -, rfl⟩ := List.mem_map.mp listed
    exact ⟨config.properties, laidOut_properties config⟩
  intro p there f listed
  obtain ⟨below, same⟩ := Field.inTree_of_hereditary laid (fun parent ⟨below, same⟩ f listed => laid f (same ▸ listed))
    p there
  exact path_of_laidOutAll (same ▸ listed)

end Layout

/-! ## What building makes of them -/

section Binding

variable {type : String} {bound after : Bindings}

/-- From one table of roles to another, with what was found in between. -/
structure Binds (bound after : Bindings) (found : List (Role × FieldPath)) : Prop where
  paths : after.map (fun b => (b.1, b.2.2)) = bound.map (fun b => (b.1, b.2.2)) ++ found
  distinct : (bound.map Prod.fst).Nodup → (after.map Prod.fst).Nodup

theorem Binds.refl (bound : Bindings) : Binds bound bound [] where
  paths := (List.append_nil _).symm
  distinct names := names

theorem Binds.trans {middle : Bindings} {found later : List (Role × FieldPath)} (first : Binds bound middle found)
    (second : Binds middle after later) : Binds bound after (found ++ later) where
  paths := by rw [second.paths, first.paths, List.append_assoc]
  distinct names := second.distinct (first.distinct names)

theorem bindRole_binds {role : Option Role} {name : String} {path : FieldPath}
    (done : bindRole type role name path bound = .ok after) :
    Binds bound after (role.map fun role => (role, path)).toList := by
  cases role with
  | none =>
      cases done
      exact Binds.refl bound
  | some role =>
      rw [bindRole] at done
      cases found : bound.lookup role with
      | some first =>
          simp only [found] at done
          cases done
      | none =>
          simp only [found] at done
          cases done
          refine ⟨by simp, fun names => ?_⟩
          have fresh : role ∉ bound.map Prod.fst := by
            rw [List.mem_map]
            rintro ⟨entry, listed, rfl⟩
            simpa using List.lookup_eq_none_iff.mp found entry listed
          simpa [List.nodup_append] using ⟨names, fun r name path listed same => fresh (same ▸ List.mem_map_of_mem listed)⟩

end Binding

mutual

/-- A field is built as its description says, and its tree is bound. -/
theorem buildField_lays {env : Environment} {type language : String} {parent : FieldPath} {seen : List String}
    {bound after : Bindings} {field : Field} : (config : FieldConfig) →
    buildField env type parent language seen bound config = .ok (field, after) →
      field = laidOut env parent config ∧ Binds bound after ((field :: Field.inTree field.properties).filterMap Field.binding?)
  | ⟨rawName, rawEngineName, fieldType, role, configs⟩, built => by
      rw [buildField] at built
      obtain ⟨-, built⟩ := guard_eq_ok.mp built
      obtain ⟨roles, bind, built⟩ := bind_eq_ok.mp built
      obtain ⟨⟨properties, others⟩, below, built⟩ := bind_eq_ok.mp built
      cases built
      obtain ⟨same, binds⟩ := buildFields_lays configs below
      refine ⟨by rw [laidOut, ← same], ?_⟩
      have all := (bindRole_binds bind).trans binds
      cases role <;> exact all

theorem buildFields_lays {env : Environment} {type language : String} {parent : FieldPath} {seen : List String}
    {bound after : Bindings} {fields : List Field} : (configs : List FieldConfig) →
    buildFields env type parent language seen bound configs = .ok (fields, after) →
      fields = laidOutAll env parent configs ∧ Binds bound after ((Field.inTree fields).filterMap Field.binding?)
  | [], built => by
      cases built
      exact ⟨rfl, Binds.refl bound⟩
  | config :: rest, built => by
      rw [buildFields] at built
      obtain ⟨⟨field, roles⟩, first, built⟩ := bind_eq_ok.mp built
      obtain ⟨⟨fields, others⟩, later, built⟩ := bind_eq_ok.mp built
      cases built
      obtain ⟨same, binds⟩ := buildField_lays config first
      obtain ⟨sameRest, bindsRest⟩ := buildFields_lays rest later
      refine ⟨by rw [laidOutAll, ← same, ← sameRest], ?_⟩
      rw [Field.inTree_cons, ← List.cons_append, List.filterMap_append]
      exact binds.trans bindsRest

end

end DocumentType

end DocMapper
