import DocMapper.Proofs.FieldTrees
import DocMapper.Proofs.PatternNames
/-!
What a type that was built is good for. Whoever addresses indices, picks shards or follows roles
takes the type as it is: its roles lead to its fields, its series and its time pattern can be used,
and every path it names is the path of one of its fields. And what is never built: descriptions in
which a role or an engine name among siblings occurs twice.
-/

namespace DocMapper

namespace Schedule

theorem every_interval {interval : Duration} {s : Schedule} (read : every interval = .ok s) :
    s.interval? = some interval ∧ interval ≠ .zero := by
  rw [every] at read
  split at read
  · cases read
  · next nonzero =>
      cases read
      exact ⟨rfl, nonzero⟩

theorem cron_interval {expression : String} {s : Schedule} (read : cron expression = .ok s) : s.interval? = none := by
  unfold cron at read
  dsimp only at read
  split at read
  · cases read
    rfl
  · cases read

theorem parse_interval {raw : String} {s : Schedule} (read : parse raw = .ok s) : s.interval? ≠ some .zero := by
  have often {interval : Duration} (read : every interval = .ok s) : s.interval? ≠ some .zero := by
    obtain ⟨same, nonzero⟩ := every_interval read
    simpa [same] using nonzero
  have named {expression : String} (read : cron expression = .ok s) : s.interval? ≠ some .zero := by
    simp [cron_interval read]
  simp only [parse] at read
  split_ifs at read
  · exact often read
  · exact named read
  · exact named read
  · exact named read
  · exact named read
  · split at read
    · split_ifs at read
      exact often read
    · cases read

end Schedule

namespace DocumentType

theorem resolveAmong_mem {depth : Nat} {fields : List Field} {text : List Char} {f : Field}
    (found : resolveAmong depth fields text = some f) : f ∈ Field.inTree fields := by
  induction depth generalizing fields text with
  | zero => cases found
  | succ depth ih =>
      rw [resolveAmong] at found
      split_ifs at found
      split at found
      · next g answers =>
          cases found
          exact Field.mem_inTree (List.mem_of_find?_eq_some answers)
      · obtain ⟨cut, -, below⟩ := List.exists_of_findSome?_eq_some found
        split at below
        · next parent answers => exact Field.mem_inTree_below (List.mem_of_find?_eq_some answers) (ih below)
        · cases below

theorem resolveIn_mem {fields : List Field} {text : String} {property : ResolvedProperty}
    (found : resolveIn fields text = some property) : ∃ f ∈ Field.inTree fields, f.path = property.path := by
  obtain ⟨f, resolved, rfl⟩ := Option.map_eq_some_iff.mp found
  exact ⟨f, resolveAmong_mem resolved, rfl⟩

/-- What a type with a series needs. -/
structure UsableSeries (aliases : RolloverAliases) (conditions : RolloverConditions) : Prop where
  writeAlias : aliases.writeAlias ≠ ""
  indexPrefix : aliases.indexPrefix ≠ ""
  limited : conditions.maxAge ≠ none ∨ conditions.maxDocs ≠ none ∨ conditions.maxSize ≠ none
  maxDocs : conditions.maxDocs ≠ some 0

theorem SeriesSteps.usable {env : Environment} {config : RolloverConfig} {aliases : RolloverAliases}
    {conditions : RolloverConditions} {schedule : Option Schedule}
    (steps : SeriesSteps env config aliases conditions schedule) : UsableSeries aliases conditions where
  writeAlias := steps.named
  indexPrefix := steps.tidy.2.1.2
  limited := by
    have limited := steps.limited
    rw [RolloverConditions.isEmpty] at limited
    simp only [Bool.and_eq_false_iff, Option.isNone_eq_false_iff, Option.isSome_iff_ne_none] at limited
    tauto
  maxDocs := by
    intro zero
    rw [steps.maxDocs] at zero
    simpa using Option.filter_eq_some_iff.mp zero

theorem SeriesSteps.schedule_interval {env : Environment} {config : RolloverConfig} {aliases : RolloverAliases}
    {conditions : RolloverConditions} {s : Schedule}
    (steps : SeriesSteps env config aliases conditions (some s)) : s.interval? ≠ some .zero := by
  have read := steps.schedule
  cases given : filledNonempty env config.schedule with
  | none => simp [readOption, given] at read
  | some raw =>
      cases parsed : Schedule.parse raw with
      | error e => simp [readOption, given, parsed, Except.map] at read
      | ok found =>
          have same : found = s := by simpa [readOption, given, parsed, Except.map] using read
          exact same ▸ Schedule.parse_interval parsed

/-- What a type needs whose indices are named by the time, perhaps the one at a field. -/
structure UsablePattern (fields : List Field) (pattern : String) (timeField : Option FieldPath) : Prop where
  nonempty : pattern ≠ ""
  /-- Reading the pattern meets no specifier that is unknown or cut off. -/
  valid : TimePattern.AllKnown pattern.toList
  timeField : ∀ path, timeField = some path → ∃ f ∈ Field.inTree fields, f.path = path

theorem PatternSteps.usable {fields : List Field} {pattern : String} {timeField : Option FieldPath}
    (steps : PatternSteps fields pattern timeField) : UsablePattern fields pattern timeField where
  nonempty := steps.nonempty
  valid := TimePattern.isValid_iff.mp steps.valid
  timeField path given := by
    obtain ⟨text, property, found, rfl⟩ := steps.resolved path given
    exact resolveIn_mem found

section Addressing

variable {env : Environment} {config : TypeConfig} {indexName : String} {fields : List Field}
  {addressing : Addressing} {schedule : Option Schedule}

theorem AddressingSteps.schedule_interval {s : Schedule}
    (steps : AddressingSteps env config indexName fields addressing (some s)) : s.interval? ≠ some .zero := by
  cases steps with
  | series given series => exact series.schedule_interval

theorem AddressingSteps.of_rollover {rollover : RolloverConfig} (given : config.rollover = some rollover)
    (steps : AddressingSteps env config indexName fields addressing schedule) :
    ∃ aliases conditions, addressing = .rollover aliases conditions := by
  cases steps with
  | series _ series => exact ⟨_, _, rfl⟩
  | dated without | single without => cases given.symm.trans without

theorem AddressingSteps.of_pattern {pattern : String} (without : config.rollover = none)
    (stated : filled env config.timePattern = some pattern)
    (steps : AddressingSteps env config indexName fields addressing schedule) :
    ∃ timeField, addressing = .timeBased pattern timeField := by
  cases steps with
  | series given series => cases given.symm.trans without
  | dated _ other steps =>
      cases stated.symm.trans other
      exact ⟨_, rfl⟩
  | single _ unstated => cases stated.symm.trans unstated

theorem AddressingSteps.of_neither (without : config.rollover = none) (unstated : filled env config.timePattern = none)
    (steps : AddressingSteps env config indexName fields addressing schedule) : addressing = .fixed indexName := by
  cases steps with
  | series given series => cases given.symm.trans without
  | dated _ stated steps => cases stated.symm.trans unstated
  | single => rfl

end Addressing

/-- A built type, as a description asks for it. -/
structure Checked (env : Environment) (config : TypeConfig) (t : DocumentType) : Prop where
  laidOut : t.fields = laidOutAll env ⟨""⟩ config.fields
  roles : ∀ role path, t.roleField role = some path ↔ ∃ f ∈ Field.inTree t.fields, f.role = some role ∧ f.path = path
  rolesOnce : ((Field.inTree t.fields).filterMap Field.role).Nodup
  siblings : (t.fields.map Field.engineName).Nodup
  siblingsBelow : ∀ parent ∈ Field.inTree t.fields, (parent.properties.map Field.engineName).Nodup
  paths : ∀ f ∈ t.fields, f.path = ⟨f.engineName⟩
  pathsBelow : ∀ parent ∈ Field.inTree t.fields, ∀ f ∈ parent.properties, f.path = parent.path.child f.engineName
  series : ∀ aliases conditions, t.addressing = .rollover aliases conditions → UsableSeries aliases conditions
  schedule : ∀ s, t.rolloverSchedule = some s → s.interval? ≠ some .zero
  pattern : ∀ pattern timeField, t.addressing = .timeBased pattern timeField → UsablePattern t.fields pattern timeField
  routing : ∀ parent path, t.relation = .childOf parent path → ∃ f ∈ Field.inTree t.fields, f.path = path
  rolloverFirst : ∀ rollover, config.rollover = some rollover →
    ∃ aliases conditions, t.addressing = .rollover aliases conditions
  patternNext : config.rollover = none → ∀ pattern, filled env config.timePattern = some pattern →
    ∃ timeField, t.addressing = .timeBased pattern timeField
  fixedLast : config.rollover = none → filled env config.timePattern = none → t.addressing = .fixed t.indexName

section Building

variable {env : Environment} {config : TypeConfig} {t : DocumentType}

theorem fst_bindings (fields : List Field) :
    (fields.filterMap Field.binding?).map Prod.fst = fields.filterMap Field.role := by
  rw [List.map_filterMap]
  congr 1
  funext f
  cases role : f.role <;> simp [Field.binding?, role]

/-- The fields of a built type are those described, and its table binds their roles to their paths. -/
theorem build_lays (built : build env config = .ok t) :
    t.fields = laidOutAll env ⟨""⟩ config.fields ∧
      t.roles = (Field.inTree t.fields).filterMap Field.binding? ∧
      ((Field.inTree t.fields).filterMap Field.role).Nodup := by
  obtain ⟨bound, steps⟩ := build_steps built
  obtain ⟨same, binds⟩ := buildFields_lays config.fields steps.fields
  have roles : t.roles = (Field.inTree t.fields).filterMap Field.binding? := by
    rw [steps.roles, binds.paths]
    rfl
  refine ⟨same, roles, ?_⟩
  rw [← fst_bindings, ← roles, steps.roles, List.map_map]
  exact binds.distinct List.nodup_nil

theorem build_roles (built : build env config = .ok t) (role : Role) (path : FieldPath) :
    t.roleField role = some path ↔ ∃ f ∈ Field.inTree t.fields, f.role = some role ∧ f.path = path := by
  obtain ⟨-, roles, once⟩ := build_lays built
  rw [roleField, roles, Dict.lookup_eq_some_iff_mem (by rwa [fst_bindings]), List.mem_filterMap]
  simp [Field.binding?]

theorem build_siblings (built : build env config = .ok t) :
    ∀ parent ∈ Field.inTree t.fields, (parent.properties.map Field.engineName).Nodup := by
  intro parent there
  have differ : SiblingsDiffer parent.properties :=
    Field.inTree_of_hereditary (motive := fun f => SiblingsDiffer f.properties)
      (fun f listed => (build_differ built).properties listed) (fun _ differ _ listed => differ.properties listed)
      parent there
  exact differ.names

/-- A child's shard is picked by a field: the one described or the one with the parent's id. -/
theorem build_routing (built : build env config = .ok t) {parent : String} {path : FieldPath}
    (child : t.relation = .childOf parent path) : ∃ f ∈ Field.inTree t.fields, f.path = path := by
  obtain ⟨bound, steps⟩ := build_steps built
  have related := steps.relation
  rw [child, relationOf.eq_def] at related
  split at related
  · cases related
  · cases related
  · split at related
    · split at related
      · next property found =>
          cases related
          exact resolveIn_mem found
      · cases related
    · split at related
      · next path found =>
          cases related
          obtain ⟨f, there, -, same⟩ := (build_roles built .parentId path).mp found
          exact ⟨f, there, same⟩
      · cases related

theorem build_checked (built : build env config = .ok t) : Checked env config t := by
  obtain ⟨laid, -, rolesOnce⟩ := build_lays built
  obtain ⟨bound, steps⟩ := build_steps built
  -- The layout answers for the paths, the steps of the build for what was refused on the way.
  exact {
    laidOut := laid
    roles := build_roles built
    rolesOnce := rolesOnce
    siblings := (build_differ built).names
    siblingsBelow := build_siblings built
    paths := fun f listed => path_of_laidOutAll (laid ▸ listed)
    pathsBelow := by
      rw [laid]
      exact paths_below
    series := fun _ _ backed =>
      have ⟨_, series⟩ := (backed ▸ steps.addressing).seriesSteps
      series.usable
    schedule := fun _ given => (given ▸ steps.addressing).schedule_interval
    pattern := fun _ _ timed => (timed ▸ steps.addressing).patternSteps.usable
    routing := fun _ _ => build_routing built
    rolloverFirst := fun _ given => steps.addressing.of_rollover given
    patternNext := fun without _ stated => steps.addressing.of_pattern without stated
    fixedLast := fun without unstated => steps.addressing.of_neither without unstated }

theorem Checked.distinct (checked : Checked env config t) :
    ¬FieldConfig.SharesRole config.fields ∧ ¬FieldConfig.SharesName env config.fields := by
  have laid := checked.laidOut
  constructor
  · have once := checked.rolesOnce
    rw [laid, roles_laidOutAll] at once
    exact fun shares => shares once
  · rintro (shares | ⟨parent, there, shares⟩)
    · have names := checked.siblings
      rw [laid, laidOutAll_engineNames] at names
      exact shares names
    · obtain ⟨f, inside, same⟩ := exists_laidOut env ⟨""⟩ there
      have names := checked.siblingsBelow f (laid ▸ inside)
      rw [same] at names
      exact shares names

/-- What is built can be relied on, and a description that gives one role or, among siblings, one
engine name to two fields is refused. -/
theorem built_types_checked (env : Environment) (config : TypeConfig) :
    (∀ t, build env config = .ok t → Checked env config t) ∧
      (FieldConfig.SharesRole config.fields ∨ FieldConfig.SharesName env config.fields →
        ∃ e, build env config = .error e) := by
  refine ⟨fun t built => build_checked built, fun shares => ?_⟩
  cases built : build env config with
  | error e => exact ⟨e, rfl⟩
  | ok t =>
      obtain ⟨oneRole, oneName⟩ := (build_checked built).distinct
      exact (shares.elim oneRole oneName).elim

end Building

section Visits

/-- Visits, kept apart by month, with the day and the number of the visitor further down. -/
def visitsConfig : TypeConfig where
  name := "Visit"
  indexName := none
  aliasName := none
  timePattern := some "visits-%Y-%m"
  timeField := some "stay.day"
  rollover := none
  settings := .none
  relation := some (.childOf "House" none)
  fields := [
    ⟨"stay", none, .object, none, [⟨"day", some "on", .date, none, []⟩]⟩,
    ⟨"who", none, .object, none, [⟨"number", none, .keyword, some .identity, []⟩]⟩,
    ⟨"house", none, .keyword, some .parentId, []⟩]

def visits : DocumentType where
  name := "Visit"
  indexName := "visit"
  aliasName := none
  addressing := .timeBased "visits-%Y-%m" (some ⟨"stay.on"⟩)
  relation := .childOf "House" ⟨"house"⟩
  settings := .none
  fields := [
    ⟨"stay", "stay", ⟨"stay"⟩, .object, none, [⟨"day", "on", ⟨"stay.on"⟩, .date, none, []⟩]⟩,
    ⟨"who", "who", ⟨"who"⟩, .object, none, [⟨"number", "number", ⟨"who.number"⟩, .keyword, some .identity, []⟩]⟩,
    ⟨"house", "house", ⟨"house"⟩, .keyword, some .parentId, []⟩]
  roles := [(.identity, ⟨"who.number"⟩), (.parentId, ⟨"house"⟩)]
  rolloverSchedule := none

/-- Visits are built and checked; with a second identity beside the first object they are refused. -/
theorem visits_checked :
    Checked .empty visitsConfig visits ∧
      ∃ e, build .empty { visitsConfig with
        fields := ⟨"id", none, .keyword, some .identity, []⟩ :: visitsConfig.fields } = .error e :=
  ⟨(built_types_checked .empty visitsConfig).1 visits rfl,
    (built_types_checked .empty _).2 (.inl (by rw [FieldConfig.SharesRole]; decide))⟩

end Visits

end DocumentType

end DocMapper
