import DocMapper.DocumentType.Build
import DocMapper.Engine.Memory
import DocMapper.Proofs.DictLaws
import DocMapper.Proofs.TrimmedText
import DocMapper.Rollover.Tick
/-!
What building promises of a type with a series: its names are not empty and have no blanks
around them. And what the bodies of its indices promise of the indices: the first one takes
the writes of the write alias, every one has the aliases for reading, and no later one takes
writes before it is made to.
-/

namespace DocMapper

theorem bind_eq_ok {ε α β : Type} {x : Except ε α} {f : α → Except ε β} {b : β} :
    (x >>= f) = .ok b ↔ ∃ a, x = .ok a ∧ f a = .ok b := by
  cases x with
  | error e => simp [bind, Except.bind]
  | ok a => simp [bind, Except.bind]

theorem bind_eq_error {ε α β : Type} {x : Except ε α} {f : α → Except ε β} {e : ε} :
    (x >>= f) = .error e ↔ x = .error e ∨ ∃ a, x = .ok a ∧ f a = .error e := by
  cases x with
  | error e' => simp [bind, Except.bind]
  | ok a => simp [bind, Except.bind]

theorem guard_eq_ok {ε β : Type} {bad : Prop} [Decidable bad] {e : ε} {rest : Unit → Except ε β} {b : β} :
    (if bad then (throw e : Except ε Unit) >>= rest else rest ()) = .ok b ↔ ¬bad ∧ rest () = .ok b := by
  by_cases failed : bad
  · simp [failed, bind, Except.bind, throw, throwThe, MonadExceptOf.throw]
  · simp [failed]

namespace DocumentType

/-- A name with no blanks around it, and not empty. -/
def Tidy (name : String) : Prop :=
  Text.trim name = name ∧ name ≠ ""

structure TidySeries (t : DocumentType) (aliases : RolloverAliases) : Prop where
  writeAlias : Tidy aliases.writeAlias
  indexPrefix : Tidy aliases.indexPrefix
  readAlias : ∀ name, aliases.readAlias = some name → Tidy name
  ownAlias : ∀ name, t.aliasName = some name → Tidy name

theorem filledNonempty_tidy {env : Environment} {raw : Option String} {name : String}
    (given : filledNonempty env raw = some name) : Tidy name := by
  obtain ⟨filled, nonempty⟩ := Option.filter_eq_some_iff.mp given
  obtain ⟨text, -, trimmed⟩ := Option.map_eq_some_iff.mp filled
  constructor
  · rw [← trimmed, Text.trim_idem]
  · simpa using nonempty

/-- What a rollover block has to have, and what is made of it. -/
structure SeriesSteps (env : Environment) (config : RolloverConfig) (aliases : RolloverAliases)
    (conditions : RolloverConditions) (schedule : Option Schedule) : Prop where
  writeAlias : aliases.writeAlias = Text.trim (Placeholder.resolve env config.writeAlias)
  named : aliases.writeAlias ≠ ""
  readAlias : aliases.readAlias = filledNonempty env config.readAlias
  indexPrefix : aliases.indexPrefix = (filledNonempty env config.indexPrefix).getD aliases.writeAlias
  maxAge : readOption Duration.parse (filledNonempty env config.maxAge) = .ok conditions.maxAge
  maxDocs : conditions.maxDocs = config.maxDocs.filter (0 < ·)
  maxSize : readOption ByteSize.parse (filledNonempty env config.maxSize) = .ok conditions.maxSize
  limited : conditions.isEmpty = false
  schedule : readOption Schedule.parse (filledNonempty env config.schedule) = .ok schedule

theorem rolloverAddressing_steps {env : Environment} {type : String} {config : RolloverConfig}
    {addressing : Addressing} {schedule : Option Schedule}
    (done : rolloverAddressing env type config = .ok (addressing, schedule)) :
    ∃ aliases conditions, addressing = .rollover aliases conditions ∧
      SeriesSteps env config aliases conditions schedule := by
  rw [rolloverAddressing] at done
  obtain ⟨named, done⟩ := guard_eq_ok.mp done
  obtain ⟨maxAge, aged, done⟩ := bind_eq_ok.mp done
  obtain ⟨maxSize, sized, done⟩ := bind_eq_ok.mp done
  obtain ⟨limited, done⟩ := guard_eq_ok.mp done
  obtain ⟨schedule, scheduled, done⟩ := bind_eq_ok.mp done
  cases done
  exact ⟨_, _, rfl, rfl, named, rfl, rfl, aged, rfl, sized, Bool.eq_false_iff.mpr limited, scheduled⟩

theorem SeriesSteps.tidy {env : Environment} {config : RolloverConfig} {aliases : RolloverAliases}
    {conditions : RolloverConditions} {schedule : Option Schedule}
    (steps : SeriesSteps env config aliases conditions schedule) :
    Tidy aliases.writeAlias ∧ Tidy aliases.indexPrefix ∧
      ∀ name, aliases.readAlias = some name → Tidy name := by
  have writeTidy : Tidy aliases.writeAlias := by
    refine ⟨?_, steps.named⟩
    rw [steps.writeAlias, Text.trim_idem]
  refine ⟨writeTidy, ?_, fun name given => filledNonempty_tidy (steps.readAlias ▸ given)⟩
  rw [steps.indexPrefix]
  cases given : filledNonempty env config.indexPrefix with
  | none => exact writeTidy
  | some name => exact filledNonempty_tidy given

/-- A time pattern that names indices, by the time at a field that was looked up, if there is one. -/
structure PatternSteps (fields : List Field) (pattern : String) (timeField : Option FieldPath) : Prop where
  nonempty : pattern ≠ ""
  valid : TimePattern.isValid pattern = true
  resolved : ∀ path, timeField = some path → ∃ text property, resolveIn fields text = some property ∧ property.path = path

theorem timeAddressing_steps {type pattern : String} {fields : List Field} {timeField : Option String}
    {addressing : Addressing} (done : timeAddressing type fields pattern timeField = .ok addressing) :
    ∃ field, addressing = .timeBased pattern field ∧ PatternSteps fields pattern field := by
  rw [timeAddressing] at done
  obtain ⟨filled, done⟩ := guard_eq_ok.mp done
  obtain ⟨valid, done⟩ := guard_eq_ok.mp done
  have readable : TimePattern.isValid pattern = true := by simpa using valid
  split at done
  · cases done
    exact ⟨none, rfl, filled, readable, fun path given => nomatch given⟩
  · next text _ =>
      split at done
      · next property found =>
          cases done
          exact ⟨_, rfl, filled, readable, fun path given => ⟨text, property, found, Option.some.inj given⟩⟩
      · cases done

/-- How an addressing comes about: by a rollover block, without one by a time pattern, and without
both there is one index. -/
inductive AddressingSteps (env : Environment) (config : TypeConfig) (indexName : String) (fields : List Field) :
    Addressing → Option Schedule → Prop where
  | series {rollover : RolloverConfig} {aliases : RolloverAliases} {conditions : RolloverConditions}
      {schedule : Option Schedule} (given : config.rollover = some rollover)
      (steps : SeriesSteps env rollover aliases conditions schedule) :
      AddressingSteps env config indexName fields (.rollover aliases conditions) schedule
  | dated {pattern : String} {timeField : Option FieldPath} (without : config.rollover = none)
      (stated : filled env config.timePattern = some pattern) (steps : PatternSteps fields pattern timeField) :
      AddressingSteps env config indexName fields (.timeBased pattern timeField) none
  | single (without : config.rollover = none) (unstated : filled env config.timePattern = none) :
      AddressingSteps env config indexName fields (.fixed indexName) none

theorem addressingOf_steps {env : Environment} {config : TypeConfig} {type indexName : String}
    {fields : List Field} {addressing : Addressing} {schedule : Option Schedule}
    (done : addressingOf env config type indexName fields = .ok (addressing, schedule)) :
    AddressingSteps env config indexName fields addressing schedule := by
  rw [addressingOf] at done
  -- A rollover section wins over a pattern; without either the index is fixed.
  cases given : config.rollover with
  | some rollover =>
      rw [given] at done
      obtain ⟨aliases, conditions, rfl, steps⟩ := rolloverAddressing_steps done
      exact .series given steps
  | none =>
      rw [given] at done
      cases stated : filled env config.timePattern with
      | some pattern =>
          rw [stated] at done
          obtain ⟨addressing, timed, done⟩ := bind_eq_ok.mp done
          obtain ⟨timeField, rfl, steps⟩ := timeAddressing_steps timed
          cases done
          exact .dated given stated steps
      | none =>
          rw [stated] at done
          cases done
          exact .single given stated

theorem AddressingSteps.series_given {env : Environment} {config : TypeConfig} {indexName : String} {fields : List Field}
    {aliases : RolloverAliases} {conditions : RolloverConditions} {schedule : Option Schedule}
    (steps : AddressingSteps env config indexName fields (.rollover aliases conditions) schedule) :
    ∃ rollover, config.rollover = some rollover ∧ SeriesSteps env rollover aliases conditions schedule := by
  cases steps with
  | series given steps => exact ⟨_, given, steps⟩

theorem AddressingSteps.seriesSteps {env : Environment} {config : TypeConfig} {indexName : String} {fields : List Field}
    {aliases : RolloverAliases} {conditions : RolloverConditions} {schedule : Option Schedule}
    (steps : AddressingSteps env config indexName fields (.rollover aliases conditions) schedule) :
    ∃ rollover, SeriesSteps env rollover aliases conditions schedule := by
  obtain ⟨rollover, -, series⟩ := steps.series_given
  exact ⟨rollover, series⟩

theorem AddressingSteps.patternSteps {env : Environment} {config : TypeConfig} {indexName : String} {fields : List Field}
    {pattern : String} {timeField : Option FieldPath} {schedule : Option Schedule}
    (steps : AddressingSteps env config indexName fields (.timeBased pattern timeField) schedule) :
    PatternSteps fields pattern timeField := by
  cases steps with
  | dated without stated steps => exact steps

/-- What holds of a type by the time it is built, `bound` being the roles given out on the way. -/
structure BuildSteps (env : Environment) (config : TypeConfig) (t : DocumentType) (bound : Bindings) : Prop where
  indexName : t.indexName ≠ ""
  fields : buildFields env t.name ⟨""⟩ "" [] [] config.fields = .ok (t.fields, bound)
  roles : t.roles = bound.map fun binding => (binding.1, binding.2.2)
  addressing : AddressingSteps env config t.indexName t.fields t.addressing t.rolloverSchedule
  relation : relationOf env config.relation t.name t.fields t.roles = .ok t.relation
  aliasName : t.aliasName = filledNonempty env config.aliasName

theorem build_steps {env : Environment} {config : TypeConfig} {t : DocumentType}
    (built : build env config = .ok t) : ∃ bound, BuildSteps env config t bound := by
  rw [build] at built
  obtain ⟨named, built⟩ := guard_eq_ok.mp built
  obtain ⟨⟨fields, bound⟩, laid, built⟩ := bind_eq_ok.mp built
  obtain ⟨⟨addressing, schedule⟩, addressed, built⟩ := bind_eq_ok.mp built
  obtain ⟨relation, related, built⟩ := bind_eq_ok.mp built
  cases built
  exact ⟨bound, named, laid, rfl, addressingOf_steps addressed, related, rfl⟩

theorem build_tidy {env : Environment} {config : TypeConfig} {t : DocumentType}
    {aliases : RolloverAliases} {conditions : RolloverConditions}
    (built : build env config = .ok t) (backed : t.addressing = .rollover aliases conditions) :
    TidySeries t aliases := by
  obtain ⟨bound, steps⟩ := build_steps built
  obtain ⟨rollover, series⟩ := (backed ▸ steps.addressing).seriesSteps
  obtain ⟨writeAlias, indexPrefix, readAlias⟩ := series.tidy
  exact ⟨writeAlias, indexPrefix, readAlias, fun name given => filledNonempty_tidy (steps.aliasName ▸ given)⟩

theorem build_ownAlias {env : Environment} {config : TypeConfig} {t : DocumentType}
    (built : build env config = .ok t) {name : String} (given : t.aliasName = some name) : Tidy name := by
  obtain ⟨bound, steps⟩ := build_steps built
  rw [steps.aliasName] at given
  exact filledNonempty_tidy given

theorem flag_of_aliasOptions (a : BirthAlias) :
    (((aliasOptions a).2.get? "is_write_index").bind Json.bool?).getD false = a.isWrite := by
  cases written : a.isWrite <;> simp [aliasOptions, written, Json.get?, Json.bool?, Dict.find?]

theorem find?_reverse_aliasOptions (name : String) (aliases : List BirthAlias) :
    ((Dict.find? name (aliases.map aliasOptions)).map fun options =>
        ((options.get? "is_write_index").bind Json.bool?).getD false) =
      (aliases.find? fun a => a.name = name).map BirthAlias.isWrite := by
  induction aliases with
  | nil => rfl
  | cons a rest ih =>
      by_cases same : a.name = name
      · have here : Dict.find? name ((a :: rest).map aliasOptions) = some (aliasOptions a).2 := by
          simp [Dict.find?, aliasOptions, same]
        rw [here, Option.map_some, flag_of_aliasOptions]
        simp [same]
      · have later : Dict.find? name ((a :: rest).map aliasOptions) =
            Dict.find? name (rest.map aliasOptions) := by
          simp [Dict.find?, aliasOptions, same]
        rw [later, ih]
        simp [same]

theorem get?_aliases_indexBody (t : DocumentType) (aliases : List BirthAlias) :
    (t.indexBody aliases).get? "aliases" =
      if aliases.isEmpty then none else some (.ofPairs (aliases.map aliasOptions)) := by
  simp only [indexBody, Json.ofPairs, Json.get?, Dict.find?_ofPairs]
  cases aliases with
  | nil => cases indexSettings t.settings <;> simp [Dict.find?]
  | cons a rest => cases indexSettings t.settings <;> simp [Dict.find?]

/-- An index is born with the aliases its body lists; the later of two under one name counts. -/
theorem find?_aliasesIn_indexBody (t : DocumentType) (aliases : List BirthAlias) (name : String) :
    Dict.find? name (MemoryIndex.aliasesIn (t.indexBody aliases)) =
      (aliases.reverse.find? fun a => a.name = name).map BirthAlias.isWrite := by
  rw [MemoryIndex.aliasesIn, get?_aliases_indexBody]
  cases aliases with
  | nil => rfl
  | cons a rest =>
      simp only [List.isEmpty_cons, Bool.false_eq_true, ↓reduceIte, Option.bind_some, Json.ofPairs,
        Json.members?, Dict.find?_mapValues, Dict.find?_ofPairs, ← List.map_reverse]
      exact find?_reverse_aliasOptions name _

end DocumentType

namespace Rollover

open DocumentType (BirthAlias)

/-- Whether reads of a type may go through an alias. -/
def ReadsThrough (t : DocumentType) (aliases : RolloverAliases) (name : String) : Prop :=
  aliases.readAlias = some name ∨ t.aliasName = some name

section Bodies

variable {t : DocumentType} {aliases : RolloverAliases}

theorem mem_readAliases_iff {a : BirthAlias} :
    a ∈ readAliases t aliases ↔
      ReadsThrough t aliases a.name ∧ a.name ≠ aliases.writeAlias ∧ a.isWrite = false := by
  -- The list leaves out an own alias equal to the read alias, which membership cannot tell.
  have listed : ∃ names : List String, (∀ name, name ∈ names ↔ ReadsThrough t aliases name) ∧
      readAliases t aliases =
        (names.filter fun name => name ≠ aliases.writeAlias).map fun name => ⟨name, false⟩ := by
    refine ⟨_, ?_, rfl⟩
    intro name
    rw [ReadsThrough]
    cases aliases.readAlias with
    | none => cases t.aliasName <;> simp [eq_comm]
    | some read =>
        cases t.aliasName with
        | none => simp [eq_comm]
        | some own => by_cases same : read = own <;> simp [same, eq_comm]
  obtain ⟨names, through, written⟩ := listed
  obtain ⟨name, isWrite⟩ := a
  simp only [written, List.mem_map, List.mem_filter, decide_eq_true_eq, through]
  constructor
  · rintro ⟨other, ⟨read, different⟩, same⟩
    cases same
    exact ⟨read, different, rfl⟩
  · rintro ⟨read, different, rfl⟩
    exact ⟨name, ⟨read, different⟩, rfl⟩

theorem find?_readAliases (name : String) (listed : ReadsThrough t aliases name)
    (different : name ≠ aliases.writeAlias) :
    ((readAliases t aliases).reverse.find? fun a => a.name = name).map BirthAlias.isWrite = some false := by
  have member : (⟨name, false⟩ : BirthAlias) ∈ (readAliases t aliases).reverse :=
    List.mem_reverse.mpr (mem_readAliases_iff.mpr ⟨listed, different, rfl⟩)
  cases search : (readAliases t aliases).reverse.find? fun a => a.name = name with
  | none =>
      have missed := List.find?_eq_none.mp search _ member
      simp at missed
  | some a =>
      have read := mem_readAliases_iff.mp (List.mem_reverse.mp (List.mem_of_find?_eq_some search))
      simp [read.2.2]

theorem find?_readAliases_write :
    (readAliases t aliases).reverse.find? (fun a => a.name = aliases.writeAlias) = none := by
  apply List.find?_eq_none.mpr
  intro a member
  simpa using (mem_readAliases_iff.mp (List.mem_reverse.mp member)).2.1

theorem firstAliases_write :
    Dict.find? aliases.writeAlias (MemoryIndex.aliasesIn (t.indexBody (firstAliases t aliases))) = some true := by
  rw [DocumentType.find?_aliasesIn_indexBody, firstAliases, List.reverse_cons, List.find?_append,
    find?_readAliases_write]
  simp

theorem firstAliases_read {name : String} (listed : ReadsThrough t aliases name)
    (different : name ≠ aliases.writeAlias) :
    Dict.find? name (MemoryIndex.aliasesIn (t.indexBody (firstAliases t aliases))) = some false := by
  have read := find?_readAliases name listed different
  obtain ⟨a, search, flag⟩ := Option.map_eq_some_iff.mp read
  rw [DocumentType.find?_aliasesIn_indexBody, firstAliases, List.reverse_cons, List.find?_append, search]
  simp [flag]

theorem readAliases_read {name : String} (listed : ReadsThrough t aliases name)
    (different : name ≠ aliases.writeAlias) :
    Dict.find? name (MemoryIndex.aliasesIn (t.indexBody (readAliases t aliases))) = some false := by
  rw [DocumentType.find?_aliasesIn_indexBody]
  exact find?_readAliases name listed different

end Bodies

section LogLines

/-- Log lines, in a series that goes on after the first of them. -/
def logLinesConfig : TypeConfig where
  name := "LogLine"
  indexName := some "logs"
  aliasName := none
  timePattern := none
  timeField := none
  rollover := some {
    writeAlias := "logs-write"
    readAlias := some "logs-read"
    indexPrefix := some "logs"
    maxAge := none
    maxDocs := some 1
    maxSize := none
    schedule := none }
  settings := .none
  relation := none
  fields := []

def logAliases : RolloverAliases := ⟨"logs-write", some "logs-read", "logs"⟩

def logLines : DocumentType where
  name := "LogLine"
  indexName := "logs"
  aliasName := none
  addressing := .rollover logAliases ⟨none, some 1, none⟩
  relation := .none
  settings := .none
  fields := []
  roles := []
  rolloverSchedule := none

theorem build_logLines : DocumentType.build .empty logLinesConfig = .ok logLines := rfl

end LogLines

end Rollover

end DocMapper
