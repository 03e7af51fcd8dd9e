import DocMapper.Deployment
import DocMapper.Engine.Memory
import DocMapper.Proofs.CheckedTypes
import DocMapper.Proofs.RegisteredTypes
import DocMapper.Proofs.ServiceRuns
/-!
The triggers of a deployment. Descriptions go by their names as written and jobs by the names that
these resolve to. So a deployment that has got every type ready has a job for each resolved name of
a type with a series, and every such type has its own exactly if no two of their names resolve to
the same; of those that do the last one has the job. However the deployment ends, before all types
are ready or after that, it leaves no job that fires.
-/

namespace DocMapper

open Scheduler (Sound)

variable {σ : Type} {answer : (c : Call) → σ → Except Fault c.Reply × σ}

/-! ## From types to triggers -/

namespace Repository

/-- The charge of a type with a series, unless its schedule is always due. -/
def charge? (r : Repository) (t : DocumentType) : Option Charge :=
  let schedule := t.rolloverSchedule.getD r.defaultSchedule
  if paced : t.isRolloverBacked = true ∧ schedule.interval? ≠ some .zero then some ⟨t, schedule, paced.2⟩
  else none

/-- No trigger is always due. -/
def Paced (r : Repository) : Prop :=
  ∀ name t, r.find name = .ok t → (t.rolloverSchedule.getD r.defaultSchedule).interval? ≠ some .zero

variable {r : Repository} {name : String} {t : DocumentType}

theorem charge?_of_backed (paced : r.Paced) (found : r.find name = .ok t) (backed : t.isRolloverBacked = true) :
    r.charge? t = some ⟨t, t.rolloverSchedule.getD r.defaultSchedule, paced name t found⟩ :=
  dif_pos ⟨backed, paced name t found⟩

theorem charge?_of_other (other : t.isRolloverBacked = false) : r.charge? t = none :=
  dif_neg fun paced => Bool.false_ne_true (other.symm.trans paced.1)

theorem rolloverTrigger_of_backed (found : r.find name = .ok t) (backed : t.isRolloverBacked = true) :
    r.rolloverTrigger name none = .ok (t, t.rolloverSchedule.getD r.defaultSchedule) := by
  have other : ¬(!t.isRolloverBacked) = true := by simp [backed]
  rw [rolloverTrigger, found]
  exact if_neg other

theorem find_eq_ok_iff {env : Environment} {configs : List TypeConfig}
    (current : Registry.Current env configs r.registry) :
    r.find name = .ok t ↔ Registry.builtAnew env configs name = .ok t := by
  rw [find, (current.get name).1]
  cases Registry.builtAnew env configs name <;> simp [Except.mapError]

/-- The types of a list of names. -/
def Knows (r : Repository) (names : List String) (types : List DocumentType) : Prop :=
  List.Forall₂ (fun name t => r.find name = .ok t) names types

theorem Knows.charges {names : List String} {types : List DocumentType} (knows : r.Knows names types)
    (paced : r.Paced) :
    (types.filterMap r.charge?).map Charge.type = types.filter DocumentType.isRolloverBacked ∧
      ∀ c ∈ types.filterMap r.charge?, c.schedule = c.type.rolloverSchedule.getD r.defaultSchedule := by
  induction knows with
  | nil => exact ⟨rfl, fun _ none => by cases none⟩
  | @cons name t names types found rest ih =>
      obtain ⟨series, schedules⟩ := ih
      cases backed : t.isRolloverBacked with
      | true =>
          rw [List.filterMap_cons_some (charge?_of_backed paced found backed), List.filter_cons_of_pos backed]
          exact ⟨congrArg (t :: ·) series, List.forall_mem_cons.mpr ⟨rfl, schedules⟩⟩
      | false =>
          rw [List.filterMap_cons_none (charge?_of_other backed), List.filter_cons_of_neg (by simp [backed])]
          exact ⟨series, schedules⟩

/-- Every bootstrap of a list of names succeeds, one after the other. -/
def Boots (r : Repository) (answer : (c : Call) → σ → Except Fault c.Reply × σ) : List String → σ → Prop
  | [], _ => True
  | name :: rest, w =>
      (∃ created, ((r.bootstrap name).run.conduct answer w).1 = .ok created) ∧
        r.Boots answer rest ((r.bootstrap name).run.conduct answer w).2

end Repository

/-! ## Start-up -/

namespace Service

variable {r : Repository} {name : String} {names : List String} {t : DocumentType} {types : List DocumentType} {w : σ}

theorem conduct_during {α : Type} (activity : Activity) (a : Attempt Failure α) (w : σ) :
    (a.during activity).run.conduct answer w =
      ((a.run.conduct answer w).1.mapError (Failure.during activity), (a.run.conduct answer w).2) :=
  Dialogue.conduct_bind ..

/-- What follows the bootstrap of a type. -/
def goOn (r : Repository) (withTriggers : Bool) (name : String) (rest : List String) (s : Service) :
    Except Failure (Option String) → Program (Except Failure Unit × Service)
  | .error f => return (.error f, s)
  | .ok _ =>
      match r.find name with
      | .error f => return (.error f, s)
      | .ok t =>
          if withTriggers && t.isRolloverBacked then
            match r.rolloverTrigger name none with
            | .error f => return (.error f, s)
            | .ok (t, schedule) => startAll r withTriggers rest (s.register t schedule)
          else startAll r withTriggers rest s

theorem startAll_cons (withTriggers : Bool) (s : Service) (w : σ) :
    (startAll r withTriggers (name :: names) s).conduct answer w =
      (goOn r withTriggers name names s
        (((r.bootstrap name).run.conduct answer w).1.mapError (Failure.during (.bootstrapping name)))).conduct answer
        ((r.bootstrap name).run.conduct answer w).2 := by
  have same : startAll r withTriggers (name :: names) s =
      ((r.bootstrap name).during (.bootstrapping name)).run.bind (goOn r withTriggers name names s) := by
    rw [startAll]
    refine congrArg _ (funext fun outcome => ?_)
    cases outcome <;> rfl
  rw [same, Dialogue.conduct_bind, conduct_during]

theorem goOn_ready (paced : r.Paced) (found : r.find name = .ok t) (s : Service) (created : Option String) :
    goOn r true name names s (.ok created) = startAll r true names ((r.charge? t).toList.foldl take s) := by
  cases backed : t.isRolloverBacked with
  | true =>
      rw [Repository.charge?_of_backed paced found backed]
      simp only [goOn, found, backed, Bool.and_true, ↓reduceIte, Repository.rolloverTrigger_of_backed found backed]
      rfl
  | false =>
      rw [Repository.charge?_of_other backed]
      simp only [goOn, found, backed, Bool.and_false, Bool.false_eq_true, ↓reduceIte]
      rfl

theorem startAll_ready (knows : r.Knows names types) (paced : r.Paced) (boots : r.Boots answer names w)
    (s : Service) :
    ∃ after, (startAll r true names s).conduct answer w =
      ((.ok (), (types.filterMap r.charge?).foldl take s), after) := by
  induction knows generalizing s w with
  | nil => exact ⟨w, rfl⟩
  | @cons name t names types found rest ih =>
      obtain ⟨⟨created, done⟩, others⟩ := boots
      obtain ⟨after, ended⟩ := ih others ((r.charge? t).toList.foldl take s)
      refine ⟨after, ?_⟩
      rw [startAll_cons, done, Except.mapError, goOn_ready paced found, ended, List.filterMap_cons]
      cases r.charge? t <;> rfl

theorem startAll_sound (paced : r.Paced) (withTriggers : Bool) (names : List String) (s : Service) (w : σ)
    (sound : ∃ owners, s.scheduler.Sound owners) :
    ∃ owners, ((startAll r withTriggers names s).conduct answer w).1.2.scheduler.Sound owners := by
  induction names generalizing s w with
  | nil => exact sound
  | cons name names ih =>
      rw [startAll_cons]
      cases ((r.bootstrap name).run.conduct answer w).1.mapError (Failure.during (.bootstrapping name)) with
      | error f => exact sound
      | ok created =>
          rw [goOn]
          split
          · exact sound
          · next t found =>
              split
              · next wanted =>
                  have backed : t.isRolloverBacked = true := (Bool.and_eq_true_iff.mp wanted).2
                  rw [Repository.rolloverTrigger_of_backed found backed]
                  obtain ⟨owners, sound⟩ := sound
                  exact ih _ _ ⟨_, take_sound sound ⟨t, _, paced name t found⟩⟩
              · exact ih s _ sound

end Service

/-! ## The types of a deployment -/

theorem exists_forall₂ {α β : Type} {related : α → β → Prop} {xs : List α}
    (each : ∀ x ∈ xs, ∃ y, related x y) : ∃ ys, List.Forall₂ related xs ys := by
  induction xs with
  | nil => exact ⟨[], .nil⟩
  | cons x xs ih =>
      obtain ⟨⟨y, first⟩, others⟩ := List.forall_mem_cons.mp each
      obtain ⟨ys, rest⟩ := ih others
      exact ⟨y :: ys, .cons first rest⟩

theorem mapM_eq_ok {α β ε : Type} {f : α → Except ε β} {xs : List α} {ys : List β}
    (each : List.Forall₂ (fun x y => f x = .ok y) xs ys) : xs.mapM f = .ok ys := by
  induction each with
  | nil => rfl
  | cons first _ ih =>
      rw [List.mapM_cons, first, ih]
      rfl

namespace Registry

variable {env : Environment} {configs : List TypeConfig} {r : Registry}

theorem find?_own (distinct : (configs.map TypeConfig.name).Nodup) {config : TypeConfig} (listed : config ∈ configs) :
    (configs.find? fun other => other.name = config.name) = some config := by
  have present : (configs.find? fun other => other.name = config.name).isSome = true :=
    List.find?_isSome.mpr ⟨config, listed, by simp⟩
  obtain ⟨other, found⟩ := Option.isSome_iff_exists.mp present
  have same : other.name = config.name := by simpa using List.find?_some found
  rw [found, List.inj_on_of_nodup_map distinct (List.mem_of_find?_eq_some found) listed same]

theorem builtAnew_own (distinct : (configs.map TypeConfig.name).Nodup) {config : TypeConfig}
    (listed : config ∈ configs) : builtAnew env configs config.name = DocumentType.build env config := by
  rw [builtAnew, find?_own distinct listed]

theorem Current.sorted (current : Current env configs r) (distinct : (configs.map TypeConfig.name).Nodup) :
    (r.configs.map Prod.snd).Perm configs ∧ (r.configs.map Prod.snd).map TypeConfig.name = r.names ∧
      r.names.Pairwise (· < ·) := by
  have own : ∀ entry ∈ r.configs, entry.2 ∈ configs ∧ entry.2.name = entry.1 := by
    intro entry listed
    have found := current.latest entry.1
    rw [current.ordered.find?_of_mem listed] at found
    exact ⟨List.mem_of_find?_eq_some found.symm, by simpa using List.find?_some found.symm⟩
  have names : (r.configs.map Prod.snd).map TypeConfig.name = r.names := by
    rw [List.map_map]
    exact List.map_congr_left fun entry listed => (own entry listed).2
  have increasing : r.names.Pairwise (· < ·) := List.pairwise_map.mpr current.ordered
  -- The keys are the names, in order and each only once.
  have once : ((r.configs.map Prod.snd).map TypeConfig.name).Nodup := by
    rw [names]
    exact current.ordered.keys_nodup
  refine ⟨(List.perm_ext_iff_of_nodup once.of_map distinct.of_map).mpr fun config => ?_, names, increasing⟩
  constructor
  · intro listed
    obtain ⟨entry, stored, rfl⟩ := List.mem_map.mp listed
    exact (own entry stored).1
  · intro listed
    have kept := current.latest config.name
    rw [find?_own distinct listed] at kept
    exact List.mem_map.mpr ⟨_, Dict.mem_of_find? kept, rfl⟩

end Registry

namespace Deployment

variable (d : Deployment) (process : Dict String)

theorem registry_current : Registry.Current (d.environment process) d.documentTypes.reverse (d.registry process) := by
  have current := Registry.after_current (d.environment process) (d.documentTypes.map .register)
  have described : Registry.described (d.documentTypes.map .register) = d.documentTypes.reverse := by
    rw [Registry.described, List.filterMap_map]
    exact congrArg List.reverse List.filterMap_some
  have same : (Registry.empty (d.environment process)).after (d.documentTypes.map .register) = d.registry process :=
    List.foldl_map
  rwa [described, same] at current

variable {d process}

theorem repository_steps {r : Repository} (made : d.repository process = .ok r) :
    Registry.Current (d.environment process) d.documentTypes.reverse r.registry ∧
      d.scheduler.defaultSchedule = .ok r.defaultSchedule := by
  have current := ((d.registry_current process).getEach (d.registry process).names).2
  rw [repository] at made
  cases checked : (d.registry process).validateAll with
  | mk outcome registry =>
      rw [← Registry.validateAll, checked] at current
      rw [checked] at made
      cases outcome with
      | error e => cases made
      | ok types =>
          cases read : d.scheduler.defaultSchedule with
          | error e =>
              rw [read] at made
              cases made
          | ok schedule =>
              rw [read] at made
              cases made
              exact ⟨current, rfl⟩

theorem repository_paced {r : Repository} (made : d.repository process = .ok r) : r.Paced := by
  obtain ⟨current, read⟩ := repository_steps made
  intro name t found
  -- Both the schedule of a type and the default have been read from a text.
  cases own : t.rolloverSchedule with
  | none => exact Schedule.parse_interval read
  | some schedule =>
      have built := (Repository.find_eq_ok_iff current).mp found
      rw [Registry.builtAnew] at built
      split at built
      · exact (DocumentType.build_checked built).schedule schedule own
      · cases built

theorem repository_of_valid (distinct : (d.documentTypes.map TypeConfig.name).Nodup)
    (valid : ∀ config ∈ d.documentTypes, ∃ t, DocumentType.build (d.environment process) config = .ok t)
    {schedule : Schedule} (read : d.scheduler.defaultSchedule = .ok schedule) :
    ∃ r, d.repository process = .ok r := by
  have current := d.registry_current process
  have names : ∀ name ∈ (d.registry process).names, ∃ t,
      Registry.builtAnew (d.environment process) d.documentTypes.reverse name = .ok t := by
    intro name listed
    obtain ⟨config, there, rfl⟩ := current.mem_names_iff.mp listed
    rw [Registry.builtAnew_own (by rwa [List.map_reverse, List.nodup_reverse]) there]
    exact valid config (List.mem_reverse.mp there)
  obtain ⟨types, each⟩ := exists_forall₂ names
  have checked : (d.registry process).validateAll.1 = .ok types := (current.getEach _).1.trans (mapM_eq_ok each)
  refine ⟨⟨(d.registry process).validateAll.2, .renaming, schedule⟩, ?_⟩
  rw [repository]
  cases outcome : (d.registry process).validateAll with
  | mk answered registry =>
      obtain rfl : answered = .ok types := by rw [← checked, outcome]
      rw [read]
      rfl

/-- The types that are built from descriptions, in the order of the names these go by. -/
structure Sorted (d : Deployment) (process : Dict String) (configs : List TypeConfig) (types : List DocumentType) :
    Prop where
  all : configs.Perm d.documentTypes
  increasing : (configs.map TypeConfig.name).Pairwise (· < ·)
  built : List.Forall₂ (fun config t => DocumentType.build (d.environment process) config = .ok t) configs types

theorem repository_sorted {r : Repository} (made : d.repository process = .ok r)
    (distinct : (d.documentTypes.map TypeConfig.name).Nodup)
    (valid : ∀ config ∈ d.documentTypes, ∃ t, DocumentType.build (d.environment process) config = .ok t) :
    ∃ configs types, Sorted d process configs types ∧ r.Knows r.registry.names types := by
  obtain ⟨current, -⟩ := repository_steps made
  have differ : (d.documentTypes.reverse.map TypeConfig.name).Nodup := by rwa [List.map_reverse, List.nodup_reverse]
  obtain ⟨reordered, names, increasing⟩ := current.sorted differ
  have all := reordered.trans (List.reverse_perm _)
  -- Each type is built and found at once, so that both lists of types are the same.
  have each : ∀ config ∈ r.registry.configs.map Prod.snd, ∃ t,
      DocumentType.build (d.environment process) config = .ok t ∧ r.find config.name = .ok t := by
    intro config listed
    obtain ⟨t, built⟩ := valid config (all.mem_iff.mp listed)
    refine ⟨t, built, (Repository.find_eq_ok_iff current).mpr ?_⟩
    rw [Registry.builtAnew_own differ (reordered.mem_iff.mp listed), built]
  obtain ⟨types, related⟩ := exists_forall₂ each
  refine ⟨_, types, ⟨all, names ▸ increasing, related.imp fun _ _ both => both.1⟩, ?_⟩
  rw [Repository.Knows, ← names, List.forall₂_map_left_iff]
  exact related.imp fun _ _ both => both.2

/-! ## Start-up and shutdown -/

/-- What a deployment does before it waits. -/
def startUp (d : Deployment) (process : Dict String) (wall : Nat → Instant) :
    Program (Except Failure Unit × Service) :=
  match d.repository process with
  | .error f => return (.error f, .empty wall)
  | .ok r => Service.startAll r d.scheduler.enabled r.registry.names (.empty wall)

variable {wall : Nat → Instant} {w after : σ} {s : Service}

theorem serve_of_started (started : (d.startUp process wall).conduct answer w = ((.ok (), s), after))
    (lasting : Duration) :
    (d.serve process wall lasting).conduct answer w =
      ((.ok (), ((s.pass lasting).conduct answer after).1.unregisterAll.2), ((s.pass lasting).conduct answer after).2) := by
  rw [startUp] at started
  rw [serve]
  cases made : d.repository process with
  | error f =>
      rw [made] at started
      cases started
  | ok r =>
      rw [made] at started
      simp only [Service.serve, Dialogue.bind_eq, Dialogue.conduct_bind, started, Dialogue.pure_eq_done,
        Dialogue.conduct_done]

theorem serve_of_failed {f : Failure} (failed : (d.startUp process wall).conduct answer w = ((.error f, s), after))
    (lasting : Duration) :
    (d.serve process wall lasting).conduct answer w = ((.error f, s.unregisterAll.2), after) := by
  rw [startUp] at failed
  rw [serve]
  cases made : d.repository process with
  | error f =>
      rw [made] at failed
      cases failed
      rfl
  | ok r =>
      rw [made] at failed
      simp only [Service.serve, Dialogue.bind_eq, Dialogue.conduct_bind, failed, Dialogue.pure_eq_done,
        Dialogue.conduct_done]

theorem startUp_sound (answer : (c : Call) → σ → Except Fault c.Reply × σ) (d : Deployment) (process : Dict String)
    (wall : Nat → Instant) (w : σ) :
    ∃ owners, ((d.startUp process wall).conduct answer w).1.2.scheduler.Sound owners := by
  rw [startUp]
  cases made : d.repository process with
  | error f => exact ⟨[], Sound.empty wall⟩
  | ok r => exact Service.startAll_sound (repository_paced made) _ _ _ w ⟨[], Sound.empty wall⟩

theorem serve_atRest (d : Deployment) (process : Dict String) (wall : Nat → Instant) (lasting : Duration) (w : σ) :
    ((d.serve process wall lasting).conduct answer w).1.2.AtRest := by
  obtain ⟨owners, sound⟩ := d.startUp_sound answer process wall w
  cases ended : (d.startUp process wall).conduct answer w with
  | mk outcome after =>
      obtain ⟨result, s⟩ := outcome
      rw [ended] at sound
      cases result with
      | error f =>
          rw [serve_of_failed ended]
          exact Service.unregisterAll_atRest sound
      | ok =>
          rw [serve_of_started ended]
          have passed := (Service.pass_keeps answer s lasting after).1
          exact Service.unregisterAll_atRest (passed ▸ sound.perform (.pass lasting))

/-- A deployment that has got every type ready. -/
structure Launched (answer : (c : Call) → σ → Except Fault c.Reply × σ) (d : Deployment) (process : Dict String)
    (wall : Nat → Instant) (default : Schedule) (w : σ) (types : List DocumentType) (charges : List Charge)
    (s : Service) (after : σ) : Prop where
  started : (d.startUp process wall).conduct answer w = ((.ok (), s), after)
  /-- There is a charge for every type with a series, on its own schedule or else the default. -/
  charged : charges.map Charge.type = types.filter DocumentType.isRolloverBacked
  scheduled : ∀ c ∈ charges, c.schedule = c.type.rolloverSchedule.getD default
  /-- Until it is told to stop, it has the jobs of the charges and ticks their series. -/
  waits : ∀ lasting, s.Waits answer wall charges after lasting
  served : ∀ lasting, (d.serve process wall lasting).conduct answer w =
    ((.ok (), ((s.pass lasting).conduct answer after).1.unregisterAll.2), ((s.pass lasting).conduct answer after).2)

theorem startUp_ready (wall : Nat → Instant) {r : Repository} {types : List DocumentType}
    (enabled : d.scheduler.enabled = true) (made : d.repository process = .ok r)
    (knows : r.Knows r.registry.names types) (boots : r.Boots answer r.registry.names w) :
    ∃ after, (d.startUp process wall).conduct answer w =
      ((.ok (), (types.filterMap r.charge?).foldl Service.take (.empty wall)), after) := by
  rw [startUp, made, enabled]
  exact Service.startAll_ready knows (repository_paced made) boots (.empty wall)

/-- If every type is valid and every bootstrap succeeds, a deployment waits with its charges. -/
theorem exists_launched (wall : Nat → Instant) {default : Schedule} {r : Repository} {types : List DocumentType}
    (enabled : d.scheduler.enabled = true) (read : d.scheduler.defaultSchedule = .ok default)
    (made : d.repository process = .ok r) (knows : r.Knows r.registry.names types)
    (boots : r.Boots answer r.registry.names w) :
    ∃ charges s after, Launched answer d process wall default w types charges s after := by
  have same : r.defaultSchedule = default := Except.ok.inj ((repository_steps made).2.symm.trans read)
  obtain ⟨charged, scheduled⟩ := knows.charges (repository_paced made)
  obtain ⟨after, started⟩ := startUp_ready wall enabled made knows boots
  have tends := (Service.tends_empty wall).takeAll (types.filterMap r.charge?)
  exact ⟨_, _, after, started, charged, same ▸ scheduled, fun lasting => tends.waits lasting after,
    serve_of_started started⟩

/-- The name of a type is what its name as written resolves to, and its job goes by the resolved one.
So when every type is valid and gets ready, the jobs that are held until the end are one for each
type with a series exactly if no two of these have the same resolved name; of types that have, the
last one in the order of the names as written has the job. However a deployment ends, it leaves no
job that fires again. -/
theorem one_job_for_each_resolved_name (answer : (c : Call) → σ → Except Fault c.Reply × σ) (d : Deployment)
    (process : Dict String) (wall : Nat → Instant) (w : σ) :
    (d.scheduler.enabled = true → (d.documentTypes.map TypeConfig.name).Nodup →
      (∀ config ∈ d.documentTypes, ∃ t, DocumentType.build (d.environment process) config = .ok t) →
      ∀ default, d.scheduler.defaultSchedule = .ok default →
      (∀ r, d.repository process = .ok r → r.Boots answer r.registry.names w) →
      ∃ configs types charges s after, Sorted d process configs types ∧
        Launched answer d process wall default w types charges s after ∧
        ∀ lasting, ((s.pass lasting).conduct answer after).1.ticked.Perm (types.filter DocumentType.isRolloverBacked) ↔
          ((types.filter DocumentType.isRolloverBacked).map DocumentType.name).Nodup) ∧
    ∀ lasting, ((d.serve process wall lasting).conduct answer w).1.2.AtRest := by
  refine ⟨fun enabled distinct valid default read boots => ?_, fun lasting => d.serve_atRest process wall lasting w⟩
  obtain ⟨r, made⟩ := repository_of_valid distinct valid read
  obtain ⟨configs, types, sorted, knows⟩ := repository_sorted made distinct valid
  obtain ⟨charges, s, after, launched⟩ := exists_launched wall enabled read made knows (boots r made)
  refine ⟨configs, types, charges, s, after, sorted, launched, fun lasting => ?_⟩
  rw [← launched.charged, List.map_map]
  exact (launched.waits lasting).keeps.ticked_perm_iff

/-! ## Two series and one name -/

theorem Sorted.types_perm {configs : List TypeConfig} {types others : List DocumentType}
    (sorted : Sorted d process configs types)
    (built : List.Forall₂ (fun config t => DocumentType.build (d.environment process) config = .ok t) d.documentTypes
      others) : types.Perm others := by
  obtain ⟨again, reordered, same⟩ := List.perm_comp_forall₂ sorted.all built
  have once : Relator.RightUnique fun config t => DocumentType.build (d.environment process) config = .ok t :=
    fun _ _ _ first second => Except.ok.inj (first.symm.trans second)
  exact List.right_unique_forall₂' once sorted.built reordered ▸ same

/-- A series that goes on every second. -/
def pulseConfig (name writeAlias : String) : TypeConfig where
  name := name
  indexName := some writeAlias
  aliasName := none
  timePattern := none
  timeField := none
  rollover := some {
    writeAlias := writeAlias
    readAlias := none
    indexPrefix := none
    maxAge := some "0s"
    maxDocs := none
    maxSize := none
    schedule := none }
  settings := .none
  relation := none
  fields := []

def pulse (name writeAlias : String) : DocumentType where
  name := name
  indexName := writeAlias
  aliasName := none
  addressing := .rollover ⟨writeAlias, none, writeAlias⟩ ⟨some .zero, none, none⟩
  relation := .none
  settings := .none
  fields := []
  roles := []
  rolloverSchedule := none

/-- Two series, one of them with a name that is left to a property. -/
def pulses (kind : String) : Deployment where
  cluster := .default
  properties := [("kind", kind)]
  scheduler := ⟨true, "@every 1s"⟩
  documentTypes := [pulseConfig "$\x7bkind\x7d" "a", pulseConfig "Log" "b"]

def pulseProgram (kind : String) : Repository where
  registry := {
    env := (pulses kind).environment []
    configs := [("$\x7bkind\x7d", pulseConfig "$\x7bkind\x7d" "a"), ("Log", pulseConfig "Log" "b")]
    built := [("$\x7bkind\x7d", pulse kind "a"), ("Log", pulse "Log" "b")] }
  mapper := .renaming
  defaultSchedule := ⟨.every (.ofSecs 1), none⟩

theorem pulses_schedule (kind : String) :
    (pulses kind).scheduler.defaultSchedule = .ok ⟨.every (.ofSecs 1), none⟩ := by
  have read : Schedule.parse "@every 1s" = .ok ⟨.every (.ofSecs 1), none⟩ := by decide +kernel
  exact read

theorem pulses_repository (kind : String)
    (valid : ((pulses kind).registry []).validateAll =
      (.ok [pulse kind "a", pulse "Log" "b"], (pulseProgram kind).registry)) :
    (pulses kind).repository [] = .ok (pulseProgram kind) := by
  rw [repository, valid, pulses_schedule]
  rfl

theorem pulses_boot {kind : String} (made : (pulses kind).repository [] = .ok (pulseProgram kind))
    (named : kind = "Audit" ∨ kind = "Log") :
    ∀ r, (pulses kind).repository [] = .ok r → r.Boots (Memory.answer ⟨0, 0⟩) r.registry.names .empty := by
  have given : ∀ {result : Except Failure (Option String)} {created : Option String},
      result.toOption = some created → ∃ created, result = .ok created := by
    rintro (e | made) created same
    · cases same
    · exact ⟨made, rfl⟩
  intro r same
  obtain rfl := Except.ok.inj (made.symm.trans same)
  -- The kernel runs the bootstraps, so the kind has to be one name or the other here.
  have first : (((pulseProgram kind).bootstrap "$\x7bkind\x7d").run.conduct (Memory.answer ⟨0, 0⟩)
      .empty).1.toOption = some (some "a-000001") := by
    rcases named with rfl | rfl <;> decide +kernel
  have second : (((pulseProgram kind).bootstrap "Log").run.conduct (Memory.answer ⟨0, 0⟩)
      (((pulseProgram kind).bootstrap "$\x7bkind\x7d").run.conduct (Memory.answer ⟨0, 0⟩) .empty).2).1.toOption =
        some (some "b-000001") := by
    rcases named with rfl | rfl <;> decide +kernel
  exact ⟨given first, given second, trivial⟩

/-- Where the property makes the names differ, each series has its job until the end. -/
theorem apart_have_a_job_each :
    (pulses "Audit").scheduler.enabled = true ∧ ((pulses "Audit").documentTypes.map TypeConfig.name).Nodup ∧
      ∃ s after, ((pulses "Audit").startUp [] fun _ => ⟨0, 0⟩).conduct (Memory.answer ⟨0, 0⟩) .empty = ((.ok (), s), after) ∧
        ∀ lasting, ((s.pass lasting).conduct (Memory.answer ⟨0, 0⟩) after).1.ticked.Perm
            [pulse "Audit" "a", pulse "Log" "b"] ∧
          (((pulses "Audit").serve [] (fun _ => ⟨0, 0⟩) lasting).conduct (Memory.answer ⟨0, 0⟩) .empty).1.2.AtRest := by
  have distinct : ((pulses "Audit").documentTypes.map TypeConfig.name).Nodup := by decide
  have first : DocumentType.build ((pulses "Audit").environment []) (pulseConfig "$\x7bkind\x7d" "a") =
      .ok (pulse "Audit" "a") := by rfl
  have second : DocumentType.build ((pulses "Audit").environment []) (pulseConfig "Log" "b") =
      .ok (pulse "Log" "b") := by rfl
  have made : (pulses "Audit").repository [] = .ok (pulseProgram "Audit") := pulses_repository "Audit" (by rfl)
  obtain ⟨launches, rests⟩ :=
    one_job_for_each_resolved_name (Memory.answer ⟨0, 0⟩) (pulses "Audit") [] (fun _ => ⟨0, 0⟩) .empty
  obtain ⟨configs, types, charges, s, after, sorted, launched, each⟩ :=
    launches rfl distinct (List.forall_mem_cons.mpr ⟨⟨_, first⟩, List.forall_mem_singleton.mpr ⟨_, second⟩⟩) _
      (pulses_schedule "Audit") (pulses_boot made (.inl rfl))
  have series := (sorted.types_perm (.cons first (.cons second .nil))).filter DocumentType.isRolloverBacked
  have apart : ((types.filter DocumentType.isRolloverBacked).map DocumentType.name).Nodup :=
    (series.map DocumentType.name).nodup_iff.mpr (by decide)
  exact ⟨rfl, distinct, s, after, launched.started, fun lasting =>
    ⟨((each lasting).mpr apart).trans series, rests lasting⟩⟩

/-- Where the property makes both names the same, one job is held, that of the second series. -/
theorem alike_share_a_job :
    (pulses "Log").scheduler.enabled = true ∧ ((pulses "Log").documentTypes.map TypeConfig.name).Nodup ∧
      List.Forall₂ (fun config t => DocumentType.build ((pulses "Log").environment []) config = .ok t)
        (pulses "Log").documentTypes [pulse "Log" "a", pulse "Log" "b"] ∧
      (∀ r, (pulses "Log").repository [] = .ok r → r.Boots (Memory.answer ⟨0, 0⟩) r.registry.names .empty) ∧
      ∃ s after, ((pulses "Log").startUp [] fun _ => ⟨0, 0⟩).conduct (Memory.answer ⟨0, 0⟩) .empty = ((.ok (), s), after) ∧
        ∀ lasting, ((s.pass lasting).conduct (Memory.answer ⟨0, 0⟩) after).1.ticked = [pulse "Log" "b"] := by
  have distinct : ((pulses "Log").documentTypes.map TypeConfig.name).Nodup := by decide
  have made : (pulses "Log").repository [] = .ok (pulseProgram "Log") := pulses_repository "Log" (by rfl)
  have boots := pulses_boot made (.inr rfl)
  have knows : (pulseProgram "Log").Knows (pulseProgram "Log").registry.names [pulse "Log" "a", pulse "Log" "b"] :=
    .cons (by rfl) (.cons (by rfl) .nil)
  obtain ⟨after, started⟩ := startUp_ready (fun _ => ⟨0, 0⟩) rfl made knows (boots _ made)
  refine ⟨rfl, distinct, .cons (by rfl) (.cons (by rfl) .nil), boots, _, after, started, fun lasting => ?_⟩
  rw [Service.ticked_pass]
  rfl

end Deployment

end DocMapper
