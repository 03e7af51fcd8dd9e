import DocMapper.Proofs.SchedulerSessions
import DocMapper.Service
import Mathlib.Data.List.Induction
import Mathlib.Data.List.Nodup
/-!
The jobs of a service. A service is given series to keep going, one after the other, and has a job
for each, unless a later one has the same key and takes it away. While time passes the triggers of
the jobs remember how they went, and nothing else of them changes. Once every job has been
cancelled none is left that fires, whatever the service was about.
-/

namespace DocMapper

open Scheduler (Sound Request perform performAll happenedTo)

/-- A series that is to be kept going, on a schedule that is not always due. -/
structure Charge where
  type : DocumentType
  schedule : Schedule
  paced : schedule.interval? ≠ some .zero

namespace Charge

def trigger (c : Charge) : RolloverTrigger := ⟨c.type, c.schedule, none⟩

def key (c : Charge) : TriggerKey := c.trigger.key

/-- What a trigger does takes no time of its job. -/
def work (c : Charge) : Scheduler.Trigger where
  schedule := c.schedule
  firings _ := ⟨.zero, false⟩
  paced := c.paced

/-- The job that keeps the series going from the start of the scheduler on. -/
def job (c : Charge) (wall : Nat → Instant) : Job :=
  Job.start wall 0 c.schedule c.work.firings

/-- A charge at its place in a list, when none behind it has its key. -/
def LastAt (c : Charge) (n : Nat) (charges : List Charge) : Prop :=
  ∃ earlier later, charges = earlier ++ c :: later ∧ earlier.length = n ∧ ∀ other ∈ later, other.key ≠ c.key

section LastAt

variable {c d : Charge} {n : Nat} {charges : List Charge}

theorem LastAt.getElem? (last : c.LastAt n charges) : charges[n]? = some c := by
  obtain ⟨earlier, later, rfl, rfl, -⟩ := last
  simp

theorem LastAt.owner (last : c.LastAt n charges) : (charges.map key)[n]? = some c.key := by
  rw [List.getElem?_map, last.getElem?]
  rfl

theorem lastAt_snoc : c.LastAt n (charges ++ [d]) ↔ c = d ∧ n = charges.length ∨ c.LastAt n charges ∧ d.key ≠ c.key := by
  constructor
  · rintro ⟨earlier, later, same, rfl, others⟩
    rcases List.eq_nil_or_concat later with rfl | ⟨front, final, rfl⟩
    · obtain ⟨rfl, only⟩ := List.append_inj' same rfl
      cases only
      exact .inl ⟨rfl, rfl⟩
    · rw [List.concat_eq_append, ← List.cons_append, ← List.append_assoc] at same
      obtain ⟨rfl, only⟩ := List.append_inj' same rfl
      cases only
      rw [List.concat_eq_append, List.forall_mem_append] at others
      exact .inr ⟨⟨earlier, front, rfl, rfl, others.1⟩, others.2 d List.mem_cons_self⟩
  · rintro (⟨rfl, rfl⟩ | ⟨⟨earlier, later, rfl, rfl, others⟩, different⟩)
    · exact ⟨charges, [], rfl, rfl, fun _ none => by cases none⟩
    · refine ⟨earlier, later ++ [d], by simp, rfl, List.forall_mem_append.mpr ⟨others, ?_⟩⟩
      exact fun other final => List.mem_singleton.mp final ▸ different

end LastAt

end Charge

namespace Service

variable {wall : Nat → Instant} {charges : List Charge} {s : Service} {c : Charge} {n : Nat} {d : Duration}

/-! ## Taking charge -/

def take (s : Service) (c : Charge) : Service :=
  s.register c.type c.schedule

theorem take_scheduler (s : Service) (c : Charge) : (s.take c).scheduler = (s.scheduler.perform (.start c.key c.work)).2 :=
  rfl

theorem take_triggers (s : Service) (c : Charge) : (s.take c).triggers = s.triggers ++ [c.trigger] :=
  rfl

theorem take_sound {owners : List TriggerKey} (sound : s.scheduler.Sound owners) (c : Charge) :
    (s.take c).scheduler.Sound (owners ++ [c.key]) :=
  sound.perform (.start c.key c.work)

/-- A service that has been given charges, before any time has passed. -/
structure Tends (wall : Nat → Instant) (charges : List Charge) (s : Service) : Prop where
  triggers : s.triggers = charges.map Charge.trigger
  sound : s.scheduler.Sound (charges.map Charge.key)
  reads : s.scheduler.wall = wall
  unbegun : s.scheduler.now = 0
  held : ∀ key n, (key, n) ∈ s.scheduler.registered ↔ ∃ c : Charge, c.key = key ∧ c.LastAt n charges
  fresh : ∀ c n, Charge.LastAt c n charges → s.scheduler.jobs[n]? = some (c.job wall)

theorem tends_empty (wall : Nat → Instant) : Tends wall [] (empty wall) where
  triggers := rfl
  sound := Sound.empty wall
  reads := rfl
  unbegun := rfl
  held key n := by
    refine iff_of_false (by rintro ⟨⟩) ?_
    rintro ⟨c, -, last⟩
    simpa using last.getElem?
  fresh c n last := by simpa using last.getElem?

theorem perform_start_job (s : Scheduler) (key : TriggerKey) (trigger : Scheduler.Trigger) :
    (s.perform (.start key trigger)).2.jobs[s.jobs.length]? =
      some (Job.start s.wall s.now trigger.schedule trigger.firings) := by
  rw [← Scheduler.stop_length s key]
  simp [perform, Scheduler.start, Scheduler.stop_wall, Scheduler.stop_now]

theorem Tends.take (tends : Tends wall charges s) (c : Charge) : Tends wall (charges ++ [c]) (s.take c) := by
  have count : charges.length = s.scheduler.jobs.length := by simpa using tends.sound.all
  exact {
    triggers := by rw [take_triggers, tends.triggers, List.map_append, List.map_singleton]
    sound := by
      rw [List.map_append, List.map_singleton]
      exact take_sound tends.sound c
    reads := by rw [take_scheduler, Scheduler.perform_wall, tends.reads]
    unbegun := by rw [take_scheduler, Scheduler.perform_now, tends.unbegun]; rfl
    held := fun key n => by
      rw [take_scheduler, Scheduler.mem_registered_perform, tends.held, ← count]
      simp only [Charge.lastAt_snoc, Request.opens, List.mem_singleton, Request.retires, decide_eq_false_iff_not]
      constructor
      · rintro (⟨rfl, rfl⟩ | ⟨⟨other, rfl, last⟩, different⟩)
        · exact ⟨c, rfl, .inl ⟨rfl, rfl⟩⟩
        · exact ⟨other, rfl, .inr ⟨last, different⟩⟩
      · rintro ⟨other, rfl, ⟨rfl, rfl⟩ | ⟨last, different⟩⟩
        · exact .inl ⟨rfl, rfl⟩
        · exact .inr ⟨⟨other, rfl, last⟩, different⟩
    fresh := fun other n last => by
      rcases Charge.lastAt_snoc.mp last with ⟨rfl, rfl⟩ | ⟨before, different⟩
      · rw [take_scheduler, count, perform_start_job, tends.reads, tends.unbegun]
        rfl
      · -- A start cancels the job of its own key and no other.
        have kept := (tends.sound.perform_job before.owner (tends.fresh other n before) (.start c.key c.work)).1
        rw [take_scheduler]
        simpa [Request.act, Request.retires, different] using kept }

theorem Tends.takeAll (tends : Tends wall charges s) (more : List Charge) :
    Tends wall (charges ++ more) (more.foldl Service.take s) := by
  induction more generalizing charges s with
  | nil => simpa using tends
  | cons c more ih => simpa using ih (tends.take c)

/-! ## Waiting -/

/-- What does not change about a trigger. -/
def duty (t : RolloverTrigger) : DocumentType × Schedule := (t.type, t.schedule)

theorem remember_duties (s : Service) (job : Nat) (outcome : Except RolloverError RolloverReport) :
    (s.remember job outcome).triggers.map duty = s.triggers.map duty := by
  refine List.ext_getElem? fun n => ?_
  rw [remember, List.getElem?_map, List.getElem?_map, List.getElem?_modify]
  cases s.triggers[n]? with
  | none => rfl
  | some trigger => by_cases here : job = n <;> simp [here, duty]

theorem type_of_duties {triggers : List RolloverTrigger} {duties : List (DocumentType × Schedule)}
    (same : triggers.map duty = duties) (n : Nat) :
    triggers[n]?.map RolloverTrigger.type = duties[n]?.map Prod.fst := by
  rw [← same, List.getElem?_map, Option.map_map]
  rfl

section Passing

variable {σ : Type} (answer : (c : Call) → σ → Except Fault c.Reply × σ)

theorem fireAll_keeps (jobs : List Nat) (s : Service) (w : σ) :
    ((fireAll jobs s).conduct answer w).1.scheduler = s.scheduler ∧
      ((fireAll jobs s).conduct answer w).1.triggers.map duty = s.triggers.map duty := by
  induction jobs generalizing s w with
  | nil => exact ⟨rfl, rfl⟩
  | cons job rest ih =>
      rw [fireAll]
      cases s.triggers[job]? with
      | none => exact ih s w
      | some trigger =>
          simp only [fire, Dialogue.bind_eq, Dialogue.conduct_bind, Dialogue.pure_eq_done, Dialogue.conduct_done]
          obtain ⟨scheduler, duties⟩ := ih (s.remember job _) _
          exact ⟨scheduler, duties.trans (remember_duties s job _)⟩

/-- Time passes for the scheduler, and the triggers stay what they are. -/
theorem pass_keeps (s : Service) (d : Duration) (w : σ) :
    ((s.pass d).conduct answer w).1.scheduler = (s.scheduler.perform (.pass d)).2 ∧
      ((s.pass d).conduct answer w).1.triggers.map duty = s.triggers.map duty :=
  fireAll_keeps answer _ _ w

end Passing

/-- Ticks the series of types in turn. -/
def tickEach : List DocumentType → Program Unit
  | [] => return ()
  | t :: rest => do
      let _ ← (Rollover.tick t).run
      tickEach rest

/-- What a service does about the firings that have begun is to tick the series of the triggers. -/
theorem fireAll_ticks {σ : Type} {answer : (c : Call) → σ → Except Fault c.Reply × σ} (jobs : List Nat) (s : Service)
    (w : σ) :
    ((fireAll jobs s).conduct answer w).2 =
      ((tickEach (jobs.filterMap fun n => s.triggers[n]?.map RolloverTrigger.type)).conduct answer w).2 := by
  induction jobs generalizing s w with
  | nil => rfl
  | cons job rest ih =>
      rw [fireAll, List.filterMap_cons]
      cases found : s.triggers[job]? with
      | none => exact ih s w
      | some trigger =>
          -- What the trigger remembers is not its type, so the others are found as before.
          have types (outcome : Except RolloverError RolloverReport) (n : Nat) :
              (s.remember job outcome).triggers[n]?.map RolloverTrigger.type = s.triggers[n]?.map RolloverTrigger.type :=
            (type_of_duties (remember_duties s job outcome) n).trans (type_of_duties rfl n).symm
          simp only [fire, tickEach, Option.map_some, Dialogue.bind_eq, Dialogue.conduct_bind, Dialogue.pure_eq_done,
            Dialogue.conduct_done, ih, types]

theorem exists_of_mem_begun {events : List SchedulerEvent} (fires : n ∈ begun events) :
    ∃ instant, (instant, JobEvent.began) ∈ happenedTo n events := by
  obtain ⟨e, listed, rfl⟩ := List.mem_map.mp fires
  obtain ⟨there, began⟩ := List.mem_filter.mp listed
  refine ⟨e.instant, List.mem_map.mpr ⟨e, List.mem_filter.mpr ⟨there, by simp⟩, ?_⟩⟩
  rw [of_decide_eq_true began]

/-- What a service holds some time after it has been given charges. -/
structure Keeps (wall : Nat → Instant) (charges : List Charge) (lasting : Duration) (s : Service) : Prop where
  duties : s.triggers.map duty = charges.map fun c => (c.type, c.schedule)
  keysOnce : (s.scheduler.registered.map Prod.fst).Nodup
  /-- A key has one job, that of the last charge with it. -/
  held : ∀ key n, s.scheduler.jobOf? key = some n ↔ ∃ c : Charge, c.key = key ∧ c.LastAt n charges
  /-- It has come as far as its schedule takes it in the time. -/
  lives : ∀ c n, Charge.LastAt c n charges →
    s.scheduler.jobs[n]? = some ((c.job wall).advance wall lasting.nanos).2

/-- What becomes of a service with charges while it waits, and what it does to the engine. -/
structure Waits {σ : Type} (answer : (c : Call) → σ → Except Fault c.Reply × σ) (wall : Nat → Instant)
    (charges : List Charge) (s : Service) (w : σ) (lasting : Duration) : Prop where
  keeps : Keeps wall charges lasting ((s.pass lasting).conduct answer w).1
  /-- The jobs that are held fire as their schedules have it, and no others do. -/
  fires : ∀ c n, Charge.LastAt c n charges →
    happenedTo n (s.scheduler.advance lasting).1 = ((c.job wall).advance wall lasting.nanos).1
  alone : ∀ n ∈ begun (s.scheduler.advance lasting).1, ∃ c, Charge.LastAt c n charges
  /-- With every firing the series of its charge is ticked. -/
  ticks : ((s.pass lasting).conduct answer w).2 =
    ((tickEach ((begun (s.scheduler.advance lasting).1).filterMap fun n => charges[n]?.map Charge.type)).conduct
      answer w).2

section Waiting

variable {σ : Type} {answer : (c : Call) → σ → Except Fault c.Reply × σ}

theorem Tends.type_of_trigger (tends : Tends wall charges s) (n : Nat) :
    s.triggers[n]?.map RolloverTrigger.type = charges[n]?.map Charge.type := by
  rw [tends.triggers, List.getElem?_map, Option.map_map]
  rfl

theorem Tends.passes (tends : Tends wall charges s) (lasting : Duration) {c : Charge} {n : Nat}
    (last : c.LastAt n charges) :
    (s.scheduler.advance lasting).2.jobs[n]? = some ((c.job wall).advance wall lasting.nanos).2 ∧
      happenedTo n (s.scheduler.advance lasting).1 = ((c.job wall).advance wall lasting.nanos).1 := by
  have lives := tends.sound.perform_job last.owner (tends.fresh c n last) (.pass lasting)
  rwa [Request.act, tends.reads, tends.unbegun, Nat.zero_add] at lives

theorem Tends.alone (tends : Tends wall charges s) (lasting : Duration) (fires : n ∈ begun (s.scheduler.advance lasting).1) :
    ∃ c, Charge.LastAt c n charges := by
  obtain ⟨instant, began⟩ := exists_of_mem_begun fires
  have count : (charges.map Charge.key).length = s.scheduler.jobs.length := tends.sound.all
  rcases Nat.lt_or_ge n (charges.map Charge.key).length with inside | outside
  · obtain ⟨key, owner⟩ : ∃ key, (charges.map Charge.key)[n]? = some key := ⟨_, List.getElem?_eq_getElem inside⟩
    obtain ⟨j, listed⟩ : ∃ j, s.scheduler.jobs[n]? = some j := ⟨_, List.getElem?_eq_getElem (count ▸ inside)⟩
    by_cases registered : (key, n) ∈ s.scheduler.registered
    · obtain ⟨c, -, last⟩ := (tends.held key n).mp registered
      exact ⟨c, last⟩
    · have retired := tends.sound.retired key n j owner listed registered
      have own := (tends.sound.perform_job owner listed (.pass lasting)).2
      exact absurd rfl ((Request.act_retired retired (.pass lasting)).2 (instant, .began) (own ▸ began))
  · have nothing := Scheduler.happenedTo_perform_outside s.scheduler (.pass lasting) (count ▸ outside)
    exact absurd (nothing ▸ began) List.not_mem_nil

theorem Tends.waits (tends : Tends wall charges s) (lasting : Duration) (w : σ) :
    Waits answer wall charges s w lasting := by
  obtain ⟨scheduler, duties⟩ := pass_keeps answer s lasting w
  have sound := tends.sound.perform (.pass lasting)
  refine ⟨⟨?_, scheduler ▸ sound.keys, fun key n => ?_, fun c n last => ?_⟩, fun c n last => (tends.passes lasting last).2,
    fun n fires => tends.alone lasting fires, ?_⟩
  · rw [duties, tends.triggers, List.map_map]
    rfl
  · rw [scheduler, Scheduler.jobOf?_eq_some_iff sound.keys]
    exact tends.held key n
  · rw [scheduler]
    exact (tends.passes lasting last).1
  · simp only [pass, fireAll_ticks, tends.type_of_trigger]

end Waiting

/-- The types whose series the jobs keep going. -/
def ticked (s : Service) : List DocumentType :=
  s.scheduler.registered.filterMap fun entry => s.triggers[entry.2]?.map RolloverTrigger.type

section Ticked

variable {lasting : Duration}

theorem ticked_pass {σ : Type} {answer : (c : Call) → σ → Except Fault c.Reply × σ} (s : Service) (d : Duration) (w : σ) :
    ((s.pass d).conduct answer w).1.ticked = s.ticked := by
  obtain ⟨scheduler, duties⟩ := pass_keeps answer s d w
  rw [ticked, ticked, scheduler]
  refine List.filterMap_congr fun entry _ => ?_
  rw [type_of_duties duties, ← type_of_duties rfl]

theorem Keeps.mem_registered_iff (keeps : Keeps wall charges lasting s) {key : TriggerKey} :
    (key, n) ∈ s.scheduler.registered ↔ ∃ c : Charge, c.key = key ∧ c.LastAt n charges :=
  (Scheduler.jobOf?_eq_some_iff keeps.keysOnce).symm.trans (keeps.held key n)

theorem Keeps.type_of_trigger (keeps : Keeps wall charges lasting s) (n : Nat) :
    s.triggers[n]?.map RolloverTrigger.type = charges[n]?.map Charge.type := by
  rw [type_of_duties keeps.duties, List.getElem?_map, Option.map_map]
  rfl

theorem Keeps.mem_ticked_iff (keeps : Keeps wall charges lasting s) {t : DocumentType} :
    t ∈ s.ticked ↔ ∃ c n, Charge.LastAt c n charges ∧ c.type = t := by
  simp only [ticked, List.mem_filterMap, Prod.exists, keeps.type_of_trigger]
  constructor
  · rintro ⟨key, n, listed, named⟩
    obtain ⟨c, -, last⟩ := keeps.mem_registered_iff.mp listed
    rw [last.getElem?] at named
    exact ⟨c, n, last, Option.some.inj named⟩
  · rintro ⟨c, n, last, rfl⟩
    refine ⟨c.key, n, keeps.mem_registered_iff.mpr ⟨c, rfl, last⟩, ?_⟩
    rw [last.getElem?]
    rfl

/-- Every job keeps one series going, whose type has the name in the key. -/
theorem Keeps.ticked_names (keeps : Keeps wall charges lasting s) :
    s.ticked.map DocumentType.name = s.scheduler.registered.map fun entry => entry.1.type := by
  rw [ticked, List.map_filterMap, ← List.filterMap_eq_map']
  refine List.filterMap_congr fun entry listed => ?_
  obtain ⟨c, own, last⟩ := keeps.mem_registered_iff.mp listed
  rw [keeps.type_of_trigger, last.getElem?, ← own]
  rfl

theorem Keeps.ticked_nodup (keeps : Keeps wall charges lasting s) : (s.ticked.map DocumentType.name).Nodup := by
  have keys : s.scheduler.registered.map Prod.fst =
      (s.scheduler.registered.map fun entry => entry.1.type).map fun name => ⟨name, RolloverTrigger.kind⟩ := by
    rw [List.map_map]
    refine List.map_congr_left fun entry listed => ?_
    obtain ⟨c, own, -⟩ := keeps.mem_registered_iff.mp listed
    rw [Function.comp_apply, ← own]
    rfl
  rw [keeps.ticked_names]
  exact List.Nodup.of_map _ (keys ▸ keeps.keysOnce)

theorem Keeps.ticked_perm_iff (keeps : Keeps wall charges lasting s) :
    s.ticked.Perm (charges.map Charge.type) ↔ (charges.map fun c => c.type.name).Nodup := by
  constructor
  · intro all
    have names := all.map DocumentType.name
    rw [List.map_map] at names
    exact names.nodup_iff.mp keeps.ticked_nodup
  · intro distinct
    have types : (charges.map Charge.type).Nodup := by
      refine List.Nodup.of_map DocumentType.name ?_
      rwa [List.map_map]
    refine (List.perm_ext_iff_of_nodup keeps.ticked_nodup.of_map types).mpr fun t => ?_
    rw [keeps.mem_ticked_iff, List.mem_map]
    constructor
    · rintro ⟨c, n, last, same⟩
      exact ⟨c, List.mem_of_getElem? last.getElem?, same⟩
    · rintro ⟨c, charged, same⟩
      -- With distinct names every charge is the last of its name and keeps the job.
      obtain ⟨earlier, later, rfl⟩ := List.append_of_mem charged
      refine ⟨c, earlier.length, ⟨earlier, later, rfl, rfl, fun other behind shared => ?_⟩, same⟩
      rw [List.map_append, List.map_cons] at distinct
      have alone := (List.nodup_cons.mp (List.nodup_append.mp distinct).2.1).1
      exact alone (List.mem_map.mpr ⟨other, behind, congrArg TriggerKey.type shared⟩)

end Ticked

/-! ## At rest -/

/-- A service none of whose jobs will fire again. -/
def AtRest (s : Service) : Prop :=
  s.scheduler.registered = [] ∧ ∀ later : List Duration, begun (performAll (later.map .pass) s.scheduler).1 = []

theorem unregisterAll_atRest {owners : List TriggerKey} (sound : s.scheduler.Sound owners) : AtRest s.unregisterAll.2 := by
  have stopped : s.unregisterAll.2.scheduler = (s.scheduler.perform .stopAll).2 := rfl
  refine ⟨rfl, fun later => ?_⟩
  have still := sound.perform .stopAll
  have opened : Request.stopAll.opens = [] := rfl
  rw [opened, List.append_nil, ← stopped] at still
  refine List.eq_nil_iff_forall_not_mem.mpr fun n fires => ?_
  obtain ⟨instant, began⟩ := exists_of_mem_begun fires
  rcases Nat.lt_or_ge n owners.length with inside | outside
  · -- No key has a job any more, so each one has been cancelled, now or before.
    have owner := List.getElem?_eq_getElem inside
    have listed := List.getElem?_eq_getElem (still.all ▸ inside)
    have retired := still.retired _ n _ owner listed (by rintro ⟨⟩)
    rw [still.performAll_job owner listed] at began
    exact Scheduler.live_retired retired (instant, .began) began rfl
  · have unstarted : Scheduler.starts (later.map Request.pass) = 0 := by
      simp [Scheduler.starts, Request.opens, List.flatMap_map]
    rw [Scheduler.happenedTo_performAll_outside _ _ (by rw [← still.all]; omega)] at began
    cases began

end Service

end DocMapper
