import DocMapper.Proofs.Generations
/-!
Bootstraps that take their time. A bootstrap that saw no write alias puts it on the first index
without looking again, so one that was overtaken by a rollover takes the writes back to the
first index. Nothing else ever moves them back: the number of the write index falls exactly
when such a bootstrap has its last turn after a rollover.
-/

namespace DocMapper

open Routing Interleaving

namespace Rollover

/-- The number of the index an alias writes into, 0 while there is none. -/
def writeGeneration (aliases : RolloverAliases) (m : Memory) : Nat :=
  (((m.writeIndex? aliases.writeAlias).bind (generationOf? aliases.indexPrefix)).map Prod.fst).getD 0

/-- The job whose turn it is puts an alias back on an index. -/
def Reattaches (site : Site) (action : Action) : Prop :=
  ∃ position swap next, action = .turn position ∧ site.jobs[position]? = some (.ask (.swapAlias swap) next)

/-- The calls of all jobs of a series; writes may go anywhere. -/
inductive SeriesStep (t : DocumentType) (aliases : RolloverAliases) : Call → Prop where
  | looking {c : Call} (reads : c.isReading = true) : SeriesStep t aliases c
  | creating : SeriesStep t aliases
      (.createIndex (seriesName aliases.indexPrefix 1) (t.indexBody (firstAliases t aliases)))
  | attaching : SeriesStep t aliases
      (.swapAlias ⟨aliases.writeAlias, none, seriesName aliases.indexPrefix 1⟩)
  | rolling (current : String) : SeriesStep t aliases (.rollover (rolloverRequest t aliases current))
  | writing (request : IndexRequest) : SeriesStep t aliases (.indexDocument request)

variable {t : DocumentType} {aliases : RolloverAliases} {conditions : RolloverConditions} {m : Memory}
  {last writer : Nat}

theorem Held.writeGeneration_eq (held : Held aliases m last writer) : writeGeneration aliases m = writer := by
  rw [writeGeneration, held.writeIndex?_eq]
  by_cases nobody : writer = 0
  · simp [nobody]
  · have readable := generationOf?_generationName aliases.indexPrefix generationWidth
      (Nat.le_trans held.writer_le held.bounded)
    simp [nobody, seriesName, readable]

/-- What one call does to the series: the writes move back in one case alone. -/
theorem seriesStep_held {c : Call} (step : SeriesStep t aliases c) (now : Instant)
    (held : Held aliases m last writer) :
    ∃ last' writer', Held aliases (Memory.answer now c m).2 last' writer' ∧
      (writer' < writer ↔ (∃ swap, c = .swapAlias swap) ∧ 1 < writer) ∧ (writer' < writer → writer' = 1) := by
  cases step with
  | looking reads =>
      rw [Memory.answer_reading reads]
      refine ⟨last, writer, held, ?_, fun fallen => absurd fallen (Nat.lt_irrefl writer)⟩
      constructor
      · intro fallen
        omega
      · rintro ⟨⟨swap, same⟩, -⟩
        rw [same] at reads
        cases reads
  | creating =>
      rw [Memory.answer]
      cases done : m.createIndex now (seriesName aliases.indexPrefix 1)
          (t.indexBody (firstAliases t aliases)) with
      | error f => exact ⟨last, writer, held, by simp, by simp⟩
      | ok changed =>
          -- The name was free, so there was no writer whose number could be larger.
          obtain ⟨none, created⟩ := held.create done
          have := held.writer_le
          exact ⟨1, 1, created, by simp; omega, by omega⟩
  | attaching =>
      rw [Memory.answer]
      cases done : m.swapAlias ⟨aliases.writeAlias, none, seriesName aliases.indexPrefix 1⟩ with
      | error f =>
          -- It fails only where the first index is missing, and then nobody has the alias.
          have nobody : last = 0 := by
            by_contra somebody
            have present := held.has_of_le (Nat.le_refl 1) (by omega)
            rw [Memory.attach_of_present present] at done
            cases done
          have := held.writer_le
          exact ⟨last, writer, held, by simp; omega, by omega⟩
      | ok changed => exact ⟨_, 1, held.attach done, by simp, by omega⟩
  | rolling current =>
      rw [Memory.answer]
      cases done : m.rollover now (rolloverRequest t aliases current) with
      | error f => exact ⟨last, writer, held, by simp, by simp⟩
      | ok changed =>
          obtain ⟨-, newest, -, -, rolled⟩ := held.roll done
          exact ⟨last + 1, last + 1, rolled, by simp; omega, by omega⟩
  | writing request =>
      rw [Memory.answer]
      cases done : m.indexDocument now request with
      | error f => exact ⟨last, writer, held, by simp, by simp⟩
      | ok answered => exact ⟨last, writer, held.write done, by simp, by simp⟩

theorem seriesStep_of_tick {c : Call} {results : Except Fault c.Reply → Option (Except RolloverError RolloverReport)}
    (step : TickStep t aliases c results) : SeriesStep t aliases c := by
  cases step with
  | looking reads _ => exact .looking reads
  | rolling current _ => exact .rolling current

theorem seriesStep_of_bootstrap {c : Call} (step : BootstrapStep t aliases c) : SeriesStep t aliases c := by
  cases step with
  | looking reads => exact .looking reads
  | creating => exact .creating
  | attaching => exact .attaching

def seriesJobs (t : DocumentType) (aliases : RolloverAliases) : Discipline where
  rule c _ := SeriesStep t aliases c
  holds m _ := ∃ last writer, Held aliases m last writer
  answered _ _ step now _ _ := by
    rintro ⟨last, writer, held⟩
    obtain ⟨last', writer', after, -⟩ := seriesStep_held step now held
    exact ⟨last', writer', after⟩

theorem seriesJobs_admitted (backed : t.addressing = .rollover aliases conditions) (action : Action) :
    Site.Admitted (seriesJobs t aliases) t action := by
  cases action with
  | start job =>
      cases job with
      | bootstrap =>
          constructor
          · exact (bootstrap_keeps backed).map Outcome.bootstrapped fun _ _ step => seriesStep_of_bootstrap step
          · rw [Job.program, Dialogue.result?_map, result?_bootstrap backed]
            rfl
      | tick =>
          constructor
          · exact (tick_keeps backed).map Outcome.ticked fun _ _ step => seriesStep_of_tick step
          · rw [Job.program, Dialogue.result?_map, result?_tick backed]
            rfl
      | write request => exact ⟨.ask (.writing request) fun _ => .done _, rfl⟩
  | turn position => trivial
  | clock now => trivial

theorem step_turn {site : Site} {position : Nat} {c : Call}
    {next : Except Fault c.Reply → Program Outcome} (waiting : site.jobs[position]? = some (.ask c next)) :
    (site.step t (.turn position)).memory = (Memory.answer site.now c site.memory).2 := by
  simp [Site.step, waiting]

theorem reattaches_turn_iff {site : Site} {position : Nat} {c : Call}
    {next : Except Fault c.Reply → Program Outcome} (waiting : site.jobs[position]? = some (.ask c next)) :
    Reattaches site (.turn position) ↔ ∃ swap, c = .swapAlias swap := by
  constructor
  · rintro ⟨other, swap, rest, here, pending⟩
    cases here
    cases waiting.symm.trans pending
    exact ⟨swap, rfl⟩
  · rintro ⟨swap, same⟩
    subst same
    exact ⟨position, swap, next, rfl, waiting⟩

theorem step_idle {site : Site} {action : Action}
    (idle : ∀ position c next, action = .turn position → site.jobs[position]? ≠ some (.ask c next)) :
    (site.step t action).memory = site.memory ∧ ¬Reattaches site action := by
  constructor
  · cases action with
    | start job => rfl
    | clock now => rfl
    | turn position =>
        rw [Site.step]
        split
        · next c next waiting => exact absurd waiting (idle position c next rfl)
        · rfl
  · rintro ⟨position, swap, next, here, pending⟩
    exact idle position _ next here pending

theorem step_falls_iff {site : Site} (disciplined : site.Disciplined (seriesJobs t aliases)) (action : Action) :
    (writeGeneration aliases (site.step t action).memory < writeGeneration aliases site.memory ↔
      Reattaches site action ∧ 1 < writeGeneration aliases site.memory) ∧
    (writeGeneration aliases (site.step t action).memory < writeGeneration aliases site.memory →
      writeGeneration aliases (site.step t action).memory = 1) := by
  -- Only a turn of a job that waits for an answer changes the engine.
  by_cases waits : ∃ position c next, action = .turn position ∧ site.jobs[position]? = some (.ask c next)
  · obtain ⟨position, c, next, rfl, waiting⟩ := waits
    have asked : SeriesStep t aliases c := by
      cases disciplined.jobs _ (List.mem_of_getElem? waiting) with
      | ask asked _ => exact asked
    obtain ⟨last, writer, held⟩ := disciplined.holds
    obtain ⟨last', writer', after, falls, first⟩ := seriesStep_held asked site.now held
    rw [step_turn waiting, reattaches_turn_iff waiting, after.writeGeneration_eq, held.writeGeneration_eq]
    exact ⟨falls, first⟩
  · have idle : ∀ position c next, action = .turn position →
        site.jobs[position]? ≠ some (.ask c next) :=
      fun position c next here waiting => waits ⟨position, c, next, here, waiting⟩
    obtain ⟨same, other⟩ := step_idle (t := t) idle
    rw [same]
    simp [other]

/-- Bootstraps, ticks and writes of a series in any order of turns, from an empty engine. The
number of the write index falls with an action exactly when the action is the last turn of a
bootstrap that puts the alias back, and a rollover was granted before; it falls to 1 then. -/
theorem writeGeneration_falls_iff_reattached (backed : t.addressing = .rollover aliases conditions)
    (start : Instant) (actions : List Action) (action : Action) :
    let before := (Site.opened Memory.empty start).play t actions
    let after := (Site.opened Memory.empty start).play t (actions ++ [action])
    (writeGeneration aliases after.memory < writeGeneration aliases before.memory ↔
      Reattaches before action ∧ 1 < writeGeneration aliases before.memory) ∧
    (writeGeneration aliases after.memory < writeGeneration aliases before.memory →
      writeGeneration aliases after.memory = 1) := by
  intro before after
  have atStart : (seriesJobs t aliases).holds Memory.empty [] := ⟨0, 0, Held.empty aliases⟩
  have disciplined : before.Disciplined (seriesJobs t aliases) :=
    Site.play_disciplined (Site.opened_disciplined atStart start) fun action _ =>
      seriesJobs_admitted backed action
  have stepped : after = before.step t action := by
    simp [after, before, Site.play]
  rw [stepped]
  exact step_falls_iff disciplined action

/-- A bootstrap that looks at the empty engine and comes back after another one and a rollover. -/
def overtakenBootstrap : List Action :=
  [.start .bootstrap, .turn 0, .start .bootstrap, .turn 1, .turn 1, .turn 1,
    .start (.write ⟨"logs-write", none, none, .object [], true⟩), .turn 2,
    .start .tick, .turn 3, .turn 3, .turn 3, .turn 3, .turn 0]

def overtaken : Site :=
  (Site.opened Memory.empty ⟨0, 0⟩).play logLines overtakenBootstrap

theorem overtaken_bootstrap_takes_writes_back :
    writeGeneration logAliases overtaken.memory = 2 ∧ Reattaches overtaken (.turn 0) ∧
      writeGeneration logAliases
        ((Site.opened Memory.empty ⟨0, 0⟩).play logLines (overtakenBootstrap ++ [.turn 0])).memory = 1 := by
  have second : writeGeneration logAliases overtaken.memory = 2 := by decide +kernel
  have pending : Reattaches overtaken (.turn 0) := ⟨0, _, _, rfl, rfl⟩
  have backed : logLines.addressing = .rollover logAliases ⟨none, some 1, none⟩ := rfl
  obtain ⟨falls, first⟩ :=
    writeGeneration_falls_iff_reattached backed ⟨0, 0⟩ overtakenBootstrap (.turn 0)
  have fallen := falls.mpr ⟨pending, by rw [← overtaken, second]; decide⟩
  exact ⟨second, pending, first fallen⟩

theorem writeGeneration_not_monotone :
    ¬∀ (env : Environment) (config : TypeConfig) (t : DocumentType) (aliases : RolloverAliases)
      (conditions : RolloverConditions) (start : Instant) (actions : List Action) (action : Action),
      DocumentType.build env config = .ok t → t.addressing = .rollover aliases conditions →
      writeGeneration aliases ((Site.opened Memory.empty start).play t actions).memory ≤
        writeGeneration aliases ((Site.opened Memory.empty start).play t (actions ++ [action])).memory := by
  intro monotone
  have kept := monotone .empty logLinesConfig logLines logAliases _ ⟨0, 0⟩ overtakenBootstrap (.turn 0)
    build_logLines rfl
  revert kept
  decide +kernel

end Rollover

end DocMapper
