import DocMapper.Proofs.BootstrapReading
import DocMapper.Proofs.InterruptedCalls
import DocMapper.Proofs.SingleWriters
/-!
Bootstraps that are run again. A bootstrap looks, and changes the engine with its last call or not
at all; so one that failed has changed nothing, whichever of its calls went wrong. One that
succeeded leaves what the next one looks for: the only index of the type, or an index that its
write alias writes into, whatever other indices had the alias before.
-/

namespace DocMapper

open Routing Rollover

namespace Course

variable {ε α β : Type} {fault : Fault → ε} {c : Call} {moments : Nat → Moment} {m : Memory}

theorem run_attempt_ends {next : c.Reply → Attempt ε α} {holds : Except ε α × Memory → Prop}
    (failed : ∀ f, holds (.error (fault f), m))
    (goesOn : ∀ reply after, Memory.answer (moments 0).now c m = (.ok reply, after) →
      holds (run (later moments) (next reply).run after)) :
    holds (run moments (c.attempt fault >>= next).run m) := by
  rw [run_attempt_bind]
  rcases run_ask moments (goOn fault next) m with ⟨f, ended⟩ | answered
  · rw [ended]
    exact failed f
  · cases answer : Memory.answer (moments 0).now c m with
    | mk result after =>
        rw [answered, answer]
        cases result with
        | ok reply => exact goesOn reply after answer
        | error f =>
            -- A refused call leaves the engine as it was.
            have refused : (Memory.answer (moments 0).now c m).2 = m := by
              apply Memory.answer_refused
              rintro ⟨reply, done⟩
              rw [answer] at done
              cases done
            rw [answer] at refused
            cases refused
            exact failed f

theorem run_map (moments : Nat → Moment) (program : Program α) (f : α → β) (m : Memory) :
    run moments (program.bind fun a => .done (f a)) m =
      (f (run moments program m).1, (run moments program m).2) := by
  simp only [run, Dialogue.conduct_bind, Dialogue.conduct_done]

end Course

namespace Repository

variable {r : Repository} {name : String} {t : DocumentType} {m changed : Memory} {now : Instant}
  {moments : Nat → Moment} {aliases : RolloverAliases} {conditions : RolloverConditions} {index : String}

theorem during_attempt (c : Call) (activity : Activity) :
    (call c).during activity = c.attempt fun f => (Failure.of (.engine f)).during activity := by
  refine congrArg (Dialogue.ask c) (funext fun reply => ?_)
  cases reply <;> rfl

/-- What a bootstrap looks for: the only index of a type, or one that its write alias writes into. -/
def Ready (t : DocumentType) (m : Memory) : Prop :=
  match t.addressing with
  | .fixed index => Dict.has index m.indices = true
  | .rollover aliases _ => ∃ current, m.writeIndex? aliases.writeAlias = some current
  | .timeBased _ _ => True

theorem Bootstrapped.ready {created : Option String} (ordered : m.Ordered)
    (done : Bootstrapped t now m created changed) : Ready t changed := by
  rw [Ready]
  cases done with
  | present only present =>
      rw [only]
      exact present
  | created only done =>
      rw [only]
      simp [Memory.createIndex_has done]
  | resolved backed writes =>
      rw [backed]
      exact ⟨_, writes⟩
  | reattached backed reattaches done =>
      rw [backed]
      exact ⟨_, writeIndex?_attached ordered done⟩
  | begun backed unheld done =>
      rw [backed]
      exact ⟨_, writeIndex?_begun ordered unheld done⟩

/-- How a bootstrap ends: with the type ready, or with an error and the engine as it was. -/
def Ends {ε : Type} (t : DocumentType) (m : Memory) : Except ε (Option String) × Memory → Prop
  | (.ok _, after) => Ready t after
  | (.error _, after) => after = m

theorem bootstrapFixed_ends (only : t.addressing = .fixed index) (ordered : m.Ordered) (name : String)
    (moments : Nat → Moment) : Ends t m (Course.run moments (bootstrapFixed t name index).run m) := by
  have creating := during_attempt (.createIndex index
    (t.indexBody (t.aliasName.map fun aliasName => ⟨aliasName, false⟩).toList)) (.creatingIndex index name)
  rw [bootstrapFixed]
  refine Course.run_attempt_ends (fun _ => rfl) fun present after looked => ?_
  cases looked
  cases present : Dict.has index m.indices with
  | true =>
      have done : Bootstrapped t (moments 0).now m none m := .present only present
      exact done.ready ordered
  | false =>
      rw [if_neg Bool.false_ne_true]
      dsimp only
      rw [creating]
      refine Course.run_attempt_ends (fun _ => rfl) fun _ after granted => ?_
      rw [Memory.answer, Memory.createIndex_of_fresh present] at granted
      cases granted
      exact (Bootstrapped.created only (Memory.createIndex_of_fresh present)).ready ordered

theorem bootstrapSeries_ends (backed : t.addressing = .rollover aliases conditions) (ordered : m.Ordered)
    (moments : Nat → Moment) : Ends t m (Course.run moments (Rollover.bootstrap t).run m) := by
  rw [Rollover.bootstrap, backed, initialIndex_rollover backed]
  refine Course.run_attempt_ends (fun _ => rfl) fun writer after looked => ?_
  cases looked
  -- The three exits: the alias resolves, the first index survived without it, or there is none yet.
  cases writes : m.writeIndex? aliases.writeAlias with
  | some current =>
      have done : Bootstrapped t (moments 0).now m none m := .resolved backed writes
      exact done.ready ordered
  | none =>
      refine Course.run_attempt_ends (fun _ => rfl) fun present after looked => ?_
      cases looked
      cases present : Dict.has (seriesName aliases.indexPrefix 1) m.indices with
      | true =>
          refine Course.run_attempt_ends (fun _ => rfl) fun _ after granted => ?_
          rw [Memory.answer, Memory.attach_of_present present] at granted
          cases granted
          have done : Bootstrapped t (moments 0).now m none _ :=
            .reattached backed ⟨_, _, backed, writes, present⟩ (Memory.attach_of_present present)
          exact done.ready ordered
      | false =>
          refine Course.run_attempt_ends (fun _ => rfl) fun _ after granted => ?_
          rw [Memory.answer, Memory.createIndex_of_fresh present] at granted
          cases granted
          exact (Bootstrapped.begun backed writes (Memory.createIndex_of_fresh present)).ready ordered

theorem bootstrap_ends (found : r.find name = .ok t) (ordered : m.Ordered) (moments : Nat → Moment) :
    Ends t m (Course.run moments (r.bootstrap name).run m) := by
  cases addressed : t.addressing with
  | timeBased pattern field =>
      rw [bootstrap, found, lift_ok_bind, addressed]
      change Ready t m
      rw [Ready, addressed]
      trivial
  | fixed index =>
      rw [bootstrap, found, lift_ok_bind, addressed]
      exact bootstrapFixed_ends addressed ordered name moments
  | rollover aliases conditions =>
      have ends := bootstrapSeries_ends addressed ordered moments
      rw [Logbook.run_bootstrap found addressed, Course.run_map]
      cases ended : Course.run moments (Rollover.bootstrap t).run m with
      | mk result after =>
          rw [ended] at ends
          cases result <;> exact ends

theorem bootstrap_ready (found : r.find name = .ok t) (ready : Ready t m) (steady : Course.Steady moments) :
    Course.run moments (r.bootstrap name).run m = (.ok none, m) := by
  rw [Ready] at ready
  cases addressed : t.addressing with
  | timeBased pattern field =>
      rw [bootstrap, found, lift_ok_bind, addressed]
      rfl
  | fixed index =>
      rw [addressed] at ready
      rw [bootstrap, found, lift_ok_bind, addressed]
      refine (Course.run_attempt_granted steady rfl).trans ?_
      rw [ready]
      rfl
  | rollover aliases conditions =>
      rw [addressed] at ready
      obtain ⟨current, writes⟩ := ready
      have settled : Course.run moments (Rollover.bootstrap t).run m = (.ok none, m) := by
        rw [Rollover.bootstrap, addressed, initialIndex_rollover addressed]
        refine (Course.run_attempt_granted steady rfl).trans ?_
        rw [writes]
        rfl
      rw [Logbook.run_bootstrap found addressed, Course.run_map, settled]
      rfl

theorem bootstrap_succeeds (found : r.find name = .ok t) (now : Instant) (m : Memory) :
    ∃ created after, Memory.run now (r.bootstrap name).run m = (.ok created, after) := by
  cases addressed : t.addressing with
  | timeBased pattern field =>
      rw [bootstrap, found, lift_ok_bind, addressed]
      exact ⟨none, m, rfl⟩
  | fixed index =>
      obtain ⟨created, after, run, -⟩ := run_bootstrap_fixed found addressed now m
      exact ⟨created, after, run⟩
  | rollover aliases conditions =>
      obtain ⟨created, after, run, -⟩ := run_bootstrap_series found addressed now m
      exact ⟨created, after, run⟩

/-- The end of a bootstrap after which there is nothing to do: its type is ready, and the next one
creates nothing and changes nothing. Or the end of one that has done nothing itself. -/
def Settles (r : Repository) (name : String) (m : Memory) : Except Failure (Option String) × Memory → Prop
  | (.ok _, after) =>
      (∀ t, r.find name = .ok t → Ready t after) ∧
        ∀ later, Memory.run later (r.bootstrap name).run after = (.ok none, after)
  | (.error _, after) => after = m

theorem bootstrap_course_settles (r : Repository) (name : String) (ordered : m.Ordered) (moments : Nat → Moment) :
    Settles r name m (Course.run moments (r.bootstrap name).run m) := by
  cases found : r.find name with
  | error e =>
      rw [bootstrap, found, lift_error_bind]
      rfl
  | ok t =>
      have ends := bootstrap_ends found ordered moments
      cases ended : Course.run moments (r.bootstrap name).run m with
      | mk result after =>
          rw [ended] at ends
          cases result with
          | error e => exact ends
          | ok created =>
              refine ⟨fun other same => ?_, fun later => ?_⟩
              · cases found.symm.trans same
                exact ends
              · rw [← Course.run_alone]
                exact bootstrap_ready found ends fun _ => rfl

/-- From any state of the engine, a bootstrap that succeeds leaves its type ready and nothing to do
for one right after it, and one that fails has done nothing. That holds also if time passes between
its calls, and if any of them fails. Left alone, the bootstrap of a type succeeds. -/
theorem bootstrap_settles (r : Repository) (name : String) (ordered : m.Ordered) :
    (∀ now, Settles r name m (Memory.run now (r.bootstrap name).run m)) ∧
      (∀ moments, Settles r name m (Course.run moments (r.bootstrap name).run m)) ∧
      ∀ t, r.find name = .ok t → ∀ now, ∃ created after,
        Memory.run now (r.bootstrap name).run m = (.ok created, after) := by
  refine ⟨fun now => ?_, bootstrap_course_settles r name ordered, fun t found now => bootstrap_succeeds found now m⟩
  rw [← Course.run_alone]
  exact bootstrap_course_settles r name ordered fun _ => ⟨now, none⟩

/-- An engine in which two indices have the write alias of log lines and neither takes its writes. -/
def shared : Memory where
  indices := ["archive", "import"].map fun name => (name, {
    createdAt := ⟨0, 0⟩
    body := .object []
    aliases := [("logs-write", false)]
    documents := [] })
  minted := 0

/-- The first bootstrap finds two holders of the alias and creates the first index of the series;
if that call fails, all stays as it was. -/
theorem shared_alias_settled :
    ∃ after, Memory.run ⟨0, 0⟩ (Logbook.logProgram.bootstrap "LogLine").run shared = (.ok (some "logs-000001"), after) ∧
      (∃ current, after.writeIndex? "logs-write" = some current) ∧
      (∀ later, Memory.run later (Logbook.logProgram.bootstrap "LogLine").run after = (.ok none, after)) ∧
      (Course.run (fun k => ⟨⟨k, 0⟩, if k = 2 then some (.unavailable "create_index") else none⟩)
        (Logbook.logProgram.bootstrap "LogLine").run shared).2 = shared := by
  have ordered : shared.Ordered := by
    refine List.pairwise_cons.mpr ⟨?_, List.pairwise_singleton ..⟩
    decide
  obtain ⟨settles, interrupted, succeeds⟩ := bootstrap_settles Logbook.logProgram "LogLine" ordered
  obtain ⟨created, after, run⟩ := succeeds logLines rfl ⟨0, 0⟩
  have given : created = some "logs-000001" := Except.ok.inj (congrArg Prod.fst run).symm
  have again := settles ⟨0, 0⟩
  rw [run] at again
  refine ⟨after, given ▸ run, again.1 logLines rfl, again.2, ?_⟩
  exact interrupted fun k => ⟨⟨k, 0⟩, if k = 2 then some (.unavailable "create_index") else none⟩

end Repository

end DocMapper
