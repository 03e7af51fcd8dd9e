import DocMapper.Engine.Memory
import DocMapper.Rollover.Tick
/-!
Jobs that share one engine. A job is a program, and a turn of a job is one call of it: the
engine answers, and the job waits for its next turn with what it knows then. Between two turns
of one job any number of turns of others may pass, so what a job knows may be out of date.

`Keeps` is a rule that every question of a dialogue obeys. A site whose jobs all obey a rule
keeps an invariant if every call under the rule does.
-/

namespace DocMapper

namespace Dialogue

variable {Q : Type} {Answer : Q → Type} {α β : Type}

def result? : Dialogue Answer α → Option α
  | .done a => some a
  | .ask .. => none

/-- A rule for each question that may come up, and for the results its answers lead to at once. -/
inductive Keeps (rule : (q : Q) → (Answer q → Option α) → Prop) : Dialogue Answer α → Prop where
  | done (a : α) : Keeps rule (.done a)
  | ask {q : Q} {next : Answer q → Dialogue Answer α} (asked : rule q fun reply => (next reply).result?)
      (rest : ∀ reply, Keeps rule (next reply)) : Keeps rule (.ask q next)

theorem result?_map (f : α → β) (d : Dialogue Answer α) :
    (d.bind fun a => (.done (f a) : Dialogue Answer β)).result? = d.result?.map f := by
  cases d <;> rfl

theorem Keeps.map {rule : (q : Q) → (Answer q → Option α) → Prop}
    {other : (q : Q) → (Answer q → Option β) → Prop} {d : Dialogue Answer α} (kept : d.Keeps rule)
    (f : α → β) (carried : ∀ q results, rule q results → other q fun reply => (results reply).map f) :
    (d.bind fun a => (.done (f a) : Dialogue Answer β)).Keeps other := by
  induction kept with
  | done a => exact .done (f a)
  | ask asked rest ih =>
      refine .ask ?_ ih
      simp only [result?_map]
      exact carried _ _ asked

/-- What every question under a rule keeps, a whole dialogue keeps. -/
theorem Keeps.conduct {σ : Type} {rule : (q : Q) → (Answer q → Option α) → Prop} {d : Dialogue Answer α}
    (kept : d.Keeps rule) {answer : (q : Q) → σ → Answer q × σ} {holds : σ → Prop}
    (each : ∀ q results s, rule q results → holds s → holds (answer q s).2) {s : σ} (start : holds s) :
    holds (d.conduct answer s).2 := by
  -- The state is general: every answer leads to another one.
  induction kept generalizing s with
  | done a => exact start
  | ask asked rest ih => exact ih _ (each _ _ _ asked start)

end Dialogue

section Attempts

variable {ε α β : Type} {fault : Fault → ε} {c : Call}

def goOn (fault : Fault → ε) (next : c.Reply → Attempt ε α) : Except Fault c.Reply → Program (Except ε α)
  | .ok reply => (next reply).run
  | .error f => .done (.error (fault f))

theorem run_attempt_bind (next : c.Reply → Attempt ε α) :
    (c.attempt fault >>= next).run = .ask c (goOn fault next) := by
  refine congrArg (Dialogue.ask c) (funext fun reply => ?_)
  cases reply <;> rfl

theorem keeps_attempt {rule : (c : Call) → (Except Fault c.Reply → Option (Except ε α)) → Prop}
    {next : c.Reply → Attempt ε α} (asked : rule c fun reply => (goOn fault next reply).result?)
    (rest : ∀ reply, (next reply).run.Keeps rule) :
    (c.attempt fault >>= next).run.Keeps rule := by
  rw [run_attempt_bind]
  refine .ask asked fun reply => ?_
  cases reply with
  | ok reply => exact rest reply
  | error f => exact .done _

theorem lift_ok_bind (a : β) (next : β → Attempt ε α) : (Attempt.lift (.ok a) >>= next).run = (next a).run := rfl

theorem lift_error_bind (e : ε) (next : β → Attempt ε α) :
    (Attempt.lift (.error e) >>= next).run = .done (.error e) := rfl

theorem run_attempt (now : Instant) (next : c.Reply → Attempt ε α) (m : Memory) :
    Memory.run now (c.attempt fault >>= next).run m =
      Memory.run now (goOn fault next (Memory.answer now c m).1) (Memory.answer now c m).2 := by
  rw [run_attempt_bind]
  rfl

theorem run_bind_ok {first : Attempt ε β} {next : β → Attempt ε α} {now : Instant} {m after : Memory} {result : β}
    (ran : Memory.run now first.run m = (.ok result, after)) :
    Memory.run now (first >>= next).run m = Memory.run now (next result).run after := by
  have conducted : Dialogue.conduct (Memory.answer now) first m = (.ok result, after) := ran
  refine (Dialogue.conduct_bind ..).trans ?_
  rw [conducted]
  rfl

end Attempts

namespace Interleaving

inductive Job where
  | bootstrap
  | tick
  | write (request : IndexRequest)

inductive Outcome where
  | bootstrapped (result : Except RolloverError (Option String))
  | ticked (result : Except RolloverError RolloverReport)
  | wrote (request : IndexRequest) (result : Except Fault IndexReply)

def Job.program (t : DocumentType) : Job → Program Outcome
  | .bootstrap => (Rollover.bootstrap t).run.bind fun result => .done (.bootstrapped result)
  | .tick => (Rollover.tick t).run.bind fun result => .done (.ticked result)
  | .write request => .ask (.indexDocument request) fun result => .done (.wrote request result)

structure Site where
  memory : Memory
  now : Instant
  /-- The jobs in the order they were started in, those that are over included. -/
  jobs : List (Program Outcome)
  /-- The last one first. -/
  outcomes : List Outcome

inductive Action where
  | start (job : Job)
  /-- One call of the job at a position; nothing if there is none or it is over. -/
  | turn (position : Nat)
  | clock (now : Instant)

namespace Site

def opened (m : Memory) (now : Instant) : Site :=
  ⟨m, now, [], []⟩

def step (t : DocumentType) (s : Site) : Action → Site
  | .start job =>
      { s with
        jobs := s.jobs ++ [job.program t]
        outcomes := (job.program t).result?.toList ++ s.outcomes }
  | .turn position =>
      match s.jobs[position]? with
      | some (.ask c next) =>
          let (reply, memory) := Memory.answer s.now c s.memory
          { s with
            memory
            jobs := s.jobs.set position (next reply)
            outcomes := (next reply).result?.toList ++ s.outcomes }
      | _ => s
  | .clock now => { s with now }

def play (t : DocumentType) (s : Site) (actions : List Action) : Site :=
  actions.foldl (step t) s

end Site

/-- A rule for the jobs of a site, and what is always true of its engine and the outcomes so far. -/
structure Discipline where
  rule : (c : Call) → (Except Fault c.Reply → Option Outcome) → Prop
  holds : Memory → List Outcome → Prop
  answered : ∀ c results, rule c results → ∀ now m outcomes, holds m outcomes →
    holds (Memory.answer now c m).2 ((results (Memory.answer now c m).1).toList ++ outcomes)

namespace Site

variable {t : DocumentType} {s : Site} {d : Discipline}

/-- All jobs of a site obey the rule, and what the rule keeps is true. -/
structure Disciplined (d : Discipline) (s : Site) : Prop where
  jobs : ∀ job ∈ s.jobs, job.Keeps d.rule
  holds : d.holds s.memory s.outcomes

theorem opened_disciplined {m : Memory} (holds : d.holds m []) (now : Instant) :
    (opened m now).Disciplined d where
  jobs := fun _ member => absurd member List.not_mem_nil
  holds := holds

/-- A job that may be started obeys the rule and is not over at once. -/
def Admitted (d : Discipline) (t : DocumentType) : Action → Prop
  | .start job => (job.program t).Keeps d.rule ∧ (job.program t).result? = none
  | _ => True

theorem step_disciplined (disciplined : s.Disciplined d) {action : Action} (admitted : Admitted d t action) :
    (s.step t action).Disciplined d := by
  cases action with
  | start job =>
      obtain ⟨kept, going⟩ := admitted
      constructor
      · intro program member
        rcases List.mem_append.mp member with old | new
        · exact disciplined.jobs program old
        · exact List.mem_singleton.mp new ▸ kept
      · simpa [step, going] using disciplined.holds
  | turn position =>
      rw [step]
      split
      · next c next waiting =>
          -- Only the job whose turn it is goes on; the rest of it obeys the rule for every reply.
          have kept := disciplined.jobs _ (List.mem_of_getElem? waiting)
          cases kept with
          | ask asked rest =>
              constructor
              · intro program member
                rcases List.mem_or_eq_of_mem_set member with old | new
                · exact disciplined.jobs program old
                · exact new ▸ rest _
              · exact d.answered c _ asked s.now s.memory s.outcomes disciplined.holds
      · exact disciplined
  | clock now => exact ⟨disciplined.jobs, disciplined.holds⟩

theorem play_disciplined (disciplined : s.Disciplined d) {actions : List Action}
    (admitted : ∀ action ∈ actions, Admitted d t action) : (s.play t actions).Disciplined d := by
  induction actions generalizing s with
  | nil => exact disciplined
  | cons action rest ih =>
      apply ih
      · exact step_disciplined disciplined (admitted action List.mem_cons_self)
      · exact fun later member => admitted later (List.mem_cons_of_mem action member)

end Site

end Interleaving

end DocMapper
