import DocMapper.Repository
import DocMapper.Scheduler.Basic
/-!
The long-running side: series of indices that are kept going by recurring jobs. Each job has
a trigger, which remembers how its last attempt went. `serve` gets every type ready, keeps
the triggers going until it is told to stop, and leaves no job behind, however it ends.
-/

namespace DocMapper

structure RolloverTrigger where
  type : DocumentType
  schedule : Schedule
  lastOutcome : Option (Except RolloverError RolloverReport)

namespace RolloverTrigger

def kind : String := "rollover"

def key (t : RolloverTrigger) : TriggerKey :=
  ⟨t.type.name, kind⟩

end RolloverTrigger

structure Service where
  scheduler : Scheduler
  /-- The trigger of every job, in the order the jobs were started in. -/
  triggers : List RolloverTrigger

namespace Service

def empty (wall : Nat → Instant) : Service := ⟨.empty wall, []⟩

/-- Starts a job for a series in place of any it has. -/
def register (s : Service) (type : DocumentType) (schedule : Schedule) : Service :=
  let trigger : RolloverTrigger := ⟨type, schedule, none⟩
  ⟨(s.scheduler.start trigger.key schedule fun _ => ⟨.zero, false⟩).2, s.triggers ++ [trigger]⟩

def unregisterAll (s : Service) : Nat × Service :=
  let (stopped, scheduler) := s.scheduler.stopAll
  (stopped, { s with scheduler })

def remember (s : Service) (job : Nat) (outcome : Except RolloverError RolloverReport) : Service :=
  { s with triggers := s.triggers.modify job fun t => { t with lastOutcome := some outcome } }

/-- Lets the trigger of a job make one attempt. -/
def fire (s : Service) (job : Nat) (trigger : RolloverTrigger) :
    Program (Except RolloverError RolloverReport × Service) := do
  let outcome ← (Rollover.tick trigger.type).run
  return (outcome, s.remember job outcome)

def fireAll : List Nat → Service → Program Service
  | [], s => return s
  | job :: rest, s => do
      match s.triggers[job]? with
      | some trigger =>
          let (_, s) ← s.fire job trigger
          fireAll rest s
      | none => fireAll rest s

/-- The jobs that began a firing, in order. -/
def begun (events : List SchedulerEvent) : List Nat :=
  (events.filter fun e => e.event = .began).map SchedulerEvent.job

/-- Lets time pass, and triggers fire in it. -/
def pass (s : Service) (d : Duration) : Program Service :=
  let (events, scheduler) := s.scheduler.advance d
  fireAll (begun events) { s with scheduler }

/-- Gets types ready in turn and starts the triggers of those that have one. -/
def startAll (r : Repository) (withTriggers : Bool) : List String → Service → Program (Except Failure Unit × Service)
  | [], s => return (.ok (), s)
  | name :: rest, s => do
      match ← (Attempt.during (.bootstrapping name) (r.bootstrap name)).run with
      | .error f => return (.error f, s)
      | .ok _ =>
          match r.find name with
          | .error f => return (.error f, s)
          | .ok t =>
              if withTriggers && t.isRolloverBacked then
                match r.rolloverTrigger name none with
                | .error f => return (.error f, s)
                | .ok (t, schedule) => startAll r withTriggers rest (s.register t schedule)
              else startAll r withTriggers rest s

/-- Gets every type of a repository ready and keeps the triggers going for a while. -/
def serve (r : Repository) (withTriggers : Bool) (d : Duration) (s : Service) :
    Program (Except Failure Unit × Service) := do
  match ← startAll r withTriggers r.registry.names s with
  | (.error f, s) => return (.error f, s.unregisterAll.2)
  | (.ok (), s) =>
      let s ← s.pass d
      return (.ok (), s.unregisterAll.2)

end Service

end DocMapper
