import DocMapper.Scheduler.Job
/-!
Recurring jobs, one for each document type and kind of trigger. Starting a job under a key
that has one cancels the old job; a cancelled job begins no firing any more. Jobs do not know
of each other, so what happens to one changes the firings of no other.
-/

namespace DocMapper

structure TriggerKey where
  type : String
  kind : String
deriving DecidableEq, Repr

def TriggerKey.format (k : TriggerKey) : String :=
  s!"{k.type}/{k.kind}"

def TriggerKey.before (a b : TriggerKey) : Bool :=
  a.type < b.type || (a.type = b.type && a.kind ≤ b.kind)

/-- Something that happens to a job, named by the number it was started under. -/
structure SchedulerEvent where
  job : Nat
  instant : Nat
  event : JobEvent
deriving DecidableEq, Repr

structure Scheduler where
  wall : Nat → Instant
  now : Nat
  /-- Every job ever started, in order. -/
  jobs : List Job
  /-- The keys with a job, and its number. -/
  registered : List (TriggerKey × Nat)

namespace Scheduler

def empty (wall : Nat → Instant) : Scheduler := ⟨wall, 0, [], []⟩

def jobOf? (s : Scheduler) (key : TriggerKey) : Option Nat :=
  s.registered.lookup key

def isRegistered (s : Scheduler) (key : TriggerKey) : Bool :=
  (s.jobOf? key).isSome

def keys (s : Scheduler) : List TriggerKey :=
  (s.registered.map Prod.fst).mergeSort TriggerKey.before

/-- How many of the registered jobs still have something to do. -/
def activeCount (s : Scheduler) : Nat :=
  s.registered.countP fun (_, n) => (s.jobs[n]?.map fun j => !j.isOver).getD false

def cancelJob (n : Nat) (jobs : List Job) : List Job :=
  jobs.modify n Job.cancel

/-- Takes the job of a key away from it. Says whether there was one. -/
def stop (s : Scheduler) (key : TriggerKey) : Bool × Scheduler :=
  match s.jobOf? key with
  | some n =>
      (true, { s with
        jobs := cancelJob n s.jobs
        registered := s.registered.filter fun entry => entry.1 ≠ key })
  | none => (false, s)

/-- Starts a job in place of the one under its key. Gives its number. -/
def start (s : Scheduler) (key : TriggerKey) (schedule : Schedule) (firings : Nat → Firing) :
    Nat × Scheduler :=
  let (_, s) := s.stop key
  let n := s.jobs.length
  (n, { s with
    jobs := s.jobs ++ [Job.start s.wall s.now schedule firings]
    registered := (key, n) :: s.registered })

def stopAll (s : Scheduler) : Nat × Scheduler :=
  (s.registered.length, { s with
    jobs := s.registered.foldl (fun jobs entry => cancelJob entry.2 jobs) s.jobs
    registered := [] })

/-- What happens to jobs, numbered from `n` on, by `limit`. -/
def advanceJobs (wall : Nat → Instant) (limit : Nat) : Nat → List Job → List SchedulerEvent × List Job
  | _, [] => ([], [])
  | n, j :: rest =>
      let (events, j) := j.advance wall limit
      let (others, rest) := advanceJobs wall limit (n + 1) rest
      (events.map (fun (instant, event) => ⟨n, instant, event⟩) ++ others, j :: rest)

/-- Lets time pass. Gives what happens in it, in order; what is due at its end is part of it. -/
def advance (s : Scheduler) (d : Duration) : List SchedulerEvent × Scheduler :=
  let now := s.now + d.nanos
  let (events, jobs) := advanceJobs s.wall now 0 s.jobs
  (events.mergeSort fun a b => a.instant ≤ b.instant, { s with now, jobs })

end Scheduler

end DocMapper
