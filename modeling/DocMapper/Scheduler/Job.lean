import DocMapper.Schedule.Basic
/-!
A recurring job and the instants at which it fires. Instants are nanoseconds since its
scheduler came to be; the wall clock, which calendar schedules go by, is a function of them.

A job waits, fires, and waits again from the instant the firing ended, so firings never
overlap. A firing that was begun runs to its end even if the job has been cancelled by then,
and one that panics costs nothing but itself.
-/

namespace DocMapper

structure Firing where
  work : Duration
  panics : Bool
deriving DecidableEq, Repr

/-- What a job waits for between firings. -/
inductive Ticker where
  | interval (period : Duration) (deadline : Nat)
  | calendar (schedule : Schedule) (fired : Bool)
deriving DecidableEq, Repr

namespace Ticker

/-- How late a firing may be before the next one is counted from it and no longer from the
instant it was due at. -/
def lateness : Nat := 5000000

def start (schedule : Schedule) (wall : Nat → Instant) (now : Nat) : Ticker :=
  match schedule.interval? with
  | some period => .interval period (now + ((schedule.firstDelay (wall now)).getD period).nanos)
  | none => .calendar schedule false

/-- The instant of the next firing, for a job that waits from `now` on, and what it waits for
after that. A calendar may have no firings left. -/
def next (wall : Nat → Instant) (now : Nat) : Ticker → Option (Nat × Ticker)
  | .interval period deadline =>
      let instant := max deadline now
      let counted := if deadline + lateness < instant then instant else deadline
      some (instant, .interval period (counted + period.nanos))
  | .calendar schedule fired =>
      let delay := if fired then schedule.delayAfter (wall now) else schedule.firstDelay (wall now)
      delay.map fun d => (now + d.nanos, .calendar schedule true)

end Ticker

inductive JobPhase where
  | waiting (instant : Nat) (ticker : Ticker)
  /-- A cancelled job is over when its firing ends. -/
  | firing (instant : Nat) (ticker : Ticker) (cancelled : Bool)
  | over
deriving DecidableEq, Repr

structure Job where
  schedule : Schedule
  /-- What becomes of the first firing, the second, and so on. -/
  firings : Nat → Firing
  /-- How many firings have begun. -/
  begun : Nat
  phase : JobPhase

inductive JobEvent where
  | began
  | ended (panicked : Bool)
deriving DecidableEq, Repr

namespace Job

/-- The phase of a job that waits from `now` on. -/
def waitFrom (wall : Nat → Instant) (now : Nat) (ticker : Ticker) : JobPhase :=
  match ticker.next wall now with
  | some (instant, ticker) => .waiting instant ticker
  | none => .over

def start (wall : Nat → Instant) (now : Nat) (schedule : Schedule) (firings : Nat → Firing) : Job :=
  ⟨schedule, firings, 0, waitFrom wall now (.start schedule wall now)⟩

def isOver (j : Job) : Bool :=
  j.phase = .over

/-- No firing begins any more. -/
def cancel (j : Job) : Job :=
  match j.phase with
  | .waiting _ _ | .over => { j with phase := .over }
  | .firing instant ticker _ => { j with phase := .firing instant ticker true }

/-- What happens next, if it happens by `limit`. -/
def step? (wall : Nat → Instant) (limit : Nat) (j : Job) : Option ((Nat × JobEvent) × Job) :=
  match j.phase with
  | .waiting instant ticker =>
      if instant ≤ limit then
        let ends := instant + (j.firings j.begun).work.nanos
        some ((instant, .began), { j with begun := j.begun + 1, phase := .firing ends ticker false })
      else none
  | .firing instant ticker cancelled =>
      if instant ≤ limit then
        let phase := if cancelled then .over else waitFrom wall instant ticker
        some ((instant, .ended (j.firings (j.begun - 1)).panics), { j with phase })
      else none
  | .over => none

def run (wall : Nat → Instant) (limit : Nat) : Nat → Job → List (Nat × JobEvent) × Job
  | 0, j => ([], j)
  | fuel + 1, j =>
      match j.step? wall limit with
      | none => ([], j)
      | some (event, j) =>
          let (events, j) := run wall limit fuel j
          (event :: events, j)

/-- All that happens by `limit`. Deadlines rise by a nanosecond or more with every firing, so
there are not more than two steps for each nanosecond. -/
def advance (wall : Nat → Instant) (limit : Nat) (j : Job) : List (Nat × JobEvent) × Job :=
  run wall limit (2 * limit + 4) j

end Job

end DocMapper
