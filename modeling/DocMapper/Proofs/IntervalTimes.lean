import DocMapper.Proofs.SchedulerSessions
import Mathlib.Order.Monotone.Basic
/-!
When the firings of an interval job begin. As long as each is done within the period they keep to
the first of them and the period, however long the job lives. One that takes longer puts the next
one off to its own end; if that makes it late by more than a margin, the periods are counted from
there on, and otherwise the job catches up.
-/

namespace DocMapper

/-! ## From one firing to the next -/

/-- Where an interval job stands when a firing begins. -/
structure Beat where
  instant : Nat
  /-- From when on the next firing can come. -/
  deadline : Nat

namespace Beat

variable {period work : Duration} {b : Beat}

def phase (period : Duration) (b : Beat) : JobPhase :=
  .waiting b.instant (.interval period b.deadline)

def next (period work : Duration) (b : Beat) : Beat :=
  let instant := max b.deadline (b.instant + work.nanos)
  ⟨instant, (if b.deadline + Ticker.lateness < instant then instant else b.deadline) + period.nanos⟩

/-- The deadline is a period away, but for what the margin forgives. -/
def Spaced (period : Duration) (b : Beat) : Prop :=
  b.instant + period.nanos ≤ b.deadline + Ticker.lateness

theorem next_spaced (period work : Duration) (b : Beat) : (b.next period work).Spaced period := by
  simp only [Spaced, next]
  split <;> omega

theorem work_done (period work : Duration) (b : Beat) : b.instant + work.nanos ≤ (b.next period work).instant :=
  Nat.le_max_right _ _

theorem Spaced.next_instant (spaced : b.Spaced period) (work : Duration) :
    b.instant + period.nanos ≤ (b.next period work).instant + Ticker.lateness :=
  Nat.le_trans spaced (Nat.add_le_add_right (Nat.le_max_left _ _) _)

theorem next_of_timely (timely : work.nanos ≤ period.nanos) (start : Nat) :
    next period work ⟨start, start + period.nanos⟩ = ⟨start + period.nanos, start + period.nanos + period.nanos⟩ := by
  have due : max (start + period.nanos) (start + work.nanos) = start + period.nanos := by omega
  simp only [next, due]
  rw [if_neg (by omega)]

end Beat

/-! ## One firing after the other -/

section Beats

variable {period : Duration} {first : Nat} {firings : Nat → Firing}

def beats (period : Duration) (first : Nat) (firings : Nat → Firing) : Nat → Beat
  | 0 => ⟨first, first + period.nanos⟩
  | k + 1 => (beats period first firings k).next period (firings k).work

theorem beats_spaced (k : Nat) : (beats period first firings k).Spaced period := by
  cases k with
  | zero => exact Nat.le_add_right _ _
  | succ k => exact Beat.next_spaced period (firings k).work _

theorem beats_mono : Monotone fun k => (beats period first firings k).instant :=
  monotone_nat_of_le_succ fun k => Nat.le_trans (Nat.le_add_right _ _) (Beat.work_done period (firings k).work _)

theorem beats_of_timely (timely : ∀ k, (firings k).work.nanos ≤ period.nanos) (k : Nat) :
    beats period first firings k = ⟨first + k * period.nanos, first + k * period.nanos + period.nanos⟩ := by
  induction k with
  | zero => simp [beats]
  | succ k ih => rw [beats, ih, Beat.next_of_timely (timely k), Nat.succ_mul, ← Nat.add_assoc]

/-- Instants at which firings can begin one after the other. -/
structure Cadence (period : Duration) (first : Nat) (firings : Nat → Firing) (begins : Nat → Nat) : Prop where
  opens : begins 0 = first
  /-- No firing begins before the one ahead of it is done, -/
  done : ∀ k, begins k + (firings k).work.nanos ≤ begins (k + 1)
  /-- nor sooner after it than a period, but for 5 ms. -/
  spaced : ∀ k, begins k + period.nanos ≤ begins (k + 1) + (Duration.ofMillis 5).nanos
  /-- Where no work outlasts the period there is no drift. -/
  steady : (∀ k, (firings k).work.nanos ≤ period.nanos) → ∀ k, begins k = first + k * period.nanos

theorem beats_cadence (period : Duration) (first : Nat) (firings : Nat → Firing) :
    Cadence period first firings fun k => (beats period first firings k).instant where
  opens := rfl
  done k := Beat.work_done period (firings k).work _
  spaced k := (beats_spaced k).next_instant (firings k).work
  steady timely k := by rw [beats_of_timely timely]

end Beats

namespace Scheduler

variable {wall : Nat → Instant} {period : Duration} {schedule : Schedule} {firings : Nat → Firing}

theorem start_phase (interval : schedule.interval? = some period) (wall : Nat → Instant) (now : Nat)
    (firings : Nat → Firing) :
    (Job.start wall now schedule firings).phase =
      (beats period (now + (schedule.initialDelay.getD period).nanos) firings 0).phase period := by
  have delayed : (schedule.firstDelay (wall now)).getD period = schedule.initialDelay.getD period := by
    obtain ⟨recurrence, delay⟩ := schedule
    cases recurrence with
    | calendar c => cases interval
    | every p =>
        cases interval
        cases delay <;> rfl
  have due := Nat.max_eq_left (Nat.le_add_right now (schedule.initialDelay.getD period).nanos)
  simp only [Job.start, Ticker.start, interval, delayed, Job.waitFrom, Ticker.next, due]
  rw [if_neg (Nat.not_lt.mpr (Nat.le_add_right _ _))]
  rfl

/-- What is told of an interval job, if nothing is missing: every firing that has come due. -/
theorem firingTimes_told {now first : Nat} {missing : Prop} (complete : ¬missing) {k : Nat} {phase : JobPhase}
    {history : List (Nat × JobEvent)} (tells : Job.Tells wall firings now missing k phase history)
    (stands : phase = (beats period first firings k).phase period) (i : Nat) :
    (firingTimes history)[i]? =
      if (beats period first firings (k + i)).instant ≤ now then some (beats period first firings (k + i)).instant
      else none := by
  -- Each firing moves the count on by one; where the history ends, the next beat is yet to come.
  induction tells generalizing i with
  | short allowed => exact absurd allowed complete
  | finished => cases stands
  | @future k due ticker waits =>
      cases stands
      have later : (beats period first firings k).instant ≤ (beats period first firings (k + i)).instant :=
        beats_mono (Nat.le_add_right k i)
      rw [if_neg (Nat.not_le.mpr (Nat.lt_of_lt_of_le waits later))]
      rfl
  | @busy k due ticker reached works =>
      cases stands
      cases i with
      | zero => exact (if_pos reached).symm
      | succ i =>
          have done := Beat.work_done period (firings k).work (beats period first firings k)
          have later : (beats period first firings (k + 1)).instant ≤ (beats period first firings (k + (i + 1))).instant :=
            beats_mono (by omega)
          rw [if_neg (Nat.not_le.mpr (Nat.lt_of_lt_of_le works (Nat.le_trans done later)))]
          rfl
  | @firing k due ticker rest reached later ih =>
      cases stands
      cases i with
      | zero => exact (if_pos (Nat.le_trans (Nat.le_add_right _ _) reached)).symm
      | succ i =>
          have next := ih rfl i
          rw [Nat.add_right_comm, Nat.add_assoc] at next
          exact next

/-- The firings of an interval job that is left alone neither drift, overlap nor come in bursts,
whatever happens to the other jobs. -/
theorem interval_jobs_keep_time (clock : WallClock) (earlier : List Request) (key : TriggerKey) (trigger : Trigger)
    {period : Duration} (interval : trigger.schedule.interval? = some period) :
    ∃ begins : Nat → Nat,
      Cadence period (elapsed earlier + (trigger.schedule.initialDelay.getD period).nanos) trigger.firings begins ∧
      ∀ later : List Request, (∀ r ∈ later, r.retires key = false) → 0 < elapsed later → ∀ k,
        (firingTimes (history clock (earlier ++ .start key trigger :: later) (starts earlier)))[k]? =
          if begins k ≤ elapsed earlier + elapsed later then some (begins k) else none := by
  refine ⟨_, beats_cadence period _ trigger.firings, fun later kept time k => ?_⟩
  have complete : ¬((∃ r ∈ later, r.retires key = true) ∨ elapsed later = 0) := by
    rintro (⟨r, listed, retires⟩ | none)
    · rw [kept r listed] at retires
      cases retires
    · exact Nat.ne_of_gt time none
  have all : elapsed (earlier ++ .start key trigger :: later) = elapsed earlier + elapsed later := by
    simp [elapsed_append, elapsed, Request.duration]
  have told := firingTimes_told complete (@history_tells clock earlier later key trigger)
    (start_phase interval clock.shows (elapsed earlier) trigger.firings) k
  rw [Nat.zero_add, all] at told
  exact told

/-- Work every 10 ms: at first in time, then 3 ms late, then 23 ms late. -/
def lateTrigger : Trigger where
  schedule := ⟨.every (.ofMillis 10), none⟩
  firings k := ⟨.ofMillis ([5, 13, 30].getD k 0), false⟩
  paced := by decide

theorem late_sweeps_keep_time :
    ∃ begins : Nat → Nat, Cadence (.ofMillis 10) 10000000 lateTrigger.firings begins ∧
      ∀ k, (firingTimes (history steadyClock [.start ⟨"Note", "sweep"⟩ lateTrigger, .pass (.ofMillis 80)] 0))[k]? =
        if begins k ≤ 80000000 then some (begins k) else none := by
  obtain ⟨begins, cadence, told⟩ := interval_jobs_keep_time steadyClock [] ⟨"Note", "sweep"⟩ lateTrigger rfl
  exact ⟨begins, cadence, told [.pass (.ofMillis 80)] (by simp [Request.retires, Request.stops]) (by decide)⟩

example :
    firingTimes (history steadyClock [.start ⟨"Note", "sweep"⟩ lateTrigger, .pass (.ofMillis 80)] 0) =
      [10, 20, 33, 63, 73].map fun ms => (Duration.ofMillis ms).nanos := by
  cbv

end Scheduler

end DocMapper
