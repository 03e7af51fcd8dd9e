import DocMapper.Scheduler.Job
/-!
The life of one job. Every firing raises the instant from which the next one can come, so a stretch
of time holds no more steps than the fuel allows and nothing due is left at its end. From there on:
what a job tells of its firings, that a cancelled one begins none, and that a panic shows in the
event that ends a firing and nowhere else.
-/

namespace DocMapper

/-! ## A calendar names instants to come -/

namespace Cron

variable {c : Cron}

theorem secondOfDay?_ge {earliest second : Nat} (found : c.secondOfDay? earliest = some second) : earliest ≤ second := by
  obtain ⟨hour, -, found⟩ := List.exists_of_findSome?_eq_some found
  obtain ⟨minute, -, found⟩ := List.exists_of_findSome?_eq_some found
  obtain ⟨offset, -, found⟩ := List.exists_of_findSome?_eq_some found
  dsimp only at found
  split at found
  · next reached =>
      cases found
      exact reached
  · cases found

theorem onDate?_ge {start secs : Int} {d : Date} (found : c.onDate? start d = some secs) : start ≤ secs := by
  simp only [onDate?] at found
  split at found
  · obtain ⟨second, counted, rfl⟩ := Option.map_eq_some_iff.mp found
    obtain ⟨second, allowed, same⟩ := Option.bind_eq_some_iff.mp counted
    cases same
    have later := secondOfDay?_ge allowed
    omega
  · cases found

theorem next?_later {now next : Instant} (found : c.next? now = some next) : now.secs < next.secs ∧ next.nanos = 0 := by
  simp only [next?] at found
  obtain ⟨secs, dated, rfl⟩ := Option.map_eq_some_iff.mp found
  obtain ⟨year, -, dated⟩ := List.exists_of_findSome?_eq_some dated
  split at dated
  · cases dated
  · obtain ⟨month, -, dated⟩ := List.exists_of_findSome?_eq_some dated
    obtain ⟨day, -, dated⟩ := List.exists_of_findSome?_eq_some dated
    have later : now.secs + 1 ≤ secs := onDate?_ge dated
    exact ⟨Int.lt_of_lt_of_le (Int.lt_succ now.secs) later, rfl⟩

end Cron

/-- The wall clock of a program, at the instants since its scheduler came to be. It shows no leap
seconds: their fraction would be a second or more. -/
structure WallClock where
  shows : Nat → Instant
  plain : ∀ n, (shows n).nanos < 1000000000

theorem Schedule.delayAfter_pos {s : Schedule} (calendar : s.interval? = none) {now : Instant}
    (plain : now.nanos < 1000000000) {d : Duration} (due : s.delayAfter now = some d) : 0 < d.nanos := by
  rw [delayAfter] at due
  rw [interval?] at calendar
  split at calendar
  · cases calendar
  · next c recurs =>
      rw [recurs] at due
      obtain ⟨next, found, rfl⟩ := Option.map_eq_some_iff.mp due
      obtain ⟨later, whole⟩ := Cron.next?_later found
      simp only [Instant.since, Instant.toNanos]
      omega

/-! ## What a job waits for -/

namespace Ticker

/-- A ticker that does not stand still: its interval is not zero, or it goes by a calendar. -/
def Paced : Ticker → Prop
  | .interval period _ => 0 < period.nanos
  | .calendar schedule _ => schedule.interval? = none

/-- From where on a firing can come, for a job that waits from `now` on. -/
def resume (now : Nat) : Ticker → Nat
  | .interval _ deadline => deadline
  | .calendar _ false => now
  | .calendar _ true => now + 1

theorem resume_mono {now later : Nat} (le : now ≤ later) (ticker : Ticker) : ticker.resume now ≤ ticker.resume later := by
  cases ticker with
  | interval period deadline => exact Nat.le_refl deadline
  | calendar schedule fired => cases fired <;> simp only [resume] <;> omega

theorem start_paced {schedule : Schedule} (nonzero : schedule.interval? ≠ some .zero) (wall : Nat → Instant) (now : Nat) :
    (start schedule wall now).Paced := by
  rw [start]
  split
  · next period given =>
      rw [Paced, Nat.pos_iff_ne_zero]
      intro zero
      exact nonzero (given.trans (congrArg some (congrArg Duration.mk zero)))
  · next calendar => exact calendar

theorem next_ge {wall : Nat → Instant} {now instant : Nat} {ticker following : Ticker}
    (due : ticker.next wall now = some (instant, following)) : now ≤ instant := by
  cases ticker with
  | interval period deadline =>
      simp only [next, Option.some.injEq, Prod.mk.injEq] at due
      omega
  | calendar schedule fired =>
      obtain ⟨d, -, same⟩ := Option.map_eq_some_iff.mp due
      cases same
      omega

/-- Every firing comes no sooner than it can, and puts off the next one. -/
theorem next_resume {clock : WallClock} {now instant : Nat} {ticker following : Ticker} (paced : ticker.Paced)
    (due : ticker.next clock.shows now = some (instant, following)) :
    following.Paced ∧ ticker.resume now ≤ instant ∧ ticker.resume now < following.resume instant := by
  cases ticker with
  | interval period deadline =>
      have nonzero : 0 < period.nanos := paced
      simp only [next, Option.some.injEq, Prod.mk.injEq] at due
      obtain ⟨rfl, rfl⟩ := due
      refine ⟨nonzero, ?_, ?_⟩
      · simp only [resume]
        omega
      · simp only [resume]
        split <;> omega
  | calendar schedule fired =>
      obtain ⟨d, delayed, same⟩ := Option.map_eq_some_iff.mp due
      cases same
      refine ⟨paced, ?_⟩
      cases fired with
      | false =>
          simp only [resume]
          omega
      | true =>
          -- A calendar that has fired waits a positive time, so no instant is used twice.
          have positive : 0 < d.nanos := Schedule.delayAfter_pos paced (clock.plain now) (by simpa using delayed)
          simp only [resume]
          omega

end Ticker

namespace Job

variable {clock : WallClock} {wall : Nat → Instant} {limit now fuel : Nat} {j after : Job}

/-! ## One step -/

theorem step?_cases {instant : Nat} {event : JobEvent} (stepped : j.step? wall limit = some ((instant, event), after)) :
    (∃ ticker, j.phase = .waiting instant ticker ∧ instant ≤ limit ∧ event = .began ∧
        after = { j with
          begun := j.begun + 1
          phase := .firing (instant + (j.firings j.begun).work.nanos) ticker false }) ∨
      (∃ ticker cancelled, j.phase = .firing instant ticker cancelled ∧ instant ≤ limit ∧
        event = .ended (j.firings (j.begun - 1)).panics ∧
        after = { j with phase := if cancelled then .over else waitFrom wall instant ticker }) := by
  rw [step?] at stepped
  split at stepped
  · next due ticker waiting =>
      split at stepped
      · next reached =>
          cases stepped
          exact .inl ⟨ticker, waiting, reached, rfl, rfl⟩
      · cases stepped
  · next due ticker cancelled firing =>
      split at stepped
      · next reached =>
          cases stepped
          exact .inr ⟨ticker, cancelled, firing, reached, rfl, rfl⟩
      · cases stepped
  · cases stepped

theorem run_induction (wall : Nat → Instant) (limit : Nat) {motive : Job → List (Nat × JobEvent) → Job → Prop} (stay : ∀ j, motive j [] j)
    (step : ∀ j event after events last, j.step? wall limit = some (event, after) → motive after events last →
      motive j (event :: events) last) (fuel : Nat) (j : Job) :
    motive j (run wall limit fuel j).1 (run wall limit fuel j).2 := by
  induction fuel generalizing j with
  | zero => exact stay j
  | succ fuel ih =>
      rw [run]
      cases stepped : j.step? wall limit with
      | none => exact stay j
      | some result => exact step j result.1 result.2 _ _ stepped (ih result.2)

/-! ## Events in order -/

/-- Nothing happens to the job before an instant. -/
def From (t : Nat) (j : Job) : Prop :=
  match j.phase with
  | .waiting instant _ => t ≤ instant
  | .firing instant _ _ => t ≤ instant
  | .over => True

theorem step?_from {t : Nat} {event : Nat × JobEvent} (begins : j.From t) (stepped : j.step? wall limit = some (event, after)) :
    t ≤ event.1 ∧ after.From event.1 := by
  rw [From] at begins
  obtain ⟨ticker, waiting, -, -, rfl⟩ | ⟨ticker, cancelled, firing, -, -, rfl⟩ := step?_cases stepped
  · rw [waiting] at begins
    exact ⟨begins, Nat.le_add_right _ _⟩
  · rw [firing] at begins
    refine ⟨begins, ?_⟩
    cases cancelled with
    | true => trivial
    | false =>
        simp only [From, waitFrom, Bool.false_eq_true, ↓reduceIte]
        cases due : ticker.next wall event.1 with
        | none => trivial
        | some next => exact Ticker.next_ge due

theorem advance_sorted (j : Job) : (j.advance wall limit).1.Pairwise fun a b => a.1 ≤ b.1 := by
  have ordered := run_induction wall limit
    (motive := fun j events _ => (∀ t, j.From t → ∀ e ∈ events, t ≤ e.1) ∧ events.Pairwise fun a b => a.1 ≤ b.1)
    (fun _ => ⟨by simp, List.Pairwise.nil⟩)
    (fun j event after events _ stepped ih => by
      obtain ⟨later, sorted⟩ := ih
      refine ⟨fun t begins => ?_, ?_⟩
      · obtain ⟨first, follows⟩ := step?_from begins stepped
        exact List.forall_mem_cons.mpr ⟨first, fun e listed => Nat.le_trans first (later event.1 follows e listed)⟩
      · have anywhere : j.From 0 := by
          rw [From]
          cases j.phase <;> simp
        exact List.pairwise_cons.mpr ⟨later event.1 (step?_from anywhere stepped).2, sorted⟩)
    (2 * limit + 4) j
  exact ordered.2

/-! ## Nothing due is left -/

def Paced (j : Job) : Prop :=
  match j.phase with
  | .waiting _ ticker => ticker.Paced
  | .firing _ ticker _ => ticker.Paced
  | .over => True

/-- A bound on the steps up to `limit`. -/
def remaining (limit : Nat) (j : Job) : Nat :=
  match j.phase with
  | .waiting instant ticker => if instant ≤ limit then 2 + 2 * (limit + 1 - ticker.resume instant) else 0
  | .firing instant ticker _ => if instant ≤ limit then 1 + 2 * (limit + 1 - ticker.resume instant) else 0
  | .over => 0

theorem remaining_le (limit : Nat) (j : Job) : j.remaining limit ≤ 2 * limit + 4 := by
  rw [remaining]
  split
  · split <;> omega
  · split <;> omega
  · omega

theorem waitFrom_paced {ticker : Ticker} (paced : ticker.Paced) {schedule : Schedule} {firings : Nat → Firing} {begun : Nat} :
    (Job.mk schedule firings begun (waitFrom clock.shows now ticker)).Paced := by
  rw [Paced, waitFrom]
  cases due : ticker.next clock.shows now with
  | none => trivial
  | some next => exact (Ticker.next_resume paced due).1

theorem start_paced {schedule : Schedule} (nonzero : schedule.interval? ≠ some .zero) (firings : Nat → Firing) :
    (start clock.shows now schedule firings).Paced :=
  waitFrom_paced (Ticker.start_paced nonzero clock.shows now)

theorem step?_paced {event : Nat × JobEvent} (paced : j.Paced) (stepped : j.step? clock.shows limit = some (event, after)) :
    after.Paced := by
  rw [Paced] at paced
  obtain ⟨ticker, waiting, -, -, rfl⟩ | ⟨ticker, cancelled, firing, -, -, rfl⟩ := step?_cases stepped
  · rw [waiting] at paced
    exact paced
  · rw [firing] at paced
    cases cancelled with
    | true => trivial
    | false => exact waitFrom_paced paced

theorem remaining_lt {event : Nat × JobEvent} (paced : j.Paced) (stepped : j.step? clock.shows limit = some (event, after)) :
    after.remaining limit < j.remaining limit := by
  rw [Paced] at paced
  obtain ⟨ticker, waiting, reached, -, rfl⟩ | ⟨ticker, cancelled, firing, reached, -, rfl⟩ := step?_cases stepped
  · have later := ticker.resume_mono (Nat.le_add_right event.1 (j.firings j.begun).work.nanos)
    simp only [remaining, waiting, reached, ↓reduceIte]
    split <;> omega
  · rw [firing] at paced
    simp only [remaining, firing, reached, ↓reduceIte]
    -- A cancelled job has nothing left, and any other waits for an instant behind this one.
    cases cancelled with
    | true =>
        simp only [↓reduceIte]
        omega
    | false =>
        simp only [Bool.false_eq_true, ↓reduceIte, waitFrom]
        cases due : ticker.next clock.shows event.1 with
        | none =>
            simp only
            omega
        | some next =>
            obtain ⟨-, possible, later⟩ := Ticker.next_resume paced due
            simp only
            split <;> omega

/-- With fuel for the steps that remain, a run goes on until nothing is due. -/
theorem run_settles (paced : j.Paced) (enough : j.remaining limit ≤ fuel) :
    (run clock.shows limit fuel j).2.step? clock.shows limit = none := by
  induction fuel generalizing j with
  | zero =>
      cases stepped : j.step? clock.shows limit with
      | none => exact stepped
      | some result =>
          have fewer := remaining_lt paced stepped
          omega
  | succ fuel ih =>
      rw [run]
      cases stepped : j.step? clock.shows limit with
      | none => exact stepped
      | some result =>
          have fewer := remaining_lt paced stepped
          exact ih (step?_paced paced stepped) (by omega)

theorem advance_paced (paced : j.Paced) : (j.advance clock.shows limit).2.Paced :=
  run_induction clock.shows limit (motive := fun j _ last => j.Paced → last.Paced) (fun _ => id)
    (fun _ _ _ _ _ stepped ih paced => ih (step?_paced paced stepped)) (2 * limit + 4) j paced

/-- The firing under way, if there is one, has not reached its end. -/
def Settled (now : Nat) (j : Job) : Prop :=
  ∀ ends ticker cancelled, j.phase = .firing ends ticker cancelled → now < ends

theorem start_settled (schedule : Schedule) (firings : Nat → Firing) : (start wall now schedule firings).Settled now := by
  intro ends ticker cancelled firing
  simp only [start, waitFrom] at firing
  split at firing <;> cases firing

theorem advance_idle (paced : j.Paced) : (j.advance clock.shows limit).2.step? clock.shows limit = none :=
  run_settles paced (remaining_le limit j)

theorem settled_of_idle (idle : j.step? wall now = none) : j.Settled now := by
  intro ends ticker cancelled firing
  rw [step?, firing] at idle
  simpa using idle

theorem advance_settled (paced : j.Paced) : (j.advance clock.shows limit).2.Settled limit :=
  settled_of_idle (advance_idle paced)

/-! ## Cancelled jobs -/

/-- A job that begins nothing any more. -/
def Retired (j : Job) : Prop :=
  j.phase = .over ∨ ∃ ends ticker, j.phase = .firing ends ticker true

theorem cancel_phase (j : Job) :
    j.cancel.phase = match j.phase with
      | .firing ends ticker _ => .firing ends ticker true
      | _ => .over := by
  rw [cancel]
  cases j.phase <;> rfl

theorem cancel_retired (j : Job) : j.cancel.Retired := by
  rw [Retired, cancel_phase]
  cases j.phase with
  | firing ends ticker cancelled => exact .inr ⟨ends, ticker, rfl⟩
  | _ => exact .inl rfl

theorem Retired.cancel_eq (retired : j.Retired) : j.cancel = j := by
  obtain ⟨schedule, firings, begun, phase⟩ := j
  rcases retired with finished | ⟨ends, ticker, firing⟩
  · cases finished
    rfl
  · cases firing
    rfl

theorem cancel_cancel (j : Job) : j.cancel.cancel = j.cancel :=
  (cancel_retired j).cancel_eq

theorem cancel_paced (paced : j.Paced) : j.cancel.Paced := by
  rw [Paced] at paced
  rw [Paced, cancel_phase]
  cases phase : j.phase with
  | firing ends ticker cancelled =>
      rw [phase] at paced
      exact paced
  | _ => trivial

theorem cancel_settled (settled : j.Settled now) : j.cancel.Settled now := by
  intro ends ticker cancelled firing
  rw [cancel_phase] at firing
  cases phase : j.phase with
  | firing instant waited was =>
      simp only [phase, JobPhase.firing.injEq] at firing
      exact firing.1 ▸ settled instant waited was phase
  | _ => simp [phase] at firing

theorem Retired.step? {event : Nat × JobEvent} (retired : j.Retired) (stepped : j.step? wall limit = some (event, after)) :
    after.Retired ∧ event.2 ≠ .began := by
  obtain ⟨ticker, waiting, -⟩ | ⟨ticker, cancelled, firing, -, ended, rfl⟩ := step?_cases stepped
  · rcases retired with finished | ⟨_, _, firing⟩
    · simp [finished] at waiting
    · simp [firing] at waiting
  · rcases retired with finished | ⟨_, _, last⟩
    · simp [finished] at firing
    · rw [last] at firing
      cases firing
      exact ⟨.inl rfl, by rw [ended]; exact JobEvent.noConfusion⟩

theorem Retired.advance (retired : j.Retired) :
    (j.advance wall limit).2.Retired ∧ ∀ event ∈ (j.advance wall limit).1, event.2 ≠ .began :=
  run_induction wall limit
    (motive := fun j events last => j.Retired → last.Retired ∧ ∀ event ∈ events, event.2 ≠ .began)
    (fun _ retired => ⟨retired, by simp⟩)
    (fun _ _ _ _ _ stepped ih retired =>
      have ⟨after, first⟩ := retired.step? stepped
      have ⟨last, rest⟩ := ih after
      ⟨last, List.forall_mem_cons.mpr ⟨first, rest⟩⟩)
    (2 * limit + 4) j retired

/-! ## What is told of firings -/

/-- What is told by an instant of the firings from the `k`-th on, for a job in a phase between two
of them. One that is due begins then and ends when its work is done. Only if some may be missing
does the tale stop short of one that is due, and then it stops for good. -/
inductive Tells (wall : Nat → Instant) (firings : Nat → Firing) (now : Nat) (missing : Prop) :
    Nat → JobPhase → List (Nat × JobEvent) → Prop
  | short {k : Nat} {phase : JobPhase} (allowed : missing) : Tells wall firings now missing k phase []
  | finished {k : Nat} : Tells wall firings now missing k .over []
  | future {k due : Nat} {ticker : Ticker} (waits : now < due) : Tells wall firings now missing k (.waiting due ticker) []
  | busy {k due : Nat} {ticker : Ticker} (reached : due ≤ now) (works : now < due + (firings k).work.nanos) :
      Tells wall firings now missing k (.waiting due ticker) [(due, .began)]
  | firing {k due : Nat} {ticker : Ticker} {rest : List (Nat × JobEvent)} (reached : due + (firings k).work.nanos ≤ now)
      (later : Tells wall firings now missing (k + 1) (waitFrom wall (due + (firings k).work.nanos) ticker) rest) :
      Tells wall firings now missing k (.waiting due ticker)
        ((due, .began) :: (due + (firings k).work.nanos, .ended (firings k).panics) :: rest)

/-- The same for a job in any phase: a firing under way ends first. -/
def Told (wall : Nat → Instant) (now : Nat) (missing : Prop) (j : Job) (history : List (Nat × JobEvent)) : Prop :=
  match j.phase with
  | .firing ends ticker cancelled =>
      history = [] ∧ now < ends ∨
        ∃ rest, history = (ends, .ended (j.firings (j.begun - 1)).panics) :: rest ∧ ends ≤ now ∧
          Tells wall j.firings now missing j.begun (if cancelled then .over else waitFrom wall ends ticker) rest
  | phase => Tells wall j.firings now missing j.begun phase history

variable {missing : Prop} {history : List (Nat × JobEvent)}

theorem Tells.over_eq_nil {firings : Nat → Firing} {k : Nat} (tells : Tells wall firings now missing k .over history) :
    history = [] := by
  cases tells <;> rfl

theorem told_of_tells {waits : JobPhase} (waiting : ∀ ends ticker cancelled, waits ≠ .firing ends ticker cancelled)
    (phase : j.phase = waits) :
    j.Told wall now missing history ↔ Tells wall j.firings now missing j.begun waits history := by
  rw [Told, phase]
  cases waits with
  | firing ends ticker cancelled => exact absurd rfl (waiting ends ticker cancelled)
  | _ => exact Iff.rfl

theorem waitFrom_not_firing (ticker : Ticker) (ends : Nat) (waited : Ticker) (cancelled : Bool) :
    waitFrom wall now ticker ≠ .firing ends waited cancelled := by
  rw [waitFrom]
  split <;> exact JobPhase.noConfusion

theorem told_of_idle (idle : j.step? wall now = none) : j.Told wall now missing [] := by
  rw [step?] at idle
  rw [Told]
  cases phase : j.phase with
  | waiting due ticker =>
      rw [phase] at idle
      exact .future (by simpa using idle)
  | firing ends ticker cancelled =>
      rw [phase] at idle
      exact .inl ⟨rfl, by simpa using idle⟩
  | _ => exact .finished

theorem Settled.told (settled : j.Settled now) (allowed : missing) : j.Told wall now missing [] := by
  rw [Told]
  split
  · next ends ticker cancelled firing => exact .inl ⟨rfl, settled ends ticker cancelled firing⟩
  · exact .short allowed

theorem Told.step? {event : Nat × JobEvent} (by_now : limit ≤ now) (stepped : j.step? wall limit = some (event, after))
    (told : after.Told wall now missing history) : j.Told wall now missing (event :: history) := by
  obtain ⟨instant, event⟩ := event
  obtain ⟨ticker, waiting, reached, rfl, rfl⟩ | ⟨ticker, cancelled, firing, reached, rfl, rfl⟩ := step?_cases stepped
  · have due : instant ≤ now := Nat.le_trans reached by_now
    rw [Told, waiting]
    rcases told with ⟨rfl, works⟩ | ⟨rest, rfl, worked, later⟩
    · exact .busy due works
    · exact .firing worked later
  · rw [Told, firing]
    refine .inr ⟨history, rfl, Nat.le_trans reached by_now, ?_⟩
    refine (told_of_tells ?_ rfl).mp told
    cases cancelled with
    | true => exact fun _ _ _ => JobPhase.noConfusion
    | false => exact waitFrom_not_firing ticker

/-- What a cancelled job tells may be told of the job, if firings may be missing. -/
theorem Told.cancel (told : j.cancel.Told wall now missing history) (allowed : missing) : j.Told wall now missing history := by
  obtain ⟨schedule, firings, begun, phase⟩ := j
  cases phase with
  | firing ends ticker cancelled =>
      rcases told with still | ⟨rest, rfl, reached, later⟩
      · exact .inl still
      · obtain rfl := later.over_eq_nil
        exact .inr ⟨[], rfl, reached, .short allowed⟩
  | _ =>
      obtain rfl := Tells.over_eq_nil told
      exact .short allowed

theorem Told.advance (by_now : limit ≤ now) (told : (j.advance wall limit).2.Told wall now missing history) :
    j.Told wall now missing ((j.advance wall limit).1 ++ history) :=
  run_induction wall limit
    (motive := fun j events last => last.Told wall now missing history → j.Told wall now missing (events ++ history))
    (fun _ told => told) (fun _ _ _ _ _ stepped ih told => (ih told).step? by_now stepped) (2 * limit + 4) j told

theorem told_start {schedule : Schedule} {firings : Nat → Firing} {start : Nat} :
    (Job.start wall start schedule firings).Told wall now missing history ↔
      Tells wall firings now missing 0 (waitFrom wall start (.start schedule wall start)) history :=
  told_of_tells (waitFrom_not_firing _) rfl

end Job

/-! ## Panics -/

def Firing.calm (f : Firing) : Firing :=
  { f with panics := false }

def JobEvent.calm : JobEvent → JobEvent
  | .began => .began
  | .ended _ => .ended false

namespace Job

variable {wall : Nat → Instant} {limit : Nat}

/-- A job with the same firings, none of which panics. -/
def calm (j : Job) : Job :=
  { j with firings := fun k => (j.firings k).calm }

theorem start_calm (now : Nat) (schedule : Schedule) (firings : Nat → Firing) :
    start wall now schedule (fun k => (firings k).calm) = (start wall now schedule firings).calm :=
  rfl

theorem cancel_calm (j : Job) : j.calm.cancel = j.cancel.calm := by
  obtain ⟨schedule, firings, begun, phase⟩ := j
  cases phase <;> rfl

theorem step?_calm (j : Job) :
    j.calm.step? wall limit = (j.step? wall limit).map fun s => ((s.1.1, s.1.2.calm), s.2.calm) := by
  obtain ⟨schedule, firings, begun, phase⟩ := j
  cases phase with
  | waiting instant ticker =>
      by_cases reached : instant ≤ limit <;> simp [step?, calm, reached, JobEvent.calm, Firing.calm]
  | firing instant ticker cancelled =>
      by_cases reached : instant ≤ limit <;> simp [step?, calm, reached, JobEvent.calm, Firing.calm]
  | _ => rfl

theorem run_calm (fuel : Nat) (j : Job) :
    run wall limit fuel j.calm =
      ((run wall limit fuel j).1.map (fun e => (e.1, e.2.calm)), (run wall limit fuel j).2.calm) := by
  induction fuel generalizing j with
  | zero => rfl
  | succ fuel ih =>
      rw [run, run, step?_calm]
      cases stepped : j.step? wall limit with
      | none => rfl
      | some result =>
          simp only [Option.map_some, ih, List.map_cons]

theorem advance_calm (j : Job) :
    j.calm.advance wall limit =
      ((j.advance wall limit).1.map (fun e => (e.1, e.2.calm)), (j.advance wall limit).2.calm) :=
  run_calm (2 * limit + 4) j

end Job

end DocMapper
