import DocMapper.Proofs.SchedulerRuns
import Mathlib.Data.List.Induction
/-!
What a scheduler promises along every run. The keys are those started and not stopped since, each
with the job it was given last. A job fires whenever its schedule makes it due; one that has lost
its key begins nothing any more and ends what it has begun. A panic is told where the firing ends
and has no other effect, and calls on one key change nothing for the job of another.
-/

namespace DocMapper.Scheduler

/-! ## Started and not stopped since -/

/-- Something has come, given what came before it, and nothing that closes since. -/
def Since (opens : List Request → Request → Prop) (closes : Request → Bool) (requests : List Request) : Prop :=
  ∃ earlier r later, requests = earlier ++ r :: later ∧ opens earlier r ∧ ∀ q ∈ later, closes q = false

theorem not_since_nil (opens : List Request → Request → Prop) (closes : Request → Bool) : ¬Since opens closes [] := by
  rintro ⟨earlier, r, later, same, -⟩
  cases earlier <;> cases same

theorem since_snoc {opens : List Request → Request → Prop} {closes : Request → Bool} {requests : List Request}
    {r : Request} :
    Since opens closes (requests ++ [r]) ↔ opens requests r ∨ Since opens closes requests ∧ closes r = false := by
  constructor
  · rintro ⟨earlier, first, later, same, opened, kept⟩
    rcases List.eq_nil_or_concat later with rfl | ⟨front, last, rfl⟩
    · obtain ⟨rfl, only⟩ := List.append_inj' same rfl
      cases only
      exact .inl opened
    · rw [List.concat_eq_append, ← List.cons_append, ← List.append_assoc] at same
      obtain ⟨rfl, only⟩ := List.append_inj' same rfl
      cases only
      rw [List.concat_eq_append, List.forall_mem_append] at kept
      exact .inr ⟨⟨earlier, first, front, rfl, opened, kept.1⟩, kept.2 r List.mem_cons_self⟩
  · rintro (opened | ⟨⟨earlier, first, later, rfl, opened, kept⟩, still⟩)
    · exact ⟨requests, r, [], rfl, opened, fun q none => by cases none⟩
    · refine ⟨earlier, first, later ++ [r], by simp, opened, ?_⟩
      exact List.forall_mem_append.mpr ⟨kept, fun q last => List.mem_singleton.mp last ▸ still⟩

section Keys

variable {clock : WallClock} {requests : List Request} {key : TriggerKey} {n : Nat}

theorem session_snoc (clock : WallClock) (requests : List Request) (r : Request) :
    (session clock (requests ++ [r])).2 = ((session clock requests).2.perform r).2 := by
  simp [session, performAll_append, performAll]

theorem session_length (clock : WallClock) (requests : List Request) :
    (session clock requests).2.jobs.length = starts requests := by
  simp [session, performAll_length, empty]

theorem mem_registered_session :
    (key, n) ∈ (session clock requests).2.registered ↔
      Since (fun earlier r => key ∈ r.opens ∧ starts earlier = n) (Request.retires key) requests := by
  induction requests using List.reverseRecOn with
  | nil => exact iff_of_false (by rintro ⟨⟩) (not_since_nil _ _)
  | append_singleton requests r ih =>
      rw [session_snoc, mem_registered_perform, since_snoc, ih, session_length, eq_comm (a := n)]

theorem jobOf?_session_iff :
    (session clock requests).2.jobOf? key = some n ↔
      Since (fun earlier r => key ∈ r.opens ∧ starts earlier = n) (Request.retires key) requests :=
  (jobOf?_eq_some_iff (session_sound clock requests).keys).trans mem_registered_session

theorem retires_eq_stops {r : Request} (other : key ∉ r.opens) : r.retires key = r.stops key := by
  cases r with
  | start started trigger => simpa [Request.opens, Request.retires, Request.stops, eq_comm] using other
  | stop stopped | stopAll | drop | pass d => rfl

theorem exists_mem_registered_session (clock : WallClock) :
    (∃ n, (key, n) ∈ (session clock requests).2.registered) ↔
      Since (fun _ r => key ∈ r.opens) (Request.stops key) requests := by
  induction requests using List.reverseRecOn with
  | nil => exact iff_of_false (by rintro ⟨n, ⟨⟩⟩) (not_since_nil _ _)
  | append_singleton requests r ih =>
      simp only [session_snoc, mem_registered_perform, since_snoc, ← ih]
      by_cases opened : key ∈ r.opens
      · simp [opened]
      · simp [opened, retires_eq_stops opened]

theorem mem_keys_session_iff :
    key ∈ (session clock requests).2.keys ↔ Since (fun _ r => key ∈ r.opens) (Request.stops key) requests := by
  rw [← exists_mem_registered_session clock, keys, List.mem_mergeSort, List.mem_map]
  constructor
  · rintro ⟨⟨other, n⟩, listed, rfl⟩
    exact ⟨n, listed⟩
  · rintro ⟨n, listed⟩
    exact ⟨(key, n), listed, rfl⟩

theorem keys_session_nodup : (session clock requests).2.keys.Nodup :=
  (List.mergeSort_perm _ _).nodup_iff.mpr (session_sound clock requests).keys

end Keys

/-! ## Lives in parts -/

section Lives

variable {wall : Nat → Instant} {key other : TriggerKey} {now : Nat} {requests : List Request} {j : Job}

theorem elapsed_append (first second : List Request) : elapsed (first ++ second) = elapsed first + elapsed second := by
  induction first with
  | nil => simp [elapsed]
  | cons r rest ih => simp only [List.cons_append, elapsed, ih, Nat.add_assoc]

theorem live_append (first second : List Request) (now : Nat) (j : Job) :
    live wall key now (first ++ second) j =
      ((live wall key now first j).1 ++
          (live wall key (now + elapsed first) second (live wall key now first j).2).1,
        (live wall key (now + elapsed first) second (live wall key now first j).2).2) := by
  induction first generalizing now j with
  | nil => rfl
  | cons r rest ih =>
      have all : now + elapsed (r :: rest) = now + r.duration + elapsed rest := by
        simp [elapsed, Nat.add_assoc]
      simp only [List.cons_append, live, ih, List.append_assoc, all]

/-- The instants at which firings begin. -/
def firingTimes (history : List (Nat × JobEvent)) : List Nat :=
  (history.filter fun e => e.2 = .began).map Prod.fst

@[simp] theorem firingTimes_append (history later : List (Nat × JobEvent)) :
    firingTimes (history ++ later) = firingTimes history ++ firingTimes later := by
  simp [firingTimes]

theorem firingTimes_eq_nil {history : List (Nat × JobEvent)} (idle : ∀ event ∈ history, event.2 ≠ .began) :
    firingTimes history = [] := by
  simpa [firingTimes] using idle

theorem live_retired (retired : j.Retired) : ∀ event ∈ (live wall key now requests j).1, event.2 ≠ .began := by
  induction requests generalizing now j with
  | nil => exact fun event none => by cases none
  | cons r rest ih =>
      obtain ⟨after, first⟩ := r.act_retired retired
      exact List.forall_mem_append.mpr ⟨first, ih after⟩

/-- A request that retires a key leaves its job with nothing to begin. -/
theorem live_retires {r : Request} (retires : r.retires key = true) (later : List Request) :
    firingTimes (live wall key now (r :: later) j).1 = [] := by
  cases r with
  | pass d => cases retires
  | start started trigger | stop stopped | stopAll | drop =>
      apply firingTimes_eq_nil
      simp only [live, Request.act, retires, ↓reduceIte, List.nil_append]
      exact live_retired j.cancel_retired

theorem duration_of_isOn {r : Request} (on : r.isOn key = true) : r.duration = 0 := by
  cases r with
  | pass d => cases on
  | start started trigger | stop stopped | stopAll | drop => rfl

theorem act_foreign {r : Request} (foreign : r.isOn other = true) (different : key ≠ other) :
    r.act wall now key j = ([], j) := by
  cases r with
  | start started trigger =>
      obtain rfl : started = other := by simpa [Request.isOn] using foreign
      simp [Request.act, Request.retires, Ne.symm different]
  | stop stopped =>
      obtain rfl : stopped = other := by simpa [Request.isOn] using foreign
      simp [Request.act, Request.retires, Request.stops, Ne.symm different]
  | stopAll | drop | pass d => cases foreign

/-- The requests but for those on one key. -/
def without (key : TriggerKey) (requests : List Request) : List Request :=
  requests.filter fun r => !r.isOn key

theorem elapsed_without (key : TriggerKey) (requests : List Request) : elapsed (without key requests) = elapsed requests := by
  induction requests with
  | nil => rfl
  | cons r rest ih =>
      cases on : r.isOn key with
      | true =>
          have dropped : without key (r :: rest) = without key rest := by simp [without, on]
          rw [dropped, ih, elapsed, duration_of_isOn on, Nat.zero_add]
      | false =>
          have kept : without key (r :: rest) = r :: without key rest := by simp [without, on]
          rw [kept, elapsed, elapsed, ih]

theorem live_without (different : key ≠ other) (requests : List Request) (now : Nat) (j : Job) :
    live wall key now (without other requests) j = live wall key now requests j := by
  induction requests generalizing now j with
  | nil => rfl
  | cons r rest ih =>
      cases on : r.isOn other with
      | true =>
          have dropped : without other (r :: rest) = without other rest := by simp [without, on]
          simp only [dropped, live, act_foreign on different, duration_of_isOn on, Nat.add_zero, List.nil_append, ih]
      | false =>
          have kept : without other (r :: rest) = r :: without other rest := by simp [without, on]
          simp only [kept, live, ih]

end Lives

/-- A life tells of every firing that is due and of its end. If the job is cancelled at some time, or
is left no time for what is due at first, firings may be missing. -/
theorem live_told {clock : WallClock} {key : TriggerKey} {now : Nat} {j : Job} {missing : Prop} {requests : List Request}
    (paced : j.Paced) (settled : j.Settled now) (cancels : ∀ r ∈ requests, r.retires key = true → missing)
    (idle : j.step? clock.shows now = none ∨ missing ∨ 0 < elapsed requests) :
    j.Told clock.shows (now + elapsed requests) missing (live clock.shows key now requests j).1 := by
  induction requests generalizing now j with
  | nil =>
      rcases idle with idle | allowed | time
      · exact Job.told_of_idle idle
      · exact settled.told allowed
      · exact absurd time (Nat.lt_irrefl 0)
  | cons r rest ih =>
      have all : now + elapsed (r :: rest) = now + r.duration + elapsed rest := by
        simp [elapsed, Nat.add_assoc]
      rw [List.forall_mem_cons] at cancels
      obtain ⟨first, others⟩ := cancels
      rw [all]
      cases r with
      | pass d =>
          exact (ih (Job.advance_paced paced) (Job.advance_settled paced) others
            (.inl (Job.advance_idle paced))).advance (Nat.le_add_right _ _)
      | start started trigger | stop stopped | stopAll | drop =>
          simp only [live, Request.act, Request.duration, Nat.add_zero, List.nil_append]
          -- No time passes in such a request, and one that retires the key is what may be missing.
          split
          · next retires =>
              have allowed := first retires
              exact (ih (Job.cancel_paced paced) (Job.cancel_settled settled) others (.inr (.inl allowed))).cancel allowed
          · exact ih paced settled others (by simpa [elapsed, Request.duration] using idle)

/-! ## Panics -/

def Trigger.calm (t : Trigger) : Trigger :=
  { t with firings := fun k => (t.firings k).calm }

/-- The same request, with no firing of the trigger panicking. -/
def Request.calm : Request → Request
  | .start key trigger => .start key trigger.calm
  | r => r

section Calm

variable (s : Scheduler)

/-- The same event, with no word of a panic. -/
def calmEvent (e : SchedulerEvent) : SchedulerEvent :=
  { e with event := e.event.calm }

def calm (s : Scheduler) : Scheduler :=
  { s with jobs := s.jobs.map Job.calm }

theorem cancelJob_calm (n : Nat) (jobs : List Job) : cancelJob n (jobs.map Job.calm) = (cancelJob n jobs).map Job.calm := by
  refine List.ext_getElem? fun m => ?_
  rw [cancelJob, cancelJob, List.getElem?_map, List.getElem?_modify, List.getElem?_modify, List.getElem?_map]
  cases jobs[m]? with
  | none => rfl
  | some j => by_cases here : n = m <;> simp [here, Job.cancel_calm]

theorem cancelAll_calm (entries : List (TriggerKey × Nat)) (jobs : List Job) :
    entries.foldl (fun jobs entry => cancelJob entry.2 jobs) (jobs.map Job.calm) =
      (entries.foldl (fun jobs entry => cancelJob entry.2 jobs) jobs).map Job.calm := by
  induction entries generalizing jobs with
  | nil => rfl
  | cons entry rest ih => rw [List.foldl_cons, List.foldl_cons, cancelJob_calm, ih]

theorem stop_calm (key : TriggerKey) : (s.calm.stop key).2 = (s.stop key).2.calm := by
  have same : s.calm.jobOf? key = s.jobOf? key := rfl
  rw [stop, stop, same]
  cases s.jobOf? key with
  | none => rfl
  | some n => simp only [calm, cancelJob_calm]

theorem advanceJobs_calm (wall : Nat → Instant) (limit start : Nat) (jobs : List Job) :
    advanceJobs wall limit start (jobs.map Job.calm) =
      ((advanceJobs wall limit start jobs).1.map calmEvent, (advanceJobs wall limit start jobs).2.map Job.calm) := by
  induction jobs generalizing start with
  | nil => rfl
  | cons j rest ih =>
      simp only [List.map_cons, advanceJobs, ih, Job.advance_calm, List.map_append, List.map_map]
      rfl

theorem perform_calm (r : Request) : s.calm.perform r.calm = ((s.perform r).1.map calmEvent, (s.perform r).2.calm) := by
  cases r with
  | start key trigger =>
      simp only [perform, Request.calm, start, stop_calm, List.map_nil]
      simp [calm, Trigger.calm, Job.start_calm]
  | stop key => simp only [perform, Request.calm, stop_calm, List.map_nil]
  | stopAll | drop => simp only [perform, Request.calm, stopAll, calm, cancelAll_calm, List.map_nil]
  | pass d =>
      have jobs := advanceJobs_calm s.wall (s.now + d.nanos) 0 s.jobs
      have sorted := List.map_mergeSort (f := calmEvent)
        (r := fun a b : SchedulerEvent => decide (a.instant ≤ b.instant))
        (s := fun a b : SchedulerEvent => decide (a.instant ≤ b.instant))
        (l := (advanceJobs s.wall (s.now + d.nanos) 0 s.jobs).1) (fun a _ b _ => rfl)
      simp only [perform, Request.calm, advance, calm, jobs, sorted]

theorem performAll_calm (requests : List Request) (s : Scheduler) :
    performAll (requests.map Request.calm) s.calm =
      ((performAll requests s).1.map calmEvent, (performAll requests s).2.calm) := by
  induction requests generalizing s with
  | nil => rfl
  | cons r rest ih => simp only [List.map_cons, performAll, perform_calm, ih, List.map_append]

theorem session_calm (clock : WallClock) (requests : List Request) :
    session clock (requests.map Request.calm) =
      ((session clock requests).1.map calmEvent, (session clock requests).2.calm) :=
  performAll_calm requests (empty clock.shows)

end Calm

/-! ## Every run -/

/-- What holds of a scheduler after every run of requests. -/
structure Orderly (clock : WallClock) (requests : List Request) : Prop where
  /-- The keys are those started and not stopped since. -/
  keys : ∀ key, key ∈ (session clock requests).2.keys ↔ Since (fun _ r => key ∈ r.opens) (Request.stops key) requests
  keysOnce : (session clock requests).2.keys.Nodup
  /-- A key has one job, the last that was started under it. -/
  jobs : ∀ key n, (session clock requests).2.jobOf? key = some n ↔
    Since (fun earlier r => key ∈ r.opens ∧ starts earlier = n) (Request.retires key) requests
  /-- Once its key has been taken from a job it begins nothing. -/
  retired : ∀ earlier key trigger middle r later,
    requests = earlier ++ .start key trigger :: (middle ++ r :: later) → r.retires key = true →
      firingTimes (history clock requests (starts earlier)) =
        firingTimes (history clock (earlier ++ .start key trigger :: middle) (starts earlier))
  /-- A job begins every firing that its schedule makes due and ends it when its work is done. Only
  if it loses its key, or no time passes after the start, may firings be missing. -/
  fires : ∀ earlier key trigger later, requests = earlier ++ .start key trigger :: later →
    Job.Tells clock.shows trigger.firings (elapsed requests) ((∃ r ∈ later, r.retires key = true) ∨ elapsed later = 0) 0
      (Job.start clock.shows (elapsed earlier) trigger.schedule trigger.firings).phase
      (history clock requests (starts earlier))
  /-- Were no firing to panic, all would be the same but for the word of it. -/
  panics : (session clock (requests.map Request.calm)).1 = (session clock requests).1.map calmEvent
  /-- Without the calls on one key the jobs of the other keys live the same lives. -/
  apart : ∀ earlier key trigger later other, requests = earlier ++ .start key trigger :: later → key ≠ other →
    history clock (without other requests) (starts (without other earlier)) = history clock requests (starts earlier)

section Runs

variable (clock : WallClock) {earlier middle later : List Request} {key other : TriggerKey} {trigger : Trigger}

theorem history_retired {r : Request} (retires : r.retires key = true) :
    firingTimes (history clock (earlier ++ .start key trigger :: (middle ++ r :: later)) (starts earlier)) =
      firingTimes (history clock (earlier ++ .start key trigger :: middle) (starts earlier)) := by
  rw [history_started, history_started, live_append, firingTimes_append, live_retires retires, List.append_nil]

theorem history_tells :
    Job.Tells clock.shows trigger.firings (elapsed (earlier ++ .start key trigger :: later))
      ((∃ r ∈ later, r.retires key = true) ∨ elapsed later = 0) 0
      (Job.start clock.shows (elapsed earlier) trigger.schedule trigger.firings).phase
      (history clock (earlier ++ .start key trigger :: later) (starts earlier)) := by
  have all : elapsed (earlier ++ .start key trigger :: later) = elapsed earlier + elapsed later := by
    simp [elapsed_append, elapsed, Request.duration]
  rw [all, history_started]
  refine Job.told_start.mp (live_told (Job.start_paced trigger.paced trigger.firings)
    (Job.start_settled trigger.schedule trigger.firings) (fun r listed retires => .inl ⟨r, listed, retires⟩) ?_)
  rcases Nat.eq_zero_or_pos (elapsed later) with none | some
  · exact .inr (.inl (.inr none))
  · exact .inr (.inr some)

theorem history_without (different : key ≠ other) :
    history clock (without other (earlier ++ .start key trigger :: later)) (starts (without other earlier)) =
      history clock (earlier ++ .start key trigger :: later) (starts earlier) := by
  have kept : without other (earlier ++ .start key trigger :: later) =
      without other earlier ++ .start key trigger :: without other later := by
    simp [without, Request.isOn, different]
  rw [kept, history_started, history_started, elapsed_without, live_without different]

theorem sessions_orderly (requests : List Request) : Orderly clock requests where
  keys _ := mem_keys_session_iff
  keysOnce := keys_session_nodup
  jobs _ _ := jobOf?_session_iff
  retired earlier key trigger middle r later same retires := by
    rw [same]
    exact history_retired clock retires
  fires earlier key trigger later same := by
    rw [same]
    exact history_tells clock
  panics := congrArg Prod.fst (session_calm clock requests)
  apart earlier key trigger later other same different := by
    rw [same]
    exact history_without clock different

end Runs

/-- A wall clock that goes with the scheduler, from the start of 1970 on. -/
def steadyClock : WallClock where
  shows n := ⟨n / 1000000000, n % 1000000000⟩
  plain n := Nat.mod_lt n (by decide)

/-- Work of 25 ns every 10 ns, the second time with a panic. -/
def slowTrigger : Trigger where
  schedule := ⟨.every ⟨10⟩, none⟩
  firings k := ⟨⟨25⟩, k = 1⟩
  paced := by decide

example :
    history steadyClock [.start ⟨"Note", "sweep"⟩ slowTrigger, .pass ⟨40⟩, .stop ⟨"Note", "sweep"⟩, .pass ⟨100⟩] 0 =
      [(10, .began), (35, .ended false), (35, .began), (60, .ended true)] := by
  cbv

end DocMapper.Scheduler
