import DocMapper.Proofs.DictLaws
import DocMapper.Proofs.JobLives
import DocMapper.Scheduler.Basic
/-!
Runs of a scheduler: calls, and time that passes between them. The jobs of a run do not meet. What
happens to the one that a start has made is what its own key and the time bring to it, whatever
happens under other keys.
-/

namespace DocMapper.Scheduler

/-- Something to do on a schedule. No schedule that can be made has an interval of zero. -/
structure Trigger where
  schedule : Schedule
  firings : Nat → Firing
  paced : schedule.interval? ≠ some .zero

/-- What can come to a scheduler. -/
inductive Request where
  | start (key : TriggerKey) (trigger : Trigger)
  | stop (key : TriggerKey)
  | stopAll
  | drop
  | pass (d : Duration)

namespace Request

/-- The keys that get a job. -/
def opens : Request → List TriggerKey
  | .start key _ => [key]
  | _ => []

/-- The key is taken away. -/
def stops (key : TriggerKey) : Request → Bool
  | .stop other => other = key
  | .stopAll | .drop => true
  | .start _ _ | .pass _ => false

/-- The job under the key is cancelled. -/
def retires (key : TriggerKey) : Request → Bool
  | .start other _ => other = key
  | r => r.stops key

/-- The call is on the key and no other. -/
def isOn (key : TriggerKey) : Request → Bool
  | .start other _ | .stop other => other = key
  | .stopAll | .drop | .pass _ => false

/-- The time that passes. -/
def duration : Request → Nat
  | .pass d => d.nanos
  | _ => 0

/-- What a request brings to a job started under a key. -/
def act (wall : Nat → Instant) (now : Nat) (key : TriggerKey) (j : Job) : Request → List (Nat × JobEvent) × Job
  | .pass d => j.advance wall (now + d.nanos)
  | r => ([], if r.retires key then j.cancel else j)

end Request

theorem Request.act_retired {wall : Nat → Instant} {now : Nat} {key : TriggerKey} {j : Job} (retired : j.Retired) (r : Request) :
    (r.act wall now key j).2.Retired ∧ ∀ event ∈ (r.act wall now key j).1, event.2 ≠ .began := by
  have stays (r : Bool) : (if r then j.cancel else j).Retired := by
    cases r with
    | true => exact j.cancel_retired
    | false => exact retired
  cases r with
  | start other trigger | stop other | stopAll | drop => exact ⟨stays _, fun _ none => by cases none⟩
  | pass d => exact retired.advance

/-- How many jobs are started. -/
def starts (requests : List Request) : Nat :=
  (requests.flatMap Request.opens).length

/-- The time that passes in all. -/
def elapsed : List Request → Nat
  | [] => 0
  | r :: rest => r.duration + elapsed rest

/-- All that requests bring to a job started under a key. -/
def live (wall : Nat → Instant) (key : TriggerKey) : Nat → List Request → Job → List (Nat × JobEvent) × Job
  | _, [], j => ([], j)
  | now, r :: rest, j =>
      let (events, j) := r.act wall now key j
      let (later, j) := live wall key (now + r.duration) rest j
      (events ++ later, j)

/-- The events of one job. -/
def happenedTo (n : Nat) (events : List SchedulerEvent) : List (Nat × JobEvent) :=
  (events.filter fun e => e.job = n).map fun e => (e.instant, e.event)

@[simp] theorem happenedTo_append (n : Nat) (events later : List SchedulerEvent) :
    happenedTo n (events ++ later) = happenedTo n events ++ happenedTo n later := by
  simp [happenedTo]

def perform (s : Scheduler) : Request → List SchedulerEvent × Scheduler
  | .start key trigger => ([], (s.start key trigger.schedule trigger.firings).2)
  | .stop key => ([], (s.stop key).2)
  | .stopAll | .drop => ([], s.stopAll.2)
  | .pass d => s.advance d

def performAll : List Request → Scheduler → List SchedulerEvent × Scheduler
  | [], s => ([], s)
  | r :: rest, s =>
      let (events, s) := s.perform r
      let (later, s) := performAll rest s
      (events ++ later, s)

theorem performAll_append (first second : List Request) (s : Scheduler) :
    performAll (first ++ second) s =
      ((performAll first s).1 ++ (performAll second (performAll first s).2).1,
        (performAll second (performAll first s).2).2) := by
  induction first generalizing s with
  | nil => rfl
  | cons r rest ih => simp only [List.cons_append, performAll, ih, List.append_assoc]

/-! ## What a request does to the table of keys -/

section Registered

variable {s : Scheduler} {key other : TriggerKey} {n : Nat} {r : Request}

theorem jobOf?_eq_some_iff (keys : (s.registered.map Prod.fst).Nodup) :
    s.jobOf? key = some n ↔ (key, n) ∈ s.registered :=
  Dict.lookup_eq_some_iff_mem keys

theorem jobOf?_eq_none_iff : s.jobOf? key = none ↔ ∀ n, (key, n) ∉ s.registered := by
  rw [jobOf?, List.lookup_eq_none_iff]
  constructor
  · intro absent n listed
    simpa using absent (key, n) listed
  · rintro absent ⟨other, n⟩ listed
    have different : key ≠ other := fun same => absent n (same ▸ listed)
    simpa using different

theorem mem_registered_stop : (key, n) ∈ (s.stop other).2.registered ↔ (key, n) ∈ s.registered ∧ key ≠ other := by
  rw [stop]
  cases found : s.jobOf? other with
  | some m => simp
  | none =>
      have absent := jobOf?_eq_none_iff.mp found
      constructor
      · exact fun listed => ⟨listed, fun same => absent n (same ▸ listed)⟩
      · exact fun listed => listed.1

theorem stop_length (s : Scheduler) (other : TriggerKey) : (s.stop other).2.jobs.length = s.jobs.length := by
  rw [stop]
  cases s.jobOf? other <;> simp [cancelJob]

theorem mem_registered_perform :
    (key, n) ∈ (s.perform r).2.registered ↔
      key ∈ r.opens ∧ n = s.jobs.length ∨ (key, n) ∈ s.registered ∧ r.retires key = false := by
  cases r with
  | start other trigger =>
      simp only [perform, start, List.mem_cons, stop_length, mem_registered_stop, Request.opens, Request.retires]
      simp [eq_comm, and_comm]
  | stop other =>
      simp only [perform, mem_registered_stop, Request.opens, Request.retires, Request.stops]
      simp [eq_comm]
  | stopAll => simp [perform, stopAll, Request.opens, Request.retires, Request.stops]
  | drop => simp [perform, stopAll, Request.opens, Request.retires, Request.stops]
  | pass d => simp [perform, advance, Request.opens, Request.retires, Request.stops]

end Registered

/-! ## What a request does to one job -/

section Jobs

variable {s : Scheduler} {key other : TriggerKey} {n limit : Nat} {r : Request} {j : Job} {wall : Nat → Instant}

theorem advanceJobs_jobs (start : Nat) (jobs : List Job) :
    (advanceJobs wall limit start jobs).2 = jobs.map fun j => (j.advance wall limit).2 := by
  induction jobs generalizing start with
  | nil => rfl
  | cons j rest ih => simp only [advanceJobs, ih, List.map_cons]

theorem happenedTo_own (n : Nat) (events : List (Nat × JobEvent)) :
    happenedTo n (events.map fun e => ⟨n, e.1, e.2⟩) = events := by
  induction events with
  | nil => rfl
  | cons e rest ih => simpa [happenedTo] using ih

theorem happenedTo_foreign {n m : Nat} (different : m ≠ n) (events : List (Nat × JobEvent)) :
    happenedTo n (events.map fun e => ⟨m, e.1, e.2⟩) = [] := by
  rw [happenedTo, List.map_eq_nil_iff, List.filter_eq_nil_iff]
  intro e listed
  obtain ⟨_, -, rfl⟩ := List.mem_map.mp listed
  simpa using different

theorem happenedTo_earlier {start : Nat} (before : n < start) (jobs : List Job) :
    happenedTo n (advanceJobs wall limit start jobs).1 = [] := by
  induction jobs generalizing start with
  | nil => rfl
  | cons j rest ih =>
      simp only [advanceJobs, happenedTo_append, happenedTo_foreign (Nat.ne_of_gt before),
        ih (Nat.lt_succ_of_lt before), List.append_nil]

/-- While time passes the events of a job are its own. -/
theorem happenedTo_advanceJobs (start n : Nat) (jobs : List Job) :
    happenedTo (start + n) (advanceJobs wall limit start jobs).1 =
      (jobs[n]?.map fun j => (j.advance wall limit).1).getD [] := by
  induction jobs generalizing start n with
  | nil => rfl
  | cons j rest ih =>
      simp only [advanceJobs, happenedTo_append]
      cases n with
      | zero =>
          have own := happenedTo_own start (j.advance wall limit).1
          simp [own, happenedTo_earlier (Nat.lt_succ_self start)]
      | succ n =>
          have later : start + (n + 1) = start + 1 + n := by omega
          rw [happenedTo_foreign (by omega), List.nil_append, later, ih]
          rfl

/-- Sorting by instants leaves the events of a job in order, if they are in order. -/
theorem happenedTo_mergeSort {events : List SchedulerEvent}
    (sorted : (happenedTo n events).Pairwise fun a b => a.1 ≤ b.1) :
    happenedTo n (events.mergeSort fun a b => a.instant ≤ b.instant) = happenedTo n events := by
  rw [happenedTo, List.pairwise_map] at sorted
  have kept : (events.filter fun e => e.job = n).Sublist (events.mergeSort fun a b => a.instant ≤ b.instant) := by
    apply List.sublist_mergeSort
    · intro a b c first second
      simp only [decide_eq_true_eq] at first second ⊢
      omega
    · intro a b
      simp only [Bool.or_eq_true, decide_eq_true_eq]
      omega
    · simpa using sorted
    · exact List.filter_sublist
  have inside := kept.filter fun e => decide (e.job = n)
  rw [List.filter_filter] at inside
  simp only [Bool.and_self] at inside
  have all := ((List.mergeSort_perm events fun a b => decide (a.instant ≤ b.instant)).filter
    fun e => decide (e.job = n)).length_eq
  rw [happenedTo, happenedTo, inside.eq_of_length all.symm]

theorem happenedTo_advance (d : Duration) (n : Nat) :
    happenedTo n (s.advance d).1 =
      (s.jobs[n]?.map fun j => (j.advance s.wall (s.now + d.nanos)).1).getD [] := by
  have own : happenedTo n (advanceJobs s.wall (s.now + d.nanos) 0 s.jobs).1 =
      (s.jobs[n]?.map fun j => (j.advance s.wall (s.now + d.nanos)).1).getD [] := by
    simpa using happenedTo_advanceJobs 0 n s.jobs
  rw [← own]
  refine happenedTo_mergeSort ?_
  rw [own]
  cases s.jobs[n]? with
  | none => exact List.Pairwise.nil
  | some j => exact j.advance_sorted

theorem getElem?_cancelAll (entries : List (TriggerKey × Nat)) (jobs : List Job) (n : Nat) :
    (entries.foldl (fun jobs entry => cancelJob entry.2 jobs) jobs)[n]? =
      if n ∈ entries.map Prod.snd then jobs[n]?.map Job.cancel else jobs[n]? := by
  induction entries generalizing jobs with
  | nil => simp
  | cons entry rest ih =>
      rw [List.foldl_cons, ih, cancelJob, List.getElem?_modify]
      by_cases here : entry.2 = n
      · have twice : (jobs[n]?.map Job.cancel).map Job.cancel = jobs[n]?.map Job.cancel := by
          rw [Option.map_map]
          congr 1
          funext j
          exact j.cancel_cancel
        simp [here, twice]
      · have further : n ∈ (entry :: rest).map Prod.snd ↔ n ∈ rest.map Prod.snd := by simp [Ne.symm here]
        rw [if_congr further rfl rfl]
        simp [here]

/-- A scheduler whose `n`-th job was started under the `n`-th of some keys. A key has at most one
job, one that was started under it, and the jobs that no key has begin nothing any more. -/
structure Sound (owners : List TriggerKey) (s : Scheduler) : Prop where
  all : owners.length = s.jobs.length
  keys : (s.registered.map Prod.fst).Nodup
  owned : ∀ key n, (key, n) ∈ s.registered → owners[n]? = some key
  retired : ∀ key n j, owners[n]? = some key → s.jobs[n]? = some j → (key, n) ∉ s.registered → j.Retired

variable {owners : List TriggerKey}

theorem Sound.empty (wall : Nat → Instant) : Sound [] (empty wall) where
  all := rfl
  keys := List.nodup_nil
  owned _ _ listed := by cases listed
  retired _ _ _ listed := by cases listed

theorem Sound.stop_job (sound : Sound owners s) (owner : owners[n]? = some key) (listed : s.jobs[n]? = some j)
    (stopped : TriggerKey) : (s.stop stopped).2.jobs[n]? = some (if stopped = key then j.cancel else j) := by
  -- Without its key a job has been cancelled before, and cancelling it again does nothing.
  have idle (elsewhere : stopped = key → (key, n) ∉ s.registered) : j = if stopped = key then j.cancel else j := by
    split
    · next same => exact (sound.retired key n j owner listed (elsewhere same)).cancel_eq.symm
    · rfl
  rw [stop]
  cases found : s.jobOf? stopped with
  | none =>
      have absent := jobOf?_eq_none_iff.mp found
      simp only
      rw [listed]
      exact congrArg some (idle fun same there => absent n (same ▸ there))
  | some m =>
      have registered := (jobOf?_eq_some_iff sound.keys).mp found
      simp only [cancelJob]
      rw [List.getElem?_modify, listed]
      by_cases hit : m = n
      · subst hit
        have same : stopped = key := Option.some.inj ((sound.owned stopped m registered).symm.trans owner)
        simp [same]
      · simp only [hit, ↓reduceIte]
        refine congrArg some (idle fun same there => hit ?_)
        subst same
        exact Option.some.inj (found.symm.trans ((jobOf?_eq_some_iff sound.keys).mpr there))

theorem Sound.stopAll_job (sound : Sound owners s) (owner : owners[n]? = some key) (listed : s.jobs[n]? = some j) :
    s.stopAll.2.jobs[n]? = some j.cancel := by
  simp only [stopAll]
  rw [getElem?_cancelAll, listed]
  by_cases registered : n ∈ s.registered.map Prod.snd
  · simp [registered]
  · have elsewhere : (key, n) ∉ s.registered := fun there => registered (List.mem_map.mpr ⟨(key, n), there, rfl⟩)
    simp [registered, (sound.retired key n j owner listed elsewhere).cancel_eq]

theorem Sound.perform_job (sound : Sound owners s) (owner : owners[n]? = some key) (listed : s.jobs[n]? = some j)
    (r : Request) :
    (s.perform r).2.jobs[n]? = some (r.act s.wall s.now key j).2 ∧
      happenedTo n (s.perform r).1 = (r.act s.wall s.now key j).1 := by
  cases r with
  | start other trigger =>
      refine ⟨?_, rfl⟩
      have kept := sound.stop_job owner listed other
      have inside : n < (s.stop other).2.jobs.length := (List.getElem?_eq_some_iff.mp kept).1
      simp only [perform, start]
      rw [List.getElem?_append_left inside, kept]
      simp [Request.act, Request.retires]
  | stop other =>
      refine ⟨(sound.stop_job owner listed other).trans ?_, rfl⟩
      simp [Request.act, Request.retires, Request.stops]
  | stopAll => exact ⟨sound.stopAll_job owner listed, rfl⟩
  | drop => exact ⟨sound.stopAll_job owner listed, rfl⟩
  | pass d =>
      constructor
      · simp [perform, advance, advanceJobs_jobs, listed, Request.act]
      · simp [perform, happenedTo_advance, listed, Request.act]

theorem cancelAll_length (entries : List (TriggerKey × Nat)) (jobs : List Job) :
    (entries.foldl (fun jobs entry => cancelJob entry.2 jobs) jobs).length = jobs.length := by
  induction entries generalizing jobs with
  | nil => rfl
  | cons entry rest ih => rw [List.foldl_cons, ih, cancelJob, List.length_modify]

theorem perform_length (s : Scheduler) (r : Request) :
    (s.perform r).2.jobs.length = s.jobs.length + r.opens.length := by
  cases r with
  | start key trigger => simp [perform, start, stop_length, Request.opens]
  | stop key => simp [perform, stop_length, Request.opens]
  | stopAll | drop => exact cancelAll_length s.registered s.jobs
  | pass d => simp [perform, advance, advanceJobs_jobs, Request.opens]

theorem stop_wall : (s.stop other).2.wall = s.wall := by
  rw [stop]
  cases s.jobOf? other <;> rfl

theorem stop_now : (s.stop other).2.now = s.now := by
  rw [stop]
  cases s.jobOf? other <;> rfl

theorem perform_wall (s : Scheduler) (r : Request) : (s.perform r).2.wall = s.wall := by
  cases r with
  | start key trigger | stop key => exact stop_wall
  | stopAll | drop | pass d => rfl

theorem perform_now (s : Scheduler) (r : Request) : (s.perform r).2.now = s.now + r.duration := by
  cases r with
  | start key trigger | stop key => exact stop_now
  | stopAll | drop | pass d => rfl

theorem Sound.perform (sound : Sound owners s) (r : Request) : Sound (owners ++ r.opens) (s.perform r).2 where
  all := by rw [List.length_append, sound.all, perform_length]
  keys := by
    cases r with
    | start key trigger =>
        have kept : ((s.stop key).2.registered.map Prod.fst).Nodup := by
          rw [stop]
          cases s.jobOf? key with
          | none => exact sound.keys
          | some n => exact sound.keys.sublist (List.filter_sublist.map Prod.fst)
        refine List.nodup_cons.mpr ⟨?_, kept⟩
        rw [List.mem_map]
        rintro ⟨⟨other, n⟩, listed, rfl⟩
        exact (mem_registered_stop.mp listed).2 rfl
    | stop key =>
        simp only [Scheduler.perform, stop]
        cases s.jobOf? key with
        | none => exact sound.keys
        | some n => exact sound.keys.sublist (List.filter_sublist.map Prod.fst)
    | stopAll | drop => exact List.nodup_nil
    | pass d => exact sound.keys
  owned key n listed := by
    rcases mem_registered_perform.mp listed with ⟨opened, rfl⟩ | ⟨before, -⟩
    · cases r with
      | start other trigger =>
          obtain rfl := List.mem_singleton.mp opened
          rw [← sound.all, Request.opens, List.getElem?_concat_length]
      | stop other | stopAll | drop | pass d => cases opened
    · exact List.getElem?_append_left (List.getElem?_eq_some_iff.mp (sound.owned key n before)).1 ▸
        sound.owned key n before
  retired key n j owner listed elsewhere := by
    rw [mem_registered_perform, not_or, not_and, not_and] at elsewhere
    obtain ⟨unopened, gone⟩ := elsewhere
    rcases Nat.lt_or_ge n owners.length with inside | outside
    · rw [List.getElem?_append_left inside] at owner
      obtain ⟨before, held⟩ : ∃ before, s.jobs[n]? = some before :=
        ⟨_, List.getElem?_eq_getElem (sound.all ▸ inside)⟩
      have same := Option.some.inj (listed.symm.trans (sound.perform_job owner held r).1)
      rw [same]
      -- A key that lets go of its job now cancels it; before, it had retired already.
      by_cases registered : (key, n) ∈ s.registered
      · have retires : r.retires key = true := by simpa using gone registered
        cases r with
        | start other trigger | stop other | stopAll | drop =>
            simp only [Request.act, retires, ↓reduceIte]
            exact before.cancel_retired
        | pass d => cases retires
      · exact (r.act_retired (sound.retired key n before owner held registered)).1
    · -- The job was started just now, and the key has it.
      rw [List.getElem?_append_right outside] at owner
      have opened := List.mem_of_getElem? owner
      have last : n = s.jobs.length := by
        have bound := (List.getElem?_eq_some_iff.mp listed).1
        rw [perform_length] at bound
        have single : r.opens.length ≤ 1 := by cases r <;> simp [Request.opens]
        have all := sound.all
        omega
      exact absurd last (unopened opened)

/-! ## What a run does to one job -/

theorem performAll_wall (requests : List Request) (s : Scheduler) : (performAll requests s).2.wall = s.wall := by
  induction requests generalizing s with
  | nil => rfl
  | cons r rest ih => simp only [performAll, ih, perform_wall]

theorem performAll_now (requests : List Request) (s : Scheduler) :
    (performAll requests s).2.now = s.now + elapsed requests := by
  induction requests generalizing s with
  | nil => rfl
  | cons r rest ih => simp only [performAll, ih, perform_now, elapsed, Nat.add_assoc]

theorem performAll_length (requests : List Request) (s : Scheduler) :
    (performAll requests s).2.jobs.length = s.jobs.length + starts requests := by
  induction requests generalizing s with
  | nil => rfl
  | cons r rest ih =>
      simp only [performAll, ih, perform_length, starts, List.flatMap_cons, List.length_append, Nat.add_assoc]

theorem Sound.performAll (sound : Sound owners s) (requests : List Request) :
    Sound (owners ++ requests.flatMap Request.opens) (performAll requests s).2 := by
  induction requests generalizing owners s with
  | nil => simpa [Scheduler.performAll] using sound
  | cons r rest ih =>
      rw [List.flatMap_cons, ← List.append_assoc]
      exact ih (sound.perform r)

theorem happenedTo_perform_outside (s : Scheduler) (r : Request) (outside : s.jobs.length ≤ n) :
    happenedTo n (s.perform r).1 = [] := by
  cases r with
  | start key trigger | stop key | stopAll | drop => rfl
  | pass d => simp [Scheduler.perform, happenedTo_advance, outside]

theorem happenedTo_performAll_outside (requests : List Request) (s : Scheduler)
    (outside : s.jobs.length + starts requests ≤ n) : happenedTo n (Scheduler.performAll requests s).1 = [] := by
  induction requests generalizing s with
  | nil => rfl
  | cons r rest ih =>
      have all : starts (r :: rest) = r.opens.length + starts rest := by
        simp [starts]
      simp only [Scheduler.performAll, happenedTo_append]
      rw [happenedTo_perform_outside s r (by omega), ih _ (by rw [perform_length]; omega), List.append_nil]

theorem Sound.performAll_job (sound : Sound owners s) (owner : owners[n]? = some key) (listed : s.jobs[n]? = some j)
    (requests : List Request) :
    happenedTo n (Scheduler.performAll requests s).1 = (live s.wall key s.now requests j).1 := by
  induction requests generalizing owners s j with
  | nil => rfl
  | cons r rest ih =>
      obtain ⟨next, events⟩ := sound.perform_job owner listed r
      have still : (owners ++ r.opens)[n]? = some key :=
        List.getElem?_append_left (List.getElem?_eq_some_iff.mp owner).1 ▸ owner
      simp only [Scheduler.performAll, live, happenedTo_append, events, ih (sound.perform r) still next,
        perform_wall, perform_now]

end Jobs

/-- What comes of requests that come to a new scheduler. -/
def session (clock : WallClock) (requests : List Request) : List SchedulerEvent × Scheduler :=
  performAll requests (.empty clock.shows)

/-- What happens to the `n`-th job. -/
def history (clock : WallClock) (requests : List Request) (n : Nat) : List (Nat × JobEvent) :=
  happenedTo n (session clock requests).1

theorem session_sound (clock : WallClock) (requests : List Request) :
    (session clock requests).2.Sound (requests.flatMap Request.opens) :=
  (Sound.empty clock.shows).performAll requests

/-- A job lives from its start on as its own key and the time have it. -/
theorem history_started (clock : WallClock) (earlier later : List Request) (key : TriggerKey) (trigger : Trigger) :
    history clock (earlier ++ .start key trigger :: later) (starts earlier) =
      (live clock.shows key (elapsed earlier) later
        (Job.start clock.shows (elapsed earlier) trigger.schedule trigger.firings)).1 := by
  have length : (session clock earlier).2.jobs.length = starts earlier := by
    simp [session, performAll_length, empty]
  have before : happenedTo (starts earlier) (session clock earlier).1 = [] :=
    happenedTo_performAll_outside earlier _ (by simp [empty])
  have now : (session clock earlier).2.now = elapsed earlier := by
    simp [session, performAll_now, empty]
  have wall : (session clock earlier).2.wall = clock.shows := by
    simp [session, performAll_wall, empty]
  have sound := (session_sound clock earlier).perform (.start key trigger)
  have owner : (earlier.flatMap Request.opens ++ (Request.start key trigger).opens)[starts earlier]? = some key := by
    rw [starts, Request.opens, List.getElem?_concat_length]
  have begins : ((session clock earlier).2.perform (.start key trigger)).2.jobs[starts earlier]? =
      some (Job.start clock.shows (elapsed earlier) trigger.schedule trigger.firings) := by
    rw [← length, ← stop_length _ key]
    simp [perform, start, stop_wall, stop_now, now, wall]
  -- Before its start nothing happens to the job, and from there on only requests for its key count.
  have lives := sound.performAll_job owner begins later
  rw [perform_wall, perform_now, wall, now] at lives
  rw [history, session, performAll_append, happenedTo_append]
  refine (congrArg₂ (· ++ ·) before lives).trans ?_
  rfl

end DocMapper.Scheduler
