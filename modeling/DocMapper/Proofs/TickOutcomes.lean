import DocMapper.Proofs.InterruptedCalls
/-!
How a tick ends. What the engine holds when a tick begins decides which of four ends it comes
to, and only one of them, the rollover, changes the engine. The engine has no reason left to
refuse that rollover: a name that is taken has been listed, whatever the prefix of the series.
When calls fail, a tick that does not report a rollover has changed nothing.
-/

namespace DocMapper

section Conditions

variable {c : RolloverConditions} {stats : IndexStats}

def RolloverConditions.Asks (c : RolloverConditions) : RolloverReason → Prop
  | .maxAge age => c.maxAge = some age
  | .maxDocs docs => c.maxDocs = some docs
  | .maxSize size => c.maxSize = some size

def RolloverReason.ReachedBy (stats : IndexStats) : RolloverReason → Prop
  | .maxAge age => age.nanos ≤ stats.age.nanos
  | .maxDocs docs => docs ≤ stats.docs
  | .maxSize size => size.bytes ≤ stats.bytes

def RolloverConditions.Reached (c : RolloverConditions) (stats : IndexStats) : Prop :=
  ∃ reason, c.Asks reason ∧ reason.ReachedBy stats

theorem RolloverConditions.mem_metBy_iff {reason : RolloverReason} :
    reason ∈ c.metBy stats ↔ c.Asks reason ∧ reason.ReachedBy stats := by
  cases reason <;> simp [metBy, Asks, RolloverReason.ReachedBy, Option.filter_eq_some_iff]

theorem RolloverConditions.metBy_eq_nil_iff : c.metBy stats = [] ↔ ¬c.Reached stats := by
  rw [List.eq_nil_iff_forall_not_mem]
  constructor
  · rintro none ⟨reason, reached⟩
    exact none reason (mem_metBy_iff.mpr reached)
  · intro below reason member
    exact below ⟨reason, mem_metBy_iff.mp member⟩

end Conditions

namespace Rollover

open Routing

/-- The index that takes the writes of an alias, and how it stands. -/
def Watched (m : Memory) (aliasName : String) (now : Instant) (current : String) (stats : IndexStats) : Prop :=
  m.writeIndex? aliasName = some current ∧
    ∃ index, Dict.find? current m.indices = some index ∧ stats = index.stats now

/-- The name that would come after an index is that of the index itself, or of another one. -/
def NextTaken (aliases : RolloverAliases) (m : Memory) (current : String) : Prop :=
  nextName aliases.indexPrefix current = current ∨
    Dict.has (nextName aliases.indexPrefix current) m.indices = true

/-- An empty index of a series that takes the writes of the write alias. -/
structure Newborn (t : DocumentType) (aliases : RolloverAliases) (now : Instant) (born : MemoryIndex) : Prop where
  createdAt : born.createdAt = now
  body : born.body = t.indexBody (readAliases t aliases)
  documents : born.documents = []
  flags : ∀ name isWrite, Dict.find? name born.aliases = some isWrite ↔
    name = aliases.writeAlias ∧ isWrite = true ∨
      name ≠ aliases.writeAlias ∧ ReadsThrough t aliases name ∧ isWrite = false

/-- One new index, and no other difference but that nobody else takes the writes of an alias. -/
structure Succession (m after : Memory) (aliasName target : String) (born : MemoryIndex) : Prop where
  fresh : Dict.has target m.indices = false
  created : Dict.find? target after.indices = some born
  others : ∀ name, name ≠ target → Dict.find? name after.indices =
    (Dict.find? name m.indices).map (Memory.withAliases (Dict.modify aliasName fun _ => false))
  minted : after.minted = m.minted
  ordered : m.Ordered → after.Ordered

/-- A tick that ended in a rollover. -/
def RolledOver (result : Except RolloverError RolloverReport) : Prop :=
  ∃ source target reasons, result = .ok (.rolledOver source target reasons)

/-- The ends a tick comes to when no call fails, by what it finds. `looked` is when it asks for
the numbers of the write index, `rolled` when it asks for the next index. -/
inductive TickEnd (t : DocumentType) (aliases : RolloverAliases) (conditions : RolloverConditions)
    (looked rolled : Instant) (m : Memory) : Except RolloverError RolloverReport → Memory → Prop where
  | adrift (unresolved : m.writeIndex? aliases.writeAlias = none) :
      TickEnd t aliases conditions looked rolled m (.error (.noWriteIndex t.name aliases.writeAlias)) m
  | settled {current : String} {stats : IndexStats} (watched : Watched m aliases.writeAlias looked current stats)
      (below : ¬conditions.Reached stats) :
      TickEnd t aliases conditions looked rolled m (.ok (.notNeeded current stats)) m
  | blocked {current : String} {stats : IndexStats} (watched : Watched m aliases.writeAlias looked current stats)
      (reached : conditions.Reached stats) (taken : NextTaken aliases m current) :
      TickEnd t aliases conditions looked rolled m
        (.error (.collision ⟨t.name, nextName aliases.indexPrefix current⟩)) m
  | rolled {current : String} {stats : IndexStats} {after : Memory} {born : MemoryIndex}
      (watched : Watched m aliases.writeAlias looked current stats)
      (reached : conditions.Reached stats) (free : ¬NextTaken aliases m current)
      (newborn : Newborn t aliases rolled born)
      (succession : Succession m after aliases.writeAlias (nextName aliases.indexPrefix current) born) :
      TickEnd t aliases conditions looked rolled m
        (.ok (.rolledOver current (nextName aliases.indexPrefix current) (conditions.metBy stats))) after

section Alone

variable {t : DocumentType} {aliases : RolloverAliases} {conditions : RolloverConditions} {m : Memory}

theorem Watched.unique {aliasName current other : String} {now : Instant} {stats others : IndexStats}
    (watched : Watched m aliasName now current stats) (again : Watched m aliasName now other others) :
    current = other ∧ stats = others := by
  obtain ⟨writes, index, found, rfl⟩ := watched
  obtain ⟨writes', index', found', rfl⟩ := again
  rw [writes] at writes'
  cases writes'
  rw [found] at found'
  cases found'
  exact ⟨rfl, rfl⟩

theorem find?_of_writeIndex? {aliasName current : String} (writes : m.writeIndex? aliasName = some current) :
    ∃ index, Dict.find? current m.indices = some index := by
  obtain ⟨isWrite, member⟩ := Memory.mem_holders_of_writeIndex? writes
  obtain ⟨⟨name, index⟩, stored, held⟩ := List.mem_filterMap.mp member
  obtain ⟨flag, -, same⟩ := Option.map_eq_some_iff.mp held
  cases same
  exact Dict.has_eq_true_iff.mp (Dict.has_of_mem stored)

theorem newborn_create (t : DocumentType) (aliases : RolloverAliases) (now : Instant) :
    Newborn t aliases now (Memory.withAliases (Dict.put aliases.writeAlias true)
      (.create now (t.indexBody (readAliases t aliases)))) where
  createdAt := rfl
  body := rfl
  documents := rfl
  flags := by
    intro name isWrite
    simp only [Memory.withAliases, MemoryIndex.create, Dict.find?_put]
    by_cases own : aliases.writeAlias = name
    · simp [own, eq_comm]
    · have different : name ≠ aliases.writeAlias := Ne.symm own
      rw [if_neg own]
      constructor
      · intro born
        -- The body gives only the read aliases; the engine puts the write alias on its own.
        rw [DocumentType.find?_aliasesIn_indexBody] at born
        obtain ⟨a, found, flag⟩ := Option.map_eq_some_iff.mp born
        obtain ⟨through, -, reading⟩ := mem_readAliases_iff.mp (List.mem_reverse.mp (List.mem_of_find?_eq_some found))
        have named : a.name = name := by simpa using List.find?_some found
        exact .inr ⟨different, named ▸ through, flag.symm.trans reading⟩
      · rintro (⟨same, -⟩ | ⟨-, through, rfl⟩)
        · exact absurd same different
        · exact readAliases_read through different

theorem rollover_succession {changed : Memory} {now : Instant} {r : RolloverRequest}
    (done : m.rollover now r = .ok changed) :
    Succession m changed r.aliasName r.target
      (Memory.withAliases (Dict.put r.aliasName true) (.create now r.body)) where
  fresh := (Memory.rollover_granted done).1
  created := by
    rw [(Memory.rollover_granted done).2.2]
    exact Dict.find?_put_same ..
  others := by
    intro name other
    rw [(Memory.rollover_granted done).2.2, Dict.find?_put, if_neg (Ne.symm other)]
    exact Memory.find?_withoutWriter ..
  minted := by rw [(Memory.rollover_granted done).2.2]
  ordered := fun ordered => Memory.rollover_ordered ordered done

theorem rollover_of_free (t : DocumentType) (now : Instant) {current : String}
    (writes : m.writeIndex? aliases.writeAlias = some current) (free : ¬NextTaken aliases m current) :
    ∃ changed, m.rollover now (rolloverRequest t aliases current) = .ok changed := by
  have absent : ¬Dict.has (nextName aliases.indexPrefix current) m.indices = true :=
    fun present => free (.inr present)
  simp [Memory.rollover, rolloverRequest, absent, writes]

/-- The names that a tick asks for. -/
def listing (aliases : RolloverAliases) (m : Memory) : List String :=
  (Dict.keys m.indices).filter fun name =>
    Text.matchesWildcard (aliases.indexPrefix ++ "-*").toList name.toList

/-- Every index that stands in the way of the next name is among those listed. -/
theorem rolloverTarget_taken (backed : t.addressing = .rollover aliases conditions) {current : String}
    (taken : NextTaken aliases m current) :
    rolloverTarget t current (listing aliases m) =
      .error (.collision ⟨t.name, nextName aliases.indexPrefix current⟩) := by
  have stands : (nextName aliases.indexPrefix current = current ||
      (listing aliases m).contains (nextName aliases.indexPrefix current)) = true := by
    rcases taken with same | present
    · simp [same]
    · have listed : nextName aliases.indexPrefix current ∈ listing aliases m :=
        List.mem_filter.mpr ⟨Dict.mem_keys present, nextName_listed ..⟩
      simp [listed]
  rw [rolloverTarget, backed]
  exact if_pos stands

theorem rolloverTarget_free (backed : t.addressing = .rollover aliases conditions) {current : String}
    (free : ¬NextTaken aliases m current) :
    rolloverTarget t current (listing aliases m) = .ok (nextName aliases.indexPrefix current) := by
  have unlisted : nextName aliases.indexPrefix current ∉ listing aliases m := by
    intro member
    obtain ⟨⟨name, index⟩, stored, same⟩ := List.mem_map.mp (List.mem_filter.mp member).1
    exact free (.inr (same ▸ Dict.has_of_mem stored))
  have different : nextName aliases.indexPrefix current ≠ current := fun same => free (.inl same)
  rw [rolloverTarget, backed]
  exact if_neg (by simp [different, unlisted])

open Course

variable {moments : Nat → Moment}

theorem run_rollOver_blocked (backed : t.addressing = .rollover aliases conditions) (steady : Steady moments)
    {current : String} (taken : NextTaken aliases m current) (reasons : List RolloverReason) :
    Course.run moments (rollOver t aliases current reasons).run m =
      (.error (.collision ⟨t.name, nextName aliases.indexPrefix current⟩), m) := by
  have listed : Memory.answer (moments 0).now (.listIndices (aliases.indexPrefix ++ "-*")) m =
      (.ok (listing aliases m), m) := rfl
  rw [rollOver, call, run_attempt_granted steady listed, rolloverTarget_taken backed taken]
  rfl

theorem run_rollOver_free (backed : t.addressing = .rollover aliases conditions) (steady : Steady moments)
    {current : String} (free : ¬NextTaken aliases m current) (reasons : List RolloverReason) {after : Memory}
    (granted : m.rollover (moments 1).now (rolloverRequest t aliases current) = .ok after) :
    Course.run moments (rollOver t aliases current reasons).run m =
      (.ok (.rolledOver current (nextName aliases.indexPrefix current) reasons), after) := by
  have listed : Memory.answer (moments 0).now (.listIndices (aliases.indexPrefix ++ "-*")) m =
      (.ok (listing aliases m), m) := rfl
  have rolled : Memory.answer (later moments 0).now (.rollover (rolloverRequest t aliases current)) m =
      (.ok (), after) := by
    rw [Memory.answer]
    exact congrArg m.change granted
  rw [rollOver, call, run_attempt_granted steady listed, rolloverTarget_free backed free, Except.mapError,
    lift_ok_bind, call]
  rw [rolloverRequest] at rolled
  rw [run_attempt_granted steady.later rolled]
  rfl

theorem run_tick_watching (backed : t.addressing = .rollover aliases conditions) (steady : Steady moments)
    {current : String} {stats : IndexStats} (watched : Watched m aliases.writeAlias (moments 1).now current stats) :
    Course.run moments (tick t).run m =
      if conditions.metBy stats = [] then (.ok (.notNeeded current stats), m)
      else Course.run (later (later moments)) (rollOver t aliases current (conditions.metBy stats)).run m := by
  obtain ⟨writes, index, found, rfl⟩ := watched
  have pointed : Memory.answer (moments 0).now (.writeIndex aliases.writeAlias) m = (.ok (some current), m) := by
    rw [Memory.answer, writes]
  have counted : Memory.answer (later moments 0).now (.indexStats current) m =
      (.ok (index.stats (moments 1).now), m) := by
    rw [Memory.answer, found]
    rfl
  rw [tick, backed]
  dsimp only
  rw [call, run_attempt_granted steady pointed]
  dsimp only
  rw [call, run_attempt_granted steady.later counted]
  cases conditions.metBy (index.stats (moments 1).now) with
  | nil => rfl
  | cons reason others => rfl

theorem tick_end (backed : t.addressing = .rollover aliases conditions) (steady : Steady moments) (m : Memory) :
    TickEnd t aliases conditions (moments 1).now (moments 3).now m
      (Course.run moments (tick t).run m).1 (Course.run moments (tick t).run m).2 := by
  cases writes : m.writeIndex? aliases.writeAlias with
  | none =>
      have pointed : Memory.answer (moments 0).now (.writeIndex aliases.writeAlias) m = (.ok none, m) := by
        rw [Memory.answer, writes]
      rw [tick, backed]
      dsimp only
      rw [call, run_attempt_granted steady pointed]
      exact .adrift writes
  | some current =>
      obtain ⟨index, found⟩ := find?_of_writeIndex? writes
      have watched : Watched m aliases.writeAlias (moments 1).now current (index.stats (moments 1).now) :=
        ⟨writes, index, found, rfl⟩
      rw [run_tick_watching backed steady watched]
      -- Two questions settle a tick that finds its index: a condition met, the next name free.
      by_cases reached : conditions.Reached (index.stats (moments 1).now)
      · rw [if_neg fun none => RolloverConditions.metBy_eq_nil_iff.mp none reached]
        by_cases taken : NextTaken aliases m current
        · rw [run_rollOver_blocked backed steady.later.later taken]
          exact .blocked watched reached taken
        · obtain ⟨after, granted⟩ := rollover_of_free t (moments 3).now writes taken
          rw [run_rollOver_free backed steady.later.later taken _ granted]
          exact .rolled watched reached taken (newborn_create t aliases _) (rollover_succession granted)
      · rw [if_pos (RolloverConditions.metBy_eq_nil_iff.mpr reached)]
        exact .settled watched reached

theorem eq_done_of_result? {Q α : Type} {Answer : Q → Type} {d : Dialogue Answer α} {a : α}
    (ended : d.result? = some a) : d = .done a := by
  cases d with
  | done b => exact congrArg _ (Option.some.inj ended)
  | ask q next => cases ended

theorem unchanged_of_keeps {d : Program (Except RolloverError RolloverReport)}
    (kept : d.Keeps (TickStep t aliases)) (other : ¬RolledOver (Course.run moments d m).1) :
    (Course.run moments d m).2 = m := by
  induction kept generalizing moments m with
  | done result => rfl
  | @ask c next asked rest ih =>
      rcases Course.run_ask moments next m with ⟨fault, failed⟩ | answered
      · rw [failed] at other ⊢
        exact ih _ other
      · rw [answered] at other ⊢
        generalize results : (fun reply => (next reply).result?) = concludes at asked
        cases asked with
        | looking reads silent =>
            rw [Memory.answer_reading reads] at other ⊢
            exact ih _ other
        | rolling current reasons =>
            -- The answer to the rollover ends the tick, which then reports it or has been refused.
            have ended := congrFun results (Memory.answer (moments 0).now
              (.rollover (rolloverRequest t aliases current)) m).1
            rw [eq_done_of_result? ended, Course.run_done] at other ⊢
            rw [Memory.answer] at other ⊢
            cases granted : m.rollover (moments 0).now (rolloverRequest t aliases current) with
            | error fault => rfl
            | ok after =>
                rw [granted] at other
                exact absurd ⟨_, _, _, rfl⟩ other

/-- The ends of a tick, each told by what the engine holds when the tick begins. -/
structure Outcomes (t : DocumentType) (aliases : RolloverAliases) (conditions : RolloverConditions)
    (looked rolled : Instant) (m : Memory) (result : Except RolloverError RolloverReport) (after : Memory) : Prop where
  noWriteIndex : result = .error (.noWriteIndex t.name aliases.writeAlias) ↔
    m.writeIndex? aliases.writeAlias = none
  notNeeded : ∀ current stats, result = .ok (.notNeeded current stats) ↔
    Watched m aliases.writeAlias looked current stats ∧ ¬conditions.Reached stats
  collision : ∀ name, result = .error (.collision ⟨t.name, name⟩) ↔
    ∃ current stats, Watched m aliases.writeAlias looked current stats ∧ conditions.Reached stats ∧
      NextTaken aliases m current ∧ name = nextName aliases.indexPrefix current
  rolledOver : ∀ source target reasons, result = .ok (.rolledOver source target reasons) ↔
    ∃ stats, Watched m aliases.writeAlias looked source stats ∧ conditions.Reached stats ∧
      ¬NextTaken aliases m source ∧ target = nextName aliases.indexPrefix source ∧
      reasons = conditions.metBy stats
  /-- A tick ends in one of these ways; that the engine refuses a request of it is not among them. -/
  exhaustive : result = .error (.noWriteIndex t.name aliases.writeAlias) ∨
    (∃ current stats, result = .ok (.notNeeded current stats)) ∨
    (∃ name, result = .error (.collision ⟨t.name, name⟩)) ∨ RolledOver result
  succession : ∀ source target reasons, result = .ok (.rolledOver source target reasons) →
    ∃ born, Newborn t aliases rolled born ∧ Succession m after aliases.writeAlias target born

theorem Watched.resolved {aliasName current : String} {now : Instant} {stats : IndexStats}
    (watched : Watched m aliasName now current stats) : m.writeIndex? aliasName ≠ none := by
  rw [watched.1]
  exact Option.some_ne_none current

/-- The write index and its numbers leave a tick one way to end. -/
theorem TickEnd.of_watched {looked rolled : Instant} {result : Except RolloverError RolloverReport} {after : Memory}
    (ended : TickEnd t aliases conditions looked rolled m result after) {current : String} {stats : IndexStats}
    (watched : Watched m aliases.writeAlias looked current stats) :
    (¬conditions.Reached stats → result = .ok (.notNeeded current stats)) ∧
    (conditions.Reached stats → NextTaken aliases m current →
      result = .error (.collision ⟨t.name, nextName aliases.indexPrefix current⟩)) ∧
    (conditions.Reached stats → ¬NextTaken aliases m current →
      result = .ok (.rolledOver current (nextName aliases.indexPrefix current) (conditions.metBy stats))) := by
  cases ended with
  | adrift unresolved => exact absurd unresolved watched.resolved
  | settled seen below =>
      obtain ⟨rfl, rfl⟩ := seen.unique watched
      exact ⟨fun _ => rfl, fun reached => absurd reached below, fun reached => absurd reached below⟩
  | blocked seen reached taken =>
      obtain ⟨rfl, rfl⟩ := seen.unique watched
      exact ⟨fun below => absurd reached below, fun _ _ => rfl, fun _ free => absurd taken free⟩
  | rolled seen reached free =>
      obtain ⟨rfl, rfl⟩ := seen.unique watched
      exact ⟨fun below => absurd reached below, fun _ taken => absurd taken free, fun _ _ => rfl⟩

theorem TickEnd.unchanged {looked rolled : Instant} {result : Except RolloverError RolloverReport} {after : Memory}
    (ended : TickEnd t aliases conditions looked rolled m result after) (other : ¬RolledOver result) : after = m := by
  cases ended with
  | adrift | settled | blocked => rfl
  | rolled => exact absurd ⟨_, _, _, rfl⟩ other

theorem tick_end_alone (backed : t.addressing = .rollover aliases conditions) (now : Instant) (m : Memory) :
    TickEnd t aliases conditions now now m (Memory.run now (tick t).run m).1 (Memory.run now (tick t).run m).2 := by
  have steady : Steady fun _ => ⟨now, none⟩ := fun _ => rfl
  rw [← Course.run_alone]
  exact tick_end backed steady m

theorem TickEnd.outcomes {looked rolled : Instant} {result : Except RolloverError RolloverReport} {after : Memory}
    (ended : TickEnd t aliases conditions looked rolled m result after) :
    Outcomes t aliases conditions looked rolled m result after where
  noWriteIndex := by
    constructor
    · intro same
      cases ended with
      | adrift unresolved => exact unresolved
      | settled | blocked | rolled => cases same
    · intro unresolved
      cases ended with
      | adrift => rfl
      | settled watched | blocked watched | rolled watched => exact absurd unresolved watched.resolved
  notNeeded := by
    intro current stats
    constructor
    · intro same
      cases ended with
      | settled watched below =>
          cases same
          exact ⟨watched, below⟩
      | adrift | blocked | rolled => cases same
    · rintro ⟨watched, below⟩
      exact (ended.of_watched watched).1 below
  collision := by
    intro name
    constructor
    · intro same
      cases ended with
      | blocked watched reached taken =>
          cases same
          exact ⟨_, _, watched, reached, taken, rfl⟩
      | adrift | settled | rolled => cases same
    · rintro ⟨current, stats, watched, reached, taken, rfl⟩
      exact (ended.of_watched watched).2.1 reached taken
  rolledOver := by
    intro source target reasons
    constructor
    · intro same
      cases ended with
      | rolled watched reached free =>
          cases same
          exact ⟨_, watched, reached, free, rfl, rfl⟩
      | adrift | settled | blocked => cases same
    · rintro ⟨stats, watched, reached, free, rfl, rfl⟩
      exact (ended.of_watched watched).2.2 reached free
  exhaustive := by
    cases ended with
    | adrift => exact .inl rfl
    | settled => exact .inr (.inl ⟨_, _, rfl⟩)
    | blocked => exact .inr (.inr (.inl ⟨_, rfl⟩))
    | rolled => exact .inr (.inr (.inr ⟨_, _, _, rfl⟩))
  succession := by
    intro source target reasons same
    cases ended with
    | rolled _ _ _ newborn succession =>
        cases same
        exact ⟨_, newborn, succession⟩
    | adrift | settled | blocked => cases same

/-- A tick that has the engine to itself comes to the one end that the engine decides, also when
time passes between its calls. And whatever fails on its way, a tick that does not end in a
rollover leaves the engine as it was. -/
theorem tick_outcomes (backed : t.addressing = .rollover aliases conditions) (m : Memory) :
    (∀ now, Outcomes t aliases conditions now now m
      (Memory.run now (tick t).run m).1 (Memory.run now (tick t).run m).2) ∧
    (∀ moments, Steady moments → Outcomes t aliases conditions (moments 1).now (moments 3).now m
      (Course.run moments (tick t).run m).1 (Course.run moments (tick t).run m).2) ∧
    (∀ moments, ¬RolledOver (Course.run moments (tick t).run m).1 →
      (Course.run moments (tick t).run m).2 = m) ∧
    ∀ now outages, ¬RolledOver (UnsteadyMemory.run now (tick t).run ⟨m, outages⟩).1 →
      (UnsteadyMemory.run now (tick t).run ⟨m, outages⟩).2.memory = m := by
  have timely : ∀ moments, Steady moments → Outcomes t aliases conditions (moments 1).now (moments 3).now m
      (Course.run moments (tick t).run m).1 (Course.run moments (tick t).run m).2 :=
    fun moments steady => (tick_end backed steady m).outcomes
  have unchanged : ∀ moments, ¬RolledOver (Course.run moments (tick t).run m).1 →
      (Course.run moments (tick t).run m).2 = m :=
    fun moments => unchanged_of_keeps (tick_keeps backed)
  refine ⟨?_, timely, unchanged, ?_⟩
  · intro now
    rw [← Course.run_alone]
    exact timely (fun _ => ⟨now, none⟩) fun _ => rfl
  · intro now outages other
    obtain ⟨moments, same⟩ := Course.run_outages now (tick t).run ⟨m, outages⟩
    have kept := unchanged moments
    rw [same] at kept
    exact kept other

/-- The first index of a series of log lines, which has had enough. -/
def crowded : Memory where
  indices := [("logs-000001", {
    createdAt := ⟨0, 0⟩
    body := .object []
    aliases := [("logs-read", false), ("logs-write", true)]
    documents := [("mem-1", ⟨.object [], 1, 2⟩)] })]
  minted := 1

theorem crowded_series_goes_on :
    logLines.addressing = .rollover logAliases ⟨none, some 1, none⟩ ∧
    Steady (fun k => ⟨⟨k, 0⟩, none⟩) ∧
    (Course.run (fun k => ⟨⟨k, 0⟩, none⟩) (tick logLines).run crowded).1 =
      .ok (.rolledOver "logs-000001" "logs-000002" [.maxDocs 1]) ∧
    ¬RolledOver (UnsteadyMemory.run ⟨0, 0⟩ (tick logLines).run ⟨crowded, [("rollover", 1)]⟩).1 ∧
    (UnsteadyMemory.run ⟨0, 0⟩ (tick logLines).run ⟨crowded, [("rollover", 1)]⟩).2.memory = crowded := by
  have steady : Steady (fun k => ⟨⟨k, 0⟩, none⟩) := fun _ => rfl
  have refused : ¬RolledOver (UnsteadyMemory.run ⟨0, 0⟩ (tick logLines).run ⟨crowded, [("rollover", 1)]⟩).1 := by
    rintro ⟨source, target, reasons, ended⟩
    cases ended
  have watched : Watched crowded "logs-write" ⟨1, 0⟩ "logs-000001" ⟨⟨1000000000⟩, 1, 2⟩ := ⟨rfl, _, rfl, rfl⟩
  have reached : RolloverConditions.Reached ⟨none, some 1, none⟩ ⟨⟨1000000000⟩, 1, 2⟩ :=
    ⟨.maxDocs 1, rfl, Nat.le_refl 1⟩
  have next : nextName "logs" "logs-000001" = "logs-000002" := rfl
  have free : ¬NextTaken logAliases crowded "logs-000001" := by
    rw [NextTaken, logAliases, next]
    decide
  obtain ⟨-, timely, -, unsteady⟩ := tick_outcomes (t := logLines) rfl crowded
  refine ⟨rfl, steady, ?_, refused, unsteady _ _ refused⟩
  exact ((timely _ steady).rolledOver _ _ _).mpr ⟨_, watched, reached, free, next.symm, rfl⟩

end Alone

end Rollover

end DocMapper
