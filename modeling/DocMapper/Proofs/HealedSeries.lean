import DocMapper.Proofs.Reattachment
import DocMapper.Proofs.TickOutcomes
/-!
What becomes of a series that lost its write alias. A bootstrap puts the alias back on the first
index, whatever indices the series has gone on to since. The name after that of the first index is
the second one's, so the series goes on from there if it had no more than the first index left. If
the second index is there, no call of the series ever moves the alias again: every tick that would
roll over meets a name that is taken.
-/

namespace DocMapper

open Routing Interleaving Course

namespace Rollover

/-- The first index of a series takes the writes of the write alias, and no other one does. -/
structure Restarted (aliases : RolloverAliases) (m : Memory) : Prop where
  ordered : m.Ordered
  flags : ∀ name, m.flag? name aliases.writeAlias = some true ↔ name = seriesName aliases.indexPrefix 1

/-- Whether there is an index with the name of the second one of the series. -/
def hasSecond (aliases : RolloverAliases) (m : Memory) : Bool :=
  Dict.has (seriesName aliases.indexPrefix 2) m.indices

variable {t : DocumentType} {aliases : RolloverAliases} {conditions : RolloverConditions} {m changed : Memory}
  {now : Instant}

theorem restarted_attach (ordered : m.Ordered)
    (done : m.swapAlias ⟨aliases.writeAlias, none, seriesName aliases.indexPrefix 1⟩ = .ok changed) :
    Restarted aliases changed where
  ordered := Memory.attach_ordered ordered done
  flags := by
    intro name
    rw [Memory.attach_flag? done]
    by_cases first : name = seriesName aliases.indexPrefix 1 <;> simp [first]

theorem nextName_first (aliases : RolloverAliases) :
    nextName aliases.indexPrefix (seriesName aliases.indexPrefix 1) = seriesName aliases.indexPrefix 2 := by
  rw [nextName_seriesName aliases.indexPrefix (by decide)]
  rfl

theorem nextTaken_first_iff : NextTaken aliases m (seriesName aliases.indexPrefix 1) ↔ hasSecond aliases m = true := by
  rw [NextTaken, nextName_first]
  have apart : seriesName aliases.indexPrefix 2 ≠ seriesName aliases.indexPrefix 1 := by
    intro same
    exact absurd (seriesName_injective _ same) (by decide)
  exact or_iff_right apart

theorem Restarted.writes (restarted : Restarted aliases m) :
    m.writeIndex? aliases.writeAlias = some (seriesName aliases.indexPrefix 1) :=
  Memory.writeIndex?_flagged restarted.ordered ((restarted.flags _).mpr rfl) fun other flagged =>
    (restarted.flags other).mp flagged

theorem Restarted.present (restarted : Restarted aliases m) :
    Dict.has (seriesName aliases.indexPrefix 1) m.indices = true :=
  Memory.has_of_flag? ((restarted.flags _).mpr rfl)

/-- What one call of a series makes of the engine, if it is granted. -/
inductive SeriesChange (t : DocumentType) (aliases : RolloverAliases) (now : Instant) (m : Memory) : Memory → Prop where
  | none : SeriesChange t aliases now m m
  | created {changed : Memory}
      (done : m.createIndex now (seriesName aliases.indexPrefix 1) (t.indexBody (firstAliases t aliases)) =
        .ok changed) : SeriesChange t aliases now m changed
  | attached {changed : Memory}
      (done : m.swapAlias ⟨aliases.writeAlias, none, seriesName aliases.indexPrefix 1⟩ = .ok changed) :
      SeriesChange t aliases now m changed
  | rolled {current : String} {changed : Memory}
      (done : m.rollover now (rolloverRequest t aliases current) = .ok changed) : SeriesChange t aliases now m changed
  | written {request : IndexRequest} {reply : IndexReply} {changed : Memory}
      (done : m.indexDocument now request = .ok (reply, changed)) : SeriesChange t aliases now m changed

theorem change_of_step {c : Call} (step : SeriesStep t aliases c) (now : Instant) (m : Memory) :
    SeriesChange t aliases now m (Memory.answer now c m).2 := by
  cases step with
  | looking reads =>
      rw [Memory.answer_reading reads]
      exact .none
  | creating =>
      rw [Memory.answer]
      cases done : m.createIndex now (seriesName aliases.indexPrefix 1) (t.indexBody (firstAliases t aliases)) with
      | error fault => exact .none
      | ok changed => exact .created done
  | attaching =>
      rw [Memory.answer]
      cases done : m.swapAlias ⟨aliases.writeAlias, none, seriesName aliases.indexPrefix 1⟩ with
      | error fault => exact .none
      | ok changed => exact .attached done
  | rolling current =>
      rw [Memory.answer]
      cases done : m.rollover now (rolloverRequest t aliases current) with
      | error fault => exact .none
      | ok changed => exact .rolled done
  | writing request =>
      rw [Memory.answer]
      cases done : m.indexDocument now request with
      | error fault => exact .none
      | ok answered => exact .written done

namespace SeriesChange

theorem keeps (change : SeriesChange t aliases now m changed) {name : String}
    (present : Dict.has name m.indices = true) : Dict.has name changed.indices = true := by
  cases change with
  | none => exact present
  | created done => simp [Memory.createIndex_has done, present]
  | attached done => simp [Memory.attach_has done, present]
  | rolled done => simp [Memory.rollover_has done, present]
  | written done => simp [Memory.indexDocument_has done, present]

/-- The alias stays where it is, unless the second index comes into being. -/
theorem restarted (change : SeriesChange t aliases now m changed) (before : Restarted aliases m)
    (alike : hasSecond aliases changed = hasSecond aliases m) : Restarted aliases changed := by
  cases change with
  | none => exact before
  | created done =>
      have absent := Memory.createIndex_fresh done
      rw [before.present] at absent
      cases absent
  | attached done => exact restarted_attach before.ordered done
  | @rolled current _ done =>
      -- The engine grants it to the first index alone.
      obtain ⟨absent, source, -⟩ := Memory.rollover_granted done
      have first : current = seriesName aliases.indexPrefix 1 := Option.some.inj (source.symm.trans before.writes)
      have target : (rolloverRequest t aliases current).target = seriesName aliases.indexPrefix 2 := by
        rw [first]
        exact nextName_first aliases
      have born := Memory.rollover_has done (seriesName aliases.indexPrefix 2)
      rw [target] at absent born
      rw [hasSecond, hasSecond, born, absent] at alike
      simp at alike
  | written done =>
      refine ⟨Memory.indexDocument_ordered before.ordered done, fun name => ?_⟩
      rw [Memory.indexDocument_flag? done]
      exact before.flags name

end SeriesChange

/-- The alias stays on the first index for as long as the second one is as it was found. -/
structure Anchored (aliases : RolloverAliases) (taken : Bool) (m : Memory) : Prop where
  second : taken = true → hasSecond aliases m = true
  restarted : hasSecond aliases m = taken → Restarted aliases m

theorem Anchored.change {taken : Bool} (anchored : Anchored aliases taken m)
    (change : SeriesChange t aliases now m changed) : Anchored aliases taken changed where
  second := fun there => change.keeps (anchored.second there)
  restarted := by
    intro after
    have before : hasSecond aliases m = taken := by
      cases taken with
      | true => exact anchored.second rfl
      | false =>
          by_contra there
          have kept : hasSecond aliases changed = true := change.keeps ((Bool.not_eq_false _).mp there)
          rw [kept] at after
          cases after
    exact change.restarted (anchored.restarted before) (after.trans before.symm)

def anchoredJobs (t : DocumentType) (aliases : RolloverAliases) (taken : Bool) : Discipline where
  rule c _ := SeriesStep t aliases c
  holds m _ := Anchored aliases taken m
  answered _ _ step now m _ := fun anchored => anchored.change (change_of_step step now m)

theorem play_anchored (backed : t.addressing = .rollover aliases conditions) {taken : Bool}
    (anchored : Anchored aliases taken m) (start : Instant) (actions : List Action) :
    Anchored aliases taken ((Site.opened m start).play t actions).memory := by
  have opened : (Site.opened m start).Disciplined (anchoredJobs t aliases taken) :=
    Site.opened_disciplined anchored start
  exact (Site.play_disciplined opened fun action _ => seriesJobs_admitted backed action).holds

/-- A series whose write alias resolves to no index, while its first index is there, gets the alias
back from a bootstrap. What the series does after that, any number of bootstraps, ticks and writes
in any order of turns, leaves it in one of two ways. If the second index was there already, every
tick that finds a limit reached meets its name and changes nothing. If it is still not there, such
a tick rolls the first index over to it. -/
theorem healed_series_advances_or_collides (backed : t.addressing = .rollover aliases conditions) (ordered : m.Ordered)
    (unresolved : m.writeIndex? aliases.writeAlias = none)
    (survived : Dict.has (seriesName aliases.indexPrefix 1) m.indices = true) (now : Instant) :
    ∃ healed, Memory.run now (bootstrap t).run m = (.ok none, healed) ∧
      healed.writeIndex? aliases.writeAlias = some (seriesName aliases.indexPrefix 1) ∧
      ∀ (start : Instant) (actions : List Action) (moments : Nat → Moment) (current : String) (stats : IndexStats),
        let after := ((Site.opened healed start).play t actions).memory
        Steady moments → Watched after aliases.writeAlias (moments 1).now current stats → conditions.Reached stats →
        (hasSecond aliases m = true → Course.run moments (tick t).run after =
          (.error (.collision ⟨t.name, seriesName aliases.indexPrefix 2⟩), after)) ∧
        (hasSecond aliases after = false → (Course.run moments (tick t).run after).1 =
          .ok (.rolledOver (seriesName aliases.indexPrefix 1) (seriesName aliases.indexPrefix 2)
            (conditions.metBy stats))) := by
  obtain ⟨healed, done, run⟩ := run_bootstrap_attaching backed now unresolved survived
  have restarted := restarted_attach ordered done
  have alike : hasSecond aliases healed = hasSecond aliases m := Memory.attach_has done _
  have anchored : Anchored aliases (hasSecond aliases m) healed := ⟨fun there => alike.trans there, fun _ => restarted⟩
  refine ⟨healed, run, restarted.writes, ?_⟩
  intro start actions moments current stats after steady watched reached
  have kept : Anchored aliases (hasSecond aliases m) after := play_anchored backed anchored start actions
  have ended := tick_end backed steady after
  -- As long as no second index came in, the alias stays with the first.
  have first : hasSecond aliases after = hasSecond aliases m → current = seriesName aliases.indexPrefix 1 := by
    intro alike
    exact Option.some.inj (watched.1.symm.trans (kept.restarted alike).writes)
  constructor
  · intro taken
    have there := kept.second taken
    have refused : (Course.run moments (tick t).run after).1 =
        .error (.collision ⟨t.name, seriesName aliases.indexPrefix 2⟩) := by
      rw [← nextName_first, ← first (there.trans taken.symm)]
      exact (ended.of_watched watched).2.1 reached (by rwa [first (there.trans taken.symm), nextTaken_first_iff])
    refine Prod.ext refused (ended.unchanged ?_)
    rw [refused]
    rintro ⟨_, _, _, ⟨⟩⟩
  · intro free
    have before : hasSecond aliases m = false := by
      by_contra there
      rw [kept.second ((Bool.not_eq_false _).mp there)] at free
      cases free
    have rolled := (ended.of_watched watched).2.2 reached
    rw [first (free.trans before.symm), nextName_first, nextTaken_first_iff] at rolled
    exact rolled (by rw [free]; exact Bool.false_ne_true)

/-- What is left of a series of log lines that has lost its write alias. -/
def survivors (names : List String) : Memory where
  indices := names.map fun name => (name, {
    createdAt := ⟨0, 0⟩
    body := .object []
    aliases := [("logs-read", false)]
    documents := [("mem-1", ⟨.object [], 1, 2⟩)] })
  minted := 1

theorem lone_survivor_goes_on :
    ∃ healed, Memory.run ⟨0, 0⟩ (bootstrap logLines).run (survivors ["logs-000001"]) = (.ok none, healed) ∧
      Watched healed "logs-write" ⟨0, 0⟩ "logs-000001" ⟨⟨0⟩, 1, 2⟩ ∧
      (Course.run (fun _ => ⟨⟨0, 0⟩, none⟩) (tick logLines).run healed).1 =
        .ok (.rolledOver "logs-000001" "logs-000002" [.maxDocs 1]) := by
  have backed : logLines.addressing = .rollover logAliases ⟨none, some 1, none⟩ := rfl
  have ordered : (survivors ["logs-000001"]).Ordered := List.pairwise_singleton ..
  obtain ⟨healed, run, -, goesOn⟩ := healed_series_advances_or_collides backed ordered rfl rfl ⟨0, 0⟩
  have reached : RolloverConditions.Reached ⟨none, some 1, none⟩ ⟨⟨0⟩, 1, 2⟩ := ⟨.maxDocs 1, rfl, Nat.le_refl 1⟩
  have left : healed = (Memory.run ⟨0, 0⟩ (bootstrap logLines).run (survivors ["logs-000001"])).2 :=
    (congrArg Prod.snd run).symm
  have watched : Watched healed "logs-write" ⟨0, 0⟩ "logs-000001" ⟨⟨0⟩, 1, 2⟩ := by
    rw [left]
    exact ⟨rfl, _, rfl, rfl⟩
  have free : hasSecond logAliases healed = false := by
    rw [left]
    rfl
  have steady : Steady fun _ => ⟨⟨0, 0⟩, none⟩ := fun _ => rfl
  have ended := goesOn ⟨0, 0⟩ [] _ "logs-000001" ⟨⟨0⟩, 1, 2⟩ steady watched reached
  exact ⟨healed, run, watched, ended.2 free⟩

/-- With two indices left, the alias is put back on the older one, and the next tick is the first
of many that meet the name of the newer one. -/
theorem two_survivors_collide :
    ¬∀ (env : Environment) (config : TypeConfig) (t : DocumentType) (aliases : RolloverAliases)
      (conditions : RolloverConditions) (m healed : Memory) (last : Nat) (result : Option String)
      (now later : Instant) (current : String) (stats : IndexStats),
      DocumentType.build env config = .ok t → t.addressing = .rollover aliases conditions → m.Ordered →
      m.writeIndex? aliases.writeAlias = none → 1 ≤ last →
      (∀ k, 1 ≤ k → k ≤ last → Dict.has (seriesName aliases.indexPrefix k) m.indices = true) →
      Memory.run now (bootstrap t).run m = (.ok result, healed) →
      Watched healed aliases.writeAlias later current stats → conditions.Reached stats →
      RolledOver (Memory.run later (tick t).run healed).1 := by
  intro advances
  have ordered : (survivors ["logs-000001", "logs-000002"]).Ordered := by
    refine List.pairwise_cons.mpr ⟨?_, List.pairwise_singleton ..⟩
    decide
  have survived : ∀ k, 1 ≤ k → k ≤ 2 →
      Dict.has (seriesName "logs" k) (survivors ["logs-000001", "logs-000002"]).indices = true := by
    intro k positive small
    obtain rfl | rfl : k = 1 ∨ k = 2 := by omega
    · decide
    · decide
  have reached : RolloverConditions.Reached ⟨none, some 1, none⟩ ⟨⟨0⟩, 1, 2⟩ := ⟨.maxDocs 1, rfl, Nat.le_refl 1⟩
  obtain ⟨source, target, reasons, rolled⟩ := advances .empty logLinesConfig logLines logAliases _
    (survivors ["logs-000001", "logs-000002"]) _ 2 none ⟨0, 0⟩ ⟨0, 0⟩ "logs-000001" ⟨⟨0⟩, 1, 2⟩ build_logLines rfl
    ordered rfl (by decide) survived rfl ⟨rfl, _, rfl, rfl⟩ reached
  -- The alias is back on the first survivor, and the next name is the second one's.
  have refused : (Memory.run ⟨0, 0⟩ (tick logLines).run
      (Memory.run ⟨0, 0⟩ (bootstrap logLines).run (survivors ["logs-000001", "logs-000002"])).2).1 =
      .error (.collision ⟨"LogLine", "logs-000002"⟩) := rfl
  cases refused.symm.trans rolled

end Rollover

end DocMapper
