import DocMapper.Proofs.AliasFlags
import DocMapper.Proofs.BuiltSeries
import DocMapper.Proofs.Interleaving
import DocMapper.Proofs.SeriesNames
/-!
Which calls `bootstrap` and `tick` make, and when a tick reports that it rolled over. Both look
a few times and then change the engine at most once. What they saw does not matter for what
follows, only which change they ask for.
-/

namespace DocMapper

def Call.isReading : Call → Bool
  | .indexExists _ | .listIndices _ | .writeIndex _ | .indexStats _ | .search .. | .count .. => true
  | _ => false

theorem Memory.answer_reading {c : Call} (reads : c.isReading = true) (now : Instant) (m : Memory) :
    (Memory.answer now c m).2 = m := by
  cases c with
  | indexStats index =>
      rw [Memory.answer]
      split <;> rfl
  | indexExists | listIndices | writeIndex | search | count => rfl
  | createIndex | swapAlias | rollover | indexDocument | deleteDocument => cases reads

namespace Rollover

open Dialogue Routing

variable {t : DocumentType} {aliases : RolloverAliases} {conditions : RolloverConditions}

/-- What a tick asks for that saw the write alias on an index. -/
def rolloverRequest (t : DocumentType) (aliases : RolloverAliases) (current : String) : RolloverRequest :=
  ⟨aliases.writeAlias, current, nextName aliases.indexPrefix current, t.indexBody (readAliases t aliases)⟩

def rolledFrom? : RolloverReport → Option String
  | .rolledOver source _ _ => some source
  | .notNeeded _ _ => none

def concluded (report : RolloverReport) : Except Fault Unit → Except RolloverError RolloverReport
  | .ok () => .ok report
  | .error f => .error (.engine f)

/-- A tick looks, and then reports what became of its only change. -/
inductive TickStep (t : DocumentType) (aliases : RolloverAliases) :
    (c : Call) → (Except Fault c.Reply → Option (Except RolloverError RolloverReport)) → Prop where
  | looking {c : Call} {results : Except Fault c.Reply → Option (Except RolloverError RolloverReport)}
      (reads : c.isReading = true)
      (silent : ∀ reply report, results reply = some (.ok report) → rolledFrom? report = none) :
      TickStep t aliases c results
  | rolling (current : String) (reasons : List RolloverReason) :
      TickStep t aliases (.rollover (rolloverRequest t aliases current)) fun reply =>
        some (concluded (.rolledOver current (nextName aliases.indexPrefix current) reasons) reply)

theorem rolloverTarget_eq {current next : String} {existing : List String}
    (backed : t.addressing = .rollover aliases conditions)
    (chosen : rolloverTarget t current existing = .ok next) : next = nextName aliases.indexPrefix current := by
  rw [rolloverTarget, backed] at chosen
  dsimp only at chosen
  split at chosen
  · cases chosen
  · exact (Except.ok.inj chosen).symm

theorem rollOver_keeps (backed : t.addressing = .rollover aliases conditions) (current : String)
    (reasons : List RolloverReason) : (rollOver t aliases current reasons).run.Keeps (TickStep t aliases) := by
  refine keeps_attempt (.looking rfl ?_) fun existing => ?_
  -- The listing alone never ends a tick with a report: a name is taken, or the rollover follows.
  · rintro (f | existing) report ended
    · cases ended
    · rw [goOn] at ended
      cases chosen : rolloverTarget t current existing with
      | error e =>
          rw [chosen, Except.mapError, lift_error_bind] at ended
          cases ended
      | ok next =>
          rw [chosen, Except.mapError, lift_ok_bind] at ended
          cases ended
  · cases chosen : rolloverTarget t current existing with
    | error e =>
        rw [Except.mapError, lift_error_bind]
        exact .done _
    | ok next =>
        rw [Except.mapError, lift_ok_bind, rolloverTarget_eq backed chosen]
        refine .ask ?_ fun reply => ?_
        · refine cast (congrArg _ (funext fun reply => ?_)) (TickStep.rolling current reasons)
          cases reply <;> rfl
        · cases reply <;> exact .done _

theorem tick_keeps (backed : t.addressing = .rollover aliases conditions) :
    (tick t).run.Keeps (TickStep t aliases) := by
  rw [tick, backed]
  refine keeps_attempt (.looking rfl ?_) fun writer => ?_
  · rintro (f | (_ | current)) report ended <;> cases ended
  · cases writer with
    | none => exact .done _
    | some current =>
        refine keeps_attempt (.looking rfl ?_) fun stats => ?_
        -- What ends here is a tick that met no condition.
        · rintro (f | stats) report ended
          · cases ended
          · rw [goOn] at ended
            split at ended <;> cases ended
            rfl
        · split
          · exact .done _
          · exact rollOver_keeps backed current _

/-- A bootstrap looks, and then asks for the first index or puts the alias back on it. -/
inductive BootstrapStep (t : DocumentType) (aliases : RolloverAliases) : Call → Prop where
  | looking {c : Call} (reads : c.isReading = true) : BootstrapStep t aliases c
  | creating : BootstrapStep t aliases
      (.createIndex (seriesName aliases.indexPrefix 1) (t.indexBody (firstAliases t aliases)))
  | attaching : BootstrapStep t aliases
      (.swapAlias ⟨aliases.writeAlias, none, seriesName aliases.indexPrefix 1⟩)

theorem bootstrap_keeps (backed : t.addressing = .rollover aliases conditions) :
    (bootstrap t).run.Keeps fun c _ => BootstrapStep t aliases c := by
  rw [bootstrap, backed, initialIndex_rollover backed]
  refine keeps_attempt (.looking rfl) fun writer => ?_
  cases writer with
  | some current => exact .done _
  | none =>
      refine keeps_attempt (.looking rfl) fun present => ?_
      cases present with
      | true => exact keeps_attempt .attaching fun _ => .done _
      | false => exact keeps_attempt .creating fun _ => .done _

theorem result?_bootstrap (backed : t.addressing = .rollover aliases conditions) :
    (bootstrap t).run.result? = none := by
  rw [bootstrap, backed, initialIndex_rollover backed]
  rfl

theorem result?_tick (backed : t.addressing = .rollover aliases conditions) : (tick t).run.result? = none := by
  rw [tick, backed]
  rfl

section Alone

variable {m : Memory}

theorem run_bootstrap_writing (backed : t.addressing = .rollover aliases conditions) (now : Instant)
    {current : String} (writes : m.writeIndex? aliases.writeAlias = some current) :
    Memory.run now (bootstrap t).run m = (.ok none, m) := by
  rw [bootstrap, backed, initialIndex_rollover backed]
  refine (run_attempt ..).trans ?_
  rw [Memory.answer, writes]
  rfl

theorem run_bootstrap_attaching (backed : t.addressing = .rollover aliases conditions) (now : Instant)
    (unheld : m.writeIndex? aliases.writeAlias = none)
    (present : Dict.has (seriesName aliases.indexPrefix 1) m.indices = true) :
    ∃ changed, m.swapAlias ⟨aliases.writeAlias, none, seriesName aliases.indexPrefix 1⟩ = .ok changed ∧
      Memory.run now (bootstrap t).run m = (.ok none, changed) := by
  have granted : m.swapAlias ⟨aliases.writeAlias, none, seriesName aliases.indexPrefix 1⟩ = .ok _ :=
    Memory.attach_of_present present
  refine ⟨_, granted, ?_⟩
  rw [bootstrap, backed, initialIndex_rollover backed]
  refine (run_attempt ..).trans ?_
  rw [Memory.answer, unheld]
  refine (run_attempt ..).trans ?_
  rw [Memory.answer, present]
  refine (run_attempt ..).trans ?_
  rw [Memory.answer, granted]
  rfl

theorem run_bootstrap_creating (backed : t.addressing = .rollover aliases conditions) (now : Instant)
    (unheld : m.writeIndex? aliases.writeAlias = none)
    (absent : Dict.has (seriesName aliases.indexPrefix 1) m.indices = false) :
    ∃ changed, m.createIndex now (seriesName aliases.indexPrefix 1) (t.indexBody (firstAliases t aliases)) =
        .ok changed ∧
      Memory.run now (bootstrap t).run m = (.ok (some (seriesName aliases.indexPrefix 1)), changed) := by
  have granted : m.createIndex now (seriesName aliases.indexPrefix 1)
      (t.indexBody (firstAliases t aliases)) = .ok _ := Memory.createIndex_of_fresh absent
  refine ⟨_, granted, ?_⟩
  rw [bootstrap, backed, initialIndex_rollover backed]
  refine (run_attempt ..).trans ?_
  rw [Memory.answer, unheld]
  refine (run_attempt ..).trans ?_
  rw [Memory.answer, absent]
  refine (run_attempt ..).trans ?_
  rw [Memory.answer, granted]
  rfl

end Alone

end Rollover

end DocMapper
