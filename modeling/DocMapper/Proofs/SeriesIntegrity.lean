import DocMapper.Proofs.Generations
/-!
Any number of ticks and writes may take turns on a series without spoiling it. Every rollover
that is granted adds the next number, and a tick that is granted one reports it right then, so
the reports count the indices. A write lands in the newest index, where nothing overwrites it
but a later write under its identity, and all indices stay in reach of reads.
-/

namespace DocMapper

open Rollover Routing Interleaving

namespace Interleaving

def Outcome.rolledFrom? : Outcome → Option String
  | .ticked (.ok report) => Rollover.rolledFrom? report
  | _ => none

def Outcome.stored? : Outcome → Option (IndexReply × Json)
  | .wrote request (.ok reply) => some (reply, request.document)
  | _ => none

def rolledFrom (outcomes : List Outcome) : List String :=
  outcomes.filterMap Outcome.rolledFrom?

/-- The document of the last acknowledged write to a place. -/
def lastStored? (outcomes : List Outcome) (index id : String) : Option Json :=
  ((outcomes.filterMap Outcome.stored?).find? fun (reply, _) => reply.index = index ∧ reply.id = id).map Prod.snd

end Interleaving

namespace Rollover

def IsAlias (t : DocumentType) (aliases : RolloverAliases) (name : String) : Prop :=
  name = aliases.writeAlias ∨ ReadsThrough t aliases name

/-- What an engine asks of the names of a series. -/
structure NamingRules (t : DocumentType) (aliases : RolloverAliases) : Prop where
  literalAlias : ∀ name, IsAlias t aliases name → '*' ∉ name.toList ∧ ',' ∉ name.toList
  literalPrefix : '*' ∉ aliases.indexPrefix.toList ∧ ',' ∉ aliases.indexPrefix.toList
  /-- No alias has the name of an index. -/
  apart : ∀ name, IsAlias t aliases name → ∀ k, 1 ≤ k → name ≠ seriesName aliases.indexPrefix k

/-- What may happen to a series that is kept going: ticks, and writes through its alias. -/
def Everyday (aliases : RolloverAliases) : Action → Prop
  | .start .bootstrap => False
  | .start .tick => True
  | .start (.write request) => request.target = aliases.writeAlias
  | .turn _ => True
  | .clock _ => True

/-- A series of `n` indices in an engine that has had these outcomes. -/
structure Intact (t : DocumentType) (aliases : RolloverAliases) (m : Memory) (outcomes : List Outcome)
    (n : Nat) : Prop where
  held : Held aliases m n n
  listed : ∀ name, Dict.has name m.indices = true ↔
    ∃ k, 1 ≤ k ∧ k ≤ n ∧ name = seriesName aliases.indexPrefix k
  readable : ∀ name, ReadsThrough t aliases name → name ≠ aliases.writeAlias →
    ∀ k, 1 ≤ k → k ≤ n → m.flag? (seriesName aliases.indexPrefix k) name = some false
  counted : n = 1 + (rolledFrom outcomes).length
  sources : ∀ source ∈ rolledFrom outcomes, ∃ k, k < n ∧ source = seriesName aliases.indexPrefix k
  distinct : (rolledFrom outcomes).Nodup
  stored : ∀ index id, m.document? index id = lastStored? outcomes index id

/-- The calls of ticks and writes, and what they have to say for themselves afterwards. -/
inductive EverydayStep (t : DocumentType) (aliases : RolloverAliases) :
    (c : Call) → (Except Fault c.Reply → Option Outcome) → Prop where
  | looking {c : Call} {results : Except Fault c.Reply → Option Outcome} (reads : c.isReading = true)
      (silent : ∀ reply outcome, results reply = some outcome →
        outcome.rolledFrom? = none ∧ outcome.stored? = none) :
      EverydayStep t aliases c results
  | rolling (current : String) (reasons : List RolloverReason) :
      EverydayStep t aliases (.rollover (rolloverRequest t aliases current)) fun reply =>
        some (.ticked (concluded (.rolledOver current (nextName aliases.indexPrefix current) reasons) reply))
  | writing (request : IndexRequest) (through : request.target = aliases.writeAlias) :
      EverydayStep t aliases (.indexDocument request) fun reply => some (.wrote request reply)

variable {t : DocumentType} {aliases : RolloverAliases} {conditions : RolloverConditions} {m : Memory}
  {outcomes : List Outcome} {n : Nat}

theorem everyday_of_tick {c : Call} {results : Except Fault c.Reply → Option (Except RolloverError RolloverReport)}
    (step : TickStep t aliases c results) :
    EverydayStep t aliases c fun reply => (results reply).map Outcome.ticked := by
  cases step with
  | looking reads silent =>
      refine .looking reads fun reply outcome ended => ?_
      obtain ⟨result, found, same⟩ := Option.map_eq_some_iff.mp ended
      subst same
      cases result with
      | error e => exact ⟨rfl, rfl⟩
      | ok report => exact ⟨silent reply report found, rfl⟩
  | rolling current reasons => exact .rolling current reasons

theorem intact_unchanged (intact : Intact t aliases m outcomes n) {outcome : Outcome}
    (silent : outcome.rolledFrom? = none ∧ outcome.stored? = none) :
    Intact t aliases m (outcome :: outcomes) n := by
  have rolled : rolledFrom (outcome :: outcomes) = rolledFrom outcomes := by
    simp [rolledFrom, silent.1]
  have stored : ∀ index id, lastStored? (outcome :: outcomes) index id = lastStored? outcomes index id := by
    intro index id
    simp [lastStored?, silent.2]
  constructor
  · exact intact.held
  · exact intact.listed
  · exact intact.readable
  · rw [rolled, intact.counted]
  · rw [rolled]
    exact intact.sources
  · rw [rolled]
    exact intact.distinct
  · intro index id
    rw [stored, intact.stored]

theorem intact_rolled (intact : Intact t aliases m outcomes n) {changed : Memory} {now : Instant}
    {current : String} {report : RolloverReport} (reported : Rollover.rolledFrom? report = some current)
    (done : m.rollover now (rolloverRequest t aliases current) = .ok changed) :
    Intact t aliases changed (.ticked (.ok report) :: outcomes) (n + 1) := by
  -- The request names the newest index and creates the one after it, or it would be refused.
  obtain ⟨positive, -, source, target, held⟩ := intact.held.roll done
  have rolled : rolledFrom (.ticked (.ok report) :: outcomes) = current :: rolledFrom outcomes := by
    simp [rolledFrom, Outcome.rolledFrom?, reported]
  constructor
  · exact held
  · intro name
    rw [Memory.rollover_has done, rolloverRequest, target, Bool.or_eq_true, intact.listed, decide_eq_true_eq]
    constructor
    · rintro (new | ⟨k, atLeast, atMost, same⟩)
      · exact ⟨n + 1, by omega, Nat.le_refl _, new.symm⟩
      · exact ⟨k, atLeast, by omega, same⟩
    · rintro ⟨k, atLeast, atMost, same⟩
      by_cases new : k = n + 1
      · exact .inl (new ▸ same.symm)
      · exact .inr ⟨k, atLeast, by omega, same⟩
  · intro name through different k atLeast atMost
    rw [Memory.rollover_flag? done, rolloverRequest, target]
    by_cases new : k = n + 1
    · simp [new, Ne.symm different, readAliases_read through different]
    · have other : seriesName aliases.indexPrefix (n + 1) ≠ seriesName aliases.indexPrefix k :=
        fun same => new (seriesName_injective _ same).symm
      simp [other, Memory.lowered, different, intact.readable name through different k atLeast (by omega)]
  · rw [rolled, List.length_cons, intact.counted]
    omega
  · rw [rolled]
    intro name member
    rcases List.mem_cons.mp member with new | old
    · exact ⟨n, by omega, new.trans source⟩
    · obtain ⟨k, below, same⟩ := intact.sources name old
      exact ⟨k, by omega, same⟩
  · rw [rolled]
    refine List.nodup_cons.mpr ⟨?_, intact.distinct⟩
    -- Whatever was rolled over from before has a smaller number.
    intro member
    obtain ⟨k, below, same⟩ := intact.sources current member
    have equal := seriesName_injective _ (source.symm.trans same)
    omega
  · intro index id
    rw [Memory.rollover_document? done, intact.stored]
    rfl

theorem writeTarget_newest (rules : NamingRules t aliases) (intact : Intact t aliases m outcomes n) :
    m.writeTarget aliases.writeAlias = .ok (seriesName aliases.indexPrefix n) := by
  have counted := intact.counted
  apply Memory.writeTarget_through
  · rw [← Bool.not_eq_true, intact.listed]
    rintro ⟨k, positive, -, same⟩
    exact rules.apart _ (.inl rfl) k positive same
  · exact intact.held.writeIndex?_of_pos (by omega)

theorem intact_wrote (rules : NamingRules t aliases) (intact : Intact t aliases m outcomes n)
    {changed : Memory} {now : Instant} {request : IndexRequest} {reply : IndexReply}
    (through : request.target = aliases.writeAlias)
    (done : m.indexDocument now request = .ok (reply, changed)) :
    Intact t aliases changed (.wrote request (.ok reply) :: outcomes) n := by
  have landed : reply.index = seriesName aliases.indexPrefix n := by
    have target := (Memory.indexDocument_granted done).1
    rw [through, writeTarget_newest rules intact] at target
    exact (Except.ok.inj target).symm
  have counted := intact.counted
  constructor
  · exact intact.held.write done
  · intro name
    rw [Memory.indexDocument_has done, Bool.or_eq_true, intact.listed, decide_eq_true_eq]
    constructor
    · rintro (here | listed)
      · exact ⟨n, by omega, Nat.le_refl n, here.symm.trans landed⟩
      · exact listed
    · exact .inr
  · intro name readThrough different k atLeast atMost
    rw [Memory.indexDocument_flag? done]
    exact intact.readable name readThrough different k atLeast atMost
  · exact intact.counted
  · exact intact.sources
  · exact intact.distinct
  · intro index id
    rw [Memory.indexDocument_document? done, intact.stored]
    by_cases here : reply.index = index ∧ reply.id = id <;>
      simp [lastStored?, Outcome.stored?, here]

theorem everydayStep_intact (rules : NamingRules t aliases) {c : Call}
    {results : Except Fault c.Reply → Option Outcome} (step : EverydayStep t aliases c results) (now : Instant)
    (intact : ∃ n, Intact t aliases m outcomes n) :
    ∃ n, Intact t aliases (Memory.answer now c m).2
      ((results (Memory.answer now c m).1).toList ++ outcomes) n := by
  obtain ⟨n, intact⟩ := intact
  -- Only a granted rollover adds a generation.
  cases step with
  | looking reads silent =>
      rw [Memory.answer_reading reads]
      cases ended : results (Memory.answer now c m).1 with
      | none => exact ⟨n, intact⟩
      | some outcome => exact ⟨n, intact_unchanged intact (silent _ _ ended)⟩
  | rolling current reasons =>
      rw [Memory.answer]
      cases done : m.rollover now (rolloverRequest t aliases current) with
      | error f => exact ⟨n, intact_unchanged intact ⟨rfl, rfl⟩⟩
      | ok changed => exact ⟨n + 1, intact_rolled intact rfl done⟩
  | writing request through =>
      rw [Memory.answer]
      cases done : m.indexDocument now request with
      | error f => exact ⟨n, intact_unchanged intact ⟨rfl, rfl⟩⟩
      | ok answered => exact ⟨n, intact_wrote rules intact through done⟩

def everyday (rules : NamingRules t aliases) : Discipline where
  rule := EverydayStep t aliases
  holds m outcomes := ∃ n, Intact t aliases m outcomes n
  answered _ _ step now _ _ intact := everydayStep_intact rules step now intact

theorem admitted_of_everyday (rules : NamingRules t aliases)
    (backed : t.addressing = .rollover aliases conditions) {action : Action}
    (allowed : Everyday aliases action) : Site.Admitted (everyday rules) t action := by
  cases action with
  | start job =>
      cases job with
      | bootstrap => cases allowed
      | tick =>
          constructor
          · exact (tick_keeps backed).map Outcome.ticked fun _ _ step => everyday_of_tick step
          · rw [Job.program, Dialogue.result?_map, result?_tick backed]
            rfl
      | write request => exact ⟨.ask (.writing request allowed) fun _ => .done _, rfl⟩
  | turn position => trivial
  | clock now => trivial

theorem bootstrapped_intact (backed : t.addressing = .rollover aliases conditions) (start : Instant) :
    (Memory.run start (bootstrap t).run Memory.empty).1 = .ok (some (seriesName aliases.indexPrefix 1)) ∧
      Intact t aliases (Memory.run start (bootstrap t).run Memory.empty).2 [] 1 := by
  obtain ⟨changed, created, run⟩ := run_bootstrap_creating (m := Memory.empty) backed start rfl rfl
  rw [run]
  refine ⟨rfl, (Held.empty aliases |>.create created).2, ?_, ?_, rfl, ?_, List.nodup_nil, ?_⟩
  · intro name
    rw [Memory.createIndex_has created, Bool.or_eq_true, decide_eq_true_eq]
    constructor
    · rintro (first | listed)
      · exact ⟨1, Nat.le_refl 1, Nat.le_refl 1, first.symm⟩
      · cases listed
    · rintro ⟨k, positive, small, same⟩
      have first : k = 1 := by omega
      exact .inl (first ▸ same.symm)
  · intro name through different k positive small
    have first : k = 1 := by omega
    rw [Memory.createIndex_flag? created, first, if_pos rfl, firstAliases_read through different]
  · intro source member
    cases member
  · intro index id
    rw [Memory.createIndex_document? created]
    rfl

section Reading

theorem targetPieces_single {target : String} (single : ',' ∉ target.toList)
    (tidy : DocumentType.Tidy target) : Memory.targetPieces target = [target] := by
  simp [Memory.targetPieces, Text.split_of_not_mem single, tidy.1, tidy.2]

theorem mem_readTargets {target name : String} {index : MemoryIndex} (single : ',' ∉ target.toList)
    (tidy : DocumentType.Tidy target) (found : Dict.find? name m.indices = some index)
    (selected : m.selects target name index = true) : name ∈ Dict.keys (m.readTargets target) := by
  apply List.mem_map.mpr
  refine ⟨(name, index), List.mem_filter.mpr ⟨Dict.mem_of_find? found, ?_⟩, rfl⟩
  simpa [targetPieces_single single tidy] using selected

theorem selects_alias {target name : String} {index : MemoryIndex}
    (unnamed : Dict.has target m.indices = false) (literal : '*' ∉ target.toList)
    (found : Dict.find? name m.indices = some index) {isWrite : Bool}
    (flagged : m.flag? name target = some isWrite) : m.selects target name index = true := by
  rw [Memory.flag?, found, Option.bind_some] at flagged
  rw [Memory.selects, unnamed]
  simp [literal, Dict.has, flagged]

theorem selects_wildcard {target name : String} {index : MemoryIndex}
    (unnamed : Dict.has target m.indices = false) (wild : '*' ∈ target.toList)
    (matched : Text.matchesWildcard target.toList name.toList = true) :
    m.selects target name index = true := by
  simp [Memory.selects, unnamed, wild, matched]

theorem tidy_pattern {indexPrefix : String} (tidy : DocumentType.Tidy indexPrefix) :
    DocumentType.Tidy (indexPrefix ++ "-*") := by
  constructor
  · exact Text.trim_append_solid tidy.1 tidy.2 (show "-*".toList = ['-'] ++ ['*'] from rfl) (by decide)
  · intro empty
    have short := congrArg String.toList empty
    simp at short

theorem readTarget_eq (backed : t.addressing = .rollover aliases conditions) :
    ReadsThrough t aliases (readTarget t) ∨ readTarget t = aliases.indexPrefix ++ "-*" := by
  have target : readTarget t =
      (aliases.readAlias.orElse fun _ => t.aliasName).getD (aliases.indexPrefix ++ "-*") := by
    rw [readTarget, backed]
  rw [target, ReadsThrough]
  cases aliases.readAlias with
  | some read => exact .inl (.inl rfl)
  | none =>
      cases t.aliasName with
      | some own => exact .inl (.inr rfl)
      | none => exact .inr rfl

variable (rules : NamingRules t aliases) (tidy : DocumentType.TidySeries t aliases)
  (intact : Intact t aliases m outcomes n)

include rules intact in
theorem unnamed_of_alias {name : String} (isAlias : IsAlias t aliases name) :
    Dict.has name m.indices = false := by
  rw [← Bool.not_eq_true, intact.listed]
  rintro ⟨k, positive, -, same⟩
  exact rules.apart name isAlias k positive same

include rules intact in
theorem unnamed_wildcard : Dict.has (aliases.indexPrefix ++ "-*") m.indices = false := by
  rw [← Bool.not_eq_true, intact.listed]
  rintro ⟨k, -, -, same⟩
  apply star_not_mem_seriesName rules.literalPrefix.1 k
  rw [← same]
  simp

include rules tidy intact in
theorem series_readable (backed : t.addressing = .rollover aliases conditions) {k : Nat} (positive : 1 ≤ k)
    (small : k ≤ n) : seriesName aliases.indexPrefix k ∈ Dict.keys (m.readTargets (readTarget t)) := by
  obtain ⟨index, found⟩ := Dict.has_eq_true_iff.mp (intact.held.has_of_le positive small)
  -- Reads go through an alias that every index has, or else through the pattern of the names.
  rcases readTarget_eq backed with through | wildcard
  · have tidyTarget : DocumentType.Tidy (readTarget t) := by
      rcases through with read | own
      · exact tidy.readAlias _ read
      · exact tidy.ownAlias _ own
    obtain ⟨literal, single⟩ := rules.literalAlias _ (.inr through)
    have unnamed := unnamed_of_alias rules intact (.inr through)
    refine mem_readTargets single tidyTarget found ?_
    -- The alias for reading may be the write alias, which is flagged in another way.
    by_cases write : readTarget t = aliases.writeAlias
    · rw [write] at unnamed literal ⊢
      exact selects_alias unnamed literal found (intact.held.flag_of_le positive small)
    · exact selects_alias unnamed literal found (intact.readable _ through write k positive small)
  · rw [wildcard]
    have single : ',' ∉ (aliases.indexPrefix ++ "-*").toList := by
      simpa using rules.literalPrefix.2
    refine mem_readTargets single (tidy_pattern tidy.indexPrefix) found ?_
    exact selects_wildcard (unnamed_wildcard rules intact) (by simp)
      (seriesName_matches rules.literalPrefix.1 k)

end Reading

/-- Any number of ticks and writes through the alias take turns on a series that was just
bootstrapped, while the clock is moved. With `n` one more than the ticks that reported a
rollover, the engine has exactly the indices 1 to `n` and only the newest takes writes; no index
was rolled over from twice; the last acknowledged write to a place is still there; and reads
reach every index. -/
theorem interleaved_ticks_keep_series {env : Environment} {config : TypeConfig}
    (built : DocumentType.build env config = .ok t) (backed : t.addressing = .rollover aliases conditions)
    (rules : NamingRules t aliases) (start : Instant) (actions : List Action)
    (allowed : ∀ action ∈ actions, Everyday aliases action) :
    let bootstrapped := Memory.run start (bootstrap t).run Memory.empty
    let site := (Site.opened bootstrapped.2 start).play t actions
    let n := 1 + (rolledFrom site.outcomes).length
    bootstrapped.1 = .ok (some (seriesName aliases.indexPrefix 1)) ∧
      (∀ name, Dict.has name site.memory.indices = true ↔
        ∃ k, 1 ≤ k ∧ k ≤ n ∧ name = seriesName aliases.indexPrefix k) ∧
      (∀ k, 1 ≤ k → k ≤ n →
        site.memory.flag? (seriesName aliases.indexPrefix k) aliases.writeAlias = some (decide (k = n))) ∧
      (rolledFrom site.outcomes).Nodup ∧
      (∀ index id document, lastStored? site.outcomes index id = some document →
        site.memory.document? index id = some document) ∧
      (∀ k, 1 ≤ k → k ≤ n →
        seriesName aliases.indexPrefix k ∈ Dict.keys (site.memory.readTargets (readTarget t))) := by
  intro bootstrapped site n
  obtain ⟨created, opened⟩ := bootstrapped_intact (t := t) backed start
  have atStart : (everyday rules).holds bootstrapped.2 [] := ⟨1, opened⟩
  have disciplined : site.Disciplined (everyday rules) := by
    apply Site.play_disciplined (Site.opened_disciplined atStart start)
    exact fun action member => admitted_of_everyday rules backed (allowed action member)
  -- The invariant knows some number of indices, and the outcomes tell which.
  obtain ⟨last, intact⟩ := disciplined.holds
  have counted : last = n := intact.counted
  subst counted
  refine ⟨created, intact.listed, fun k => intact.held.flag_of_le, intact.distinct, ?_, ?_⟩
  · intro index id document written
    rw [intact.stored, written]
  · intro k positive small
    exact series_readable rules (DocumentType.build_tidy built backed) intact backed positive small

theorem namingRules_logLines : NamingRules logLines logAliases := by
  have names : ∀ name, IsAlias logLines logAliases name → name = "logs-write" ∨ name = "logs-read" := by
    rintro name (write | read | own)
    · exact .inl write
    · exact .inr (Option.some.inj read).symm
    · cases own
  constructor
  · intro name isAlias
    rcases names name isAlias with rfl | rfl <;> decide
  · decide
  · intro name isAlias k _
    rcases names name isAlias with rfl | rfl
    · exact ne_seriesName (c := 'w') rfl (by decide) (by decide) k
    · exact ne_seriesName (c := 'r') rfl (by decide) (by decide) k

/-- One write, then two ticks that both find the first index full; one of them is granted. -/
def overlappingTicks : List Action :=
  [.start (.write ⟨"logs-write", none, none, .object [], true⟩), .turn 0, .start .tick, .start .tick,
    .turn 1, .turn 2, .turn 1, .turn 2, .turn 1, .turn 2, .turn 1, .turn 2]

def overlapped : Site :=
  (Site.opened (Memory.run ⟨0, 0⟩ (bootstrap logLines).run Memory.empty).2 ⟨0, 0⟩).play logLines overlappingTicks

theorem overlapping_ticks_roll_once :
    rolledFrom overlapped.outcomes = ["logs-000001"] ∧
      (∀ name, Dict.has name overlapped.memory.indices = true ↔
        ∃ k, 1 ≤ k ∧ k ≤ 2 ∧ name = seriesName "logs" k) ∧
      overlapped.memory.document? "logs-000001" "mem-1" = some (.object []) := by
  have allowed : ∀ action ∈ overlappingTicks, Everyday logAliases action := by
    simp [overlappingTicks, Everyday, logAliases]
  have once : rolledFrom overlapped.outcomes = ["logs-000001"] := by decide +kernel
  have last : lastStored? overlapped.outcomes "logs-000001" "mem-1" = some (.object []) := rfl
  have kept := interleaved_ticks_keep_series build_logLines rfl namingRules_logLines ⟨0, 0⟩ _ allowed
  obtain ⟨-, listed, -, -, stored, -⟩ := kept
  refine ⟨once, ?_, stored _ _ _ last⟩
  intro name
  have here := listed name
  rw [← overlapped, once] at here
  exact here

end Rollover

end DocMapper
