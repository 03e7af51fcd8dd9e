import DocMapper.Proofs.CheckedTypes
import DocMapper.Proofs.TickOutcomes
/-!
Whether an index that has just been created is left alone. It has no age, no documents and no
bytes, so only a limit of nothing is reached by it. Building reads a limit of no documents as no
limit, but it keeps an age and a size whose number is zero, and a series with such a limit never
comes to rest: the tick after a rollover rolls over again, or finds the next name taken.
-/

namespace DocMapper

/-- A text whose number is zero, whatever its unit is. -/
def AmountsToNothing (text : String) : Prop :=
  ∀ c ∈ (canonicalChars text).takeWhile Char.isDigit, c = '0'

/-- An age or a size of nothing that a series asks for. -/
def LimitsNothing (env : Environment) (config : RolloverConfig) : Prop :=
  ∃ text, (DocumentType.filledNonempty env config.maxAge = some text ∨
    DocumentType.filledNonempty env config.maxSize = some text) ∧ AmountsToNothing text

/-- The numbers of an index that has just been created. -/
def IndexStats.blank : IndexStats :=
  ⟨.zero, 0, 0⟩

section Limits

variable {digits text rest : List Char} {n : Nat} {raw : String}

theorem foldl_digits_eq_zero_iff (digit : ∀ c ∈ digits, c.isDigit = true) (n : Nat) :
    digits.foldl (fun n c => 10 * n + (c.toNat - '0'.toNat)) n = 0 ↔ n = 0 ∧ ∀ c ∈ digits, c = '0' := by
  induction digits generalizing n with
  | nil => simp
  | cons c digits ih =>
      have least : '0'.toNat ≤ c.toNat := (Char.isDigit_iff_toNat.mp (digit c List.mem_cons_self)).1
      have zero : 10 * n + (c.toNat - '0'.toNat) = 0 ↔ n = 0 ∧ c = '0' := by
        rw [← Char.toNat_inj]
        omega
      rw [List.foldl_cons, ih fun d member => digit d (List.mem_cons_of_mem c member), List.forall_mem_cons, zero,
        and_assoc]

theorem leadingNumber?_eq_zero_iff (read : leadingNumber? text = some (n, rest)) :
    n = 0 ↔ ∀ c ∈ text.takeWhile Char.isDigit, c = '0' := by
  have digit : ∀ c ∈ text.takeWhile Char.isDigit, c.isDigit = true := List.all_eq_true.mp List.all_takeWhile
  rw [leadingNumber?] at read
  split at read
  · cases read
  · cases read
    rw [foldl_digits_eq_zero_iff digit]
    simp

theorem Duration.ofAmount?_eq_zero_iff {unit : String} {d : Duration} (read : ofAmount? n unit = some d) :
    d = .zero ↔ n = 0 := by
  rw [ofAmount?] at read
  split at read
  · cases read
    simp only [zero, ofMillis, Duration.mk.injEq]
    omega
  · obtain ⟨size, known, read⟩ := Option.bind_eq_some_iff.mp read
    have positive : 0 < size := by
      simp only [secondsPer?] at known
      split_ifs at known <;> cases known <;> decide
    split at read
    · cases read
      have whole : n * size = 0 ↔ n = 0 := Nat.mul_eq_zero.trans (or_iff_left (Nat.ne_of_gt positive))
      simp only [zero, ofSecs, Duration.mk.injEq, ← whole]
      omega
    · cases read

theorem Duration.parse_eq_zero_iff {d : Duration} (read : parse raw = .ok d) : d = .zero ↔ AmountsToNothing raw := by
  rw [parse] at read
  split at read
  · next found =>
      cases read
      obtain ⟨⟨amount, rest⟩, number, unit⟩ := Option.bind_eq_some_iff.mp found
      exact (ofAmount?_eq_zero_iff unit).trans (leadingNumber?_eq_zero_iff number)
  · cases read

theorem ByteSize.parse_eq_zero_iff {size : ByteSize} (read : parse raw = .ok size) :
    size = ⟨0⟩ ↔ AmountsToNothing raw := by
  rw [parse] at read
  split at read
  · next found =>
      cases read
      obtain ⟨⟨amount, rest⟩, number, counted⟩ := Option.bind_eq_some_iff.mp found
      obtain ⟨unit, known, sized⟩ := Option.bind_eq_some_iff.mp counted
      have positive : 0 < unit := by
        simp only [bytesPer?] at known
        split_ifs at known <;> cases known <;> decide
      split at sized
      · cases sized
        have whole : amount * unit = 0 ↔ amount = 0 := Nat.mul_eq_zero.trans (or_iff_left (Nat.ne_of_gt positive))
        rw [ByteSize.mk.injEq, whole]
        exact leadingNumber?_eq_zero_iff number
      · cases sized
  · cases read

end Limits

theorem RolloverConditions.reached_blank_iff {c : RolloverConditions} :
    c.Reached .blank ↔ c.maxAge = some .zero ∨ c.maxDocs = some 0 ∨ c.maxSize = some ⟨0⟩ := by
  constructor
  · rintro ⟨reason, asked, reached⟩
    cases reason with
    | maxAge age =>
        obtain ⟨nanos⟩ := age
        obtain rfl : nanos = 0 := Nat.le_zero.mp reached
        exact .inl asked
    | maxDocs docs =>
        obtain rfl : docs = 0 := Nat.le_zero.mp reached
        exact .inr (.inl asked)
    | maxSize size =>
        obtain ⟨bytes⟩ := size
        obtain rfl : bytes = 0 := Nat.le_zero.mp reached
        exact .inr (.inr asked)
  · rintro (asked | asked | asked)
    · exact ⟨.maxAge .zero, asked, Nat.le_refl 0⟩
    · exact ⟨.maxDocs 0, asked, Nat.le_refl 0⟩
    · exact ⟨.maxSize ⟨0⟩, asked, Nat.le_refl 0⟩

/-- A value that an optional text is read as, if a property of the value shows in the text. -/
theorem readOption_eq_some_iff {α : Type} {read : String → Except ConfigError α} {given : Option String}
    {value : Option α} {a : α} {shows : String → Prop} (done : DocumentType.readOption read given = .ok value)
    (tells : ∀ raw b, read raw = .ok b → (b = a ↔ shows raw)) :
    value = some a ↔ ∃ text, given = some text ∧ shows text := by
  cases given with
  | none =>
      cases done
      simp
  | some raw =>
      cases found : read raw with
      | error e => simp [DocumentType.readOption, found, Except.map] at done
      | ok b =>
          have same : some b = value := by simpa [DocumentType.readOption, found, Except.map] using done
          simp [← same, tells raw b found]

/-- Of the limits that building keeps, only an age or a size of nothing is reached by a new index. -/
theorem DocumentType.SeriesSteps.reached_blank_iff {env : Environment} {config : RolloverConfig}
    {aliases : RolloverAliases} {conditions : RolloverConditions} {schedule : Option Schedule}
    (steps : SeriesSteps env config aliases conditions schedule) :
    conditions.Reached .blank ↔ LimitsNothing env config := by
  have aged := readOption_eq_some_iff steps.maxAge fun _ _ read => Duration.parse_eq_zero_iff read
  have sized := readOption_eq_some_iff steps.maxSize fun _ _ read => ByteSize.parse_eq_zero_iff read
  rw [RolloverConditions.reached_blank_iff, aged, sized, LimitsNothing]
  have counted := steps.usable.maxDocs
  constructor
  · rintro (⟨text, given, nothing⟩ | zero | ⟨text, given, nothing⟩)
    · exact ⟨text, .inl given, nothing⟩
    · exact absurd zero counted
    · exact ⟨text, .inr given, nothing⟩
  · rintro ⟨text, given | given, nothing⟩
    · exact .inl ⟨text, given, nothing⟩
    · exact .inr (.inr ⟨text, given, nothing⟩)

namespace Rollover

open Routing

variable {t : DocumentType} {aliases : RolloverAliases} {conditions : RolloverConditions} {m after : Memory}
  {now : Instant} {born : MemoryIndex} {target : String}

theorem Newborn.stats_blank (newborn : Newborn t aliases now born) : born.stats now = .blank := by
  rw [MemoryIndex.stats, newborn.createdAt, newborn.documents]
  simp [Instant.since, IndexStats.blank, Duration.zero]

theorem Succession.writes {aliasName : String} (succession : Succession m after aliasName target born)
    (ordered : m.Ordered) (flagged : Dict.find? aliasName born.aliases = some true) :
    after.writeIndex? aliasName = some target := by
  apply Memory.writeIndex?_flagged (succession.ordered ordered)
  · rw [Memory.flag?, succession.created]
    exact flagged
  · intro other holds
    by_contra different
    rw [Memory.flag?, succession.others other different] at holds
    cases found : Dict.find? other m.indices with
    | none => simp [found] at holds
    | some index => simp [found, Memory.withAliases, Dict.find?_modify] at holds

theorem watched_newborn (newborn : Newborn t aliases now born)
    (succession : Succession m after aliases.writeAlias target born) (ordered : m.Ordered) :
    Watched after aliases.writeAlias now target .blank := by
  have flagged : Dict.find? aliases.writeAlias born.aliases = some true :=
    (newborn.flags _ _).mpr (.inl ⟨rfl, rfl⟩)
  exact ⟨succession.writes ordered flagged, born, succession.created, newborn.stats_blank.symm⟩

/-- Of what a series limits, an age or a size of nothing is all that a new index reaches. Without
such a limit the tick after a rollover leaves the new index alone if no time has passed; with one
it rolls the new index over to the next name, or finds that name taken. -/
theorem newborn_rests_iff {env : Environment} {config : TypeConfig} (built : DocumentType.build env config = .ok t)
    (backed : t.addressing = .rollover aliases conditions) :
    ∃ series, config.rollover = some series ∧ (conditions.metBy .blank = [] ↔ ¬LimitsNothing env series) ∧
      ∀ (m after : Memory) (now : Instant) (source target : String) (reasons : List RolloverReason), m.Ordered →
        Memory.run now (tick t).run m = (.ok (.rolledOver source target reasons), after) →
        (Memory.run now (tick t).run after = (.ok (.notNeeded target .blank), after) ↔ ¬LimitsNothing env series) ∧
        (LimitsNothing env series →
          (NextTaken aliases after target → Memory.run now (tick t).run after =
            (.error (.collision ⟨t.name, nextName aliases.indexPrefix target⟩), after)) ∧
          (¬NextTaken aliases after target → (Memory.run now (tick t).run after).1 =
            .ok (.rolledOver target (nextName aliases.indexPrefix target) (conditions.metBy .blank)))) := by
  obtain ⟨bound, steps⟩ := DocumentType.build_steps built
  obtain ⟨series, given, limits⟩ := (backed ▸ steps.addressing).series_given
  have blank := limits.reached_blank_iff
  refine ⟨series, given, RolloverConditions.metBy_eq_nil_iff.trans (not_congr blank), ?_⟩
  intro m after now source target reasons ordered rolled
  have first := (tick_end_alone backed now m).outcomes
  obtain ⟨born, newborn, succession⟩ := first.succession source target reasons (congrArg Prod.fst rolled)
  have changed : (Memory.run now (tick t).run m).2 = after := congrArg Prod.snd rolled
  rw [changed] at succession
  -- The next tick finds the newborn index behind the alias, with blank statistics.
  have watched := watched_newborn newborn succession ordered
  have ended := tick_end_alone backed now after
  obtain ⟨settled, blocked, rolledOn⟩ := ended.of_watched watched
  constructor
  · rw [← blank]
    constructor
    · intro rests reached
      have outcome := ended.outcomes.notNeeded target .blank
      exact (outcome.mp (congrArg Prod.fst rests)).2 reached
    · intro below
      have rests := settled below
      refine Prod.ext rests (ended.unchanged ?_)
      rw [rests]
      rintro ⟨_, _, _, ⟨⟩⟩
  · intro nothing
    have reached := blank.mpr nothing
    refine ⟨fun taken => ?_, rolledOn reached⟩
    have refused := blocked reached taken
    refine Prod.ext refused (ended.unchanged ?_)
    rw [refused]
    rintro ⟨_, _, _, ⟨⟩⟩

theorem crowded_successor_rests :
    ∃ after, Memory.run ⟨0, 0⟩ (tick logLines).run crowded =
        (.ok (.rolledOver "logs-000001" "logs-000002" [.maxDocs 1]), after) ∧
      Memory.run ⟨0, 0⟩ (tick logLines).run after = (.ok (.notNeeded "logs-000002" .blank), after) := by
  have ordered : crowded.Ordered := List.pairwise_singleton ..
  have rolled : Memory.run ⟨0, 0⟩ (tick logLines).run crowded =
      (.ok (.rolledOver "logs-000001" "logs-000002" [.maxDocs 1]),
        (Memory.run ⟨0, 0⟩ (tick logLines).run crowded).2) :=
    Prod.ext rfl rfl
  obtain ⟨series, given, -, rests⟩ := newborn_rests_iff build_logLines rfl
  have unlimited : ¬LimitsNothing .empty series := by
    cases given
    rintro ⟨text, given | given, -⟩ <;> cases given
  exact ⟨_, rolled, (rests crowded _ ⟨0, 0⟩ _ _ _ ordered rolled).1.mpr unlimited⟩

/-- Log lines, in a series whose indices are old enough from the start. -/
def agelessConfig : TypeConfig :=
  { logLinesConfig with rollover := some {
      writeAlias := "logs-write"
      readAlias := none
      indexPrefix := none
      maxAge := some "0s"
      maxDocs := none
      maxSize := none
      schedule := none } }

def agelessLines : DocumentType :=
  { logLines with addressing := .rollover ⟨"logs-write", none, "logs-write"⟩ ⟨some .zero, none, none⟩ }

theorem build_agelessLines : DocumentType.build .empty agelessConfig = .ok agelessLines := rfl

/-- A limit of no time at all is kept, and an index that has just been created has reached it. -/
theorem newborns_reach_zero_age :
    ¬∀ (env : Environment) (config : TypeConfig) (t : DocumentType) (aliases : RolloverAliases)
      (conditions : RolloverConditions), DocumentType.build env config = .ok t →
      t.addressing = .rollover aliases conditions → conditions.metBy .blank = [] := by
  intro rests
  have met := rests .empty agelessConfig agelessLines _ _ build_agelessLines rfl
  exact absurd met (by decide)

end Rollover

end DocMapper
