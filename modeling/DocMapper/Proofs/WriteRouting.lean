import DocMapper.Proofs.Generations
import DocMapper.Repository
/-!
Where saved documents land. A save names the write alias, and a name stands for the index that
has it before it stands for an alias. So documents follow the alias exactly as long as no index
has its name: one that a save brought into being before the first bootstrap, or one of the
series itself.
-/

namespace DocMapper

open Routing Rollover

structure Landing where
  index : String
  /-- The index the write alias of the type pointed at then. -/
  writer : Option String
  /-- Whether the type had been bootstrapped by then. -/
  ready : Bool
deriving DecidableEq, Repr

def Call.landed? : (c : Call) → Except Fault c.Reply → Option String
  | .indexDocument _, .ok reply => some reply.index
  | _, _ => none

/-- An engine with the writes it has acknowledged, the last one first. -/
structure Logbook where
  memory : Memory
  ready : Bool
  landings : List Landing

namespace Logbook

def empty : Logbook := ⟨Memory.empty, false, []⟩

def answer (aliasName : String) (now : Instant) (c : Call) (b : Logbook) : Except Fault c.Reply × Logbook :=
  let (reply, memory) := Memory.answer now c b.memory
  let landing := (c.landed? reply).map fun index => ⟨index, memory.writeIndex? aliasName, b.ready⟩
  (reply, { b with memory, landings := landing.toList ++ b.landings })

/-- What a program does with a type that has a series. -/
inductive Step where
  | save (now : Instant) (record : Json)
  | bootstrap (now : Instant)
  | tick (now : Instant)

def step (r : Repository) (name : String) (t : DocumentType) (aliases : RolloverAliases) (b : Logbook) :
    Step → Logbook
  | .save now record => ((r.save now name record).run.conduct (answer aliases.writeAlias now) b).2
  | .bootstrap now =>
      let (result, b) := (r.bootstrap name).run.conduct (answer aliases.writeAlias now) b
      { b with ready := b.ready || result.isOk }
  | .tick now => ((tick t).run.conduct (answer aliases.writeAlias now) b).2

def play (r : Repository) (name : String) (t : DocumentType) (aliases : RolloverAliases) (steps : List Step) :
    Logbook :=
  steps.foldl (step r name t aliases) empty

/-- A write was acknowledged before the first bootstrap. -/
def Early (b : Logbook) : Prop :=
  ∃ landing ∈ b.landings, landing.ready = false

/-- What a write after the first bootstrap comes to while the series has `n` indices. -/
structure Settled (aliases : RolloverAliases) (early : Prop) (landing : Landing) (n : Nat) : Prop where
  writer : landing.writer = some (seriesName aliases.indexPrefix n)
  follows : landing.index = seriesName aliases.indexPrefix n ↔
    aliases.writeAlias = seriesName aliases.indexPrefix n ∨
      ¬early ∧ ∀ k, 1 ≤ k → k < n → aliases.writeAlias ≠ seriesName aliases.indexPrefix k

structure Consistent (aliases : RolloverAliases) (b : Logbook) (n : Nat) : Prop where
  held : Held aliases b.memory n n
  ready : b.ready = true ↔ 0 < n
  listed : ∀ name, Dict.has name b.memory.indices = true ↔
    (∃ k, 1 ≤ k ∧ k ≤ n ∧ name = seriesName aliases.indexPrefix k) ∨ name = aliases.writeAlias ∧ b.Early
  settled : ∀ landing ∈ b.landings, landing.ready = true →
    ∃ k, 1 ≤ k ∧ k ≤ n ∧ Settled aliases b.Early landing k

def Sound (aliases : RolloverAliases) (b : Logbook) : Prop :=
  ∃ n, Consistent aliases b n

variable {r : Repository} {name : String} {t : DocumentType} {aliases : RolloverAliases}
  {conditions : RolloverConditions} {b : Logbook} {n : Nat} {now : Instant}

theorem consistent_empty (aliases : RolloverAliases) : Consistent aliases empty 0 where
  held := Held.empty aliases
  ready := by simp [empty]
  listed := by
    intro name
    constructor
    · intro listed
      cases listed
    · rintro (⟨k, positive, small, -⟩ | ⟨-, landing, member, -⟩)
      · omega
      · cases member
  settled := fun _ member => absurd member List.not_mem_nil

def withMemory (b : Logbook) (m : Memory) : Logbook :=
  { b with memory := m }

theorem answer_silent {c : Call} (silent : ∀ reply, c.landed? reply = none) (aliasName : String) :
    answer aliasName now c b = ((Memory.answer now c b.memory).1, b.withMemory (Memory.answer now c b.memory).2) := by
  simp [answer, silent, withMemory]

theorem conduct_silent {α : Type} {program : Program α} (kept : program.Keeps fun c _ => ∀ reply, c.landed? reply = none)
    (aliasName : String) (b : Logbook) :
    program.conduct (answer aliasName now) b =
      ((Memory.run now program b.memory).1, b.withMemory (Memory.run now program b.memory).2) := by
  induction kept generalizing b with
  | done a => rfl
  | ask asked rest ih =>
      rw [Dialogue.conduct_ask, answer_silent asked, ih]
      rfl

theorem landed?_reading {c : Call} (reads : c.isReading = true) (reply : Except Fault c.Reply) :
    c.landed? reply = none := by
  cases c with
  | indexDocument => cases reads
  | _ => rfl

theorem answer_reading {c : Call} (reads : c.isReading = true) (aliasName : String) :
    (answer aliasName now c b).2 = b := by
  rw [answer_silent (landed?_reading reads), Memory.answer_reading reads]
  rfl

theorem Consistent.grown (consistent : Consistent aliases b n) {m : Memory} {ready : Bool} {n' : Nat}
    (held : Held aliases m n' n') (larger : n ≤ n') (isReady : ready = true ↔ 0 < n')
    (names : ∀ name, Dict.has name m.indices = true ↔
      (∃ k, 1 ≤ k ∧ k ≤ n' ∧ name = seriesName aliases.indexPrefix k) ∨ Dict.has name b.memory.indices = true) :
    Consistent aliases ⟨m, ready, b.landings⟩ n' := by
  constructor
  · exact held
  · exact isReady
  · intro name
    rw [names, consistent.listed]
    constructor
    · rintro (new | ⟨k, positive, small, same⟩ | early)
      · exact .inl new
      · exact .inl ⟨k, positive, by omega, same⟩
      · exact .inr early
    · rintro (listed | early)
      · exact .inl listed
      · exact .inr (.inr early)
  · intro landing member isReady
    obtain ⟨k, positive, small, settled⟩ := consistent.settled landing member isReady
    exact ⟨k, positive, by omega, settled⟩

theorem tickStep_sound {c : Call} {results : Except Fault c.Reply → Option (Except RolloverError RolloverReport)}
    (step : TickStep t aliases c results) (sound : Sound aliases b) :
    Sound aliases (answer aliases.writeAlias now c b).2 := by
  obtain ⟨n, consistent⟩ := sound
  cases step with
  | looking reads =>
      rw [answer_reading reads]
      exact ⟨n, consistent⟩
  | rolling current reasons =>
      rw [answer_silent fun _ => rfl, Memory.answer]
      cases done : b.memory.rollover now (rolloverRequest t aliases current) with
      | error f => exact ⟨n, consistent⟩
      | ok changed =>
          obtain ⟨positive, -, -, target, held⟩ := consistent.held.roll done
          refine ⟨n + 1, consistent.grown held (by omega) ?_ fun name => ?_⟩
          · simp [consistent.ready, positive]
          · rw [Memory.change, Memory.rollover_has done, rolloverRequest, target, Bool.or_eq_true,
              decide_eq_true_eq]
            constructor
            · rintro (new | listed)
              · exact .inl ⟨n + 1, by omega, Nat.le_refl _, new.symm⟩
              · exact .inr listed
            · rintro (⟨k, atLeast, atMost, same⟩ | listed)
              · by_cases new : k = n + 1
                · exact .inl (new ▸ same.symm)
                · exact .inr ((consistent.listed name).mpr (.inl ⟨k, atLeast, by omega, same⟩))
              · exact .inr listed

theorem writeTarget_eq (consistent : Consistent aliases b n) {index : String}
    (target : b.memory.writeTarget aliases.writeAlias = .ok index) :
    index = if Dict.has aliases.writeAlias b.memory.indices = true ∨ n = 0 then aliases.writeAlias
      else seriesName aliases.indexPrefix n := by
  by_cases named : Dict.has aliases.writeAlias b.memory.indices = true
  · rw [Memory.writeTarget_named named] at target
    rw [if_pos (.inl named), Except.ok.inj target]
  · have unnamed := Bool.eq_false_iff.mpr named
    by_cases nobody : n = 0
    · rw [if_pos (.inr nobody)]
      rw [Memory.writeTarget, unnamed, consistent.held.writeIndex?_eq, if_pos nobody] at target
      simp only [Bool.false_eq_true, ↓reduceIte] at target
      split at target
      · cases target
      · split at target
        · cases target
        · exact (Except.ok.inj target).symm
    · rw [if_neg (by simp [named, nobody])]
      rw [Memory.writeTarget_through unnamed (consistent.held.writeIndex?_of_pos (by omega))] at target
      exact (Except.ok.inj target).symm

theorem settled_of_landed (consistent : Consistent aliases b n) (positive : 0 < n) {index : String}
    (landed : index = if Dict.has aliases.writeAlias b.memory.indices = true ∨ n = 0 then aliases.writeAlias
      else seriesName aliases.indexPrefix n) :
    Settled aliases b.Early ⟨index, some (seriesName aliases.indexPrefix n), true⟩ n := by
  refine ⟨rfl, ?_⟩
  have names := consistent.listed aliases.writeAlias
  by_cases named : Dict.has aliases.writeAlias b.memory.indices = true
  · rw [if_pos (.inl named)] at landed
    rw [landed]
    constructor
    · exact .inl
    · rintro (same | ⟨late, apart⟩)
      · exact same
      -- The index with the alias's name is one of the series, or an early write made it.
      · rcases names.mp named with ⟨k, atLeast, atMost, same⟩ | ⟨-, early⟩
        · by_cases newest : k = n
          · exact newest ▸ same
          · exact absurd same (apart k atLeast (by omega))
        · exact absurd early late
  · rw [if_neg (by simp [named]; omega)] at landed
    refine ⟨fun _ => .inr ⟨fun early => named (names.mpr (.inr ⟨rfl, early⟩)), ?_⟩, fun _ => landed⟩
    intro k atLeast below same
    exact named (names.mpr (.inl ⟨k, atLeast, by omega, same⟩))

theorem consistent_wrote_ready (consistent : Consistent aliases b n) (positive : 0 < n)
    {request : IndexRequest} {reply : IndexReply} {changed : Memory}
    (landed : reply.index = if Dict.has aliases.writeAlias b.memory.indices = true ∨ n = 0 then
      aliases.writeAlias else seriesName aliases.indexPrefix n)
    (done : b.memory.indexDocument now request = .ok (reply, changed)) :
    Consistent aliases
      ⟨changed, b.ready, ⟨reply.index, changed.writeIndex? aliases.writeAlias, b.ready⟩ :: b.landings⟩ n := by
  have isReady : b.ready = true := consistent.ready.mpr positive
  have held := consistent.held.write done
  -- An early save made an index of that name, or the newest generation takes the write.
  have present : Dict.has reply.index b.memory.indices = true := by
    split at landed
    · next named => exact landed ▸ named.resolve_right (by omega)
    · exact landed ▸ consistent.held.has_of_le (by omega) (Nat.le_refl n)
  have same : Early ⟨changed, b.ready,
      ⟨reply.index, changed.writeIndex? aliases.writeAlias, b.ready⟩ :: b.landings⟩ ↔ b.Early := by
    simp [Early, isReady]
  constructor
  · exact held
  · exact consistent.ready
  · intro name
    rw [Memory.indexDocument_has done, Bool.or_eq_true, decide_eq_true_eq, same, ← consistent.listed]
    exact ⟨fun known => known.elim (fun here => here ▸ present) id, .inr⟩
  · intro landing member isReady'
    rw [same]
    rcases List.mem_cons.mp member with new | old
    · rw [new, held.writeIndex?_of_pos positive, isReady]
      exact ⟨n, positive, Nat.le_refl n, settled_of_landed consistent positive landed⟩
    · exact consistent.settled landing old isReady'

theorem consistent_wrote_early (consistent : Consistent aliases b 0)
    {request : IndexRequest} {reply : IndexReply} {changed : Memory} (landed : reply.index = aliases.writeAlias)
    (done : b.memory.indexDocument now request = .ok (reply, changed)) :
    Consistent aliases
      ⟨changed, b.ready, ⟨reply.index, changed.writeIndex? aliases.writeAlias, b.ready⟩ :: b.landings⟩ 0 := by
  have notReady : b.ready = false := by
    rw [← Bool.not_eq_true, consistent.ready]
    exact Nat.lt_irrefl 0
  -- Nothing resolves the alias yet, so the write makes an index of that name.
  constructor
  · exact consistent.held.write done
  · exact consistent.ready
  · intro name
    rw [Memory.indexDocument_has done, Bool.or_eq_true, decide_eq_true_eq, consistent.listed, landed]
    constructor
    · rintro (here | listed | ⟨same, early⟩)
      · exact .inr ⟨here.symm, _, List.mem_cons_self, notReady⟩
      · exact .inl listed
      · exact .inr ⟨same, _, List.mem_cons_self, notReady⟩
    · rintro (listed | ⟨same, -⟩)
      · exact .inr (.inl listed)
      · exact .inl same.symm
  · intro landing member isReady
    rcases List.mem_cons.mp member with new | old
    · rw [new, notReady] at isReady
      cases isReady
    · obtain ⟨k, positive, small, -⟩ := consistent.settled landing old isReady
      omega

theorem consistent_wrote (consistent : Consistent aliases b n) {request : IndexRequest}
    (through : request.target = aliases.writeAlias) :
    Consistent aliases (answer aliases.writeAlias now (.indexDocument request) b).2 n := by
  rw [answer, Memory.answer]
  cases done : b.memory.indexDocument now request with
  | error f => exact consistent
  | ok answered =>
      obtain ⟨reply, changed⟩ := answered
      have target := (Memory.indexDocument_granted done).1
      rw [through] at target
      have landed := writeTarget_eq consistent target
      -- Without an index in the series no bootstrap has succeeded yet.
      cases n with
      | zero => exact consistent_wrote_early consistent (by simpa using landed) done
      | succ n => exact consistent_wrote_ready consistent (Nat.succ_pos n) landed done

theorem save_keeps (found : r.find name = .ok t) (backed : t.addressing = .rollover aliases conditions)
    (record : Json) : (r.save now name record).run.Keeps fun c _ =>
      ∃ request, c = .indexDocument request ∧ request.target = aliases.writeAlias := by
  rw [Repository.save, found, lift_ok_bind]
  cases mapped : r.document t record with
  | error e =>
      rw [lift_error_bind]
      exact .done _
  | ok document =>
      rw [lift_ok_bind]
      have through : (Repository.indexRequest t now document).target = aliases.writeAlias := by
        rw [Repository.indexRequest, Routing.writeTarget, backed]
      refine .ask (q := Call.indexDocument (Repository.indexRequest t now document)) ⟨_, rfl, through⟩ fun reply => ?_
      cases reply <;> exact .done _

theorem save_sound (found : r.find name = .ok t) (backed : t.addressing = .rollover aliases conditions)
    (record : Json) (sound : Sound aliases b) : Sound aliases (step r name t aliases b (.save now record)) := by
  rw [step]
  refine (save_keeps found backed record).conduct ?_ sound
  rintro c results b ⟨request, rfl, through⟩ ⟨n, consistent⟩
  exact ⟨n, consistent_wrote consistent through⟩

theorem tick_sound (backed : t.addressing = .rollover aliases conditions) (sound : Sound aliases b) :
    Sound aliases (step r name t aliases b (.tick now)) := by
  rw [step]
  exact (tick_keeps backed).conduct (fun _ _ _ step sound => tickStep_sound step sound) sound

theorem run_bootstrap (found : r.find name = .ok t) (backed : t.addressing = .rollover aliases conditions) :
    (r.bootstrap name).run = (bootstrap t).run.bind fun result =>
      .done (result.mapError fun e => .of (.rollover e)) := by
  rw [Repository.bootstrap, found, lift_ok_bind, backed]
  rfl

theorem step_bootstrap (found : r.find name = .ok t) (backed : t.addressing = .rollover aliases conditions)
    {result : Option String} {m : Memory} (run : Memory.run now (bootstrap t).run b.memory = (.ok result, m)) :
    step r name t aliases b (.bootstrap now) = ⟨m, true, b.landings⟩ := by
  have silent : (r.bootstrap name).run.Keeps fun c _ => ∀ reply, c.landed? reply = none := by
    rw [run_bootstrap found backed]
    refine (bootstrap_keeps backed).map _ fun c _ step => ?_
    cases step with
    | looking reads => exact landed?_reading reads
    | creating => exact fun _ => rfl
    | attaching => exact fun _ => rfl
  have whole : Memory.run now (r.bootstrap name).run b.memory = (.ok result, m) := by
    rw [Memory.run] at run
    rw [run_bootstrap found backed, Memory.run, Dialogue.conduct_bind, run]
    rfl
  rw [step, conduct_silent silent, whole]
  simp [Except.isOk, Except.toBool, withMemory]

theorem bootstrap_sound (found : r.find name = .ok t)
    (backed : t.addressing = .rollover aliases conditions) (sound : Sound aliases b) :
    Sound aliases (step r name t aliases b (.bootstrap now)) := by
  obtain ⟨n, consistent⟩ := sound
  -- With a series the bootstrap finds the alias; without one it attaches it or creates the first index.
  by_cases positive : 0 < n
  · have writes := consistent.held.writeIndex?_of_pos positive
    rw [step_bootstrap found backed (run_bootstrap_writing backed now writes)]
    refine ⟨n, consistent.grown consistent.held (Nat.le_refl n) (by simp [positive]) fun name => ?_⟩
    constructor
    · exact .inr
    · rintro (⟨k, atLeast, atMost, same⟩ | known)
      · exact same ▸ consistent.held.has_of_le atLeast atMost
      · exact known
  · have nobody : n = 0 := by omega
    subst nobody
    have unheld : b.memory.writeIndex? aliases.writeAlias = none := by
      rw [consistent.held.writeIndex?_eq, if_pos rfl]
    cases present : Dict.has (seriesName aliases.indexPrefix 1) b.memory.indices with
    | true =>
        obtain ⟨changed, done, run⟩ := run_bootstrap_attaching backed now unheld present
        rw [step_bootstrap found backed run]
        refine ⟨1, consistent.grown (consistent.held.attach done) (by omega) (by simp) fun name => ?_⟩
        rw [Memory.attach_has done]
        constructor
        · exact .inr
        · rintro (⟨k, atLeast, atMost, same⟩ | known)
          · have first : k = 1 := by omega
            rw [same, first, present]
          · exact known
    | false =>
        obtain ⟨changed, done, run⟩ := run_bootstrap_creating backed now unheld present
        rw [step_bootstrap found backed run]
        refine ⟨1, consistent.grown (consistent.held.create done).2 (by omega) (by simp) fun name => ?_⟩
        rw [Memory.createIndex_has done, Bool.or_eq_true, decide_eq_true_eq]
        constructor
        · rintro (new | known)
          · exact .inl ⟨1, Nat.le_refl 1, Nat.le_refl 1, new.symm⟩
          · exact .inr known
        · rintro (⟨k, atLeast, atMost, same⟩ | known)
          · have first : k = 1 := by omega
            exact .inl (first ▸ same.symm)
          · exact .inr known

theorem play_sound (found : r.find name = .ok t) (backed : t.addressing = .rollover aliases conditions)
    (steps : List Step) : Sound aliases (play r name t aliases steps) := by
  have kept : ∀ b, Sound aliases b → Sound aliases (steps.foldl (step r name t aliases) b) := by
    -- On the steps, for every book they may start from.
    induction steps with
    | nil => exact fun _ sound => sound
    | cons next rest ih =>
        intro b sound
        apply ih
        cases next with
        | save now record => exact save_sound found backed record sound
        | bootstrap now => exact bootstrap_sound found backed sound
        | tick now => exact tick_sound backed sound
  exact kept empty ⟨0, consistent_empty aliases⟩

/-- Saves, bootstraps and ticks of one type in any order, on an engine that starts out empty. A
write that is acknowledged after the first bootstrap lands in the index the write alias points
at exactly when the alias is itself the name of that index, or else no index has its name: no
write was acknowledged before the first bootstrap, and it names no earlier index of the series. -/
theorem landing_follows_alias_iff (found : r.find name = .ok t)
    (backed : t.addressing = .rollover aliases conditions) (steps : List Step) :
    let book := play r name t aliases steps
    ∀ landing ∈ book.landings, landing.ready = true →
      ∃ n, 1 ≤ n ∧ landing.writer = some (seriesName aliases.indexPrefix n) ∧
        (landing.writer = some landing.index ↔
          aliases.writeAlias = seriesName aliases.indexPrefix n ∨
            (∀ other ∈ book.landings, other.ready = true) ∧
              ∀ k, 1 ≤ k → k < n → aliases.writeAlias ≠ seriesName aliases.indexPrefix k) := by
  intro book landing member isReady
  obtain ⟨last, consistent⟩ := play_sound found backed steps
  obtain ⟨n, positive, -, settled⟩ := consistent.settled landing member isReady
  have late : ¬book.Early ↔ ∀ other ∈ book.landings, other.ready = true := by
    simp [Early]
  refine ⟨n, positive, settled.writer, ?_⟩
  rw [settled.writer, Option.some_inj, eq_comm, settled.follows, late]

def logProgram : Repository where
  registry := Registry.ofConfigs .empty [logLinesConfig]
  mapper := .renaming
  defaultSchedule := .minutely

/-- The first save comes before the bootstrap. -/
def hastySave : List Step :=
  [.save ⟨0, 0⟩ (.object []), .bootstrap ⟨0, 0⟩, .save ⟨0, 0⟩ (.object [])]

theorem landings_hastySave : (play logProgram "LogLine" logLines logAliases hastySave).landings =
    [⟨"logs-write", some "logs-000001", true⟩, ⟨"logs-write", none, false⟩] := by
  decide +kernel

theorem hasty_save_diverts_writes :
    ∃ landing ∈ (play logProgram "LogLine" logLines logAliases hastySave).landings,
      landing.ready = true ∧ landing.writer ≠ some landing.index := by
  have backed : logLines.addressing = .rollover logAliases ⟨none, some 1, none⟩ := rfl
  have found : logProgram.find "LogLine" = .ok logLines := rfl
  have follows := landing_follows_alias_iff found backed hastySave
  simp only [landings_hastySave] at follows ⊢
  obtain ⟨n, -, -, exactly⟩ := follows _ List.mem_cons_self rfl
  refine ⟨_, List.mem_cons_self, rfl, fun same => ?_⟩
  rcases exactly.mp same with named | ⟨late, -⟩
  · exact ne_seriesName (c := 'w') rfl (by decide) (by decide) n named
  · exact absurd (late _ (List.mem_cons_of_mem _ List.mem_cons_self)) (by decide)

theorem writes_leave_alias :
    ¬∀ (env : Environment) (config : TypeConfig) (t : DocumentType) (aliases : RolloverAliases)
      (conditions : RolloverConditions) (r : Repository) (name : String) (steps : List Step),
      DocumentType.build env config = .ok t → t.addressing = .rollover aliases conditions →
      r.find name = .ok t → ∀ landing ∈ (play r name t aliases steps).landings, landing.ready = true →
        landing.writer = some landing.index := by
  intro follows
  have kept := follows .empty logLinesConfig logLines logAliases _ logProgram "LogLine" hastySave
    build_logLines rfl rfl
  rw [landings_hastySave] at kept
  exact absurd (kept _ List.mem_cons_self rfl) (by decide)

end Logbook

end DocMapper
