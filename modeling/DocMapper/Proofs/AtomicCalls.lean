import DocMapper.Proofs.SingleWriters
import DocMapper.Proofs.TickOutcomes
/-!
That a call that changes the engine is granted as a whole or does nothing. A call checks and edits
piece by piece, and an edit that was made is not taken back by a failure after it; but no failure
comes after an edit, so a refused call leaves everything as it was. A swap or a rollover that is
granted hands its alias to one index. Apart from that alias the indices there were are the same.
-/

namespace DocMapper.Memory

/-- Work on an engine, piece by piece. What is done before a failure stays done. -/
abbrev Work (α : Type) := ExceptT Fault (StateM Memory) α

namespace Work

variable {m : Memory} {now : Instant} {c : Call}

def edit (f : Dict MemoryIndex → Dict MemoryIndex) : Work Unit :=
  modify fun m => { m with indices := f m.indices }

def createIndex (now : Instant) (name : String) (body : Json) : Work Unit := do
  if Dict.has name (← get).indices then
    throw (.indexTaken name)
  edit (Dict.put name (.create now body))

def swapAlias (s : AliasSwap) : Work Unit := do
  let m ← get
  unless Dict.has s.target m.indices do
    throw (.swapTargetMissing s.aliasName s.target)
  if let some source := s.source then
    unless (m.flag? source s.aliasName).isSome do
      throw (.aliasNotOn s.aliasName source)
  if let some source := s.source then
    edit (Dict.modify source (withAliases (Dict.remove s.aliasName)))
  edit (withoutWriter s.aliasName)
  edit (Dict.modify s.target (withAliases (Dict.put s.aliasName true)))

def rollover (now : Instant) (r : RolloverRequest) : Work Unit := do
  let m ← get
  if Dict.has r.target m.indices then
    throw (.rolloverTargetTaken r.aliasName r.target)
  unless m.writeIndex? r.aliasName = some r.source do
    throw (.writesElsewhere r.aliasName (m.writeIndex? r.aliasName) r.source)
  edit (withoutWriter r.aliasName)
  edit (Dict.put r.target (withAliases (Dict.put r.aliasName true) (.create now r.body)))

/-- The index that a write goes to, which is there from now on. -/
def openTarget (now : Instant) (target : String) : Work String := do
  let m ← get
  if Dict.has target m.indices then
    return target
  else match m.writeIndex? target with
    | some name => return name
    | none =>
        unless (m.holders target).isEmpty do
          throw (.noWriteIndex target)
        if target.toList.contains '*' then
          throw (.wildcardWrite target)
        edit (Dict.put target (.create now (.object [])))
        return target

def mint : Option String → Work String
  | some id => return id
  | none => do
      modify fun m => { m with minted := m.minted + 1 }
      return s!"mem-{(← get).minted}"

/-- A write looks its index up again once it has an identity. Without the index it would fail,
with the target opened and the identity minted. The size of the document is the length of its
text, which every value has. -/
def indexDocument (gone : Fault) (now : Instant) (r : IndexRequest) : Work IndexReply := do
  let name ← openTarget now r.target
  let id ← mint r.id
  match Dict.find? name (← get).indices with
  | none => throw gone
  | some index =>
      let (index, version) := index.store id r.document
      edit (Dict.put name index)
      return ⟨name, id, some version⟩

/-- A call in pieces, if it comes in pieces. -/
def call (gone : Fault) (now : Instant) : (c : Call) → Work c.Reply
  | .createIndex index body => createIndex now index body
  | .swapAlias s => swapAlias s
  | .rollover r => rollover now r
  | .indexDocument r => indexDocument gone now r
  | c => answer now c

section Pieces

variable {α β : Type} (m : Memory)

@[simp] theorem pure_apply (a : α) : (pure a : Work α) m = (.ok a, m) := rfl

@[simp] theorem throw_apply (fault : Fault) : (throw fault : Work α) m = (.error fault, m) := rfl

@[simp] theorem get_bind_apply (next : Memory → Work β) : (get >>= next) m = next m m := rfl

@[simp] theorem throw_bind_apply (fault : Fault) (next : α → Work β) :
    ((throw fault : Work α) >>= next) m = (.error fault, m) := rfl

@[simp] theorem edit_apply (f : Dict MemoryIndex → Dict MemoryIndex) :
    edit f m = (.ok (), { m with indices := f m.indices }) := rfl

@[simp] theorem edit_bind_apply (f : Dict MemoryIndex → Dict MemoryIndex) (next : Unit → Work β) :
    (edit f >>= next) m = next () { m with indices := f m.indices } := rfl

@[simp] theorem map_edit_apply (g : Unit → α) (f : Dict MemoryIndex → Dict MemoryIndex) :
    (g <$> edit f) m = (.ok (g ()), { m with indices := f m.indices }) := rfl

theorem bind_of_ok {work : Work α} {a : α} {m m' : Memory} (done : work m = (.ok a, m')) (next : α → Work β) :
    (work >>= next) m = next a m' := by
  change (match work m with | (result, m) => ExceptT.bindCont next result m) = _
  rw [done]
  rfl

theorem bind_of_error {work : Work α} {fault : Fault} {m m' : Memory} (failed : work m = (.error fault, m'))
    (next : α → Work β) : (work >>= next) m = (.error fault, m') := by
  change (match work m with | (result, m) => ExceptT.bindCont next result m) = _
  rw [failed]
  rfl

end Pieces

theorem createIndex_eq_answer (now : Instant) (name : String) (body : Json) (m : Memory) :
    createIndex now name body m = answer now (.createIndex name body) m := by
  cases present : Dict.has name m.indices <;> simp [createIndex, answer, Memory.createIndex, change, present]

theorem held_eq (m : Memory) (source aliasName : String) :
    ((Dict.find? source m.indices).map fun index => Dict.has aliasName index.aliases).getD false =
      (m.flag? source aliasName).isSome := by
  rw [flag?]
  cases Dict.find? source m.indices <;> rfl

theorem swapAlias_eq_answer (now : Instant) (s : AliasSwap) (m : Memory) :
    swapAlias s m = answer now (.swapAlias s) m := by
  obtain ⟨aliasName, source, target⟩ := s
  cases present : Dict.has target m.indices with
  | false => simp [swapAlias, answer, Memory.swapAlias, change, present]
  | true =>
      cases source with
      | none => simp [swapAlias, answer, Memory.swapAlias, change, present]
      | some source =>
          cases held : (m.flag? source aliasName).isSome <;>
            simp [swapAlias, answer, Memory.swapAlias, change, present, held_eq, held, Option.filter]

theorem rollover_eq_answer (now : Instant) (r : RolloverRequest) (m : Memory) :
    rollover now r m = answer now (.rollover r) m := by
  cases present : Dict.has r.target m.indices with
  | true => simp [rollover, answer, Memory.rollover, change, present]
  | false =>
      by_cases writes : m.writeIndex? r.aliasName = some r.source <;>
        simp [rollover, answer, Memory.rollover, change, present, writes]

/-- The engine with an index of a name, a new one if there was none. -/
def opened (m : Memory) (now : Instant) (name : String) : Memory :=
  if Dict.has name m.indices then m else { m with indices := Dict.put name (.create now (.object [])) m.indices }

theorem openTarget_eq (now : Instant) (target : String) (m : Memory) :
    openTarget now target m = match m.writeTarget target with
      | .ok name => (.ok name, opened m now name)
      | .error fault => (.error fault, m) := by
  cases present : Dict.has target m.indices with
  | true => simp [openTarget, writeTarget, opened, present]
  | false =>
      cases writes : m.writeIndex? target with
      | some name =>
          have there := Dict.has_eq_true_iff.mpr (Rollover.find?_of_writeIndex? writes)
          simp [openTarget, writeTarget, opened, present, writes, there]
      | none =>
          by_cases unheld : m.holders target = [] <;> by_cases wild : '*' ∈ target.toList <;>
            simp [openTarget, writeTarget, opened, present, writes, unheld, wild]

theorem mint_eq (id : Option String) (m : Memory) :
    mint id m = (.ok (m.identify id).1, { m with minted := (m.identify id).2 }) := by
  cases id <;> rfl

theorem find?_opened (m : Memory) (now : Instant) (name : String) :
    Dict.find? name (opened m now name).indices = some (m.written now name) := by
  cases present : Dict.has name m.indices with
  | true =>
      obtain ⟨index, found⟩ := Dict.has_eq_true_iff.mp present
      simp [opened, written, present, found]
  | false => simp [opened, written, present, Dict.has_eq_false_iff.mp present, Dict.find?_put_same]

theorem put_opened (m : Memory) (now : Instant) (name : String) (index : MemoryIndex) :
    Dict.put name index (opened m now name).indices = Dict.put name index m.indices := by
  rw [opened]
  split
  · rfl
  · exact Dict.put_put ..

theorem identify_opened (m : Memory) (now : Instant) (name : String) (id : Option String) :
    (opened m now name).identify id = m.identify id := by
  rw [opened]
  split
  · rfl
  · cases id <;> rfl

theorem indexDocument_eq_answer (gone : Fault) (now : Instant) (r : IndexRequest) (m : Memory) :
    indexDocument gone now r m = answer now (.indexDocument r) m := by
  have opening := openTarget_eq now r.target m
  rw [indexDocument, answer, Memory.indexDocument]
  cases target : m.writeTarget r.target with
  | error fault =>
      rw [target] at opening
      exact bind_of_error opening _
  | ok name =>
      rw [target] at opening
      rw [bind_of_ok opening, bind_of_ok (mint_eq r.id _), identify_opened, get_bind_apply]
      -- The target is open by now, so the last look-up cannot fail.
      simp only [find?_opened, edit_bind_apply, put_opened, pure_apply]
      rfl

/-- A call in pieces does what it does as a whole, whatever fault there is for an index that is gone. -/
theorem call_eq_answer (gone : Fault) (now : Instant) (c : Call) (m : Memory) :
    call gone now c m = answer now c m := by
  cases c with
  | createIndex index body => exact createIndex_eq_answer now index body m
  | swapAlias s => exact swapAlias_eq_answer now s m
  | rollover r => exact rollover_eq_answer now r m
  | indexDocument r => exact indexDocument_eq_answer gone now r m
  | _ => rfl

end Work

section Handing

variable {m changed : Memory} {now : Instant} {aliasName name : String} {s : AliasSwap} {r : RolloverRequest}

/-- An index without its entry for one alias. -/
def apart (aliasName : String) (index : MemoryIndex) : MemoryIndex :=
  withAliases (Dict.remove aliasName) index

/-- An alias was handed to one index, and nothing else happened to the indices there were. -/
structure HandedOver (aliasName owner : String) (m changed : Memory) : Prop where
  minted : changed.minted = m.minted
  names : ∀ name, Dict.has name changed.indices = (decide (owner = name) || Dict.has name m.indices)
  kept : ∀ name, Dict.has name m.indices = true →
    (Dict.find? name changed.indices).map (apart aliasName) = (Dict.find? name m.indices).map (apart aliasName)
  writer : ∀ name, changed.Flagged aliasName name ↔ name = owner

theorem map_apart_modify {f : Dict Bool → Dict Bool}
    (within : ∀ aliases, Dict.remove aliasName (f aliases) = Dict.remove aliasName aliases)
    (target name : String) (indices : Dict MemoryIndex) :
    (Dict.find? name (Dict.modify target (withAliases f) indices)).map (apart aliasName) =
      (Dict.find? name indices).map (apart aliasName) := by
  rw [Dict.find?_modify]
  cases Dict.find? name indices with
  | none => simp
  | some index => by_cases hit : name = target <;> simp [hit, apart, withAliases, within]

theorem map_apart_withoutWriter (aliasName name : String) (indices : Dict MemoryIndex) :
    (Dict.find? name (withoutWriter aliasName indices)).map (apart aliasName) =
      (Dict.find? name indices).map (apart aliasName) := by
  rw [find?_withoutWriter]
  cases Dict.find? name indices <;> simp [apart, withAliases, Dict.remove_modify]

theorem map_apart_released (m : Memory) (s : AliasSwap) (name : String) :
    (Dict.find? name (m.released s)).map (apart s.aliasName) = (Dict.find? name m.indices).map (apart s.aliasName) := by
  rw [released]
  cases s.source with
  | none => rfl
  | some source => exact map_apart_modify (Dict.remove_remove s.aliasName) source name m.indices

theorem handedOver_swapAlias (done : m.swapAlias s = .ok changed) : HandedOver s.aliasName s.target m changed := by
  obtain ⟨present, same⟩ := swapAlias_granted done
  constructor
  · rw [same]
  · intro name
    rw [same, Dict.has_modify, withoutWriter, Dict.has_mapValues, has_released]
    by_cases hit : s.target = name
    · simp [← hit, present]
    · simp [hit]
  · intro name _
    rw [same, map_apart_modify (Dict.remove_put s.aliasName true), map_apart_withoutWriter, map_apart_released]
  · intro name
    rw [Flagged, swapAlias_flag? done, if_pos rfl]
    by_cases hit : name = s.target
    · simp [hit]
    · by_cases left : s.source = some name <;> simp [hit, left]

theorem handedOver_rollover (done : m.rollover now r = .ok changed) :
    HandedOver r.aliasName r.target m changed := by
  obtain ⟨absent, -, same⟩ := rollover_granted done
  constructor
  · rw [same]
  · exact rollover_has done
  · intro name present
    have other : r.target ≠ name := by
      rintro rfl
      rw [absent] at present
      cases present
    rw [same, Dict.find?_put, if_neg other, map_apart_withoutWriter]
  · intro name
    rw [Flagged, rollover_flag? done, if_pos rfl, lowered, if_pos rfl]
    by_cases hit : r.target = name
    · simp [hit]
    · simp [hit, Ne.symm hit]

theorem granted_swapAlias_iff :
    Granted now (.swapAlias s) m ↔ Dict.has s.target m.indices = true ∧
      ∀ source, s.source = some source → (m.flag? source s.aliasName).isSome = true := by
  obtain ⟨aliasName, source, target⟩ := s
  rw [Granted, answer, granted_change]
  cases present : Dict.has target m.indices with
  | false => simp [Memory.swapAlias, present]
  | true =>
      cases source with
      | none => simp [Memory.swapAlias, present]
      | some source =>
          cases held : (m.flag? source aliasName).isSome <;>
            simp [Memory.swapAlias, present, Work.held_eq, held, Option.filter]

theorem granted_rollover_iff :
    Granted now (.rollover r) m ↔
      Dict.has r.target m.indices = false ∧ m.writeIndex? r.aliasName = some r.source := by
  rw [Granted, answer, granted_change]
  cases present : Dict.has r.target m.indices with
  | true => simp [Memory.rollover, present]
  | false => by_cases writes : m.writeIndex? r.aliasName = some r.source <;> simp [Memory.rollover, present, writes]

/-- Every call does in pieces what it does as a whole, so it is granted or leaves the engine as it
was. A swap or a rollover that is granted hands its alias to its target, and nothing else happens
to the indices there were. -/
theorem granted_whole_or_not_at_all (m : Memory) (now : Instant) :
    (∀ c, (∀ gone, Work.call gone now c m = answer now c m) ∧
      ∀ fault, (answer now c m).1 = .error fault → (answer now c m).2 = m) ∧
      (∀ s, Granted now (.swapAlias s) m → HandedOver s.aliasName s.target m (answer now (.swapAlias s) m).2) ∧
      ∀ r, Granted now (.rollover r) m → HandedOver r.aliasName r.target m (answer now (.rollover r) m).2 := by
  refine ⟨fun c => ⟨fun gone => Work.call_eq_answer gone now c m, ?refused⟩, ?swapped, ?rolled⟩
  case refused =>
    intro fault failed
    apply answer_refused
    rintro ⟨reply, done⟩
    rw [failed] at done
    cases done
  case swapped =>
    intro s granted
    obtain ⟨changed, done⟩ := granted_change.mp granted
    rw [answer, done]
    exact handedOver_swapAlias done
  case rolled =>
    intro r granted
    obtain ⟨changed, done⟩ := granted_change.mp granted
    rw [answer, done]
    exact handedOver_rollover done

/-- Two indices that an alias reads from and writes into neither of. -/
def shelved : Memory where
  indices :=
    [("logs-000001", ⟨⟨0, 0⟩, .null, [("logs", false)], [("1", ⟨.object [], 1, 2⟩)]⟩),
      ("logs-000002", ⟨⟨5, 0⟩, .null, [("logs", false), ("old", true)], []⟩)]
  minted := 3

/-- An index may be handed an alias that it has. An alias that writes nowhere is not rolled over and
takes no document, while another one of the same index is rolled over. -/
theorem shelved_handed_over :
    HandedOver "logs" "logs-000002" shelved
        (answer ⟨9, 0⟩ (.swapAlias ⟨"logs", some "logs-000002", "logs-000002"⟩) shelved).2 ∧
      (answer ⟨9, 0⟩ (.rollover ⟨"logs", "logs-000002", "logs-000003", .null⟩) shelved).2 = shelved ∧
      (answer ⟨9, 0⟩ (.indexDocument ⟨"logs", none, none, .null, false⟩) shelved).2 = shelved ∧
      HandedOver "old" "logs-000003" shelved
        (answer ⟨9, 0⟩ (.rollover ⟨"old", "logs-000002", "logs-000003", .null⟩) shelved).2 := by
  obtain ⟨whole, swapped, rolled⟩ := granted_whole_or_not_at_all shelved ⟨9, 0⟩
  have granted : Granted ⟨9, 0⟩ (.swapAlias ⟨"logs", some "logs-000002", "logs-000002"⟩) shelved := by
    apply granted_swapAlias_iff.mpr
    refine ⟨by decide, ?_⟩
    rintro source ⟨⟩
    decide
  have free : Granted ⟨9, 0⟩ (.rollover ⟨"old", "logs-000002", "logs-000003", .null⟩) shelved := by
    apply granted_rollover_iff.mpr
    decide
  exact ⟨swapped _ granted, (whole _).2 _ rfl, (whole _).2 _ rfl, rolled _ free⟩

end Handing

end DocMapper.Memory
