import DocMapper.Proofs.FilledPlaces
import DocMapper.Proofs.TrimmedText
/-!
Writes along the path of a field. A write goes down step by step and makes the objects it needs on
the way, and what it has made stays made. Still it lands or does nothing: below an object that was
just made there is nothing to be stopped by. What it lands on is its own place; whatever is neither
above nor below that place is looked up as before.
-/

namespace DocMapper

namespace FieldPath

variable {value document before after : Json} {segments others : List String} {members : Dict Json}
  {segment next : String} {rest : List String}

theorem segments_ne_nil (p : FieldPath) : p.segments ≠ [] := by
  simpa [FieldPath.segments, Text.split] using Text.pieces_ne_nil '.' p.text.toList

/-! ## Step by step -/

/-- What a step down goes into: the value that is there, or a new object. -/
def steppedInto (segment : String) (members : Dict Json) : Json :=
  (Dict.find? segment members).getD (.object [])

/-- The members of an object once a step down has been made, which stays whatever happens below. -/
def stepped (segment : String) (members : Dict Json) : Dict Json :=
  if Dict.has segment members then members else Dict.put segment (.object []) members

/-- Writes along a path, and tells whether the value has been written. -/
def writeAlong (value : Json) : List String → Json → Bool × Json
  | [], document => (false, document)
  | [last], .object members => (true, .object (Dict.put last value members))
  | segment :: next :: rest, .object members =>
      let (done, inner) := writeAlong value (next :: rest) (steppedInto segment members)
      (done, .object (Dict.put segment inner (stepped segment members)))
  | _ :: _, document => (false, document)

def write (p : FieldPath) (value document : Json) : Bool × Json :=
  writeAlong value p.segments document

theorem put_stepped (segment : String) (inner : Json) (members : Dict Json) :
    Dict.put segment inner (stepped segment members) = Dict.put segment inner members := by
  rw [stepped]
  split
  · rfl
  · exact Dict.put_put ..

theorem steppedInto_ordered (ordered : (Json.object members).Ordered) (segment : String) :
    (steppedInto segment members).Ordered := by
  rw [steppedInto]
  cases found : Dict.find? segment members with
  | none => exact .object Dict.ordered_nil fun _ listed => absurd listed List.not_mem_nil
  | some old => exact ordered.member found

theorem assignAlong?_cons (value : Json) (segment next : String) (rest : List String) (members : Dict Json) :
    assignAlong? value (segment :: next :: rest) (.object members) =
      (assignAlong? value (next :: rest) (steppedInto segment members)).map fun inner =>
        .object (Dict.put segment inner members) := rfl

theorem assignAlong?_new (value : Json) (segment : String) (rest : List String) :
    ∃ after, assignAlong? value (segment :: rest) (.object []) = some after := by
  induction rest generalizing segment with
  | nil => exact ⟨_, rfl⟩
  | cons next rest ih =>
      obtain ⟨inner, below⟩ := ih next
      exact ⟨.object (Dict.put segment inner []), by rw [assignAlong?_cons]; exact congrArg _ below⟩

/-- Made step by step a write comes to the same as at one go. A write that fails has met a value
that is no object, and then it has not made any either. -/
theorem writeAlong_eq (value : Json) (segments : List String) (ordered : document.Ordered) :
    writeAlong value segments document =
      match assignAlong? value segments document with
      | some after => (true, after)
      | none => (false, document) := by
  induction segments generalizing document with
  | nil => rfl
  | cons segment rest ih =>
      cases document with
      | object members =>
          cases rest with
          | nil => rfl
          | cons next rest =>
              rw [writeAlong, ih (steppedInto_ordered ordered segment), assignAlong?_cons]
              cases below : assignAlong? value (next :: rest) (steppedInto segment members) with
              | some inner => exact congrArg (fun d => (true, Json.object d)) (put_stepped segment inner members)
              | none =>
                  -- A write is only stopped by a member that was there before, so it is put back as it was.
                  have found : Dict.find? segment members = some (steppedInto segment members) := by
                    rw [steppedInto] at below ⊢
                    cases there : Dict.find? segment members with
                    | some old => rfl
                    | none =>
                        obtain ⟨after, done⟩ := assignAlong?_new value next rest
                        rw [there, Option.getD_none, done] at below
                        cases below
                  dsimp only [Option.map_none]
                  rw [put_stepped, ordered.keys.put_find? found]
      | _ => cases rest <;> rfl

/-! ## What stops a write -/

/-- At the document itself, or at some place above the end of a path, there is a value that is no object. -/
def Blocked (segments : List String) (document : Json) : Prop :=
  ∃ front, front <+: segments ∧ front ≠ segments ∧
    ∃ found, lookupAlong front document = some found ∧ found.members? = none

theorem blocked_of_value (isValue : document.members? = none) (segment : String) (rest : List String) :
    Blocked (segment :: rest) document :=
  ⟨[], List.nil_prefix, nofun, document, rfl, isValue⟩

theorem not_blocked_last (last : String) (members : Dict Json) : ¬Blocked [last] (.object members) := by
  rintro ⟨front, begins, proper, found, there, isValue⟩
  have none : front = [] := by
    rcases List.prefix_cons_iff.mp begins with none | ⟨more, rfl, end_⟩
    · exact none
    · exact absurd (congrArg (last :: ·) (List.prefix_nil.mp end_)) proper
  subst none
  cases there
  cases isValue

theorem blocked_cons_iff : Blocked (segment :: next :: rest) (.object members) ↔
    Blocked (next :: rest) (steppedInto segment members) := by
  constructor
  · rintro ⟨front, begins, proper, found, there, isValue⟩
    rcases List.prefix_cons_iff.mp begins with rfl | ⟨more, rfl, further⟩
    · cases there
      cases isValue
    · obtain ⟨inner, step, below⟩ := Option.bind_eq_some_iff.mp there
      refine ⟨more, further, fun same => proper (congrArg (segment :: ·) same), found, ?_, isValue⟩
      rw [steppedInto, step]
      exact below
  · rintro ⟨front, begins, proper, found, there, isValue⟩
    refine ⟨segment :: front, (List.prefix_cons_inj segment).mpr begins, fun same => proper (List.cons_injective same),
      found, ?_, isValue⟩
    rw [steppedInto] at there
    rw [lookupAlong]
    cases step : Dict.find? segment members with
    | some inner => rwa [step] at there
    | none =>
        -- A new object is no such value, and has none below it.
        rw [step] at there
        cases front with
        | nil =>
            cases there
            cases isValue
        | cons key more => cases there

theorem assignAlong?_eq_none_iff (value : Json) (segment : String) (rest : List String) (document : Json) :
    assignAlong? value (segment :: rest) document = none ↔ Blocked (segment :: rest) document := by
  induction rest generalizing segment document with
  | nil =>
      cases document with
      | object members => exact iff_of_false nofun (not_blocked_last segment members)
      | _ => exact iff_of_true rfl (blocked_of_value rfl segment [])
  | cons next rest ih =>
      cases document with
      | object members => rw [assignAlong?_cons, Option.map_eq_none_iff, ih, blocked_cons_iff]
      | _ => exact iff_of_true rfl (blocked_of_value rfl segment (next :: rest))

/-! ## What is looked up afterwards -/

theorem lookupAlong_assigned (assigned : assignAlong? value segments before = some after) :
    lookupAlong segments after = some value := by
  induction segments generalizing before after with
  | nil => cases assigned
  | cons segment rest ih =>
      cases before with
      | object members =>
          cases rest with
          | nil =>
              cases assigned
              rw [lookupAlong, Dict.find?_put_same]
              rfl
          | cons next rest =>
              obtain ⟨inner, below, rfl⟩ := Option.map_eq_some_iff.mp assigned
              rw [lookupAlong, Dict.find?_put_same]
              exact ih below
      | _ => cases rest <;> cases assigned

/-- A place that is neither above nor below the one that was written to has what it had. -/
theorem lookupAlong_beside (assigned : assignAlong? value segments before = some after)
    (below : ¬segments <+: others) (above : ¬others <+: segments) :
    lookupAlong others after = lookupAlong others before := by
  induction segments generalizing before after others with
  | nil => cases assigned
  | cons segment rest ih =>
      cases before with
      | object members =>
          cases others with
          | nil => exact absurd List.nil_prefix above
          | cons key more =>
              cases rest with
              | nil =>
                  cases assigned
                  have apart : segment ≠ key :=
                    fun same => below (same ▸ (List.prefix_cons_inj key).mpr List.nil_prefix)
                  rw [lookupAlong, lookupAlong, Dict.find?_put, if_neg apart]
              | cons next rest =>
                  obtain ⟨inner, written, rfl⟩ := Option.map_eq_some_iff.mp assigned
                  rw [lookupAlong, lookupAlong, Dict.find?_put]
                  -- The two paths part here or further down.
                  by_cases same : segment = key
                  · subst same
                    rw [List.prefix_cons_inj] at below above
                    have kept := ih written below above
                    rw [if_pos rfl, Option.bind_some, kept]
                    cases Dict.find? segment members with
                    | some old => rfl
                    | none =>
                        cases more with
                        | nil => exact absurd List.nil_prefix above
                        | cons key more => rfl
                  · rw [if_neg same]
      | _ => cases rest <;> cases assigned

/-- What a write along a path leaves: its value at the place, and elsewhere what was there. -/
structure Lands (p : FieldPath) (value before after : Json) : Prop where
  here : p.lookup after = some value
  beside : ∀ q : FieldPath, ¬p.segments <+: q.segments → ¬q.segments <+: p.segments → q.lookup after = q.lookup before

/-- A write lands, or it fails and the document is what it was, with no object made on the way. It
fails exactly if the document, or a value at some place above the end of the path, is no object. -/
theorem writes_land_or_do_nothing (p : FieldPath) (value : Json) (ordered : document.Ordered) :
    (∀ after, p.write value document = (true, after) →
      p.assign? value document = some after ∧ p.Lands value document after) ∧
    (∀ after, p.write value document = (false, after) → p.assign? value document = none ∧ after = document) ∧
    ((p.write value document).1 = false ↔ Blocked p.segments document) := by
  have stepwise : p.write value document = _ := writeAlong_eq value p.segments ordered
  have stopped : p.assign? value document = none ↔ Blocked p.segments document := by
    rw [assign?]
    cases segments : p.segments with
    | nil => exact absurd segments p.segments_ne_nil
    | cons segment rest => exact assignAlong?_eq_none_iff value segment rest document
  rw [assign?] at stopped ⊢
  rw [stepwise, ← stopped]
  cases assigned : assignAlong? value p.segments document with
  | some landed =>
      refine ⟨?_, nofun, iff_of_false nofun nofun⟩
      rintro after same
      cases same
      exact ⟨rfl, lookupAlong_assigned assigned, fun q below above => lookupAlong_beside assigned below above⟩
  | none =>
      refine ⟨nofun, ?_, iff_of_true rfl rfl⟩
      rintro after same
      cases same
      exact ⟨rfl, rfl⟩

section Crabs

/-- A book about crabs, with an author of its own. -/
def crabs : Json :=
  .object [("author", .object [("name", .string "ferris")]), ("title", .string "crabs")]

theorem crabs_ordered : crabs.Ordered := by
  have author : (Json.object [("name", .string "ferris")]).Ordered :=
    .object (List.pairwise_singleton ..) (by simpa using .string _)
  exact .object (by decide +kernel) (by simpa using ⟨author, .string _⟩)

/-- A score goes into an object of its own beside the author, and nothing goes below the title. -/
theorem crabs_scored : ∃ after, write ⟨"meta.score"⟩ (.ofNat 5) crabs = (true, after) ∧
    lookup ⟨"meta.score"⟩ after = some (.ofNat 5) ∧ lookup ⟨"author.name"⟩ after = some (.string "ferris") ∧
    write ⟨"title.inner.most"⟩ (.ofNat 1) crabs = (false, crabs) := by
  obtain ⟨lands, -, -⟩ := writes_land_or_do_nothing ⟨"meta.score"⟩ (.ofNat 5) crabs_ordered
  obtain ⟨-, fails, -⟩ := writes_land_or_do_nothing ⟨"title.inner.most"⟩ (.ofNat 1) crabs_ordered
  obtain ⟨-, here, beside⟩ := lands _ rfl
  refine ⟨_, rfl, here, ?_, ?_⟩
  · rw [beside ⟨"author.name"⟩ (by decide +kernel) (by decide +kernel)]
    rfl
  · exact Prod.ext rfl (fails _ rfl).2

end Crabs

end FieldPath

end DocMapper
