import DocMapper.Proofs.BucketReading
/-!
Whether a document is written to one index all day. One with a usable time of its own is, and so is
everything if the pattern has no written form. Any other document goes where the pattern sends the
clock: to one index if no piece of the pattern tells the time of day, and otherwise there are two
instants of every day at which the pattern has different names. They are chosen so that no piece is
longer at one of them than at the other, which keeps the difference from being evened out.
-/

namespace DocMapper

namespace Instant

/-- An instant of a day, counted from 1970. Its fraction may be within a leap second. -/
structure Within (i : Instant) (day : Int) : Prop where
  date : i.secs / 86400 = day
  fraction : i.nanos < 2000000000

/-- A second of a day, and a fraction of it. -/
def ofDay (day : Int) (second nanos : Nat) : Instant :=
  ⟨day * 86400 + second, nanos⟩

variable {i j : Instant} {day : Int} {second nanos : Nat}

theorem Within.date_eq (within : i.Within day) : i.date = .ofDays day := by
  rw [Instant.date, within.date]

theorem day_ofDay (small : second < 86400) : (ofDay day second nanos).secs / 86400 = day := by
  show (day * 86400 + second) / 86400 = day
  omega

theorem within_ofDay (small : second < 86400) (fraction : nanos < 2000000000) :
    (ofDay day second nanos).Within day :=
  ⟨day_ofDay small, fraction⟩

theorem secondOfDay_ofDay (small : second < 86400) : (ofDay day second nanos).secondOfDay = second := by
  show ((day * 86400 + second) % 86400).toNat = second
  omega

theorem date_ofDay (small : second < 86400) : (ofDay day second nanos).date = .ofDays day := by
  rw [Instant.date, day_ofDay small]

@[simp] theorem secs_ofDay : (ofDay day second nanos).secs = day * 86400 + second := rfl

@[simp] theorem nanos_ofDay : (ofDay day second nanos).nanos = nanos := rfl

end Instant

namespace TimePattern

/-! ## Pieces that tell the time of day -/

def Field.tellsTime : Field → Bool
  | .hour | .hourOfHalfDay | .minute | .second | .nanosecond | .timestamp => true
  | .year | .century | .yearOfCentury | .isoYear | .isoYearOfCentury | .quarter | .month | .day | .weekFromSunday
  | .weekFromMonday | .isoWeek | .daysFromSunday | .dayOfWeek | .ordinal => false

def Wording.tellsTime : Wording → Bool
  | .lowerHalfDay | .upperHalfDay | .fraction | .full => true
  | .fractionOf places | .bareFraction places => places ≠ 0
  | .shortMonth | .longMonth | .shortWeekday | .longWeekday | .zoneName | .offset | .offsetColon | .offsetSeconds
  | .offsetHours | .offsetAnyForm => false

def Piece.tellsTime : Piece → Bool
  | .literal _ | .space _ => false
  | .field f _ => f.tellsTime
  | .wording w => w.tellsTime

variable {i j : Instant} {day : Int} {p : Piece} {pieces : List Piece}

theorem fractionDigits_none (nanos : Nat) : fractionDigits 0 nanos = "0" := by
  have nothing : nanos % 1000000000 / Nat.pow 10 (9 - 0) = 0 := Nat.div_eq_of_lt (Nat.mod_lt _ (by decide))
  rw [fractionDigits, nothing]
  rfl

/-- Where a piece does not tell the time of day, the date is all it goes by. -/
theorem text_of_date (timeless : p.tellsTime = false) (same : i.date = j.date) : p.text? i = p.text? j := by
  cases p with
  | literal text | space text => rfl
  | field f padding =>
      cases f with
      | hour | hourOfHalfDay | minute | second | nanosecond | timestamp => cases timeless
      | _ => simp only [Piece.text?, Field.text, same]
  | wording w =>
      cases w with
      | lowerHalfDay | upperHalfDay | fraction | full => cases timeless
      | fractionOf places | bareFraction places =>
          have nowhere : places = 0 := by simpa [Piece.tellsTime, Wording.tellsTime] using timeless
          simp only [Piece.text?, Wording.text?, nowhere, fractionDigits_none]
      | _ => simp only [Piece.text?, Wording.text?, same]

theorem texts_congr (same : ∀ p ∈ pieces, p.text? i = p.text? j) :
    (pieces.mapM fun (p : Piece) => p.text? i) = pieces.mapM fun (p : Piece) => p.text? j := by
  induction pieces with
  | nil => rfl
  | cons p rest ih =>
      rw [List.forall_mem_cons] at same
      rw [List.mapM_cons, List.mapM_cons, same.1, ih same.2]

theorem expand_of_date {pattern : String} (parsed : parse? pattern = some pieces)
    (timeless : ∀ p ∈ pieces, p.tellsTime = false) (same : i.date = j.date) :
    expand? pattern i = expand? pattern j := by
  rw [expand?, expand?, parsed, Option.bind_some, Option.bind_some, expandPieces?, expandPieces?,
    texts_congr fun p member => text_of_date (timeless p member) same]

/-! ## Texts of one length -/

/-- Two texts that differ and are of one length. -/
structure Apart (x y : String) : Prop where
  level : x.length = y.length
  differ : x ≠ y

instance (x y : String) : Decidable (Apart x y) :=
  decidable_of_iff (x.length = y.length ∧ x ≠ y)
    ⟨fun ⟨level, differ⟩ => ⟨level, differ⟩, fun ⟨level, differ⟩ => ⟨level, differ⟩⟩

variable {x y : String}

theorem Apart.after (apart : Apart x y) (front : String) : Apart (front ++ x) (front ++ y) where
  level := by rw [String.length_append, String.length_append, apart.level]
  differ := fun same => apart.differ ((String.append_right_inj front).mp same)

theorem Apart.padLeft (apart : Apart x y) (fill : Char) (width : Nat) :
    Apart (padLeft fill width x) (padLeft fill width y) := by
  rw [TimePattern.padLeft, TimePattern.padLeft, apart.level]
  exact apart.after _

theorem Apart.twoDigits {n m : Nat} (apart : Apart (toString n) (toString m)) (padding : Padding) :
    Apart (twoDigits padding n) (twoDigits padding m) := by
  cases padding with
  | none => exact apart
  | zero | blank => exact apart.padLeft _ 2

theorem Apart.signed {n m : Int} (apart : Apart (toString n.natAbs) (toString m.natAbs)) (sign : n < 0 ↔ m < 0)
    (padding : Padding) (width : Nat) : Apart (signed padding width n) (signed padding width m) := by
  simp only [TimePattern.signed, sign]
  cases padding with
  | none => exact apart.after _
  | zero => exact (apart.padLeft _ _).after _
  | blank => exact (apart.after _).padLeft _ _

theorem toDigits_last (q : Nat) {r : Nat} (small : r < 10) :
    Nat.toDigits 10 (10 * q + r) = (if q = 0 then [] else Nat.toDigits 10 q) ++ [r.digitChar] := by
  split
  · next zero => rw [zero, Nat.mul_zero, Nat.zero_add, Nat.toDigits_of_lt_base small, List.nil_append]
  · next filled =>
      rw [← Nat.toDigits_append_toDigits (by decide) (Nat.pos_of_ne_zero filled) small, Nat.toDigits_of_lt_base small]

theorem apart_of_last (q : Nat) {r s : Nat} (first : r < 10) (second : s < 10) (other : r ≠ s) :
    Apart (toString (10 * q + r)) (toString (10 * q + s)) where
  level := by
    simp only [Nat.toString_eq_ofList_toDigits, String.length_ofList, toDigits_last q first, toDigits_last q second,
      List.length_append, List.length_singleton]
  differ := by
    intro same
    rw [Nat.toString_eq_ofList_toDigits, Nat.toString_eq_ofList_toDigits] at same
    have read := congrArg (fun text => Nat.ofDigitChars 10 text.toList 0) same
    simp only [String.toList_ofList, Nat.ofDigitChars_ten_toDigits] at read
    exact other (Nat.add_left_cancel read)

/-- What a piece writes at one instant is as long as what it writes at the other. -/
def Level (i j : Instant) (p : Piece) : Prop :=
  ∀ x y, p.text? i = some x → p.text? j = some y → x.length = y.length

theorem level_of_same (same : p.text? i = p.text? j) : Level i j p := by
  intro x y here there
  rw [Option.some.inj (here.symm.trans (same.trans there))]

/-- A piece that writes different texts of one length at two instants. -/
def Turns (i j : Instant) (p : Piece) : Prop :=
  ∃ x y, p.text? i = some x ∧ p.text? j = some y ∧ Apart x y

theorem Turns.level (turns : Turns i j p) : Level i j p := by
  obtain ⟨x, y, first, second, apart⟩ := turns
  intro x' y' here there
  rw [← Option.some.inj (first.symm.trans here), ← Option.some.inj (second.symm.trans there)]
  exact apart.level

theorem Turns.differ (turns : Turns i j p) : p.text? i ≠ p.text? j := by
  obtain ⟨x, y, first, second, apart⟩ := turns
  rw [first, second]
  exact fun same => apart.differ (Option.some.inj same)

/-- Where every piece is as long at both instants, a name cannot be put together in two ways. -/
theorem texts_of_name {xs ys : List String} (first : (pieces.mapM fun (p : Piece) => p.text? i) = some xs)
    (second : (pieces.mapM fun (p : Piece) => p.text? j) = some ys) (level : ∀ p ∈ pieces, Level i j p)
    (same : String.join xs = String.join ys) : ∀ p ∈ pieces, p.text? i = p.text? j := by
  induction pieces generalizing xs ys with
  | nil => exact fun p member => absurd member List.not_mem_nil
  | cons p rest ih =>
      rw [List.mapM_cons] at first second
      obtain ⟨x, here, first⟩ := Option.bind_eq_some_iff.mp first
      obtain ⟨xs, behind, whole⟩ := Option.bind_eq_some_iff.mp first
      cases whole
      obtain ⟨y, there, second⟩ := Option.bind_eq_some_iff.mp second
      obtain ⟨ys, beyond, whole⟩ := Option.bind_eq_some_iff.mp second
      cases whole
      rw [List.forall_mem_cons] at level ⊢
      obtain ⟨level, later⟩ := level
      have long := level x y here there
      rw [String.join_cons, String.join_cons, ← String.toList_inj, String.toList_append, String.toList_append] at same
      obtain ⟨front, back⟩ := List.append_inj same (by rwa [String.length_toList, String.length_toList])
      rw [here, there, String.toList_inj.mp front]
      exact ⟨rfl, ih behind beyond later (String.toList_inj.mp back)⟩

/-- A pattern has different names at two instants if a piece of it turns there and no other piece changes
its length. -/
theorem names_differ {pattern : String} (parsed : parse? pattern = some pieces)
    (writable : .wording .offsetAnyForm ∉ pieces) (each : ∀ p ∈ pieces, p.text? i = p.text? j ∨ Turns i j p)
    (turns : ∃ p ∈ pieces, Turns i j p) :
    ∃ first second, expand? pattern i = some first ∧ expand? pattern j = some second ∧ first ≠ second := by
  obtain ⟨xs, first⟩ := texts_of_writable writable i
  obtain ⟨ys, second⟩ := texts_of_writable writable j
  have level : ∀ p ∈ pieces, Level i j p := by
    intro p member
    rcases each p member with same | turns
    · exact level_of_same same
    · exact turns.level
  refine ⟨String.join xs, String.join ys, ?_, ?_, fun same => ?_⟩
  · rw [expand?, parsed, Option.bind_some, expandPieces?, first]
    rfl
  · rw [expand?, parsed, Option.bind_some, expandPieces?, second]
    rfl
  · obtain ⟨p, member, turns⟩ := turns
    exact turns.differ (texts_of_name first second level same p member)

/-! ## Two instants of a day -/

/-- What a text of an instant says behind its date. -/
def clockText (i : Instant) : String :=
  "T" ++ Field.hour.text .zero i ++ ":" ++ Field.minute.text .zero i ++ ":" ++ Field.second.text .zero i ++
    fractionText i.nanos ++ "+00:00"

theorem apart_fullText (same : i.date = j.date) (apart : Apart (clockText i) (clockText j)) :
    Apart (fullText i) (fullText j) := by
  have split : ∀ k : Instant, fullText k = yearText .zero k.date.year ++ "-" ++ Field.month.text .zero k ++ "-" ++
      Field.day.text .zero k ++ clockText k := fun k => by simp only [fullText, clockText, String.append_assoc]
  rw [split, split, Field.text, Field.text, Field.text, Field.text, same]
  exact apart.after _

theorem apart_fractionDigits {places : Nat} (filled : places ≠ 0) :
    Apart (fractionDigits places 111111111) (fractionDigits places 222222222) := by
  have cut : ∀ k < 9, Apart (toString (111111111 % 1000000000 / Nat.pow 10 k))
      (toString (222222222 % 1000000000 / Nat.pow 10 k)) := by decide +kernel
  exact (cut (9 - places) (by omega)).padLeft _ _

/-- From ten past ten in the morning until it is about twenty-three past eleven at night, everything that tells
the time of day changes, and all but the seconds since 1970 are as long as before. -/
theorem turns_by_night (day : Int) (timed : p.tellsTime = true) (clock : ∀ padding, p ≠ .field .timestamp padding) :
    Turns (.ofDay day 36610 111111111) (.ofDay day 84203 222222222) p := by
  have morning : (Instant.ofDay day 36610 111111111).secondOfDay = 36610 := Instant.secondOfDay_ofDay (by decide)
  have night : (Instant.ofDay day 84203 222222222).secondOfDay = 84203 := Instant.secondOfDay_ofDay (by decide)
  -- The two instants differ in every unit of the day, which is what a piece of the clock writes.
  cases p with
  | literal text | space text => cases timed
  | field f padding =>
      refine ⟨_, _, rfl, rfl, ?_⟩
      cases f with
      | hour =>
          simp only [Field.text, Instant.hour, morning, night]
          exact Apart.twoDigits (by decide +kernel) padding
      | hourOfHalfDay =>
          simp only [Field.text, hourOfHalfDay, Instant.hour, morning, night]
          exact Apart.twoDigits (by decide +kernel) padding
      | minute =>
          simp only [Field.text, Instant.minute, morning, night]
          exact Apart.twoDigits (by decide +kernel) padding
      | second =>
          simp only [Field.text, Instant.second, morning, night, Instant.nanos_ofDay]
          exact Apart.twoDigits (by decide +kernel) padding
      | nanosecond =>
          simp only [Field.text, Instant.nanos_ofDay]
          exact Apart.signed (by decide +kernel) (by decide) padding 9
      | timestamp => exact absurd rfl (clock padding)
      | _ => cases timed
  | wording w =>
      cases w with
      | lowerHalfDay | upperHalfDay =>
          refine ⟨_, _, rfl, rfl, ?_⟩
          simp only [Instant.hour, morning, night]
          decide +kernel
      | fraction =>
          refine ⟨_, _, rfl, rfl, ?_⟩
          simp only [Instant.nanos_ofDay]
          decide +kernel
      | fractionOf places =>
          have filled : places ≠ 0 := by simpa [Piece.tellsTime, Wording.tellsTime] using timed
          exact ⟨_, _, rfl, rfl, (apart_fractionDigits filled).after "."⟩
      | bareFraction places =>
          have filled : places ≠ 0 := by simpa [Piece.tellsTime, Wording.tellsTime] using timed
          exact ⟨_, _, rfl, rfl, apart_fractionDigits filled⟩
      | full =>
          refine ⟨_, _, rfl, rfl, apart_fullText ?_ ?_⟩
          · rw [Instant.date_ofDay (by decide), Instant.date_ofDay (by decide)]
          · simp only [clockText, Field.text, Instant.hour, Instant.minute, Instant.second, morning, night,
              Instant.nanos_ofDay]
            decide +kernel
      | _ => cases timed

theorem timestamp_turns (day : Int) (padding : Padding) :
    Turns (.ofDay day 1 0) (.ofDay day 2 0) (.field .timestamp padding) := by
  refine ⟨_, _, rfl, rfl, ?_⟩
  simp only [Field.text, Instant.secs_ofDay]
  refine Apart.signed ?_ (by omega) padding 9
  rcases Int.lt_or_le day 0 with early | late
  · have first : (day * 86400 + (1 : Nat)).natAbs = 10 * (8640 * day.natAbs - 1) + 9 := by omega
    have second : (day * 86400 + (2 : Nat)).natAbs = 10 * (8640 * day.natAbs - 1) + 8 := by omega
    rw [first, second]
    exact apart_of_last _ (by decide) (by decide) (by decide)
  · have first : (day * 86400 + (1 : Nat)).natAbs = 10 * (8640 * day.natAbs) + 1 := by omega
    have second : (day * 86400 + (2 : Nat)).natAbs = 10 * (8640 * day.natAbs) + 2 := by omega
    rw [first, second]
    exact apart_of_last _ (by decide) (by decide) (by decide)

/-- Between these two seconds a piece turns or writes the same. -/
theorem turns_in_second (day : Int) (timed : p.tellsTime = true) :
    p.text? (.ofDay day 1 0) = p.text? (.ofDay day 2 0) ∨ Turns (.ofDay day 1 0) (.ofDay day 2 0) p := by
  have first : (Instant.ofDay day 1 0).secondOfDay = 1 := Instant.secondOfDay_ofDay (by decide)
  have second : (Instant.ofDay day 2 0).secondOfDay = 2 := Instant.secondOfDay_ofDay (by decide)
  -- Only the second moves on, so the other pieces of the clock are written alike.
  cases p with
  | literal text | space text => cases timed
  | field f padding =>
      cases f with
      | hour | hourOfHalfDay | minute | nanosecond =>
          left
          simp only [Piece.text?, Field.text, hourOfHalfDay, Instant.hour, Instant.minute, first, second,
            Instant.nanos_ofDay]
      | second =>
          refine .inr ⟨_, _, rfl, rfl, ?_⟩
          simp only [Field.text, Instant.second, first, second, Instant.nanos_ofDay]
          exact Apart.twoDigits (by decide +kernel) padding
      | timestamp => exact .inr (timestamp_turns day padding)
      | _ => cases timed
  | wording w =>
      cases w with
      | lowerHalfDay | upperHalfDay | fraction | fractionOf places | bareFraction places =>
          left
          simp only [Piece.text?, Wording.text?, Instant.hour, first, second, Instant.nanos_ofDay]
      | full =>
          refine .inr ⟨_, _, rfl, rfl, apart_fullText ?_ ?_⟩
          · rw [Instant.date_ofDay (by decide), Instant.date_ofDay (by decide)]
          · simp only [clockText, Field.text, Instant.hour, Instant.minute, Instant.second, first, second,
              Instant.nanos_ofDay]
            decide +kernel
      | _ => cases timed

/-- A pattern that tells the time of day has two names on every day. -/
theorem names_differ_within_day {pattern : String} (parsed : parse? pattern = some pieces)
    (writable : .wording .offsetAnyForm ∉ pieces) (timed : ∃ p ∈ pieces, p.tellsTime = true) (day : Int) :
    ∃ i j : Instant, i.Within day ∧ j.Within day ∧
      ∃ first second, expand? pattern i = some first ∧ expand? pattern j = some second ∧ first ≠ second := by
  -- Seconds since 1970 may get longer in the course of a day, so with them the instants are close together.
  by_cases clock : ∃ padding, .field .timestamp padding ∈ pieces
  · obtain ⟨padding, member⟩ := clock
    refine ⟨.ofDay day 1 0, .ofDay day 2 0, Instant.within_ofDay (by decide) (by decide),
      Instant.within_ofDay (by decide) (by decide), names_differ parsed writable ?_
        ⟨_, member, timestamp_turns day padding⟩⟩
    intro p _
    cases timed : p.tellsTime with
    | true => exact turns_in_second day timed
    | false =>
        left
        exact text_of_date timed (by rw [Instant.date_ofDay (by decide), Instant.date_ofDay (by decide)])
  · have plain : ∀ p ∈ pieces, ∀ padding, p ≠ .field .timestamp padding :=
      fun p member padding same => clock ⟨padding, same ▸ member⟩
    obtain ⟨p, member, tells⟩ := timed
    refine ⟨.ofDay day 36610 111111111, .ofDay day 84203 222222222, Instant.within_ofDay (by decide) (by decide),
      Instant.within_ofDay (by decide) (by decide), names_differ parsed writable ?_
        ⟨p, member, turns_by_night day tells (plain p member)⟩⟩
    intro q member
    cases timed : q.tellsTime with
    | true => exact .inr (turns_by_night day timed (plain q member))
    | false =>
        left
        exact text_of_date timed (by rw [Instant.date_ofDay (by decide), Instant.date_ofDay (by decide)])

end TimePattern

namespace Routing

variable {env : Environment} {config : TypeConfig} {t : DocumentType} {pattern : String} {field : Option FieldPath}

theorem writeTarget_timed (timed : t.addressing = .timeBased pattern field) (now : Instant) (document : Option Json) :
    writeTarget t now document =
      (TimePattern.expand? pattern ((document.bind t.timeOf).getD now)).getD t.indexName := by
  rw [writeTarget, timed]

/-- A write goes to the same index all day if the document has a usable time, if the pattern asks for the
offset that has no written form, or if no piece of the pattern tells the time of day; and only then. -/
theorem written_alike_within_day_iff (built : DocumentType.build env config = .ok t)
    (timed : t.addressing = .timeBased pattern field) :
    ∃ pieces, TimePattern.parse? pattern = some pieces ∧ ∀ (document : Option Json) (day : Int),
      (∀ i j : Instant, i.Within day → j.Within day → writeTarget t i document = writeTarget t j document) ↔
        (∃ instant, document.bind t.timeOf = some instant) ∨ .wording .offsetAnyForm ∈ pieces ∨
          ∀ p ∈ pieces, p.tellsTime = false := by
  obtain ⟨pieces, parsed⟩ := DocumentType.build_pattern built timed
  refine ⟨pieces, parsed, fun document day => ?_⟩
  simp only [writeTarget_timed timed]
  constructor
  · intro alike
    by_contra other
    rw [not_or, not_or] at other
    obtain ⟨undated, writable, tells⟩ := other
    -- Undated, the document is filed under the clock of the moment.
    have none : document.bind t.timeOf = none := by
      cases own : document.bind t.timeOf with
      | none => rfl
      | some instant => exact absurd ⟨instant, own⟩ undated
    obtain ⟨i, j, first, second, name, name', here, there, differ⟩ :=
      TimePattern.names_differ_within_day parsed writable (by simpa using tells) day
    have same := alike i j first second
    rw [none, Option.getD_none, Option.getD_none, here, there] at same
    exact differ same
  · rintro (⟨instant, own⟩ | unwritable | timeless) i j first second
    · rw [own, Option.getD_some, Option.getD_some]
    · have nothing : ∀ k, TimePattern.expand? pattern k = none := by
        intro k
        rw [Option.eq_none_iff_forall_ne_some]
        exact fun name expanded => (TimePattern.expand_isSome_iff parsed k).mp ⟨name, expanded⟩ unwritable
      rw [nothing, nothing]
    · have same : ((document.bind t.timeOf).getD i).date = ((document.bind t.timeOf).getD j).date := by
        cases document.bind t.timeOf with
        | none => exact first.date_eq.trans second.date_eq.symm
        | some instant => rfl
      rw [TimePattern.expand_of_date parsed timeless same]

theorem orders_written_alike :
    DocumentType.build .empty (Repository.ordersConfig none) = .ok (Repository.orders none) ∧
      writeTarget (Repository.orders none) (.ofDay 19000 0 0) none =
        writeTarget (Repository.orders none) (.ofDay 19000 86399 1999999999) none := by
  have built : DocumentType.build .empty (Repository.ordersConfig none) = .ok (Repository.orders none) := rfl
  obtain ⟨pieces, parsed, alike⟩ := written_alike_within_day_iff built rfl
  cases parsed
  refine ⟨built, (alike none 19000).mpr (.inr (.inr (by decide))) _ _ ?_ ?_⟩
  · exact Instant.within_ofDay (by decide) (by decide)
  · exact Instant.within_ofDay (by decide) (by decide)

/-- A log that gets a new index with every hour. -/
def hourlyConfig : TypeConfig where
  name := "Log"
  indexName := some "log"
  aliasName := none
  timePattern := some "logs-%H"
  timeField := none
  rollover := none
  settings := .none
  relation := none
  fields := []

def hourly : DocumentType where
  name := "Log"
  indexName := "log"
  aliasName := none
  addressing := .timeBased "logs-%H" none
  relation := .none
  settings := .none
  fields := []
  roles := []
  rolloverSchedule := none

/-- Midnight and one o'clock. -/
theorem hourly_not_written_alike :
    ¬∀ (env : Environment) (config : TypeConfig) (t : DocumentType) (pattern : String) (field : Option FieldPath)
      (document : Option Json) (day : Int) (i j : Instant),
      DocumentType.build env config = .ok t → t.addressing = .timeBased pattern field → i.Within day → j.Within day →
      writeTarget t i document = writeTarget t j document := by
  intro alike
  have built : DocumentType.build .empty hourlyConfig = .ok hourly := rfl
  have same := alike _ _ _ _ _ none 0 (.ofDay 0 0 0) (.ofDay 0 3600 0) built rfl
    (Instant.within_ofDay (by decide) (by decide)) (Instant.within_ofDay (by decide) (by decide))
  exact absurd same (by decide +kernel)

end Routing

end DocMapper
