import DocMapper.Proofs.SeriesNames
/-!
Names from a time pattern, and the wildcard for them. Whatever instant is written into a
pattern, the wildcard of the pattern takes the name in: a star stands in for every specifier,
and also for the marks between two of them that the wildcard leaves out, since no specifier
writes a line feed. A pattern can be read if all specifiers in it are known.
-/

namespace DocMapper

namespace Text

theorem mem_afterRun_iff {text rest : List Char} :
    rest ∈ afterRun text ↔ ∃ run, text = run ++ rest ∧ '\n' ∉ run := by
  -- The empty run leaves the whole text, and a line feed ends every other.
  induction text with
  | nil =>
      simp only [afterRun, List.mem_singleton]
      constructor
      · rintro rfl
        exact ⟨[], rfl, List.not_mem_nil⟩
      · rintro ⟨run, whole, -⟩
        exact (List.append_eq_nil_iff.mp whole.symm).2
  | cons c tail ih =>
      rw [afterRun, List.mem_cons]
      constructor
      · rintro (all | later)
        · exact ⟨[], all.symm, List.not_mem_nil⟩
        · by_cases feed : c = '\n'
          · rw [if_pos feed] at later
            cases later
          · rw [if_neg feed] at later
            obtain ⟨run, whole, oneLine⟩ := ih.mp later
            exact ⟨c :: run, congrArg (c :: ·) whole, List.not_mem_cons_of_ne_of_not_mem (Ne.symm feed) oneLine⟩
      · rintro ⟨run, whole, oneLine⟩
        cases run with
        | nil => exact .inl whole.symm
        | cons first run =>
            obtain ⟨rfl, rfl⟩ := List.cons.inj whole
            have feed : c ≠ '\n' := fun same => oneLine (same ▸ List.mem_cons_self)
            rw [if_neg feed]
            exact .inr (ih.mpr ⟨run, rfl, fun member => oneLine (List.mem_cons_of_mem c member)⟩)

theorem matchesWildcard_star_iff {pattern text : List Char} :
    matchesWildcard ('*' :: pattern) text = true ↔
      ∃ run rest, text = run ++ rest ∧ '\n' ∉ run ∧ matchesWildcard pattern rest = true := by
  simp only [matchesWildcard, ↓reduceIte, List.any_eq_true]
  constructor
  · rintro ⟨rest, after, taken⟩
    obtain ⟨run, whole, oneLine⟩ := mem_afterRun_iff.mp after
    exact ⟨run, rest, whole, oneLine, taken⟩
  · rintro ⟨run, rest, whole, oneLine, taken⟩
    exact ⟨rest, mem_afterRun_iff.mpr ⟨run, whole, oneLine⟩, taken⟩

theorem matchesWildcard_plain_iff {c : Char} (plain : c ≠ '*') {pattern text : List Char} :
    matchesWildcard (c :: pattern) text = true ↔ ∃ rest, text = c :: rest ∧ matchesWildcard pattern rest = true := by
  simp only [matchesWildcard, plain, ↓reduceIte]
  cases text with
  | nil => simp
  | cons first rest =>
      simp only [Bool.and_eq_true, decide_eq_true_eq]
      constructor
      · rintro ⟨rfl, taken⟩
        exact ⟨rest, rfl, taken⟩
      · rintro ⟨tail, same, taken⟩
        obtain ⟨rfl, rfl⟩ := List.cons.inj same
        exact ⟨rfl, taken⟩

theorem matchesWildcard_nil_iff {text : List Char} : matchesWildcard [] text = true ↔ text = [] := by
  simp [matchesWildcard]

theorem matchesWildcard_join {front pattern start text : List Char} (first : matchesWildcard front start = true)
    (second : matchesWildcard pattern text = true) :
    matchesWildcard (front ++ pattern) (start ++ text) = true := by
  induction front generalizing start with
  | nil =>
      rw [matchesWildcard_nil_iff.mp first]
      exact second
  | cons c rest ih =>
      by_cases star : c = '*'
      · subst star
        obtain ⟨run, tail, rfl, oneLine, taken⟩ := matchesWildcard_star_iff.mp first
        rw [List.cons_append, List.append_assoc]
        exact matchesWildcard_star_iff.mpr ⟨run, _, rfl, oneLine, ih taken⟩
      · obtain ⟨tail, rfl, taken⟩ := (matchesWildcard_plain_iff star).mp first
        exact (matchesWildcard_plain_iff star).mpr ⟨_, rfl, ih taken⟩

theorem eq_of_matchesWildcard {pattern text : List Char} (literal : '*' ∉ pattern)
    (taken : matchesWildcard pattern text = true) : text = pattern := by
  induction pattern generalizing text with
  | nil => exact matchesWildcard_nil_iff.mp taken
  | cons c rest ih =>
      have plain : c ≠ '*' := fun star => literal (star ▸ List.mem_cons_self)
      obtain ⟨tail, rfl, further⟩ := (matchesWildcard_plain_iff plain).mp taken
      rw [ih (fun member => literal (List.mem_cons_of_mem c member)) further]

theorem matchesWildcard_plain_end {front ending text : List Char} (literal : '*' ∉ ending)
    (taken : matchesWildcard (front ++ ending) text = true) :
    ∃ start, text = start ++ ending ∧ matchesWildcard front start = true := by
  induction front generalizing text with
  | nil => exact ⟨[], eq_of_matchesWildcard literal taken, rfl⟩
  | cons c rest ih =>
      by_cases star : c = '*'
      · subst star
        obtain ⟨run, tail, rfl, oneLine, further⟩ := matchesWildcard_star_iff.mp taken
        obtain ⟨start, rfl, begun⟩ := ih further
        refine ⟨run ++ start, by simp, matchesWildcard_star_iff.mpr ⟨run, start, rfl, oneLine, begun⟩⟩
      · obtain ⟨tail, rfl, further⟩ := (matchesWildcard_plain_iff star).mp taken
        obtain ⟨start, rfl, begun⟩ := ih further
        exact ⟨c :: start, rfl, (matchesWildcard_plain_iff star).mpr ⟨start, rfl, begun⟩⟩

theorem matchesWildcard_star_end {front text more : List Char} (oneLine : '\n' ∉ more)
    (taken : matchesWildcard (front ++ ['*']) text = true) :
    matchesWildcard (front ++ ['*']) (text ++ more) = true := by
  induction front generalizing text with
  | nil =>
      obtain ⟨run, rest, rfl, small, ended⟩ := matchesWildcard_star_iff.mp taken
      rw [matchesWildcard_nil_iff.mp ended, List.append_nil]
      refine matchesWildcard_star_iff.mpr ⟨run ++ more, [], by simp, ?_, rfl⟩
      exact List.not_mem_append small oneLine
  | cons c rest ih =>
      by_cases star : c = '*'
      · subst star
        obtain ⟨run, tail, rfl, small, further⟩ := matchesWildcard_star_iff.mp taken
        exact matchesWildcard_star_iff.mpr ⟨run, tail ++ more, by simp, small, ih further⟩
      · obtain ⟨tail, rfl, further⟩ := (matchesWildcard_plain_iff star).mp taken
        exact (matchesWildcard_plain_iff star).mpr ⟨tail ++ more, rfl, ih further⟩

end Text

namespace TimePattern

/-- Where the reader of a pattern gets to from its left end. -/
inductive ComesTo : List Char → List Char → Prop where
  | here {text : List Char} : ComesTo text text
  | specifier {text rest last : List Char} {pieces : List Piece} (known : specifier? text = some (pieces, rest))
      (further : ComesTo rest last) : ComesTo ('%' :: text) last
  | plain {c : Char} {text last : List Char} (other : c ≠ '%') (further : ComesTo text last) : ComesTo (c :: text) last

/-- Every specifier of a pattern is known and whole. -/
def AllKnown (text : List Char) : Prop :=
  ∀ rest, ComesTo text ('%' :: rest) → (specifier? rest).isSome = true

/-- A specifier ends with a letter, and the rest of the pattern follows it. -/
theorem specifier_suffix {text rest : List Char} {pieces : List Piece} (read : specifier? text = some (pieces, rest)) :
    ∃ letter, letter :: rest <:+ text := by
  rw [specifier?.eq_def] at read
  split at read
  case h_1 letter tail | h_2 letter tail | h_3 letter tail =>
    obtain ⟨_, -, same⟩ := Option.map_eq_some_iff.mp read
    cases same
    exact ⟨letter, List.suffix_cons ..⟩
  case h_15 letter tail _ _ _ _ _ _ _ _ _ _ _ _ _ _ =>
    obtain ⟨_, -, same⟩ := Option.map_eq_some_iff.mp read
    cases same
    exact ⟨letter, List.suffix_rfl⟩
  case h_16 => cases read
  all_goals
    cases read
    first
      | exact ⟨_, [_], rfl⟩
      | exact ⟨_, [_, _], rfl⟩
      | exact ⟨_, [_, _, _], rfl⟩

theorem allKnown_plain {c : Char} (other : c ≠ '%') {text : List Char} : AllKnown (c :: text) ↔ AllKnown text := by
  constructor
  · exact fun known rest reached => known rest (.plain other reached)
  · intro known rest reached
    cases reached with
    | here => exact absurd rfl other
    | specifier => exact absurd rfl other
    | plain _ further => exact known rest further

theorem allKnown_dropWhile {keep : Char → Bool} (plain : keep '%' = false) {text : List Char} :
    AllKnown (text.dropWhile keep) ↔ AllKnown text := by
  induction text with
  | nil => rfl
  | cons c rest ih =>
      by_cases kept : keep c = true
      · have other : c ≠ '%' := by
          rintro rfl
          exact absurd (plain.symm.trans kept) (by decide)
        rw [List.dropWhile_cons_of_pos kept, ih, allKnown_plain other]
      · rw [List.dropWhile_cons_of_neg kept]

theorem allKnown_specifier {text : List Char} :
    AllKnown ('%' :: text) ↔ ∃ pieces rest, specifier? text = some (pieces, rest) ∧ AllKnown rest := by
  constructor
  · intro known
    obtain ⟨⟨pieces, rest⟩, read⟩ := Option.isSome_iff_exists.mp (known text .here)
    exact ⟨pieces, rest, read, fun last reached => known last (.specifier read reached)⟩
  · rintro ⟨pieces, rest, read, known⟩ last reached
    cases reached with
    | here => simp [read]
    | specifier same further =>
        cases read.symm.trans same
        exact known last further
    | plain other => exact absurd rfl other

theorem allKnown_nil : AllKnown [] := by
  rintro rest ⟨⟩

/-- Nothing but its specifiers keeps a pattern from being read. -/
theorem read_isSome_iff {fuel : Nat} {text : List Char} (enough : text.length ≤ fuel) :
    (read? fuel text).isSome = true ↔ AllKnown text := by
  -- Every round takes at least one character, so the fuel lasts.
  induction fuel generalizing text with
  | zero =>
      cases List.length_eq_zero_iff.mp (Nat.le_zero.mp enough)
      exact iff_of_true rfl allKnown_nil
  | succ fuel ih =>
      cases text with
      | nil => exact iff_of_true rfl allKnown_nil
      | cons c rest =>
          have shorter : rest.length ≤ fuel := Nat.le_of_succ_le_succ enough
          have run : ∀ (keep : Char → Bool) (piece : Piece), keep '%' = false → c ≠ '%' →
              (((read? fuel (rest.dropWhile keep)).bind fun more => some (piece :: more)).isSome = true ↔
                AllKnown (c :: rest)) := by
            intro keep piece plain other
            have behind := ih ((List.dropWhile_sublist keep).length_le.trans shorter)
            rw [Option.isSome_bind, allKnown_plain other, ← allKnown_dropWhile plain, ← behind]
            simp
          rw [read?]
          split
          · next percent =>
              subst percent
              rw [allKnown_specifier]
              cases read : specifier? rest with
              | none => simp
              | some found =>
                  obtain ⟨pieces, tail⟩ := found
                  obtain ⟨letter, suffix⟩ := specifier_suffix read
                  have taken : tail.length < rest.length := suffix.length_le
                  have behind := ih (taken.le.trans shorter)
                  simp [Option.isSome_bind, behind]
          · next other =>
              split
              · exact run _ _ (by decide) other
              · exact run _ _ (by decide) other

theorem isValid_iff {pattern : String} : isValid pattern = true ↔ AllKnown pattern.toList :=
  read_isSome_iff (Nat.le_refl _)

/-- A text without a line feed. -/
def OneLine (text : String) : Prop :=
  '\n' ∉ text.toList

theorem OneLine.append {front back : String} (first : OneLine front) (second : OneLine back) :
    OneLine (front ++ back) := by
  rw [OneLine, String.toList_append]
  exact List.not_mem_append first second

theorem oneLine_nat (n : Nat) : OneLine (toString n) := by
  intro member
  have digit : '\n' ∈ Nat.toDigits 10 n := by simpa using member
  exact absurd (Nat.isDigit_of_mem_toDigits (by decide) (by decide) digit) (by decide)

theorem OneLine.padLeft {text : String} (small : OneLine text) {fill : Char} (plain : fill ≠ '\n') (width : Nat) :
    OneLine (padLeft fill width text) := by
  refine OneLine.append ?_ small
  rw [OneLine, String.toList_ofList]
  intro member
  exact plain (List.eq_of_mem_replicate member).symm

theorem oneLine_twoDigits (padding : Padding) (n : Nat) : OneLine (twoDigits padding n) := by
  cases padding with
  | none => exact oneLine_nat n
  | zero => exact (oneLine_nat n).padLeft (by decide) 2
  | blank => exact (oneLine_nat n).padLeft (by decide) 2

theorem oneLine_signed (padding : Padding) (width : Nat) (n : Int) : OneLine (signed padding width n) := by
  have sign : OneLine (if n < 0 then "-" else "") := by
    split <;> simp [OneLine]
  cases padding with
  | none => exact sign.append (oneLine_nat _)
  | zero => exact sign.append ((oneLine_nat _).padLeft (by decide) _)
  | blank => exact (sign.append (oneLine_nat _)).padLeft (by decide) _

theorem oneLine_yearText (padding : Padding) (year : Int) : OneLine (yearText padding year) := by
  have sign : OneLine (if year < 0 then "-" else "+") := by
    split <;> simp [OneLine]
  rw [yearText]
  split
  · exact oneLine_signed padding 4 year
  · cases padding with
    | none => exact sign.append (oneLine_nat _)
    | zero => exact sign.append ((oneLine_nat _).padLeft (by decide) _)
    | blank => exact (sign.append (oneLine_nat _)).padLeft (by decide) _

theorem oneLine_field (f : Field) (padding : Padding) (i : Instant) : OneLine (f.text padding i) := by
  cases f with
  | year | isoYear => exact oneLine_yearText _ _
  | quarter | daysFromSunday | dayOfWeek => exact oneLine_nat _
  | ordinal | nanosecond | timestamp => exact oneLine_signed _ _ _
  | century | yearOfCentury | isoYearOfCentury | month | day | weekFromSunday | weekFromMonday | isoWeek
  | hour | hourOfHalfDay | minute | second => exact oneLine_twoDigits _ _

theorem oneLine_getD {words : List String} (each : ∀ word ∈ words, OneLine word) (n : Nat) :
    OneLine (words.getD n "") := by
  rw [List.getD_eq_getElem?_getD]
  cases found : words[n]? with
  | none => simp [OneLine]
  | some word => exact each word (List.mem_of_getElem? found)

theorem oneLine_monthName (d : Date) : OneLine (monthName d) := by
  apply oneLine_getD
  simp [monthNames, OneLine]

theorem oneLine_weekdayName (d : Date) : OneLine (weekdayName d) := by
  apply oneLine_getD
  simp [weekdayNames, OneLine]

theorem OneLine.short {name : String} (small : OneLine name) : OneLine (short name) := by
  rw [OneLine, TimePattern.short, String.toList_ofList]
  exact fun member => small (List.mem_of_mem_take member)

theorem oneLine_fractionDigits (places nanos : Nat) : OneLine (fractionDigits places nanos) :=
  (oneLine_nat _).padLeft (by decide) places

theorem oneLine_fractionText (nanos : Nat) : OneLine (fractionText nanos) := by
  have point : OneLine "." := by simp [OneLine]
  simp only [fractionText]
  split
  · simp [OneLine]
  · split
    · exact point.append (oneLine_fractionDigits _ _)
    · split
      · exact point.append (oneLine_fractionDigits _ _)
      · exact point.append (oneLine_fractionDigits _ _)

theorem oneLine_fullText (i : Instant) : OneLine (fullText i) := by
  have mark : ∀ c, c ≠ '\n' → OneLine (String.singleton c) := by
    intro c plain
    simp [OneLine, plain.symm]
  have offset : OneLine "+00:00" := by simp [OneLine]
  have date := ((((oneLine_yearText .zero i.date.year).append (mark '-' (by decide))).append
    (oneLine_field .month .zero i)).append (mark '-' (by decide))).append (oneLine_field .day .zero i)
  have clock := ((((date.append (mark 'T' (by decide))).append (oneLine_field .hour .zero i)).append
    (mark ':' (by decide))).append (oneLine_field .minute .zero i)).append (mark ':' (by decide))
  exact ((clock.append (oneLine_field .second .zero i)).append (oneLine_fractionText i.nanos)).append offset

theorem oneLine_wording {w : Wording} {i : Instant} {text : String} (written : w.text? i = some text) :
    OneLine text := by
  cases w with
  | shortMonth => exact Option.some.inj written ▸ (oneLine_monthName i.date).short
  | longMonth => exact Option.some.inj written ▸ oneLine_monthName i.date
  | shortWeekday => exact Option.some.inj written ▸ (oneLine_weekdayName i.date).short
  | longWeekday => exact Option.some.inj written ▸ oneLine_weekdayName i.date
  | fraction => exact Option.some.inj written ▸ oneLine_fractionText i.nanos
  | fractionOf places =>
      have point : OneLine "." := by simp [OneLine]
      exact Option.some.inj written ▸ point.append (oneLine_fractionDigits places i.nanos)
  | bareFraction places => exact Option.some.inj written ▸ oneLine_fractionDigits places i.nanos
  | full => exact Option.some.inj written ▸ oneLine_fullText i
  | lowerHalfDay | upperHalfDay =>
      rw [← Option.some.inj written]
      split <;> simp [OneLine]
  | zoneName | offset | offsetColon | offsetSeconds | offsetHours =>
      rw [← Option.some.inj written]
      simp [OneLine]
  | offsetAnyForm => cases written

/-- The marks after the last star of a wildcard may be left out where more of the line follows. -/
theorem matchesWildcard_without_marks {reversed front start more : List Char}
    (cut : reversed.dropWhile isJoint = '*' :: front) (oneLine : '\n' ∉ more)
    (taken : Text.matchesWildcard reversed.reverse start = true) :
    Text.matchesWildcard ('*' :: front).reverse (start ++ more) = true := by
  have marks : ∀ c ∈ reversed.takeWhile isJoint, isJoint c = true := List.all_eq_true.mp List.all_takeWhile
  have unmarked : ∀ c, isJoint c = false → c ∉ (reversed.takeWhile isJoint).reverse := by
    intro c other member
    rw [marks c (List.mem_reverse.mp member)] at other
    cases other
  have whole : reversed.reverse = ('*' :: front).reverse ++ (reversed.takeWhile isJoint).reverse := by
    rw [← List.reverse_append, ← cut, List.takeWhile_append_dropWhile]
  rw [whole] at taken
  obtain ⟨begun, rfl, before⟩ := Text.matchesWildcard_plain_end (unmarked '*' (by decide)) taken
  rw [List.reverse_cons] at before
  rw [List.reverse_cons, List.append_assoc]
  exact Text.matchesWildcard_star_end (List.not_mem_append (unmarked '\n' (by decide)) oneLine) before

theorem addWildcard_specified {reversed start : List Char} {text : String} (oneLine : OneLine text)
    (taken : Text.matchesWildcard reversed.reverse start = true) :
    Text.matchesWildcard
      (if (reversed.dropWhile isJoint).head? = some '*' then reversed.dropWhile isJoint
        else '*' :: reversed).reverse (start ++ text.toList) = true := by
  split
  · next starred =>
      obtain ⟨front, cut⟩ := List.head?_eq_some_iff.mp starred
      rw [cut]
      exact matchesWildcard_without_marks cut oneLine taken
  · rw [List.reverse_cons]
    exact Text.matchesWildcard_join taken (Routing.matchesWildcard_star oneLine)

theorem addWildcard_literal (chars : List Char) {reversed start : List Char}
    (taken : Text.matchesWildcard reversed.reverse start = true) :
    Text.matchesWildcard (chars.reverse ++ reversed).reverse (start ++ (String.ofList chars).toList) = true := by
  have self : Text.matchesWildcard chars chars = true := by
    have extended : Text.matchesWildcard (chars ++ []) (chars ++ []) = true :=
      Routing.matchesWildcard_same_start rfl
    simpa using extended
  rw [List.reverse_append, List.reverse_reverse, String.toList_ofList]
  exact Text.matchesWildcard_join taken self

/-- What a piece adds to a name, the wildcard takes in with what it has for the piece. -/
theorem addWildcard_matches {p : Piece} {i : Instant} {text : String} (written : p.text? i = some text)
    {reversed start : List Char} (taken : Text.matchesWildcard reversed.reverse start = true) :
    Text.matchesWildcard (addWildcard reversed p).reverse (start ++ text.toList) = true := by
  cases p with
  | literal chars | space chars =>
      rw [← Option.some.inj written]
      exact addWildcard_literal chars taken
  | field f padding => exact addWildcard_specified (Option.some.inj written ▸ oneLine_field f padding i) taken
  | wording w => exact addWildcard_specified (oneLine_wording written) taken

theorem expandPieces_matches {pieces : List Piece} {i : Instant} {texts : List String}
    (written : (pieces.mapM fun (p : Piece) => p.text? i) = some texts) {reversed start : List Char}
    (taken : Text.matchesWildcard reversed.reverse start = true) :
    Text.matchesWildcard (pieces.foldl addWildcard reversed).reverse
      (start ++ (texts.map String.toList).flatten) = true := by
  -- On the pieces, for everything that may stand before them.
  induction pieces generalizing texts reversed start with
  | nil =>
      cases written
      simpa using taken
  | cons p rest ih =>
      rw [List.mapM_cons] at written
      obtain ⟨text, first, written⟩ := Option.bind_eq_some_iff.mp written
      obtain ⟨others, later, written⟩ := Option.bind_eq_some_iff.mp written
      cases written
      rw [List.foldl_cons, List.map_cons, List.flatten_cons, ← List.append_assoc]
      exact ih later (addWildcard_matches first taken)

/-- Whatever name a pattern gives, its wildcard takes it in. -/
theorem wildcard_matches {pattern name : String} {i : Instant} (expanded : expand? pattern i = some name) :
    Text.matchesWildcard (wildcard pattern).toList name.toList = true := by
  obtain ⟨pieces, parsed, expanded⟩ := Option.bind_eq_some_iff.mp expanded
  obtain ⟨texts, written, rfl⟩ := Option.map_eq_some_iff.mp expanded
  rw [wildcard, parsed, Option.getD_some, String.toList_ofList, String.toList_join]
  have nothing : Text.matchesWildcard ([] : List Char).reverse [] = true := rfl
  exact expandPieces_matches written nothing

theorem text_of_writable {p : Piece} (writable : p ≠ .wording .offsetAnyForm) (i : Instant) :
    ∃ text, p.text? i = some text := by
  cases p with
  | literal chars | space chars => exact ⟨_, rfl⟩
  | field f padding => exact ⟨_, rfl⟩
  | wording w =>
      cases w with
      | offsetAnyForm => exact absurd rfl writable
      | _ => exact ⟨_, rfl⟩

theorem texts_of_writable {pieces : List Piece} (writable : .wording .offsetAnyForm ∉ pieces) (i : Instant) :
    ∃ texts, (pieces.mapM fun (p : Piece) => p.text? i) = some texts := by
  induction pieces with
  | nil => exact ⟨[], rfl⟩
  | cons p rest ih =>
      obtain ⟨text, first⟩ := text_of_writable (fun same => writable (same ▸ List.mem_cons_self)) i
      obtain ⟨texts, later⟩ := ih fun member => writable (List.mem_cons_of_mem p member)
      refine ⟨text :: texts, ?_⟩
      rw [List.mapM_cons, first, later]
      rfl

/-- Only an offset that has no written form keeps a pattern from giving a name. -/
theorem expand_of_writable {pattern : String} {pieces : List Piece} (parsed : parse? pattern = some pieces)
    (writable : .wording .offsetAnyForm ∉ pieces) (i : Instant) : ∃ name, expand? pattern i = some name := by
  obtain ⟨texts, written⟩ := texts_of_writable writable i
  refine ⟨String.join texts, ?_⟩
  rw [expand?, parsed, Option.bind_some, expandPieces?, written]
  rfl

theorem writable_of_texts {pieces : List Piece} {i : Instant} {texts : List String}
    (written : (pieces.mapM fun (p : Piece) => p.text? i) = some texts) : .wording .offsetAnyForm ∉ pieces := by
  induction pieces generalizing texts with
  | nil => exact List.not_mem_nil
  | cons p rest ih =>
      rw [List.mapM_cons] at written
      obtain ⟨text, first, written⟩ := Option.bind_eq_some_iff.mp written
      obtain ⟨others, later, -⟩ := Option.bind_eq_some_iff.mp written
      intro member
      rcases List.mem_cons.mp member with rfl | further
      · cases first
      · exact ih later further

theorem expand_isSome_iff {pattern : String} {pieces : List Piece} (parsed : parse? pattern = some pieces) (i : Instant) :
    (∃ name, expand? pattern i = some name) ↔ .wording .offsetAnyForm ∉ pieces := by
  refine ⟨?_, fun writable => expand_of_writable parsed writable i⟩
  rintro ⟨name, expanded⟩
  rw [expand?, parsed, Option.bind_some] at expanded
  obtain ⟨texts, written, -⟩ := Option.map_eq_some_iff.mp expanded
  exact writable_of_texts written

end TimePattern

end DocMapper
