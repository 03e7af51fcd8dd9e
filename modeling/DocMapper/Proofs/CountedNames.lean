import DocMapper.Proofs.SeriesCalls
/-!
What number comes after a number. A name goes on to the next number, in as many digits as it has
itself and no fewer than six, or meets a name that is taken. The largest number a name may hold
has no next one: it meets its own name. A name with a larger number counts as none of the series,
so that the series would start over; counting up from the first index never gets there.
-/

namespace DocMapper.Routing

/-- The name that has these digits behind the prefix. -/
def numberedName (indexPrefix : String) (digits : List Char) : String :=
  indexPrefix ++ "-" ++ String.ofList digits

/-- The digits of the next number. -/
def nextDigits (digits : List Char) : List Char :=
  paddedDigits (max digits.length generationWidth) (valueOf digits + 1)

/-- The name after one with these digits is taken, or it has the next number, written no shorter, and is free. -/
def CountsUp (t : DocumentType) (indexPrefix : String) (digits : List Char) (existing : List String) : Prop :=
  let current := numberedName indexPrefix digits
  (∃ taken, rolloverTarget t current existing = .error (.collision taken)) ∨
    ∃ next, IsNumeral next ∧ max generationWidth digits.length ≤ next.length ∧ valueOf next = valueOf digits + 1 ∧
      rolloverTarget t current existing = .ok (numberedName indexPrefix next) ∧
      numberedName indexPrefix next ≠ current ∧ numberedName indexPrefix next ∉ existing

/-- Names that follow one another from the first index on, the newest in front. What else there is may
differ from one to the next. -/
inductive Succession (t : DocumentType) : List String → Prop where
  | start {first : String} (initial : initialIndex t = some first) : Succession t [first]
  | next {current target : String} {older existing : List String} (before : Succession t (current :: older))
      (chosen : rolloverTarget t current existing = .ok target) : Succession t (target :: current :: older)

/-- Both names have numbers, and the first one's is larger. -/
def Later (indexPrefix name older : String) : Prop :=
  ∃ digits fewer, IsNumeral digits ∧ IsNumeral fewer ∧ name = numberedName indexPrefix digits ∧
    older = numberedName indexPrefix fewer ∧ valueOf fewer < valueOf digits

/-! ## Digits and values -/

theorem valueOf_cons (c : Char) (rest : List Char) :
    valueOf (c :: rest) = 10 ^ rest.length * (c.toNat - '0'.toNat) + valueOf rest := by
  rw [valueOf, Nat.ofDigitChars_cons, Nat.ofDigitChars_eq_ofDigitChars_zero, Nat.mul_zero, Nat.zero_add, valueOf]

theorem digit_bounds {c : Char} (digit : c.isDigit = true) : 48 ≤ c.toNat ∧ c.toNat - 48 ≤ 9 := by
  have bounds : 48 ≤ c.toNat ∧ c.toNat ≤ 57 := Char.isDigit_iff_toNat.mp digit
  omega

theorem valueOf_lt {digits : List Char} (all : ∀ c ∈ digits, c.isDigit = true) :
    valueOf digits < 10 ^ digits.length := by
  induction digits with
  | nil => decide
  | cons c rest ih =>
      obtain ⟨digit, others⟩ := List.forall_mem_cons.mp all
      have small : c.toNat - '0'.toNat ≤ 9 := (digit_bounds digit).2
      have front : 10 ^ rest.length * (c.toNat - '0'.toNat) ≤ 10 ^ rest.length * 9 := Nat.mul_le_mul_left _ small
      have back := ih others
      rw [valueOf_cons, List.length_cons, Nat.pow_succ]
      omega

/-- In front of as many digits, a first digit is told by the number. -/
theorem valueOf_cons_inj {c d : Char} {first second : List Char} (digits : ∀ e ∈ c :: first, e.isDigit = true)
    (others : ∀ e ∈ d :: second, e.isDigit = true) (long : first.length = second.length)
    (same : valueOf (c :: first) = valueOf (d :: second)) : c = d ∧ valueOf first = valueOf second := by
  obtain ⟨digit, rest⟩ := List.forall_mem_cons.mp digits
  obtain ⟨other, more⟩ := List.forall_mem_cons.mp others
  have below := valueOf_lt rest
  have belowOther := valueOf_lt more
  rw [valueOf_cons, valueOf_cons, ← long] at same
  rw [← long] at belowOther
  have quotients := congrArg (· / 10 ^ first.length) same
  have remainders := congrArg (· % 10 ^ first.length) same
  simp only [Nat.mul_add_div (Nat.pow_pos (by decide : 0 < 10)), Nat.div_eq_of_lt below,
    Nat.div_eq_of_lt belowOther, Nat.add_zero] at quotients
  simp only [Nat.mul_add_mod, Nat.mod_eq_of_lt below, Nat.mod_eq_of_lt belowOther] at remainders
  have one : 48 ≤ c.toNat := (digit_bounds digit).1
  have two : 48 ≤ d.toNat := (digit_bounds other).1
  have spelled : c.toNat - 48 = d.toNat - 48 := quotients
  exact ⟨Char.toNat_inj.mp (by omega), remainders⟩

/-- Digits of one length that spell one number are the same. -/
theorem eq_of_valueOf {first second : List Char} (digits : ∀ c ∈ first, c.isDigit = true)
    (others : ∀ c ∈ second, c.isDigit = true) (long : first.length = second.length)
    (same : valueOf first = valueOf second) : first = second := by
  induction first generalizing second with
  | nil => exact (List.length_eq_zero_iff.mp long.symm).symm
  | cons c rest ih =>
      cases second with
      | nil => cases long
      | cons d more =>
          have alike : rest.length = more.length := Nat.succ.inj long
          obtain ⟨rfl, equal⟩ := valueOf_cons_inj digits others alike same
          rw [ih (List.forall_mem_cons.mp digits).2 (List.forall_mem_cons.mp others).2 alike equal]

theorem toDigits_length_le {digits : List Char} (numeral : IsNumeral digits) :
    (Nat.toDigits 10 (valueOf digits)).length ≤ digits.length :=
  (Nat.length_toDigits_le_iff (by decide) (List.length_pos_iff.mpr numeral.written)).mpr (valueOf_lt numeral.digits)

theorem paddedDigits_valueOf {digits : List Char} (numeral : IsNumeral digits) :
    paddedDigits digits.length (valueOf digits) = digits := by
  refine eq_of_valueOf (paddedDigits_digits _ _) numeral.digits ?_ (valueOf_paddedDigits _ _)
  rw [paddedDigits_length, max_eq_left (toDigits_length_le numeral)]

/-! ## The next name -/

theorem toList_numberedName (indexPrefix : String) (digits : List Char) :
    (numberedName indexPrefix digits).toList = indexPrefix.toList ++ '-' :: digits := by
  simp [numberedName]

theorem numberedName_injective (indexPrefix : String) {first second : List Char}
    (same : numberedName indexPrefix first = numberedName indexPrefix second) : first = second := by
  have texts := congrArg String.toList same
  rw [toList_numberedName, toList_numberedName] at texts
  exact List.tail_eq_of_cons_eq (List.append_cancel_left texts)

theorem generationName_eq (indexPrefix : String) (width generation : Nat) :
    generationName indexPrefix width generation = numberedName indexPrefix (paddedDigits width generation) := by
  rw [← String.toList_inj, toList_generationName, toList_numberedName]

variable {indexPrefix : String} {digits : List Char}

theorem nextDigits_numeral (digits : List Char) : IsNumeral (nextDigits digits) :=
  paddedDigits_numeral _ _

theorem valueOf_nextDigits (digits : List Char) : valueOf (nextDigits digits) = valueOf digits + 1 :=
  valueOf_paddedDigits _ _

theorem nextDigits_ne (indexPrefix : String) (digits : List Char) :
    numberedName indexPrefix (nextDigits digits) ≠ numberedName indexPrefix digits := by
  intro same
  have values := congrArg valueOf (numberedName_injective indexPrefix same)
  rw [valueOf_nextDigits] at values
  omega

theorem le_length_nextDigits (digits : List Char) :
    max generationWidth digits.length ≤ (nextDigits digits).length := by
  rw [nextDigits, paddedDigits_length]
  omega

theorem nextName_below (numeral : IsNumeral digits) (below : valueOf digits < generationLimit) :
    nextName indexPrefix (numberedName indexPrefix digits) = numberedName indexPrefix (nextDigits digits) := by
  rw [nextName, generationOf?_numeral (toList_numberedName indexPrefix digits) numeral, if_pos (Nat.le_of_lt below)]
  dsimp only
  rw [min_eq_left below, generationName_eq, nextDigits]

theorem nextName_last (numeral : IsNumeral digits) (last : valueOf digits = generationLimit) :
    nextName indexPrefix (numberedName indexPrefix digits) = numberedName indexPrefix digits := by
  have long : generationWidth ≤ digits.length := by
    have needed := toDigits_length_le numeral
    rw [last] at needed
    exact le_trans (by decide) needed
  rw [nextName, generationOf?_numeral (toList_numberedName indexPrefix digits) numeral, if_pos last.le]
  dsimp only
  rw [max_eq_left long, last, min_eq_right (Nat.le_succ _), ← last, generationName_eq, paddedDigits_valueOf numeral]

theorem nextName_beyond (numeral : IsNumeral digits) (beyond : generationLimit < valueOf digits) :
    nextName indexPrefix (numberedName indexPrefix digits) = seriesName indexPrefix 1 := by
  rw [nextName, generationOf?_numeral (toList_numberedName indexPrefix digits) numeral, if_neg (Nat.not_le.mpr beyond)]
  rfl

/-! ## The target of a rollover -/

section Targets

variable {t : DocumentType} {aliases : RolloverAliases} {conditions : RolloverConditions}

theorem rolloverTarget_eq_ite (backed : t.addressing = .rollover aliases conditions) (current : String)
    (existing : List String) :
    rolloverTarget t current existing =
      if nextName aliases.indexPrefix current = current ∨ nextName aliases.indexPrefix current ∈ existing then
        .error (.collision ⟨t.name, nextName aliases.indexPrefix current⟩)
      else .ok (nextName aliases.indexPrefix current) := by
  rw [rolloverTarget, backed]
  simp only [Bool.or_eq_true, decide_eq_true_eq, List.contains_iff_mem]

theorem rolloverTarget_below (backed : t.addressing = .rollover aliases conditions) (numeral : IsNumeral digits)
    (below : valueOf digits < generationLimit) (existing : List String) :
    rolloverTarget t (numberedName aliases.indexPrefix digits) existing =
      if numberedName aliases.indexPrefix (nextDigits digits) ∈ existing then
        .error (.collision ⟨t.name, numberedName aliases.indexPrefix (nextDigits digits)⟩)
      else .ok (numberedName aliases.indexPrefix (nextDigits digits)) := by
  rw [rolloverTarget_eq_ite backed, nextName_below numeral below]
  simp only [nextDigits_ne aliases.indexPrefix digits, false_or]

theorem rolloverTarget_beyond (backed : t.addressing = .rollover aliases conditions) (numeral : IsNumeral digits)
    (beyond : generationLimit < valueOf digits) (existing : List String) :
    rolloverTarget t (numberedName aliases.indexPrefix digits) existing =
      if seriesName aliases.indexPrefix 1 ∈ existing then .error (.collision ⟨t.name, seriesName aliases.indexPrefix 1⟩)
      else .ok (seriesName aliases.indexPrefix 1) := by
  have apart : seriesName aliases.indexPrefix 1 ≠ numberedName aliases.indexPrefix digits := by
    rw [seriesName, generationName_eq]
    intro same
    have values := congrArg valueOf (numberedName_injective _ same)
    rw [valueOf_paddedDigits] at values
    rw [← values] at beyond
    exact absurd beyond (by decide)
  rw [rolloverTarget_eq_ite backed, nextName_beyond numeral beyond]
  simp only [apart, false_or]

theorem countsUp_iff (backed : t.addressing = .rollover aliases conditions) (numeral : IsNumeral digits)
    (existing : List String) :
    CountsUp t aliases.indexPrefix digits existing ↔
      valueOf digits ≤ generationLimit ∨ seriesName aliases.indexPrefix 1 ∈ existing := by
  -- Below the limit the number grows, at the limit the name repeats, beyond it the series starts over.
  rcases Nat.lt_trichotomy (valueOf digits) generationLimit with below | last | beyond
  · refine iff_of_true ?_ (.inl below.le)
    have target := rolloverTarget_below backed numeral below existing
    by_cases taken : numberedName aliases.indexPrefix (nextDigits digits) ∈ existing
    · exact .inl ⟨_, target.trans (if_pos taken)⟩
    · refine .inr ⟨nextDigits digits, nextDigits_numeral digits, le_length_nextDigits digits, valueOf_nextDigits digits,
        target.trans (if_neg taken), nextDigits_ne aliases.indexPrefix digits, taken⟩
  · refine iff_of_true (.inl ⟨⟨t.name, numberedName aliases.indexPrefix digits⟩, ?_⟩) (.inl last.le)
    rw [rolloverTarget_eq_ite backed, nextName_last numeral last, if_pos (.inl rfl)]
  · have target := rolloverTarget_beyond backed numeral beyond existing
    rw [or_iff_right (Nat.not_le.mpr beyond)]
    by_cases taken : seriesName aliases.indexPrefix 1 ∈ existing
    · exact iff_of_true (.inl ⟨_, target.trans (if_pos taken)⟩) taken
    · refine iff_of_false ?_ taken
      rw [if_neg taken] at target
      rintro (⟨_, refused⟩ | ⟨next, -, -, value, chosen, -, -⟩)
      · cases target.symm.trans refused
      · -- The only numeral it could be is that of the first index.
        have same := Except.ok.inj (target.symm.trans chosen)
        rw [seriesName, generationName_eq] at same
        rw [← numberedName_injective _ same, valueOf_paddedDigits] at value
        omega

/-! ## Counting up from the first index -/

/-- The first so many names of a series, the newest in front. -/
def countedNames (indexPrefix : String) : Nat → List String
  | 0 => []
  | n + 1 => seriesName indexPrefix (n + 1) :: countedNames indexPrefix n

theorem countedNames_length (indexPrefix : String) (n : Nat) : (countedNames indexPrefix n).length = n := by
  induction n with
  | zero => rfl
  | succ n ih => rw [countedNames, List.length_cons, ih]

theorem mem_countedNames {indexPrefix name : String} {n : Nat} (member : name ∈ countedNames indexPrefix n) :
    ∃ k, k ≤ n ∧ name = seriesName indexPrefix k := by
  induction n with
  | zero => cases member
  | succ n ih =>
      rcases List.mem_cons.mp member with newest | older
      · exact ⟨n + 1, Nat.le_refl _, newest⟩
      · obtain ⟨k, small, same⟩ := ih older
        exact ⟨k, Nat.le_succ_of_le small, same⟩

theorem later_seriesName (indexPrefix : String) {first second : Nat} (below : first < second) :
    Later indexPrefix (seriesName indexPrefix second) (seriesName indexPrefix first) := by
  refine ⟨paddedDigits generationWidth second, paddedDigits generationWidth first, paddedDigits_numeral _ _,
    paddedDigits_numeral _ _, generationName_eq _ _ _, generationName_eq _ _ _, ?_⟩
  rwa [valueOf_paddedDigits, valueOf_paddedDigits]

theorem countedNames_later (indexPrefix : String) (n : Nat) :
    (countedNames indexPrefix n).Pairwise (Later indexPrefix) := by
  induction n with
  | zero => exact List.Pairwise.nil
  | succ n ih =>
      refine List.pairwise_cons.mpr ⟨fun older member => ?_, ih⟩
      obtain ⟨k, small, rfl⟩ := mem_countedNames member
      exact later_seriesName indexPrefix (Nat.lt_succ_of_le small)

theorem Later.ne {indexPrefix name older : String} (later : Later indexPrefix name older) : name ≠ older := by
  obtain ⟨digits, fewer, -, -, rfl, rfl, below⟩ := later
  intro same
  rw [numberedName_injective indexPrefix same] at below
  exact lt_irrefl _ below

/-- The first index is followed by the second one, and so on up to the largest number a name may hold. -/
theorem succession_iff (backed : t.addressing = .rollover aliases conditions) {names : List String} :
    Succession t names ↔ ∃ n, 1 ≤ n ∧ n ≤ generationLimit ∧ names = countedNames aliases.indexPrefix n := by
  constructor
  · intro run
    induction run with
    | start initial =>
        rw [initialIndex_rollover backed] at initial
        cases initial
        exact ⟨1, Nat.le_refl 1, by decide, rfl⟩
    | @next current target older existing before chosen ih =>
        obtain ⟨n, started, bounded, counted⟩ := ih
        obtain ⟨n, rfl⟩ := Nat.exists_eq_add_of_le' started
        obtain ⟨newest, rfl⟩ := List.cons.inj counted
        rw [rolloverTarget_eq_ite backed, newest, nextName_seriesName aliases.indexPrefix bounded] at chosen
        split at chosen
        · cases chosen
        · next free =>
            -- The last name a series can have is followed by itself, which is refused.
            have further : n + 1 < generationLimit := by
              by_contra last
              exact free (.inl (by rw [min_eq_right (by omega), Nat.le_antisymm (Nat.not_lt.mp last) bounded]))
            rw [min_eq_left further] at chosen
            refine ⟨n + 2, by omega, further, ?_⟩
            rw [← Except.ok.inj chosen, newest]
            rfl
  · rintro ⟨n, started, bounded, rfl⟩
    induction n, started using Nat.le_induction with
    | base => exact .start (initialIndex_rollover backed)
    | succ n started ih =>
        obtain ⟨n, rfl⟩ := Nat.exists_eq_add_of_le' started
        have next : nextName aliases.indexPrefix (seriesName aliases.indexPrefix (n + 1)) =
            seriesName aliases.indexPrefix (n + 2) := by
          rw [nextName_seriesName aliases.indexPrefix (by omega), min_eq_left bounded]
        have chosen : rolloverTarget t (seriesName aliases.indexPrefix (n + 1)) [] =
            .ok (seriesName aliases.indexPrefix (n + 2)) := by
          rw [rolloverTarget_eq_ite backed, next, if_neg]
          rintro (same | listed)
          · exact absurd (seriesName_injective aliases.indexPrefix same) (by omega)
          · cases listed
        exact (ih (by omega)).next chosen

/-- Rollovers count up. Unless the number is past the largest one a name may hold and the first index is
gone, the name after a name with a number is taken or has the next number; it has it where that name is
free and the number not the largest one. From the first index on, rollovers that succeed lead to
names with larger and larger numbers, and so to different ones, as far as a name may hold them. -/
theorem rollovers_count_up_iff (backed : t.addressing = .rollover aliases conditions) :
    (∀ digits existing, IsNumeral digits →
      (CountsUp t aliases.indexPrefix digits existing ↔
        valueOf digits ≤ generationLimit ∨ seriesName aliases.indexPrefix 1 ∈ existing)) ∧
    (∀ digits existing, IsNumeral digits → valueOf digits < generationLimit →
      numberedName aliases.indexPrefix (nextDigits digits) ∉ existing →
      rolloverTarget t (numberedName aliases.indexPrefix digits) existing =
        .ok (numberedName aliases.indexPrefix (nextDigits digits))) ∧
    (∀ names, Succession t names → names.Nodup ∧ names.Pairwise (Later aliases.indexPrefix)) ∧
    ∀ n, (∃ names, Succession t names ∧ names.length = n) ↔ 1 ≤ n ∧ n ≤ generationLimit := by
  refine ⟨fun digits existing numeral => countsUp_iff backed numeral existing, ?_, ?_, ?_⟩
  · intro digits existing numeral below free
    rw [rolloverTarget_below backed numeral below, if_neg free]
  · intro names run
    obtain ⟨n, -, -, rfl⟩ := (succession_iff backed).mp run
    have later := countedNames_later aliases.indexPrefix n
    exact ⟨later.imp Later.ne, later⟩
  · intro n
    constructor
    · rintro ⟨names, run, rfl⟩
      obtain ⟨n, started, bounded, rfl⟩ := (succession_iff backed).mp run
      rw [countedNames_length]
      exact ⟨started, bounded⟩
    · rintro ⟨started, bounded⟩
      exact ⟨_, (succession_iff backed).mpr ⟨n, started, bounded, rfl⟩, countedNames_length _ n⟩

theorem millionth_written_wider :
    IsNumeral "999999".toList ∧ CountsUp Rollover.logLines "logs" "999999".toList ["logs-999999"] ∧
      rolloverTarget Rollover.logLines "logs-999999" ["logs-999999"] = .ok "logs-1000000" := by
  have backed : Rollover.logLines.addressing = .rollover Rollover.logAliases ⟨none, some 1, none⟩ := rfl
  have numeral : IsNumeral "999999".toList := ⟨by decide, by simp⟩
  obtain ⟨counts, goesOn, -⟩ := rollovers_count_up_iff backed
  refine ⟨numeral, (counts _ _ numeral).mpr (.inl (by decide)), ?_⟩
  exact goesOn "999999".toList ["logs-999999"] numeral (by decide) (by decide)

/-- The number after the largest one a name may hold is not read as a number at all: the series starts
over, at a name that was in it long ago. -/
theorem number_past_largest_starts_over :
    ¬∀ (env : Environment) (config : TypeConfig) (t : DocumentType) (aliases : RolloverAliases)
      (conditions : RolloverConditions) (digits : List Char) (existing : List String),
      DocumentType.build env config = .ok t → t.addressing = .rollover aliases conditions → IsNumeral digits →
      CountsUp t aliases.indexPrefix digits existing := by
  intro countsUp
  have numeral : IsNumeral "18446744073709551616".toList := ⟨by decide, by simp⟩
  have counts := countsUp .empty Rollover.logLinesConfig Rollover.logLines Rollover.logAliases _
    "18446744073709551616".toList [] Rollover.build_logLines rfl numeral
  rcases (countsUp_iff rfl numeral []).mp counts with read | listed
  · exact absurd read (by decide)
  · cases listed

end Targets

end DocMapper.Routing
