import DocMapper.Query.MethodName
import Mathlib.Data.List.Infix
/-!
Cutting method names at words. A word counts only where a new word follows it. Pieces that are
joined by a word are the pieces found again, if the word does not count anywhere inside one, and
what has been cut can always be joined again.
-/

namespace DocMapper.MethodName

variable {word p q rest text : List Char}

/-- Whether a text starts with a word that a new word follows. -/
def opens (word text : List Char) : Bool :=
  match Text.after? word text with
  | some tail => beginsWord tail
  | none => false

theorem opens_iff : opens word text = true ↔ ∃ tail, text = word ++ tail ∧ beginsWord tail = true := by
  simp only [opens, ← Text.after?_eq_some_iff]
  cases Text.after? word text <;> simp

theorem opens_append (word tail : List Char) : opens word (word ++ tail) = beginsWord tail := by
  rw [opens, Text.after?_eq_some_iff.mpr rfl]

theorem beginsWord_append (begins : beginsWord p = true) (rest : List Char) :
    beginsWord (p ++ rest) = true := by
  cases p with
  | nil => cases begins
  | cons c p => exact begins

theorem beginsWord_intercalate {pieces : List (List Char)} (any : pieces ≠ [])
    (begins : ∀ p ∈ pieces, beginsWord p = true) : beginsWord (word.intercalate pieces) = true := by
  match pieces with
  | [] => exact absurd rfl any
  | [p] => simpa using begins p (by simp)
  | p :: q :: more =>
      rw [List.intercalate_cons_cons, List.append_assoc]
      exact beginsWord_append (begins p (by simp)) _

theorem cutAtWord?_cons (word : List Char) (c : Char) (rest : List Char) :
    cutAtWord? word (c :: rest) =
      if opens word (c :: rest) then (Text.after? word (c :: rest)).map fun tail => ([], tail)
      else (cutAtWord? word rest).map fun cut => (c :: cut.1, cut.2) := by
  rw [cutAtWord?, opens]
  cases Text.after? word (c :: rest) <;> simp

theorem splitFrom_ne_nil (word : List Char) (skipped : Nat) (text : List Char) :
    splitFrom word skipped text ≠ [] := by
  induction text generalizing skipped with
  | nil => simp [splitFrom]
  | cons c rest ih =>
      cases skipped with
      | succ skipped => exact ih skipped
      | zero => grind [splitFrom]

theorem splitFrom_cons (word : List Char) (c : Char) (rest : List Char) :
    splitFrom word 0 (c :: rest) =
      if opens word (c :: rest) then [] :: splitFrom word (word.length - 1) rest
      else (splitFrom word 0 rest).modifyHead (c :: ·) := by
  rw [splitFrom, opens]
  cases found : splitFrom word 0 rest with
  | nil => exact absurd found (splitFrom_ne_nil word 0 rest)
  | cons piece more => rfl

theorem splitFrom_skip (word skipped rest : List Char) :
    splitFrom word skipped.length (skipped ++ rest) = splitFrom word 0 rest := by
  induction skipped with
  | nil => rfl
  | cons c skipped ih => exact ih

theorem splitFrom_word (nonempty : word ≠ []) (begins : beginsWord rest = true) :
    splitFrom word 0 (word ++ rest) = [] :: splitFrom word 0 rest := by
  cases word with
  | nil => exact absurd rfl nonempty
  | cons c tail =>
      have here : opens (c :: tail) (c :: (tail ++ rest)) = true := (opens_append _ _).trans begins
      have skip := splitFrom_skip (c :: tail) tail rest
      rw [List.cons_append, splitFrom_cons, if_pos here]
      exact congrArg _ skip

/-- No part of a text, read on into what follows it, starts with a word that counts. -/
def Quiet (word : List Char) : List Char → List Char → Prop
  | [], _ => True
  | c :: p, rest => opens word (c :: (p ++ rest)) = false ∧ Quiet word p rest

theorem quiet_append : Quiet word (p ++ q) rest ↔ Quiet word p (q ++ rest) ∧ Quiet word q rest := by
  induction p with
  | nil => simp [Quiet]
  | cons c p ih => simp only [List.cons_append, Quiet, ih, List.append_assoc, and_assoc]

theorem splitFrom_append (quiet : Quiet word p rest) :
    splitFrom word 0 (p ++ rest) = (splitFrom word 0 rest).modifyHead (p ++ ·) := by
  induction p with
  | nil => exact (congrFun List.modifyHead_id _).symm
  | cons c p ih =>
      have dull : ¬opens word (c :: (p ++ rest)) = true := Bool.eq_false_iff.mp quiet.1
      rw [List.cons_append, splitFrom_cons, if_neg dull, ih quiet.2, List.modifyHead_modifyHead]
      rfl

theorem cutAtWord?_append (quiet : Quiet word p rest) :
    cutAtWord? word (p ++ rest) = (cutAtWord? word rest).map fun cut => (p ++ cut.1, cut.2) := by
  induction p with
  | nil => simp
  | cons c p ih =>
      have dull : ¬opens word (c :: (p ++ rest)) = true := Bool.eq_false_iff.mp quiet.1
      rw [List.cons_append, cutAtWord?_cons, if_neg dull, ih quiet.2, Option.map_map]
      rfl

theorem cutAtWord?_word (nonempty : word ≠ []) (begins : beginsWord rest = true) :
    cutAtWord? word (word ++ rest) = some ([], rest) := by
  cases word with
  | nil => exact absurd rfl nonempty
  | cons c tail =>
      have here : opens (c :: tail) (c :: (tail ++ rest)) = true := (opens_append _ _).trans begins
      rw [List.cons_append, cutAtWord?_cons, if_pos here, ← List.cons_append,
        Text.after?_eq_some_iff.mpr rfl]
      rfl

theorem splitFrom_intercalate {pieces : List (List Char)} (nonempty : word ≠ []) (any : pieces ≠ [])
    (begins : ∀ p ∈ pieces, beginsWord p = true)
    (quiet : ∀ p ∈ pieces, ∀ rest, rest = [] ∨ word <+: rest → Quiet word p rest) :
    splitFrom word 0 (word.intercalate pieces) = pieces := by
  induction pieces with
  | nil => exact absurd rfl any
  | cons p others ih =>
      cases others with
      | nil =>
          have alone := splitFrom_append (quiet p (by simp) [] (.inl rfl))
          simpa [splitFrom] using alone
      | cons next more =>
          have later := ih (by simp) (fun q member => begins q (List.mem_cons_of_mem p member))
            (fun q member => quiet q (List.mem_cons_of_mem p member))
          have tailBegins : beginsWord (word.intercalate (next :: more)) = true :=
            beginsWord_intercalate (by simp) fun q member => begins q (List.mem_cons_of_mem p member)
          rw [List.intercalate_cons_cons, List.append_assoc,
            splitFrom_append (quiet p (by simp) _ (.inr (List.prefix_append _ _))),
            splitFrom_word nonempty tailBegins, later]
          simp

theorem append_of_cutAtWord? {before after : List Char} (cut : cutAtWord? word text = some (before, after)) :
    text = before ++ word ++ after ∧ beginsWord after = true := by
  induction text generalizing before with
  | nil => cases cut
  | cons c rest ih =>
      rw [cutAtWord?_cons] at cut
      split at cut
      · next here =>
          obtain ⟨tail, same, begins⟩ := opens_iff.mp here
          rw [Text.after?_eq_some_iff.mpr same] at cut
          cases cut
          exact ⟨same, begins⟩
      · obtain ⟨⟨front, back⟩, later, same⟩ := Option.map_eq_some_iff.mp cut
        cases same
        obtain ⟨whole, begins⟩ := ih later
        exact ⟨congrArg (c :: ·) whole, begins⟩

/-- Whether a word stands somewhere in a text with a new word behind it. -/
def Counts (word text : List Char) : Prop :=
  ∃ before after, text = before ++ word ++ after ∧ beginsWord after = true

theorem counts_cons {c : Char} : Counts word (c :: rest) ↔ opens word (c :: rest) = true ∨ Counts word rest := by
  constructor
  · rintro ⟨before, after, same, begins⟩
    cases before with
    | nil => exact .inl (opens_iff.mpr ⟨after, same, begins⟩)
    | cons d before => exact .inr ⟨before, after, (List.cons.inj same).2, begins⟩
  · rintro (here | ⟨before, after, same, begins⟩)
    · obtain ⟨after, same, begins⟩ := opens_iff.mp here
      exact ⟨[], after, same, begins⟩
    · exact ⟨c :: before, after, congrArg (c :: ·) same, begins⟩

theorem cutAtWord?_eq_none_iff : cutAtWord? word text = none ↔ ¬Counts word text := by
  induction text with
  | nil =>
      refine ⟨fun _ ⟨before, after, same, begins⟩ => ?_, fun _ => rfl⟩
      have empty := List.append_eq_nil_iff.mp same.symm
      rw [empty.2] at begins
      cases begins
  | cons c rest ih =>
      rw [cutAtWord?_cons, counts_cons]
      by_cases here : opens word (c :: rest) = true
      · obtain ⟨tail, same, -⟩ := opens_iff.mp here
        simp [here, Text.after?_eq_some_iff.mpr same]
      · simp [here, ih]

theorem intercalate_modifyHead {pieces : List (List Char)} (any : pieces ≠ []) (c : Char) :
    word.intercalate (pieces.modifyHead (c :: ·)) = c :: word.intercalate pieces := by
  cases pieces with
  | nil => exact absurd rfl any
  | cons p others => cases others <;> simp

theorem intercalate_splitFrom_drop (nonempty : word ≠ []) (skipped : Nat) (text : List Char) :
    word.intercalate (splitFrom word skipped text) = text.drop skipped := by
  induction text generalizing skipped with
  | nil => simp [splitFrom]
  | cons c rest ih =>
      cases skipped with
      | succ skipped => exact ih skipped
      | zero =>
          rw [splitFrom_cons]
          split
          · next here =>
              obtain ⟨tail, same, -⟩ := opens_iff.mp here
              obtain ⟨first, others, cut⟩ :=
                List.exists_cons_of_ne_nil (splitFrom_ne_nil word (word.length - 1) rest)
              have later := ih (word.length - 1)
              -- The cut skips what is left of the word.
              have left : rest.drop (word.length - 1) = tail := by
                obtain ⟨d, more, rfl⟩ := List.exists_cons_of_ne_nil nonempty
                simp_all
              rw [cut] at later ⊢
              rw [List.intercalate_cons_cons, List.nil_append, later, left, ← same, List.drop_zero]
          · rw [intercalate_modifyHead (splitFrom_ne_nil word 0 rest), ih 0]
            rfl

theorem intercalate_splitFrom (nonempty : word ≠ []) (text : List Char) :
    word.intercalate (splitFrom word 0 text) = text :=
  intercalate_splitFrom_drop nonempty 0 text

section Pieces

/-- A text in which a word stands neither at the end nor before a capital. -/
def Avoids (word text : List Char) : Prop :=
  ∀ before after, text = before ++ word ++ after → ∃ c tail, after = c :: tail ∧ Text.isUpper c = false

theorem avoids_iff_tails : Avoids word text ↔ ∀ tail ∈ text.tails, ∀ after ∈ Text.after? word tail,
    after.head?.map Text.isUpper = some false := by
  have small : ∀ after : List Char, after.head?.map Text.isUpper = some false ↔
      ∃ c tail, after = c :: tail ∧ Text.isUpper c = false := by
    intro after
    cases after <;> simp
  constructor
  · intro avoids tail suffix after found
    obtain ⟨before, whole⟩ := (List.mem_tails _ _).mp suffix
    refine (small after).mpr (avoids before after ?_)
    rw [← whole, Text.after?_eq_some_iff.mp found, List.append_assoc]
  · intro each before after same
    have suffix : word ++ after ∈ text.tails := by
      rw [List.mem_tails, same, List.append_assoc]
      exact List.suffix_append before _
    exact (small after).mp (each _ suffix after (Text.after?_eq_some_iff.mpr rfl))

instance (word text : List Char) : Decidable (Avoids word text) :=
  decidable_of_iff' _ avoids_iff_tails

/-- A text that does not complete any beginning of a word. -/
def NoneCompleted (word rest : List Char) : Prop :=
  ∀ front back, word = front ++ back → front ≠ [] → back ≠ [] → ¬back <+: rest

/-- What may follow a piece of a name: nothing, or a word other than `By`. -/
def Follows (rest : List Char) : Prop :=
  (∀ c ∈ rest.head?, Text.isUpper c = true) ∧ ¬"By".toList <+: rest

/-- The words that join the pieces of a name. -/
def joiningWords : List (List Char) :=
  ["And", "Or", "OrderBy", "Asc", "Desc"].map String.toList

theorem Follows.noneCompleted (follows : Follows rest) (joining : word ∈ joiningWords) :
    NoneCompleted word rest := by
  -- Within these words only the `By` of `OrderBy` starts with a capital.
  have ends : ∀ word ∈ joiningWords, ∀ back ∈ word.tail.tails,
      back = [] ∨ back = "By".toList ∨ back.head?.any Text.isUpper = false := by decide
  intro front back same started unfinished completed
  obtain ⟨c, front, rfl⟩ := List.exists_cons_of_ne_nil started
  have suffix : back ∈ word.tail.tails := by
    rw [same]
    exact (List.mem_tails _ _).mpr (List.suffix_append front back)
  rcases ends word joining back suffix with empty | ending | small
  · exact unfinished empty
  · exact follows.2 (ending ▸ completed)
  · obtain ⟨d, back, rfl⟩ := List.exists_cons_of_ne_nil unfinished
    obtain ⟨tail, rfl⟩ := completed
    have capital : Text.isUpper d = true := follows.1 d rfl
    exact absurd capital (Bool.eq_false_iff.mp small)

/-- After a word within a piece that avoids it something small follows. -/
theorem small_of_avoids {c : Char} {tail : List Char} (ascii : ∀ d ∈ c :: p, d.toNat < 128)
    (avoids : Avoids word (c :: p)) (apart : NoneCompleted word rest)
    (found : c :: p ++ rest = word ++ tail) : ∃ d more, tail = d :: more ∧ beginsWord (d :: more) = false := by
  rcases List.append_eq_append_iff.mp found with ⟨back, same, left⟩ | ⟨after, same, left⟩
  · -- The word runs over the end of the piece, or ends with it.
    cases back with
    | nil =>
        obtain ⟨d, more, absent, -⟩ := avoids [] [] (by simpa using same.symm)
        cases absent
    | cons d back => exact absurd ⟨tail, left.symm⟩ (apart _ _ same (by simp) (by simp))
  · obtain ⟨d, more, rfl, small⟩ := avoids [] after same
    have low : d.toNat < 128 := ascii d (by simp [same])
    refine ⟨d, more ++ rest, left, ?_⟩
    simp [beginsWord, small, low]

theorem Avoids.of_cons {c : Char} (avoids : Avoids word (c :: p)) : Avoids word p :=
  fun before after same => avoids (c :: before) after (congrArg (c :: ·) same)

theorem quiet_of_avoids (ascii : ∀ c ∈ p, c.toNat < 128) (avoids : Avoids word p)
    (apart : NoneCompleted word rest) : Quiet word p rest := by
  induction p with
  | nil => trivial
  | cons c p ih =>
      refine ⟨Bool.eq_false_iff.mpr fun here => ?_, ih (fun d member => ascii d (by simp [member])) avoids.of_cons⟩
      obtain ⟨tail, found, begins⟩ := opens_iff.mp here
      obtain ⟨d, more, rfl, small⟩ := small_of_avoids ascii avoids apart found
      exact absurd begins (Bool.eq_false_iff.mp small)

/-- A text in which a word counts nowhere, whatever may follow the text. -/
def Calm (word text : List Char) : Prop :=
  ∀ rest, Follows rest → Quiet word text rest

theorem calm_of_avoids (joining : word ∈ joiningWords) (ascii : ∀ c ∈ p, c.toNat < 128) (avoids : Avoids word p) :
    Calm word p :=
  fun _ follows => quiet_of_avoids ascii avoids (follows.noneCompleted joining)

theorem Calm.append (first : Calm word p) (second : Calm word q) (follows : ∀ rest, Follows (q ++ rest)) :
    Calm word (p ++ q) :=
  fun rest after => quiet_append.mpr ⟨first _ (follows rest), second rest after⟩

/-- A word that counts in no piece and in no joint counts nowhere in the joined text. -/
theorem Calm.intercalate {joint : List Char} {pieces : List (List Char)} (calm : ∀ p ∈ pieces, Calm word p)
    (begins : ∀ p ∈ pieces, beginsWord p = true) (follows : ∀ rest, Follows (joint ++ rest))
    (quiet : ∀ rest, beginsWord rest = true → Quiet word joint rest) : Calm word (joint.intercalate pieces) := by
  induction pieces with
  | nil => exact fun rest _ => trivial
  | cons p others ih =>
      cases others with
      | nil => simpa using calm p (by simp)
      | cons q more =>
          intro rest after
          have later := ih (fun r member => calm r (List.mem_cons_of_mem p member))
            (fun r member => begins r (List.mem_cons_of_mem p member))
          have tailBegins : beginsWord (joint.intercalate (q :: more) ++ rest) = true :=
            beginsWord_append
              (beginsWord_intercalate (by simp) fun r member => begins r (List.mem_cons_of_mem p member)) rest
          rw [List.intercalate_cons_cons, quiet_append, quiet_append]
          exact ⟨⟨calm p (by simp) _ (follows _), quiet _ tailBegins⟩, later rest after⟩

end Pieces

end DocMapper.MethodName
