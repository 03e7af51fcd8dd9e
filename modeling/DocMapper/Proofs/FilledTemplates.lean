import DocMapper.Placeholder
import Mathlib.Data.List.Infix
/-!
Filling in the tokens of a text. A text that is made of tokens, with stretches in which no token
opens before, between and behind them, is read as just that: a stretch may end in `$` and a key may
hold the two characters that open a token, and still no token is found across two pieces. So one
walk puts the value of each token in its place and leaves all else, and values are not walked over.
-/

namespace DocMapper.Placeholder

/-- The two characters that open a token. -/
def opener : List Char :=
  ['$', '\x7b']

/-- A text in which no token opens. -/
def Literal (text : List Char) : Prop :=
  ¬opener <:+: text

instance (text : List Char) : Decidable (Literal text) :=
  inferInstanceAs (Decidable ¬opener <:+: text)

/-- A token that can be read from its text: the key ends at the first colon or closing brace, a
fallback at the first closing brace. -/
structure Token.Written (t : Token) : Prop where
  keyFilled : t.key ≠ []
  keyChars : ∀ c ∈ t.key, c ≠ '\x7d' ∧ c ≠ ':'
  fallbackChars : ∀ text ∈ t.fallback, '\x7d' ∉ text

instance (t : Token) : Decidable t.Written :=
  -- The characters of the key are looked at one by one, not all there are.
  haveI : Decidable (∀ c ∈ t.key, c ≠ '\x7d' ∧ c ≠ ':') := List.decidableBAll _ t.key
  decidable_of_iff (t.key ≠ [] ∧ (∀ c ∈ t.key, c ≠ '\x7d' ∧ c ≠ ':') ∧ ∀ text ∈ t.fallback, '\x7d' ∉ text)
    ⟨fun ⟨filled, chars, fallback⟩ => ⟨filled, chars, fallback⟩,
      fun written => ⟨written.keyFilled, written.keyChars, written.fallbackChars⟩⟩

/-- Tokens with literal stretches around them. -/
structure Template where
  opening : List Char
  /-- Every token with the stretch behind it. -/
  rest : List (Token × List Char)
  openingLiteral : Literal opening
  restWritten : ∀ piece ∈ rest, piece.1.Written ∧ Literal piece.2

/-- Pieces with something in the place of every token. -/
def joined (replace : Token → List Char) (rest : List (Token × List Char)) : List Char :=
  rest.flatMap fun piece => replace piece.1 ++ piece.2

namespace Template

/-- The template with something in the place of every token. -/
def withTokens (t : Template) (replace : Token → List Char) : String :=
  String.ofList (t.opening ++ joined replace t.rest)

/-- The template as it is written. -/
def text (t : Template) : String :=
  t.withTokens Token.source

end Template

section Reading

variable {env : Environment} {fuel : Nat} {t : Token} {front back : List Char}

/-- A token behind the characters that open it. -/
def Token.body (t : Token) : List Char :=
  t.key ++ (match t.fallback with
    | some text => ':' :: text
    | none => []) ++ ['\x7d']

theorem Token.source_eq (t : Token) : t.source = opener ++ t.body := by
  cases fallback : t.fallback <;> simp [source, body, opener, fallback]

theorem cut_at_stop {p : Char → Bool} (run : ∀ c ∈ front, p c = true) (stop : Char) (stops : p stop = false)
    (back : List Char) :
    (front ++ stop :: back).takeWhile p = front ∧ (front ++ stop :: back).dropWhile p = stop :: back := by
  rw [List.takeWhile_append_of_pos run, List.dropWhile_append_of_pos run]
  simp [stops]

/-- The first brace behind the key, or behind the fallback, closes a token, whatever follows. -/
theorem Token.Written.token? (written : t.Written) (back : List Char) :
    Placeholder.token? (t.body ++ back) = some (t, back) := by
  obtain ⟨key, fallback⟩ := t
  have filled : key.isEmpty = false := List.isEmpty_eq_false_iff.mpr written.keyFilled
  have inKey : ∀ c ∈ key, (decide (c ≠ '\x7d') && decide (c ≠ ':')) = true := by
    simpa using written.keyChars
  cases fallback with
  | none =>
      obtain ⟨key_taken, key_dropped⟩ := cut_at_stop inKey '\x7d' (by decide) back
      have whole : Token.body ⟨key, none⟩ ++ back = key ++ '\x7d' :: back := by simp [body]
      simp only [Placeholder.token?, whole, key_taken, key_dropped, filled, Bool.false_eq_true, ↓reduceIte]
  | some text =>
      have inside : ∀ c ∈ text, decide (c ≠ '\x7d') = true := by
        intro c member
        have absent := written.fallbackChars text rfl
        exact decide_eq_true fun same => absent (same ▸ member)
      obtain ⟨text_taken, text_dropped⟩ := cut_at_stop inside '\x7d' (by decide) back
      obtain ⟨key_taken, key_dropped⟩ := cut_at_stop inKey ':' (by decide) (text ++ '\x7d' :: back)
      have whole : Token.body ⟨key, some text⟩ ++ back = key ++ ':' :: (text ++ '\x7d' :: back) := by simp [body]
      simp only [Placeholder.token?, whole, key_taken, key_dropped, text_taken, text_dropped, filled,
        Bool.false_eq_true, ↓reduceIte]

theorem resolveChars_token (written : t.Written) (back : List Char) :
    resolveChars env (fuel + 1) (t.source ++ back) = t.value env ++ resolveChars env fuel back := by
  rw [t.source_eq, List.append_assoc]
  simp only [opener, List.cons_append, List.nil_append, resolveChars, written.token?]

theorem resolveChars_skip {c : Char} (quiet : ¬opener <+: c :: back) :
    resolveChars env (fuel + 1) (c :: back) = c :: resolveChars env fuel back := by
  refine resolveChars.eq_4 env fuel c back fun rest dollar brace => quiet ?_
  rw [dollar, brace]
  exact List.prefix_append opener rest

/-- What follows a stretch cannot complete an opener whose first half the stretch ends with. -/
def Follows (back : List Char) : Prop :=
  ∀ rest, back ≠ '\x7b' :: rest

theorem not_opens_before {c : Char} {rest : List Char} (literal : Literal (c :: rest)) (follows : Follows back) :
    ¬opener <+: c :: (rest ++ back) := by
  rintro ⟨more, same⟩
  simp only [opener, List.cons_append, List.nil_append, List.cons.injEq] at same
  obtain ⟨rfl, same⟩ := same
  cases rest with
  | nil => exact follows more same.symm
  | cons d rest =>
      obtain ⟨rfl, -⟩ := List.cons.inj same
      exact literal ⟨[], rest, rfl⟩

theorem Literal.tail {c : Char} {rest : List Char} (literal : Literal (c :: rest)) : Literal rest :=
  fun inside => literal (inside.trans (List.suffix_cons c rest).isInfix)

theorem resolveChars_literal (literal : Literal front) (follows : Follows back) :
    resolveChars env (front.length + fuel) (front ++ back) = front ++ resolveChars env fuel back := by
  induction front with
  | nil => simp
  | cons c rest ih =>
      have count : (c :: rest).length + fuel = rest.length + fuel + 1 := by
        rw [List.length_cons]
        omega
      rw [count, List.cons_append, resolveChars_skip (not_opens_before literal follows), ih literal.tail,
        List.cons_append]

end Reading

section Pieces

variable {fuel : Nat} {opening : List Char} {rest : List (Token × List Char)}

theorem joined_cons (replace : Token → List Char) (t : Token) (literal : List Char) (rest : List (Token × List Char)) :
    joined replace ((t, literal) :: rest) = replace t ++ (literal ++ joined replace rest) := by
  simp [joined]

theorem follows_joined (rest : List (Token × List Char)) : Follows (joined Token.source rest) := by
  intro more same
  cases rest with
  | nil => cases same
  | cons piece rest =>
      rw [joined_cons, piece.1.source_eq] at same
      cases same

/-- With fuel for every character the walk comes to the end of the pieces. -/
theorem resolveChars_joined (env : Environment) (literal : Literal opening)
    (written : ∀ piece ∈ rest, piece.1.Written ∧ Literal piece.2)
    (enough : (opening ++ joined Token.source rest).length ≤ fuel) :
    resolveChars env fuel (opening ++ joined Token.source rest) = opening ++ joined (Token.value env) rest := by
  induction rest generalizing opening fuel with
  | nil =>
      obtain ⟨more, rfl⟩ : ∃ more, fuel = opening.length + more :=
        Nat.exists_eq_add_of_le (by simpa [joined] using enough)
      have nothing : resolveChars env more [] = [] := by cases more <;> rfl
      rw [resolveChars_literal literal (follows_joined []), joined, joined, List.flatMap_nil, List.flatMap_nil, nothing]
  | cons piece rest ih =>
      obtain ⟨t, behind⟩ := piece
      obtain ⟨⟨token, following⟩, others⟩ := List.forall_mem_cons.mp written
      -- One step of the walk takes the whole token, so the fuel for its other characters is left over.
      obtain ⟨more, rfl, left⟩ : ∃ more, fuel = opening.length + (more + 1) ∧
          (behind ++ joined Token.source rest).length ≤ more := by
        refine ⟨fuel - opening.length - 1, ?_, ?_⟩ <;>
          simp only [joined_cons, t.source_eq, opener, List.length_append, List.length_cons] at enough ⊢ <;> omega
      rw [resolveChars_literal literal (follows_joined _), joined_cons, joined_cons, resolveChars_token token,
        ih following others left]

end Pieces

theorem Token.value_eq (env : Environment) (t : Token) :
    t.value env = match env.find? (Text.trim (String.ofList t.key)), t.fallback with
      | some value, _ => value.toList
      | none, some fallback => fallback
      | none, none => t.source := by
  rw [value, Text.trim, String.toList_ofList]
  cases env.find? (String.ofList (Text.trimChars t.key)) with
  | some value => rfl
  | none => cases t.fallback <;> rfl

/-- Resolving a text puts into the place of each token what it stands for, and changes nothing else. -/
theorem template_filled_in_place (env : Environment) (t : Template) :
    resolve env t.text = t.withTokens fun token =>
      match env.find? (Text.trim (String.ofList token.key)), token.fallback with
      | some value, _ => value.toList
      | none, some fallback => fallback
      | none, none => token.source := by
  have walked := resolveChars_joined env t.openingLiteral t.restWritten (Nat.le_refl _)
  rw [resolve, Template.text, Template.withTokens, String.toList_ofList, walked, Template.withTokens]
  simp only [← Token.value_eq]

/-- Each piece ends or begins like a part of a token, and so do the values. -/
def trickyTemplate : Template where
  opening := ['$']
  rest := [
    (⟨" a$\x7bb ".toList, none⟩, "/$".toList),
    (⟨['a'], none⟩, []),
    (⟨['z'], some "$\x7ba".toList⟩, "\x7d, ".toList),
    (⟨['z'], none⟩, [])]
  openingLiteral := by decide
  restWritten := by decide

example : trickyTemplate.text = "$$\x7b a$\x7bb \x7d/$$\x7ba\x7d$\x7bz:$\x7ba\x7d\x7d, $\x7bz\x7d" := by decide

example :
    resolve ⟨[[("a", "$\x7ba\x7d"), ("a$\x7bb", "1")]]⟩ trickyTemplate.text =
      "$1/$$\x7ba\x7d$\x7ba\x7d, $\x7bz\x7d" := by decide

end DocMapper.Placeholder
