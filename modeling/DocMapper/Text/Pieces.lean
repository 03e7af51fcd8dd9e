/-!
Cutting texts at a character or at a word. `joined_pieces` says that cutting at a
separator loses nothing.
-/

namespace DocMapper.Text

/-- The stretches between separators; there is always one more than there are separators. -/
def pieces (separator : Char) : List Char → List (List Char)
  | [] => [[]]
  | c :: rest =>
      if c = separator then [] :: pieces separator rest
      else match pieces separator rest with
        | [] => [[c]]
        | first :: others => (c :: first) :: others

def joined (separator : Char) : List (List Char) → List Char
  | [] => []
  | [only] => only
  | first :: second :: others => first ++ separator :: joined separator (second :: others)

theorem pieces_ne_nil (separator : Char) (text : List Char) : pieces separator text ≠ [] := by
  cases text with
  | nil => simp [pieces]
  | cons c rest => grind [pieces]

theorem joined_pieces (separator : Char) (text : List Char) :
    joined separator (pieces separator text) = text := by
  induction text with
  | nil => rfl
  | cons c rest ih =>
      by_cases same : c = separator
      · cases cut : pieces separator rest with
        | nil => exact absurd cut (pieces_ne_nil separator rest)
        | cons first others =>
            rw [cut] at ih
            simp [pieces, same, cut, joined, ih]
      · cases cut : pieces separator rest with
        | nil => exact absurd cut (pieces_ne_nil separator rest)
        | cons first others =>
            rw [cut] at ih
            cases others with
            | nil => simpa [pieces, same, cut, joined] using ih
            | cons second more => simpa [pieces, same, cut, joined] using ih

/-- A separator-joined text as strings. -/
def split (separator : Char) (text : String) : List String :=
  (pieces separator text.toList).map String.ofList

/-- What stands before and after the first separator. -/
def cutAt? (separator : Char) : List Char → Option (List Char × List Char)
  | [] => none
  | c :: rest =>
      if c = separator then some ([], rest)
      else (cutAt? separator rest).map fun cut => (c :: cut.1, cut.2)

/-- What follows a word at the start of a text. -/
def after? : List Char → List Char → Option (List Char)
  | [], text => some text
  | _ :: _, [] => none
  | w :: word, c :: text => if w = c then after? word text else none

def startsWith (text word : List Char) : Bool :=
  (after? word text).isSome

def endsWith (text word : List Char) : Bool :=
  startsWith text.reverse word.reverse

/-- Whether the word stands anywhere in the text. -/
def occurs (word : List Char) : List Char → Bool
  | [] => word.isEmpty
  | c :: rest => startsWith (c :: rest) word || occurs word rest

theorem after?_eq_some_iff {word text rest : List Char} :
    after? word text = some rest ↔ text = word ++ rest := by
  induction word generalizing text with
  | nil => simp [after?, eq_comm]
  | cons w word ih =>
      cases text with
      | nil => simp [after?]
      | cons c text =>
          by_cases same : w = c
          · simp [after?, same, ih]
          · simp [after?, same, Ne.symm same]

def trimEndOf (c : Char) (text : List Char) : List Char :=
  (text.reverse.dropWhile fun x => x = c).reverse

end DocMapper.Text
