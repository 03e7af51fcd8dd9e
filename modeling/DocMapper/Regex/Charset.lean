import DocMapper.Regex.Table
import DocMapper.Text.Blank
import DocMapper.Text.Case
/-!
Sets of characters in patterns. A set that ignores case holds every character one of whose
case variants it holds.
-/

namespace DocMapper.Regex

inductive Charset where
  | run (first last : Nat)
  /-- General categories by their codes, or by the first letter of several. -/
  | categories (codes : List String)
  | blank
  | upper
  | lower
  | assigned
  | union (a b : Charset)
  | inter (a b : Charset)
  | except (a b : Charset)
  | differ (a b : Charset)
  | complement (a : Charset)
  | ignoringCase (a : Charset)
deriving Repr

/-- The characters that are the same letter in another case, the character itself among them. -/
def caseVariants (c : Char) : List Char :=
  match caseGroups.find? fun g => g.contains c.toNat with
  | some g => g.map Char.ofNat
  | none =>
      if c.toNat = 0x130 || c.toNat = 0x131 then [c]
      else if c.toNat < 128 then [c, c.toLower, c.toUpper]
      else c :: ((Text.shifted? Text.lowerRuns c).toList ++ (Text.shifted? Text.upperRuns c).toList)

namespace Charset

def has : Charset → Char → Bool
  | .run first last, c => first ≤ c.toNat && c.toNat ≤ last
  | .categories codes, c =>
      let own := category c
      codes.any fun code => own = code || (code.length = 1 && own.startsWith code)
  | .blank, c => Text.isBlank c
  | .upper, c => Text.isUpper c
  | .lower, c => Text.isLower c
  | .assigned, c => category c ≠ "Cn"
  | .union a b, c => a.has c || b.has c
  | .inter a b, c => a.has c && b.has c
  | .except a b, c => a.has c && !b.has c
  | .differ a b, c => a.has c != b.has c
  | .complement a, c => !a.has c
  | .ignoringCase a, c => (caseVariants c).any a.has

def none : Charset := .run 1 0

def any : Charset := .run 0 0x10FFFF

def single (c : Char) : Charset := .run c.toNat c.toNat

def ofRuns (runs : List (Nat × Nat)) : Charset :=
  runs.foldl (fun s r => .union s (.run r.1 r.2)) none

/-- Letters drawn inside a circle or square, which count as letters of words. -/
def enclosedLetters : Charset :=
  ofRuns [(0x24B6, 0x24E9), (0x1F130, 0x1F149), (0x1F150, 0x1F169), (0x1F170, 0x1F189)]

def asciiDigit : Charset := .run 0x30 0x39

def asciiWord : Charset :=
  ofRuns [(0x30, 0x39), (0x41, 0x5A), (0x5F, 0x5F), (0x61, 0x7A)]

def asciiSpace : Charset :=
  ofRuns [(0x09, 0x0D), (0x20, 0x20)]

def digit : Charset := .categories ["Nd"]

def alphabetic : Charset := .union (.categories ["L", "Nl"]) enclosedLetters

def word : Charset :=
  .union (.categories ["L", "M", "Nd", "Nl", "Pc"]) (.union enclosedLetters (.run 0x200C 0x200D))

/-- The named classes of brackets, all of them within ASCII. -/
def named? (name : String) : Option Charset :=
  (runsOf? name).map ofRuns
where
  runsOf? (name : String) : Option (List (Nat × Nat)) :=
    [("alnum", [(0x30, 0x39), (0x41, 0x5A), (0x61, 0x7A)]), ("alpha", [(0x41, 0x5A), (0x61, 0x7A)]),
      ("ascii", [(0, 0x7F)]), ("blank", [(9, 9), (0x20, 0x20)]), ("cntrl", [(0, 0x1F), (0x7F, 0x7F)]),
      ("digit", [(0x30, 0x39)]), ("graph", [(0x21, 0x7E)]), ("lower", [(0x61, 0x7A)]),
      ("print", [(0x20, 0x7E)]), ("punct", [(0x21, 0x2F), (0x3A, 0x40), (0x5B, 0x60), (0x7B, 0x7E)]),
      ("space", [(9, 13), (0x20, 0x20)]), ("upper", [(0x41, 0x5A)]),
      ("word", [(0x30, 0x39), (0x41, 0x5A), (0x5F, 0x5F), (0x61, 0x7A)]),
      ("xdigit", [(0x30, 0x39), (0x41, 0x46), (0x61, 0x66)])].lookup name

def categoryNames : List (String × List String) := [
  ("letter", ["L"]), ("l", ["L"]), ("casedletter", ["Lu", "Ll", "Lt"]), ("lc", ["Lu", "Ll", "Lt"]),
  ("uppercaseletter", ["Lu"]), ("lu", ["Lu"]), ("lowercaseletter", ["Ll"]), ("ll", ["Ll"]),
  ("titlecaseletter", ["Lt"]), ("lt", ["Lt"]), ("modifierletter", ["Lm"]), ("lm", ["Lm"]),
  ("otherletter", ["Lo"]), ("lo", ["Lo"]), ("mark", ["M"]), ("m", ["M"]), ("combiningmark", ["M"]),
  ("nonspacingmark", ["Mn"]), ("mn", ["Mn"]), ("spacingmark", ["Mc"]), ("mc", ["Mc"]),
  ("enclosingmark", ["Me"]), ("me", ["Me"]), ("number", ["N"]), ("n", ["N"]),
  ("decimalnumber", ["Nd"]), ("nd", ["Nd"]), ("digit", ["Nd"]), ("letternumber", ["Nl"]), ("nl", ["Nl"]),
  ("othernumber", ["No"]), ("no", ["No"]), ("punctuation", ["P"]), ("p", ["P"]), ("punct", ["P"]),
  ("connectorpunctuation", ["Pc"]), ("pc", ["Pc"]), ("dashpunctuation", ["Pd"]), ("pd", ["Pd"]),
  ("openpunctuation", ["Ps"]), ("ps", ["Ps"]), ("closepunctuation", ["Pe"]), ("pe", ["Pe"]),
  ("initialpunctuation", ["Pi"]), ("pi", ["Pi"]), ("finalpunctuation", ["Pf"]), ("pf", ["Pf"]),
  ("otherpunctuation", ["Po"]), ("po", ["Po"]), ("symbol", ["S"]), ("s", ["S"]),
  ("mathsymbol", ["Sm"]), ("sm", ["Sm"]), ("currencysymbol", ["Sc"]), ("sc", ["Sc"]),
  ("modifiersymbol", ["Sk"]), ("sk", ["Sk"]), ("othersymbol", ["So"]), ("so", ["So"]),
  ("separator", ["Z"]), ("z", ["Z"]), ("spaceseparator", ["Zs"]), ("zs", ["Zs"]),
  ("lineseparator", ["Zl"]), ("zl", ["Zl"]), ("paragraphseparator", ["Zp"]), ("zp", ["Zp"]),
  ("other", ["C"]), ("c", ["C"]), ("control", ["Cc"]), ("cc", ["Cc"]), ("cntrl", ["Cc"]),
  ("format", ["Cf"]), ("cf", ["Cf"]), ("unassigned", ["Cn"]), ("cn", ["Cn"]),
  ("privateuse", ["Co"]), ("co", ["Co"])]

def property? (raw : List Char) : Option Charset :=
  -- A set by the name of a category, property or script. Case, blanks, hyphens and low lines in
  -- the name do not matter.
  let name := String.ofList ((raw.filter fun c => c ≠ '_' && c ≠ '-' && c ≠ ' ').map Char.toLower)
  let name := if name.startsWith "is" && name ≠ "isc" then (name.drop 2).toString else name
  if name = "any" then some any
  else if name = "ascii" then some (.run 0 0x7F)
  else if name = "assigned" then some .assigned
  else if name = "alphabetic" || name = "alpha" then some alphabetic
  else if name = "uppercase" || name = "upper" then some .upper
  else if name = "lowercase" || name = "lower" then some .lower
  else if name = "whitespace" || name = "wspace" || name = "space" then some .blank
  else match categoryNames.lookup name with
    | some codes => some (.categories codes)
    | Option.none => (scripts.lookup name).map ofRuns

end Charset

end DocMapper.Regex
