import DocMapper.Text.CaseTable
/-!
Upper and lower case of texts in any script. A character may turn into several, and a
capital sigma that ends a word turns into the final sigma.
-/

namespace DocMapper.Text

def inRuns (runs : List CharRun) (c : Char) : Bool :=
  runs.any fun r => r.has c.toNat

def shifted? (runs : List CaseRun) (c : Char) : Option Char :=
  (runs.find? fun r => r.chars.has c.toNat).map fun r => Char.ofNat ((c.toNat : Int) + r.shift).toNat

def isUpper (c : Char) : Bool :=
  if c.toNat < 128 then c.isUpper else inRuns uppercaseRuns c

def isLower (c : Char) : Bool :=
  if c.toNat < 128 then c.isLower else inRuns lowercaseRuns c

def lowerChar (c : Char) : List Char :=
  if c.toNat < 128 then [c.toLower]
  else if c.toNat = 0x130 then ['i', Char.ofNat 0x307]
  else [(shifted? lowerRuns c).getD c]

def upperChar (c : Char) : List Char :=
  if c.toNat < 128 then [c.toUpper]
  else match upperExpansions.find? fun entry => entry.1 = c.toNat with
    | some entry => entry.2.map Char.ofNat
    | none => [(shifted? upperRuns c).getD c]

def isCased (c : Char) : Bool :=
  isUpper c || isLower c || inRuns titlecaseRuns c

def isCaseIgnorable (c : Char) : Bool :=
  if c.toNat < 128 then c = '\x27' || c = '.' || c = ':' || c = '^' || c = '\x60'
  else inRuns caseIgnorableRuns c

/-- Whether the first character that is not looked through has case. -/
def meetsCased (text : List Char) : Bool :=
  match text.dropWhile isCaseIgnorable with
  | [] => false
  | c :: _ => isCased c

def lowerFrom (before : List Char) : List Char → List Char
  -- `before` holds the characters already passed, nearest first.
  | [] => []
  | c :: rest =>
      let lowered :=
        if c = 'Σ' then
          if meetsCased before && !meetsCased rest then ['ς'] else ['σ']
        else lowerChar c
      lowered ++ lowerFrom (c :: before) rest

def lowerChars (text : List Char) : List Char :=
  lowerFrom [] text

def lower (text : String) : String :=
  String.ofList (lowerChars text.toList)

end DocMapper.Text
