/-!
White space at the ends of a text. The blank characters are those of Unicode's property
`White_Space`, so a no-break space or a line separator is trimmed like a space.
-/

namespace DocMapper.Text

def isBlank (c : Char) : Bool :=
  let n := c.toNat
  (9 ≤ n && n ≤ 13) || n = 0x20 || n = 0x85 || n = 0xA0 || n = 0x1680 || (0x2000 ≤ n && n ≤ 0x200A) ||
    n = 0x2028 || n = 0x2029 || n = 0x202F || n = 0x205F || n = 0x3000

def dropBlankEnd : List Char → List Char
  | [] => []
  | c :: rest =>
      match dropBlankEnd rest with
      | [] => if isBlank c then [] else [c]
      | kept => c :: kept

def trimChars (text : List Char) : List Char :=
  dropBlankEnd (text.dropWhile isBlank)

def trim (text : String) : String :=
  String.ofList (trimChars text.toList)

end DocMapper.Text
