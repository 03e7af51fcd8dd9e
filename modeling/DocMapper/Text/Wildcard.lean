/-!
Wildcard patterns: a star stands for any run of characters within a line, every other
character for itself, and the whole text has to match.
-/

namespace DocMapper.Text

/-- What may be left of a text once a star has taken its part. -/
def afterRun : List Char → List (List Char)
  | [] => [[]]
  | c :: rest => (c :: rest) :: if c = '\n' then [] else afterRun rest

def matchesWildcard : List Char → List Char → Bool
  | [], text => text.isEmpty
  | p :: pattern, text =>
      if p = '*' then (afterRun text).any (matchesWildcard pattern)
      else match text with
        | [] => false
        | c :: rest => p = c && matchesWildcard pattern rest

end DocMapper.Text
