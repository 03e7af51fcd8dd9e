import DocMapper.Json.Basic
import DocMapper.Text.Pieces
/-!
Pointers into JSON values: steps between slashes, where `~1` stands for a slash within a step
and `~0` for the tilde.
-/

namespace DocMapper.Json

/-- A step of a pointer as the key it stands for. -/
def pointerKey : List Char → List Char
  | '~' :: '1' :: rest => '/' :: pointerKey rest
  | '~' :: '0' :: rest => '~' :: pointerKey rest
  | c :: rest => c :: pointerKey rest
  | [] => []

/-- The value a pointer, without its first slash, leads to. -/
def pointer? (pointer : String) (value : Json) : Option Json :=
  descend? ((Text.pieces '/' pointer.toList).map fun step => String.ofList (pointerKey step)) value

end DocMapper.Json
