import DocMapper.DocumentType.Basic
import DocMapper.Query.Compile
/-!
What a property in a method name means for a document type. Names match without regard to
case and low lines, the engine's name as well as the application's. A nested property is
found by cutting the text at a point, a low line or a capital, so that the part in front
names a field with properties; the longest such part is tried first.
-/

namespace DocMapper.DocumentType

def normalizeChars (name : List Char) : List Char :=
  (name.filter fun c => c ≠ '_').flatMap Text.lowerChar

def answersTo (f : Field) (normalized : List Char) : Bool :=
  normalizeChars f.name.toList = normalized || normalizeChars f.engineName.toList = normalized

/-- The ways to cut a text in two, the first part never empty, shortest first part first. -/
def cutsAfter (before : List Char) : List Char → List (List Char × List Char)
  | [] => []
  | c :: rest =>
      let here :=
        if before.isEmpty then []
        else if c = '.' || c = '_' then [(before, rest)]
        else if Text.isUpper c then [(before, c :: rest)]
        else []
      here ++ cutsAfter (before ++ [c]) rest

def cuts (text : List Char) : List (List Char × List Char) :=
  cutsAfter [] text

/-- Looks a text up among fields, then its parts among their properties; `depth` bounds the
cuts, of which a text has fewer than characters. -/
def resolveAmong : Nat → List Field → List Char → Option Field
  | 0, _, _ => none
  | depth + 1, fields, text =>
      if text.isEmpty then none
      else match fields.find? fun f => answersTo f (normalizeChars text) with
        | some f => some f
        | none => (cuts text).reverse.findSome? fun cut =>
            match fields.find? fun f => !f.properties.isEmpty && answersTo f (normalizeChars cut.1) with
            | some parent => resolveAmong depth parent.properties cut.2
            | none => none

def resolveField (fields : List Field) (text : String) : Option Field :=
  resolveAmong (text.toList.length + 1) fields text.toList

def resolveIn (fields : List Field) : Resolver := fun text =>
  (resolveField fields text).map fun f => ⟨f.path, f.type⟩

def resolve (t : DocumentType) : Resolver :=
  resolveIn t.fields

end DocMapper.DocumentType
