import DocMapper.Decimal.Shortest
/-!
How a float is laid out as text. A layout says for which sizes all places are written,
what follows a whole number, and how the values without digits read. `Layout.plain` is
the layout of coordinates, distances and boosts, `Layout.json` the one inside JSON.
-/

namespace DocMapper

namespace Decimal

def digits (d : Decimal) : List Char :=
  (toString d.coefficient).toList

/-- The power of ten of the first digit. -/
def leading (d : Decimal) : Int :=
  d.exponent + (d.digits.length : Int) - 1

/-- All places written out; `whole` follows a number without a fraction. -/
def positional (d : Decimal) (whole : String) : String :=
  let digits := d.digits
  if 0 ≤ d.exponent then
    String.ofList (digits ++ List.replicate d.exponent.toNat '0') ++ whole
  else
    let places := (-d.exponent).toNat
    let padded := List.replicate (places + 1 - digits.length) '0' ++ digits
    let cut := padded.length - places
    String.ofList (padded.take cut ++ '.' :: padded.drop cut)

/-- One digit before the point, then the exponent with its sign. -/
def scientific (d : Decimal) : String :=
  let mantissa := match d.digits with
    | [] => []
    | [c] => [c]
    | c :: rest => c :: '.' :: rest
  let sign := if d.leading < 0 then "-" else "+"
  String.ofList mantissa ++ "e" ++ sign ++ toString d.leading.natAbs

end Decimal

structure Layout where
  /-- The sizes, as the power of ten of the first digit, that are written place by place. -/
  positional : Int → Bool
  whole : String
  nan : String
  infinity : String
  negativeInfinity : String

namespace Layout

def plain : Layout where
  positional := fun _ => true
  whole := ""
  nan := "NaN"
  infinity := "inf"
  negativeInfinity := "-inf"

def json : Layout where
  positional := fun leading => -5 ≤ leading && leading < 16
  whole := ".0"
  nan := "null"
  infinity := "null"
  negativeInfinity := "null"

def text (l : Layout) : Binary → String
  | .nan => l.nan
  | .infinite negative => if negative then l.negativeInfinity else l.infinity
  | .finite negative mantissa exponent lowest =>
      let sign := if negative then "-" else ""
      if mantissa = 0 then sign ++ "0" ++ l.whole
      else
        let d := Decimal.shortest mantissa exponent lowest
        sign ++ if l.positional d.leading then d.positional l.whole else d.scientific

def double (x : Float) : String :=
  plain.text (.ofDouble x)

def single (x : Float32) : String :=
  plain.text (.ofSingle x)

end Layout

/-- A fixed number of places; a value half way between two goes to the even one. -/
def Binary.fixed (places : Nat) : Binary → String
  | .nan => "NaN"
  | .infinite negative => if negative then "-inf" else "inf"
  | .finite negative mantissa exponent _ =>
      let numerator := mantissa * Nat.pow 2 exponent.toNat * Nat.pow 10 places
      let denominator := Nat.pow 2 (-exponent).toNat
      let below := numerator / denominator
      let rest := 2 * (numerator % denominator)
      let rounded := if rest < denominator || (rest = denominator && below % 2 = 0) then below else below + 1
      (if negative then "-" else "") ++ (Decimal.positional ⟨rounded, -(places : Int)⟩ "")

end DocMapper
