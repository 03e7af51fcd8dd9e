/-!
The decimal a binary number is written as: of the decimals that round back to it, one
with the fewest digits, and of those the nearest. Everything is exact arithmetic on
natural numbers; a binary number is `mantissa · 2 ^ exponent`, and the reals that round
to it form an interval around it.
-/

namespace DocMapper

structure Decimal where
  coefficient : Nat
  exponent : Int
deriving DecidableEq, Repr

/-- The reals that round to one binary number, in units of `1 / scale`. The ends belong
to it when the mantissa is even. -/
structure RoundingInterval where
  low : Nat
  value : Nat
  high : Nat
  scale : Nat
  closed : Bool

namespace RoundingInterval

/-- The interval of `mantissa · 2 ^ exponent`. Below a power of two the neighbours are
twice as dense, so there `lowest` halves the lower part. -/
def ofBinary (mantissa : Nat) (exponent : Int) (lowest : Bool) : RoundingInterval :=
  let up := Nat.pow 2 (exponent - 2).toNat
  let scale := Nat.pow 2 (2 - exponent).toNat
  { low := (4 * mantissa - if lowest then 1 else 2) * up
    value := 4 * mantissa * up
    high := (4 * mantissa + 2) * up
    scale := scale
    closed := mantissa % 2 = 0 }

def contains (i : RoundingInterval) (numerator denominator : Nat) : Bool :=
  let low := i.low * denominator
  let high := i.high * denominator
  let point := numerator * i.scale
  if i.closed then low ≤ point && point ≤ high else low < point && point < high

/-- The multiple of `10 ^ k` that is in the interval, the nearer one if both neighbours
of the value are. -/
def onGrid? (i : RoundingInterval) (k : Int) : Option Nat :=
  let up := Nat.pow 10 (-k).toNat
  let step := Nat.pow 10 k.toNat
  let below := i.value * up / (i.scale * step)
  let inside (c : Nat) := i.contains (c * step) up
  if inside below then
    if inside (below + 1) && (2 * below + 1) * step * i.scale < 2 * i.value * up then some (below + 1)
    else some below
  else if inside (below + 1) then some (below + 1)
  else none

/-- Tries ever finer grids, from `10 ^ k` on. -/
def search (i : RoundingInterval) : Nat → Int → Decimal
  | 0, k => ⟨i.value / i.scale, k⟩
  | tries + 1, k =>
      match i.onGrid? k with
      | some c => ⟨c, k⟩
      | none => search i tries (k - 1)

end RoundingInterval

/-- A binary float: not a number, an infinity, or `mantissa · 2 ^ exponent`. -/
inductive Binary where
  | nan
  | infinite (negative : Bool)
  | finite (negative : Bool) (mantissa : Nat) (exponent : Int) (lowest : Bool)

namespace Binary

/-- Reads a word of one sign bit, `expBits` exponent bits and `fracBits` fraction bits. -/
def ofWord (expBits fracBits word : Nat) : Binary :=
  let fraction := word % Nat.pow 2 fracBits
  let biased := word / Nat.pow 2 fracBits % Nat.pow 2 expBits
  let negative := word / Nat.pow 2 (fracBits + expBits) = 1
  let least : Int := 2 - Nat.pow 2 (expBits - 1) - fracBits
  if biased = Nat.pow 2 expBits - 1 then
    if fraction = 0 then .infinite negative else .nan
  else if biased = 0 then .finite negative fraction least false
  else .finite negative (Nat.pow 2 fracBits + fraction) (least + (biased - 1)) (fraction = 0 && biased ≠ 1)

def ofDouble (x : Float) : Binary :=
  ofWord 11 52 x.toBits.toNat

def ofSingle (x : Float32) : Binary :=
  ofWord 8 23 x.toBits.toNat

end Binary

/-- The fewest digits that read back as a positive binary number. -/
def Decimal.shortest (mantissa : Nat) (exponent : Int) (lowest : Bool) : Decimal :=
  let bits : Int := (Nat.log2 mantissa : Int) + 1 + exponent
  (RoundingInterval.ofBinary mantissa exponent lowest).search 400 (bits * 30103 / 100000 + 1)

end DocMapper
