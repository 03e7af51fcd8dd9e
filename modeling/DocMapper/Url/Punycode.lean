/-!
Punycode: host names with characters outside ASCII, written in ASCII. The characters of
ASCII come first; the others follow as the steps between them, in order of their code points.
-/

namespace DocMapper.Punycode

def digit (n : Nat) : Char :=
  if n < 26 then Char.ofNat ('a'.toNat + n) else Char.ofNat ('0'.toNat + n - 26)

/-- The least value that a digit at a place leaves over for the digits after it. -/
def threshold (place bias : Nat) : Nat :=
  if place ≤ bias then 1 else if bias + 26 ≤ place then 26 else place - bias

/-- A step as digits; the last digit is the first below its threshold. -/
def digits (bias : Nat) : Nat → Nat → Nat → List Char
  | 0, _, _ => []
  | fuel + 1, place, q =>
      let t := threshold place bias
      if q < t then [digit q]
      else digit (t + (q - t) % (36 - t)) :: digits bias fuel (place + 36) ((q - t) / (36 - t))

/-- How often 35 divides a step until it is small. -/
def shrink : Nat → Nat → Nat → Nat × Nat
  | 0, delta, k => (delta, k)
  | fuel + 1, delta, k => if 455 < delta then shrink fuel (delta / 35) (k + 36) else (delta, k)

def adapt (delta points : Nat) (first : Bool) : Nat :=
  let start := if first then delta / 700 else delta / 2
  let (delta, k) := shrink 32 (start + start / points) 0
  k + 36 * delta / (delta + 38)

structure State where
  written : List Char
  delta : Nat
  bias : Nat
  handled : Nat
  first : Bool

/-- One pass over a name: writes a step for every place that holds the code point. -/
def pass (codePoint : Nat) : List Char → State → State
  | [], s => s
  | c :: rest, s =>
      if c.toNat < codePoint then pass codePoint rest { s with delta := s.delta + 1 }
      else if c.toNat = codePoint then
        pass codePoint rest {
          written := s.written ++ digits s.bias 16 36 s.delta
          delta := 0
          bias := adapt s.delta (s.handled + 1) s.first
          handled := s.handled + 1
          first := false }
      else pass codePoint rest s

def passes (name : List Char) : List Nat → Nat → State → State
  | [], _, s => s
  | codePoint :: more, previous, s =>
      let s := pass codePoint name { s with delta := s.delta + (codePoint - previous) * (s.handled + 1) }
      passes name more (codePoint + 1) { s with delta := s.delta + 1 }

def encode (name : List Char) : List Char :=
  let basic := name.filter fun c => c.toNat < 0x80
  let others := ((name.filter fun c => 0x80 ≤ c.toNat).map Char.toNat).mergeSort.eraseDups
  let start := if basic.isEmpty then [] else basic ++ ['-']
  (passes name others 0x80 ⟨start, 0, 72, basic.length, true⟩).written

end DocMapper.Punycode
