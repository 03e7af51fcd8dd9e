/-!
Base64: three bytes as four characters, with equals signs where the last group is short.
-/

namespace DocMapper.Base64

def digit (n : Nat) : Char :=
  if n < 26 then Char.ofNat ('A'.toNat + n)
  else if n < 52 then Char.ofNat ('a'.toNat + n - 26)
  else if n < 62 then Char.ofNat ('0'.toNat + n - 52)
  else if n = 62 then '+' else '/'

/-- The digits of three bytes, from the highest. -/
def digits (n : Nat) : List Char :=
  [digit (n >>> 18 % 64), digit (n >>> 12 % 64), digit (n >>> 6 % 64), digit (n % 64)]

def encodeBytes : List UInt8 → List Char
  | [] => []
  | [a] => (digits (a.toNat <<< 16)).take 2 ++ ['=', '=']
  | [a, b] => (digits (a.toNat <<< 16 + b.toNat <<< 8)).take 3 ++ ['=']
  | a :: b :: c :: rest => digits (a.toNat <<< 16 + b.toNat <<< 8 + c.toNat) ++ encodeBytes rest

def encode (text : String) : String :=
  String.ofList (encodeBytes text.toUTF8.toList)

end DocMapper.Base64
