import DocMapper.Proofs.ShortestDecimal
/-!
Doubles and their 64 bits. A word falls into a sign, an exponent and a fraction, and no two
words stand for one binary number: there is a single word for what is no number.
-/

namespace DocMapper

namespace Binary

def ZeroOrCanonical (mantissa : ℕ) (exponent : ℤ) (lowest : Bool) : Prop :=
  mantissa = 0 ∧ exponent = -1074 ∧ lowest = false ∨ Canonical mantissa exponent lowest

/-- What words of 64 bits stand for. -/
def Proper : Binary → Prop
  | .finite _ mantissa exponent lowest => ZeroOrCanonical mantissa exponent lowest
  | _ => True

def fractionOf (word : ℕ) : ℕ := word % 2 ^ 52

def biasedOf (word : ℕ) : ℕ := word / 2 ^ 52 % 2 ^ 11

def negativeOf (word : ℕ) : Bool := word / 2 ^ 63 = 1

theorem word_ext {v w : ℕ} (first : v < 2 ^ 64) (second : w < 2 ^ 64) (signs : negativeOf v = negativeOf w)
    (exponents : biasedOf v = biasedOf w) (fractions : fractionOf v = fractionOf w) : v = w := by
  have sides : v / 2 ^ 63 = 1 ↔ w / 2 ^ 63 = 1 := by simpa [negativeOf] using signs
  rw [biasedOf, biasedOf] at exponents
  rw [fractionOf, fractionOf] at fractions
  omega

theorem ofWord_eq (word : ℕ) : ofWord 11 52 word =
    if biasedOf word = 2047 then
      if fractionOf word = 0 then .infinite (negativeOf word) else .nan
    else if biasedOf word = 0 then .finite (negativeOf word) (fractionOf word) (-1074) false
    else .finite (negativeOf word) (2 ^ 52 + fractionOf word) (-1074 + (biasedOf word - 1))
      (fractionOf word = 0 && biasedOf word ≠ 1) := rfl

theorem ofWord_proper (word : ℕ) : (ofWord 11 52 word).Proper := by
  have fraction : fractionOf word < 2 ^ 52 := Nat.mod_lt _ (by decide)
  have biased : biasedOf word < 2 ^ 11 := Nat.mod_lt _ (by decide)
  rw [ofWord_eq]
  split
  · split <;> trivial
  · split
    · by_cases zero : fractionOf word = 0
      · exact .inl ⟨zero, rfl, rfl⟩
      · exact .inr ⟨by omega, by omega, by omega, by omega, by omega, by simp⟩
    · refine .inr ⟨by omega, by omega, by omega, by omega, by omega, ?_⟩
      simp only [Bool.and_eq_true, decide_eq_true_eq]
      omega

theorem ofWord_injective {v w : ℕ} (first : v < 2 ^ 64) (second : w < 2 ^ 64)
    (same : ofWord 11 52 v = ofWord 11 52 w) (number : ofWord 11 52 v ≠ .nan) : v = w := by
  have fraction : fractionOf v < 2 ^ 52 := Nat.mod_lt _ (by decide)
  have fraction' : fractionOf w < 2 ^ 52 := Nat.mod_lt _ (by decide)
  rw [ofWord_eq] at number
  rw [ofWord_eq, ofWord_eq] at same
  apply word_ext first second <;> split at same <;> split at same <;> grind

open Float.Model.UnpackedFloat in
/-- There is one word for what is no number. -/
theorem nan_word {x : Float} (nan : ofDouble x = .nan) : x.toBits.toBitVec = packedNaN .binary64 := by
  rw [ofDouble, ofWord_eq] at nan
  split at nan
  · next special =>
      split at nan
      · cases nan
      · next fraction =>
          -- All exponent bits are set and some fraction bit is, as in no other word that is allowed.
          rw [biasedOf, ← Nat.shiftRight_eq_div_pow] at special
          apply x.toModel.valid.eq_packedNaN
          · apply BitVec.eq_of_toNat_eq
            simp only [unpackExponent, BitVec.toNat_cast, BitVec.extractLsb_toNat]
            exact special
          · intro none
            apply fraction
            have bits := congrArg BitVec.toNat none
            simp only [unpackMantissa, BitVec.toNat_cast, BitVec.extractLsb_toNat] at bits
            exact bits
  · split at nan <;> cases nan

theorem ofDouble_injective {x y : Float} (same : ofDouble x = ofDouble y) : x = y := by
  have bits : x.toBits = y.toBits := by
    by_cases nan : ofDouble x = .nan
    · exact UInt64.toBitVec_inj.mp ((nan_word nan).trans (nan_word (same ▸ nan)).symm)
    · exact UInt64.toNat_inj.mp (ofWord_injective x.toBits.toNat_lt y.toBits.toNat_lt same nan)
  -- A double is its word and that this is an allowed one.
  obtain ⟨⟨_, _⟩⟩ := x
  obtain ⟨⟨_, _⟩⟩ := y
  cases bits
  rfl

end Binary

end DocMapper
