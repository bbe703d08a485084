import Mathlib
import FieldCalc.Number.Binary

/-!
The IEEE 754 encoding of a float and its finite parts.

`Float.ofBits` packs the unpacked form of a bit pattern again, which gives the
pattern back whenever it is a valid encoding (the only NaN being the canonical
one); so every float is `assemble` of its own sign, exponent and fraction
fields. From that, the parts `parts?` reads off a finite float are `Valid`
(a significand below `2^53` that is normal unless the exponent is the least
one) and rebuild the float by `Parts.toFloat`; and valid parts are the parts
of the float they build (`parts?_toFloat`).
-/

namespace FieldCalc.Binary

open Float.Model Float.Model.UnpackedFloat

section Packing

theorem sign_toBitVec_ofBitVec (v : BitVec 1) : (Sign.ofBitVec v).toBitVec = v := by
  unfold Sign.ofBitVec
  split
  next zero => exact zero.symm
  next nonzero =>
    simp only [Sign.toBitVec]
    bv_omega

theorem unpackExponent_toNat (b : BitVec 64) :
    (@unpackExponent Format.binary64 b).toNat = b.toNat / 2 ^ 52 % 2 ^ 11 := by
  simp [unpackExponent, BitVec.extractLsb_toNat, Nat.shiftRight_eq_div_pow]

theorem packComponents_unpack (b : BitVec 64) :
    packComponents Format.binary64 (Sign.ofBitVec (@unpackSign Format.binary64 b))
      (@unpackExponent Format.binary64 b) (@unpackMantissa Format.binary64 b) = b := by
  rw [packComponents, sign_toBitVec_ofBitVec]
  apply BitVec.eq_of_toNat_eq
  simp only [unpackSign, unpackExponent, unpackMantissa, BitVec.toNat_append, BitVec.toNat_cast,
    BitVec.extractLsb_toNat]
  rw [← Nat.shiftLeft_add_eq_or_of_lt (Nat.mod_lt _ (Nat.two_pow_pos _)),
    ← Nat.shiftLeft_add_eq_or_of_lt (Nat.mod_lt _ (Nat.two_pow_pos _))]
  simp only [Nat.shiftLeft_eq, Nat.shiftRight_eq_div_pow]
  have := b.isLt
  omega

private theorem binary64_exponentBias : Format.binary64.exponentBias = 1023 := rfl
private theorem binary64_mantissaBits : Format.binary64.mantissaBits = 53 := rfl
private theorem binary64_exponentBits : Format.binary64.exponentBits = 11 := rfl

theorem pack_unpack {b : BitVec 64} (valid : Format.binary64.Valid b) :
    UnpackedFloat.pack Format.binary64 (UnpackedFloat.unpack Format.binary64 b) = b := by
  have whole := packComponents_unpack b
  have exponentBelow : (@unpackExponent Format.binary64 b).toNat < 2 ^ 11 :=
    (@unpackExponent Format.binary64 b).isLt
  have mantissaBelow : (@unpackMantissa Format.binary64 b).toNat < 2 ^ 52 :=
    (@unpackMantissa Format.binary64 b).isLt
  unfold UnpackedFloat.unpack
  dsimp only
  split
  next allOnes =>
    split
    next zeroM =>
      rw [UnpackedFloat.pack, packedInfinity, ← allOnes]
      conv => rhs; rw [← whole]
      rw [zeroM]
      rfl
    next nonzeroM =>
      rw [UnpackedFloat.pack]
      exact (valid.eq_packedNaN allOnes nonzeroM).symm
  next notAllOnes =>
    have notTop : (@unpackExponent Format.binary64 b).toNat ≠ 2047 := fun top =>
      notAllOnes (BitVec.eq_of_toNat_eq (by simpa using top))
    split
    next zeroE =>
      have zeroE' : (@unpackExponent Format.binary64 b).toNat = 0 := by simp [zeroE]
      split
      next zeroM =>
        rw [UnpackedFloat.pack, packedZero]
        conv => rhs; rw [← whole]
        rw [zeroE, zeroM]
        rfl
      next nonzeroM =>
        have small : (@unpackMantissa Format.binary64 b).toNat.log2 < 52 :=
          (Nat.log2_lt (by simpa [BitVec.toNat_eq] using nonzeroM)).mpr mantissaBelow
        rw [UnpackedFloat.pack]
        simp only [Format.binary64, Format.exponentBias, Format.mantissaBits, zeroE']
        rw [if_neg (by decide), if_neg (by omega), BitVec.ofNat_toNat, BitVec.setWidth_eq]
        conv => rhs; rw [← whole]
        rw [zeroE]
    next nonzeroE =>
      have full : (1#1 ++ @unpackMantissa Format.binary64 b).toNat =
          2 ^ 52 + (@unpackMantissa Format.binary64 b).toNat := by
        rw [BitVec.toNat_append, ← Nat.shiftLeft_add_eq_or_of_lt mantissaBelow]
        simp [Nat.shiftLeft_eq]
      have log : (2 ^ 52 + (@unpackMantissa Format.binary64 b).toNat).log2 = 52 :=
        (Nat.log2_eq_iff (by omega)).mpr ⟨by omega, by omega⟩
      have biased : (((@unpackExponent Format.binary64 b).toNat : Int) -
          ((Format.binary64.exponentBias : Nat) + (52 : Nat)) + (Format.binary64.exponentBias : Nat) +
          (Format.binary64.mantissaBitsWithoutImplicit : Nat)).toNat =
          (@unpackExponent Format.binary64 b).toNat := by
        simp only [binary64_exponentBias]
        omega
      rw [UnpackedFloat.pack]
      simp only [full, log, biased, binary64_mantissaBits, binary64_exponentBits]
      rw [if_neg (by omega), if_pos trivial]
      conv => rhs; rw [← whole]
      congr 1
      · exact BitVec.eq_of_toNat_eq (by simp)
      · exact BitVec.eq_of_toNat_eq (by simp; omega)

theorem ofBits_toBits (x : Float) : Float.ofBits x.toBits = x := by
  obtain ⟨⟨bits, valid⟩⟩ := x
  simp only [Float.ofBits, Float.toBits, Float.Model.ofBits, Float.Model.pack, pack_unpack valid]

theorem toBits_ofBits {b : UInt64} (valid : Format.binary64.Valid b.toBitVec) :
    (Float.ofBits b).toBits = b := by
  simp only [Float.ofBits, Float.toBits, Float.Model.ofBits, Float.Model.pack, pack_unpack valid]

theorem valid_of_exponent_ne {b : UInt64} (notTop : b.toNat / 2 ^ 52 % 2 ^ 11 ≠ 2047) :
    Format.binary64.Valid b.toBitVec := by
  constructor
  intro top
  have exponent := unpackExponent_toNat b.toBitVec
  rw [top] at exponent
  exact absurd exponent.symm (by simpa using notTop)

end Packing

section Fields

theorem biasedExp_eq (x : Float) : biasedExp x = x.toBits.toNat / 2 ^ 52 % 2 ^ 11 := by
  simp only [biasedExp, UInt64.toNat_and, UInt64.toNat_shiftRight]
  rw [show (0x7FF : UInt64).toNat = 2 ^ 11 - 1 from rfl, Nat.and_two_pow_sub_one_eq_mod]
  simp [Nat.shiftRight_eq_div_pow]

theorem fraction_eq (x : Float) : fraction x = x.toBits.toNat % 2 ^ 52 := by
  simp only [fraction, UInt64.toNat_and]
  rw [show (0xFFFFFFFFFFFFF : UInt64).toNat = 2 ^ 52 - 1 from rfl, Nat.and_two_pow_sub_one_eq_mod]

theorem signBit_iff (x : Float) : signBit x = true ↔ 2 ^ 63 ≤ x.toBits.toNat := by
  simp only [signBit, beq_iff_eq]
  rw [← UInt64.toNat_inj, UInt64.toNat_shiftRight]
  have := x.toBits.toNat_lt
  simp [Nat.shiftRight_eq_div_pow]
  omega

theorem biasedExp_lt (x : Float) : biasedExp x < 2 ^ 11 := by
  rw [biasedExp_eq]
  exact Nat.mod_lt _ (by decide)

theorem fraction_lt (x : Float) : fraction x < 2 ^ 52 := by
  rw [fraction_eq]
  exact Nat.mod_lt _ (by decide)

theorem toBits_toNat_eq (x : Float) :
    x.toBits.toNat = (if signBit x then 2 ^ 63 else 0) + biasedExp x * 2 ^ 52 + fraction x := by
  rw [biasedExp_eq, fraction_eq]
  have := x.toBits.toNat_lt
  have sign := signBit_iff x
  split <;> simp_all <;> omega

theorem assemble_fields (x : Float) : assemble (signBit x) (biasedExp x) (fraction x) = x := by
  have bits : UInt64.ofNat ((if signBit x then Nat.pow 2 63 else 0) + biasedExp x * Nat.pow 2 52 +
      fraction x) = x.toBits := by
    apply UInt64.toNat_inj.mp
    have decomposed := toBits_toNat_eq x
    simp only [Nat.pow_eq] at decomposed ⊢
    rw [← decomposed, UInt64.toNat_ofNat_of_lt' x.toBits.toNat_lt]
  rw [assemble, bits, ofBits_toBits]

/-- The fields of an assembled float, with an exponent field other than all
ones, are the ones it was assembled from. -/
theorem assemble_fields_eq (neg : Bool) (biased : Nat) {frac : Nat} (notTop : biased < 2047)
    (fracBelow : frac < 2 ^ 52) :
    signBit (assemble neg biased frac) = neg ∧ biasedExp (assemble neg biased frac) = biased ∧
      fraction (assemble neg biased frac) = frac := by
  have small : (if neg then 2 ^ 63 else 0) + biased * 2 ^ 52 + frac < 2 ^ 64 := by
    split <;> omega
  have ofNat : (UInt64.ofNat ((if neg then Nat.pow 2 63 else 0) + biased * Nat.pow 2 52 + frac)).toNat =
      (if neg then 2 ^ 63 else 0) + biased * 2 ^ 52 + frac := by
    rw [UInt64.toNat_ofNat', Nat.pow_eq, Nat.pow_eq, Nat.mod_eq_of_lt small]
  have bits : (assemble neg biased frac).toBits.toNat =
      (if neg then 2 ^ 63 else 0) + biased * 2 ^ 52 + frac := by
    rw [assemble, toBits_ofBits (valid_of_exponent_ne (by rw [ofNat]; split <;> omega)), ofNat]
  refine ⟨?_, ?_, ?_⟩
  · cases neg
    · rw [← Bool.not_eq_true, signBit_iff, bits]
      simp only [Bool.false_eq_true, if_false]
      omega
    · rw [signBit_iff, bits]
      simp only [if_true]
      omega
  · rw [biasedExp_eq, bits]
    split <;> omega
  · rw [fraction_eq, bits]
    split <;> omega

theorem isFinite_iff (x : Float) : x.isFinite = true ↔ biasedExp x ≠ 2047 := by
  have exponent : (@unpackExponent Format.binary64 x.toModel.toBits.toBitVec).toNat = biasedExp x := by
    rw [unpackExponent_toNat, biasedExp_eq]
    rfl
  simp only [Float.isFinite, Float.Model.isFinite, Float.Model.unpack]
  unfold UnpackedFloat.unpack
  dsimp only
  split
  next allOnes =>
    have top : biasedExp x = 2047 := by rw [← exponent, allOnes]; rfl
    split <;> simp [UnpackedFloat.isFinite, top]
  next notAllOnes =>
    have notTop : biasedExp x ≠ 2047 := fun top =>
      notAllOnes (BitVec.eq_of_toNat_eq (by rw [exponent, top]; rfl))
    split
    · split <;> simp [UnpackedFloat.isFinite, notTop]
    · simp [UnpackedFloat.isFinite, notTop]

end Fields

section Parts

/-- Parts that a finite float has: a significand below `2^53`, normal
(`2^52` or more) unless the exponent is the least one, and an exponent in the
range of binary64. -/
structure Parts.Valid (p : Parts) : Prop where
  mantissa_lt : p.mantissa < 2 ^ 53
  normal_or_least : 2 ^ 52 ≤ p.mantissa ∨ p.exp = -1074
  least_le : -1074 ≤ p.exp
  le_greatest : p.exp ≤ 971

/-- The float with the given finite parts. -/
def Parts.toFloat (p : Parts) : Float :=
  if p.mantissa < 2 ^ 52 then assemble p.neg 0 p.mantissa
  else assemble p.neg (p.exp + 1075).toNat (p.mantissa - 2 ^ 52)

theorem parts?_spec {x : Float} {p : Parts} (parts : parts? x = some p) :
    p.Valid ∧ p.toFloat = x := by
  have exponentBelow := biasedExp_lt x
  have fractionBelow := fraction_lt x
  unfold parts? at parts
  dsimp only at parts
  split at parts
  next => cases parts
  next notTop =>
    split at parts
    next zero =>
      cases parts
      have zero : biasedExp x = 0 := by simpa using zero
      refine ⟨⟨by dsimp only; omega, .inr rfl, by dsimp only; omega, by dsimp only; omega⟩, ?_⟩
      simp only [Parts.toFloat, if_pos fractionBelow]
      rw [← zero, assemble_fields]
    next positive =>
      cases parts
      have notTop : biasedExp x ≠ 2047 := by simpa using notTop
      have positive : biasedExp x ≠ 0 := by simpa using positive
      refine ⟨⟨by simp only [Nat.pow_eq]; omega, .inl (by simp [Nat.pow_eq]), by dsimp only; omega,
        by dsimp only; omega⟩, ?_⟩
      have biased : ((biasedExp x : Int) - 1075 + 1075).toNat = biasedExp x := by omega
      simp only [Parts.toFloat, Nat.pow_eq, biased]
      rw [if_neg (by omega), Nat.add_sub_cancel, assemble_fields]

theorem parts?_isSome {x : Float} (finite : x.isFinite = true) : ∃ p, parts? x = some p := by
  have notTop := (isFinite_iff x).mp finite
  unfold parts?
  dsimp only
  rw [if_neg (by simpa using notTop)]
  split
  · exact ⟨_, rfl⟩
  · exact ⟨_, rfl⟩

theorem parts?_toFloat {p : Parts} (valid : p.Valid) : parts? p.toFloat = some p := by
  have mantissaBelow := valid.mantissa_lt
  have least := valid.least_le
  have greatest := valid.le_greatest
  unfold Parts.toFloat
  split
  next subnormal =>
    have exponent : p.exp = -1074 := valid.normal_or_least.resolve_left (by omega)
    obtain ⟨sign, biased, frac⟩ := assemble_fields_eq p.neg 0 (by omega) subnormal
    simp only [parts?, biased, frac, sign, beq_self_eq_true, if_true, ← exponent]
    rfl
  next normal =>
    obtain ⟨sign, biased, frac⟩ := assemble_fields_eq p.neg (p.exp + 1075).toNat
      (by omega) (show p.mantissa - 2 ^ 52 < 2 ^ 52 by omega)
    have notTop : ((p.exp + 1075).toNat == 0x7FF) = false := by simp; omega
    have notZero : ((p.exp + 1075).toNat == 0) = false := by simp; omega
    simp only [parts?, biased, frac, sign, notTop, notZero, Bool.false_eq_true, if_false, Nat.pow_eq]
    congr 2
    · omega
    · omega

end Parts

end FieldCalc.Binary
