import StartupGate.Proofs.Number.Range
/-!
# Doubles and zero

The sum of zero and a double is that double, unless both are zeros (`add_of_isZero`), and a double
is above zero by one kind of comparison exactly if it is by the other (`lt_iff_of_isZero`). Both are
read off the logical model of doubles, whose operations unpack their operands and pack their result.

- `parts_eq`: what a double stands for, told by its unpacked form.
- `pack_unpack`: packing what was unpacked gives the same bits, for any but a second pattern of bits
  that is no number.
- `isPositive_ofInt`: a positive integer is not rounded to zero.
-/

namespace StartupGate.Number.Binary64

open Float.Model Float.Model.UnpackedFloat

/-! ## The three fields of a double -/

section Fields

variable (b : BitVec Format.binary64.numBits)

theorem toNat_unpackMantissa :
    (unpackMantissa b).toNat = b.toNat % twoPow 52 := by
  simp [unpackMantissa, BitVec.extractLsb, twoPow]

theorem toNat_unpackSign :
    (unpackSign b).toNat = b.toNat / twoPow 63 % 2 := by
  simp [unpackSign, BitVec.extractLsb, Nat.shiftRight_eq_div_pow, twoPow]

theorem toBitVec_ofBitVec (s : BitVec 1) : (Sign.ofBitVec s).toBitVec = s := by
  revert s
  decide

theorem isNegative_ofBitVec (s : BitVec 1) : (Sign.ofBitVec s == .negative) = (s.toNat == 1) := by
  revert s
  decide

/-- The bit that a normal number does not write is the one above its fraction. -/
theorem toNat_one_append (m : BitVec 52) : (1#1 ++ m).toNat = twoPow 52 + m.toNat := by
  rw [BitVec.toNat_append, ← Nat.shiftLeft_add_eq_or_of_lt m.isLt]
  rfl

theorem packComponents_unpack :
    packComponents Format.binary64 (Sign.ofBitVec (unpackSign b)) (unpackExponent b)
      (unpackMantissa b) = b := by
  rw [packComponents, toBitVec_ofBitVec]
  simp only [unpackSign, unpackExponent, unpackMantissa, BitVec.extractLsb]
  ext i hi
  grind

end Fields

/-! ## What a double stands for -/

/-- What an unpacked double stands for. -/
def partsOfUnpacked : UnpackedFloat → Parts
  | .notANumber => .nan
  | .infinity s => .infinite (s == .negative)
  | .zero s => .finite (s == .negative) 0 (-1074)
  | .finite s m e _ => .finite (s == .negative) m e

theorem partsOfBits_toNat (b : BitVec 64) :
    partsOfBits b.toNat = partsOfUnpacked (UnpackedFloat.unpack Format.binary64 b) := by
  have hones : (-1#(Format.binary64.exponentBits)) = 2047#11 := rfl
  have hfield : ∀ e : BitVec 11, ∀ n < 2048, e = BitVec.ofNat 11 n ↔ e.toNat = n := by
    intro e n hn
    rw [← BitVec.toNat_inj, BitVec.toNat_ofNat, Nat.mod_eq_of_lt hn]
  have hfraction : ∀ m : BitVec 52, m = 0#52 ↔ m.toNat = 0 := by
    intro m
    rw [← BitVec.toNat_inj]
    rfl
  rw [partsOfBits, UnpackedFloat.unpack, hones, ← toNat_unpackMantissa, ← exponentField,
    ← toNat_unpackExponent, ← toNat_unpackSign, ← isNegative_ofBitVec]
  dsimp only
  simp only [hfield _ 2047 (by decide), hfield _ 0 (by decide), hfraction]
  split
  · -- The field of infinity and of what is no number.
    split <;> rfl
  · split
    · -- The field of zero and of the numbers below the least normal one.
      rename_i hzero
      split
      · rename_i hm
        rw [hm]
        rfl
      · rw [hzero]
        rfl
    · rw [← toNat_one_append]
      rfl

theorem parts_eq (x : Float) : parts x = partsOfUnpacked x.toModel.unpack := partsOfBits_toNat _

/-! ## Packing what was unpacked -/

theorem pack_unpack {b : BitVec Format.binary64.numBits} (hvalid : Format.binary64.Valid b) :
    UnpackedFloat.pack Format.binary64 (UnpackedFloat.unpack Format.binary64 b) = b := by
  have hfields := packComponents_unpack b
  have hexponent : (unpackExponent b).toNat < 2048 := (unpackExponent b).isLt
  have hmantissa : (unpackMantissa b).toNat < 2 ^ 52 := (unpackMantissa b).isLt
  rw [UnpackedFloat.unpack]
  dsimp only
  split
  · rename_i hones
    split
    · rename_i hzero
      rwa [hones, hzero] at hfields
    · rename_i hnonzero
      exact (hvalid.eq_packedNaN hones hnonzero).symm
  · rename_i hfinite
    split
    · rename_i hleast
      split
      · rename_i hzero
        rwa [hleast, hzero] at hfields
      · -- The fraction alone has too few digits for a normal number.
        rename_i hnonzero
        have hdigits : (unpackMantissa b).toNat.log2 ≠ 52 := by
          intro hlog
          have hle := Nat.log2_self_le (BitVec.toNat_ne_iff_ne.mpr hnonzero)
          rw [hlog] at hle
          omega
        rw [hleast] at hfields ⊢
        refine (pack_finite _ (e := 1) _ (by decide)).trans ?_
        rwa [if_neg hdigits, BitVec.ofNat_toNat, BitVec.setWidth_eq]
    · -- The bit above the fraction is the leading digit.
      have hvalue := toNat_one_append (unpackMantissa b)
      have hunit : twoPow 52 = 2 ^ 52 := rfl
      have hdigits : (1#1 ++ unpackMantissa b).toNat.log2 = 52 := by
        rw [Nat.log2_eq_iff (by omega)]
        constructor <;> omega
      have hne : (unpackExponent b).toNat ≠ 2047 := fun h => hfinite (BitVec.eq_of_toNat_eq h)
      have hfraction : BitVec.ofNat 52 (1#1 ++ unpackMantissa b).toNat = unpackMantissa b := by
        apply BitVec.eq_of_toNat_eq
        rw [BitVec.toNat_ofNat, hvalue]
        omega
      refine (pack_finite _ _ (by omega)).trans ?_
      rwa [if_pos hdigits, hfraction, BitVec.ofNat_toNat, BitVec.setWidth_eq]

/-- A double is what its unpacked form is packed to. -/
theorem model_eq (m : Float.Model) : Float.Model.pack m.unpack = m := by
  obtain ⟨bits, hvalid⟩ := m
  rw [Float.Model.pack, Float.Model.mk.injEq]
  exact congrArg UInt64.ofBitVec (pack_unpack hvalid)

/-! ## Above zero -/

/-- What stands for more than zero, infinity included. -/
def Parts.IsPositive : Parts → Prop
  | .nan => False
  | .infinite negative => negative = false
  | .finite negative m _ => negative = false ∧ 0 < m

/-- One of the two zeros. -/
def IsZero (x : Float) : Prop := ∃ sign, x.toModel.unpack = .zero sign

theorem compare_mul_right (a b : Int) {k : Int} (hk : 0 < k) :
    compare (a * k) (b * k) = compare a b := by
  rw [← cmp_eq_compare, ← cmp_eq_compare, cmp_mul_pos_right hk]

theorem zero_lt_twoPow (n : Nat) : (0 : Int) < (twoPow n : Nat) := Int.natCast_pos.mpr (twoPow_pos n)

theorem isZero_zero : IsZero 0 := ⟨.positive, rfl⟩

/-- An integer compares with either of the zeros as with zero. -/
theorem compareInt_of_isZero (n : Int) {z : Float} (hz : IsZero z) :
    compareInt n z = some (compare n 0) := by
  obtain ⟨sign, hz⟩ := hz
  have hscaled := compare_mul_right n 0 (zero_lt_twoPow 1074)
  rw [Int.zero_mul] at hscaled
  rw [compareInt, parts_eq, hz, ← hscaled]
  cases sign <;> rfl

/-- Zero compares with a double by the sign alone. -/
theorem compareInt_zero_left (x : Float) :
    compareInt 0 x = match parts x with
      | .nan => none
      | .infinite negative => some (if negative then .gt else .lt)
      | .finite negative m _ => some (compare 0 (if negative then -(m : Int) else m)) := by
  rw [compareInt]
  cases parts x with
  | nan | infinite => rfl
  | finite negative m q =>
    dsimp only
    split
    · have hscaled := compare_mul_right 0 (if negative then -(m : Int) else m)
        (zero_lt_twoPow q.toNat)
      rw [Int.zero_mul] at hscaled
      rw [hscaled]
    · rw [Int.zero_mul]

theorem compareInt_zero_eq_lt_iff {x : Float} :
    compareInt 0 x = some .lt ↔ (parts x).IsPositive := by
  rw [compareInt_zero_left]
  cases parts x with
  | nan => simp [Parts.IsPositive]
  | infinite negative => cases negative <;> simp [Parts.IsPositive]
  | finite negative m q =>
    cases negative <;> simp [Parts.IsPositive, Int.compare_eq_lt]

theorem compareInt_zero_eq_none_iff {x : Float} : compareInt 0 x = none ↔ parts x = .nan := by
  rw [compareInt_zero_left]
  cases parts x <;> simp

theorem compareInt_zero_eq_eq_iff {x : Float} : compareInt 0 x = some .eq ↔ IsZero x := by
  rw [compareInt_zero_left, parts_eq, IsZero]
  cases x.toModel.unpack with
  | notANumber => simp [partsOfUnpacked]
  | infinity sign => cases sign <;> simp [partsOfUnpacked]
  | zero sign => cases sign <;> simp [partsOfUnpacked]
  | finite sign m e hpos => cases sign <;> simp [partsOfUnpacked] <;> omega

theorem lt_iff_of_isZero {z x : Float} (hz : IsZero z) : z < x ↔ (parts x).IsPositive := by
  obtain ⟨sign, hz⟩ := hz
  have hunfold : z < x ↔ UnpackedFloat.lt z.toModel.unpack x.toModel.unpack = true :=
    decide_eq_true_iff
  rw [hunfold, hz, parts_eq]
  cases x.toModel.unpack with
  | notANumber => simp [UnpackedFloat.lt, UnpackedFloat.compare, partsOfUnpacked, Parts.IsPositive]
  | infinity sign =>
    cases sign <;> simp [UnpackedFloat.lt, UnpackedFloat.compare, partsOfUnpacked, Parts.IsPositive]
  | zero sign => simp [UnpackedFloat.lt, UnpackedFloat.compare, partsOfUnpacked, Parts.IsPositive]
  | finite sign m e hpos =>
    cases sign <;>
      simp [UnpackedFloat.lt, UnpackedFloat.compare, partsOfUnpacked, Parts.IsPositive, hpos]

/-- **Zero and a double that is no zero have this double as their sum**, be it no number. -/
theorem add_of_isZero {z x : Float} (hz : IsZero z) (hx : ¬ IsZero x) : z + x = x := by
  obtain ⟨sign, hz⟩ := hz
  have hadd : UnpackedFloat.add Format.binary64 z.toModel.unpack x.toModel.unpack
      = x.toModel.unpack := by
    rw [hz]
    cases hunpacked : x.toModel.unpack with
    | notANumber | infinity | finite => rfl
    | zero sign' => exact absurd ⟨sign', hunpacked⟩ hx
  show Float.ofModel (Float.Model.pack (UnpackedFloat.add Format.binary64 _ _)) = x
  rw [hadd, model_eq]

/-! ## Positive integers -/

/-- The bits up to those of infinity are the bits of a double. -/
theorem toBits_ofBits {bits : UInt64} (hle : bits.toNat ≤ infinityBits) :
    (Float.ofBits bits).toBits = bits := by
  have hvalid : Format.binary64.Valid bits.toBitVec := by
    -- With all ones in their exponent field these are the bits of infinity.
    refine ⟨fun hones hnonzero => absurd (BitVec.eq_of_toNat_eq ?_) hnonzero⟩
    have hfield := toNat_unpackExponent bits.toBitVec
    rw [hones] at hfield
    have hvalue : 2047 = bits.toNat / 2 ^ 52 % 2 ^ 11 := hfield
    have hinfinity : infinityBits = 2047 * 2 ^ 52 := rfl
    rw [toNat_unpackMantissa]
    show bits.toNat % 2 ^ 52 = 0
    omega
  exact congrArg Float.Model.toBits (model_eq ⟨bits, hvalid⟩)

/-- Bits without a sign that are not all zeros, up to those of infinity, are those of a number above
zero. -/
theorem isPositive_withSign {bits : Nat} (hpos : 0 < bits) (hle : bits ≤ infinityBits) :
    (parts (withSign false bits)).IsPositive := by
  have hinfinity : infinityBits = 2047 * 2 ^ 52 := rfl
  have hvalue : (UInt64.ofNat bits).toNat = bits := by
    rw [UInt64.toNat_ofNat', Nat.mod_eq_of_lt (by omega)]
  have hparts : parts (withSign false bits) = partsOfBits bits := by
    show partsOfBits (Float.ofBits (UInt64.ofNat bits)).toBits.toNat = _
    rw [toBits_ofBits (by rwa [hvalue]), hvalue]
  have hsign : (bits / twoPow 63 % 2 == 1) = false := by
    have hlow : bits < twoPow 63 := hle.trans_lt (by decide)
    rw [Nat.div_eq_of_lt hlow]
    rfl
  have hunit : twoPow 52 = 2 ^ 52 := rfl
  have hrange : twoPow 11 = 2 ^ 11 := rfl
  rw [hparts, partsOfBits, hsign, hunit, hrange]
  split
  · rw [if_pos (by omega)]
    rfl
  · split
    · exact ⟨rfl, by omega⟩
    · exact ⟨rfl, by omega⟩

/-- A quotient that is one at least is not rounded to zero. -/
theorem bitsOfRatio_pos {num den : Nat} (hden : 0 < den) (hle : den ≤ num) :
    0 < bitsOfRatio num den := by
  have hnum : num ≠ 0 := by omega
  have hone : Reaches num den 0 := by
    simpa [Reaches, twoPow_zero] using hle
  have hleast : -1074 ≤ place num den := le_max_right _ _
  -- The quotient is one unit of its last place at least.
  have hplace : Reaches num den (place num den) := by
    rcases (place_spec hnum hden.ne').2 with hlast | hnormal
    · exact hone.anti (by omega)
    · exact hnormal.anti (by omega)
  have hsignificand := significand_pos hden hplace
  rw [bitsOfRatio_eq hnum]
  split
  · decide
  · split
    · exact hsignificand
    · -- The exponent field of a normal number is not zero.
      have hfield : 1 * twoPow 52 ≤ (place num den + 1075).toNat * twoPow 52 :=
        Nat.mul_le_mul_right _ (by omega)
      have hunit := twoPow_pos 52
      omega

/-- An integer has a finite nearest double exactly when it is below `overflow`. -/
theorem ofInt?_eq (n : Int) : ofInt? n = if n.natAbs < overflow then some (ofInt n) else none := by
  have hfinite : (ofInt n).isFinite = true ↔ n.natAbs < overflow := by
    rw [ofInt, isFinite_ofRatio n Nat.one_pos, Nat.one_mul]
  rw [ofInt?]
  simp only [hfinite]

/-- **A positive integer is not rounded to zero.** -/
theorem isPositive_ofInt {n : Int} (hn : 0 < n) : (parts (ofInt n)).IsPositive := by
  have hsign : decide (n < 0) = false := decide_eq_false (by omega)
  rw [ofInt, ofRatio, hsign]
  apply isPositive_withSign
  · exact bitsOfRatio_pos Nat.one_pos (by omega)
  · exact bitsOfRatio_le_infinityBits Nat.one_pos

end StartupGate.Number.Binary64
