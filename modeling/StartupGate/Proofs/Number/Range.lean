import Mathlib
import StartupGate.Number.Binary64
/-!
# The range of doubles

A quotient of integers has a nearest double that is finite exactly when it is below `overflow`,
which lies halfway between the greatest double and the power of two after it
(`ofQuotient?_isSome_iff`).

- `isFinite_ofBits`: the doubles that are not finite are those with an exponent field of ones only.
- `Reaches`: a quotient compared with a power of two whose exponent may be negative, in natural
  numbers alone.
- `bitsOfRatio_lt_infinityBits_iff`: rounding stays below the bits of infinity exactly below
  `overflow`.
-/

namespace StartupGate.Number

/-! ## Rounded quotients -/

theorem roundDiv_le_succ (num den : Nat) : roundDiv num den ≤ num / den + 1 := by
  simp only [roundDiv]
  split
  · exact Nat.le_succ _
  · split
    · exact le_refl _
    · split <;> omega

theorem div_le_roundDiv (num den : Nat) : num / den ≤ roundDiv num den := by
  simp only [roundDiv]
  split
  · exact le_refl _
  · split
    · exact Nat.le_succ _
    · split <;> omega

/-- Below an even number of units a quotient is rounded to less than this number exactly when it is
not within half a unit of it, since the tie goes up. -/
theorem roundDiv_lt_iff {num den k : Nat} (hden : 0 < den) (hlt : num < den * (2 * k)) :
    roundDiv num den < 2 * k ↔ 2 * num < den * (4 * k - 1) := by
  have hdivision := Nat.div_add_mod num den
  have hmod := Nat.mod_lt num hden
  have hq : num / den < 2 * k := (Nat.div_lt_iff_lt_mul hden).mpr (by rwa [Nat.mul_comm] at hlt)
  have hk : 0 < 2 * k := Nat.zero_lt_of_lt hq
  have hround := roundDiv_le_succ num den
  have hhalf : den * (4 * k - 1) + den = 4 * (den * k) := by
    rw [← Nat.mul_succ, Nat.succ_eq_add_one, Nat.sub_add_cancel (by omega), Nat.mul_left_comm]
  by_cases hlast : num / den + 1 < 2 * k
  · -- The next unit is below the bound too, so that there is room for rounding.
    have hroom : den * (num / den + 2) ≤ den * (2 * k) := Nat.mul_le_mul_left den hlast
    rw [Nat.mul_add, Nat.mul_left_comm den 2 k] at hroom
    exact iff_of_true (lt_of_le_of_lt hround hlast) (by omega)
  · -- The last unit below the bound is odd, so that a tie goes up.
    have hodd : num / den = 2 * k - 1 := by omega
    have hunits : den * (num / den) + den = 2 * (den * k) := by
      rw [hodd, ← Nat.mul_succ, Nat.succ_eq_add_one, Nat.sub_add_cancel (by omega),
        Nat.mul_left_comm]
    simp only [roundDiv]
    generalize num / den = q at *
    generalize num % den = r at *
    split
    · omega
    · split
      · omega
      · split <;> omega

namespace Binary64

/-! ## Finite doubles -/

section Finite

open Float.Model Float.Model.UnpackedFloat

/-- The exponent field of a pattern of bits. -/
def exponentField (bits : Nat) : Nat := bits / twoPow 52 % twoPow 11

theorem toNat_unpackExponent (b : BitVec 64) :
    (@unpackExponent Format.binary64 b).toNat = exponentField b.toNat := by
  simp [unpackExponent, BitVec.extractLsb, Nat.shiftRight_eq_div_pow, exponentField, twoPow]

theorem isFinite_unpack (b : BitVec 64) :
    (UnpackedFloat.unpack Format.binary64 b).isFinite
      = decide (@unpackExponent Format.binary64 b ≠ 2047#11) := by
  have hones : (-1#(Format.binary64.exponentBits)) = 2047#11 := rfl
  rw [UnpackedFloat.unpack, hones]
  dsimp only
  split
  · rename_i hfield
    split <;> simp [UnpackedFloat.isFinite, hfield]
  · rename_i hfield
    split
    · split <;> simp [UnpackedFloat.isFinite, hfield]
    · simp [UnpackedFloat.isFinite, hfield]

/-- A number whose exponent fits is packed with it, or with the least one if it has too few digits
for a normal number. -/
theorem pack_finite (sign : Sign) {mantissa e : Nat} (hpos : 0 < mantissa) (hexponent : e < 2047) :
    UnpackedFloat.pack Format.binary64 (.finite sign mantissa (e - 1075) hpos)
      = packComponents Format.binary64 sign
          (if mantissa.log2 = 52 then BitVec.ofNat 11 e else 0#11) (BitVec.ofNat 52 mantissa) := by
  have hbiased : ((e : Int) - 1075 + Format.binary64.exponentBias
      + Format.binary64.mantissaBitsWithoutImplicit).toNat = e := by
    show ((e : Int) - 1075 + (1023 : Nat) + (52 : Nat)).toNat = e
    omega
  have hfits : ¬ 2 ^ Format.binary64.exponentBits ≤ e + 1 := by
    show ¬ 2 ^ 11 ≤ e + 1
    omega
  have hdigits : mantissa.log2 + 1 = Format.binary64.mantissaBits ↔ mantissa.log2 = 52 := by
    show mantissa.log2 + 1 = 52 + 1 ↔ _
    omega
  rw [UnpackedFloat.pack, hbiased]
  simp only [if_neg hfits, hdigits]
  split <;> rfl

/-- A number whose exponent fits is packed as a finite one. -/
theorem unpackExponent_pack_ne (sign : Sign) {mantissa e : Nat} (hpos : 0 < mantissa)
    (hexponent : e < 2047) :
    @unpackExponent Format.binary64
      (UnpackedFloat.pack Format.binary64 (.finite sign mantissa (e - 1075) hpos))
        ≠ 2047#11 := by
  rw [pack_finite sign hpos hexponent, unpackExponent_packComponents]
  split
  · intro hones
    have hvalue := congrArg BitVec.toNat hones
    rw [BitVec.toNat_ofNat, Nat.mod_eq_of_lt (by omega)] at hvalue
    exact absurd hvalue hexponent.ne
  · decide

/-- Packing what was unpacked keeps infinities and what is no number apart from finite numbers. -/
theorem unpackExponent_pack_unpack (b : BitVec 64) :
    @unpackExponent Format.binary64
        (UnpackedFloat.pack Format.binary64 (UnpackedFloat.unpack Format.binary64 b)) = 2047#11 ↔
      @unpackExponent Format.binary64 b = 2047#11 := by
  have hones : (-1#(Format.binary64.exponentBits)) = 2047#11 := rfl
  rw [UnpackedFloat.unpack, hones]
  dsimp only
  split
  · rename_i hfield
    split
    · simp [UnpackedFloat.pack, packedInfinity, hfield]
    · simp [UnpackedFloat.pack, packedNaN, hfield]
  · rename_i hfield
    refine iff_of_false ?_ hfield
    split
    · split
      · simp [UnpackedFloat.pack, packedZero]
      · -- A number below the least normal one has the exponent of that one.
        rename_i hzero hmantissa
        rw [hzero]
        exact unpackExponent_pack_ne (e := 1) _ _ (by decide)
    · apply unpackExponent_pack_ne
      have hlt : (@unpackExponent Format.binary64 b).toNat < 2048 := BitVec.isLt _
      have hne : (@unpackExponent Format.binary64 b).toNat ≠ 2047 :=
        fun h => hfield (BitVec.eq_of_toNat_eq h)
      omega

/-- The doubles that are not finite are those with an exponent field of ones only. -/
theorem isFinite_ofBits (bits : UInt64) :
    (Float.ofBits bits).isFinite = true ↔ exponentField bits.toNat ≠ 2047 := by
  have hunfold : (Float.ofBits bits).isFinite
      = (UnpackedFloat.unpack Format.binary64 (UnpackedFloat.pack Format.binary64
          (UnpackedFloat.unpack Format.binary64 bits.toBitVec))).isFinite := rfl
  have hfield : @unpackExponent Format.binary64 bits.toBitVec = 2047#11 ↔
      exponentField bits.toNat = 2047 := by
    rw [← BitVec.toNat_inj, toNat_unpackExponent]
    rfl
  rw [hunfold, isFinite_unpack, decide_eq_true_eq, ne_eq, unpackExponent_pack_unpack, hfield]

end Finite

/-! ## Quotients and powers of two -/

section Reaches

variable {num den : Nat} {k l : Int}

/-- The quotient `num / den` is not below `2 ^ k`, for an exponent of either sign. -/
def Reaches (num den : Nat) (k : Int) : Prop := den * twoPow k.toNat ≤ num * twoPow (-k).toNat

/-- The exponent may be written as any difference. -/
theorem reaches_iff {a b : Nat} (h : (a : Int) - b = k) :
    Reaches num den k ↔ den * twoPow a ≤ num * twoPow b := by
  obtain ⟨c, hsum⟩ : ∃ c, a = k.toNat + c ∧ b = (-k).toNat + c := ⟨a - k.toNat, by omega, by omega⟩
  rw [hsum.1, hsum.2, twoPow_add, twoPow_add, ← Nat.mul_assoc, ← Nat.mul_assoc]
  exact (Nat.mul_le_mul_right_iff (twoPow_pos c)).symm

theorem Reaches.anti (h : Reaches num den k) (hle : l ≤ k) : Reaches num den l := by
  -- A smaller exponent gives the numerator further factors of two.
  rw [reaches_iff (b := (-k).toNat + (k - l).toNat) (a := k.toNat) (by omega), twoPow_add,
    ← Nat.mul_assoc]
  exact h.trans (Nat.le_mul_of_pos_right _ (twoPow_pos _))

theorem reaches_log2 (hnum : num ≠ 0) :
    Reaches num den ((num.log2 : Int) - (den.log2 + 1 : Nat)) := by
  rw [reaches_iff rfl, Nat.mul_comm den]
  exact Nat.mul_le_mul (Nat.log2_self_le hnum) Nat.lt_log2_self.le

theorem not_reaches_log2 (hden : den ≠ 0) :
    ¬ Reaches num den ((num.log2 + 1 : Nat) - (den.log2 : Int)) := by
  rw [reaches_iff rfl, Nat.not_le, Nat.mul_comm den]
  exact Nat.mul_lt_mul_of_lt_of_le Nat.lt_log2_self (Nat.log2_self_le hden)
    (Nat.pos_of_ne_zero hden)

end Reaches

/-! ## The place of the last digit -/

section Place

variable {num den : Nat}

/-- The exponent of the last binary place of the double nearest to a quotient, were there no
greatest double. -/
def place (num den : Nat) : Int :=
  let guess : Int := (num.log2 : Int) - den.log2 - 52
  max (if num * twoPow (-guess).toNat < den * twoPow guess.toNat * twoPow 52 then guess - 1
    else guess) (-1074)

/-- A quotient in units of the last place is below `2 ^ 53`, and not below `2 ^ 52` unless the place
is the least there is. -/
theorem place_spec (hnum : num ≠ 0) (hden : den ≠ 0) :
    ¬ Reaches num den (place num den + 53) ∧
      (place num den = -1074 ∨ Reaches num den (place num den + 52)) := by
  have hlow : Reaches num den ((num.log2 : Int) - (den.log2 + 1 : Nat)) := reaches_log2 hnum
  have hhigh : ¬ Reaches num den ((num.log2 + 1 : Nat) - (den.log2 : Int)) :=
    not_reaches_log2 hden
  simp only [place]
  generalize hguess : (num.log2 : Int) - den.log2 - 52 = guess
  have hunits : num * twoPow (-guess).toNat < den * twoPow guess.toNat * twoPow 52 ↔
      ¬ Reaches num den (guess + 52) := by
    rw [Nat.mul_assoc, ← twoPow_add, ← Nat.not_le,
      reaches_iff (a := guess.toNat + 52) (b := (-guess).toNat) (by omega)]
  have hexact : ∀ exact : Int, Reaches num den (exact + 52) → ¬ Reaches num den (exact + 53) →
      ¬ Reaches num den (max exact (-1074) + 53) ∧
        (max exact (-1074) = -1074 ∨ Reaches num den (max exact (-1074) + 52)) := by
    intro exact hreaches hnot
    refine ⟨fun h => hnot (h.anti (by omega)), ?_⟩
    rcases le_total exact (-1074) with hle | hle
    · exact .inl (max_eq_right hle)
    · exact .inr (by rwa [max_eq_left hle])
  split
  · -- The first guess is too high by one.
    rename_i hbelow
    exact hexact _ (hlow.anti (by omega)) fun h => hunits.mp hbelow (h.anti (by omega))
  · rename_i hbelow
    exact hexact _ (not_not.mp (mt hunits.mpr hbelow)) fun h => hhigh (h.anti (by omega))

/-- A quotient in units of a place, as a pair of natural numbers. -/
theorem scale_eq (num den : Nat) (e : Int) :
    (if 0 ≤ e then (num, den * twoPow e.toNat) else (num * twoPow (-e).toNat, den))
      = (num * twoPow (-e).toNat, den * twoPow e.toNat) := by
  split
  · rw [show (-e).toNat = 0 by omega]
    simp [twoPow]
  · rw [show e.toNat = 0 by omega]
    simp [twoPow]

/-- The digits of the double nearest to a quotient, as a whole number. -/
def significand (num den : Nat) : Nat :=
  roundDiv (num * twoPow (-place num den).toNat) (den * twoPow (place num den).toNat)

theorem units_lt (hnum : num ≠ 0) (hden : 0 < den) :
    num * twoPow (-place num den).toNat
      < den * twoPow (place num den).toNat * (2 * twoPow 52) := by
  have hbelow := (place_spec hnum hden.ne').1
  rw [reaches_iff (a := (place num den).toNat + 53) (b := (-place num den).toNat) (by omega),
    Nat.not_le] at hbelow
  rwa [← twoPow_succ, Nat.mul_assoc, ← twoPow_add]

theorem significand_le (hnum : num ≠ 0) (hden : 0 < den) :
    significand num den ≤ 2 * twoPow 52 := by
  have hpos : 0 < den * twoPow (place num den).toNat := Nat.mul_pos hden (twoPow_pos _)
  have hquotient := (Nat.div_lt_iff_lt_mul hpos).mpr
    ((units_lt hnum hden).trans_eq (Nat.mul_comm _ _))
  exact (roundDiv_le_succ _ _).trans hquotient

theorem significand_pos (hden : 0 < den) (h : Reaches num den (place num den)) :
    0 < significand num den := by
  have hunit : 0 < den * twoPow (place num den).toNat := Nat.mul_pos hden (twoPow_pos _)
  exact (Nat.div_pos h hunit).trans_le (div_le_roundDiv _ _)

theorem bitsOfRatio_eq (hnum : num ≠ 0) (den : Nat) :
    bitsOfRatio num den
      = if 971 < place num den then infinityBits
        else if significand num den < twoPow 52 then significand num den
        else (place num den + 1075).toNat * twoPow 52 + (significand num den - twoPow 52) := by
  unfold bitsOfRatio
  rw [if_neg hnum]
  extract_lets scale guess exact e
  have hscale : ∀ e, scale e = (num * twoPow (-e).toNat, den * twoPow e.toNat) :=
    fun e => scale_eq num den e
  have hexact : exact = if num * twoPow (-guess).toNat < den * twoPow guess.toNat * twoPow 52
      then guess - 1 else guess := by
    unfold exact
    rw [hscale]
  have hplace : e = place num den := by
    unfold e
    rw [hexact]
    rfl
  -- The place is no longer computed from here on.
  clear_value e
  rw [hscale, hplace, significand]

end Place

/-! ## Overflow -/

/-- The least number that is rounded to infinity. It lies halfway between the greatest double and
the power of two after it. -/
def overflow : Nat := twoPow 1024 - twoPow 970

theorem overflow_eq : overflow = (twoPow 54 - 1) * twoPow 970 := by
  rw [overflow, show 1024 = 54 + 970 from rfl, twoPow_add_sub]

theorem overflow_pos : 0 < overflow := by
  rw [overflow_eq]
  have hdigits : 0 < twoPow 54 - 1 := by decide
  exact Nat.mul_pos hdigits (twoPow_pos _)

/-- How large `overflow` is, in powers of ten. -/
theorem overflow_bounds : tenPow 308 < overflow ∧ 1000 * overflow ≤ tenPow 400 := by
  -- The powers are computed in parts, each of which is small enough.
  have hlast : twoPow 970 = twoPow 256 * twoPow 256 * (twoPow 256 * twoPow 202) := by
    rw [show 970 = 256 + 256 + (256 + 202) from rfl, twoPow_add (256 + 256), twoPow_add 256 256,
      twoPow_add 256 202]
  have hlower : tenPow 308 = tenPow 154 * tenPow 154 := tenPow_add 154 154
  have hupper : tenPow 400 = tenPow 200 * tenPow 200 := tenPow_add 200 200
  rw [overflow_eq, hlast, hlower, hupper]
  decide +kernel

/-- A number that is not below the power of two after the greatest double is not below
`overflow`. -/
theorem Reaches.overflow_le {num den : Nat} (h : Reaches num den 1024) :
    den * overflow ≤ num := by
  rw [reaches_iff (a := 1024) (b := 0) (by omega), twoPow_zero, Nat.mul_one] at h
  have hle : overflow ≤ twoPow 1024 := by
    rw [overflow]
    exact Nat.sub_le _ _
  exact (Nat.mul_le_mul_left den hle).trans h

theorem lt_overflow_of_not_reaches {num den : Nat} (h : ¬ Reaches num den 1023) :
    num < den * overflow := by
  rw [reaches_iff (a := 53 + 970) (b := 0) (by omega), Nat.not_le, twoPow_zero, Nat.mul_one,
    twoPow_add] at h
  have hdigits : twoPow 53 ≤ twoPow 54 - 1 := by decide
  refine h.trans_le (Nat.mul_le_mul_left den ?_)
  rw [overflow_eq]
  exact Nat.mul_le_mul_right _ hdigits

/-- Being below `overflow`, in units of the last place of the greatest double. -/
theorem units_lt_iff_lt_overflow (num den : Nat) :
    2 * (num * twoPow 0) < den * twoPow 971 * (4 * twoPow 52 - 1) ↔ num < den * overflow := by
  have hhalf : den * twoPow 971 * (4 * twoPow 52 - 1) = 2 * (den * overflow) := by
    rw [overflow_eq, twoPow_succ 970, twoPow_succ 53, twoPow_succ 52, ← Nat.mul_assoc 2 2,
      Nat.mul_assoc, Nat.mul_assoc 2, Nat.mul_left_comm den 2, Nat.mul_comm (twoPow 970)]
  rw [hhalf, twoPow_zero, Nat.mul_one, Nat.mul_lt_mul_left (by decide)]

theorem bitsOfRatio_le_infinityBits {num den : Nat} (hden : 0 < den) :
    bitsOfRatio num den ≤ infinityBits := by
  by_cases hnum : num = 0
  · subst hnum
    exact Nat.zero_le _
  have hsignificand := significand_le hnum hden
  have hinfinity : infinityBits = 2047 * twoPow 52 := rfl
  rw [bitsOfRatio_eq hnum]
  split
  · exact le_refl _
  · have hfield : (place num den + 1075).toNat * twoPow 52 ≤ 2046 * twoPow 52 :=
      Nat.mul_le_mul_right _ (by omega)
    split <;> omega

/-- **Rounding overflows exactly from `overflow` on.** -/
theorem bitsOfRatio_lt_infinityBits_iff {num den : Nat} (hden : 0 < den) :
    bitsOfRatio num den < infinityBits ↔ num < den * overflow := by
  by_cases hnum : num = 0
  · -- Zero is the double with no bits set.
    subst hnum
    have hzero : bitsOfRatio 0 den = 0 := rfl
    rw [hzero]
    exact iff_of_true (by decide) (Nat.mul_pos hden overflow_pos)
  obtain ⟨hbelow, hnormal⟩ := place_spec hnum hden.ne'
  have hsignificand := significand_le hnum hden
  have hinfinity : infinityBits = 2047 * twoPow 52 := rfl
  have hleast : -1074 ≤ place num den := le_max_right _ _
  have hunit := twoPow_pos 52
  rw [bitsOfRatio_eq hnum]
  rcases lt_trichotomy (place num den) 971 with hlow | hlast | hhigh
  · -- There is another place above this one, so that rounding up does no harm.
    refine iff_of_true ?_ (lt_overflow_of_not_reaches fun h => hbelow (h.anti (by omega)))
    have hfield : (place num den + 1075).toNat * twoPow 52 ≤ 2045 * twoPow 52 :=
      Nat.mul_le_mul_right _ (by omega)
    rw [if_neg (by omega)]
    split <;> omega
  · -- The last place there is: the digits must not be rounded up to the next power of two.
    have hpos : 0 < den * twoPow (place num den).toNat := Nat.mul_pos hden (twoPow_pos _)
    have hrounded : significand num den < 2 * twoPow 52 ↔ num < den * overflow := by
      rw [significand, roundDiv_lt_iff hpos (units_lt hnum hden), hlast]
      exact units_lt_iff_lt_overflow num den
    have hfield : ((971 : Int) + 1075).toNat = 2046 := rfl
    rw [if_neg (by omega), ← hrounded, hlast, hfield]
    split <;> omega
  · -- The quotient is not below the power of two after the greatest double.
    rw [if_pos (by omega)]
    have hreaches : Reaches num den 1024 := (hnormal.resolve_left (by omega)).anti (by omega)
    exact iff_of_false (lt_irrefl _) (Nat.not_lt.mpr hreaches.overflow_le)

/-! ## Finite quotients -/

/-- Setting the sign of bits up to those of infinity keeps their exponent field, which is below that
of infinity for smaller bits only. -/
theorem isFinite_withSign (negative : Bool) {bits : Nat} (hle : bits ≤ infinityBits) :
    (withSign negative bits).isFinite = true ↔ bits < infinityBits := by
  have hunit := twoPow_pos 52
  have hinfinity : infinityBits = 2047 * twoPow 52 := rfl
  have hsign : twoPow 63 = twoPow 52 * 2048 := twoPow_add 52 11
  have hword : 2 ^ 64 = 4096 * twoPow 52 := rfl
  have hfield : bits / twoPow 52 = 2047 ↔ ¬ bits < infinityBits := by
    rw [Nat.div_eq_iff hunit]
    omega
  have hquotient : bits / twoPow 52 < 2048 := (Nat.div_lt_iff_lt_mul hunit).mpr (by omega)
  rw [withSign, isFinite_ofBits, UInt64.toNat_ofNat', exponentField,
    show twoPow 11 = 2048 from rfl]
  cases negative with
  | false =>
    have hfits : bits < 2 ^ 64 := by omega
    rw [if_neg Bool.false_ne_true, Nat.mod_eq_of_lt hfits, ne_eq, Nat.mod_eq_of_lt (by omega),
      hfield, not_not]
  | true =>
    have hfits : twoPow 63 + bits < 2 ^ 64 := by omega
    rw [if_pos rfl, Nat.mod_eq_of_lt hfits, hsign, Nat.mul_add_div hunit, Nat.add_mod_left, ne_eq,
      Nat.mod_eq_of_lt (by omega), hfield, not_not]

theorem isFinite_ofRatio (n : Int) {d : Nat} (hd : 0 < d) :
    (ofRatio (n < 0) n.natAbs d).isFinite = true ↔ n.natAbs < d * overflow := by
  rw [ofRatio, isFinite_withSign _ (bitsOfRatio_le_infinityBits hd),
    bitsOfRatio_lt_infinityBits_iff hd]

/-- **A quotient of integers has a finite nearest double exactly when it is below `overflow`.** -/
theorem ofQuotient?_isSome_iff (n : Int) {d : Nat} (hd : 0 < d) :
    (ofQuotient? n d).isSome = true ↔ n.natAbs < d * overflow := by
  rw [ofQuotient?, ← isFinite_ofRatio n hd]
  split
  · rename_i h
    exact iff_of_true rfl h
  · rename_i h
    exact iff_of_false Bool.false_ne_true h

end Binary64

end StartupGate.Number
