import Mathlib
import Spreadsheet.Decimal.Binary64

/-! # Bits of floating point numbers

A finite number is its sign and its rank: packing what its bits unpack to gives the bits again.
Finite numbers of one sign compare equal only when they are the same.
-/

open Float.Model (Format UnpackedFloat)
open Float.Model.UnpackedFloat

namespace Spreadsheet.Binary64

variable {x y : Float} {b : BitVec Format.binary64.numBits} {u v : UnpackedFloat} {r : Nat}
  {negative : Bool}

/-! ## The fields of a bit pattern -/

theorem toNat_unpackMantissa (b : BitVec Format.binary64.numBits) :
    (unpackMantissa b).toNat = b.toNat % 2 ^ 52 := by
  simp [unpackMantissa]

theorem toNat_unpackExponent (b : BitVec Format.binary64.numBits) :
    (unpackExponent b).toNat = b.toNat / 2 ^ 52 % 2 ^ 11 := by
  simp [unpackExponent, Nat.shiftRight_eq_div_pow]

theorem toNat_unpackSign (b : BitVec Format.binary64.numBits) :
    (unpackSign b).toNat = b.toNat / 2 ^ 63 := by
  have hb : b.toNat < 2 ^ 64 := b.isLt
  simp only [unpackSign, BitVec.toNat_cast, BitVec.extractLsb_toNat, Nat.shiftRight_eq_div_pow]
  omega

theorem toBitVec_ofBitVec (s : BitVec 1) : (Sign.ofBitVec s).toBitVec = s := by
  revert s
  decide

theorem toNat_packComponents (s : Sign) (e : BitVec 11) (m : BitVec 52) :
    (packComponents Format.binary64 s e m).toNat =
      s.toBitVec.toNat * 2 ^ 63 + e.toNat * 2 ^ 52 + m.toNat := by
  have he := e.isLt
  have hm := m.isLt
  rw [packComponents, BitVec.toNat_append, BitVec.toNat_append, ← Nat.shiftLeft_add_eq_or_of_lt hm,
    ← Nat.shiftLeft_add_eq_or_of_lt he, Nat.shiftLeft_eq, Nat.shiftLeft_eq]
  omega

theorem packComponents_unpack (b : BitVec Format.binary64.numBits) :
    packComponents Format.binary64 (Sign.ofBitVec (unpackSign b)) (unpackExponent b)
      (unpackMantissa b) = b := by
  have hb : b.toNat < 2 ^ 64 := b.isLt
  apply BitVec.eq_of_toNat_eq
  rw [toNat_packComponents, toBitVec_ofBitVec, toNat_unpackSign, toNat_unpackExponent,
    toNat_unpackMantissa]
  omega

/-! ## The mantissa with its implicit bit -/

theorem toNat_implicit (m : BitVec 52) : (1#1 ++ m).toNat = 2 ^ 52 + m.toNat := by
  rw [BitVec.toNat_append, ← Nat.shiftLeft_add_eq_or_of_lt m.isLt]
  rfl

theorem log2_implicit (m : BitVec 52) : (1#1 ++ m).toNat.log2 = 52 := by
  have hm := m.isLt
  rw [Nat.log2_eq_iff] <;> rw [toNat_implicit] <;> omega

theorem ofNat_implicit (m : BitVec 52) : BitVec.ofNat 52 (1#1 ++ m).toNat = m := by
  have hm := m.isLt
  apply BitVec.eq_of_toNat_eq
  rw [toNat_implicit, BitVec.toNat_ofNat]
  omega

/-! ## Packing and unpacking -/

theorem pack_unpack (he : unpackExponent b ≠ -1#11) :
    pack Format.binary64 (unpack Format.binary64 b) = b := by
  have hlt : (unpackExponent b).toNat < 2048 := (unpackExponent b).isLt
  have hmlt : (unpackMantissa b).toNat < 2 ^ 52 := (unpackMantissa b).isLt
  have hne : (unpackExponent b).toNat ≠ 2047 := fun h => he (BitVec.eq_of_toNat_eq h)
  have hb := packComponents_unpack b
  unfold unpack
  dsimp only
  rw [if_neg he]
  split
  · rename_i h0
    rw [h0] at hb ⊢
    split
    · rename_i hm
      rw [hm] at hb
      exact hb
    · rename_i hm
      have hlog : (unpackMantissa b).toNat.log2 + 1 ≠ Format.binary64.mantissaBits := by
        have h := (Nat.log2_lt (BitVec.toNat_ne_iff_ne.mpr hm)).mpr hmlt
        simp only [Format.mantissaBits]
        omega
      simp only [pack]
      rw [if_neg (by decide), if_neg hlog, BitVec.ofNat_toNat, BitVec.setWidth_eq]
      exact hb
  · have hbias : (((unpackExponent b).toNat : Int) -
        (Format.binary64.exponentBias + Format.binary64.mantissaBitsWithoutImplicit) +
        Format.binary64.exponentBias + Format.binary64.mantissaBitsWithoutImplicit).toNat =
        (unpackExponent b).toNat := by omega
    simp only [pack]
    rw [hbias, if_neg (by simp only [Nat.reducePow]; omega), log2_implicit,
      if_pos (show 52 + 1 = Format.binary64.mantissaBits from rfl), ofNat_implicit,
      BitVec.ofNat_toNat, BitVec.setWidth_eq]
    exact hb

theorem isFinite_unpack_iff :
    (unpack Format.binary64 b).isFinite = true ↔ unpackExponent b ≠ -1#11 := by
  unfold unpack
  dsimp only
  split
  · rename_i he
    split <;> simp only [isFinite, he] <;> decide
  · rename_i he
    refine iff_of_true ?_ he
    split
    · split <;> rfl
    · rfl

/-! ## Sign and rank -/

theorem infinity_eq : infinity = 2047 * 2 ^ 52 := rfl

theorem signWeight_eq : signWeight = 2 ^ 63 := rfl

theorem unpackExponent_ne_iff :
    unpackExponent b ≠ -1#11 ↔ b.toNat % signWeight < infinity := by
  have hb : b.toNat < 2 ^ 64 := b.isLt
  rw [BitVec.toNat_ne_iff_ne.symm, toNat_unpackExponent, infinity_eq, signWeight_eq]
  change b.toNat / 2 ^ 52 % 2 ^ 11 ≠ 2047 ↔ _
  omega

theorem isFinite_iff : x.isFinite = true ↔ rank x < infinity :=
  isFinite_unpack_iff.trans unpackExponent_ne_iff

theorem toBits_ofBits {w : UInt64} (h : w.toNat % signWeight < infinity) :
    (Float.ofBits w).toBits = w := by
  have hp := pack_unpack (unpackExponent_ne_iff.mpr h)
  change UInt64.ofBitVec (pack Format.binary64 (unpack Format.binary64 w.toBitVec)) = w
  rw [hp, UInt64.ofBitVec_toBitVec]

theorem toBits_injective (h : x.toBits = y.toBits) : x = y := by
  obtain ⟨⟨w, _⟩⟩ := x
  obtain ⟨⟨w', _⟩⟩ := y
  obtain rfl : w = w' := h
  rfl

theorem toNat_toBits (x : Float) :
    x.toBits.toNat = if isNegative x then signWeight + rank x else rank x := by
  have hx : x.toBits.toNat < 2 ^ 64 := x.toBits.toNat_lt
  have hn : isNegative x = true ↔ signWeight ≤ x.toBits.toNat := decide_eq_true_iff
  rw [signWeight_eq] at hn
  rw [rank, signWeight_eq]
  split
  · have := hn.mp ‹_›
    omega
  · have := mt hn.mpr ‹_›
    omega

theorem toNat_toBits_ofRank (h : r < infinity) :
    (ofRank negative r).toBits.toNat = if negative then signWeight + r else r := by
  rw [infinity_eq] at h
  have hw : (UInt64.ofNat (if negative then signWeight + r else r)).toNat =
      if negative then signWeight + r else r := by
    rw [signWeight_eq]
    apply Nat.mod_eq_of_lt
    split <;> omega
  rw [ofRank, toBits_ofBits, hw]
  rw [hw, infinity_eq, signWeight_eq]
  split <;> omega

theorem ofRank_rank (h : x.isFinite = true) : ofRank (isNegative x) (rank x) = x := by
  apply toBits_injective
  apply UInt64.toNat_inj.mp
  rw [toNat_toBits_ofRank (isFinite_iff.mp h), toNat_toBits]

theorem rank_ofRank (h : r < infinity) : rank (ofRank negative r) = r := by
  rw [rank, toNat_toBits_ofRank h]
  rw [infinity_eq] at h
  rw [signWeight_eq]
  split <;> omega

theorem isNegative_ofRank (h : r < infinity) : isNegative (ofRank negative r) = negative := by
  rw [isNegative, toNat_toBits_ofRank h]
  rw [infinity_eq] at h
  rw [signWeight_eq]
  cases negative with
  | false => exact decide_eq_false (by rw [if_neg Bool.false_ne_true]; omega)
  | true => exact decide_eq_true (by rw [if_pos rfl]; omega)

theorem not_isFinite_ofRank_infinity : (ofRank negative infinity).isFinite = false := by
  cases negative <;> decide

theorem isFinite_ofRank_iff (h : r ≤ infinity) :
    (ofRank negative r).isFinite = true ↔ r < infinity := by
  constructor
  · intro hf
    rcases Nat.lt_or_eq_of_le h with hr | rfl
    · exact hr
    · simp [not_isFinite_ofRank_infinity] at hf
  · intro hr
    rw [isFinite_iff, rank_ofRank hr]
    exact hr

/-! ## Comparing -/

/-- Finite numbers that compare equal are the same, but for the sign of zero. -/
theorem eq_or_zero_of_beq (hu : u.isFinite = true) (hv : v.isFinite = true)
    (h : u.beq v = true) : u = v ∨ ∃ s s', u = .zero s ∧ v = .zero s' := by
  unfold UnpackedFloat.beq at h
  cases u with
  | infinity s => cases hu
  | notANumber => cases hu
  | zero s =>
    cases v with
    | infinity s' => cases hv
    | notANumber => cases hv
    | zero s' => exact .inr ⟨s, s', rfl, rfl⟩
    | finite s' m' e' hm' => cases s' <;> cases h
  | finite s m e hm =>
    cases v with
    | infinity s' => cases hv
    | notANumber => cases hv
    | zero s' => cases s <;> cases h
    | finite s' m' e' hm' =>
      left
      cases s <;> cases s' <;> simp [UnpackedFloat.compare, Ordering.then_eq_eq] at h
      all_goals
        obtain ⟨rfl, rfl⟩ := h
        rfl

theorem beq_self (hu : u.isFinite = true) : u.beq u = true := by
  unfold UnpackedFloat.beq
  cases u with
  | infinity s => cases hu
  | notANumber => cases hu
  | zero s => rfl
  | finite s m e hm => cases s <;> simp [UnpackedFloat.compare]

theorem toBitVec_toBits (hx : x.isFinite = true) :
    pack Format.binary64 x.toModel.unpack = x.toBits.toBitVec :=
  pack_unpack (isFinite_unpack_iff.mp hx)

theorem isNegative_of_unpack_eq_zero {s : Sign} (hx : x.isFinite = true)
    (hs : x.toModel.unpack = .zero s) :
    isNegative x = decide (s.toBitVec = 1#1) := by
  have hp := toBitVec_toBits hx
  rw [hs] at hp
  rw [isNegative, ← UInt64.toNat_toBitVec, ← hp]
  cases s <;> rfl

theorem beq_iff_eq_of_isFinite (hx : x.isFinite = true) (hy : y.isFinite = true)
    (hn : isNegative x = isNegative y) : (x == y) = true ↔ x = y := by
  constructor
  · intro h
    have hunpack : x.toModel.unpack = y.toModel.unpack := by
      rcases eq_or_zero_of_beq hx hy h with he | ⟨s, s', hs, hs'⟩
      · exact he
      · rw [isNegative_of_unpack_eq_zero hx hs, isNegative_of_unpack_eq_zero hy hs'] at hn
        rw [hs, hs']
        cases s <;> cases s' <;> first | rfl | cases hn
    apply toBits_injective
    apply UInt64.toBitVec_inj.mp
    rw [← toBitVec_toBits hx, hunpack, toBitVec_toBits hy]
  · rintro rfl
    exact beq_self hx

end Spreadsheet.Binary64
