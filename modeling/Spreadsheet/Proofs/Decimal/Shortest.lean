import Spreadsheet.Decimal.Shortest
import Spreadsheet.Proofs.Decimal.Bits

/-! # Shortest decimals

A decimal on a grid is only kept when it reads back as the rank. The exact expansion, taken when no
grid has one, is a whole number of units, and rounding leaves it as it is.
-/

namespace Spreadsheet

namespace Binary64

variable {n d r : Nat}

theorem roundHalfEven_mul (m : Nat) (hd : 0 < d) : roundHalfEven (m * d) d = m := by
  unfold roundHalfEven
  dsimp only
  rw [Nat.mul_div_cancel m hd, Nat.mul_mod_left]
  have hmore : decide (d < 2 * 0) = false := decide_eq_false (by omega)
  have htie : (2 * 0 == d) = false := beq_false_of_ne (by omega)
  rw [hmore, htie]
  rfl

/-- A magnitude has at most 53 leading bits, of which the rank counts all that follow the first. -/
theorem exists_units_eq (r : Nat) :
    ∃ m e, (units r).log2 - 52 = e ∧ units r = m * 2 ^ e ∧ e * binade + m = r := by
  have hb : binade = 2 ^ 52 := rfl
  unfold units
  split
  · rename_i hr
    refine ⟨r, 0, ?_, by simp, by simp⟩
    rcases Nat.eq_zero_or_pos r with rfl | h0
    · rfl
    · have := (Nat.log2_lt (by omega)).mpr (hb ▸ hr)
      omega
  · rename_i hr
    have hm : r % binade < binade := Nat.mod_lt _ (by decide)
    have hq : 1 ≤ r / binade := (Nat.one_le_div_iff (by decide)).mpr (by omega)
    obtain ⟨q, hq⟩ : ∃ q, r / binade = q + 1 := ⟨r / binade - 1, by omega⟩
    rw [hq, Nat.add_sub_cancel]
    refine ⟨binade + r % binade, q, ?_, rfl, ?_⟩
    · have hlow : 2 ^ 52 * 2 ^ q ≤ (binade + r % binade) * 2 ^ q :=
        Nat.mul_le_mul_right _ (by omega)
      have hhigh : (binade + r % binade) * 2 ^ q < 2 ^ 53 * 2 ^ q :=
        Nat.mul_lt_mul_of_pos_right (by omega) (Nat.two_pow_pos q)
      rw [← Nat.pow_add] at hlow hhigh
      have hlog : ((binade + r % binade) * 2 ^ q).log2 = 52 + q :=
        (Nat.log2_eq_iff (by have := Nat.two_pow_pos (52 + q); omega)).mpr
          ⟨hlow, by rwa [show 52 + q + 1 = 53 + q by omega]⟩
      change ((binade + r % binade) * 2 ^ q).log2 - 52 = q
      omega
    · have hr' := Nat.div_add_mod r binade
      rw [hq, Nat.mul_add, Nat.mul_one] at hr'
      rw [Nat.mul_comm q]
      omega

theorem nearest_eq (hd : 0 < d) (hr : r < infinity) (h : n * unitsPerOne = units r * d) :
    nearest n d = r := by
  obtain ⟨m, e, he, hu, hs⟩ := exists_units_eq r
  have hround : roundHalfEven (units r * d) (d * Nat.pow 2 e) = m := by
    have hmul : units r * d = m * (d * Nat.pow 2 e) := by
      rw [hu, Nat.mul_assoc, Nat.mul_comm d]
      rfl
    have hpos : 0 < d * Nat.pow 2 e := Nat.mul_pos hd (Nat.two_pow_pos e)
    rw [hmul, roundHalfEven_mul m hpos]
  unfold nearest
  dsimp only
  rw [h, Nat.mul_div_cancel _ hd, he, hround, hs]
  exact Nat.min_eq_right (Nat.le_of_lt hr)

/-- Written to the last decimal place, a magnitude is rounded to its own rank. -/
theorem nearest_expansion {k : Nat} (hk : unitsPerOne = Nat.pow 2 k) (hr : r < infinity) :
    nearest (units r * Nat.pow 5 k) (Nat.pow 10 k) = r := by
  refine nearest_eq (Nat.pow_pos (by decide)) hr ?_
  have hpow : Nat.pow 5 k * Nat.pow 2 k = Nat.pow 10 k := (Nat.mul_pow 5 2 k).symm
  rw [hk, Nat.mul_assoc, hpow]

theorem ofScientific_units (hr : r < infinity) :
    ofScientific (units r * Nat.pow 5 1074) (-1074) = r := by
  have hk : (-1074 : Int).natAbs = 1074 := rfl
  rw [ofScientific, if_pos (by decide), hk]
  exact nearest_expansion rfl hr

theorem ofScientific_mul_pow (digits k : Nat) :
    ofScientific (digits * 10 ^ k) 0 = ofScientific digits k := by
  rw [ofScientific, ofScientific, if_neg (by decide), if_neg (by omega)]
  simp

theorem ofScientific_zero : ofScientific 0 0 = 0 := by
  rw [ofScientific, if_neg (by decide), Nat.zero_mul]
  exact nearest_eq Nat.one_pos (by decide) (by rw [Nat.zero_mul]; rfl)

theorem ofScientific_le (digits : Nat) (e : Int) : ofScientific digits e ≤ infinity := by
  unfold ofScientific
  split <;> exact Nat.min_le_left _ _

end Binary64

namespace Decimal

open Binary64

variable {rank digits : Nat} {e e' : Int}

theorem hits_of_choice {p : Nat → Bool} {nearer : Bool} {below : Nat}
    (h : (if p below && nearer then some below
      else if p (below + 1) then some (below + 1) else none) = some digits) :
    p digits = true := by
  split at h
  · rename_i hit
    cases h
    exact (Bool.and_eq_true_iff.mp hit).1
  · split at h
    · rename_i hit
      cases h
      exact hit
    · cases h

theorem ofScientific_of_onGrid? (h : onGrid? rank e = some digits) :
    ofScientific digits e = rank :=
  beq_iff_eq.mp (hits_of_choice (p := fun digits => ofScientific digits e == rank) h)

theorem ofScientific_of_firstOnGrid? {fuel : Nat}
    (h : firstOnGrid? rank e fuel = some (digits, e')) : ofScientific digits e' = rank := by
  induction fuel generalizing e with
  | zero => cases h
  | succ fuel ih =>
    unfold firstOnGrid? at h
    split at h
    · rename_i hit
      cases h
      exact ofScientific_of_onGrid? hit
    · exact ih h

theorem ofScientific_shortest (h : rank < infinity) :
    ofScientific (shortest rank).1 (shortest rank).2 = rank := by
  unfold shortest
  cases hf : firstOnGrid? rank (startExponent rank) 21 with
  | none => exact ofScientific_units h
  | some p => exact ofScientific_of_firstOnGrid? hf

end Decimal

end Spreadsheet
