import Spreadsheet.Proofs.Decimal.Scan
import Spreadsheet.Proofs.Decimal.Shortest
import Spreadsheet.Proofs.Text.Blank

/-! # Printed numbers

A finite number is printed as a numeral in digits, behind a minus sign where it is negative, and reads
back as the number.
-/

namespace Spreadsheet.Decimal

open Binary64

variable {ds rest : List Char} {digits : Nat} {e : Int} {x : Float}

namespace Numeral

variable {n : Numeral}

/-- The numeral is written in digits, with at least one before a point. -/
structure Plain (n : Numeral) : Prop where
  whole_ne_nil : n.whole ≠ []
  whole : ∀ c ∈ n.whole, c.isDigit = true
  fraction : ∀ c ∈ n.fraction.getD [], c.isDigit = true
  exponent : n.exponent = none

theorem Plain.wellFormed (h : n.Plain) : n.WellFormed where
  digits_ne_nil := List.append_ne_nil_of_left_ne_nil h.whole_ne_nil _
  whole := h.whole
  fraction := h.fraction
  exponent := by simp [h.exponent]

theorem Plain.mem_text (h : n.Plain) {c : Char} (hc : c ∈ n.text) : c.isDigit = true ∨ c = '.' := by
  obtain ⟨whole, fraction, exponent⟩ := n
  obtain ⟨-, hw, hf, he⟩ := h
  obtain rfl : exponent = none := he
  cases fraction with
  | none =>
    simp only [text, List.append_nil] at hc
    exact .inl (hw c hc)
  | some ds =>
    simp only [text, List.append_nil, List.mem_append, List.mem_cons] at hc
    rcases hc with hc | rfl | hc
    · exact .inl (hw c hc)
    · exact .inr rfl
    · exact .inl (hf c hc)

/-! ## Decimals as numerals -/

def ofDecimal (digits : Nat) (e : Int) : Numeral :=
  if e < 0 then
    ⟨Nat.toDigits 10 (digits / 10 ^ e.natAbs),
      some (padded e.natAbs (digits % 10 ^ e.natAbs)), none⟩
  else ⟨Nat.toDigits 10 digits ++ List.replicate e.natAbs '0', none, none⟩

theorem text_ofDecimal (digits : Nat) (e : Int) :
    (ofDecimal digits e).text = positional digits e := by
  unfold ofDecimal positional
  split <;> simp [text]

theorem isDigit_of_mem_padded {width m : Nat} {c : Char} (h : c ∈ padded width m) :
    c.isDigit = true := by
  rcases List.mem_append.mp h with h | h
  · obtain ⟨-, rfl⟩ := List.mem_replicate.mp h
    rfl
  · exact Nat.isDigit_of_mem_toDigits (by decide) (by decide) h

theorem plain_ofDecimal (digits : Nat) (e : Int) : (ofDecimal digits e).Plain := by
  have hd {m : Nat} {c : Char} (h : c ∈ Nat.toDigits 10 m) : c.isDigit = true :=
    Nat.isDigit_of_mem_toDigits (by decide) (by decide) h
  unfold ofDecimal
  split
  · exact ⟨Nat.toDigits_ne_nil, fun c => hd, fun c => isDigit_of_mem_padded, rfl⟩
  · refine ⟨List.append_ne_nil_of_left_ne_nil Nat.toDigits_ne_nil _, fun c hc => ?_, by simp, rfl⟩
    rcases List.mem_append.mp hc with hc | hc
    · exact hd hc
    · obtain ⟨-, rfl⟩ := List.mem_replicate.mp hc
      rfl

theorem length_padded {width m : Nat} (hw : 0 < width) (h : m < 10 ^ width) :
    (padded width m).length = width := by
  have hl := (Nat.length_toDigits_le_iff (by decide) hw).mpr h
  simp only [padded, List.length_append, List.length_replicate]
  omega

theorem natOfDigits_toDigits_append_padded {width m : Nat} (hw : 0 < width) (q : Nat)
    (h : m < 10 ^ width) :
    natOfDigits (Nat.toDigits 10 q ++ padded width m) = q * 10 ^ width + m := by
  have hp : Nat.ofDigitChars 10 (padded width m) 0 = m := by
    rw [padded, Nat.ofDigitChars_append, Nat.ofDigitChars_replicate_zero, Nat.mul_zero,
      Nat.ofDigitChars_ten_toDigits]
  rw [natOfDigits, Nat.ofDigitChars_append, Nat.ofDigitChars_eq_ofDigitChars_zero, hp,
    length_padded hw h, Nat.ofDigitChars_ten_toDigits, Nat.mul_comm]

theorem rank_ofDecimal (digits : Nat) (e : Int) :
    (ofDecimal digits e).rank = ofScientific digits e := by
  unfold ofDecimal
  split
  · rename_i he
    have hw : 0 < e.natAbs := by omega
    have hlt : digits % 10 ^ e.natAbs < 10 ^ e.natAbs := Nat.mod_lt _ (Nat.pow_pos (by decide))
    have hlen := length_padded hw hlt
    simp only [rank, Numeral.digits, Option.getD_some, scale,
      natOfDigits_toDigits_append_padded hw _ hlt, List.length_append, hlen]
    congr 1
    · exact Nat.div_add_mod' digits _
    · omega
  · rename_i he
    obtain ⟨k, rfl⟩ : ∃ k : Nat, e = k := ⟨e.natAbs, by omega⟩
    have hdigits :
        natOfDigits (Nat.toDigits 10 digits ++ List.replicate k '0') = digits * 10 ^ k := by
      rw [natOfDigits, Nat.ofDigitChars_append, Nat.ofDigitChars_replicate_zero,
        Nat.ofDigitChars_ten_toDigits, Nat.mul_comm]
    simp only [rank, Numeral.digits, Option.getD_none, List.append_nil, scale, Int.natAbs_natCast,
      hdigits]
    rw [← ofScientific_mul_pow]
    congr 1
    simp
    omega

def ofRank (rank : Nat) : Numeral :=
  if rank = 0 then ofDecimal 0 0 else ofDecimal (shortest rank).1 (shortest rank).2

theorem plain_ofRank (rank : Nat) : (ofRank rank).Plain := by
  unfold ofRank
  split <;> exact plain_ofDecimal _ _

theorem rank_ofRank {rank : Nat} (h : rank < infinity) : (ofRank rank).rank = rank := by
  unfold ofRank
  split
  · rename_i h0
    rw [rank_ofDecimal, ofScientific_zero, h0]
  · rw [rank_ofDecimal, ofScientific_shortest h]

theorem text_ofRank (rank : Nat) : (ofRank rank).text =
    if rank = 0 then ['0'] else positional (shortest rank).1 (shortest rank).2 := by
  unfold ofRank
  split
  · rfl
  · exact text_ofDecimal _ _

end Numeral

/-! ## Printing and reading -/

/-- A finite number is printed as its numeral, behind a minus sign where it is negative. -/
theorem print_eq (h : x.isFinite = true) :
    print x = if isNegative x then '-' :: (Numeral.ofRank (rank x)).text
      else (Numeral.ofRank (rank x)).text := by
  have hr : rank x < infinity := isFinite_iff.mp h
  rw [Numeral.text_ofRank]
  unfold print
  dsimp only
  rw [if_neg (Nat.not_lt.mpr (Nat.le_of_lt hr)), if_neg (Nat.ne_of_lt hr)]

theorem print_of_nonneg (h : x.isFinite = true) (hn : isNegative x = false) :
    print x = (Numeral.ofRank (rank x)).text := by
  rw [print_eq h, hn]
  rfl

theorem value_ofRank_rank (h : x.isFinite = true) (hn : isNegative x = false) :
    (Numeral.ofRank (rank x)).value = x := by
  rw [Numeral.value, Numeral.rank_ofRank (isFinite_iff.mp h), ← hn, ofRank_rank h]

theorem read?_print (h : x.isFinite = true) : read? (print x) = some x := by
  have hn := (Numeral.plain_ofRank (rank x)).wellFormed
  rw [print_eq h]
  cases hs : isNegative x with
  | true =>
    have hread := hn.readUnsigned?_text (isNegative x)
    rw [Numeral.rank_ofRank (isFinite_iff.mp h), ofRank_rank h, hs] at hread
    exact hread
  | false => exact hn.read?_text.trans (congrArg some (value_ofRank_rank h hs))

theorem mem_print (h : x.isFinite = true) {c : Char} (hc : c ∈ print x) :
    c.isDigit = true ∨ c = '.' ∨ c = '-' := by
  rw [print_eq h] at hc
  have hp := Numeral.plain_ofRank (rank x)
  split at hc
  · rcases List.mem_cons.mp hc with rfl | hc
    · exact .inr (.inr rfl)
    · exact (hp.mem_text hc).imp_right .inl
  · exact (hp.mem_text hc).imp_right .inl

theorem trim_print (h : x.isFinite = true) : Text.trim (print x) = print x := by
  refine Text.trim_eq_self fun c hc => ?_
  rcases mem_print h hc with hc | rfl | rfl
  · exact Text.isBlank_eq_false_of_isAlphanum (Text.isAlphanum_iff.mpr (.inr hc))
  · decide
  · decide

end Spreadsheet.Decimal
