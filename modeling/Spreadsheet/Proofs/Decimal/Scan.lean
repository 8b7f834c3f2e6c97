import Spreadsheet.Decimal.Numeral
import Spreadsheet.Proofs.Text.Ascii

/-! # Numerals at the front of a text

Wherever a numeral stands at the front of a text, the scan finds one, and none that stands there is
longer. What the scan takes is again read as a number, the value of the numeral.
-/

namespace Spreadsheet.Decimal

variable {cs rest : List Char}

namespace Exponent

variable {e : Exponent}

structure WellFormed (e : Exponent) : Prop where
  letter : e.letter = 'e' ∨ e.letter = 'E'
  sign : ∀ c ∈ e.sign, c = '+' ∨ c = '-'
  digits_ne_nil : e.digits ≠ []
  digits : ∀ c ∈ e.digits, c.isDigit = true

theorem scanSign_spec (cs : List Char) :
    (scanSign cs).1.toList ++ (scanSign cs).2 = cs ∧
      ∀ c ∈ (scanSign cs).1, c = '+' ∨ c = '-' := by
  unfold scanSign
  split <;> simp

theorem scan_spec (cs : List Char) :
    (scan cs).1.elim [] text ++ (scan cs).2 = cs ∧ ∀ e ∈ (scan cs).1, e.WellFormed := by
  cases cs with
  | nil => simp [scan]
  | cons c cs =>
    obtain ⟨happend, hsign⟩ := scanSign_spec cs
    simp only [scan]
    split
    · rename_i h
      refine ⟨?_, ?_⟩
      · simp only [Option.elim_some, text, List.cons_append, List.append_assoc,
          List.takeWhile_append_dropWhile, happend]
      · rintro e ⟨⟩
        exact ⟨h.1, hsign, h.2, fun d hd => List.mem_takeWhile_imp hd⟩
    · simp

theorem scanSign_cons {c : Char} (hplus : c ≠ '+') (hminus : c ≠ '-') (cs : List Char) :
    scanSign (c :: cs) = (none, c :: cs) := by
  unfold scanSign
  split
  · rename_i h
    exact absurd (List.cons.inj h).1 hplus
  · rename_i h
    exact absurd (List.cons.inj h).1 hminus
  · rfl

theorem scanSign_append {sign : Option Char} (hs : ∀ c ∈ sign, c = '+' ∨ c = '-')
    (hr : ∀ c ∈ rest.head?, c.isDigit = true) :
    scanSign (sign.toList ++ rest) = (sign, rest) := by
  cases sign with
  | none =>
    cases rest with
    | nil => rfl
    | cons c cs =>
      have hc : c.isDigit = true := hr c rfl
      apply scanSign_cons
      · rintro rfl
        cases hc
      · rintro rfl
        cases hc
  | some c => rcases hs c rfl with rfl | rfl <;> rfl

theorem WellFormed.scan_text_append (h : e.WellFormed) (rest : List Char) :
    scan (e.text ++ rest) =
      (some ⟨e.letter, e.sign, e.digits ++ rest.takeWhile Char.isDigit⟩,
        rest.dropWhile Char.isDigit) := by
  obtain ⟨hl, hs, hne, hd⟩ := h
  have hhead : ∀ c ∈ (e.digits ++ rest).head?, c.isDigit = true := by
    intro c hc
    rw [List.head?_append_of_ne_nil _ hne] at hc
    exact hd c (List.mem_of_mem_head? hc)
  simp only [text, List.cons_append, List.append_assoc, scan, scanSign_append hs hhead,
    List.takeWhile_append_of_pos hd, List.dropWhile_append_of_pos hd]
  rw [if_pos ⟨hl, by simp [hne]⟩]

end Exponent

namespace Numeral

/-- Digits, perhaps with a point in front of them, among them or behind them, and perhaps an
exponent. -/
structure WellFormed (n : Numeral) : Prop where
  digits_ne_nil : n.digits ≠ []
  whole : ∀ c ∈ n.whole, c.isDigit = true
  fraction : ∀ c ∈ n.fraction.getD [], c.isDigit = true
  exponent : ∀ e ∈ n.exponent, e.WellFormed

end Numeral

def IsNumeral (cs : List Char) : Prop := ∃ n : Numeral, n.WellFormed ∧ n.text = cs

namespace Numeral

variable {n : Numeral}

theorem text_eq (n : Numeral) :
    n.text = n.whole ++ (n.fraction.elim [] ('.' :: ·) ++ n.exponent.elim [] Exponent.text) := by
  obtain ⟨whole, fraction, exponent⟩ := n
  cases fraction <;> cases exponent <;> simp [text]

theorem scanFraction_spec (whole cs : List Char) :
    (scanFraction whole cs).1.elim [] ('.' :: ·) ++ (scanFraction whole cs).2 = cs ∧
      (∀ c ∈ (scanFraction whole cs).1.getD [], c.isDigit = true) ∧
      ∀ ds ∈ (scanFraction whole cs).1, whole ++ ds ≠ [] := by
  unfold scanFraction
  split
  · dsimp only
    split
    · simp
    · rename_i h
      refine ⟨by simp [List.takeWhile_append_dropWhile], fun c hc => List.mem_takeWhile_imp hc, ?_⟩
      rintro ds ⟨⟩
      simpa using h
  · simp

theorem of_scan?_eq_some (h : scan? cs = some (n, rest)) :
    n.WellFormed ∧ n.text ++ rest = cs := by
  unfold scan? at h
  dsimp only at h
  split at h
  · cases h
  · rename_i hne
    cases h
    obtain ⟨hf, hfraction, hdigits⟩ :=
      scanFraction_spec (cs.takeWhile Char.isDigit) (cs.dropWhile Char.isDigit)
    obtain ⟨he, hexponent⟩ := Exponent.scan_spec
      (scanFraction (cs.takeWhile Char.isDigit) (cs.dropWhile Char.isDigit)).2
    refine ⟨⟨?_, fun c hc => List.mem_takeWhile_imp hc, hfraction, hexponent⟩, ?_⟩
    · intro hnil
      obtain ⟨hwhole, hds⟩ := List.append_eq_nil_iff.mp hnil
      refine hne ⟨hwhole, Option.eq_none_iff_forall_ne_some.mpr fun ds hsome => ?_⟩
      refine hdigits ds hsome ?_
      simp_all
    · rw [text_eq, List.append_assoc, List.append_assoc, he, hf, List.takeWhile_append_dropWhile]

def DigitsStop (cs : List Char) : Prop := ∀ c ∈ cs.head?, c.isDigit = false ∧ c ≠ '.'

/-- No numeral goes on into this text. -/
def Stops : List Char → Prop
  | [] => True
  | c :: _ => c.isDigit = false ∧ c ≠ '.' ∧ c ≠ 'e' ∧ c ≠ 'E'

theorem Stops.digitsStop (h : Stops rest) : DigitsStop rest := by
  rintro c hc
  cases rest with
  | nil => cases hc
  | cons d cs =>
    cases hc
    exact ⟨h.1, h.2.1⟩

theorem DigitsStop.takeWhile (h : DigitsStop rest) : rest.takeWhile Char.isDigit = [] := by
  cases rest with
  | nil => rfl
  | cons c cs => simp [(h c rfl).1]

theorem DigitsStop.dropWhile (h : DigitsStop rest) : rest.dropWhile Char.isDigit = rest := by
  cases rest with
  | nil => rfl
  | cons c cs => simp [(h c rfl).1]

theorem scanFraction_cons {c : Char} (hc : c ≠ '.') (whole cs : List Char) :
    scanFraction whole (c :: cs) = (none, c :: cs) := by
  unfold scanFraction
  split
  · rename_i h
    exact absurd (List.cons.inj h).1 hc
  · rfl

theorem DigitsStop.scanFraction (h : DigitsStop rest) (whole : List Char) :
    scanFraction whole rest = (none, rest) := by
  cases rest with
  | nil => rfl
  | cons c cs => exact scanFraction_cons (h c rfl).2 whole cs

theorem Stops.scanExponent (h : Stops rest) : Exponent.scan rest = (none, rest) := by
  cases rest with
  | nil => rfl
  | cons c cs => simp [Exponent.scan, h.2.2]

theorem digitsStop_exponent {e : Exponent} (h : e.WellFormed) (rest : List Char) :
    DigitsStop (e.text ++ rest) := by
  rintro c ⟨⟩
  rcases h.letter with h | h <;> rw [h] <;> decide

theorem scanFraction_point {whole ds : List Char} (hds : ∀ c ∈ ds, c.isDigit = true)
    (hne : whole ++ ds ≠ []) (rest : List Char) :
    scanFraction whole ('.' :: (ds ++ rest)) =
      (some (ds ++ rest.takeWhile Char.isDigit), rest.dropWhile Char.isDigit) := by
  have hn : ¬ (whole = [] ∧ ds ++ rest.takeWhile Char.isDigit = []) := by
    rintro ⟨hw, hd⟩
    exact hne (List.append_eq_nil_iff.mpr ⟨hw, (List.append_eq_nil_iff.mp hd).1⟩)
  simp only [scanFraction, List.takeWhile_append_of_pos hds, List.dropWhile_append_of_pos hds,
    if_neg hn]

theorem WellFormed.scan?_text_append (h : n.WellFormed) (hr : Stops rest) :
    scan? (n.text ++ rest) = some (n, rest) := by
  obtain ⟨whole, fraction, exponent⟩ := n
  obtain ⟨hne, hw, hf, hx⟩ := h
  simp only [text_eq, List.append_assoc, scan?, List.takeWhile_append_of_pos hw,
    List.dropWhile_append_of_pos hw]
  -- Behind the digits stands an exponent, or else what follows the numeral.
  have hbehind : DigitsStop (exponent.elim [] Exponent.text ++ rest) := by
    cases exponent with
    | none => exact hr.digitsStop
    | some e => exact digitsStop_exponent (hx e rfl) rest
  have hexponent :
      Exponent.scan (exponent.elim [] Exponent.text ++ rest) = (exponent, rest) := by
    cases exponent with
    | none => exact hr.scanExponent
    | some e =>
      rw [Option.elim_some, (hx e rfl).scan_text_append, hr.digitsStop.takeWhile,
        hr.digitsStop.dropWhile, List.append_nil]
  cases fraction with
  | none =>
    have hwhole : whole ≠ [] := by simpa [digits] using hne
    simp only [Option.elim_none, List.nil_append, hbehind.takeWhile, hbehind.dropWhile,
      List.append_nil, hbehind.scanFraction, hwhole, false_and, if_false, hexponent]
  | some ds =>
    have hds : ∀ c ∈ ds, c.isDigit = true := hf
    have hpoint := scanFraction_point hds hne (exponent.elim [] Exponent.text ++ rest)
    rw [hbehind.takeWhile, hbehind.dropWhile, List.append_nil] at hpoint
    simp [hpoint, hexponent]

/-- Where a numeral stands at the front of a text, the scan takes one that is no shorter. -/
theorem WellFormed.exists_scan? (h : n.WellFormed) (rest : List Char) :
    ∃ m s, scan? (n.text ++ rest) = some (m, s) ∧ s.length ≤ rest.length := by
  have hd := length_dropWhile_le Char.isDigit rest
  obtain ⟨whole, fraction, exponent⟩ := n
  obtain ⟨hne, hw, hf, hx⟩ := h
  simp only [text_eq, List.append_assoc, scan?, List.takeWhile_append_of_pos hw,
    List.dropWhile_append_of_pos hw]
  cases fraction with
  | none =>
    have hwhole : whole ≠ [] := by simpa [digits] using hne
    simp only [Option.elim_none, List.nil_append, List.append_eq_nil_iff, hwhole, false_and,
      if_false, Option.some.injEq, Prod.mk.injEq, existsAndEq, true_and]
    cases exponent with
    | none => exact (Exponent.length_scan_le _).trans ((length_scanFraction_le _ _).trans hd)
    | some e =>
      have he := digitsStop_exponent (hx e rfl) rest
      rw [Option.elim_some, he.dropWhile, he.scanFraction, (hx e rfl).scan_text_append]
      exact hd
  | some ds =>
    have hds : ∀ c ∈ ds, c.isDigit = true := hf
    have hpoint := scanFraction_point hds hne (exponent.elim [] Exponent.text ++ rest)
    have hbehind : (Exponent.scan ((exponent.elim [] Exponent.text ++ rest).dropWhile
        Char.isDigit)).2.length ≤ rest.length := by
      cases exponent with
      | none => exact (Exponent.length_scan_le _).trans hd
      | some e =>
        have he := digitsStop_exponent (hx e rfl) rest
        rw [Option.elim_some, he.dropWhile, (hx e rfl).scan_text_append]
        exact hd
    simpa [hpoint] using hbehind

/-- The scan takes the longest numeral that stands at the front of a text. -/
theorem scan?_eq_some_iff : scan? cs = some (n, rest) ↔
    n.WellFormed ∧ n.text ++ rest = cs ∧
      ∀ m, IsNumeral m → m <+: cs → m.length ≤ n.text.length := by
  constructor
  · intro h
    obtain ⟨hn, rfl⟩ := of_scan?_eq_some h
    refine ⟨hn, rfl, ?_⟩
    rintro m ⟨n', hn', rfl⟩ ⟨rest', hcs⟩
    obtain ⟨_, _, hs, hle⟩ := hn'.exists_scan? rest'
    rw [hcs, h] at hs
    cases hs
    have := congrArg List.length hcs
    simp only [List.length_append] at this
    omega
  · rintro ⟨hn, rfl, hlongest⟩
    obtain ⟨m, s, hs, hle⟩ := hn.exists_scan? rest
    obtain ⟨hm, happend⟩ := of_scan?_eq_some hs
    have hlen := hlongest _ ⟨m, hm, rfl⟩ ⟨s, happend⟩
    have htotal := congrArg List.length happend
    simp only [List.length_append] at htotal
    obtain ⟨htext, rfl⟩ := List.append_inj happend (by omega)
    -- A numeral is told by its text, which the scan reads back.
    have hnil : Stops [] := trivial
    have hback := hm.scan?_text_append hnil
    rw [htext, hn.scan?_text_append hnil] at hback
    cases hback
    exact hs

theorem WellFormed.mem_text (h : n.WellFormed) {c : Char} (hc : c ∈ n.text) :
    c.isDigit = true ∨ c ∈ ['.', 'e', 'E', '+', '-'] := by
  rw [text_eq, List.mem_append, List.mem_append] at hc
  rcases hc with hc | hc | hc
  · exact .inl (h.whole c hc)
  · cases hf : n.fraction with
    | none => simp [hf] at hc
    | some ds =>
      rw [hf, Option.elim_some, List.mem_cons] at hc
      rcases hc with rfl | hc
      · exact .inr (by simp)
      · exact .inl (h.fraction c (by simpa [hf] using hc))
  · cases he : n.exponent with
    | none => simp [he] at hc
    | some e =>
      obtain ⟨hl, hs, -, hd⟩ := h.exponent e he
      rw [he, Option.elim_some, Exponent.text, List.mem_cons, List.mem_append,
        Option.mem_toList] at hc
      rcases hc with rfl | hc | hc
      · rcases hl with h | h <;> exact .inr (by simp [h])
      · rcases hs c hc with rfl | rfl <;> exact .inr (by simp)
      · exact .inl (hd c hc)

theorem WellFormed.exists_text_eq_cons (h : n.WellFormed) :
    ∃ c cs, n.text = c :: cs ∧ (c.isDigit = true ∨ c = '.') := by
  obtain ⟨whole, fraction, exponent⟩ := n
  obtain ⟨hne, hw, -, -⟩ := h
  cases whole with
  | nil =>
    cases fraction with
    | none => exact absurd rfl hne
    | some ds => exact ⟨'.', _, rfl, .inr rfl⟩
  | cons c cs => exact ⟨c, _, rfl, .inl (hw c List.mem_cons_self)⟩

theorem WellFormed.readUnsigned?_text (h : n.WellFormed) (negative : Bool) :
    readUnsigned? negative n.text = some (Binary64.ofRank negative n.rank) := by
  obtain ⟨c, cs, htext, hc⟩ := h.exists_text_eq_cons
  -- The words for what is not finite begin with letters.
  have hword (w : Char) (ws : List Char) (hw : w.isDigit = false) (hp : w ≠ '.') :
      n.text.map Char.toLower ≠ w :: ws := by
    rw [htext, List.map_cons]
    rintro h
    cases h
    rcases hc with hc | rfl
    · have hlower : c.toLower = c := by
        apply Text.toLower_eq_self
        rw [Text.isUpper_iff]
        rw [Text.isDigit_iff] at hc
        omega
      simp [hlower, hc] at hw
    · exact hp (by decide)
  have hscan := h.scan?_text_append (show Stops [] from trivial)
  rw [List.append_nil] at hscan
  unfold readUnsigned?
  dsimp only
  rw [if_neg (by rintro (h | h) <;> exact hword _ _ rfl (by decide) h),
    if_neg (hword _ _ rfl (by decide)), hscan]

theorem WellFormed.read?_text (h : n.WellFormed) : read? n.text = some n.value := by
  obtain ⟨c, cs, htext, hc⟩ := h.exists_text_eq_cons
  have hread := h.readUnsigned?_text false
  rw [htext] at hread ⊢
  unfold read?
  split
  · rename_i h
    exact absurd hc (by simp [(List.cons.inj h).1])
  · rename_i h
    exact absurd hc (by simp [(List.cons.inj h).1])
  · exact hread

end Numeral

end Spreadsheet.Decimal
