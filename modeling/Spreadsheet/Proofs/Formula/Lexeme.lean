import Spreadsheet.Formula.Lexeme
import Spreadsheet.Proofs.Decimal.Scan

/-! # Text cut into lexemes

Each text is cut in one way only: into lexemes that are as long as they can be, runs of characters
at which no lexeme starts, and blanks between them. This is how it is cut.
-/

namespace Spreadsheet

namespace Lexeme

variable {cs rest run : List Char} {l : Lexeme}

def text : Lexeme → List Char
  | leftParen => ['(']
  | rightParen => [')']
  | operator op => [op.symbol]
  | var name => name.toList
  | number _ text => text.toList
  | other text => text.toList

def isOther : Lexeme → Bool
  | other _ => true
  | _ => false

def IsVariable (name : String) : Prop :=
  ∃ c cs, name.toList = c :: cs ∧ isLetter c = true ∧ ∀ d ∈ cs, isLetterOrDigit d = true

/-- The lexeme is of a known kind and has the text of one of its kind, which for a number is read as
its value. -/
def Formed : Lexeme → Prop
  | var name => IsVariable name
  | number value text =>
    Decimal.IsNumeral text.toList ∧ Decimal.read? text.toList = some value
  | other _ => False
  | _ => True

/-- Nothing of the text behind it can belong to the lexeme. -/
def IsLongest (rest : List Char) : Lexeme → Prop
  | var _ => ∀ c ∈ rest.head?, isLetterOrDigit c = false
  | number _ text => ∀ m, Decimal.IsNumeral m → m <+: text.toList ++ rest →
      m.length ≤ text.toList.length
  | _ => True

def Begins (cs : List Char) : Prop := ∃ l : Lexeme, l.Formed ∧ l.text <+: cs

/-- None of these characters is blank, and at none of them could a lexeme start. -/
def IsUnknown (rest : List Char) : List Char → Prop
  | [] => True
  | c :: cs => (Text.isBlank c = false ∧ ¬ Begins (c :: (cs ++ rest))) ∧ IsUnknown rest cs

/-! ## The front of a text -/

theorem ofSymbol?_eq_some_iff {c : Char} {op : Operator} :
    Operator.ofSymbol? c = some op ↔ c = op.symbol := by
  constructor
  · intro h
    unfold Operator.ofSymbol? at h
    split at h <;> cases h <;> rfl
  · rintro rfl
    exact Operator.ofSymbol?_symbol op

theorem ofFront?_operator (op : Operator) (rest : List Char) :
    ofFront? (op.symbol :: rest) = some (operator op, rest) := by
  cases op <;> rfl

theorem ofFront?_cons {c : Char} (hleft : c ≠ '(') (hright : c ≠ ')') (cs : List Char) :
    ofFront? (c :: cs) =
      if isLetter c then
        some (var (String.ofList (c :: cs.takeWhile isLetterOrDigit)),
          cs.dropWhile isLetterOrDigit)
      else match Operator.ofSymbol? c with
        | some op => some (operator op, cs)
        | none => (Decimal.Numeral.scan? (c :: cs)).map fun (n, rest) =>
            (number n.value (String.ofList n.text), rest) := by
  conv_lhs => unfold ofFront?
  split
  · rename_i h
    cases h
  · rename_i h
    exact absurd (List.cons.inj h).1 hleft
  · rename_i h
    exact absurd (List.cons.inj h).1 hright
  · rename_i h
    obtain ⟨rfl, rfl⟩ := List.cons.inj h
    rfl

theorem ofFront?_of_isLetter {c : Char} (hc : isLetter c = true) (cs : List Char) :
    ofFront? (c :: cs) = some (var (String.ofList (c :: cs.takeWhile isLetterOrDigit)),
      cs.dropWhile isLetterOrDigit) := by
  have hleft : c ≠ '(' := by
    rintro rfl
    cases hc
  have hright : c ≠ ')' := by
    rintro rfl
    cases hc
  rw [ofFront?_cons hleft hright, if_pos hc]

theorem ofFront?_of_isDigit {c : Char} (hc : c.isDigit = true ∨ c = '.') (cs : List Char) :
    ofFront? (c :: cs) = (Decimal.Numeral.scan? (c :: cs)).map fun (n, rest) =>
      (number n.value (String.ofList n.text), rest) := by
  have hcode : c.toNat = 46 ∨ 48 ≤ c.toNat ∧ c.toNat ≤ 57 := by
    rw [Text.isDigit_iff] at hc
    rcases hc with hc | rfl
    · exact .inr hc
    · exact .inl rfl
  have hleft : c ≠ '(' := by
    rintro rfl
    simp at hc
  have hright : c ≠ ')' := by
    rintro rfl
    simp at hc
  have hl : ¬ isLetter c = true := by
    rw [isLetter, Text.isAlpha_iff, Text.isUpper_iff, Text.isLower_iff]
    omega
  have hop : Operator.ofSymbol? c = none := by
    refine Option.eq_none_iff_forall_ne_some.mpr fun op h => ?_
    rw [ofSymbol?_eq_some_iff] at h
    cases op <;> simp [h, Operator.symbol] at hc
  rw [ofFront?_cons hleft hright, if_neg hl, hop]

theorem formed_number_iff {value : Float} {text : String} : (number value text).Formed ↔
    ∃ n : Decimal.Numeral, n.WellFormed ∧ n.text = text.toList ∧ n.value = value := by
  constructor
  · rintro ⟨⟨n, hn, htext⟩, hread⟩
    rw [← htext, hn.read?_text] at hread
    exact ⟨n, hn, htext, Option.some.inj hread⟩
  · rintro ⟨n, hn, htext, rfl⟩
    exact ⟨⟨n, hn, htext⟩, htext ▸ hn.read?_text⟩

theorem of_ofFront?_eq_some (h : ofFront? cs = some (l, rest)) :
    l.Formed ∧ l.IsLongest rest ∧ l.text ++ rest = cs := by
  unfold ofFront? at h
  split at h
  · cases h
  · cases h
    exact ⟨trivial, trivial, rfl⟩
  · cases h
    exact ⟨trivial, trivial, rfl⟩
  · rename_i c cs _ _
    split at h
    · rename_i hc
      cases h
      refine ⟨⟨c, _, String.toList_ofList, hc, fun d hd => List.mem_takeWhile_imp hd⟩, ?_, ?_⟩
      · intro d hd
        have hnot := List.head?_dropWhile_not isLetterOrDigit cs
        rw [Option.mem_def.mp hd] at hnot
        exact hnot
      · simp [text, List.takeWhile_append_dropWhile]
    · split at h
      · rename_i hop
        cases h
        exact ⟨trivial, trivial, by rw [ofSymbol?_eq_some_iff.mp hop]; rfl⟩
      · obtain ⟨⟨n, r⟩, hscan, h⟩ := Option.map_eq_some_iff.mp h
        cases h
        obtain ⟨hn, happend, hlongest⟩ := Decimal.Numeral.scan?_eq_some_iff.mp hscan
        have htext : (String.ofList n.text).toList = n.text := String.toList_ofList
        refine ⟨formed_number_iff.mpr ⟨n, hn, htext.symm, rfl⟩, fun m hm hpre => ?_,
          by rwa [text, htext]⟩
        rw [htext] at hpre ⊢
        exact hlongest m hm (happend ▸ hpre)

theorem Formed.ofFront?_text_append (h : l.Formed) (hlongest : l.IsLongest rest) :
    ofFront? (l.text ++ rest) = some (l, rest) := by
  cases l with
  | leftParen => rfl
  | rightParen => rfl
  | operator op => exact ofFront?_operator op rest
  | var name =>
    obtain ⟨c, cs, hname, hc, hcs⟩ := h
    have hr : rest.takeWhile isLetterOrDigit = [] ∧ rest.dropWhile isLetterOrDigit = rest := by
      cases rest with
      | nil => exact ⟨rfl, rfl⟩
      | cons d ds => simp [hlongest d rfl]
    rw [text, hname, List.cons_append, ofFront?_of_isLetter hc,
      List.takeWhile_append_of_pos hcs, List.dropWhile_append_of_pos hcs, hr.1, hr.2,
      List.append_nil, ← hname, String.ofList_toList]
  | number value text =>
    obtain ⟨n, hn, htext, rfl⟩ := formed_number_iff.mp h
    obtain ⟨c, cs, hcons, hc⟩ := hn.exists_text_eq_cons
    have hscan : Decimal.Numeral.scan? (n.text ++ rest) = some (n, rest) := by
      refine Decimal.Numeral.scan?_eq_some_iff.mpr ⟨hn, rfl, fun m hm hpre => ?_⟩
      rw [htext] at hpre ⊢
      exact hlongest m hm hpre
    rw [Lexeme.text, ← htext]
    rw [hcons, List.cons_append] at hscan ⊢
    simp only [ofFront?_of_isDigit hc, hscan, Option.map_some, htext, String.ofList_toList]
  | other text => exact h.elim

theorem isSome_ofFront?_iff : (ofFront? cs).isSome = true ↔ Begins cs := by
  constructor
  · intro h
    obtain ⟨⟨l, rest⟩, hl⟩ := Option.isSome_iff_exists.mp h
    obtain ⟨hformed, -, happend⟩ := of_ofFront?_eq_some hl
    exact ⟨l, hformed, rest, happend⟩
  · rintro ⟨l, hl, rest, rfl⟩
    cases l with
    | leftParen => rfl
    | rightParen => rfl
    | operator op => rw [text, List.singleton_append, ofFront?_operator, Option.isSome_some]
    | var name =>
      obtain ⟨c, cs, hname, hc, -⟩ := hl
      rw [text, hname, List.cons_append, ofFront?_of_isLetter hc, Option.isSome_some]
    | number value text =>
      obtain ⟨⟨n, hn, htext⟩, -⟩ := hl
      obtain ⟨c, cs, hcons, hc⟩ := hn.exists_text_eq_cons
      obtain ⟨_, _, hscan, -⟩ := hn.exists_scan? rest
      rw [Lexeme.text, ← htext]
      rw [hcons, List.cons_append] at hscan ⊢
      rw [ofFront?_of_isDigit hc, hscan, Option.map_some, Option.isSome_some]
    | other text => exact hl.elim

theorem ofFront?_eq_none_iff : ofFront? cs = none ↔ ¬ Begins cs := by
  rw [← isSome_ofFront?_iff, Option.not_isSome_iff_eq_none]

theorem Formed.isBlank_eq_false (h : l.Formed) {c : Char} (hc : c ∈ l.text) :
    Text.isBlank c = false := by
  cases l with
  | leftParen => cases List.mem_singleton.mp hc; decide
  | rightParen => cases List.mem_singleton.mp hc; decide
  | operator op => cases List.mem_singleton.mp hc; cases op <;> decide
  | var name =>
    obtain ⟨d, cs, hname, hd, hcs⟩ := h
    apply Text.isBlank_eq_false_of_isAlphanum
    rw [text, hname, List.mem_cons] at hc
    rcases hc with rfl | hc
    · exact Text.isAlphanum_iff.mpr (.inl hd)
    · exact hcs c hc
  | number value text =>
    obtain ⟨⟨n, hn, htext⟩, -⟩ := h
    rw [Lexeme.text, ← htext] at hc
    rcases hn.mem_text hc with hc | hc
    · exact Text.isBlank_eq_false_of_isAlphanum (Text.isAlphanum_iff.mpr (.inr hc))
    · simp only [List.mem_cons, List.not_mem_nil, or_false] at hc
      rcases hc with rfl | rfl | rfl | rfl | rfl <;> decide
  | other text => exact h.elim

theorem Formed.text_ne_nil (h : l.Formed) : l.text ≠ [] := by
  cases l with
  | var name =>
    obtain ⟨c, cs, hname, -⟩ := h
    simp [text, hname]
  | number value text =>
    obtain ⟨⟨n, hn, htext⟩, -⟩ := h
    obtain ⟨c, cs, hcons, -⟩ := hn.exists_text_eq_cons
    simp [Lexeme.text, ← htext, hcons]
  | other text => exact h.elim
  | _ => simp [text]

/-! ## Runs of unknown characters -/

def Interrupts (cs : List Char) : Prop :=
  ∀ c ∈ cs.head?, Text.isBlank c = true ∨ Begins cs

theorem otherRun_spec (cs : List Char) :
    (otherRun cs).1 ++ (otherRun cs).2 = cs ∧ IsUnknown (otherRun cs).2 (otherRun cs).1 ∧
      Interrupts (otherRun cs).2 := by
  induction cs with
  | nil => exact ⟨rfl, trivial, by simp [Interrupts, otherRun]⟩
  | cons c cs ih =>
    obtain ⟨happend, hunknown, hinterrupts⟩ := ih
    unfold otherRun
    split
    · rename_i h
      rw [Bool.or_eq_true, isSome_ofFront?_iff] at h
      refine ⟨rfl, trivial, ?_⟩
      rintro d ⟨⟩
      exact h
    · rename_i h
      rw [Bool.or_eq_true, isSome_ofFront?_iff, not_or, Bool.not_eq_true] at h
      refine ⟨by simp [happend], ⟨?_, hunknown⟩, hinterrupts⟩
      rwa [happend]

theorem otherRun_append (hrun : IsUnknown rest run) (hrest : Interrupts rest) :
    otherRun (run ++ rest) = (run, rest) := by
  induction run with
  | nil =>
    cases rest with
    | nil => rfl
    | cons c cs =>
      rw [List.nil_append, otherRun, if_pos]
      rw [Bool.or_eq_true, isSome_ofFront?_iff]
      exact hrest c rfl
  | cons c cs ih =>
    obtain ⟨⟨hb, hn⟩, hrun⟩ := hrun
    rw [List.cons_append, otherRun, if_neg, ih hrun]
    rw [Bool.or_eq_true, isSome_ofFront?_iff, not_or, Bool.not_eq_true]
    exact ⟨hb, hn⟩

/-! ## Whole texts -/

theorem ofChars_blanks_append {bs : List Char} (hb : ∀ c ∈ bs, Text.isBlank c = true)
    (cs : List Char) : ofChars (bs ++ cs) = ofChars cs := by
  induction bs with
  | nil => rfl
  | cons c bs ih =>
    obtain ⟨hc, hbs⟩ := List.forall_mem_cons.mp hb
    rw [List.cons_append, ofChars, if_pos hc, ih hbs]

theorem ofChars_cons_of_ofFront? {c : Char} (hb : Text.isBlank c = false)
    (h : ofFront? (c :: cs) = some (l, rest)) : ofChars (c :: cs) = l :: ofChars rest := by
  rw [ofChars]
  simp only [hb, Bool.false_eq_true, if_false]
  split
  · rename_i h'
    rw [h] at h'
    cases h'
    rfl
  · rename_i h'
    rw [h] at h'
    cases h'

theorem ofChars_cons_of_eq_none {c : Char} (hb : Text.isBlank c = false)
    (h : ofFront? (c :: cs) = none) :
    ofChars (c :: cs) = other (String.ofList (c :: (otherRun cs).1)) :: ofChars (otherRun cs).2 := by
  rw [ofChars]
  simp only [hb, Bool.false_eq_true, if_false]
  split
  · rename_i h'
    rw [h] at h'
    cases h'
  · rfl

theorem Formed.ofChars_text_append (h : l.Formed) (hlongest : l.IsLongest rest) :
    ofChars (l.text ++ rest) = l :: ofChars rest := by
  have hfront := h.ofFront?_text_append hlongest
  obtain ⟨c, cs, hcons⟩ := List.exists_cons_of_ne_nil h.text_ne_nil
  have hc := h.isBlank_eq_false (hcons ▸ List.mem_cons_self)
  rw [hcons, List.cons_append] at hfront ⊢
  exact ofChars_cons_of_ofFront? hc hfront

theorem ofChars_unknown_append (hne : run ≠ []) (hrun : IsUnknown rest run)
    (hrest : Interrupts rest) :
    ofChars (run ++ rest) = other (String.ofList run) :: ofChars rest := by
  obtain ⟨c, cs, rfl⟩ := List.exists_cons_of_ne_nil hne
  obtain ⟨⟨hb, hn⟩, hcs⟩ := hrun
  rw [List.cons_append, ofChars_cons_of_eq_none hb (ofFront?_eq_none_iff.mpr hn),
    otherRun_append hcs hrest]

/-- A lexeme of a text and the blanks in front of it. -/
structure Piece where
  blanks : List Char
  lexeme : Lexeme

/-- A text is cut into pieces, with nothing but blanks behind them. A lexeme of a known kind is as
long as it can be, and no two runs of unknown characters touch. -/
inductive Cut : List Char → List Piece → Prop
  | nil {bs : List Char} (blank : ∀ c ∈ bs, Text.isBlank c = true) : Cut bs []
  | known {bs rest : List Char} {l : Lexeme} {ps : List Piece}
      (blank : ∀ c ∈ bs, Text.isBlank c = true) (formed : l.Formed) (longest : l.IsLongest rest)
      (next : Cut rest ps) : Cut (bs ++ (l.text ++ rest)) (⟨bs, l⟩ :: ps)
  | unknown {bs run rest : List Char} {ps : List Piece}
      (blank : ∀ c ∈ bs, Text.isBlank c = true) (nonempty : run ≠ []) (unknown : IsUnknown rest run)
      (apart : ∀ p ∈ ps.head?, p.lexeme.isOther = true → p.blanks ≠ []) (next : Cut rest ps) :
      Cut (bs ++ (run ++ rest)) (⟨bs, other (String.ofList run)⟩ :: ps)

namespace Cut

variable {cs rest : List Char} {ps : List Piece}

theorem interrupts (h : Cut cs ps)
    (ha : ∀ p ∈ ps.head?, p.lexeme.isOther = true → p.blanks ≠ []) : Interrupts cs := by
  have hblank {bs rest : List Char} (hb : ∀ c ∈ bs, Text.isBlank c = true) (hne : bs ≠ []) :
      Interrupts (bs ++ rest) := by
    intro c hc
    rw [List.head?_append_of_ne_nil _ hne] at hc
    exact .inl (hb c (List.mem_of_mem_head? hc))
  cases h with
  | nil blank => exact fun c hc => .inl (blank c (List.mem_of_mem_head? hc))
  | @known bs rest l ps blank formed longest next =>
    cases bs with
    | nil => exact fun c _ => .inr ⟨l, formed, rest, rfl⟩
    | cons b bs => exact hblank blank (List.cons_ne_nil b bs)
  | unknown blank nonempty unknown apart next => exact hblank blank (ha _ rfl rfl)

/-- However a text is cut, its lexemes are the same. -/
theorem ofChars_eq (h : Cut cs ps) : ofChars cs = ps.map Piece.lexeme := by
  induction h with
  | @nil bs blank =>
    rw [← List.append_nil bs, ofChars_blanks_append blank, ofChars]
    rfl
  | known blank formed longest next ih =>
    rw [ofChars_blanks_append blank, formed.ofChars_text_append longest, ih, List.map_cons]
  | unknown blank nonempty unknown apart next ih =>
    rw [ofChars_blanks_append blank,
      ofChars_unknown_append nonempty unknown (next.interrupts apart), ih, List.map_cons]

theorem exists_cut_cons {c : Char} (hc : Text.isBlank c = true) (h : Cut cs ps) :
    ∃ ps', Cut (c :: cs) ps' ∧ ps'.map Piece.lexeme = ps.map Piece.lexeme := by
  cases h with
  | nil blank => exact ⟨[], .nil (List.forall_mem_cons.mpr ⟨hc, blank⟩), rfl⟩
  | known blank formed longest next =>
    exact ⟨_, .known (List.forall_mem_cons.mpr ⟨hc, blank⟩) formed longest next, rfl⟩
  | unknown blank nonempty unknown apart next =>
    exact ⟨_, .unknown (List.forall_mem_cons.mpr ⟨hc, blank⟩) nonempty unknown apart next, rfl⟩

theorem blanks_ne_nil_of_interrupts (h : Cut cs ps) (hi : Interrupts cs) :
    ∀ p ∈ ps.head?, p.lexeme.isOther = true → p.blanks ≠ [] := by
  intro p hp ho hbs
  cases h with
  | nil => cases hp
  | @known _ _ l _ _ formed =>
    cases hp
    cases l with
    | other text => exact formed
    | _ => cases ho
  | @unknown _ run rest _ _ nonempty unknown =>
    cases hp
    obtain rfl := hbs
    obtain ⟨c, run, rfl⟩ := List.exists_cons_of_ne_nil nonempty
    obtain ⟨⟨hb, hn⟩, -⟩ := unknown
    -- A run that followed another one directly would have been part of it.
    rcases hi c rfl with h | h
    · rw [hb] at h
      cases h
    · exact hn h

theorem exists_cut (cs : List Char) : ∃ ps, Cut cs ps ∧ ps.map Piece.lexeme = ofChars cs := by
  fun_induction ofChars cs with
  | case1 => exact ⟨[], .nil (by simp), rfl⟩
  | case2 c cs hc ih =>
    obtain ⟨ps, hcut, hps⟩ := ih
    rw [← hps]
    exact exists_cut_cons hc hcut
  | case3 c cs hc l rest hfront ih =>
    obtain ⟨ps, hcut, hps⟩ := ih
    obtain ⟨hformed, hlongest, happend⟩ := of_ofFront?_eq_some hfront
    have hstep : Cut ([] ++ (l.text ++ rest)) (⟨[], l⟩ :: ps) :=
      .known (by simp) hformed hlongest hcut
    rw [List.nil_append, happend] at hstep
    exact ⟨_, hstep, by rw [List.map_cons, hps]⟩
  | case4 c cs hc hfront ih =>
    obtain ⟨ps, hcut, hps⟩ := ih
    obtain ⟨happend, hunknown, hinterrupts⟩ := otherRun_spec cs
    rw [Bool.not_eq_true] at hc
    have hrun : IsUnknown (otherRun cs).2 (c :: (otherRun cs).1) := by
      refine ⟨⟨hc, ?_⟩, hunknown⟩
      rw [happend]
      exact ofFront?_eq_none_iff.mp hfront
    have hstep : Cut ([] ++ (c :: (otherRun cs).1 ++ (otherRun cs).2))
        (⟨[], other (String.ofList (c :: (otherRun cs).1))⟩ :: ps) :=
      .unknown (by simp) (List.cons_ne_nil _ _) hrun
        (hcut.blanks_ne_nil_of_interrupts hinterrupts) hcut
    rw [List.nil_append, List.cons_append, happend] at hstep
    exact ⟨_, hstep, by rw [List.map_cons, hps]⟩

theorem isBlank_eq_false (h : Cut cs ps) {p : Piece} (hp : p ∈ ps) {c : Char}
    (hc : c ∈ p.lexeme.text) : Text.isBlank c = false := by
  have hrun {run rest : List Char} (h : IsUnknown rest run) (hc : c ∈ run) :
      Text.isBlank c = false := by
    induction run with
    | nil => cases hc
    | cons d run ih =>
      rcases List.mem_cons.mp hc with rfl | hc
      · exact h.1.1
      · exact ih h.2 hc
  induction h with
  | nil => cases hp
  | known blank formed longest next ih =>
    rcases List.mem_cons.mp hp with rfl | hp
    · exact formed.isBlank_eq_false hc
    · exact ih hp
  | unknown blank nonempty unknown apart next ih =>
    rcases List.mem_cons.mp hp with rfl | hp
    · rw [Lexeme.text, String.toList_ofList] at hc
      exact hrun unknown hc
    · exact ih hp

end Cut

end Lexeme

open Lexeme

/-- The lexemes of a text are those of the one way in which it can be cut: into lexemes of known
kinds, each as long as it can be, and runs of characters at none of which one could start, never two
of them without a blank between. No lexeme holds a blank. -/
theorem tokenize_eq_iff_cut (text : String) (ls : List Lexeme) :
    (tokenize text = ls ↔ ∃ ps, Cut text.toList ps ∧ ps.map Piece.lexeme = ls) ∧
    ∀ l ∈ tokenize text, ∀ c ∈ l.text, Text.isBlank c = false := by
  obtain ⟨ps, hcut, hps⟩ := Cut.exists_cut text.toList
  refine ⟨⟨?_, ?_⟩, ?_⟩
  · rintro rfl
    exact ⟨ps, hcut, hps⟩
  · rintro ⟨ps, hcut, rfl⟩
    exact hcut.ofChars_eq
  · intro l hl c hc
    rw [tokenize, ← hps] at hl
    obtain ⟨p, hp, rfl⟩ := List.mem_map.mp hl
    exact hcut.isBlank_eq_false hp hc

/-- Points and exponents without digits, digits before letters, and unknown runs with a blank
between them. -/
theorem tokenize_eq_iff_cut_tangled : ∃ ls : List Lexeme,
    ls.map (fun l => String.ofList l.text) =
      [".", ".5", "1", "e", "+", "$", "$", "x1", "1.2", ".3"] ∧
    tokenize "..5 1e+$ $x1\t1.2.3" = ls ∧
    (∃ ps, Cut "..5 1e+$ $x1\t1.2.3".toList ps ∧ ps.map Piece.lexeme = ls) ∧
    var "x1" ∈ tokenize "..5 1e+$ $x1\t1.2.3" ∧ '1' ∈ (var "x1").text ∧
    Text.isBlank '1' = false := by
  have htext : (tokenize "..5 1e+$ $x1\t1.2.3").map (fun l => String.ofList l.text) =
      [".", ".5", "1", "e", "+", "$", "$", "x1", "1.2", ".3"] := by decide +kernel
  have hvar : var "x1" ∈ tokenize "..5 1e+$ $x1\t1.2.3" := by decide +kernel
  obtain ⟨hcut, hblank⟩ :=
    tokenize_eq_iff_cut "..5 1e+$ $x1\t1.2.3" (tokenize "..5 1e+$ $x1\t1.2.3")
  have hdigit : '1' ∈ (var "x1").text := by decide
  exact ⟨_, htext, rfl, hcut.mp rfl, hvar, hdigit, hblank _ hvar _ hdigit⟩

end Spreadsheet
