import Spreadsheet.Formula.Basic
import Spreadsheet.Proofs.Decimal.Print
import Spreadsheet.Proofs.Except
import Spreadsheet.Proofs.Formula.Lexeme

/-! # Letter case of formulas

Lexemes are cut without a look at the case of letters, so a text in upper case has the same
lexemes, in upper case. Under rules that fold the case of variables the check then places the same
tokens, and an error quotes in upper case what it quoted before.
-/

namespace Spreadsheet

/-! ## Numerals -/

namespace Decimal

theorem isDigit_comp_toUpper : Char.isDigit ∘ Char.toUpper = Char.isDigit := by
  funext c
  exact Text.isDigit_toUpper

theorem map_toUpper_digits {ds : List Char} (hds : ∀ c ∈ ds, c.isDigit = true) :
    ds.map Char.toUpper = ds := by
  apply Text.map_toUpper_eq_self
  intro c hc
  exact Text.not_isLower_of_isDigit (hds c hc)

theorem takeWhile_isDigit_map_toUpper (cs : List Char) :
    (cs.map Char.toUpper).takeWhile Char.isDigit = cs.takeWhile Char.isDigit := by
  rw [List.takeWhile_map, isDigit_comp_toUpper]
  exact map_toUpper_digits fun c hc => List.mem_takeWhile_imp hc

theorem dropWhile_isDigit_map_toUpper (cs : List Char) :
    (cs.map Char.toUpper).dropWhile Char.isDigit =
      (cs.dropWhile Char.isDigit).map Char.toUpper := by
  rw [List.dropWhile_map, isDigit_comp_toUpper]

namespace Exponent

def upper (e : Exponent) : Exponent := { e with letter := e.letter.toUpper }

theorem WellFormed.text_upper {e : Exponent} (h : e.WellFormed) :
    e.upper.text = e.text.map Char.toUpper := by
  have hsign : e.sign.toList.map Char.toUpper = e.sign.toList := by
    apply Text.map_toUpper_eq_self
    intro c hc
    rcases h.sign c (Option.mem_toList.mp hc) with rfl | rfl <;> decide
  rw [text, text, upper, List.map_cons, List.map_append, hsign, map_toUpper_digits h.digits]

theorem scanSign_map_toUpper (cs : List Char) : scanSign (cs.map Char.toUpper) =
    ((scanSign cs).1, (scanSign cs).2.map Char.toUpper) := by
  cases cs with
  | nil => rfl
  | cons c cs =>
    by_cases hplus : c = '+'
    · subst hplus
      rfl
    by_cases hminus : c = '-'
    · subst hminus
      rfl
    rw [scanSign_cons hplus hminus, List.map_cons, scanSign_cons]
    · rwa [ne_eq, Text.toUpper_eq_iff (by decide)]
    · rwa [ne_eq, Text.toUpper_eq_iff (by decide)]

theorem isLetter_toUpper_iff {c : Char} :
    (c.toUpper = 'e' ∨ c.toUpper = 'E') ↔ (c = 'e' ∨ c = 'E') := by
  have he : 'e'.toNat = 101 := rfl
  have hE : 'E'.toNat = 69 := rfl
  simp only [← Char.toNat_inj, Text.toNat_toUpper, he, hE]
  split
  · rename_i h
    rw [Text.isLower_iff] at h
    omega
  · rfl

theorem scan_map_toUpper (cs : List Char) : scan (cs.map Char.toUpper) =
    ((scan cs).1.map upper, (scan cs).2.map Char.toUpper) := by
  cases cs with
  | nil => rfl
  | cons c cs =>
    simp only [List.map_cons, scan, scanSign_map_toUpper, takeWhile_isDigit_map_toUpper,
      dropWhile_isDigit_map_toUpper, isLetter_toUpper_iff]
    split <;> rfl

end Exponent

namespace Numeral

variable {n : Numeral}

def upper (n : Numeral) : Numeral := { n with exponent := n.exponent.map Exponent.upper }

theorem value_upper (n : Numeral) : n.upper.value = n.value := by
  obtain ⟨whole, fraction, exponent⟩ := n
  cases exponent <;> rfl

theorem WellFormed.text_upper (h : n.WellFormed) : n.upper.text = n.text.map Char.toUpper := by
  have hfraction : (n.fraction.elim [] ('.' :: ·)).map Char.toUpper =
      n.fraction.elim [] ('.' :: ·) := by
    cases hf : n.fraction with
    | none => rfl
    | some ds =>
      have hds := h.fraction
      rw [hf, Option.getD_some] at hds
      rw [Option.elim_some, List.map_cons, map_toUpper_digits hds]
      rfl
  have hexponent : (n.exponent.elim [] Exponent.text).map Char.toUpper =
      (n.exponent.map Exponent.upper).elim [] Exponent.text := by
    cases he : n.exponent with
    | none => rfl
    | some e => exact (h.exponent e he).text_upper.symm
  rw [text_eq, text_eq, List.map_append, List.map_append, map_toUpper_digits h.whole, hfraction,
    hexponent]
  rfl

theorem scanFraction_map_toUpper (whole cs : List Char) :
    scanFraction whole (cs.map Char.toUpper) =
      ((scanFraction whole cs).1, (scanFraction whole cs).2.map Char.toUpper) := by
  cases cs with
  | nil => rfl
  | cons c cs =>
    by_cases hpoint : c = '.'
    · subst hpoint
      have hupper : Char.toUpper '.' = '.' := by decide
      simp only [List.map_cons, hupper, scanFraction, takeWhile_isDigit_map_toUpper,
        dropWhile_isDigit_map_toUpper]
      split <;> rfl
    · rw [scanFraction_cons hpoint, List.map_cons, scanFraction_cons]
      rwa [ne_eq, Text.toUpper_eq_iff (by decide)]

theorem scan?_map_toUpper (cs : List Char) : scan? (cs.map Char.toUpper) =
    (scan? cs).map fun (n, rest) => (n.upper, rest.map Char.toUpper) := by
  simp only [scan?, takeWhile_isDigit_map_toUpper, dropWhile_isDigit_map_toUpper,
    scanFraction_map_toUpper, Exponent.scan_map_toUpper]
  split <;> rfl

end Numeral

theorem upper_text {x : Float} (h : x.isFinite = true) : Text.upper (text x) = text x := by
  apply Text.upper_eq_self
  intro c hc
  rw [text, String.toList_ofList] at hc
  rcases mem_print h hc with hc | rfl | rfl
  · exact Text.not_isLower_of_isDigit hc
  · decide
  · decide

end Decimal

/-! ## Lexemes -/

namespace Lexeme

def upper : Lexeme → Lexeme
  | var name => var (Text.upper name)
  | number value text => number value (Text.upper text)
  | other text => other (Text.upper text)
  | l => l

theorem isLetter_toUpper (c : Char) : isLetter c.toUpper = isLetter c := Text.isAlpha_toUpper

theorem isLetterOrDigit_comp_toUpper : isLetterOrDigit ∘ Char.toUpper = isLetterOrDigit := by
  funext c
  exact Text.isAlphanum_toUpper

theorem ofSymbol?_toUpper (c : Char) : Operator.ofSymbol? c.toUpper = Operator.ofSymbol? c := by
  ext op
  rw [ofSymbol?_eq_some_iff, ofSymbol?_eq_some_iff]
  apply Text.toUpper_eq_iff
  cases op <;> rfl

theorem ofFront?_map_toUpper (cs : List Char) : ofFront? (cs.map Char.toUpper) =
    (ofFront? cs).map fun (l, rest) => (l.upper, rest.map Char.toUpper) := by
  cases cs with
  | nil => rfl
  | cons c cs =>
    by_cases hleft : c = '('
    · subst hleft
      rfl
    by_cases hright : c = ')'
    · subst hright
      rfl
    have hleft' : c.toUpper ≠ '(' := by rwa [ne_eq, Text.toUpper_eq_iff (by decide)]
    have hright' : c.toUpper ≠ ')' := by rwa [ne_eq, Text.toUpper_eq_iff (by decide)]
    rw [List.map_cons, ofFront?_cons hleft hright, ofFront?_cons hleft' hright', ← List.map_cons,
      isLetter_toUpper, ofSymbol?_toUpper, Decimal.Numeral.scan?_map_toUpper]
    split
    · simp only [List.takeWhile_map, List.dropWhile_map, isLetterOrDigit_comp_toUpper,
        Option.map_some, upper, Text.upper_ofList, List.map_cons]
    · cases Operator.ofSymbol? c with
      | some op => rfl
      | none =>
        cases hscan : Decimal.Numeral.scan? (c :: cs) with
        | none => rfl
        | some taken =>
          obtain ⟨n, rest⟩ := taken
          obtain ⟨hn, -⟩ := Decimal.Numeral.of_scan?_eq_some hscan
          simp only [Option.map_some, upper, Text.upper_ofList, hn.text_upper,
            Decimal.Numeral.value_upper]

theorem otherRun_map_toUpper (cs : List Char) : otherRun (cs.map Char.toUpper) =
    ((otherRun cs).1.map Char.toUpper, (otherRun cs).2.map Char.toUpper) := by
  induction cs with
  | nil => rfl
  | cons c cs ih =>
    rw [List.map_cons, otherRun, ← List.map_cons, ofFront?_map_toUpper, Option.isSome_map,
      Text.isBlank_toUpper, ih, otherRun]
    split <;> rfl

theorem ofChars_map_toUpper (cs : List Char) :
    ofChars (cs.map Char.toUpper) = (ofChars cs).map upper := by
  fun_induction ofChars cs with
  | case1 => rw [List.map_nil, ofChars, List.map_nil]
  | case2 c cs hc ih =>
    have hc' : Text.isBlank c.toUpper = true := by rwa [Text.isBlank_toUpper]
    rw [List.map_cons, ofChars, if_pos hc', ih]
  | case3 c cs hc l rest hfront ih =>
    have hc' : Text.isBlank c.toUpper = false := by rwa [Text.isBlank_toUpper, ← Bool.not_eq_true]
    have hfront' := ofFront?_map_toUpper (c :: cs)
    rw [hfront, Option.map_some] at hfront'
    rw [List.map_cons, ofChars_cons_of_ofFront? hc' hfront', ih, List.map_cons]
  | case4 c cs hc hfront ih =>
    have hc' : Text.isBlank c.toUpper = false := by rwa [Text.isBlank_toUpper, ← Bool.not_eq_true]
    have hfront' := ofFront?_map_toUpper (c :: cs)
    rw [hfront, Option.map_none] at hfront'
    rw [List.map_cons, ofChars_cons_of_eq_none hc' hfront', otherRun_map_toUpper, ih, List.map_cons,
      upper, Text.upper_ofList, List.map_cons]

end Lexeme

theorem tokenize_upper (text : String) :
    tokenize (Text.upper text) = (tokenize text).map Lexeme.upper := by
  rw [tokenize, Text.upper, String.toList_ofList, Lexeme.ofChars_map_toUpper, tokenize]

/-! ## The check -/

namespace Formula

/-- The error with what it quotes in upper case. -/
def SyntaxError.upper : SyntaxError → SyntaxError
  | .unknownToken text => .unknownToken (Text.upper text)
  | .numberOutOfRange text => .numberOutOfRange (Text.upper text)
  | .misplacedOperand text => .misplacedOperand (Text.upper text)
  | .trailingToken text => .trailingToken (Text.upper text)
  | .invalidVariable name => .invalidVariable (Text.upper name)
  | e => e

/-- Variables that differ in case alone are rewritten alike, in upper case. -/
structure VariableRules.FoldsCase (rules : VariableRules) : Prop where
  normalize_upper : ∀ name, rules.normalize (Text.upper name) = rules.normalize name
  upper_normalize : ∀ name, Text.upper (rules.normalize name) = rules.normalize name

namespace Position

variable {rules : VariableRules}

theorem place_upper (h : rules.FoldsCase) (p : Position) (l : Lexeme) :
    p.place rules l.upper = (p.place rules l).mapError SyntaxError.upper := by
  cases l with
  | leftParen =>
    simp only [Lexeme.upper, place]
    split <;> rfl
  | rightParen =>
    simp only [Lexeme.upper, place]
    split
    · rfl
    · split <;> rfl
  | operator op =>
    simp only [Lexeme.upper, place]
    split <;> rfl
  | var name =>
    simp only [Lexeme.upper, place, h.normalize_upper]
    split
    · rfl
    · split
      · simp [Except.mapError, SyntaxError.upper, h.upper_normalize]
      · rfl
  | number value text =>
    simp only [Lexeme.upper, place]
    split
    · rfl
    · rename_i hfinite
      split
      -- The error shows the number as it is printed, without a letter, and not as it was typed.
      · have hprinted := Decimal.upper_text (not_not.mp hfinite)
        simp [Except.mapError, SyntaxError.upper, hprinted]
      · rfl
  | other text => rfl

theorem mapError_finish (p : Position) : p.finish.mapError SyntaxError.upper = p.finish := by
  obtain ⟨last, depth⟩ := p
  have hopener {t : Token} (ht : t.isOpener = true) : Text.upper t.text = t.text := by
    cases t with
    | leftParen => decide
    | operator op => cases op <;> decide
    | _ => cases ht
  cases last with
  | none => rfl
  | some t =>
    simp only [finish]
    split
    · rename_i ht
      simp [Except.mapError, SyntaxError.upper, hopener ht]
    · split <;> rfl

theorem check_upper (h : rules.FoldsCase) (p : Position) (ls : List Lexeme) :
    p.check rules (ls.map Lexeme.upper) = (p.check rules ls).mapError SyntaxError.upper := by
  induction ls generalizing p with
  | nil =>
    rw [List.map_nil, check, Except.mapError_bind, mapError_finish]
    rfl
  | cons l ls ih =>
    rw [List.map_cons, check, place_upper h, check, Except.mapError_bind]
    congr 1
    funext t
    rw [ih, Except.mapError_bind]
    rfl

end Position

/-- A text in upper case is checked like the text itself: it gives the same formula, or is refused
for the same error, in upper case. -/
theorem parse_upper {rules : VariableRules} (h : rules.FoldsCase) (text : String) :
    parse rules (Text.upper text) = (parse rules text).mapError SyntaxError.upper := by
  rw [parse, parse, tokenize_upper, ofLexemes, ofLexemes, Position.check_upper h]
  cases Position.start.check rules (tokenize text) <;> rfl

end Formula

end Spreadsheet
