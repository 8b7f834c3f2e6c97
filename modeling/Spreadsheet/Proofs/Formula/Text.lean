import Spreadsheet.Proofs.Decimal.Print
import Spreadsheet.Proofs.Formula.Spacing

/-! # Text of formulas

The tokens of a formula are written one after the other without blanks, each as a lexeme of its own,
so the text is cut into the same tokens again.
-/

namespace Spreadsheet

variable {t : Token} {ts : List Token}

namespace Token

def lexeme : Token → Lexeme
  | leftParen => .leftParen
  | rightParen => .rightParen
  | operator op => .operator op
  | var name => .var name
  | number value => .number value (Decimal.text value)

/-- The token is a number that numerals have, or a variable that can be spelled, or a symbol. -/
def Legible : Token → Prop
  | var name => Lexeme.IsVariable name
  | number value => value.isFinite = true ∧ Binary64.isNegative value = false
  | _ => True

theorem text_lexeme (t : Token) : t.lexeme.text = t.text.toList := by
  cases t with
  | operator op => cases op <;> rfl
  | _ => rfl

theorem Legible.formed (h : t.Legible) : t.lexeme.Formed := by
  cases t with
  | var name => exact h
  | number value =>
    obtain ⟨hf, hn⟩ := h
    refine Lexeme.formed_number_iff.mpr ⟨Decimal.Numeral.ofRank (Binary64.rank value),
      (Decimal.Numeral.plain_ofRank _).wellFormed, ?_, Decimal.value_ofRank_rank hf hn⟩
    rw [Decimal.text, String.toList_ofList, Decimal.print_of_nonneg hf hn]
  | _ => trivial

end Token

namespace Formula

open Lexeme

/-- Rewriting a variable as a formula holds it leaves it as it is. -/
def VariableRules.Stable (rules : VariableRules) : Prop :=
  ∀ v, IsVariable v → rules.isValid (rules.normalize v) = true →
    IsVariable (rules.normalize v) ∧ rules.normalize (rules.normalize v) = rules.normalize v

theorem Stands.legible {rules : VariableRules} (hs : rules.Stable) {l : Lexeme}
    (hl : l.Formed) (h : Stands rules l t) : t.Legible ∧ Stands rules t.lexeme t := by
  cases h with
  | leftParen => exact ⟨trivial, .leftParen⟩
  | rightParen => exact ⟨trivial, .rightParen⟩
  | operator op => exact ⟨trivial, .operator op⟩
  | number text finite =>
    obtain ⟨n, -, -, rfl⟩ := formed_number_iff.mp hl
    have hlt := (Binary64.isFinite_ofRank_iff (Binary64.ofScientific_le _ _)).mp finite
    exact ⟨⟨finite, Binary64.isNegative_ofRank hlt⟩, .number _ finite⟩
  | @var name valid =>
    obtain ⟨hv, hn⟩ := hs name hl valid
    refine ⟨hv, ?_⟩
    rw [← hn] at valid
    have hst : Stands rules (.var (rules.normalize name)) _ := .var valid
    rwa [hn] at hst

theorem exists_stands {rules : VariableRules} {ls : List Lexeme}
    (h : List.Forall₂ (Stands rules) ls ts) (ht : t ∈ ts) : ∃ l ∈ ls, Stands rules l t := by
  have hflip : List.Forall₂ (fun t l => Stands rules l t) ts ls := List.Forall₂.flip h
  exact exists_of_mem_of_forall₂ hflip ht

/-- The tokens of a checked formula are legible, and each is checked again to what it is. -/
theorem legible_of_parse {rules : VariableRules} (hs : rules.Stable) {s : String} {f : Formula}
    (h : parse rules s = .ok f) (ht : t ∈ f.tokens) : t.Legible ∧ Stands rules t.lexeme t := by
  obtain ⟨hf, -⟩ := ofLexemes_eq_ok_iff.mp h
  obtain ⟨l, hl, hst⟩ := exists_stands hf ht
  exact hst.legible hs (formed_of_mem_ofChars hl hst.isOther)

theorem spaced_text (f : Formula) : Spaced f.text.toList (f.tokens.map Token.lexeme) := by
  rw [text, String.toList_join, List.flatMap_map]
  induction f.tokens with
  | nil => exact .nil (by simp)
  | cons t ts ih =>
    rw [List.flatMap_cons, List.map_cons, ← t.text_lexeme]
    exact ih.text_append t.lexeme

/-- The text of a checked formula is checked to the same formula. -/
theorem parse_text {rules : VariableRules} (hs : rules.Stable) {s : String} {f : Formula}
    (h : parse rules s = .ok f) : parse rules f.text = .ok f := by
  have hsentence : Sentence rules (f.tokens.map Token.lexeme) f.tokens := by
    refine ⟨?_, (ofLexemes_eq_ok_iff.mp h).2⟩
    rw [List.forall₂_map_left_iff, List.forall₂_same]
    exact fun t ht => (legible_of_parse hs h ht).2
  have hformed : ∀ l ∈ f.tokens.map Token.lexeme, l.Formed :=
    List.forall_mem_map.mpr fun t ht => (legible_of_parse hs h ht).1.formed
  refine ofLexemes_eq_ok_iff.mpr ?_
  rwa [tokenize, f.spaced_text.ofChars_eq hformed hsentence.apart]

end Formula

end Spreadsheet
