import Spreadsheet.Proofs.Formula.Grammar
import Spreadsheet.Proofs.Formula.Lexeme

/-! # Blanks between lexemes

In a formula no operand stands next to another, so every lexeme ends where its text ends, whatever
blanks come before the next one, or none. The same lexemes are then found with any spacing.
-/

namespace Spreadsheet

namespace Lexeme

variable {cs cs' rest : List Char} {l : Lexeme} {ls ls' : List Lexeme}

def isOperand : Lexeme → Bool
  | var _ | number _ _ => true
  | _ => false

/-- No variable and no number goes on into this text. -/
def Ends : List Char → Prop
  | [] => True
  | c :: _ => c.isAlphanum = false ∧ c ≠ '.'

theorem Ends.stops (h : Ends rest) : Decimal.Numeral.Stops rest := by
  cases rest with
  | nil => trivial
  | cons c cs =>
    obtain ⟨hc, hp⟩ := h
    refine ⟨?_, hp, ?_, ?_⟩
    · rw [Bool.eq_false_iff] at hc ⊢
      exact fun hd => hc (Text.isAlphanum_iff.mpr (.inr hd))
    · rintro rfl
      exact absurd hc (by decide)
    · rintro rfl
      exact absurd hc (by decide)

theorem Formed.isLongest (h : l.Formed) (hr : l.isOperand = true → Ends rest) :
    l.IsLongest rest := by
  cases l with
  | var name =>
    rintro c hc
    cases rest with
    | nil => cases hc
    | cons d cs =>
      cases hc
      exact (hr rfl).1
  | number value text =>
    obtain ⟨⟨n, hn, htext⟩, -⟩ := h
    have hscan := hn.scan?_text_append (hr rfl).stops
    rw [IsLongest, ← htext]
    exact (Decimal.Numeral.scan?_eq_some_iff.mp hscan).2.2
  | _ => trivial

theorem ends_of_isBlank {c : Char} (h : Text.isBlank c = true) (cs : List Char) :
    Ends (c :: cs) := by
  refine ⟨Bool.eq_false_iff.mpr fun hc => ?_, ?_⟩
  · rw [Text.isBlank_eq_false_of_isAlphanum hc] at h
    cases h
  · rintro rfl
    exact absurd h (by decide)

theorem Formed.ends (h : l.Formed) (ho : l.isOperand = false) (rest : List Char) :
    Ends (l.text ++ rest) := by
  cases l with
  | leftParen => exact ⟨by decide, by decide⟩
  | rightParen => exact ⟨by decide, by decide⟩
  | operator op => cases op <;> exact ⟨by decide, by decide⟩
  | other text => exact h.elim
  | _ => cases ho

/-- The texts of the lexemes, one after the other, with any blanks before, between and behind
them. -/
inductive Spaced : List Char → List Lexeme → Prop
  | nil {bs : List Char} (blank : ∀ c ∈ bs, Text.isBlank c = true) : Spaced bs []
  | cons {bs rest : List Char} {l : Lexeme} {ls : List Lexeme}
      (blank : ∀ c ∈ bs, Text.isBlank c = true) (next : Spaced rest ls) :
      Spaced (bs ++ (l.text ++ rest)) (l :: ls)

def Apart (ls : List Lexeme) : Prop :=
  ls.IsChain fun l l' => l.isOperand = true → l'.isOperand = false

namespace Spaced

theorem text_append (h : Spaced cs ls) (l : Lexeme) : Spaced (l.text ++ cs) (l :: ls) :=
  .cons (l := l) (List.forall_mem_nil _) h

theorem blanks_append {bs : List Char} (hb : ∀ c ∈ bs, Text.isBlank c = true) (h : Spaced cs ls) :
    Spaced (bs ++ cs) ls := by
  have hmore {bs' : List Char} (hb' : ∀ c ∈ bs', Text.isBlank c = true) :
      ∀ c ∈ bs ++ bs', Text.isBlank c = true := by
    simpa [or_imp, forall_and] using ⟨hb, hb'⟩
  cases h with
  | nil blank => exact .nil (hmore blank)
  | cons blank next =>
    rw [← List.append_assoc]
    exact .cons (hmore blank) next

theorem append (h : Spaced cs ls) (h' : Spaced cs' ls') : Spaced (cs ++ cs') (ls ++ ls') := by
  induction h with
  | nil blank => exact h'.blanks_append blank
  | cons blank next ih =>
    rw [List.append_assoc, List.append_assoc, List.cons_append]
    exact .cons blank ih

theorem filter (h : Spaced cs ls) (hl : ∀ l ∈ ls, ∀ c ∈ l.text, Text.isBlank c = false) :
    Spaced (cs.filter fun c => !Text.isBlank c) ls := by
  induction h with
  | nil blank =>
    rw [List.filter_eq_nil_iff.mpr fun c hc => by simp [blank c hc]]
    exact .nil (by simp)
  | @cons bs rest l ls blank next ih =>
    obtain ⟨hl, hls⟩ := List.forall_mem_cons.mp hl
    have hbs : bs.filter (fun c => !Text.isBlank c) = [] :=
      List.filter_eq_nil_iff.mpr fun c hc => by simp [blank c hc]
    have htext : l.text.filter (fun c => !Text.isBlank c) = l.text :=
      List.filter_eq_self.mpr fun c hc => by simp [hl c hc]
    rw [List.filter_append, List.filter_append, hbs, htext]
    exact (ih hls).text_append l

theorem ends (h : Spaced cs ls) (hl : ∀ l ∈ ls, l.Formed)
    (ho : ∀ l ∈ ls.head?, l.isOperand = false) : Ends cs := by
  cases h with
  | nil blank =>
    cases cs with
    | nil => trivial
    | cons b bs => exact ends_of_isBlank (blank b List.mem_cons_self) bs
  | @cons bs rest l ls blank next =>
    cases bs with
    | nil => exact (hl l List.mem_cons_self).ends (ho l rfl) rest
    | cons b bs => exact ends_of_isBlank (blank b List.mem_cons_self) _

theorem ofChars_eq (h : Spaced cs ls) (hl : ∀ l ∈ ls, l.Formed) (ha : Apart ls) :
    ofChars cs = ls := by
  induction h with
  | @nil bs blank => rw [← List.append_nil bs, ofChars_blanks_append blank, ofChars]
  | cons blank next ih =>
    obtain ⟨hfirst, hls⟩ := List.forall_mem_cons.mp hl
    obtain ⟨hhead, ha⟩ := List.isChain_cons.mp ha
    rw [ofChars_blanks_append blank, hfirst.ofChars_text_append, ih hls ha]
    -- Behind an operand comes a blank or a lexeme that is no operand, and neither goes on with it.
    exact hfirst.isLongest fun ho => next.ends hls fun l hl => hhead l hl ho

end Spaced

theorem Cut.spaced {ps : List Piece} (h : Cut cs ps) : Spaced cs (ps.map Piece.lexeme) := by
  induction h with
  | nil blank => exact .nil blank
  | known blank formed longest next ih => exact .cons blank ih
  | @unknown bs run rest ps blank nonempty unknown apart next ih =>
    have hrun : (other (String.ofList run)).text = run := String.toList_ofList
    have hstep := Spaced.cons (l := other (String.ofList run)) blank ih
    rwa [hrun] at hstep

theorem spaced_ofChars (cs : List Char) : Spaced cs (ofChars cs) := by
  obtain ⟨ps, hcut, hps⟩ := Cut.exists_cut cs
  exact hps ▸ hcut.spaced

theorem Cut.formed {ps : List Piece} (h : Cut cs ps) {p : Piece} (hp : p ∈ ps)
    (ho : p.lexeme.isOther = false) : p.lexeme.Formed := by
  induction h with
  | nil => cases hp
  | known blank formed longest next ih =>
    rcases List.mem_cons.mp hp with rfl | hp
    · exact formed
    · exact ih hp
  | unknown blank nonempty unknown apart next ih =>
    rcases List.mem_cons.mp hp with rfl | hp
    · cases ho
    · exact ih hp

theorem formed_of_mem_ofChars (h : l ∈ ofChars cs) (ho : l.isOther = false) : l.Formed := by
  obtain ⟨ps, hcut, hps⟩ := Cut.exists_cut cs
  rw [← hps] at h
  obtain ⟨p, hp, rfl⟩ := List.mem_map.mp h
  exact hcut.formed hp ho

end Lexeme

namespace Formula

open Position Lexeme

variable {rules : VariableRules} {l : Lexeme} {t : Token} {ls : List Lexeme} {ts : List Token}
  {p : Position}

theorem Stands.isOther (h : Stands rules l t) : l.isOther = false := by
  cases h <;> rfl

theorem Stands.isOperand_eq_false (h : Stands rules l t) (ha : p.Admits t)
    (hp : p.expectsOperand = false) : l.isOperand = false := by
  cases h with
  | number text finite =>
    rw [Admits, hp] at ha
    cases ha
  | var valid =>
    rw [Admits, hp] at ha
    cases ha
  | _ => rfl

theorem Stands.expectsOperand_after (h : Stands rules l t) (ho : l.isOperand = true)
    (p : Position) : (p.after t).expectsOperand = false := by
  cases h with
  | number text finite => rfl
  | var valid => rfl
  | _ => cases ho

theorem apart_of_completes (h : List.Forall₂ (Stands rules) ls ts) (hc : p.Completes ts) :
    Apart ls := by
  induction h generalizing p with
  | nil => exact List.isChain_nil
  | @cons l t ls ts hs hrest ih =>
    refine List.isChain_cons.mpr ⟨fun l' hl' ho => ?_, ih hc.2⟩
    cases hrest with
    | nil => cases hl'
    | cons hs' _ =>
      cases hl'
      exact hs'.isOperand_eq_false hc.2.1 (hs.expectsOperand_after ho p)

theorem Sentence.apart (h : Sentence rules ls ts) : Apart ls :=
  apart_of_completes h.1 (isExpression_iff_completes.mp h.2)

theorem exists_of_mem_of_forall₂ {α β : Type} {R : α → β → Prop} {as : List α} {bs : List β}
    (h : List.Forall₂ R as bs) {a : α} (ha : a ∈ as) : ∃ b ∈ bs, R a b := by
  induction h with
  | nil => cases ha
  | cons hab _ ih =>
    rcases List.mem_cons.mp ha with rfl | ha
    · exact ⟨_, List.mem_cons_self, hab⟩
    · obtain ⟨b, hb, hab⟩ := ih ha
      exact ⟨b, List.mem_cons_of_mem _ hb, hab⟩

theorem Sentence.formed (h : Sentence rules ls ts) {cs : List Char} (hl : l ∈ ls)
    (hc : l ∈ ofChars cs) : l.Formed := by
  obtain ⟨t, -, hs⟩ := exists_of_mem_of_forall₂ h.1 hl
  exact formed_of_mem_ofChars hc hs.isOther

/-- Accepted text stays accepted, as the same formula, with its blanks taken away, or with any
blanks before, between and behind its lexemes. -/
theorem parse_eq_ok_of_spaced {s : String} {f : Formula} (h : parse rules s = .ok f) :
    parse rules (String.ofList (s.toList.filter fun c => !Text.isBlank c)) = .ok f ∧
    Spaced s.toList (tokenize s) ∧
    ∀ s' : String, Spaced s'.toList (tokenize s) → parse rules s' = .ok f := by
  have hs : Sentence rules (tokenize s) f.tokens := ofLexemes_eq_ok_iff.mp h
  have hspaced (s' : String) (hs' : Spaced s'.toList (tokenize s)) : parse rules s' = .ok f := by
    have hls : tokenize s' = tokenize s :=
      hs'.ofChars_eq (fun l hl => hs.formed hl hl) hs.apart
    rwa [parse, hls]
  have hself : Spaced s.toList (tokenize s) := spaced_ofChars s.toList
  refine ⟨hspaced _ ?_, hself, hspaced⟩
  rw [String.toList_ofList]
  exact hself.filter fun l hl c hc => (hs.formed hl hl).isBlank_eq_false hc

/-- A digit before a point, a sign behind an exponent and a tab. -/
theorem parse_eq_ok_of_spaced_scattered : ∃ f : Formula,
    parse .free "\t( 2.*x)-1e+1 " = .ok f ∧
    parse .free (String.ofList ("\t( 2.*x)-1e+1 ".toList.filter fun c => !Text.isBlank c)) = .ok f ∧
    Spaced "(2. *\nx )- 1e+1".toList (tokenize "\t( 2.*x)-1e+1 ") ∧
    parse .free "(2. *\nx )- 1e+1" = .ok f := by
  let two := Decimal.Numeral.value ⟨['2'], some [], none⟩
  let ten := Decimal.Numeral.value ⟨['1'], none, some ⟨'e', some '+', ['1']⟩⟩
  let f : Formula := ⟨[.leftParen, .number two, .operator .multiply, .var "x", .rightParen,
    .operator .subtract, .number ten]⟩
  have hf : parse .free "\t( 2.*x)-1e+1 " = .ok f := by decide +kernel
  have hls : tokenize "(2. *\nx )- 1e+1" = tokenize "\t( 2.*x)-1e+1 " := by decide +kernel
  have hspaced : Spaced "(2. *\nx )- 1e+1".toList (tokenize "\t( 2.*x)-1e+1 ") :=
    hls ▸ spaced_ofChars "(2. *\nx )- 1e+1".toList
  obtain ⟨hbare, -, hall⟩ := parse_eq_ok_of_spaced hf
  exact ⟨f, hf, hbare, hspaced, hall _ hspaced⟩

end Formula

end Spreadsheet
