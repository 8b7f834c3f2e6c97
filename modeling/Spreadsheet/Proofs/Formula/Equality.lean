import Spreadsheet.Proofs.Formula.Text

/-! # Equality of formulas

Formulas are compared token by token, numbers by their value, and hashed by their text. Numerals
have no sign, so a formula holds no negative zero, and nothing but finite numbers. On formulas that
come from text the comparison is therefore equality, and it is told by the text.
-/

namespace Spreadsheet

variable {t u : Token} {ts us : List Token}

namespace Token

/-- Tokens that can be read are the same only when they are equal. -/
theorem same_iff_eq (ht : t.Legible) (hu : u.Legible) : t.same u = true ↔ t = u := by
  cases t with
  | leftParen => cases u <;> simp [same]
  | rightParen => cases u <;> simp [same]
  | operator op => cases u <;> simp [same]
  | var name => cases u <;> simp [same]
  | number x =>
    cases u with
    | number y =>
      obtain ⟨hx, hxn⟩ := ht
      obtain ⟨hy, hyn⟩ := hu
      rw [same, Binary64.beq_iff_eq_of_isFinite hx hy (hxn.trans hyn.symm), number.injEq]
    | _ => simp [same]

end Token

namespace Formula

variable {f g : Formula} {s s' : String}

theorem isEqv_same_iff (ht : ∀ t ∈ ts, t.Legible) (hu : ∀ u ∈ us, u.Legible) :
    ts.isEqv us Token.same = true ↔ ts = us := by
  induction ts generalizing us with
  | nil => cases us <;> simp [List.isEqv]
  | cons t ts ih =>
    cases us with
    | nil => simp [List.isEqv]
    | cons u us =>
      obtain ⟨ht, hts⟩ := List.forall_mem_cons.mp ht
      obtain ⟨hu, hus⟩ := List.forall_mem_cons.mp hu
      rw [List.isEqv, Bool.and_eq_true, Token.same_iff_eq ht hu, ih hts hus, List.cons.injEq]

theorem stable_free : VariableRules.free.Stable := fun _ hv _ => ⟨hv, rfl⟩

theorem same_iff_eq_of_parse (hf : parse .free s = .ok f) (hg : parse .free s' = .ok g) :
    f.same g = true ↔ f = g := by
  rw [same, isEqv_same_iff (fun t ht => (legible_of_parse stable_free hf ht).1)
    fun u hu => (legible_of_parse stable_free hg hu).1]
  cases f
  cases g
  rw [mk.injEq]

theorem text_eq_iff_of_parse (hf : parse .free s = .ok f) (hg : parse .free s' = .ok g) :
    f.text = g.text ↔ f = g := by
  constructor
  · intro ht
    have hf' := parse_text stable_free hf
    rw [ht, parse_text stable_free hg] at hf'
    exact (Except.ok.inj hf').symm
  · rintro rfl
    rfl

/-- A formula that text was parsed to is parsed again from its own text. Two such formulas are the
same exactly when their texts are, so the same formulas have the same hash, and being the same is an
equivalence among them. -/
theorem same_iff_text_eq (hf : parse .free s = .ok f) (hg : parse .free s' = .ok g) :
    (∃ f', parse .free f.text = .ok f' ∧ f'.same f = true) ∧
    (f.same g = true ↔ f.text = g.text) ∧
    (f.same g = true → ∀ {α : Type} (ofText : String → α), f.hash ofText = g.hash ofText) ∧
    Equivalence fun f g : {f : Formula // ∃ s, parse .free s = .ok f} =>
      f.val.same g.val = true := by
  have hiff : f.same g = true ↔ f.text = g.text := by
    rw [same_iff_eq_of_parse hf hg, text_eq_iff_of_parse hf hg]
  refine ⟨⟨f, parse_text stable_free hf, (same_iff_eq_of_parse hf hf).mpr rfl⟩, hiff, ?_, ?_⟩
  · intro hsame α ofText
    exact congrArg ofText (hiff.mp hsame)
  · have hval (f g : {f : Formula // ∃ s, parse .free s = .ok f}) :
        f.val.same g.val = true ↔ f = g := by
      obtain ⟨f, s, hf⟩ := f
      obtain ⟨g, s', hg⟩ := g
      rw [same_iff_eq_of_parse hf hg, Subtype.mk.injEq]
    simp only [hval]
    exact eq_equivalence

/-- Another spelling of a number, and blanks. -/
theorem same_iff_text_eq_respelled : ∃ f g : Formula,
    parse .free ".5*(x - 1.50e1)" = .ok f ∧ parse .free " 0.50 * ( x-15 )" = .ok g ∧
    f.text = "0.5*(x-15)" ∧
    (∃ f', parse .free f.text = .ok f' ∧ f'.same f = true) ∧
    (f.same g = true ↔ f.text = g.text) ∧
    (f.same g = true → ∀ {α : Type} (ofText : String → α), f.hash ofText = g.hash ofText) ∧
    Equivalence fun f g : {f : Formula // ∃ s, parse .free s = .ok f} =>
      f.val.same g.val = true := by
  let half := Decimal.Numeral.value ⟨[], some ['5'], none⟩
  let fifteen := Decimal.Numeral.value ⟨['1', '5'], none, none⟩
  let f : Formula := ⟨[.number half, .operator .multiply, .leftParen, .var "x",
    .operator .subtract, .number fifteen, .rightParen]⟩
  have hf : parse .free ".5*(x - 1.50e1)" = .ok f := by decide +kernel
  have hg : parse .free " 0.50 * ( x-15 )" = .ok f := by decide +kernel
  have htext : f.text = "0.5*(x-15)" := by decide +kernel
  exact ⟨f, f, hf, hg, htext, same_iff_text_eq hf hg⟩

end Formula

end Spreadsheet
