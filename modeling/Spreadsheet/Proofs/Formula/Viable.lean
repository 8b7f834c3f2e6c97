import Spreadsheet.Proofs.Formula.Spacing

/-! # Where formula text is refused

Lexemes are viable when some continuation of them is a formula. The check goes on exactly as long as
they are: wherever it has come, an operand where one is expected and the parentheses still open
complete a formula. So the first lexeme that no formula can have there is the one it reports.
-/

namespace Spreadsheet.Formula

open Lexeme

variable {rules : VariableRules} {p : Position} {l : Lexeme} {ls ms : List Lexeme} {t : Token}
  {ts : List Token} {e : SyntaxError} {text : String} {k n : ℕ}

/-- Some continuation of the lexemes spells an expression. -/
def Viable (rules : VariableRules) (ls : List Lexeme) : Prop :=
  ∃ ms ts, Sentence rules (ls ++ ms) ts

/-- The shortest prefix of the lexemes that is not viable. -/
structure IsDeadEnd (rules : VariableRules) (ls ms : List Lexeme) : Prop where
  within : ms <+: ls
  not_viable : ¬ Viable rules ms
  shortest : ∀ ks, ks <+: ls → ¬ Viable rules ks → ms.length ≤ ks.length

/-- The error is about a lexeme that has no place, and not about the end of the text. -/
def SyntaxError.AtLexeme : SyntaxError → Prop
  | unknownToken _ | numberOutOfRange _ | misplacedOperand _ | misplacedOperator _ => True
  | misplacedLeftParen | misplacedRightParen | unbalancedRightParen | invalidVariable _ => True
  | empty | trailingToken _ | unclosedParen _ => False

namespace Position

/-! ## The errors of a lexeme and of the end -/

theorem place_eq_error (h : p.place rules l = .error e) : e.AtLexeme := by
  cases l with
  | leftParen =>
    simp only [place] at h
    split at h <;> cases h
    trivial
  | rightParen =>
    simp only [place] at h
    split at h
    · cases h
      trivial
    · split at h <;> cases h
      trivial
  | operator op =>
    simp only [place] at h
    split at h <;> cases h
    trivial
  | var name =>
    simp only [place] at h
    split at h
    · cases h
      trivial
    · split at h <;> cases h
      trivial
  | number value text =>
    simp only [place] at h
    split at h
    · cases h
      trivial
    · split at h <;> cases h
      trivial
  | other text =>
    cases h
    trivial

theorem finish_eq_error (h : p.finish = .error e) : ¬ e.AtLexeme := by
  unfold finish at h
  split at h
  · cases h
    exact id
  · split at h
    · cases h
      exact id
    · split at h <;> cases h
      exact id

theorem finish_eq_unclosedParen (h : p.finish = .error (.unclosedParen n)) :
    p.expectsOperand = false ∧ p.depth = n ∧ n ≠ 0 := by
  obtain ⟨last, depth⟩ := p
  cases last with
  | none => cases h
  | some t =>
    simp only [finish] at h
    split at h
    · cases h
    · split at h <;> cases h
      rename_i ht hd
      exact ⟨Bool.eq_false_iff.mpr ht, rfl, hd⟩

/-! ## Lexemes placed one after the other -/

def placeAll (rules : VariableRules) (p : Position) : List Lexeme → Except SyntaxError (List Token)
  | [] => pure []
  | l :: ls => do
    let t ← p.place rules l
    let ts ← (p.after t).placeAll rules ls
    pure (t :: ts)

def afterAll (p : Position) (ts : List Token) : Position := ts.foldl after p

theorem check_append (p : Position) (ls ms : List Lexeme) :
    p.check rules (ls ++ ms) = (do
      let ts ← p.placeAll rules ls
      let us ← (p.afterAll ts).check rules ms
      pure (ts ++ us)) := by
  induction ls generalizing p with
  | nil => simp [placeAll, afterAll, -Except.pure_eq_ok]
  | cons l ls ih => simp [check, placeAll, afterAll, ih]

theorem check_append_of_error (h : p.placeAll rules ls = .error e) (ms : List Lexeme) :
    p.check rules (ls ++ ms) = .error e := by
  rw [check_append, h, Except.error_bind]

theorem exists_check_append_iff (h : p.placeAll rules ls = .ok ts) :
    (∃ us, p.check rules (ls ++ ms) = .ok us) ↔ ∃ us, (p.afterAll ts).check rules ms = .ok us := by
  rw [check_append, h, Except.ok_bind]
  cases (p.afterAll ts).check rules ms <;> simp

theorem check_eq_error_iff : p.check rules ls = .error e ↔
    p.placeAll rules ls = .error e ∨
      ∃ ts, p.placeAll rules ls = .ok ts ∧ (p.afterAll ts).finish = .error e := by
  have happend : p.check rules (ls ++ []) = _ := p.check_append ls []
  rw [List.append_nil] at happend
  rw [happend]
  cases p.placeAll rules ls with
  | error e' => simp
  | ok ts => cases hf : (p.afterAll ts).finish <;> simp [check, hf]

theorem placeAll_cons_eq_error_iff : p.placeAll rules (l :: ls) = .error e ↔
    p.place rules l = .error e ∨
      ∃ t, p.place rules l = .ok t ∧ (p.after t).placeAll rules ls = .error e := by
  rw [placeAll]
  cases p.place rules l with
  | error e' => simp
  | ok t => cases hls : (p.after t).placeAll rules ls <;> simp [hls]

theorem placeAll_eq_error (h : p.placeAll rules ls = .error e) : e.AtLexeme := by
  induction ls generalizing p with
  | nil => cases h
  | cons l ls ih =>
    rcases placeAll_cons_eq_error_iff.mp h with h | ⟨t, -, h⟩
    · exact place_eq_error h
    · exact ih h

/-- The first lexeme without a place has those before it in their places. -/
theorem exists_append_of_error (h : p.placeAll rules ls = .error e) :
    ∃ ms l, ms ++ [l] <+: ls ∧ (∃ ts, p.placeAll rules ms = .ok ts) ∧
      p.placeAll rules (ms ++ [l]) = .error e := by
  induction ls generalizing p with
  | nil => cases h
  | cons l ls ih =>
    rcases placeAll_cons_eq_error_iff.mp h with hl | ⟨t, hl, h⟩
    · exact ⟨[], l, ⟨ls, rfl⟩, ⟨[], rfl⟩, placeAll_cons_eq_error_iff.mpr (.inl hl)⟩
    · obtain ⟨ms, l', ⟨rest, rfl⟩, ⟨ts, hms⟩, herror⟩ := ih h
      refine ⟨l :: ms, l', ⟨rest, rfl⟩, ⟨t :: ts, ?_⟩, ?_⟩
      · simp [placeAll, hl, hms]
      · exact placeAll_cons_eq_error_iff.mpr (.inr ⟨t, hl, herror⟩)

/-! ## What completes a formula -/

/-- An operand where one is expected, and the parentheses that are still open. -/
def closing (p : Position) : List Lexeme :=
  (if p.expectsOperand then [.number (Decimal.Numeral.value ⟨['0'], none, none⟩) "0"] else []) ++
    List.replicate p.depth .rightParen

theorem completes_replicate_iff (hp : p.expectsOperand = false) (k : ℕ) :
    p.Completes (List.replicate k .rightParen) ↔ k = p.depth := by
  induction k generalizing p with
  | zero => simp [Completes, hp, eq_comm]
  | succ k ih =>
    rw [List.replicate_succ, Completes, ih rfl]
    simp only [Admits, hp, after, true_and]
    omega

theorem forall₂_replicate_iff : List.Forall₂ (Stands rules) (List.replicate k .rightParen) ts ↔
    ts = List.replicate k .rightParen := by
  have hstands {t : Token} : Stands rules .rightParen t ↔ t = .rightParen := by
    constructor
    · rintro ⟨⟩
      rfl
    · rintro rfl
      exact .rightParen
  induction k generalizing ts with
  | zero => simp
  | succ k ih => simp [List.replicate_succ, List.forall₂_cons_left_iff, hstands, ih]

theorem exists_check_replicate_iff (hp : p.expectsOperand = false) (k : ℕ) :
    (∃ ts, p.check rules (List.replicate k .rightParen) = .ok ts) ↔ k = p.depth := by
  simp only [check_eq_ok_iff, forall₂_replicate_iff, exists_eq_left, completes_replicate_iff hp]

theorem exists_check_closing (rules : VariableRules) (p : Position) :
    ∃ ts, p.check rules p.closing = .ok ts := by
  cases hp : p.expectsOperand with
  | false =>
    rw [closing, hp]
    exact (exists_check_replicate_iff hp p.depth).mpr rfl
  | true =>
    have hzero : (Decimal.Numeral.value ⟨['0'], none, none⟩).isFinite = true := by decide +kernel
    have hplace : p.placeAll rules [.number (Decimal.Numeral.value ⟨['0'], none, none⟩) "0"] =
        .ok [.number (Decimal.Numeral.value ⟨['0'], none, none⟩)] := by
      simp [placeAll, place, hp, hzero]
    rw [closing, if_pos hp, exists_check_append_iff hplace]
    exact (exists_check_replicate_iff rfl p.depth).mpr rfl

end Position

open Position

/-! ## Viable lexemes -/

theorem exists_sentence_iff :
    (∃ ts, Sentence rules ls ts) ↔ ∃ ts, Position.start.check rules ls = .ok ts := by
  simp only [check_eq_ok_iff, Sentence, isExpression_iff_completes]

/-- The check goes on exactly as long as the lexemes are viable. -/
theorem viable_iff : Viable rules ls ↔ ∃ ts, Position.start.placeAll rules ls = .ok ts := by
  simp only [Viable, exists_sentence_iff]
  constructor
  · rintro ⟨ms, ts, h⟩
    cases hls : Position.start.placeAll rules ls with
    | error e =>
      rw [check_append_of_error hls] at h
      cases h
    | ok us => exact ⟨us, rfl⟩
  · rintro ⟨ts, h⟩
    exact ⟨_, (exists_check_append_iff h).mpr (exists_check_closing rules _)⟩

theorem not_viable_iff :
    ¬ Viable rules ls ↔ ∃ e, Position.start.placeAll rules ls = .error e := by
  rw [viable_iff]
  cases Position.start.placeAll rules ls <;> simp

theorem Viable.of_append (h : Viable rules (ls ++ ms)) : Viable rules ls := by
  obtain ⟨rest, ts, h⟩ := h
  exact ⟨ms ++ rest, ts, by rwa [← List.append_assoc]⟩

theorem exists_isDeadEnd (h : Position.start.placeAll rules ls = .error e) :
    ∃ ms, IsDeadEnd rules ls ms ∧ Position.start.placeAll rules ms = .error e := by
  obtain ⟨ms, l, hpre, hms, herror⟩ := exists_append_of_error h
  refine ⟨ms ++ [l], ⟨hpre, not_viable_iff.mpr ⟨e, herror⟩, fun ks hks hdead => ?_⟩, herror⟩
  -- A shorter prefix ends before `l`, among the lexemes that have their places.
  by_contra hlt
  rw [List.length_append, List.length_singleton] at hlt
  have hshort : ks <+: ms :=
    List.prefix_of_prefix_length_le hks ((List.prefix_append ms [l]).trans hpre) (by omega)
  obtain ⟨rest, rfl⟩ := hshort
  exact hdead (viable_iff.mpr hms).of_append

/-! ## The errors of formula text -/

theorem parse_eq_error_of_prefix (h : Position.start.placeAll rules ls = .error e)
    (hpre : ls <+: tokenize text) : parse rules text = .error e := by
  obtain ⟨ms, hms⟩ := hpre
  refine Except.map_eq_error_iff.mpr ?_
  rw [← hms]
  exact check_append_of_error h ms

theorem parse_eq_error_iff_placeAll (he : e.AtLexeme) :
    parse rules text = .error e ↔ Position.start.placeAll rules (tokenize text) = .error e := by
  rw [parse, ofLexemes, Except.map_eq_error_iff, check_eq_error_iff]
  constructor
  · rintro (h | ⟨ts, -, h⟩)
    · exact h
    · exact absurd he (finish_eq_error h)
  · exact .inl

theorem parse_eq_error_iff_finish (he : ¬ e.AtLexeme) : parse rules text = .error e ↔
    ∃ ts, Position.start.placeAll rules (tokenize text) = .ok ts ∧
      (Position.start.afterAll ts).finish = .error e := by
  rw [parse, ofLexemes, Except.map_eq_error_iff, check_eq_error_iff]
  constructor
  · rintro (h | h)
    · exact absurd (placeAll_eq_error h) he
    · exact h
  · exact .inr

theorem exists_parse_atLexeme_iff : (∃ e, parse rules text = .error e ∧ e.AtLexeme) ↔
    ∃ ls, ls <+: tokenize text ∧ ¬ Viable rules ls := by
  constructor
  · rintro ⟨e, h, he⟩
    have hplace := (parse_eq_error_iff_placeAll he).mp h
    exact ⟨tokenize text, List.prefix_rfl, not_viable_iff.mpr ⟨e, hplace⟩⟩
  · rintro ⟨ls, hpre, hdead⟩
    obtain ⟨e, h⟩ := not_viable_iff.mp hdead
    exact ⟨e, parse_eq_error_of_prefix h hpre, placeAll_eq_error h⟩

theorem parse_eq_error_iff_isDeadEnd (he : e.AtLexeme) : parse rules text = .error e ↔
    ∃ ls, IsDeadEnd rules (tokenize text) ls ∧
      ∀ text', ls <+: tokenize text' → parse rules text' = .error e := by
  constructor
  · intro h
    obtain ⟨ls, hdead, hls⟩ := exists_isDeadEnd ((parse_eq_error_iff_placeAll he).mp h)
    exact ⟨ls, hdead, fun text' => parse_eq_error_of_prefix hls⟩
  · rintro ⟨ls, hdead, hall⟩
    exact hall text hdead.within

theorem exists_parse_atEnd_iff : (∃ e, parse rules text = .error e ∧ ¬ e.AtLexeme) ↔
    Viable rules (tokenize text) ∧ ¬ ∃ ts, Sentence rules (tokenize text) ts := by
  constructor
  · rintro ⟨e, h, he⟩
    obtain ⟨ts, hts, -⟩ := (parse_eq_error_iff_finish he).mp h
    refine ⟨viable_iff.mpr ⟨ts, hts⟩, ?_⟩
    rintro ⟨us, hus⟩
    rw [(parse_eq_ok_iff_sentence rules text ⟨us⟩).mpr hus] at h
    cases h
  · rintro ⟨hviable, hno⟩
    cases h : parse rules text with
    | ok f => exact absurd ⟨f.tokens, (parse_eq_ok_iff_sentence rules text f).mp h⟩ hno
    | error e =>
      refine ⟨e, rfl, fun he => ?_⟩
      rw [parse_eq_error_iff_placeAll he] at h
      exact not_viable_iff.mpr ⟨e, h⟩ hviable

/-! ## Closing parentheses behind a text -/

theorem spaced_replicate (k : ℕ) :
    Spaced (List.replicate k ')') (List.replicate k Lexeme.rightParen) := by
  induction k with
  | zero => exact .nil (by simp)
  | succ k ih => exact ih.text_append .rightParen

theorem tokenize_append_replicate (h : Viable rules (tokenize text)) (k : ℕ) :
    tokenize (text ++ String.ofList (List.replicate k ')')) =
      tokenize text ++ List.replicate k .rightParen := by
  obtain ⟨ms, ts, hs⟩ := h
  have hspaced := (spaced_ofChars text.toList).append (spaced_replicate k)
  rw [tokenize, String.toList_append, String.toList_ofList]
  refine hspaced.ofChars_eq (fun l hl => ?_) ?_
  · rcases List.mem_append.mp hl with hl | hl
    · exact hs.formed (List.mem_append_left ms hl) hl
    · obtain ⟨-, rfl⟩ := List.mem_replicate.mp hl
      trivial
  · -- The text may end in an operand, but what follows it is none.
    refine List.isChain_append.mpr ⟨hs.apart.left_of_append,
      List.isChain_replicate_of_rel k fun _ => rfl, fun l _ l' hl' _ => ?_⟩
    obtain ⟨-, rfl⟩ := List.mem_replicate.mp (List.mem_of_mem_head? hl')
    rfl

theorem exists_parse_append_iff (h : parse rules text = .error (.unclosedParen n)) (k : ℕ) :
    (∃ f, parse rules (text ++ String.ofList (List.replicate k ')')) = .ok f) ↔ k = n := by
  obtain ⟨ts, hts, hfinish⟩ := (parse_eq_error_iff_finish id).mp h
  obtain ⟨hp, hdepth, -⟩ := finish_eq_unclosedParen hfinish
  have hls := tokenize_append_replicate (viable_iff.mpr ⟨ts, hts⟩) k
  have hclose : (∃ us, (Position.start.afterAll ts).check rules (List.replicate k .rightParen) =
      .ok us) ↔ k = (Position.start.afterAll ts).depth := exists_check_replicate_iff hp k
  rw [← hdepth, ← hclose, ← exists_check_append_iff hts, ← hls]
  simp only [parse, ofLexemes, Except.map_eq_ok_iff]
  constructor
  · rintro ⟨f, us, hus, -⟩
    exact ⟨us, hus⟩
  · rintro ⟨us, hus⟩
    exact ⟨⟨us⟩, us, hus, rfl⟩

/-- An error is reported at a lexeme exactly when some prefix of the lexemes is not viable, and then
it is the one of the shortest such prefix, whatever follows. An error is reported at the end exactly
when the lexemes are viable but spell no expression, and a count of parentheses is that of the ones
to be closed. -/
theorem parse_eq_error_iff_viable (rules : VariableRules) (text : String) :
    ((∃ e, parse rules text = .error e ∧ e.AtLexeme) ↔
      ∃ ls, ls <+: tokenize text ∧ ¬ Viable rules ls) ∧
    (∀ e : SyntaxError, e.AtLexeme → (parse rules text = .error e ↔
      ∃ ls, IsDeadEnd rules (tokenize text) ls ∧
        ∀ text', ls <+: tokenize text' → parse rules text' = .error e)) ∧
    ((∃ e, parse rules text = .error e ∧ ¬ e.AtLexeme) ↔
      Viable rules (tokenize text) ∧ ¬ ∃ ts, Sentence rules (tokenize text) ts) ∧
    ∀ n, parse rules text = .error (.unclosedParen n) → 1 ≤ n ∧
      ∀ k, (∃ f, parse rules (text ++ String.ofList (List.replicate k ')')) = .ok f) ↔ k = n := by
  refine ⟨exists_parse_atLexeme_iff, fun e he => parse_eq_error_iff_isDeadEnd he,
    exists_parse_atEnd_iff, fun n h => ⟨?_, exists_parse_append_iff h⟩⟩
  obtain ⟨ts, -, hfinish⟩ := (parse_eq_error_iff_finish id).mp h
  obtain ⟨-, -, hn⟩ := finish_eq_unclosedParen hfinish
  exact Nat.one_le_iff_ne_zero.mpr hn

/-- A variable that may not stand, in front of a parenthesis without a partner, and two parentheses
left open. -/
theorem parse_eq_error_iff_viable_unclosed :
    (∃ ls, IsDeadEnd ⟨id, fun v => v == "x"⟩ (tokenize "2*(y))") ls ∧
      ∀ text', ls <+: tokenize text' →
        parse ⟨id, fun v => v == "x"⟩ text' = .error (.invalidVariable "y")) ∧
    parse .free "((x+1)/(3" = .error (.unclosedParen 2) ∧
    ∀ k, (∃ f, parse .free ("((x+1)/(3" ++ String.ofList (List.replicate k ')')) = .ok f) ↔
      k = 2 := by
  have hvar : parse ⟨id, fun v => v == "x"⟩ "2*(y))" = .error (.invalidVariable "y") := by
    decide +kernel
  have hopen : parse .free "((x+1)/(3" = .error (.unclosedParen 2) := by decide +kernel
  obtain ⟨-, hlexeme, -, -⟩ := parse_eq_error_iff_viable ⟨id, fun v => v == "x"⟩ "2*(y))"
  obtain ⟨-, -, -, hend⟩ := parse_eq_error_iff_viable .free "((x+1)/(3"
  exact ⟨(hlexeme (.invalidVariable "y") trivial).mp hvar, hopen, (hend 2 hopen).2⟩

end Spreadsheet.Formula
