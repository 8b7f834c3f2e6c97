import Spreadsheet.Xml.Attribute

/-! # Markup as it is written

What the tags, the quoted values and the texts of a written document are cut into.
-/

namespace Spreadsheet.Xml

open Text (Symbol)

variable {opened opened' : OpenNames} {s content rest v : List Symbol} {e : Event} {x : Symbol}

/-! ## Names -/

def IsLetter (x : Symbol) : Prop := ∃ c : Char, x = .char c ∧ c.isAlpha = true

structure IsName (name : List Symbol) : Prop where
  ne_nil : name ≠ []
  letters : ∀ x ∈ name, IsLetter x

theorem IsLetter.ne (h : IsLetter x) {c : Char} (hc : c.isAlpha = false) : x ≠ .char c := by
  rintro rfl
  obtain ⟨d, hd, ha⟩ := h
  cases hd
  simp [hc] at ha

theorem IsLetter.isTagBlank (h : IsLetter x) : isTagBlank x = false := by
  have hs := h.ne (show ' '.isAlpha = false by decide)
  have ht := h.ne (show '\t'.isAlpha = false by decide)
  have hr := h.ne (show '\r'.isAlpha = false by decide)
  have hn := h.ne (show '\n'.isAlpha = false by decide)
  obtain ⟨c, rfl, -⟩ := h
  simp_all [Xml.isTagBlank]

theorem IsName.exists_cons (h : IsName s) :
    ∃ x s', s = x :: s' ∧ IsLetter x ∧ ∀ y ∈ s', IsLetter y := by
  cases s with
  | nil => exact absurd rfl h.ne_nil
  | cons x s' =>
    refine ⟨x, s', rfl, h.letters x List.mem_cons_self, fun y hy => ?_⟩
    exact h.letters y (List.mem_cons_of_mem _ hy)

/-! ## Tags -/

theorem eventsFrom_markup (h : markup? opened s = some (e, opened', rest)) :
    eventsFrom opened (.char '<' :: s) = e :: eventsFrom opened' rest := by
  rw [eventsFrom, if_pos rfl]
  split
  · rename_i h'
    rw [h] at h'
    cases h'
    rfl
  · rename_i h'
    rw [h] at h'
    cases h'

theorem eventsFrom_text (hs : s ≠ []) (h : ∀ x ∈ s, x ≠ .char '<') :
    eventsFrom opened (s ++ .char '<' :: rest) =
      .text s :: eventsFrom opened (.char '<' :: rest) := by
  cases s with
  | nil => exact absurd rfl hs
  | cons x s =>
    have hp : ∀ y ∈ s, (decide (y ≠ .char '<')) = true := fun y hy =>
      decide_eq_true (h y (List.mem_cons_of_mem _ hy))
    rw [List.cons_append, eventsFrom, if_neg (h x List.mem_cons_self),
      List.takeWhile_append_of_pos hp, List.dropWhile_append_of_pos hp,
      List.takeWhile_cons_of_neg (by simp), List.dropWhile_cons_of_neg (by simp), List.append_nil]

/-- The symbol neither ends a tag nor begins a quoted value in it. -/
def IsPlain (x : Symbol) : Prop := x ≠ .char '>' ∧ x ≠ .char '"' ∧ x ≠ .char '\''

theorem IsLetter.isPlain (h : IsLetter x) : IsPlain x :=
  ⟨h.ne (by decide), h.ne (by decide), h.ne (by decide)⟩

theorem tagContent?_append (h : ∀ x ∈ content, IsPlain x) (rest : List Symbol) :
    tagContent? none (content ++ rest) =
      (tagContent? none rest).map fun (c, r) => (content ++ c, r) := by
  induction content with
  | nil => simp
  | cons x content ih =>
    obtain ⟨hgt, hquot, hapos⟩ := h x List.mem_cons_self
    rw [List.cons_append, tagContent?, if_neg (fun hx => hgt hx.2)]
    simp only [hquot, hapos, or_self, if_false]
    rw [ih fun y hy => h y (List.mem_cons_of_mem _ hy)]
    cases tagContent? none rest <;> rfl

theorem tagContent?_quoted_append (h : ∀ x ∈ v, x ≠ .char '"') (rest : List Symbol) :
    tagContent? (some (.char '"')) (v ++ .char '"' :: rest) =
      (tagContent? none rest).map fun (c, r) => (v ++ .char '"' :: c, r) := by
  induction v with
  | nil => simp [tagContent?]
  | cons x v ih =>
    rw [List.cons_append, tagContent?, if_neg (by simp)]
    simp only [h x List.mem_cons_self, if_false]
    rw [ih fun y hy => h y (List.mem_cons_of_mem _ hy)]
    cases tagContent? none rest <;> rfl

theorem tagContent?_value (h : ∀ x ∈ v, x ≠ .char '"') (rest : List Symbol) :
    tagContent? none (.char '"' :: (v ++ .char '"' :: rest)) =
      (tagContent? none rest).map fun (c, r) => (.char '"' :: (v ++ .char '"' :: c), r) := by
  rw [tagContent?, if_neg (by simp)]
  simp only [true_or, if_true]
  rw [tagContent?_quoted_append h]
  cases tagContent? none rest <;> rfl

theorem tagContent?_end (rest : List Symbol) :
    tagContent? none (.char '>' :: rest) = some ([], rest) := by
  simp [tagContent?]

theorem markup?_letter (hx : IsLetter x) (h : tagContent? none (x :: s) = some (content, rest)) :
    markup? opened (x :: s) =
      some ((startTag opened content).1, (startTag opened content).2, rest) := by
  have hbang := hx.ne (show '!'.isAlpha = false by decide)
  have hquest := hx.ne (show '?'.isAlpha = false by decide)
  have hslash := hx.ne (show '/'.isAlpha = false by decide)
  unfold markup?
  split
  · rename_i he
    cases he
  · rename_i he
    exact absurd (List.cons.inj he).1 hbang
  · rename_i he
    exact absurd (List.cons.inj he).1 hquest
  · rename_i he
    exact absurd (List.cons.inj he).1 hslash
  · rw [h]
    rfl

theorem ofContent_name_append {name : List Symbol} (hn : IsName name)
    (hr : rest.head?.all isTagBlank = true) : Tag.ofContent (name ++ rest) = ⟨name, rest⟩ := by
  have hp : ∀ y ∈ name, (!isTagBlank y) = true := fun y hy => by
    simp [(hn.letters y hy).isTagBlank]
  unfold Tag.ofContent
  rw [List.takeWhile_append_of_pos hp, List.dropWhile_append_of_pos hp]
  cases rest with
  | nil => simp
  | cons x rest =>
    have hx : isTagBlank x = true := by simpa using hr
    simp [hx]

theorem eventsFrom_start {name : List Symbol} (hn : IsName name) (opened : OpenNames)
    (rest : List Symbol) :
    eventsFrom opened (.char '<' :: (name ++ .char '>' :: rest)) =
      .start ⟨name, []⟩ :: eventsFrom (name :: opened) rest := by
  obtain ⟨x, s, rfl, hx, -⟩ := hn.exists_cons
  have ht := tagContent?_append (fun y hy => (hn.letters y hy).isPlain) (.char '>' :: rest)
  rw [tagContent?_end] at ht
  have hlast : (x :: s ++ []).getLast? ≠ some (.char '/') := by
    rw [List.append_nil]
    intro he
    exact (hn.letters _ (List.mem_of_getLast? he)).ne (show '/'.isAlpha = false by decide) rfl
  refine eventsFrom_markup ?_
  rw [List.cons_append] at ht ⊢
  rw [markup?_letter hx ht, startTag, if_neg hlast, ofContent_name_append hn rfl]

theorem endName_of_isName {name : List Symbol} (hn : IsName name) : endName name = name := by
  have hrev : name.reverse.dropWhile isTagBlank = name.reverse := by
    cases hr : name.reverse with
    | nil => rfl
    | cons x s =>
      have hx : x ∈ name := List.mem_reverse.mp (hr ▸ List.mem_cons_self)
      exact List.dropWhile_cons_of_neg (by simp [(hn.letters x hx).isTagBlank])
  unfold endName
  rw [hrev, List.reverse_reverse]
  split <;> simp_all

theorem eventsFrom_close {name : List Symbol} (hn : IsName name) (opened : OpenNames)
    (rest : List Symbol) :
    eventsFrom (name :: opened) (.char '<' :: .char '/' :: (name ++ .char '>' :: rest)) =
      .close :: eventsFrom opened rest := by
  have ht := tagContent?_append (fun y hy => (hn.letters y hy).isPlain) (.char '>' :: rest)
  rw [tagContent?_end] at ht
  refine eventsFrom_markup ?_
  simp [markup?, ht, endTag?, endName_of_isName hn]

/-! ## Declarations -/

theorem splitAt?_append {m : Symbol} {ms before : List Symbol} (h : ∀ x ∈ before, x ≠ m)
    (rest : List Symbol) :
    splitAt? (m :: ms) (before ++ (m :: ms ++ rest)) = some (before, rest) := by
  induction before with
  | nil =>
    have hp : (m :: ms).isPrefixOf (m :: ms ++ rest) = true :=
      List.isPrefixOf_iff_prefix.mpr (List.prefix_append _ _)
    rw [List.nil_append, List.cons_append, splitAt?, ← List.cons_append, if_pos hp, List.drop_left]
  | cons x before ih =>
    have hx : ¬ (m :: ms).isPrefixOf (x :: (before ++ (m :: ms ++ rest))) = true := by
      rw [List.isPrefixOf_iff_prefix, List.cons_prefix_cons]
      exact fun hp => h x List.mem_cons_self hp.1.symm
    rw [List.cons_append, splitAt?, if_neg hx, ih fun y hy => h y (List.mem_cons_of_mem _ hy)]
    rfl

theorem eventsFrom_declaration (h : ∀ x ∈ content, x ≠ .char '?') (opened : OpenNames)
    (rest : List Symbol) :
    eventsFrom opened
        (.char '<' :: .char '?' :: (symbols "xml " ++ content ++ (symbols "?>" ++ rest))) =
      .declaration :: eventsFrom opened rest := by
  have hbefore : ∀ x ∈ symbols "xml " ++ content, x ≠ .char '?' := by
    intro x hx
    rcases List.mem_append.mp hx with hx | hx
    · rintro rfl
      simp [symbols] at hx
    · exact h x hx
  have hs : splitAt? (symbols "?>") (symbols "xml " ++ content ++ (symbols "?>" ++ rest)) =
      some (symbols "xml " ++ content, rest) := splitAt?_append hbefore rest
  refine eventsFrom_markup ?_
  simp only [markup?, instruction?]
  rw [hs]
  simp [symbols, isTagBlank]

/-! ## Attributes -/

namespace Attribute

variable {a : Attribute}

/-- An attribute as it is written, behind a blank. -/
def text (a : Attribute) : List Symbol :=
  .char ' ' :: (a.key ++ .char '=' :: .char '"' :: (a.value ++ [.char '"']))

/-- The attribute can be written: its value does not end early. -/
structure IsWritten (a : Attribute) : Prop where
  key : IsName a.key
  value : ∀ x ∈ a.value, x ≠ .char '"'

theorem IsWritten.tagContent? (h : a.IsWritten) (rest : List Symbol) :
    tagContent? none (a.text ++ .char '>' :: rest) = some (a.text, rest) := by
  have hplain : ∀ x ∈ .char ' ' :: (a.key ++ [.char '=']), IsPlain x := by
    intro x hx
    simp only [List.mem_cons, List.mem_append, List.not_mem_nil, or_false] at hx
    rcases hx with rfl | hx | rfl
    · simp [IsPlain]
    · exact (h.key.letters x hx).isPlain
    · simp [IsPlain]
  have ht := tagContent?_append hplain (.char '"' :: (a.value ++ .char '"' :: .char '>' :: rest))
  rw [tagContent?_value h.value, tagContent?_end] at ht
  simpa [text] using ht

theorem getLast?_text (a : Attribute) : a.text.getLast? = some (.char '"') := by
  have ht : a.text = .char ' ' :: (a.key ++ .char '=' :: .char '"' :: a.value) ++ [.char '"'] := by
    simp [text]
  rw [ht, List.getLast?_concat]

theorem IsWritten.eventsFrom_start {name : List Symbol} (h : a.IsWritten) (hn : IsName name)
    (opened : OpenNames) (rest : List Symbol) :
    eventsFrom opened (.char '<' :: (name ++ (a.text ++ .char '>' :: rest))) =
      .start ⟨name, a.text⟩ :: eventsFrom (name :: opened) rest := by
  obtain ⟨x, s, rfl, hx, -⟩ := hn.exists_cons
  have ht := tagContent?_append (fun y hy => (hn.letters y hy).isPlain)
    (a.text ++ .char '>' :: rest)
  rw [h.tagContent?] at ht
  have hlast : (x :: s ++ a.text).getLast? ≠ some (.char '/') := by
    rw [List.getLast?_append, getLast?_text]
    simp
  refine eventsFrom_markup ?_
  rw [List.cons_append] at ht ⊢
  rw [markup?_letter hx ht, startTag, if_neg hlast, ofContent_name_append hn rfl]

theorem IsWritten.quotedValue? (h : a.IsWritten) :
    quotedValue? (.char '"' :: (a.value ++ [.char '"'])) = some (a.value, []) := by
  have hp : ∀ y ∈ a.value, (decide (y ≠ .char '"')) = true := fun y hy =>
    decide_eq_true (h.value y hy)
  rw [Attribute.quotedValue?, if_pos (by decide), List.dropWhile_append_of_pos hp,
    List.takeWhile_append_of_pos hp]
  simp

theorem IsWritten.first? (h : a.IsWritten) : first? [] a.text = .ok (a, []) := by
  have hv := h.quotedValue?
  obtain ⟨key, value⟩ := a
  obtain ⟨x, s, rfl, hx, hs⟩ := h.key.exists_cons
  have hp : ∀ y ∈ s, isKeySymbol y = true := fun y hy => by
    simp [isKeySymbol, (hs y hy).isTagBlank, (hs y hy).ne (show '='.isAlpha = false by decide)]
  have hstop : isKeySymbol (.char '=') = false := by decide
  have hspace : isTagBlank (.char ' ') = true := by decide
  have hequal : ¬ isTagBlank (.char '=') = true := by decide
  have hquote : ¬ isTagBlank (.char '"') = true := by decide
  rw [Attribute.first?, text, List.dropWhile_cons_of_pos hspace, List.cons_append,
    List.dropWhile_cons_of_neg (by simp [hx.isTagBlank])]
  dsimp only
  rw [List.takeWhile_append_of_pos hp, List.dropWhile_append_of_pos hp,
    List.takeWhile_cons_of_neg (by simp [hstop]), List.dropWhile_cons_of_neg (by simp [hstop]),
    List.dropWhile_cons_of_neg hequal]
  simp only
  rw [if_neg List.not_mem_nil, List.dropWhile_cons_of_neg hquote, hv, List.append_nil]

theorem IsWritten.find? (h : a.IsWritten) : find? a.key [] a.text = .ok a.value := by
  have hf := h.first?
  rw [Attribute.find?]
  split
  · rename_i h'
    rw [hf] at h'
    cases h'
  · rename_i h'
    rw [hf] at h'
    cases h'
    exact if_pos rfl

end Attribute

end Spreadsheet.Xml
