import Spreadsheet.Proofs.Sheet.Mentions

/-! # Refused edits

A content is refused as circular exactly when its cell would depend on itself with it. A reachable
sheet has no cycle of its own, so the cycle found begins and ends with this cell, and nothing else
that walks along dependents can meet one. For whatever reason an edit is refused, the sheet after it
is the sheet before.
-/

namespace Spreadsheet.Sheet

open Relation (TransGen)

variable {sheet : Sheet} {a b s t : CellName} {c : Content} {cycle : Cycle} {e : EditError}
  {name text : String}

/-- What the stored formulas would mention with this content in place of that of `a`. -/
def MentionsWith (sheet : Sheet) (a : CellName) (c : Content) (s t : CellName) : Prop :=
  if t = a then c.Mentions s else sheet.Mentions s t

theorem mentions_of_mentionsWith (hta : t ≠ a) (h : sheet.MentionsWith a c s t) :
    sheet.Mentions s t := by
  rwa [MentionsWith, if_neg hta] at h

theorem references_store_eq (h : sheet.Typed) (hc : sheet.Types c) :
    (sheet.store a c).References = sheet.MentionsWith a c := by
  funext s t
  rw [eq_iff_iff, references_store_iff, MentionsWith, mem_references_iff hc,
    references_eq_mentions h]

theorem Sound.represents_mentionsWith (h : sheet.Sound) (hc : sheet.Types c) :
    (sheet.store a c).graph.Represents (sheet.MentionsWith a c) := by
  rw [← references_store_eq h.typed hc]
  exact represents_store h.represents

/-! ## Circular contents -/

theorem put_fst (sheet : Sheet) (a : CellName) (c : Content) : (sheet.put a c).1 =
    ((sheet.store a c).graph.recalculationOrder [a]).mapError (.circular a) := by
  simp only [put, store]
  cases (sheet.graph.setPrecedents a c.references).2.recalculationOrder [a] <;> rfl

theorem put_eq_circular_iff : (sheet.put a c).1 = .error (.circular b cycle) ↔
    b = a ∧ (sheet.store a c).graph.recalculationOrder [a] = .error cycle := by
  rw [put_fst, Except.mapError_eq_error_iff]
  constructor
  · rintro ⟨cycle', hcycle, he⟩
    cases he
    exact ⟨rfl, hcycle⟩
  · rintro ⟨rfl, hcycle⟩
    exact ⟨cycle, hcycle, rfl⟩

theorem Sound.exists_circular_iff (h : sheet.Sound) (hc : sheet.Types c) :
    (∃ b cycle, (sheet.put a c).1 = .error (.circular b cycle)) ↔
      TransGen (sheet.MentionsWith a c) a a := by
  have hg := h.represents_mentionsWith (a := a) hc
  rw [← hg.exists_error_iff (fun _ _ => mentions_of_mentionsWith) h.acyclic_mentions]
  constructor
  · rintro ⟨b, cycle, he⟩
    exact ⟨cycle, (put_eq_circular_iff.mp he).2⟩
  · rintro ⟨cycle, hcycle⟩
    exact ⟨a, cycle, put_eq_circular_iff.mpr ⟨rfl, hcycle⟩⟩

theorem Sound.closes_of_put (h : sheet.Sound) (hc : sheet.Types c)
    (he : (sheet.put a c).1 = .error (.circular b cycle)) :
    b = a ∧ cycle.Closes (sheet.MentionsWith a c) ∧ cycle.path.head? = some a := by
  obtain ⟨rfl, hcycle⟩ := put_eq_circular_iff.mp he
  refine ⟨rfl, ?_⟩
  exact (h.represents_mentionsWith hc).closes_of_exchange (fun _ _ => mentions_of_mentionsWith)
    h.acyclic_mentions hcycle

theorem set_eq_put (ha : sheet.address name = .ok a) (ht : text ≠ "")
    (hc : sheet.classify text = .ok c) : sheet.set name text = sheet.put a c := by
  simp only [Sheet.set, ha, if_neg ht, hc]

theorem Sound.set_empty_fst (h : sheet.Sound) (name : String) :
    (sheet.set name "").1 = (sheet.address name).map fun _ => [] := by
  unfold Sheet.set
  cases sheet.address name with
  | error e => rfl
  | ok a =>
    obtain ⟨order, -, hclear⟩ := h.clear_eq a
    simp only [if_true, hclear]
    rfl

theorem Sound.exists_recalculationOrder (h : sheet.Sound) (name : String) :
    ∃ order, sheet.recalculationOrder name = (sheet.address name).map fun _ => order := by
  unfold Sheet.recalculationOrder
  cases sheet.address name with
  | error e => exact ⟨[], rfl⟩
  | ok a =>
    obtain ⟨order, ho⟩ := h.represents.exists_recalculationOrder h.acyclic [a]
    refine ⟨order, ?_⟩
    rw [Except.ok_bind, dependentsInOrder, ho]
    rfl

/-- No cell of a reachable sheet depends on itself. A content is refused as circular exactly when
its cell would, and what is told is a cycle of the references there would be, from this cell back to
it, with no other cell twice. Emptying a cell and asking for what depends on it fail only where the
name addresses no cell. -/
theorem circular_iff_of_reachable (h : Reachable sheet) :
    Acyclic sheet.Mentions ∧
    (∀ (name text : String) (a : CellName) (c : Content), sheet.address name = .ok a → text ≠ "" →
      sheet.classify text = .ok c →
      ((∃ b cycle, (sheet.set name text).1 = .error (.circular b cycle)) ↔
        TransGen (sheet.MentionsWith a c) a a) ∧
      ∀ b cycle, (sheet.set name text).1 = .error (.circular b cycle) →
        b = a ∧ cycle.Closes (sheet.MentionsWith a c) ∧ cycle.path.head? = some a) ∧
    ∀ name, (sheet.set name "").1 = (sheet.address name).map (fun _ => []) ∧
      ∃ order, sheet.recalculationOrder name = (sheet.address name).map fun _ => order := by
  have hs := h.sound
  refine ⟨hs.acyclic_mentions, ?_, ?_⟩
  · intro name text a c ha ht hc
    have htypes : sheet.Types c := ⟨text, ht, hc⟩
    rw [set_eq_put ha ht hc]
    exact ⟨hs.exists_circular_iff htypes, fun b cycle => hs.closes_of_put htypes⟩
  · intro name
    exact ⟨hs.set_empty_fst name, hs.exists_recalculationOrder name⟩

def chained : Sheet :=
  ((Sheet.empty .any).respondAll [.set "b1" "=A1+A1", .set "a1" "=C1", .set "c1" "=D1"]).2

theorem pattern_chained : chained.pattern = .any := by
  simp only [chained, respondAll, respond, pattern_set, empty]

/-- The formula keeps the reference that the cell has and closes the chain by another. -/
theorem set_chained :
    let a (text : String) (h : isCellName text.toList = true) : CellName := ⟨text, h⟩
    let c := a "C1" (by decide)
    (chained.set "c1" "=B1+D1").1 =
      .error (.circular c ⟨[c, a "A1" (by decide), a "B1" (by decide), c]⟩) := by
  cbv

theorem circular_iff_of_reachable_chained :
    Reachable chained ∧ Acyclic chained.Mentions ∧
    (∃ a c cycle, chained.address "c1" = .ok a ∧ chained.classify "=B1+D1" = .ok c ∧
      (chained.set "c1" "=B1+D1").1 = .error (.circular a cycle) ∧
      TransGen (chained.MentionsWith a c) a a ∧ cycle.Closes (chained.MentionsWith a c) ∧
      cycle.path.head? = some a) ∧
    (chained.set "c1" "").1 = .ok [] ∧ ∃ order, chained.recalculationOrder "c1" = .ok order := by
  have h : Reachable chained := (Reachable.empty .any).respondAll _
  let f : Formula := ⟨[.var "B1", .operator .add, .var "D1"]⟩
  have ha : chained.address "c1" = .ok ⟨"C1", by decide⟩ := by
    rw [address, pattern_chained]
    cbv
  have hf : chained.classify "=B1+D1" = .ok (.formula f) := by
    simp only [classify, parseFormula, variableRules, pattern_chained]
    cbv
  obtain ⟨hacyclic, hcircular, hfree⟩ := circular_iff_of_reachable h
  obtain ⟨hiff, hcycle⟩ := hcircular "c1" "=B1+D1" _ _ ha (by decide) hf
  obtain ⟨hclear, order, horder⟩ := hfree "c1"
  rw [ha] at hclear horder
  refine ⟨h, hacyclic, ⟨_, _, _, ha, hf, set_chained, ?_, ?_⟩, hclear, order, horder⟩
  · exact hiff.mp ⟨_, _, set_chained⟩
  · exact (hcycle _ _ set_chained).2

/-! ## The sheet after a refusal -/

theorem Sound.put_snd_of_error (h : sheet.Sound) (he : (sheet.put a c).1 = .error e) :
    (sheet.put a c).2 = sheet := by
  rw [put_eq h.represents] at he ⊢
  cases ho : (sheet.store a c).graph.recalculationOrder [a] with
  | ok order =>
    rw [ho] at he
    cases he
  | error cycle => rfl

theorem Sound.set_snd_of_error (h : sheet.Sound) (he : (sheet.set name text).1 = .error e) :
    (sheet.set name text).2 = sheet := by
  unfold Sheet.set at he ⊢
  cases ha : sheet.address name with
  | error e' => rfl
  | ok a =>
    simp only [ha] at he ⊢
    split at he
    · obtain ⟨order, -, hclear⟩ := h.clear_eq a
      rw [hclear] at he
      cases he
    · rename_i ht
      rw [if_neg ht]
      cases hc : sheet.classify text with
      | error e' => rfl
      | ok c =>
        simp only [hc] at he ⊢
        exact h.put_snd_of_error he

/-- An edit that is refused leaves a reachable sheet as it was, cells, values, graph and mark, and
whatever is asked next is answered as if the edit had not been tried. -/
theorem set_snd_of_reachable (h : Reachable sheet) (he : (sheet.set name text).1 = .error e) :
    (sheet.set name text).2 = sheet ∧ ∀ requests,
      sheet.respondAll (.set name text :: requests) =
        (.cells (.error e) :: (sheet.respondAll requests).1, (sheet.respondAll requests).2) := by
  have hset := h.sound.set_snd_of_error he
  refine ⟨hset, fun requests => ?_⟩
  rw [respondAll_cons, respond_set, he, hset]

theorem set_snd_of_reachable_chained :
    Reachable chained ∧ ∃ e, (chained.set "c1" "=B1+D1").1 = .error e ∧
      (chained.set "c1" "=B1+D1").2 = chained ∧ ∀ requests,
        chained.respondAll (.set "c1" "=B1+D1" :: requests) =
          (.cells (.error e) :: (chained.respondAll requests).1, (chained.respondAll requests).2) := by
  have h : Reachable chained := (Reachable.empty .any).respondAll _
  exact ⟨h, _, set_chained, set_snd_of_reachable h set_chained⟩

end Spreadsheet.Sheet
