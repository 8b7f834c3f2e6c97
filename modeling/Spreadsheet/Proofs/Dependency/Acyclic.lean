import Mathlib.Order.WellFoundedSet
import Spreadsheet.Proofs.Dependency.Edges

/-! # Acyclic references

A list is in order for a relation when all that depends on a listed cell stands behind it. No listed
cell then depends on itself. Exchanging the precedents of one cell keeps a relation acyclic as soon
as this cell does not depend on itself afterwards, and a finite acyclic relation is well-founded.
-/

namespace Spreadsheet

open Relation (TransGen ReflTransGen)

variable {E E' : CellName → CellName → Prop} {a b c x y : CellName} {l : List CellName}

/-- All that depends on a listed cell stands behind it, and no cell is listed twice. -/
def InOrder (E : CellName → CellName → Prop) : List CellName → Prop
  | [] => True
  | a :: as => (∀ t, E a t → t ∈ as) ∧ a ∉ as ∧ InOrder E as

namespace InOrder

theorem nodup (h : InOrder E l) : l.Nodup := by
  induction l with
  | nil => exact List.nodup_nil
  | cons a as ih => exact List.nodup_cons.mpr ⟨h.2.1, ih h.2.2⟩

theorem mem_of_edge (h : InOrder E l) (ha : a ∈ l) (he : E a b) : b ∈ l := by
  induction l with
  | nil => cases ha
  | cons c cs ih =>
    rcases List.mem_cons.mp ha with rfl | ha
    · exact List.mem_cons_of_mem _ (h.1 b he)
    · exact List.mem_cons_of_mem _ (ih h.2.2 ha)

theorem mem_of_reflTransGen (h : InOrder E l) (ha : a ∈ l) (hp : ReflTransGen E a b) : b ∈ l := by
  induction hp with
  | refl => exact ha
  | tail _ he ih => exact h.mem_of_edge ih he

theorem not_transGen_self (h : InOrder E l) (ha : a ∈ l) : ¬ TransGen E a a := by
  induction l with
  | nil => cases ha
  | cons c cs ih =>
    rcases List.mem_cons.mp ha with rfl | ha
    · intro hp
      obtain ⟨b, he, hp⟩ := TransGen.head'_iff.mp hp
      exact h.2.1 (h.2.2.mem_of_reflTransGen (h.1 b he) hp)
    · exact ih h.2.2 ha

theorem mono (h : InOrder E l) (hE : ∀ s t, E' s t → E s t) : InOrder E' l := by
  induction l with
  | nil => trivial
  | cons c cs ih => exact ⟨fun t ht => h.1 t (hE c t ht), h.2.1, ih h.2.2⟩

theorem pairwise (h : InOrder E l) : l.Pairwise fun s t => ¬ E t s := by
  induction l with
  | nil => exact .nil
  | cons a as ih =>
    exact .cons (fun b hb he => h.2.1 (h.2.2.mem_of_edge hb he)) (ih h.2.2)

end InOrder

/-- To be in order is to be closed under dependents, with no cell twice, in front of one that it
depends on, or dependent on itself. -/
theorem inOrder_iff : InOrder E l ↔ l.Nodup ∧ (l.Pairwise fun s t => ¬ E t s) ∧
    ∀ s ∈ l, ¬ E s s ∧ ∀ t, E s t → t ∈ l := by
  constructor
  · intro h
    refine ⟨h.nodup, h.pairwise, fun s hs => ⟨?_, fun t ht => h.mem_of_edge hs ht⟩⟩
    exact fun he => h.not_transGen_self hs (.single he)
  · rintro ⟨hn, hp, hc⟩
    induction l with
    | nil => trivial
    | cons a as ih =>
      obtain ⟨ha, hn⟩ := List.nodup_cons.mp hn
      obtain ⟨hfront, hp⟩ := List.pairwise_cons.mp hp
      refine ⟨fun t ht => ?_, ha, ih hn hp fun s hs => ⟨?_, fun t ht => ?_⟩⟩
      · obtain ⟨hself, hclosed⟩ := hc a List.mem_cons_self
        refine List.mem_of_ne_of_mem ?_ (hclosed t ht)
        rintro rfl
        exact hself ht
      · exact (hc s (List.mem_cons_of_mem a hs)).1
      · refine List.mem_of_ne_of_mem ?_ ((hc s (List.mem_cons_of_mem a hs)).2 t ht)
        rintro rfl
        exact hfront s hs ht

def Acyclic (E : CellName → CellName → Prop) : Prop := ∀ a, ¬ TransGen E a a

theorem Acyclic.mono (h : Acyclic E) (hE : ∀ s t, E' s t → E s t) : Acyclic E' :=
  fun a hp => h a (TransGen.mono hE a a hp)

theorem acyclic_false : Acyclic fun _ _ => False := by
  intro a h
  obtain ⟨_, he, -⟩ := TransGen.head'_iff.mp h
  exact he

/-- Where only the precedents of `a` are new, a path is an old one or leads through `a`. -/
theorem transGen_through (hE : ∀ s t, t ≠ a → E' s t → E s t) (h : TransGen E' x y) :
    TransGen E x y ∨ (TransGen E' x a ∧ ReflTransGen E' a y) := by
  induction h with
  | @single y he =>
    by_cases hy : y = a
    · subst y
      exact .inr ⟨.single he, .refl⟩
    · exact .inl (.single (hE _ _ hy he))
  | @tail y z hp he ih =>
    rcases ih with ih | ⟨h1, h2⟩
    · by_cases hz : z = a
      · subst z
        exact .inr ⟨hp.tail he, .refl⟩
      · exact .inl (ih.tail (hE _ _ hz he))
    · exact .inr ⟨h1, h2.tail he⟩

theorem Acyclic.exchange (h : Acyclic E) (hE : ∀ s t, t ≠ a → E' s t → E s t)
    (ha : ¬ TransGen E' a a) : Acyclic E' := by
  intro x hp
  rcases transGen_through hE hp with hp | ⟨h1, h2⟩
  · exact h x hp
  · exact ha (TransGen.trans_right h2 h1)

theorem Acyclic.wellFounded (h : Acyclic E) (hf : (DependencyGraph.pairs E).Finite) :
    WellFounded E := by
  let cells : Set CellName :=
    Prod.fst '' DependencyGraph.pairs E ∪ Prod.snd '' DependencyGraph.pairs E
  have hc : cells.Finite := (hf.image _).union (hf.image _)
  have : IsStrictOrder CellName (TransGen E) :=
    { irrefl := h, trans := fun _ _ _ => TransGen.trans }
  have hw := Set.wellFoundedOn_iff.mp (hc.wellFoundedOn (r := TransGen E))
  refine Subrelation.wf ?_ hw
  intro s t he
  exact ⟨.single he, .inl ⟨(s, t), he, rfl⟩, .inr ⟨(s, t), he, rfl⟩⟩

end Spreadsheet
