import Spreadsheet.Proofs.FileSystem
import Spreadsheet.Proofs.Sheet.Reachable

/-! # Unsaved changes

Beside a sheet stands here the sheet it was when it was last created, loaded or saved, told by what
was done and not by the mark. Every step either ends in such a sheet and clears the mark, or sets the
mark, or leaves contents and mark alone. So whatever is done, a sheet without the mark has the
contents it was saved with.
-/

namespace Spreadsheet.Sheet

variable {sheet next : Sheet} {order : List CellName} {e : EditError} {name text : String}

structure Untouched (sheet next : Sheet) : Prop where
  cells : next.cells = sheet.cells
  changed : next.changed = sheet.changed

theorem Untouched.refl (sheet : Sheet) : sheet.Untouched sheet := ⟨rfl, rfl⟩

/-! ## One edit -/

theorem put_cases (sheet : Sheet) (a : CellName) (c : Content) :
    (∃ order next, sheet.put a c = (.ok order, next) ∧ next.changed = true) ∨
      ∃ e next, sheet.put a c = (.error e, next) ∧ sheet.Untouched next := by
  unfold put
  dsimp only
  split
  · exact .inr ⟨_, _, rfl, rfl, rfl⟩
  · exact .inl ⟨_, _, rfl, (recalculate_frame _ _).2.2⟩

theorem clear_cases (sheet : Sheet) (a : CellName) :
    (∃ order next, sheet.clear a = (.ok order, next) ∧ next.changed = true) ∨
      ∃ e next, sheet.clear a = (.error e, next) ∧ sheet.Untouched next := by
  unfold clear
  split
  · exact .inr ⟨_, _, rfl, .refl sheet⟩
  · exact .inl ⟨_, _, rfl, (recalculate_frame _ _).2.2⟩

theorem set_cases (sheet : Sheet) (name text : String) :
    (∃ order next, sheet.set name text = (.ok order, next) ∧ next.changed = true) ∨
      ∃ e next, sheet.set name text = (.error e, next) ∧ sheet.Untouched next := by
  unfold Sheet.set
  split
  · exact .inr ⟨_, _, rfl, .refl sheet⟩
  · split
    · exact sheet.clear_cases _
    · split
      · exact .inr ⟨_, _, rfl, .refl sheet⟩
      · exact sheet.put_cases _ _

theorem changed_of_set (h : sheet.set name text = (.ok order, next)) : next.changed = true := by
  rcases sheet.set_cases name text with ⟨order', next', hset, hchanged⟩ | ⟨e, next', hset, -⟩
  · rw [h] at hset
    cases hset
    exact hchanged
  · rw [h] at hset
    cases hset

theorem untouched_of_set (h : sheet.set name text = (.error e, next)) : sheet.Untouched next := by
  rcases sheet.set_cases name text with ⟨order, next', hset, -⟩ | ⟨e', next', hset, huntouched⟩
  · rw [h] at hset
    cases hset
  · rw [h] at hset
    cases hset
    exact huntouched

theorem changed_of_load {bytes : List UInt8} {pattern : NamePattern}
    (h : load bytes pattern = .ok sheet) : sheet.changed = false := by
  unfold load at h
  split at h
  · cases h
  · unfold ofDocument at h
    split at h
    · cases h
    · obtain ⟨l, -, h⟩ := Except.bind_eq_ok_iff.mp h
      cases h
      rfl

/-! ## One request -/

def Answer.isSavePoint : Answer → Bool
  | .done | .loaded (.ok ()) => true
  | _ => false

def Answer.isFailure : Answer → Bool
  | .cells (.error _) | .content (.error _) | .value (.error _) | .loaded (.error _) => true
  | _ => false

def Request.isQuestion : Request → Bool
  | .set _ _ | .markSaved | .reload => false
  | _ => true

theorem changed_of_isSavePoint {r : Request} (h : (sheet.respond r).1.isSavePoint = true) :
    (sheet.respond r).2.changed = false := by
  cases r with
  | markSaved => rfl
  | reload =>
    simp only [respond] at h ⊢
    cases hload : load sheet.saveBytes sheet.pattern with
    | error e =>
      rw [hload] at h
      cases h
    | ok loaded => exact changed_of_load hload
  | _ => cases h

theorem respond_cases (sheet : Sheet) (r : Request) :
    (sheet.respond r).1.isSavePoint = true ∨ (sheet.respond r).2.changed = true ∨
      sheet.Untouched (sheet.respond r).2 := by
  cases r with
  | set name text =>
    rw [respond_set]
    rcases sheet.set_cases name text with ⟨order, next, hset, hchanged⟩ | ⟨e, next, hset, h⟩
    · rw [hset]
      exact .inr (.inl hchanged)
    · rw [hset]
      exact .inr (.inr h)
  | markSaved => exact .inl rfl
  | reload =>
    simp only [respond]
    cases load sheet.saveBytes sheet.pattern with
    | error e => exact .inr (.inr (.refl sheet))
    | ok loaded => exact .inl rfl
  | _ => exact .inr (.inr (.refl sheet))

theorem untouched_of_respond {r : Request}
    (h : r.isQuestion = true ∨ (sheet.respond r).1.isFailure = true) :
    sheet.Untouched (sheet.respond r).2 := by
  cases r with
  | set name text =>
    rw [respond_set] at h ⊢
    cases hset : sheet.set name text with
    | mk r next =>
      cases r with
      | ok order =>
        rw [hset] at h
        simp [Request.isQuestion, Answer.isFailure] at h
      | error e => exact untouched_of_set hset
  | markSaved => simp [Request.isQuestion, respond, Answer.isFailure] at h
  | reload =>
    simp only [respond] at h ⊢
    cases hload : load sheet.saveBytes sheet.pattern with
    | error e => exact .refl sheet
    | ok loaded =>
      rw [hload] at h
      simp [Request.isQuestion, Answer.isFailure] at h
  | _ => exact .refl sheet

/-! ## One file -/

theorem saveFile_cases {σ : Type} (files : Files (StateM σ)) (path : String) (sheet : Sheet)
    (s : σ) : (∃ s', saveFile files path sheet s = ((.ok (), sheet.markSaved), s')) ∨
      ∃ e s', saveFile files path sheet s = ((.error e, sheet), s') := by
  simp only [saveFile, bind_apply]
  rcases files.write path sheet.saveBytes s with ⟨_ | u, s'⟩
  · exact .inr ⟨_, _, rfl⟩
  · exact .inl ⟨_, rfl⟩

/-! ## Runs -/

inductive Action where
  | request (r : Request)
  /-- Go on with an empty sheet. -/
  | create (pattern : NamePattern)
  /-- Go on with the sheet in a document, if it can be loaded. -/
  | load (bytes : List UInt8) (pattern : NamePattern)
  | openFile (path : String) (pattern : NamePattern)
  | saveFile (path : String)

/-- A sheet, and the sheet it was when it was last created, loaded or saved. -/
structure Tracked where
  sheet : Sheet
  saved : Sheet

namespace Tracked

variable {m : Type → Type} [Monad m] {σ ε : Type} {t : Tracked}

def savePoint (sheet : Sheet) : Tracked := ⟨sheet, sheet⟩

def orLoaded (t : Tracked) : Except ε Sheet → Tracked
  | .ok sheet => savePoint sheet
  | .error _ => t

def act (files : Files m) (t : Tracked) : Action → m Tracked
  | .request r =>
    let (answer, next) := t.sheet.respond r
    pure (if answer.isSavePoint then savePoint next else { t with sheet := next })
  | .create pattern => pure (savePoint (empty pattern))
  | .load bytes pattern => pure (t.orLoaded (Sheet.load bytes pattern))
  | .openFile path pattern => do
    let opened ← Sheet.openFile files path pattern
    pure (t.orLoaded opened)
  | .saveFile path => do
    match ← Sheet.saveFile files path t.sheet with
    | (.ok (), next) => pure (savePoint next)
    | (.error _, next) => pure { t with sheet := next }

def run (files : Files m) (t : Tracked) (actions : List Action) : m Tracked :=
  actions.foldlM (act files) t

theorem run_cons (files : Files (StateM σ)) (t : Tracked) (action : Action) (actions : List Action)
    (s : σ) : t.run files (action :: actions) s =
      (t.act files action s).1.run files actions (t.act files action s).2 := rfl

/-- The saved sheet had no mark that contents changed, and as long as the sheet has none, its
contents are those saved. -/
structure Kept (t : Tracked) : Prop where
  saved : t.saved.changed = false
  contents : t.sheet.changed = false → ∀ a, t.sheet.contentOf a = t.saved.contentOf a

theorem kept_savePoint (h : sheet.changed = false) : (savePoint sheet).Kept := ⟨h, fun _ _ => rfl⟩

theorem Kept.orLoaded (h : t.Kept) {loaded : Except ε Sheet}
    (hloaded : ∀ sheet, loaded = .ok sheet → sheet.changed = false) : (t.orLoaded loaded).Kept := by
  cases loaded with
  | ok sheet => exact kept_savePoint (hloaded sheet rfl)
  | error e => exact h

theorem Kept.edited (h : t.Kept) (hnext : next.changed = true) : Kept { t with sheet := next } := by
  constructor
  · exact h.saved
  · intro hc
    rw [hnext] at hc
    cases hc

theorem Kept.untouched (h : t.Kept) (hnext : t.sheet.Untouched next) :
    Kept { t with sheet := next } := by
  constructor
  · exact h.saved
  · intro hc a
    rw [hnext.changed] at hc
    have ha := h.contents hc a
    rw [contentOf] at ha ⊢
    rwa [hnext.cells]

theorem Kept.act (h : t.Kept) (files : Files (StateM σ)) (action : Action) (s : σ) :
    (t.act files action s).1.Kept := by
  cases action with
  | request r =>
    change Kept (if (t.sheet.respond r).1.isSavePoint then savePoint (t.sheet.respond r).2
      else { t with sheet := (t.sheet.respond r).2 })
    split
    · rename_i hsave
      exact kept_savePoint (changed_of_isSavePoint hsave)
    -- The saved sheet stays, so contents may differ from it only with the mark.
    · rename_i hno
      rcases t.sheet.respond_cases r with hsave | hchanged | huntouched
      · exact absurd hsave hno
      · exact h.edited hchanged
      · exact h.untouched huntouched
  | create pattern => exact kept_savePoint rfl
  | load bytes pattern =>
    apply h.orLoaded
    intro sheet hload
    exact changed_of_load hload
  | openFile path pattern =>
    apply h.orLoaded
    intro sheet hopened
    obtain ⟨bytes, hload⟩ := exists_load_of_ofRead hopened
    exact changed_of_load hload
  | saveFile path =>
    rcases saveFile_cases files path t.sheet s with ⟨s', hsave⟩ | ⟨e, s', hsave⟩
    · rw [Tracked.act, bind_apply, hsave]
      exact kept_savePoint rfl
    · rw [Tracked.act, bind_apply, hsave]
      exact h

theorem Kept.run (h : t.Kept) (files : Files (StateM σ)) (actions : List Action) (s : σ) :
    (t.run files actions s).1.Kept := by
  induction actions generalizing t s with
  | nil => exact h
  | cons action actions ih =>
    rw [run_cons]
    exact ih (h.act files action s) _

end Tracked

open Tracked

/-- Whatever is done, the sheet had no mark that contents changed when it was last created, loaded or
saved, and if it has none now, every cell has the content it had then. Every edit that succeeds sets
the mark, the emptying of a cell included. What fails does not touch it, and neither does a
question, an evaluation or a plain save. -/
theorem changed_sound :
    (∀ {σ : Type} (files : Files (StateM σ)) (pattern : NamePattern) (actions : List Action)
      (s : σ), ((savePoint (empty pattern)).run files actions s).1.Kept) ∧
    (∀ (sheet : Sheet) (name text : String) (order : List CellName) (next : Sheet),
      sheet.set name text = (.ok order, next) → next.changed = true) ∧
    (∀ (sheet : Sheet) (r : Request),
      r.isQuestion = true ∨ (sheet.respond r).1.isFailure = true →
      (sheet.respond r).2.changed = sheet.changed) ∧
    ∀ {σ : Type} (files : Files (StateM σ)) (path : String) (sheet : Sheet) (s s' : σ)
      (e : FileError) (next : Sheet), saveFile files path sheet s = ((.error e, next), s') →
      next.changed = sheet.changed := by
  refine ⟨?_, ?_, ?_, ?_⟩
  · intro σ files pattern actions s
    exact (kept_savePoint rfl).run files actions s
  · intro sheet name text order next hset
    exact changed_of_set hset
  · intro sheet r hr
    exact (untouched_of_respond hr).changed
  · intro σ files path sheet s s' e next hsave
    rcases saveFile_cases files path sheet s with ⟨s'', hcase⟩ | ⟨e', s'', hcase⟩
    · rw [hsave] at hcase
      cases hcase
    · rw [hsave] at hcase
      cases hcase
      rfl

def linked : Sheet := ((Sheet.empty .any).respondAll [.set "b1" "=A1", .set "a1" "x"]).2

/-- The sheet is made, written to a file, and an edit of it refused. -/
def noted : List Action :=
  [.request (.set "b1" "=A1"), .request (.set "a1" "x"), .saveFile "sheet",
    .request (.set "a1" "=B1")]

theorem set_linked : (linked.markSaved.respond (.set "a1" "=B1")).1.isFailure = true := by cbv

theorem run_noted : ((savePoint (empty .any)).run FileSystem.access noted .empty).1 =
    ⟨(linked.markSaved.respond (.set "a1" "=B1")).2, linked.markSaved⟩ := by
  have hset (t : Tracked) (name text : String) (fs : FileSystem) :
      t.act FileSystem.access (.request (.set name text)) fs =
        ({ t with sheet := (t.sheet.respond (.set name text)).2 }, fs) := rfl
  have hwrite (bytes : List UInt8) :
      (FileSystem.access.write "sheet" bytes .empty).1 = .ok () := by cbv
  have hsave (t : Tracked) : (t.act FileSystem.access (.saveFile "sheet") .empty).1 =
      savePoint t.sheet.markSaved := by
    simp only [Tracked.act, saveFile, bind_apply, hwrite]
    rfl
  rw [noted, run_cons, hset, run_cons, hset, run_cons, hsave, run_cons, hset]
  rfl

/-- The refused edit leaves the sheet as it was written. After that it can be emptied, but not
written where there is no path. -/
theorem changed_sound_noted : ∃ last : Tracked,
    ((savePoint (empty .any)).run FileSystem.access noted .empty).1 = last ∧
    last.saved.changed = false ∧ last.sheet.changed = false ∧
    (∀ a, last.sheet.contentOf a = last.saved.contentOf a) ∧
    last.saved.contentOf ⟨"A1", by decide⟩ = .text "x" ∧
    (∃ order next, linked.markSaved.set "a1" "" = (.ok order, next) ∧ next.changed = true) ∧
    ∃ e next s', saveFile FileSystem.access "" linked .empty = ((.error e, next), s') ∧
      next.changed = linked.changed := by
  obtain ⟨hkept, hset, hrespond, hsave⟩ := changed_sound
  have hlast := hkept FileSystem.access .any noted .empty
  have hchanged := hrespond linked.markSaved (.set "a1" "=B1") (.inr set_linked)
  have hclear : (linked.markSaved.set "a1" "").1 = .ok [] := by cbv
  rw [run_noted] at hlast ⊢
  refine ⟨_, rfl, hlast.saved, hchanged, hlast.contents hchanged, by cbv, ?_, ?_⟩
  · exact ⟨[], _, Prod.ext hclear rfl, hset _ _ _ _ _ (Prod.ext hclear rfl)⟩
  · have hwrite (bytes : List UInt8) :
        FileSystem.access.write "" bytes .empty = (.error .notFound, .empty) := by cbv
    have hfails : saveFile FileSystem.access "" linked .empty =
        ((.error .notFound, linked), .empty) := by
      simp only [saveFile, bind_apply, hwrite]
      rfl
    exact ⟨_, _, _, hfails, hsave _ _ _ _ _ _ _ hfails⟩

end Spreadsheet.Sheet
