import Spreadsheet.Proofs.Sheet.Edit
import Spreadsheet.Sheet.File
import Spreadsheet.Sheet.Session

/-! # Reachable sheets

An empty sheet is sound, and whatever is asked of a sound sheet leaves a sound one: an edit by
itself, a load because it types its records into an empty sheet. So every sheet that requests lead
to is sound.
-/

namespace Spreadsheet.Sheet

variable {sheet : Sheet} {a : CellName} {cell : Cell} {bytes : List UInt8}
  {pattern recorded : NamePattern} {d : Document} {rs : List Document.Record}

def Loading.Sound (pattern : NamePattern) (l : Loading) : Prop :=
  l.sheet.Sound ∧ l.sheet.pattern = pattern

theorem Loading.sound_enter {l l' : Loading} {r : Document.Record} (h : l.Sound pattern)
    (he : l.enter recorded r = .ok l') : l'.Sound pattern := by
  unfold Loading.enter at he
  split at he
  · cases he
  · rename_i a _
    split at he
    · cases he
    · have hs := h.1.set a.text r.contents
      have hp := l.sheet.pattern_set a.text r.contents
      split at he
      · cases he
      · rename_i hset
        cases he
        rw [hset] at hs hp
        exact ⟨hs, hp.trans h.2⟩

theorem Loading.sound_foldlM {l l' : Loading} (h : l.Sound pattern)
    (he : rs.foldlM (Loading.enter recorded) l = .ok l') : l'.Sound pattern := by
  induction rs generalizing l with
  | nil =>
    cases he
    exact h
  | cons r rs ih =>
    rw [List.foldlM_cons, Except.bind_eq_ok_iff] at he
    obtain ⟨m, hm, he⟩ := he
    exact ih (sound_enter h hm) he

theorem sound_of_ofDocument (h : ofDocument d pattern = .ok sheet) :
    sheet.Sound ∧ sheet.pattern = pattern := by
  unfold ofDocument at h
  split at h
  · cases h
  · obtain ⟨l, hl, h⟩ := Except.bind_eq_ok_iff.mp h
    cases h
    obtain ⟨hs, hp⟩ := Loading.sound_foldlM ⟨sound_empty pattern, rfl⟩ hl
    exact ⟨hs.markSaved, hp⟩

theorem sound_of_load (h : load bytes pattern = .ok sheet) :
    sheet.Sound ∧ sheet.pattern = pattern := by
  unfold load at h
  split at h
  · cases h
  · exact sound_of_ofDocument h

theorem exists_load_of_ofRead {r : Except FileError (List UInt8)}
    (h : ofRead pattern r = .ok sheet) : ∃ bytes, load bytes pattern = .ok sheet := by
  unfold ofRead at h
  split at h
  · exact ⟨_, Except.mapError_eq_ok_iff.mp h⟩
  · cases h
  · cases h

theorem Sound.respond (h : sheet.Sound) (r : Request) : (sheet.respond r).2.Sound := by
  cases r with
  | set name text =>
    rw [respond_set]
    exact h.set name text
  | markSaved => exact h.markSaved
  | reload =>
    simp only [Sheet.respond]
    split
    · rename_i hload
      exact (sound_of_load hload).1
    · exact h
  | _ => exact h

theorem Reachable.respondAll (h : Reachable sheet) (requests : List Request) :
    Reachable (sheet.respondAll requests).2 := by
  induction requests generalizing sheet with
  | nil => exact h
  | cons r requests ih =>
    rw [respondAll_cons]
    exact ih (h.respond r)

theorem Reachable.sound (h : Reachable sheet) : sheet.Sound := by
  induction h with
  | empty pattern => exact sound_empty pattern
  | load hload => exact (sound_of_load hload).1
  | respond _ r ih => exact ih.respond r

end Spreadsheet.Sheet
