import Spreadsheet.Proofs.Sheet.Loading

/-! # Loading a saved sheet

A sheet is saved as one record for each of its cells, and each record stores what its cell holds. So
the records are loadable, in the order of their names as in any other, and a sheet that holds what
they store is the one that was saved.
-/

namespace Spreadsheet.Sheet

variable {sheet : Sheet} {a : CellName} {c : Content}

theorem document_eq (h : sheet.Typed) : sheet.document = ⟨sheet.pattern.source,
    sheet.cells.toList.map fun p => ⟨p.1.text, p.2.content.display⟩⟩ := by
  have hfilter : (sheet.cells.toList.map fun p => (p.1, p.2.content)).filter
      (fun p => !p.2.isEmpty) = sheet.cells.toList.map fun p => (p.1, p.2.content) := by
    refine List.filter_eq_self.mpr fun p hp => ?_
    obtain ⟨⟨a, cell⟩, hcell, rfl⟩ := List.mem_map.mp hp
    have ht := (h a cell (Std.ExtTreeMap.mem_toList_iff_getElem?_eq_some.mp hcell)).2
    simp [isEmpty_of_types ht]
  rw [document, Document.ofCells, hfilter, List.map_map]
  rfl

theorem mem_records_iff (h : sheet.Typed) {r : Document.Record} : r ∈ sheet.document.records ↔
    ∃ (a : CellName) (cell : Cell), sheet.cells[a]? = some cell ∧
      r = ⟨a.text, cell.content.display⟩ := by
  simp [document_eq h, Std.ExtTreeMap.mem_toList_iff_getElem?_eq_some, eq_comm (a := r)]

theorem stores_record_iff (h : sheet.Types c) {b : CellName} {d : Content} :
    (Document.Record.mk a.text c.display).Stores sheet.pattern b d ↔ a = b ∧ c = d := by
  have hpattern : (Sheet.empty sheet.pattern).pattern = sheet.pattern := rfl
  have hclassify : (Sheet.empty sheet.pattern).classify c.display = .ok c := by
    rw [classify_congr hpattern]
    exact classify_display h
  constructor
  · rintro ⟨hcell, -, hcontent⟩
    rw [CellName.parse?_text] at hcell
    rw [hclassify] at hcontent
    exact ⟨Option.some.inj hcell, Except.ok.inj hcontent⟩
  · rintro ⟨rfl, rfl⟩
    exact ⟨a.parse?_text, display_ne_empty h, hclassify⟩

theorem stores_document_iff (h : sheet.Typed) :
    (∃ r ∈ sheet.document.records, r.Stores sheet.pattern a c) ↔ sheet.content? a = some c := by
  rw [content?, Option.map_eq_some_iff]
  constructor
  · rintro ⟨r, hr, hs⟩
    obtain ⟨b, cell, hcell, rfl⟩ := (mem_records_iff h).mp hr
    obtain ⟨rfl, hc⟩ := (stores_record_iff (h b cell hcell).2).mp hs
    exact ⟨cell, hcell, hc⟩
  · rintro ⟨cell, hcell, rfl⟩
    exact ⟨_, (mem_records_iff h).mpr ⟨a, cell, hcell, rfl⟩,
      (stores_record_iff (h a cell hcell).2).mpr ⟨rfl, rfl⟩⟩

theorem Sound.loadable_document (h : sheet.Sound) :
    Document.Loadable sheet.pattern sheet.pattern sheet.document.records where
  named r hr := by
    obtain ⟨a, cell, hcell, rfl⟩ := (mem_records_iff h.typed).mp hr
    obtain ⟨haccepts, -⟩ := h.typed a cell hcell
    exact ⟨a, a.parse?_text, haccepts, haccepts⟩
  distinct := by
    have hnames : sheet.document.records.map (fun r => CellName.parse? r.name) =
        sheet.names.map some := by
      rw [document_eq h.typed, names, ← Std.ExtTreeMap.map_fst_toList_eq_keys, List.map_map,
        List.map_map]
      exact List.map_congr_left fun p _ => p.1.parse?_text
    rw [hnames]
    exact Std.ExtTreeMap.nodup_keys.map (Option.some_injective _)
  formulas r hr := by
    obtain ⟨a, cell, hcell, rfl⟩ := (mem_records_iff h.typed).mp hr
    exact exists_classify_iff.mp
      ⟨_, ((stores_record_iff (h.typed a cell hcell).2).mpr ⟨rfl, rfl⟩).content⟩
  acyclic := by
    refine h.acyclic_mentions.mono fun s t hst => ?_
    obtain ⟨r, hr, c, hs, hc⟩ := hst
    have hcontent := (stores_document_iff h.typed).mp ⟨r, hr, hs⟩
    obtain ⟨cell, hcell, rfl⟩ := Option.map_eq_some_iff.mp hcontent
    exact ⟨cell, hcell, hc⟩

theorem ofDocument_document (h : sheet.Sound) :
    ofDocument sheet.document sheet.pattern = .ok sheet.markSaved := by
  have hsource : NamePattern.ofSource? sheet.document.pattern = .ok sheet.pattern :=
    sheet.pattern.ofSource?_source
  obtain ⟨loaded, hloaded⟩ := exists_ofDocument_iff.mpr ⟨_, hsource, h.loadable_document⟩
  have hholds := holds_of_ofDocument hloaded
  have hcontent (a : CellName) : loaded.content? a = sheet.markSaved.content? a :=
    Option.ext fun c => (hholds.content? a c).trans (stores_document_iff h.typed)
  rw [hloaded, (sound_of_ofDocument hloaded).1.ext h.markSaved hholds.pattern_eq
    hholds.changed_eq hcontent]

/-- A saved sheet is loaded as the sheet itself, without unsaved changes. -/
theorem load_saveBytes (h : sheet.Sound) :
    load sheet.saveBytes sheet.pattern = .ok sheet.markSaved := by
  rw [load, saveBytes, save, Document.ofBytes_render]
  exact ofDocument_document h

/-- Whatever was asked of a sheet, loading what is saved of it succeeds under its pattern and gives
the same cells, contents and values alike, and the same references; saved again, it is the same
bytes. -/
theorem load_of_reachable (h : Reachable sheet) :
    ∃ loaded, load sheet.saveBytes sheet.pattern = .ok loaded ∧ loaded.cells = sheet.cells ∧
      loaded.graph = sheet.graph ∧ loaded.pattern = sheet.pattern ∧ loaded.changed = false ∧
      loaded.saveBytes = sheet.saveBytes :=
  ⟨sheet.markSaved, load_saveBytes h.sound, rfl, rfl, rfl, rfl, rfl⟩

/-- A text that has to be escaped, and a formula in a cell that is listed before the one it
mentions. -/
def awkward : Sheet :=
  (((Sheet.empty .any).respond (.set "B1" "<&amp;> \"'")).2.respond (.set "A1" "=B1/(0-1)")).2

theorem load_of_reachable_awkward :
    Reachable awkward ∧ ∃ loaded, load awkward.saveBytes awkward.pattern = .ok loaded ∧
      loaded.cells = awkward.cells ∧ loaded.graph = awkward.graph ∧
      loaded.pattern = awkward.pattern ∧ loaded.changed = false ∧
      loaded.saveBytes = awkward.saveBytes := by
  have h : Reachable awkward := .respond (.respond (.empty .any) _) _
  exact ⟨h, load_of_reachable h⟩

end Spreadsheet.Sheet
