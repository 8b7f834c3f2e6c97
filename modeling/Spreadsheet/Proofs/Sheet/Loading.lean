import Spreadsheet.Proofs.Document.RoundTrip
import Spreadsheet.Proofs.Sheet.Contents
import Spreadsheet.Proofs.Sheet.Refusal

/-! # Loading records

Records are typed in one after the other, so a load meets every state in between. None of them can
refuse what the whole document allows: the references entered so far are some of its references, and
no cell is entered twice. So a document can be loaded exactly when its records satisfy a condition in
which their order plays no part, and the sheet then holds what they store.
-/

namespace Spreadsheet

namespace Document

variable {pattern recorded : NamePattern} {rs rs' : List Record} {s t : CellName}

/-- Under the pattern, the record puts the content into the cell. -/
structure Record.Stores (pattern : NamePattern) (r : Record) (a : CellName) (c : Content) :
    Prop where
  cell : CellName.parse? r.name = some a
  nonempty : r.contents ≠ ""
  content : (Sheet.empty pattern).classify r.contents = .ok c

def Mentions (pattern : NamePattern) (rs : List Record) (s t : CellName) : Prop :=
  ∃ r ∈ rs, ∃ c, r.Stores pattern t c ∧ c.Mentions s

/-- The cells named by the records that have contents. -/
def filledCells (rs : List Record) : List CellName :=
  (rs.filter (·.contents ≠ "")).filterMap fun r => CellName.parse? r.name

/-- The records name cells that both patterns accept, no cell twice, their formulas can be read, and
no cell depends on itself by them. -/
structure Loadable (recorded pattern : NamePattern) (rs : List Record) : Prop where
  named : ∀ r ∈ rs, ∃ a, CellName.parse? r.name = some a ∧ recorded.accepts a = true ∧
    pattern.accepts a = true
  distinct : (rs.map fun r => CellName.parse? r.name).Nodup
  formulas : ∀ r ∈ rs, ∀ cs, r.contents.toList = '=' :: cs →
    ∃ f, Formula.parse (Sheet.empty pattern).variableRules (String.ofList cs) = .ok f
  acyclic : Acyclic (Mentions pattern rs)

theorem Mentions.mono (hs : rs' ⊆ rs) (h : Mentions pattern rs' s t) : Mentions pattern rs s t := by
  obtain ⟨r, hr, hc⟩ := h
  exact ⟨r, hs hr, hc⟩

namespace Loadable

theorem nil : Loadable recorded pattern [] where
  named := by simp
  distinct := List.nodup_nil
  formulas := by simp
  acyclic := acyclic_false.mono fun s t => by simp [Mentions]

theorem sublist (h : Loadable recorded pattern rs) (hs : rs'.Sublist rs) :
    Loadable recorded pattern rs' where
  named r hr := h.named r (hs.subset hr)
  distinct := h.distinct.sublist (hs.map _)
  formulas r hr := h.formulas r (hs.subset hr)
  acyclic := h.acyclic.mono fun _ _ => Mentions.mono hs.subset

theorem perm (h : Loadable recorded pattern rs) (hp : rs.Perm rs') :
    Loadable recorded pattern rs' where
  named r hr := h.named r (hp.symm.subset hr)
  distinct := (hp.map _).nodup_iff.mp h.distinct
  formulas r hr := h.formulas r (hp.symm.subset hr)
  acyclic := h.acyclic.mono fun _ _ => Mentions.mono hp.symm.subset

theorem nodup_filledCells (h : Loadable recorded pattern rs) : (filledCells rs).Nodup := by
  have hfilled : ((rs.filter (·.contents ≠ "")).map fun r => CellName.parse? r.name).Nodup :=
    h.distinct.sublist (List.filter_sublist.map _)
  have hsome := hfilled.filterMap (f := id) fun x y a hx hy => hx.trans hy.symm
  rwa [List.filterMap_map, Function.id_comp] at hsome

theorem perm_iff (hp : rs.Perm rs') :
    Loadable recorded pattern rs ↔ Loadable recorded pattern rs' :=
  ⟨fun h => h.perm hp, fun h => h.perm hp.symm⟩

end Loadable

end Document

namespace Sheet

open Document (Record Loadable)

variable {sheet next : Sheet} {pattern recorded : NamePattern} {a b s t : CellName} {c : Content}
  {name text : String} {order : List CellName} {l l' : Loading} {r : Record}
  {done rs : List Record}

/-! ## One record -/

theorem address_text (h : sheet.pattern.accepts a = true) : sheet.address a.text = .ok a := by
  rw [address, NamePattern.cell?_text h]

theorem Sound.content?_of_set (h : sheet.Sound) (ha : sheet.address name = .ok a)
    (hset : sheet.set name text = (.ok order, next)) : (∃ c, sheet.classify text = .ok c) ∧
      ∀ b c, next.content? b = some c ↔
        if a = b then text ≠ "" ∧ sheet.classify text = .ok c else sheet.content? b = some c := by
  by_cases ht : text = ""
  · subst text
    obtain ⟨order', -, hclear⟩ := h.clear_eq a
    have hempty : sheet.set name "" = (.ok [], (sheet.remove a).recalculate order') := by
      simp only [Sheet.set, ha, if_true, hclear]
    rw [hempty] at hset
    cases hset
    refine ⟨exists_classify_iff.mpr (by simp), fun b c => ?_⟩
    rw [content?_recalculate, (sheet.exchanges_remove a).content?]
    split <;> simp
  · cases hc : sheet.classify text with
    | error e =>
      simp only [Sheet.set, ha, if_neg ht, hc] at hset
      cases hset
    | ok c =>
      rw [set_eq_put ha ht hc, put_eq h.represents] at hset
      split at hset
      · cases hset
        refine ⟨⟨c, rfl⟩, fun b d => ?_⟩
        rw [content?_recalculate, (sheet.exchanges_store a c).content?]
        split <;> simp [Cell.new, ht]
      · cases hset

theorem Sound.exists_set_eq_ok (h : sheet.Sound) (ha : sheet.address name = .ok a)
    (hc : sheet.classify text = .ok c)
    (hacyclic : text ≠ "" → Acyclic (sheet.MentionsWith a c)) :
    ∃ order next, sheet.set name text = (.ok order, next) := by
  by_cases ht : text = ""
  · obtain ⟨order, -, hclear⟩ := h.clear_eq a
    exact ⟨_, _, by simp only [Sheet.set, ha, if_pos ht, hclear]; rfl⟩
  · have hrefs := references_store_eq (a := a) h.typed ⟨text, ht, hc⟩
    obtain ⟨order, hput⟩ := h.put_eq_ok (hrefs ▸ hacyclic ht)
    exact ⟨_, _, (set_eq_put ha ht hc).trans hput⟩

namespace Loading

theorem enter_eq_ok_iff : l.enter recorded r = .ok l' ↔
    ∃ a, CellName.parse? r.name = some a ∧ recorded.accepts a = true ∧
      l.sheet.pattern.accepts a = true ∧ a ∉ l.seen ∧
      ∃ order, l.sheet.set a.text r.contents = (.ok order, l'.sheet) ∧ l'.seen = l.seen.insert a := by
  have hcell {a : CellName} : recordedCell? recorded l.sheet.pattern r.name = some a ↔
      CellName.parse? r.name = some a ∧ recorded.accepts a = true ∧
        l.sheet.pattern.accepts a = true := by
    rw [recordedCell?, Option.filter_eq_some_iff, NamePattern.cell?_eq_some_iff, and_assoc]
  unfold enter
  constructor
  · intro h
    split at h
    · cases h
    · rename_i a ha
      obtain ⟨hparse, hrecorded, hpattern⟩ := hcell.mp ha
      split at h
      · cases h
      · rename_i hseen
        split at h
        · cases h
        · rename_i order next hset
          cases h
          rw [Std.ExtTreeSet.contains_iff_mem] at hseen
          exact ⟨a, hparse, hrecorded, hpattern, hseen, order, hset, rfl⟩
  · rintro ⟨a, hparse, hrecorded, hpattern, hseen, order, hset, hinsert⟩
    obtain ⟨next, seen⟩ := l'
    obtain rfl : seen = l.seen.insert a := hinsert
    rw [hcell.mpr ⟨hparse, hrecorded, hpattern⟩]
    simp only [hset]
    rw [if_neg (by rwa [Std.ExtTreeSet.contains_iff_mem])]

/-- What is known of a sheet being loaded once the given records are entered. -/
structure Entered (pattern : NamePattern) (done : List Record) (l : Loading) : Prop where
  sound : l.Sound pattern
  content? : ∀ a c, l.sheet.content? a = some c ↔ ∃ r ∈ done, r.Stores pattern a c
  seen : ∀ a, a ∈ l.seen ↔ ∃ r ∈ done, CellName.parse? r.name = some a

theorem entered_start (pattern : NamePattern) : Entered pattern [] ⟨.empty pattern, ∅⟩ where
  sound := ⟨sound_empty pattern, rfl⟩
  content? a c := by simp [Sheet.content?, Sheet.empty]
  seen a := by simp

namespace Entered

theorem classify_eq (h : l.Entered pattern done) :
    l.sheet.classify = (Sheet.empty pattern).classify := classify_congr h.sound.2

theorem mentions_iff (h : l.Entered pattern done) :
    l.sheet.Mentions s t ↔ Document.Mentions pattern done s t := by
  rw [Sheet.mentions_iff]
  constructor
  · rintro ⟨c, hcontent, hc⟩
    obtain ⟨r, hr, hs⟩ := (h.content? t c).mp hcontent
    exact ⟨r, hr, c, hs, hc⟩
  · rintro ⟨r, hr, c, hs, hc⟩
    exact ⟨c, (h.content? t c).mpr ⟨r, hr, hs⟩, hc⟩

theorem acyclic (h : l.Entered pattern done) : Acyclic (Document.Mentions pattern done) :=
  h.sound.1.acyclic_mentions.mono fun _ _ => h.mentions_iff.mpr

theorem enter (h : l.Entered pattern done) (he : l.enter recorded r = .ok l') :
    l'.Entered pattern (r :: done) := by
  obtain ⟨a, hparse, -, hpattern, hnew, order, hset, hseen⟩ := enter_eq_ok_iff.mp he
  obtain ⟨-, hcontent⟩ := h.sound.1.content?_of_set (address_text hpattern) hset
  refine ⟨sound_enter h.sound he, fun b c => ?_, fun b => ?_⟩
  · rw [hcontent, List.exists_mem_cons_iff, h.classify_eq]
    split
    · subst b
      have hold : ¬ ∃ r ∈ done, r.Stores pattern a c := fun ⟨r, hr, hs⟩ =>
        hnew ((h.seen a).mpr ⟨r, hr, hs.cell⟩)
      rw [or_iff_left hold]
      exact ⟨fun ⟨hne, hc⟩ => ⟨hparse, hne, hc⟩, fun hs => ⟨hs.nonempty, hs.content⟩⟩
    · rename_i hab
      have hother : ¬ r.Stores pattern b c := fun hs =>
        hab (Option.some.inj (hparse.symm.trans hs.cell))
      rw [or_iff_right hother, h.content?]
  · rw [hseen, mem_cellSet_insert, List.exists_mem_cons_iff, h.seen, hparse, Option.some.injEq]

/-- A record can be entered exactly when the records are still loadable with it. -/
theorem exists_enter_iff (h : l.Entered pattern done) (hdone : Loadable recorded pattern done) :
    (∃ l', l.enter recorded r = .ok l') ↔ Loadable recorded pattern (r :: done) := by
  have hfresh {a : CellName} (hparse : CellName.parse? r.name = some a) :
      CellName.parse? r.name ∉ (done.map fun r => CellName.parse? r.name) ↔ a ∉ l.seen := by
    rw [hparse, List.mem_map, h.seen]
  have hformula : (∃ c, l.sheet.classify r.contents = .ok c) ↔ ∀ cs, r.contents.toList = '=' :: cs →
      ∃ f, Formula.parse (Sheet.empty pattern).variableRules (String.ofList cs) = .ok f := by
    rw [h.classify_eq]
    exact exists_classify_iff
  constructor
  · rintro ⟨l', he⟩
    obtain ⟨a, hparse, hrecorded, hpattern, hnew, order, hset, -⟩ := enter_eq_ok_iff.mp he
    obtain ⟨hclassify, -⟩ := h.sound.1.content?_of_set (address_text hpattern) hset
    rw [h.sound.2] at hpattern
    exact
      { named := List.forall_mem_cons.mpr ⟨⟨a, hparse, hrecorded, hpattern⟩, hdone.named⟩
        distinct := List.nodup_cons.mpr ⟨(hfresh hparse).mpr hnew, hdone.distinct⟩
        formulas := List.forall_mem_cons.mpr ⟨hformula.mp hclassify, hdone.formulas⟩
        acyclic := (h.enter he).acyclic }
  · intro hall
    obtain ⟨a, hparse, hrecorded, hpattern⟩ := hall.named r List.mem_cons_self
    have hnew := (hfresh hparse).mp (List.nodup_cons.mp hall.distinct).1
    obtain ⟨c, hc⟩ := hformula.mpr (hall.formulas r List.mem_cons_self)
    rw [← h.sound.2] at hpattern
    -- The references with this record are some of those of all records.
    have hacyclic (hne : r.contents ≠ "") : Acyclic (l.sheet.MentionsWith a c) := by
      refine hall.acyclic.mono fun s t hst => ?_
      unfold MentionsWith at hst
      split at hst
      · subst t
        exact ⟨r, List.mem_cons_self, c, ⟨hparse, hne, h.classify_eq ▸ hc⟩, hst⟩
      · exact Document.Mentions.mono (List.subset_cons_self _ _) (h.mentions_iff.mp hst)
    obtain ⟨order, next, hset⟩ :=
      h.sound.1.exists_set_eq_ok (address_text hpattern) hc hacyclic
    exact ⟨⟨next, _⟩, enter_eq_ok_iff.mpr
      ⟨a, hparse, hrecorded, hpattern, hnew, order, hset, rfl⟩⟩

/-! ## All records -/

theorem foldlM (h : l.Entered pattern done) (he : rs.foldlM (Loading.enter recorded) l = .ok l') :
    l'.Entered pattern (rs.reverse ++ done) := by
  induction rs generalizing l done with
  | nil =>
    cases he
    exact h
  | cons r rs ih =>
    rw [List.foldlM_cons, Except.bind_eq_ok_iff] at he
    obtain ⟨m, hm, he⟩ := he
    simpa using ih (h.enter hm) he

theorem exists_foldlM_iff (h : l.Entered pattern done) (hdone : Loadable recorded pattern done) :
    (∃ l', rs.foldlM (Loading.enter recorded) l = .ok l') ↔
      Loadable recorded pattern (rs.reverse ++ done) := by
  induction rs generalizing l done with
  | nil => exact iff_of_true ⟨l, rfl⟩ hdone
  | cons r rs ih =>
    have hcons : (r :: rs).reverse ++ done = rs.reverse ++ (r :: done) := by simp
    rw [hcons]
    by_cases hr : Loadable recorded pattern (r :: done)
    · obtain ⟨m, hm⟩ := (h.exists_enter_iff hdone).mpr hr
      rw [List.foldlM_cons, hm, Except.ok_bind]
      exact ih (h.enter hm) hr
    · refine iff_of_false ?_ fun hall => hr (hall.sublist (List.sublist_append_right _ _))
      rintro ⟨l', he⟩
      rw [List.foldlM_cons, Except.bind_eq_ok_iff] at he
      obtain ⟨m, hm, -⟩ := he
      exact hr ((h.exists_enter_iff hdone).mp ⟨m, hm⟩)

end Entered

end Loading

/-! ## Documents -/

variable {d : Document} {bytes : List UInt8} {sheet' : Sheet} {rs' : List Record}

theorem exists_ofDocument_iff : (∃ sheet, ofDocument d pattern = .ok sheet) ↔
    ∃ recorded, NamePattern.ofSource? d.pattern = .ok recorded ∧
      Loadable recorded pattern d.records := by
  have hrecords (recorded : NamePattern) :
      (∃ l, d.records.foldlM (Loading.enter recorded) ⟨.empty pattern, ∅⟩ = .ok l) ↔
        Loadable recorded pattern d.records := by
    rw [(Loading.entered_start pattern).exists_foldlM_iff .nil, List.append_nil]
    exact Document.Loadable.perm_iff (List.reverse_perm _)
  unfold ofDocument
  split
  · rename_i e he
    simp [he]
  · rename_i recorded hrecorded
    simp [hrecorded, ← hrecords, Except.bind_eq_ok_iff]

/-- The sheet holds what the records store, one cell for each record with contents and no other, all
computed from the numbers in it, under the pattern and without unsaved changes. -/
structure Holds (sheet : Sheet) (pattern : NamePattern) (rs : List Record) : Prop where
  pattern_eq : sheet.pattern = pattern
  changed_eq : sheet.changed = false
  names : sheet.names.Perm (Document.filledCells rs)
  content? : ∀ a c, sheet.content? a = some c ↔ ∃ r ∈ rs, r.Stores pattern a c
  consistent : sheet.Consistent
  lookup : ∀ v x, sheet.lookup v = some x ↔
    ∃ (b : CellName) (c : Content), b.text = v ∧ sheet.cells[b]? = some ⟨c, .number x⟩

theorem mem_names_iff : a ∈ sheet.names ↔ ∃ c, sheet.content? a = some c := by
  rw [Sheet.names, Std.ExtTreeMap.mem_keys, Std.ExtTreeMap.mem_iff_isSome_getElem?,
    Option.isSome_iff_exists]
  simp [Sheet.content?]

theorem names_perm (hrs : Loadable recorded pattern rs)
    (hc : ∀ a c, sheet.content? a = some c ↔ ∃ r ∈ rs, r.Stores pattern a c) :
    sheet.names.Perm (Document.filledCells rs) := by
  have hnodup : sheet.names.Nodup := Std.ExtTreeMap.nodup_keys
  refine (List.perm_ext_iff_of_nodup hnodup hrs.nodup_filledCells).mpr fun a => ?_
  rw [mem_names_iff]
  simp only [hc, Document.filledCells, List.mem_filterMap, List.mem_filter, decide_eq_true_eq]
  constructor
  · rintro ⟨c, r, hr, hs⟩
    exact ⟨r, ⟨hr, hs.nonempty⟩, hs.cell⟩
  · rintro ⟨r, ⟨hr, hne⟩, ha⟩
    obtain ⟨c, hclassify⟩ := exists_classify_iff.mpr (hrs.formulas r hr)
    exact ⟨c, r, hr, ha, hne, hclassify⟩

theorem holds_of_ofDocument (h : ofDocument d pattern = .ok sheet) :
    sheet.Holds pattern d.records := by
  obtain ⟨recorded, hrecorded, hloadable⟩ := exists_ofDocument_iff.mp ⟨sheet, h⟩
  simp only [ofDocument, hrecorded, Except.bind_eq_ok_iff] at h
  obtain ⟨l, hl, h⟩ := h
  cases h
  have hentered := (Loading.entered_start pattern).foldlM hl
  have hcontent (a : CellName) (c : Content) : l.sheet.markSaved.content? a = some c ↔
      ∃ r ∈ d.records, r.Stores pattern a c := by
    refine (hentered.content? a c).trans ?_
    simp
  exact
    { pattern_eq := hentered.sound.2
      changed_eq := rfl
      names := names_perm hloadable hcontent
      content? := hcontent
      consistent := hentered.sound.1.markSaved.consistent
      lookup := fun _ _ => lookup_eq_some_iff }

theorem Holds.unique (h : sheet.Holds pattern rs) (h' : sheet'.Holds pattern rs')
    (hs : sheet.Sound) (hs' : sheet'.Sound) (hp : rs.Perm rs') : sheet = sheet' := by
  refine hs.ext hs' (h.pattern_eq.trans h'.pattern_eq.symm) (h.changed_eq.trans h'.changed_eq.symm)
    fun a => Option.ext fun c => ?_
  rw [h.content?, h'.content?]
  exact exists_congr fun r => and_congr_left' hp.mem_iff

/-- Documents whose records differ in their order are loaded as the same sheet. -/
theorem ofDocument_eq_ok_of_perm {d' : Document} (hpattern : d.pattern = d'.pattern)
    (hp : d.records.Perm d'.records) (h : ofDocument d pattern = .ok sheet) :
    ofDocument d' pattern = .ok sheet := by
  obtain ⟨recorded, hrecorded, hloadable⟩ := exists_ofDocument_iff.mp ⟨sheet, h⟩
  obtain ⟨sheet', h'⟩ := exists_ofDocument_iff.mpr
    ⟨recorded, hpattern ▸ hrecorded, hloadable.perm hp⟩
  rw [h', (holds_of_ofDocument h).unique (holds_of_ofDocument h') (sound_of_ofDocument h).1
    (sound_of_ofDocument h').1 hp]

theorem load_eq_ofDocument (hd : Document.ofBytes bytes = .ok d) :
    load bytes pattern = ofDocument d pattern := by
  rw [load, hd]

/-- Bytes are loaded exactly when they hold a document whose own pattern can be read and whose records
are loadable. The sheet holds what the records store, whatever their order, and every failure is
told as that of an invalid file. -/
theorem exists_load_iff (bytes : List UInt8) (pattern : NamePattern) :
    ((∃ sheet, load bytes pattern = .ok sheet) ↔
      ∃ d recorded, Document.ofBytes bytes = .ok d ∧
        NamePattern.ofSource? d.pattern = .ok recorded ∧ Loadable recorded pattern d.records) ∧
    (∀ d sheet, Document.ofBytes bytes = .ok d → load bytes pattern = .ok sheet →
      sheet.Holds pattern d.records) ∧
    (∀ bytes' d d', Document.ofBytes bytes = .ok d → Document.ofBytes bytes' = .ok d' →
      d.pattern = d'.pattern → d.records.Perm d'.records →
      ∀ sheet, load bytes pattern = .ok sheet ↔ load bytes' pattern = .ok sheet) ∧
    ∀ e, load bytes pattern = .error e →
      ∃ reason, e.message = "Invalid spreadsheet file: " ++ reason := by
  refine ⟨?_, ?_, ?_, fun e _ => ⟨_, rfl⟩⟩
  · cases hd : Document.ofBytes bytes with
    | error e => simp [load, hd]
    | ok d =>
      rw [load_eq_ofDocument hd, exists_ofDocument_iff]
      simp
  · intro d sheet hd hload
    rw [load_eq_ofDocument hd] at hload
    exact holds_of_ofDocument hload
  · intro bytes' d d' hd hd' hpattern hp sheet
    rw [load_eq_ofDocument hd, load_eq_ofDocument hd']
    exact ⟨ofDocument_eq_ok_of_perm hpattern hp, ofDocument_eq_ok_of_perm hpattern.symm hp.symm⟩

/-- A formula in front of the cell that it mentions, and a record without contents. -/
def unordered : Document :=
  ⟨"", [⟨"b1", "=A1+A1"⟩, ⟨"C1", ""⟩, ⟨"A1", "<x>"⟩]⟩

def turned : Document := ⟨unordered.pattern, unordered.records.reverse⟩

theorem exists_load_iff_unordered : ∃ sheet : Sheet,
    load unordered.render.toUTF8.data.toList .any = .ok sheet ∧
    (∃ recorded, NamePattern.ofSource? unordered.pattern = .ok recorded ∧
      Loadable recorded .any unordered.records) ∧
    sheet.Holds .any unordered.records ∧ load turned.render.toUTF8.data.toList .any = .ok sheet := by
  have hd := Document.ofBytes_render unordered
  have hok : (ofDocument unordered .any).toBool = true := by cbv
  obtain ⟨hiff, hholds, hperm, -⟩ := exists_load_iff unordered.render.toUTF8.data.toList .any
  cases hload : ofDocument unordered .any with
  | error e => simp [hload, Except.toBool] at hok
  | ok sheet =>
    rw [← load_eq_ofDocument hd] at hload
    obtain ⟨d, recorded, hd', hloadable⟩ := hiff.mp ⟨sheet, hload⟩
    cases hd.symm.trans hd'
    refine ⟨sheet, hload, ⟨recorded, hloadable⟩, hholds _ _ hd hload, ?_⟩
    exact (hperm _ _ _ hd (Document.ofBytes_render turned) rfl (List.reverse_perm _).symm sheet).mp
      hload

end Sheet

end Spreadsheet
