import Spreadsheet.FileSystem
import Spreadsheet.Proofs.Except

/-! # Faithful files

Files are faithful when reading changes nothing and what was written to a path is read from it. The
file system in memory is, whatever files are in it: only a place that is no directory is written, so
every directory on the way to the place is still one afterwards.
-/

namespace Spreadsheet

/-! ## Files behind a state -/

section

variable {σ α β : Type}

theorem bind_apply (x : StateM σ α) (g : α → StateM σ β) (s : σ) :
    (x >>= g) s = g (x s).1 (x s).2 := rfl

theorem pure_apply (a : α) (s : σ) : (pure a : StateM σ α) s = (a, s) := rfl

end

/-- Reading changes nothing, and what was written to a path is read from it. -/
structure Files.Faithful {σ : Type} (files : Files (StateM σ)) : Prop where
  read_snd (path : String) (s : σ) : (files.read path s).2 = s
  read_of_write {path : String} {bytes : List UInt8} {s s' : σ} :
    files.write path bytes s = (.ok (), s') → (files.read path s').1 = .ok bytes

namespace FileSystem

variable {fs : FileSystem} {p q r : Place} {name path : String} {bytes : List UInt8}

/-! ## Names and keys -/

def Place.IsNamed (place : Place) : Prop := ∀ name ∈ place, '/' ∉ name.toList

theorem notMem_of_mem_splitOn {α : Type} [BEq α] [LawfulBEq α] {a : α} {xs l : List α}
    (hl : l ∈ xs.splitOn a) : a ∉ l := by
  induction xs generalizing l with
  | nil =>
    rw [List.splitOn_nil, List.mem_singleton] at hl
    exact hl ▸ List.not_mem_nil
  | cons x xs ih =>
    obtain ⟨first, rest, hsplit⟩ := List.exists_cons_of_ne_nil (List.splitOn_ne_nil a xs)
    rw [List.splitOn_cons_eq_if_modifyHead, hsplit] at hl
    rw [hsplit] at ih
    by_cases hx : x = a
    · rw [if_pos (beq_iff_eq.mpr hx)] at hl
      rcases List.mem_cons.mp hl with rfl | hl
      · exact List.not_mem_nil
      · exact ih hl
    · rw [if_neg (by simpa using hx), List.modifyHead_cons] at hl
      rcases List.mem_cons.mp hl with rfl | hl
      · exact List.not_mem_cons_of_ne_of_not_mem (Ne.symm hx) (ih List.mem_cons_self)
      · exact ih (List.mem_cons_of_mem _ hl)

theorem isNamed_names (path : String) : Place.IsNamed (names path) := by
  intro name hname
  obtain ⟨cs, hcs, rfl⟩ := List.mem_map.mp hname
  rw [String.toList_ofList]
  exact notMem_of_mem_splitOn hcs

theorem names_key (h : p.IsNamed) (hne : p ≠ []) : names p.key = p := by
  have hsplit : p.key.toList.splitOn '/' = p.map String.toList := by
    rw [Place.key, String.toList_intercalate]
    refine List.splitOn_intercalate '/' ?_ (by simpa using hne)
    intro cs hcs
    obtain ⟨name, hname, rfl⟩ := List.mem_map.mp hcs
    exact h name hname
  simp [names, hsplit, Function.comp_def]

/-- Two places share a key only where one is the directory of the run and the other the top. -/
theorem Place.eq_or_isAbove (hp : p.IsNamed) (hq : q.IsNamed) (h : q.key = p.key) :
    q = p ∨ p.isAbove := by
  by_cases hp' : p = []
  · exact .inr (hp' ▸ rfl)
  by_cases hq' : q = []
  · have htop : p = [""] := by
      rw [← names_key hp hp', ← h, hq']
      rfl
    exact .inr (htop ▸ rfl)
  · exact .inl (by rw [← names_key hq hq', h, names_key hp hp'])

/-! ## Writing a place -/

theorem entry_eq_directory_iff : fs.entry p = .directory ↔
    fs.files[p.key]? = none ∧ (p.isAbove = true ∨ fs.hasFileBelow p = true) := by
  unfold entry
  cases fs.files[p.key]? with
  | some bytes => simp
  | none => simp [or_iff_not_imp_left]

theorem entry_put_self : (fs.put p bytes).entry p = .file bytes := by
  simp [entry, put]

theorem hasFileBelow_put (h : fs.hasFileBelow q = true) : (fs.put p bytes).hasFileBelow q = true := by
  obtain ⟨key, hkey, hbelow⟩ := List.any_eq_true.mp h
  refine List.any_eq_true.mpr ⟨key, ?_, hbelow⟩
  rw [Std.ExtTreeMap.mem_keys] at hkey ⊢
  exact Std.ExtTreeMap.mem_insert.mpr (.inr hkey)

theorem entry_put_of_directory (hp : p.IsNamed) (hq : q.IsNamed) (hfile : fs.entry p ≠ .directory)
    (hdirectory : fs.entry q = .directory) : (fs.put p bytes).entry q = .directory := by
  obtain ⟨hnone, hbelow⟩ := entry_eq_directory_iff.mp hdirectory
  have hkey : p.key ≠ q.key := by
    intro hkey
    rcases Place.eq_or_isAbove hp hq hkey.symm with rfl | habove
    · exact hfile hdirectory
    · exact hfile (entry_eq_directory_iff.mpr ⟨hkey ▸ hnone, .inl habove⟩)
  refine entry_eq_directory_iff.mpr ⟨?_, hbelow.imp_right hasFileBelow_put⟩
  simp [put, Std.ExtTreeMap.getElem?_insert, hkey, hnone]

/-! ## Walking to a place -/

theorem Place.IsNamed.append (h : p.IsNamed) (hname : '/' ∉ name.toList) :
    Place.IsNamed (p ++ [name]) := by
  intro n hn
  rcases List.mem_append.mp hn with hn | hn
  · exact h n hn
  · exact List.mem_singleton.mp hn ▸ hname

theorem Place.IsNamed.parent (h : p.IsNamed) : p.parent.IsNamed := by
  unfold Place.parent
  split
  · exact h.append (by decide)
  · exact h.append (by decide)
  · exact h
  · exact fun n hn => h n (List.mem_of_mem_dropLast hn)

theorem entry_of_step (h : fs.step p name = .ok q) : fs.entry p = .directory := by
  unfold step at h
  cases hentry : fs.entry p with
  | directory => rfl
  | absent => simp [hentry] at h
  | file bytes => simp [hentry] at h

theorem isNamed_of_step (hp : p.IsNamed) (hname : '/' ∉ name.toList)
    (h : fs.step p name = .ok q) : q.IsNamed := by
  rw [step, entry_of_step h] at h
  simp only at h
  split_ifs at h
  · exact Except.ok.inj h ▸ hp
  · exact Except.ok.inj h ▸ hp.parent
  · exact Except.ok.inj h ▸ hp.append hname

theorem step_put (hr : r.IsNamed) (hfile : fs.entry r ≠ .directory) (hp : p.IsNamed)
    (h : fs.step p name = .ok q) : (fs.put r bytes).step p name = .ok q := by
  have hdirectory := entry_of_step h
  rw [step, entry_put_of_directory hr hp hfile hdirectory]
  rwa [step, hdirectory] at h

theorem isNamed_of_foldlM {names : List String} (hp : p.IsNamed) (hnames : Place.IsNamed names)
    (h : names.foldlM fs.step p = .ok q) : q.IsNamed := by
  induction names generalizing p with
  | nil => exact Except.ok.inj h ▸ hp
  | cons name names ih =>
    obtain ⟨hname, hnames⟩ := List.forall_mem_cons.mp hnames
    rw [List.foldlM_cons] at h
    obtain ⟨next, hstep, hrest⟩ := Except.bind_eq_ok_iff.mp h
    exact ih (isNamed_of_step hp hname hstep) hnames hrest

theorem foldlM_put {names : List String} (hr : r.IsNamed) (hfile : fs.entry r ≠ .directory)
    (hp : p.IsNamed) (hnames : Place.IsNamed names) (h : names.foldlM fs.step p = .ok q) :
    names.foldlM (fs.put r bytes).step p = .ok q := by
  induction names generalizing p with
  | nil => exact h
  | cons name names ih =>
    obtain ⟨hname, hnames⟩ := List.forall_mem_cons.mp hnames
    rw [List.foldlM_cons] at h ⊢
    obtain ⟨next, hstep, hrest⟩ := Except.bind_eq_ok_iff.mp h
    rw [step_put hr hfile hp hstep]
    exact ih (isNamed_of_step hp hname hstep) hnames hrest

theorem isNamed_steps (path : String) : (steps path).1.IsNamed ∧ Place.IsNamed (steps path).2 := by
  unfold steps
  split
  · exact ⟨by simp [Place.IsNamed], isNamed_names path⟩
  · exact ⟨List.forall_mem_nil _, isNamed_names path⟩

theorem resolve_eq_ok_iff : fs.resolve path = .ok p ↔ path ≠ "" ∧ path.utf8ByteSize ≤ maxPath ∧
    (steps path).2.foldlM fs.step (steps path).1 = .ok p := by
  unfold resolve
  by_cases hempty : path = ""
  · simp [hempty]
  by_cases hlong : maxPath < path.utf8ByteSize
  · simp [hempty, hlong]
  · simp [hempty, hlong, Nat.le_of_not_lt hlong]

theorem isNamed_of_resolve (h : fs.resolve path = .ok p) : p.IsNamed := by
  obtain ⟨-, -, hwalk⟩ := resolve_eq_ok_iff.mp h
  obtain ⟨hstart, hnames⟩ := isNamed_steps path
  exact isNamed_of_foldlM hstart hnames hwalk

/-- The way to a place is the same after the place is written. -/
theorem resolve_put (h : fs.resolve path = .ok p) (hfile : fs.entry p ≠ .directory) :
    (fs.put p bytes).resolve path = .ok p := by
  obtain ⟨hempty, hlong, hwalk⟩ := resolve_eq_ok_iff.mp h
  obtain ⟨hstart, hnames⟩ := isNamed_steps path
  exact resolve_eq_ok_iff.mpr
    ⟨hempty, hlong, foldlM_put (isNamed_of_resolve h) hfile hstart hnames hwalk⟩

/-! ## Whole files -/

theorem withoutSlashes_eq_self (h : path.endsWith "/" = false) : withoutSlashes path = path := by
  have hlast : path.toList.rdropWhile (· == '/') = path.toList := by
    rw [List.rdropWhile_eq_self_iff]
    intro hne hslash
    have hsuffix : "/".toList <:+ path.toList :=
      ⟨path.toList.dropLast, by rw [← List.dropLast_append_getLast hne, beq_iff_eq.mp hslash]; simp⟩
    rw [String.endsWith, String.Slice.endsWith_string_eq_false_iff, String.copy_toSlice] at h
    exact h hsuffix
  rw [List.rdropWhile] at hlast
  rw [withoutSlashes, hlast, String.ofList_toList]

theorem write_eq_ok_iff {fs' : FileSystem} : fs.write path bytes = .ok fs' ↔
    path.endsWith "/" = false ∧ ∃ p, fs.resolve path = .ok p ∧ fs.entry p ≠ .directory ∧
      fs' = fs.put p bytes := by
  cases hslash : path.endsWith "/" with
  | true => simp [write, hslash, Except.bind_eq_ok_iff]
  | false =>
    have hpath : (if withoutSlashes path = "" then path else withoutSlashes path) = path := by
      rw [withoutSlashes_eq_self hslash, ite_self]
    simp only [write, hpath, hslash, Except.bind_eq_ok_iff, Bool.false_eq_true, if_false, true_and]
    refine exists_congr fun p => and_congr_right fun _ => ?_
    cases hentry : fs.entry p <;> simp [eq_comm]

theorem read_of_write {fs' : FileSystem} (h : fs.write path bytes = .ok fs') :
    fs'.read path = .ok bytes := by
  obtain ⟨-, p, hresolve, hfile, rfl⟩ := write_eq_ok_iff.mp h
  rw [read, resolve_put hresolve hfile, Except.ok_bind, entry_put_self]

theorem access_faithful : access.Faithful where
  read_snd path fs := rfl
  read_of_write {path bytes fs fs'} h := by
    simp only [access] at h
    cases hwrite : fs.write path bytes with
    | error e =>
      rw [hwrite] at h
      cases h
    | ok next =>
      rw [hwrite] at h
      cases h
      exact read_of_write hwrite

end FileSystem

end Spreadsheet
