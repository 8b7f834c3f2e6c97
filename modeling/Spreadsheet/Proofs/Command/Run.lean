import Spreadsheet.Command.Run
import Spreadsheet.Proofs.FileSystem
import Spreadsheet.Proofs.Sheet.History

/-! # Runs of the command

A run reads all it needs before it writes anything. Where reading changes nothing, the sheet that it
prepares is therefore a function of the files as they stand, and the rest of the run says what
becomes of this sheet.
-/

namespace Spreadsheet.Command

open Sheet (EditError)

variable {σ : Type} {files : Files (StateM σ)} {config : Option String} {o : Options} {s s' : σ}
  {sheet sheet' : Sheet} {pattern : NamePattern} {f : Failure} {x : Assignment}
  {xs : List Assignment} {path text : String} {exit : UInt32} {e : EditError}

/-! ## The sheet that is prepared -/

theorem findPattern_snd (hread : ∀ path s, (files.read path s).2 = s) :
    (findPattern files config o s).2 = s := by
  unfold findPattern
  cases o.pattern with
  | some source => rfl
  | none =>
    cases o.noConfig with
    | true => rfl
    | false =>
      cases config with
      | none => rfl
      | some path =>
        simp only [bind_apply]
        cases configOfRead path (files.read path s).1 with
        | ok c => exact hread path s
        | error e => exact hread path s

theorem openSheet_snd (hread : ∀ path s, (files.read path s).2 = s) :
    (openSheet files pattern o s).2 = s := by
  unfold openSheet Sheet.openFile
  cases o.file with
  | none => rfl
  | some path => exact hread path s

def prepared (files : Files (StateM σ)) (config : Option String) (o : Options) (s : σ) :
    Except Failure Sheet := do
  let pattern ← (findPattern files config o s).1
  let sheet ← (openSheet files pattern o s).1
  o.assignments.foldlM assign sheet

theorem prepare_eq (hread : ∀ path s, (files.read path s).2 = s) :
    prepare files config o s = (prepared files config o s, s) := by
  rw [prepare, prepared, bind_apply, findPattern_snd hread]
  cases (findPattern files config o s).1 with
  | error f => rfl
  | ok pattern =>
    simp only [bind_apply, openSheet_snd hread, Except.ok_bind]
    cases (openSheet files pattern o s).1 with
    | error f => rfl
    | ok sheet => rfl

theorem prepare_fst (hread : ∀ path s, (files.read path s).2 = s) :
    (prepare files config o s).1 = prepared files config o s := by
  rw [prepare_eq hread]

theorem prepared_append (files : Files (StateM σ)) (config : Option String) (o : Options) (s : σ)
    (xs ys : List Assignment) : prepared files config { o with assignments := xs ++ ys } s =
      prepared files config { o with assignments := xs } s >>= fun sheet =>
        ys.foldlM assign sheet := by
  simp only [prepared, List.foldlM_append, bind_assoc]
  rfl

/-! ## What becomes of it -/

/-- Once the sheet is prepared nothing is read any more, and one file at most is written. -/
theorem runOptions_eq (hread : ∀ path s, (files.read path s).2 = s) :
    runOptions files config o s = match prepared files config o s with
      | .error f => (.failed "" f, s)
      | .ok sheet => match answer sheet o.formula with
        | ⟨text, .error f⟩ => (.failed text f, s)
        | ⟨text, .ok exit⟩ => match o.output with
          | none => (⟨exit, text, ""⟩, s)
          | some path => match files.write path sheet.saveBytes s with
            | (.ok (), s') => (⟨exit, text, ""⟩, s')
            | (.error e, s') => (.failed text (.save path e), s') := by
  rw [runOptions, bind_apply, prepare_eq hread]
  cases prepared files config o s with
  | error f => rfl
  | ok sheet =>
    rcases hanswer : answer sheet o.formula with ⟨text, f | exit⟩
    · simp only [hanswer, pure_apply]
    · cases houtput : o.output with
      | none => simp only [hanswer, pure_apply]
      | some path =>
        simp only [hanswer, Sheet.saveFile, bind_apply]
        rcases files.write path sheet.saveBytes s with ⟨_ | u, s'⟩ <;> rfl

theorem runOptions_of_prepared_error (h : files.Faithful)
    (hprepared : prepared files config o s = .error f) :
    runOptions files config o s = (.failed "" f, s) := by
  rw [runOptions_eq h.read_snd, hprepared]

theorem runOptions_of_answer_error (h : files.Faithful)
    (hprepared : prepared files config o s = .ok sheet)
    (hanswer : answer sheet o.formula = ⟨text, .error f⟩) :
    runOptions files config o s = (.failed text f, s) := by
  simp only [runOptions_eq h.read_snd, hprepared, hanswer]

theorem runOptions_of_output_none (h : files.Faithful)
    (hprepared : prepared files config o s = .ok sheet)
    (hanswer : answer sheet o.formula = ⟨text, .ok exit⟩) (houtput : o.output = none) :
    runOptions files config o s = (⟨exit, text, ""⟩, s) := by
  simp only [runOptions_eq h.read_snd, hprepared, hanswer, houtput]

theorem runOptions_of_output_some (h : files.Faithful)
    (hprepared : prepared files config o s = .ok sheet)
    (hanswer : answer sheet o.formula = ⟨text, .ok exit⟩) (houtput : o.output = some path) :
    runOptions files config o s = match files.write path sheet.saveBytes s with
      | (.ok (), s') => (⟨exit, text, ""⟩, s')
      | (.error e, s') => (.failed text (.save path e), s') := by
  simp only [runOptions_eq h.read_snd, hprepared, hanswer, houtput]

theorem runOptions_of_answer (h : files.Faithful)
    (hprepared : prepared files config o s = .ok sheet)
    (hanswer : answer sheet o.formula = ⟨text, .ok exit⟩)
    (hwrite : ∀ path ∈ o.output, (files.write path sheet.saveBytes s).1 = .ok ()) :
    (runOptions files config o s).1 = ⟨exit, text, ""⟩ ∧ ∀ path ∈ o.output,
      (files.read path (runOptions files config o s).2).1 = .ok sheet.saveBytes := by
  cases houtput : o.output with
  | none =>
    rw [runOptions_of_output_none h hprepared hanswer houtput]
    simp
  | some path =>
    have hwritten : files.write path sheet.saveBytes s =
        (.ok (), (files.write path sheet.saveBytes s).2) := Prod.ext (hwrite path houtput) rfl
    rw [runOptions_of_output_some h hprepared hanswer houtput, hwritten]
    refine ⟨rfl, ?_⟩
    rintro _ ⟨⟩
    exact h.read_of_write hwritten

/-! ## The sheets of a run are sound -/

theorem sound_of_openSheet (hopen : (openSheet files pattern o s).1 = .ok sheet) :
    sheet.Sound ∧ sheet.pattern = pattern := by
  unfold openSheet Sheet.openFile at hopen
  cases hfile : o.file with
  | none =>
    rw [hfile] at hopen
    cases hopen
    exact ⟨Sheet.sound_empty pattern, rfl⟩
  | some path =>
    simp only [hfile, bind_apply, pure_apply] at hopen
    obtain ⟨bytes, hload⟩ := Sheet.exists_load_of_ofRead (Except.mapError_eq_ok_iff.mp hopen)
    exact Sheet.sound_of_load hload

theorem assign_eq_ok_iff : assign sheet x = .ok sheet' ↔
    ∃ order, sheet.set x.cell x.text = (.ok order, sheet') := by
  unfold assign
  rcases sheet.set x.cell x.text with ⟨_ | order, next⟩
  · simp
  · simp

theorem assign_eq_error_iff : assign sheet x = .error f ↔
    ∃ e, (sheet.set x.cell x.text).1 = .error e ∧ f = .assignment x.cell e := by
  unfold assign
  rcases sheet.set x.cell x.text with ⟨_ | order, next⟩
  · simp [eq_comm]
  · simp

/-- The sheet takes the assignments one after the other, each of them is accepted, and the last sheet
is what they lead to. -/
inductive Makes : Sheet → List Assignment → Sheet → Prop
  | nil (sheet : Sheet) : Makes sheet [] sheet
  | cons {sheet next last : Sheet} {x : Assignment} {xs : List Assignment} {order : List CellName}
      (accepted : sheet.set x.cell x.text = (.ok order, next)) (rest : Makes next xs last) :
      Makes sheet (x :: xs) last

theorem makes_iff : Makes sheet xs sheet' ↔ xs.foldlM assign sheet = .ok sheet' := by
  constructor
  · intro h
    induction h with
    | nil sheet => rfl
    | cons accepted _ ih =>
      rw [List.foldlM_cons, assign_eq_ok_iff.mpr ⟨_, accepted⟩, Except.ok_bind, ih]
  · intro h
    induction xs generalizing sheet with
    | nil =>
      cases h
      exact .nil _
    | cons x xs ih =>
      rw [List.foldlM_cons] at h
      obtain ⟨next, hnext, hrest⟩ := Except.bind_eq_ok_iff.mp h
      obtain ⟨order, haccepted⟩ := assign_eq_ok_iff.mp hnext
      exact .cons haccepted (ih hrest)

theorem sound_of_assign (h : sheet.Sound) (hassign : assign sheet x = .ok sheet') :
    sheet'.Sound ∧ sheet'.pattern = sheet.pattern := by
  obtain ⟨order, hset⟩ := assign_eq_ok_iff.mp hassign
  have hsound := h.set x.cell x.text
  have hpattern := sheet.pattern_set x.cell x.text
  rw [hset] at hsound hpattern
  exact ⟨hsound, hpattern⟩

theorem sound_of_foldlM (h : sheet.Sound) (hassign : xs.foldlM assign sheet = .ok sheet') :
    sheet'.Sound ∧ sheet'.pattern = sheet.pattern := by
  induction xs generalizing sheet with
  | nil =>
    cases hassign
    exact ⟨h, rfl⟩
  | cons x xs ih =>
    rw [List.foldlM_cons] at hassign
    obtain ⟨next, hnext, hrest⟩ := Except.bind_eq_ok_iff.mp hassign
    obtain ⟨hsound, hpattern⟩ := sound_of_assign h hnext
    obtain ⟨hsound', hpattern'⟩ := ih hsound hrest
    exact ⟨hsound', hpattern'.trans hpattern⟩

theorem sound_of_prepared (hprepared : prepared files config o s = .ok sheet) :
    sheet.Sound ∧ (findPattern files config o s).1 = .ok sheet.pattern := by
  obtain ⟨pattern, hpattern, hrest⟩ := Except.bind_eq_ok_iff.mp hprepared
  obtain ⟨opened, hopened, hassign⟩ := Except.bind_eq_ok_iff.mp hrest
  obtain ⟨hstart, rfl⟩ := sound_of_openSheet hopened
  obtain ⟨hsound, hsheet⟩ := sound_of_foldlM hstart hassign
  exact ⟨hsound, hsheet ▸ hpattern⟩

/-! ## Answers -/

def lineOf (a : CellName) (cell : Cell) : String :=
  a.text ++ ": " ++ cell.content.display ++ " => " ++ cell.value.display ++ "\n"

/-- The lines of all stored cells, by ascending names. -/
def linesOf (sheet : Sheet) : List String := sheet.cells.toList.map fun p => lineOf p.1 p.2

theorem listLine_eq {a : CellName} {cell : Cell} (haccepts : sheet.pattern.accepts a = true)
    (hcell : sheet.cells[a]? = some cell) : listLine sheet a = .ok (lineOf a cell) := by
  have haddress : sheet.address a.text = .ok a := by
    rw [Sheet.address, NamePattern.cell?_text haccepts]
  have hcontent : sheet.content a.text = .ok cell.content := by
    simp only [Sheet.content, haddress, Except.map, Sheet.contentOf, hcell]
  have hvalue : sheet.value a.text = .ok cell.value := by
    simp only [Sheet.value, haddress, Except.map, Sheet.valueOf, hcell]
  rw [listLine, hcontent, hvalue]
  rfl

theorem names_eq (sheet : Sheet) : sheet.names = sheet.cells.toList.map Prod.fst :=
  Std.ExtTreeMap.map_fst_toList_eq_keys.symm

theorem listLine_of_mem_toList (h : sheet.Typed) :
    ∀ p ∈ sheet.cells.toList, listLine sheet p.1 = .ok (lineOf p.1 p.2) := by
  intro p hp
  have hcell := Std.ExtTreeMap.mem_toList_iff_getElem?_eq_some.mp hp
  exact listLine_eq (h p.1 p.2 hcell).1 hcell

theorem mapM_listLine (h : sheet.Typed) :
    sheet.names.mapM (listLine sheet) = .ok (linesOf sheet) := by
  have hlines := listLine_of_mem_toList h
  rw [names_eq, linesOf]
  generalize sheet.cells.toList = ps at hlines ⊢
  induction ps with
  | nil => rfl
  | cons p ps ih =>
    obtain ⟨hp, hps⟩ := List.forall_mem_cons.mp hlines
    rw [List.map_cons, List.mapM_cons, hp, Except.ok_bind, ih hps]
    rfl

/-- No line of a listing fails, so it is not broken off. -/
theorem listing_names (h : sheet.Typed) :
    listing sheet sheet.names = ⟨String.join (linesOf sheet), .ok 0⟩ := by
  have hlines := listLine_of_mem_toList h
  rw [names_eq, linesOf, listing]
  generalize sheet.cells.toList = ps at hlines ⊢
  induction ps with
  | nil => rfl
  | cons p ps ih =>
    obtain ⟨hp, hps⟩ := List.forall_mem_cons.mp hlines
    rw [List.map_cons, List.foldr_cons, ih hps, hp, List.map_cons, String.join_cons]
    rfl

/-- Only a formula can be refused, a listing cannot, and nothing is printed then. -/
theorem answer_eq_error_iff (h : sheet.Typed) {formula : Option String} :
    answer sheet formula = ⟨text, .error f⟩ ↔ ∃ refused e, formula = some refused ∧
      sheet.evaluate refused = .error e ∧ text = "" ∧ f = .formula e := by
  cases formula with
  | none =>
    rw [answer, listing_names h]
    constructor
    · rintro ⟨⟩
    · rintro ⟨_, _, ⟨⟩, _⟩
  | some refused =>
    cases hevaluate : sheet.evaluate refused with
    | ok v => simp [answer, hevaluate]
    | error e => simp [answer, hevaluate, eq_comm]

/-! ## Refusals -/

/-- Assignments fail where one of them is refused by the sheet that those before it lead to. -/
theorem foldlM_assign_eq_error_iff : xs.foldlM assign sheet = .error f ↔
    ∃ done x rest next e, xs = done ++ x :: rest ∧ done.foldlM assign sheet = .ok next ∧
      (next.set x.cell x.text).1 = .error e ∧ f = .assignment x.cell e := by
  constructor
  · intro h
    induction xs generalizing sheet with
    | nil => cases h
    | cons y ys ih =>
      rw [List.foldlM_cons] at h
      cases hfirst : assign sheet y with
      | error f' =>
        rw [hfirst] at h
        cases h
        obtain ⟨e, hset, rfl⟩ := assign_eq_error_iff.mp hfirst
        exact ⟨[], y, ys, sheet, e, rfl, rfl, hset, rfl⟩
      | ok next =>
        rw [hfirst, Except.ok_bind] at h
        obtain ⟨done, x, rest, last, e, rfl, hdone, hset, rfl⟩ := ih h
        refine ⟨y :: done, x, rest, last, e, rfl, ?_, hset, rfl⟩
        rw [List.foldlM_cons, hfirst]
        exact hdone
  · rintro ⟨done, x, rest, next, e, rfl, hdone, hset, rfl⟩
    rw [List.foldlM_append, hdone, Except.ok_bind, List.foldlM_cons,
      assign_eq_error_iff.mpr ⟨e, hset, rfl⟩]
    rfl

/-- A run makes some of its assignments, and the next one is refused with an error. -/
def RefusesAssignment (files : Files (StateM σ)) (config : Option String) (o : Options) (s : σ)
    (done : List Assignment) (x : Assignment) (e : EditError) : Prop :=
  ∃ sheet rest, o.assignments = done ++ x :: rest ∧
    (prepare files config { o with assignments := done } s).1 = .ok sheet ∧
    (sheet.set x.cell x.text).1 = .error e

def RefusesFormula (files : Files (StateM σ)) (config : Option String) (o : Options) (s : σ)
    (e : EditError) : Prop :=
  ∃ sheet text, o.formula = some text ∧ (prepare files config o s).1 = .ok sheet ∧
    sheet.evaluate text = .error e

variable {done : List Assignment}

section

variable (hread : ∀ path s, (files.read path s).2 = s)

include hread

theorem prepared_of_refusesAssignment (hrefuses : RefusesAssignment files config o s done x e) :
    prepared files config o s = .error (.assignment x.cell e) := by
  obtain ⟨sheet, rest, ho, hdone, hset⟩ := hrefuses
  rw [prepare_fst hread] at hdone
  calc prepared files config o s
      = prepared files config { o with assignments := done ++ x :: rest } s := by rw [← ho]
    _ = (x :: rest).foldlM assign sheet := by rw [prepared_append, hdone, Except.ok_bind]
    _ = .error (.assignment x.cell e) :=
        foldlM_assign_eq_error_iff.mpr ⟨[], x, rest, sheet, e, rfl, rfl, hset, rfl⟩

theorem answer_of_refusesFormula (hrefuses : RefusesFormula files config o s e) :
    ∃ sheet, prepared files config o s = .ok sheet ∧
      answer sheet o.formula = ⟨"", .error (.formula e)⟩ := by
  obtain ⟨sheet, text, hformula, hprepared, hevaluate⟩ := hrefuses
  rw [prepare_fst hread] at hprepared
  exact ⟨sheet, hprepared, by simp only [answer, hformula, hevaluate]⟩

theorem exists_refusesAssignment
    (hopen : prepared files config { o with assignments := [] } s = .ok sheet)
    (hprepared : prepared files config o s = .error f) :
    ∃ done x e, RefusesAssignment files config o s done x e := by
  have hassignments : prepared files config o s = o.assignments.foldlM assign sheet :=
    (prepared_append files config o s [] o.assignments).trans (by rw [hopen, Except.ok_bind])
  rw [hprepared] at hassignments
  obtain ⟨done, x, rest, next, e, ho, hdone, hset, -⟩ :=
    foldlM_assign_eq_error_iff.mp hassignments.symm
  refine ⟨done, x, e, next, rest, ho, ?_, hset⟩
  rw [prepare_fst hread]
  exact (prepared_append files config o s [] done).trans (by rw [hopen, Except.ok_bind, hdone])

theorem exists_refusesFormula (hprepared : prepared files config o s = .ok sheet)
    (hanswer : answer sheet o.formula = ⟨text, .error f⟩) :
    ∃ e, RefusesFormula files config o s e := by
  obtain ⟨refused, e, hformula, hevaluate, -⟩ :=
    (answer_eq_error_iff (sound_of_prepared hprepared).1.typed).mp hanswer
  exact ⟨e, sheet, refused, hformula, (prepare_fst hread).trans hprepared, hevaluate⟩

end

theorem runOptions_of_refusesAssignment (h : files.Faithful)
    (hrefuses : RefusesAssignment files config o s done x e) :
    runOptions files config o s = (.failed "" (.assignment x.cell e), s) :=
  runOptions_of_prepared_error h (prepared_of_refusesAssignment h.read_snd hrefuses)

theorem runOptions_of_refusesFormula (h : files.Faithful)
    (hrefuses : RefusesFormula files config o s e) :
    runOptions files config o s = (.failed "" (.formula e), s) := by
  obtain ⟨sheet, hprepared, hanswer⟩ := answer_of_refusesFormula h.read_snd hrefuses
  exact runOptions_of_answer_error h hprepared hanswer

/-- A run that opens its sheet is refused at an assignment or at its formula, or it gets to its
answer. -/
theorem refuses_or_answers (h : files.Faithful)
    (hopen : prepared files config { o with assignments := [] } s = .ok sheet) :
    (∃ done x e, RefusesAssignment files config o s done x e) ∨
      (∃ e, RefusesFormula files config o s e) ∨
      ∃ sheet text exit, prepared files config o s = .ok sheet ∧
        answer sheet o.formula = ⟨text, .ok exit⟩ := by
  cases hprepared : prepared files config o s with
  | error f => exact .inl (exists_refusesAssignment h.read_snd hopen hprepared)
  | ok last =>
    rcases hanswer : answer last o.formula with ⟨text, f | exit⟩
    · exact .inr (.inl (exists_refusesFormula h.read_snd hprepared hanswer))
    · exact .inr (.inr ⟨last, text, exit, rfl, hanswer⟩)

end Spreadsheet.Command
