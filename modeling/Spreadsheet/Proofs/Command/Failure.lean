import Spreadsheet.Proofs.Command.Run

/-! # All or nothing

All that can be refused is refused before anything is printed or written. A run that gets past that
prints all of its answer, and then writes at most the one file it is asked to write.
-/

namespace Spreadsheet.Command

open Sheet (EditError)

variable {σ : Type} {files : Files (StateM σ)} {config : Option String} {o : Options} {s : σ}
  {sheet opened : Sheet} {pattern : NamePattern} {f : Failure} {text : String} {exit : UInt32}

/-- A pattern is asked for by option, or else by the configuration if there is one. -/
inductive Asks (files : Files (StateM σ)) (config : Option String) (o : Options) (s : σ) :
    Option String → Prop
  | option {source : String} (given : o.pattern = some source) : Asks files config o s (some source)
  | config {path : String} {c : Config} (missing : o.pattern = none) (wanted : o.noConfig = false)
      (place : config = some path) (reads : configOfRead path (files.read path s).1 = .ok c) :
      Asks files config o s c.pattern
  | nowhere (missing : o.pattern = none) (skipped : o.noConfig = true ∨ config = none) :
      Asks files config o s none

inductive Finds (files : Files (StateM σ)) (config : Option String) (o : Options) (s : σ) :
    NamePattern → Prop
  | any (asks : Asks files config o s none) : Finds files config o s .any
  | source {source : String} {pattern : NamePattern} (asks : Asks files config o s (some source))
      (reads : NamePattern.ofSource? source = .ok pattern) : Finds files config o s pattern

inductive Opens (files : Files (StateM σ)) (o : Options) (s : σ) (pattern : NamePattern) :
    Sheet → Prop
  | new (missing : o.file = none) : Opens files o s pattern (.empty pattern)
  | file {path : String} {bytes : List UInt8} {sheet : Sheet} (given : o.file = some path)
      (reads : (files.read path s).1 = .ok bytes) (loads : Sheet.load bytes pattern = .ok sheet) :
      Opens files o s pattern sheet

/-- The pattern cannot be found, the sheet cannot be opened, or an assignment or the formula is
refused. -/
inductive Fails (files : Files (StateM σ)) (config : Option String) (o : Options) (s : σ) : Prop
  | config {path : String} {e : ConfigError} (missing : o.pattern = none)
      (wanted : o.noConfig = false) (place : config = some path)
      (fails : configOfRead path (files.read path s).1 = .error e)
  | pattern {source : String} {e : Pattern.Error} (asks : Asks files config o s (some source))
      (fails : NamePattern.ofSource? source = .error e)
  | read {pattern : NamePattern} {path : String} {e : FileError}
      (finds : Finds files config o s pattern) (given : o.file = some path)
      (fails : (files.read path s).1 = .error e)
  | load {pattern : NamePattern} {path : String} {bytes : List UInt8} {e : Sheet.LoadError}
      (finds : Finds files config o s pattern) (given : o.file = some path)
      (reads : (files.read path s).1 = .ok bytes) (fails : Sheet.load bytes pattern = .error e)
  | assignment {pattern : NamePattern} {opened next : Sheet} {done rest : List Assignment}
      {x : Assignment} {e : EditError} (finds : Finds files config o s pattern)
      (opens : Opens files o s pattern opened) (assignments : o.assignments = done ++ x :: rest)
      (makes : Makes opened done next) (refused : (next.set x.cell x.text).1 = .error e)
  | formula {pattern : NamePattern} {opened sheet : Sheet} {text : String} {e : EditError}
      (finds : Finds files config o s pattern) (opens : Opens files o s pattern opened)
      (makes : Makes opened o.assignments sheet) (formula : o.formula = some text)
      (refused : sheet.evaluate text = .error e)

/-- What the answer prints: the formula's value, or a line for every cell that is stored. -/
def Prints (sheet : Sheet) (formula : Option String) (text : String) : Prop :=
  match formula with
  | some formula => ∃ v, sheet.evaluate formula = .ok v ∧ text = v.display ++ "\n"
  | none => sheet.names.mapM (listLine sheet) = .ok (linesOf sheet) ∧
      text = String.join (linesOf sheet)

def IsErrorValue (sheet : Sheet) (formula : Option String) : Prop :=
  ∃ text ∈ formula, ∃ e, sheet.evaluate text = .ok (.error e)

def written (files : Files (StateM σ)) (output : Option String) (sheet : Sheet) (s : σ) :
    Except FileError Unit × σ :=
  match output with
  | some path => files.write path sheet.saveBytes s
  | none => (.ok (), s)

/-! ## What the sheet is prepared from -/

theorem findPattern_of_config {path : String} (missing : o.pattern = none)
    (wanted : o.noConfig = false) (place : config = some path) :
    (findPattern files config o s).1 =
      match configOfRead path (files.read path s).1 with
      | .ok c => patternOf c.pattern
      | .error e => .error (.config e) := by
  simp only [findPattern, missing, wanted, place, bind_apply]
  cases configOfRead path (files.read path s).1 <;> rfl

theorem findPattern_of_asks {source : Option String} (h : Asks files config o s source) :
    (findPattern files config o s).1 = patternOf source := by
  cases h with
  | option given => simp only [findPattern, given, pure_apply]
  | config missing wanted place reads => rw [findPattern_of_config missing wanted place, reads]
  | nowhere missing skipped =>
    rcases skipped with skipped | skipped
    · simp only [findPattern, missing, skipped, pure_apply]
    · cases hconfig : o.noConfig <;> simp only [findPattern, missing, skipped, hconfig, pure_apply]

theorem findPattern_of_finds (h : Finds files config o s pattern) :
    (findPattern files config o s).1 = .ok pattern := by
  cases h with
  | any asks => exact findPattern_of_asks asks
  | source asks reads =>
    rw [findPattern_of_asks asks, patternOf, reads]
    rfl

theorem openSheet_of_file {path : String} (given : o.file = some path) :
    (openSheet files pattern o s).1 =
      (Sheet.ofRead pattern (files.read path s).1).mapError (.noSheet path) := by
  simp only [openSheet, given, Sheet.openFile, bind_apply, pure_apply]

theorem openSheet_of_opens (h : Opens files o s pattern opened) :
    (openSheet files pattern o s).1 = .ok opened := by
  cases h with
  | new missing => simp only [openSheet, missing, pure_apply]
  | file given reads loads =>
    rw [openSheet_of_file given, reads, Sheet.ofRead, loads]
    rfl

theorem prepared_of_opens (hfinds : Finds files config o s pattern)
    (hopens : Opens files o s pattern opened) :
    prepared files config o s = o.assignments.foldlM assign opened := by
  rw [prepared, findPattern_of_finds hfinds, Except.ok_bind, openSheet_of_opens hopens,
    Except.ok_bind]

theorem exists_finds_of_not_fails (h : ¬ Fails files config o s) :
    ∃ pattern, Finds files config o s pattern := by
  have hasks : ∃ source, Asks files config o s source := by
    cases hpattern : o.pattern with
    | some source => exact ⟨_, .option hpattern⟩
    | none =>
      cases hconfig : config with
      | none => exact ⟨_, .nowhere hpattern (.inr rfl)⟩
      | some path =>
        cases hskipped : o.noConfig with
        | true => exact ⟨_, .nowhere hpattern (.inl hskipped)⟩
        | false =>
          cases hread : configOfRead path (files.read path s).1 with
          | ok c => exact ⟨_, .config hpattern hskipped rfl hread⟩
          | error e => exact absurd (.config hpattern hskipped hconfig hread) h
  obtain ⟨_ | source, hasks⟩ := hasks
  · exact ⟨_, .any hasks⟩
  · cases hsource : NamePattern.ofSource? source with
    | ok pattern => exact ⟨pattern, .source hasks hsource⟩
    | error e => exact absurd (.pattern hasks hsource) h

theorem exists_opens_of_not_fails (hfinds : Finds files config o s pattern)
    (h : ¬ Fails files config o s) : ∃ opened, Opens files o s pattern opened := by
  cases hfile : o.file with
  | none => exact ⟨_, .new hfile⟩
  | some path =>
    cases hread : (files.read path s).1 with
    | error e => exact absurd (.read hfinds hfile hread) h
    | ok bytes =>
      cases hload : Sheet.load bytes pattern with
      | error e => exact absurd (.load hfinds hfile hread hload) h
      | ok opened => exact ⟨opened, .file hfile hread hload⟩

/-! ## Failures -/

theorem exists_prepared_error (hfinds : Finds files config o s pattern)
    (hopen : ∃ f, (openSheet files pattern o s).1 = .error f) :
    ∃ f, prepared files config o s = .error f := by
  obtain ⟨f, hopen⟩ := hopen
  exact ⟨f, by rw [prepared, findPattern_of_finds hfinds, Except.ok_bind, hopen, Except.error_bind]⟩

theorem Fails.prepared_or_answer (h : Fails files config o s) :
    (∃ f, prepared files config o s = .error f) ∨
      ∃ sheet f, prepared files config o s = .ok sheet ∧
        answer sheet o.formula = ⟨"", .error f⟩ := by
  cases h with
  | @config path e missing wanted place fails =>
    refine .inl ⟨.config e, ?_⟩
    rw [prepared, findPattern_of_config missing wanted place, fails]
    rfl
  | @pattern source e asks fails =>
    refine .inl ⟨.pattern source e, ?_⟩
    rw [prepared, findPattern_of_asks asks, patternOf, fails]
    rfl
  | @read pattern path e finds given fails =>
    refine .inl (exists_prepared_error finds ?_)
    rw [openSheet_of_file given, fails]
    cases e <;> exact ⟨_, rfl⟩
  | load finds given reads fails =>
    refine .inl (exists_prepared_error finds ?_)
    rw [openSheet_of_file given, reads, Sheet.ofRead, fails]
    exact ⟨_, rfl⟩
  | assignment finds opens assignments makes refused =>
    have hassignments := foldlM_assign_eq_error_iff.mpr
      ⟨_, _, _, _, _, assignments, makes_iff.mp makes, refused, rfl⟩
    exact .inl ⟨_, (prepared_of_opens finds opens).trans hassignments⟩
  | @formula _ _ sheet _ e finds opens makes formula refused =>
    have hprepared := (prepared_of_opens finds opens).trans (makes_iff.mp makes)
    exact .inr ⟨sheet, .formula e, hprepared, by simp only [answer, formula, refused]⟩

theorem exists_failed (hread : ∀ path s, (files.read path s).2 = s)
    (h : Fails files config o s) : ∃ f, runOptions files config o s = (.failed "" f, s) := by
  rcases h.prepared_or_answer with ⟨f, hprepared⟩ | ⟨sheet, f, hprepared, hanswer⟩
  · exact ⟨f, by rw [runOptions_eq hread, hprepared]⟩
  · exact ⟨f, by simp only [runOptions_eq hread, hprepared, hanswer]⟩

theorem exists_answer_of_not_fails (h : ¬ Fails files config o s) :
    ∃ pattern opened sheet text exit, Finds files config o s pattern ∧
      Opens files o s pattern opened ∧ Makes opened o.assignments sheet ∧
      prepared files config o s = .ok sheet ∧ answer sheet o.formula = ⟨text, .ok exit⟩ := by
  obtain ⟨pattern, hfinds⟩ := exists_finds_of_not_fails h
  obtain ⟨opened, hopens⟩ := exists_opens_of_not_fails hfinds h
  have hprepare := prepared_of_opens hfinds hopens
  cases hprepared : prepared files config o s with
  | error f =>
    obtain ⟨done, x, rest, next, e, ho, hdone, hrefused, -⟩ :=
      foldlM_assign_eq_error_iff.mp (hprepare.symm.trans hprepared)
    exact absurd (.assignment hfinds hopens ho (makes_iff.mpr hdone) hrefused) h
  | ok sheet =>
    have hmakes := makes_iff.mpr (hprepare.symm.trans hprepared)
    rcases hanswer : answer sheet o.formula with ⟨text, f | exit⟩
    · obtain ⟨refused, e, hformula, hrefused, -⟩ :=
        (answer_eq_error_iff (sound_of_prepared hprepared).1.typed).mp hanswer
      exact absurd (.formula hfinds hopens hmakes hformula hrefused) h
    · exact ⟨pattern, opened, sheet, text, exit, hfinds, hopens, hmakes, rfl, hanswer⟩

/-! ## Answers -/

theorem prints_of_answer (h : sheet.Typed) {formula : Option String}
    (hanswer : answer sheet formula = ⟨text, .ok exit⟩) : Prints sheet formula text ∧
      (exit = 1 ↔ IsErrorValue sheet formula) ∧ (exit = 0 ∨ exit = 1) := by
  cases formula with
  | none =>
    rw [answer, listing_names h] at hanswer
    cases hanswer
    exact ⟨⟨mapM_listLine h, rfl⟩, by simp [IsErrorValue], .inl rfl⟩
  | some formula =>
    cases hevaluate : sheet.evaluate formula with
    | error e => simp [answer, hevaluate] at hanswer
    | ok v =>
      simp only [answer, hevaluate] at hanswer
      cases hanswer
      refine ⟨⟨v, hevaluate, rfl⟩, ?_, ?_⟩
      · cases v <;> simp [IsErrorValue, hevaluate, Value.isError]
      · cases v.isError <;> simp

theorem runOptions_of_answer_ok (hread : ∀ path s, (files.read path s).2 = s)
    (hprepared : prepared files config o s = .ok sheet)
    (hanswer : answer sheet o.formula = ⟨text, .ok exit⟩) :
    (runOptions files config o s).1.stdout = text ∧
    (runOptions files config o s).2 = (written files o.output sheet s).2 ∧
    (((written files o.output sheet s).1 = .ok () ∧
        (runOptions files config o s).1.exit = exit) ∨
      ∃ e, (written files o.output sheet s).1 = .error e ∧
        (runOptions files config o s).1.exit = 1) := by
  have hrun : runOptions files config o s = _ := runOptions_eq hread
  simp only [hprepared, hanswer] at hrun
  rw [hrun]
  unfold written
  cases o.output with
  | none => exact ⟨rfl, rfl, .inl ⟨rfl, rfl⟩⟩
  | some path =>
    dsimp only
    rcases files.write path sheet.saveBytes s with ⟨e | u, s'⟩
    · exact ⟨rfl, rfl, .inr ⟨e, rfl, rfl⟩⟩
    · exact ⟨rfl, rfl, .inl ⟨rfl, rfl⟩⟩

/-- If anything is refused on the way to its answer, a run prints nothing and leaves the files as
they are, whatever succeeded before. Otherwise all assignments are made in order, the answer is
printed as a whole, and the one thing done with the files is that the sheet is written where it is
asked for, also after an error value; the exit code tells of such a value and of a failed write. No
line of a listing can fail, so none breaks off. -/
theorem runOptions_all_or_nothing (hread : ∀ path s, (files.read path s).2 = s)
    (config : Option String) (o : Options) (s : σ) :
    (Fails files config o s →
      (runOptions files config o s).1.exit = 1 ∧ (runOptions files config o s).1.stdout = "" ∧
      (runOptions files config o s).2 = s) ∧
    (¬ Fails files config o s → ∃ pattern opened sheet,
      Finds files config o s pattern ∧ Opens files o s pattern opened ∧
      Makes opened o.assignments sheet ∧
      Prints sheet o.formula (runOptions files config o s).1.stdout ∧
      (runOptions files config o s).2 = (written files o.output sheet s).2 ∧
      ((runOptions files config o s).1.exit = 1 ↔
        IsErrorValue sheet o.formula ∨ ∃ e, (written files o.output sheet s).1 = .error e) ∧
      ((runOptions files config o s).1.exit = 0 ∨ (runOptions files config o s).1.exit = 1)) ∧
    ∀ sheet, Sheet.Reachable sheet →
      sheet.names.mapM (listLine sheet) = .ok (linesOf sheet) ∧
      listing sheet sheet.names = ⟨String.join (linesOf sheet), .ok 0⟩ := by
  refine ⟨?_, ?_, ?_⟩
  · intro hfails
    obtain ⟨f, hrun⟩ := exists_failed hread hfails
    rw [hrun]
    exact ⟨rfl, rfl, rfl⟩
  · intro hno
    obtain ⟨pattern, opened, sheet, text, exit, hfinds, hopens, hmakes, hsheet, hanswer⟩ :=
      exists_answer_of_not_fails hno
    obtain ⟨hstdout, hfiles, hexit⟩ := runOptions_of_answer_ok hread hsheet hanswer
    obtain ⟨hprints, herror, hcode⟩ := prints_of_answer (sound_of_prepared hsheet).1.typed hanswer
    refine ⟨pattern, opened, sheet, hfinds, hopens, hmakes, hstdout ▸ hprints, hfiles, ?_⟩
    rcases hexit with ⟨hwritten, hexit⟩ | ⟨e, hwritten, hexit⟩
    · rw [hexit, hwritten]
      exact ⟨by simp [herror], hcode⟩
    · rw [hexit]
      exact ⟨iff_of_true rfl (.inr ⟨e, hwritten⟩), .inr rfl⟩
  · intro sheet h
    exact ⟨mapM_listLine h.sound.typed, listing_names h.sound.typed⟩

def texted : Sheet := ((Sheet.empty .any).set "a1" "x").2

/-- The first assignment is made, the second one names no cell, and the formula breaks off. -/
def refused : Options :=
  ⟨none, some "=a1+", [⟨"a1", "x"⟩, ⟨"a0", "y"⟩], some "notes", none, true, false⟩

/-- The formula needs a number where there is a text. -/
def mistaken : Options := ⟨none, some "=a1", [⟨"a1", "x"⟩], some "notes", none, true, false⟩

theorem fails_refused : Fails FileSystem.access none refused .empty := by
  have hfinds : Finds FileSystem.access none refused .empty .any := .any (.nowhere rfl (.inl rfl))
  have hopens : Opens FileSystem.access refused .empty .any (.empty .any) := .new rfl
  have hassignments : refused.assignments = [⟨"a1", "x"⟩] ++ [⟨"a0", "y"⟩] := rfl
  have horder : ((Sheet.empty .any).set "a1" "x").1 = .ok [⟨"A1", by decide⟩] := by cbv
  have hmakes : Makes (.empty .any) [⟨"a1", "x"⟩] texted :=
    .cons (Prod.ext horder rfl) (.nil texted)
  have hrefused : (texted.set "a0" "y").1 = .error (.invalidName "a0") := by cbv
  exact .assignment hfinds hopens hassignments hmakes hrefused

theorem not_fails_mistaken : ¬ Fails FileSystem.access none mistaken .empty := by
  have hprepared : prepared FileSystem.access none mistaken .empty = .ok texted := by cbv
  have hevaluate : texted.evaluate "=a1" = .ok (.error (.undefinedVariable "A1")) := by cbv
  intro h
  rcases h.prepared_or_answer with ⟨f, hf⟩ | ⟨sheet, f, hsheet, hf⟩
  · rw [hprepared] at hf
    cases hf
  · rw [hprepared] at hsheet
    cases hsheet
    simp [answer, mistaken, hevaluate] at hf

/-- One run is refused after its first assignment, the other prints an error value and writes its
sheet. -/
theorem runOptions_all_or_nothing_mistaken :
    (∀ path (s : FileSystem), (FileSystem.access.read path s).2 = s) ∧
    Fails FileSystem.access none refused .empty ∧
    (runOptions FileSystem.access none refused .empty).1.exit = 1 ∧
    (runOptions FileSystem.access none refused .empty).1.stdout = "" ∧
    (runOptions FileSystem.access none refused .empty).2 = .empty ∧
    ¬ Fails FileSystem.access none mistaken .empty ∧
    (∃ pattern opened sheet, Finds FileSystem.access none mistaken .empty pattern ∧
      Opens FileSystem.access mistaken .empty pattern opened ∧
      Makes opened mistaken.assignments sheet ∧
      Prints sheet mistaken.formula (runOptions FileSystem.access none mistaken .empty).1.stdout ∧
      (runOptions FileSystem.access none mistaken .empty).2 =
        (written FileSystem.access mistaken.output sheet .empty).2 ∧
      ((runOptions FileSystem.access none mistaken .empty).1.exit = 1 ↔
        IsErrorValue sheet mistaken.formula ∨
          ∃ e, (written FileSystem.access mistaken.output sheet .empty).1 = .error e) ∧
      ((runOptions FileSystem.access none mistaken .empty).1.exit = 0 ∨
        (runOptions FileSystem.access none mistaken .empty).1.exit = 1)) ∧
    Sheet.Reachable texted ∧
    texted.names.mapM (listLine texted) = .ok (linesOf texted) ∧
    listing texted texted.names = ⟨String.join (linesOf texted), .ok 0⟩ := by
  have hread (path : String) (s : FileSystem) : (FileSystem.access.read path s).2 = s := rfl
  have hreachable : Sheet.Reachable texted := .respond (.empty .any) (.set "a1" "x")
  obtain ⟨hfails, -, hlist⟩ := runOptions_all_or_nothing hread none refused .empty
  obtain ⟨-, hdone, -⟩ := runOptions_all_or_nothing hread none mistaken .empty
  obtain ⟨hexit, hstdout, hfiles⟩ := hfails fails_refused
  exact ⟨hread, fails_refused, hexit, hstdout, hfiles, not_fails_mistaken,
    hdone not_fails_mistaken, hreachable, hlist texted hreachable⟩

end Spreadsheet.Command
