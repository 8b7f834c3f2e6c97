import Spreadsheet.Proofs.Command.Run
import Spreadsheet.Proofs.Sheet.Reload

/-! # Sessions

A session can stop after some of its assignments, save the sheet to a file, and go on later with what
is read back from this file. The sheet that is read back agrees with the one that was saved, and
sheets that agree take the same assignments, refuse the same ones and answer alike. So the stop does
not show.
-/

namespace Spreadsheet.Command

open Sheet (EditError)

/-! ## Sheets that agree -/

variable {sheet sheet' : Sheet} {x : Assignment} {xs ys : List Assignment}

/-- Two computations fail alike, or give sheets that agree. -/
inductive Alike : Except Failure Sheet → Except Failure Sheet → Prop
  | error (f : Failure) : Alike (.error f) (.error f)
  | ok {sheet sheet' : Sheet} (agrees : sheet.Agrees sheet') : Alike (.ok sheet) (.ok sheet')

theorem alike_assign (h : sheet.Agrees sheet') (x : Assignment) :
    Alike (assign sheet x) (assign sheet' x) := by
  obtain ⟨hanswer, hnext⟩ := h.set x.cell x.text
  unfold assign
  generalize sheet.set x.cell x.text = t at hanswer hnext ⊢
  generalize sheet'.set x.cell x.text = t' at hanswer hnext ⊢
  obtain ⟨r, next⟩ := t
  obtain ⟨r', next'⟩ := t'
  obtain rfl : r = r' := hanswer
  cases r with
  | error e => exact .error _
  | ok order => exact .ok hnext

theorem Alike.bind {r r' : Except Failure Sheet} {g g' : Sheet → Except Failure Sheet} (h : Alike r r')
    (hg : ∀ {sheet sheet' : Sheet}, sheet.Agrees sheet' → Alike (g sheet) (g' sheet')) :
    Alike (r >>= g) (r' >>= g') := by
  cases h with
  | error f => exact .error f
  | ok agrees => exact hg agrees

theorem Alike.exists_ok {r r' : Except Failure Sheet} (h : Alike r r') (hr : r = .ok sheet) :
    ∃ sheet', r' = .ok sheet' ∧ sheet.Agrees sheet' := by
  cases h with
  | error f => cases hr
  | ok agrees =>
    cases hr
    exact ⟨_, rfl, agrees⟩

theorem alike_foldlM (h : sheet.Agrees sheet') (xs : List Assignment) :
    Alike (xs.foldlM assign sheet) (xs.foldlM assign sheet') := by
  induction xs generalizing sheet sheet' with
  | nil => exact .ok h
  | cons x xs ih =>
    rw [List.foldlM_cons, List.foldlM_cons]
    exact (alike_assign h x).bind ih

theorem answer_eq_of_agrees (h : sheet.Agrees sheet') (formula : Option String) :
    answer sheet formula = answer sheet' formula := by
  have hline : listLine sheet = listLine sheet' := by
    funext c
    rw [listLine, listLine, h.content, h.value]
  cases formula with
  | none => rw [answer, answer, listing, listing, h.names, hline]
  | some text => rw [answer, answer, h.evaluate]

/-! ## A run in two parts -/

def Options.firstPart (o : Options) (xs : List Assignment) (path : String) : Options :=
  { o with formula := none, assignments := xs, output := some path }

def Options.secondPart (o : Options) (ys : List Assignment) (path : String) : Options :=
  { o with file := some path, assignments := ys }

variable {σ : Type} {files : Files (StateM σ)} {config : Option String} {o : Options} {s s₁ : σ}
  {path stdout stderr : String}

theorem exists_saved_of_firstPart (h : files.Faithful)
    (hfirst : runOptions files config (o.firstPart xs path) s = (⟨0, stdout, stderr⟩, s₁)) :
    ∃ sheet, prepared files config { o with assignments := xs } s = .ok sheet ∧
      files.write path sheet.saveBytes s = (.ok (), s₁) := by
  have hsame : prepared files config (o.firstPart xs path) s =
      prepared files config { o with assignments := xs } s := rfl
  cases hprepared : prepared files config (o.firstPart xs path) s with
  | error f =>
    rw [runOptions_of_prepared_error h hprepared] at hfirst
    cases hfirst
  | ok sheet =>
    refine ⟨sheet, hsame ▸ hprepared, ?_⟩
    rcases hanswer : answer sheet (o.firstPart xs path).formula with ⟨text, f | exit⟩
    · rw [runOptions_of_answer_error h hprepared hanswer] at hfirst
      cases hfirst
    · rw [runOptions_of_output_some h hprepared hanswer rfl] at hfirst
      split at hfirst
      · rename_i hwrite
        obtain ⟨-, rfl⟩ := Prod.mk.inj hfirst
        exact hwrite
      · cases hfirst

theorem prepared_secondPart (h : files.Faithful) (hsound : sheet.Sound)
    (hpattern : (findPattern files config o s₁).1 = .ok sheet.pattern)
    (hwrite : files.write path sheet.saveBytes s = (.ok (), s₁)) (ys : List Assignment) :
    prepared files config (o.secondPart ys path) s₁ = ys.foldlM assign sheet.markSaved := by
  have hfind : (findPattern files config (o.secondPart ys path) s₁).1 = .ok sheet.pattern := hpattern
  have hopen : (openSheet files sheet.pattern (o.secondPart ys path) s₁).1 = .ok sheet.markSaved := by
    simp only [openSheet, Options.secondPart, Sheet.openFile, bind_apply, pure_apply,
      h.read_of_write hwrite, Sheet.ofRead, Sheet.load_saveBytes hsound]
    rfl
  rw [prepared, hfind, Except.ok_bind, hopen]
  rfl

/-- Whatever assignments are still to be made, the second part makes them on the sheet as it was saved,
and the whole run on the sheet as it was before. -/
theorem exists_saved (h : files.Faithful)
    (hfirst : runOptions files config (o.firstPart xs path) s = (⟨0, stdout, stderr⟩, s₁))
    (hpattern : (findPattern files config o s₁).1 = (findPattern files config o s).1) :
    ∃ saved : Sheet, ∀ ys,
      prepared files config (o.secondPart ys path) s₁ = ys.foldlM assign saved.markSaved ∧
      prepared files config { o with assignments := xs ++ ys } s = ys.foldlM assign saved := by
  obtain ⟨saved, hsaved, hwrite⟩ := exists_saved_of_firstPart h hfirst
  obtain ⟨hsound, hfound⟩ := sound_of_prepared hsaved
  refine ⟨saved, fun ys => ⟨?_, ?_⟩⟩
  · exact prepared_secondPart h hsound (hpattern.trans hfound) hwrite ys
  · rw [prepared_append, hsaved, Except.ok_bind]

section Parts

variable (h : files.Faithful) (ho : o.assignments = xs ++ ys)
  (halike : ∀ ys, Alike (prepared files config (o.secondPart ys path) s₁)
    (prepared files config { o with assignments := xs ++ ys } s))

include h ho halike

theorem refusesAssignment_append {done : List Assignment} {e : EditError}
    (hrefuses : RefusesAssignment files config (o.secondPart ys path) s₁ done x e) :
    RefusesAssignment files config o s (xs ++ done) x e := by
  obtain ⟨next, rest, hys, hdone, hset⟩ := hrefuses
  obtain rfl : ys = done ++ x :: rest := hys
  rw [prepare_fst h.read_snd] at hdone
  obtain ⟨next', hdone', hagrees⟩ := (halike done).exists_ok hdone
  refine ⟨next', rest, by rw [ho, List.append_assoc], (prepare_fst h.read_snd).trans hdone', ?_⟩
  rw [← (hagrees.set x.cell x.text).1]
  exact hset

theorem refusesFormula_of_secondPart {e : EditError}
    (hrefuses : RefusesFormula files config (o.secondPart ys path) s₁ e) :
    RefusesFormula files config o s e := by
  obtain ⟨last, text, hformula, hlast, hevaluate⟩ := hrefuses
  rw [prepare_fst h.read_snd] at hlast
  obtain ⟨last', hlast', hagrees⟩ := (halike ys).exists_ok hlast
  rw [← ho] at hlast'
  refine ⟨last', text, hformula, (prepare_fst h.read_snd).trans hlast', ?_⟩
  rw [← hagrees.evaluate]
  exact hevaluate

end Parts

/-- Splitting a run through a file is invisible. If the first part succeeds, the second part prints
what the whole run prints, exits with the same code, and leaves the same text where both are asked to
save their sheet, or both are refused at the same assignment or at the formula with the same error. -/
theorem runOptions_secondPart (h : files.Faithful) (ho : o.assignments = xs ++ ys)
    (hfirst : runOptions files config (o.firstPart xs path) s = (⟨0, stdout, stderr⟩, s₁))
    (hpattern : (findPattern files config o s₁).1 = (findPattern files config o s).1)
    (hwrite : ∀ p ∈ o.output, ∀ bytes, (files.write p bytes s₁).1 = .ok () ∧
      (files.write p bytes s).1 = .ok ()) :
    (runOptions files config (o.secondPart ys path) s₁).1 = (runOptions files config o s).1 ∧
      ((∃ done x e, RefusesAssignment files config (o.secondPart ys path) s₁ done x e ∧
          RefusesAssignment files config o s (xs ++ done) x e) ∨
        (∃ e, RefusesFormula files config (o.secondPart ys path) s₁ e ∧
          RefusesFormula files config o s e) ∨
        (runOptions files config o s).1.stderr = "" ∧ ∀ p ∈ o.output, ∃ bytes,
          (files.read p (runOptions files config (o.secondPart ys path) s₁).2).1 = .ok bytes ∧
          (files.read p (runOptions files config o s).2).1 = .ok bytes) := by
  obtain ⟨saved, hparts⟩ := exists_saved h hfirst hpattern
  have hsaved : saved.markSaved.Agrees saved := ⟨rfl, rfl, rfl⟩
  have halike (ys : List Assignment) : Alike (prepared files config (o.secondPart ys path) s₁)
      (prepared files config { o with assignments := xs ++ ys } s) := by
    rw [(hparts ys).1, (hparts ys).2]
    exact alike_foldlM hsaved ys
  have hopen : prepared files config { o.secondPart ys path with assignments := [] } s₁ =
      .ok saved.markSaved := (hparts []).1
  rcases refuses_or_answers h hopen with
    ⟨done, x, e, hrefuses⟩ | ⟨e, hrefuses⟩ | ⟨last, text, exit, hlast, hanswer⟩
  · have hrefuses' := refusesAssignment_append h ho halike hrefuses
    refine ⟨?_, .inl ⟨done, x, e, hrefuses, hrefuses'⟩⟩
    rw [runOptions_of_refusesAssignment h hrefuses, runOptions_of_refusesAssignment h hrefuses']
  · have hrefuses' := refusesFormula_of_secondPart h ho halike hrefuses
    refine ⟨?_, .inr (.inl ⟨e, hrefuses, hrefuses'⟩)⟩
    rw [runOptions_of_refusesFormula h hrefuses, runOptions_of_refusesFormula h hrefuses']
  · obtain ⟨last', hlast', hagrees⟩ := (halike ys).exists_ok hlast
    rw [← ho] at hlast'
    have hanswer' : answer last' o.formula = ⟨text, .ok exit⟩ :=
      (answer_eq_of_agrees hagrees o.formula).symm.trans hanswer
    obtain ⟨houtcome, hread⟩ := runOptions_of_answer h hlast hanswer fun p hp => (hwrite p hp _).1
    obtain ⟨houtcome', hread'⟩ :=
      runOptions_of_answer h hlast' hanswer' fun p hp => (hwrite p hp _).2
    refine ⟨houtcome.trans houtcome'.symm, .inr (.inr ⟨by rw [houtcome'], fun p hp => ?_⟩)⟩
    refine ⟨last.saveBytes, hread p hp, ?_⟩
    rw [hagrees.saveBytes]
    exact hread' p hp

def noted : Sheet := ((Sheet.empty .any).set "A1" "x").2

/-- The sheet with another text, which has to be escaped in a file. -/
def extended : Sheet := (noted.markSaved.set "B1" " <y> ").2

theorem set_noted : (noted.markSaved.set "B1" " <y> ").1 = .ok [⟨"B1", by decide⟩] := by cbv

theorem answer_extended :
    answer extended none = ⟨"A1: x => x\nB1:  <y>  =>  <y> \n", .ok 0⟩ := by cbv

/-- Add a text to the sheet in a file, and then a formula that there is no number for. -/
def noting : Options :=
  ⟨some "notes", some "=a1", [⟨"B1", " <y> "⟩, ⟨"a1", "=b1"⟩], some "notes", none, true, false⟩

/-- There is one file, which both parts read and write. -/
theorem runOptions_secondPart_noting : ∃ fs₁ fs : FileSystem,
    noting.assignments = [⟨"B1", " <y> "⟩] ++ [⟨"a1", "=b1"⟩] ∧
    runOptions FileSystem.access none (noting.firstPart [⟨"B1", " <y> "⟩] "notes") fs =
      (⟨0, "A1: x => x\nB1:  <y>  =>  <y> \n", ""⟩, fs₁) ∧
    (findPattern FileSystem.access none noting fs₁).1 =
      (findPattern FileSystem.access none noting fs).1 ∧
    (∀ p ∈ noting.output, ∀ bytes, (FileSystem.access.write p bytes fs₁).1 = .ok () ∧
      (FileSystem.access.write p bytes fs).1 = .ok ()) ∧
    let second := noting.secondPart [⟨"a1", "=b1"⟩] "notes"
    (runOptions FileSystem.access none second fs₁).1 =
        (runOptions FileSystem.access none noting fs).1 ∧
      ((∃ done x e, RefusesAssignment FileSystem.access none second fs₁ done x e ∧
          RefusesAssignment FileSystem.access none noting fs ([⟨"B1", " <y> "⟩] ++ done) x e) ∨
        (∃ e, RefusesFormula FileSystem.access none second fs₁ e ∧
          RefusesFormula FileSystem.access none noting fs e) ∨
        (runOptions FileSystem.access none noting fs).1.stderr = "" ∧
          ∀ p ∈ noting.output, ∃ bytes,
            (FileSystem.access.read p (runOptions FileSystem.access none second fs₁).2).1 =
              .ok bytes ∧
            (FileSystem.access.read p (runOptions FileSystem.access none noting fs).2).1 =
              .ok bytes) := by
  let fs : FileSystem := FileSystem.empty.put ["notes"] noted.saveBytes
  let fs₁ : FileSystem := fs.put ["notes"] extended.saveBytes
  have hcreate (bytes : List UInt8) : FileSystem.access.write "notes" bytes .empty =
      (.ok (), FileSystem.empty.put ["notes"] bytes) := by cbv
  have hreplace (before bytes : List UInt8) :
      FileSystem.access.write "notes" bytes (FileSystem.empty.put ["notes"] before) =
        (.ok (), (FileSystem.empty.put ["notes"] before).put ["notes"] bytes) := by cbv
  have hagain (before between bytes : List UInt8) : (FileSystem.access.write "notes" bytes
      ((FileSystem.empty.put ["notes"] before).put ["notes"] between)).1 = .ok () := by cbv
  have hpattern (s : FileSystem) : (findPattern FileSystem.access none noting s).1 =
      .ok noted.pattern := by
    rw [noted, Sheet.pattern_set]
    rfl
  have hsound : noted.Sound := (Sheet.sound_empty .any).set "A1" "x"
  have hassign : assign noted.markSaved ⟨"B1", " <y> "⟩ = .ok extended :=
    assign_eq_ok_iff.mpr ⟨_, Prod.ext set_noted rfl⟩
  have hprepared : prepared FileSystem.access none (noting.firstPart [⟨"B1", " <y> "⟩] "notes") fs =
      .ok extended := by
    calc _ = prepared FileSystem.access none (noting.secondPart [⟨"B1", " <y> "⟩] "notes") fs := rfl
      _ = [⟨"B1", " <y> "⟩].foldlM assign noted.markSaved :=
        prepared_secondPart FileSystem.access_faithful hsound (hpattern fs) (hcreate _) _
      _ = .ok extended := by rw [List.foldlM_cons, hassign, Except.ok_bind, List.foldlM_nil]; rfl
  have hfirst : runOptions FileSystem.access none (noting.firstPart [⟨"B1", " <y> "⟩] "notes") fs =
      (⟨0, "A1: x => x\nB1:  <y>  =>  <y> \n", ""⟩, fs₁) := by
    rw [runOptions_of_output_some FileSystem.access_faithful hprepared answer_extended rfl, hreplace]
  have hwrite : ∀ p ∈ noting.output, ∀ bytes, (FileSystem.access.write p bytes fs₁).1 = .ok () ∧
      (FileSystem.access.write p bytes fs).1 = .ok () := by
    rintro _ ⟨⟩ bytes
    exact ⟨hagain _ _ bytes, congrArg Prod.fst (hreplace _ bytes)⟩
  have hsame := (hpattern fs₁).trans (hpattern fs).symm
  exact ⟨fs₁, fs, rfl, hfirst, hsame, hwrite,
    runOptions_secondPart FileSystem.access_faithful rfl hfirst hsame hwrite⟩

end Spreadsheet.Command
