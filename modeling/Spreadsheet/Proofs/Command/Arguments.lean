import Spreadsheet.Command.Options
import Spreadsheet.Proofs.Except
import Spreadsheet.Proofs.Text.Ascii
import Spreadsheet.Proofs.Text.Blank

/-! # Reading arguments

Arguments come in parts: a file, a switch, or the name of a setting and its value behind it. Reading
takes one part after the other off the front and never looks at a value as a name. It gets as far as
there are parts to take, and what stands there tells how it ends.
-/

namespace Spreadsheet.Command

variable {o o' : Options} {arguments front rest : List String} {argument name value : String}
  {a : Assignment} {s : Setting} {r : Except ArgumentError Options}

/-! ## Single arguments -/

def Switch.spellings : Switch → List String
  | help => ["-h", "--help"]
  | noConfig => ["--no-config"]
  | setting .formula => ["-c", "--command"]
  | setting .assignment => ["-s", "--set"]
  | setting .output => ["-o", "--output"]
  | setting .pattern => ["--pattern"]

theorem Switch.ofText?_eq_some_iff {switch : Switch} :
    Switch.ofText? argument = some switch ↔ argument ∈ switch.spellings := by
  constructor
  · intro h
    unfold Switch.ofText? at h
    split_ifs at h <;> cases h <;> simpa [spellings]
  · revert argument
    rcases switch with _ | _ | ⟨_ | _ | _ | _⟩ <;> decide

/-- The argument names a file: it does not start with a hyphen, or is nothing else. -/
def IsPath (argument : String) : Prop := argument = "-" ∨ argument.toList.head? ≠ some '-'

instance : DecidablePred IsPath := fun argument =>
  inferInstanceAs (Decidable (argument = "-" ∨ argument.toList.head? ≠ some '-'))

theorem not_isPath_of_mem_spellings {switch : Switch} (h : argument ∈ switch.spellings) :
    ¬ IsPath argument := by
  revert argument
  rcases switch with _ | _ | ⟨_ | _ | _ | _⟩ <;> decide

theorem IsPath.ofText?_eq_none (h : IsPath argument) : Switch.ofText? argument = none := by
  cases hswitch : Switch.ofText? argument with
  | none => rfl
  | some switch =>
    exact absurd h (not_isPath_of_mem_spellings (Switch.ofText?_eq_some_iff.mp hswitch))

theorem isPath_iff : IsPath argument ↔ ∀ c cs, argument.toList ≠ '-' :: c :: cs := by
  constructor
  · rintro (rfl | h) c cs hcs
    · cases hcs
    · rw [hcs] at h
      exact h rfl
  · intro h
    rw [IsPath, or_iff_not_imp_right, not_not]
    intro hhead
    obtain ⟨cs, hcs⟩ := List.head?_eq_some_iff.mp hhead
    cases cs with
    | nil => exact String.toList_inj.mp hcs
    | cons c cs => exact absurd hcs (h c cs)

/-! ## Assignments -/

structure Assignment.IsPlain (a : Assignment) : Prop where
  noEquals : '=' ∉ a.cell.toList
  trimmed : Text.IsTrimmed a.cell.toList

def Assignment.SpelledBy (a : Assignment) (value : String) : Prop := ∃ before behind : List Char,
  (∀ c ∈ before, Text.isBlank c = true) ∧ (∀ c ∈ behind, Text.isBlank c = true) ∧
    value.toList = before ++ a.cell.toList ++ behind ++ '=' :: a.text.toList

/-- The first equals sign is the one that counts. -/
theorem Assignment.parse?_of_eq_append {left text : List Char} (h : '=' ∉ left)
    (hvalue : value.toList = left ++ '=' :: text) :
    Assignment.parse? value = some ⟨String.ofList (Text.trim left), String.ofList text⟩ := by
  have hleft : ∀ c ∈ left, decide (c ≠ '=') = true := by
    intro c hc
    exact decide_eq_true (ne_of_mem_of_not_mem hc h)
  rw [parse?, hvalue, List.takeWhile_append_of_pos hleft, List.dropWhile_append_of_pos hleft,
    List.takeWhile_cons_of_neg (by decide), List.dropWhile_cons_of_neg (by decide), List.append_nil]

theorem Assignment.parse?_eq_none_iff : Assignment.parse? value = none ↔ '=' ∉ value.toList := by
  constructor
  · intro h hmem
    obtain ⟨left, text, hvalue, hleft⟩ := List.eq_append_cons_of_mem hmem
    rw [parse?_of_eq_append hleft hvalue] at h
    cases h
  · intro h
    have hnil : value.toList.dropWhile (· ≠ '=') = [] :=
      List.dropWhile_eq_nil_iff.mpr fun c hc => decide_eq_true (ne_of_mem_of_not_mem hc h)
    rw [parse?, hnil]

theorem Assignment.parse?_eq_some_iff :
    Assignment.parse? value = some a ↔ a.IsPlain ∧ a.SpelledBy value := by
  constructor
  · intro h
    have hmem : '=' ∈ value.toList := by
      by_contra hno
      rw [parse?_eq_none_iff.mpr hno] at h
      cases h
    obtain ⟨left, text, hvalue, hleft⟩ := List.eq_append_cons_of_mem hmem
    rw [parse?_of_eq_append hleft hvalue] at h
    cases h
    obtain ⟨before, behind, hbefore, hbehind, htrim⟩ := Text.exists_eq_append_trim left
    refine ⟨⟨?_, ?_⟩, before, behind, hbefore, hbehind, ?_⟩
    · rw [String.toList_ofList]
      intro hcell
      rw [htrim] at hleft
      exact hleft (List.mem_append_left _ (List.mem_append_right _ hcell))
    · rw [String.toList_ofList]
      exact Text.isTrimmed_trim left
    · rw [String.toList_ofList, String.toList_ofList, ← htrim, hvalue]
  · rintro ⟨hplain, before, behind, hbefore, hbehind, hvalue⟩
    have hequals : Text.isBlank '=' ≠ true := by decide
    have hleft : '=' ∉ before ++ a.cell.toList ++ behind := by
      rw [List.mem_append, List.mem_append, not_or, not_or]
      exact ⟨⟨fun h => hequals (hbefore _ h), hplain.noEquals⟩, fun h => hequals (hbehind _ h)⟩
    rw [parse?_of_eq_append hleft hvalue, hplain.trimmed.trim_append hbefore hbehind,
      String.ofList_toList, String.ofList_toList]

/-! ## Parts -/

inductive Part where
  | file (path : String)
  | formula (text : String)
  | assignment (a : Assignment)
  | output (path : String)
  | pattern (source : String)
  | noConfig
  deriving DecidableEq

namespace Part

def file? : Part → Option String
  | file path => some path
  | _ => none

def assignment? : Part → Option Assignment
  | assignment a => some a
  | _ => none

inductive SpelledBy : Part → List String → Prop
  | file (path : String) : SpelledBy (file path) [path]
  | formula {name : String} (named : name ∈ (Switch.setting .formula).spellings) (text : String) :
      SpelledBy (formula text) [name, text]
  | assignment {name value : String} {a : Assignment}
      (named : name ∈ (Switch.setting .assignment).spellings) (spelled : a.SpelledBy value) :
      SpelledBy (assignment a) [name, value]
  | output {name : String} (named : name ∈ (Switch.setting .output).spellings) (path : String) :
      SpelledBy (output path) [name, path]
  | pattern {name : String} (named : name ∈ (Switch.setting .pattern).spellings) (source : String) :
      SpelledBy (pattern source) [name, source]
  | noConfig {name : String} (named : name ∈ Switch.noConfig.spellings) : SpelledBy noConfig [name]

def IsPlain : Part → Prop
  | file path => IsPath path
  | assignment a => a.IsPlain
  | _ => True

end Part

variable {part : Part} {parts : List Part}

namespace Options

def add (o : Options) : Part → Options
  | .file path => { o with file := some path }
  | .formula text => { o with formula := some text }
  | .assignment a => { o with assignments := o.assignments ++ [a] }
  | .output path => { o with output := some path }
  | .pattern source => { o with pattern := some source }
  | .noConfig => { o with noConfig := true }

/-- The part can be spelled behind these options: only one file can be given. -/
structure Admits (o : Options) (part : Part) : Prop where
  plain : part.IsPlain
  single : ∀ path, part.file? = some path → o.file = none

/-- From the first options on, the arguments spell parts that lead to the second ones. -/
inductive Takes : Options → List String → Options → Prop
  | nil (o : Options) : Takes o [] o
  | cons {o o' : Options} {part : Part} {front rest : List String} (spelled : part.SpelledBy front)
      (admitted : o.Admits part) (taken : Takes (o.add part) rest o') : Takes o (front ++ rest) o'

/-- How the reading ends in front of arguments of which no part is taken. -/
inductive Ends (o : Options) : List String → Except ArgumentError Options → Prop
  | done : Ends o [] (.ok o)
  | help {name : String} (named : name ∈ Switch.help.spellings) (rest : List String) :
      Ends o (name :: rest) (.ok { o with help := true })
  | missingValue {name : String} {s : Setting} (named : name ∈ (Switch.setting s).spellings) :
      Ends o [name] (.error (.missingValue s))
  | invalidAssignment {name value : String} (named : name ∈ (Switch.setting .assignment).spellings)
      (spelled : '=' ∉ value.toList) (rest : List String) :
      Ends o (name :: value :: rest) (.error (.invalidAssignment value))
  | unknownOption {argument : String} (dashed : ¬ IsPath argument)
      (unknown : ∀ switch : Switch, argument ∉ switch.spellings) (rest : List String) :
      Ends o (argument :: rest) (.error (.unknownOption argument))
  | unexpectedArgument {argument : String} (path : IsPath argument) (taken : o.file.isSome = true)
      (rest : List String) : Ends o (argument :: rest) (.error (.unexpectedArgument argument))

/-! ## Reading parts -/

theorem takeFile_of_isPath (h : IsPath argument) (hfile : o.file = none) :
    o.takeFile argument = .ok { o with file := some argument } := by
  unfold takeFile
  split
  · rename_i hcs
    exact absurd hcs (isPath_iff.mp h _ _)
  · rename_i hsome _
    rw [hfile] at hsome
    cases hsome
  · rfl

theorem takeFile_of_isSome (h : IsPath argument) (hfile : o.file.isSome = true) :
    o.takeFile argument = .error (.unexpectedArgument argument) := by
  unfold takeFile
  split
  · rename_i hcs
    exact absurd hcs (isPath_iff.mp h _ _)
  · rfl
  · rename_i hnone _
    rw [hnone] at hfile
    cases hfile

theorem takeFile_of_not_isPath (h : ¬ IsPath argument) :
    o.takeFile argument = .error (.unknownOption argument) := by
  simp only [isPath_iff, ne_eq, not_forall, not_not] at h
  obtain ⟨c, cs, hcs⟩ := h
  simp only [takeFile, hcs]

theorem read_argument (h : Switch.ofText? argument = none) (rest : List String) :
    o.read (argument :: rest) = o.takeFile argument >>= fun o => o.read rest := by
  simp only [read, h]

theorem read_setting (h : name ∈ (Switch.setting s).spellings) (value : String)
    (rest : List String) :
    o.read (name :: value :: rest) = o.put s value >>= fun o => o.read rest := by
  simp only [read, Switch.ofText?_eq_some_iff.mpr h]

theorem read_of_spelledBy (h : part.SpelledBy front) (ha : o.Admits part) (rest : List String) :
    o.read (front ++ rest) = (o.add part).read rest := by
  cases h with
  | file path =>
    have hpath : IsPath path := ha.plain
    rw [List.singleton_append, read_argument hpath.ofText?_eq_none,
      takeFile_of_isPath hpath (ha.single path rfl)]
    rfl
  | formula named text => exact read_setting named text rest
  | @assignment name value a named spelled =>
    have hparse := Assignment.parse?_eq_some_iff.mpr ⟨ha.plain, spelled⟩
    refine (read_setting named value rest).trans ?_
    simp only [put, hparse]
    rfl
  | output named path => exact read_setting named path rest
  | pattern named source => exact read_setting named source rest
  | noConfig named =>
    simp only [List.singleton_append, read, Switch.ofText?_eq_some_iff.mpr named]
    rfl

theorem Takes.read_append (h : Takes o front o') (rest : List String) :
    o.read (front ++ rest) = o'.read rest := by
  induction h with
  | nil o => rfl
  | cons spelled admitted _ ih => rw [List.append_assoc, read_of_spelledBy spelled admitted, ih]

theorem Ends.read_eq (h : o.Ends rest r) : o.read rest = r := by
  cases h with
  | done => rfl
  | help named rest => simp only [read, Switch.ofText?_eq_some_iff.mpr named]
  | missingValue named => simp only [read, Switch.ofText?_eq_some_iff.mpr named]
  | invalidAssignment named spelled rest =>
    rw [read_setting named, put, Assignment.parse?_eq_none_iff.mpr spelled, Except.error_bind]
  | unknownOption dashed unknown rest =>
    rw [read_argument, takeFile_of_not_isPath dashed, Except.error_bind]
    exact Option.eq_none_iff_forall_ne_some.mpr fun switch hswitch =>
      unknown switch (Switch.ofText?_eq_some_iff.mp hswitch)
  | unexpectedArgument path taken rest =>
    rw [read_argument path.ofText?_eq_none, takeFile_of_isSome path taken, Except.error_bind]

def Reads (o : Options) (arguments : List String) (r : Except ArgumentError Options) : Prop :=
  ∃ i ≤ arguments.length, ∃ o', o.Takes (arguments.take i) o' ∧ o'.Ends (arguments.drop i) r

theorem Ends.reads_read (h : o.Ends arguments r) : o.Reads arguments (o.read arguments) := by
  rw [h.read_eq]
  exact ⟨0, Nat.zero_le _, o, .nil o, h⟩

theorem Reads.append (hs : part.SpelledBy front) (ha : o.Admits part)
    (h : (o.add part).Reads rest r) : o.Reads (front ++ rest) r := by
  obtain ⟨i, hi, o', htakes, hends⟩ := h
  refine ⟨front.length + i, ?_, o', ?_, ?_⟩
  · rw [List.length_append]
    exact Nat.add_le_add_left hi _
  · rw [List.take_length_add_append]
    exact .cons hs ha htakes
  · rwa [List.drop_length_add_append]

theorem reads_read_append (hs : part.SpelledBy front) (ha : o.Admits part)
    (h : (o.add part).Reads rest ((o.add part).read rest)) :
    o.Reads (front ++ rest) (o.read (front ++ rest)) := by
  rw [read_of_spelledBy hs ha]
  exact h.append hs ha

theorem reads_read (o : Options) (arguments : List String) :
    o.Reads arguments (o.read arguments) := by
  induction o, arguments using read.induct with
  | case1 o => exact Ends.done.reads_read
  | case2 o name rest h => exact (Ends.help (Switch.ofText?_eq_some_iff.mp h) rest).reads_read
  | case3 o name rest h ih =>
    exact reads_read_append (.noConfig (Switch.ofText?_eq_some_iff.mp h)) ⟨trivial, nofun⟩ ih
  | case4 o name s h => exact (Ends.missingValue (Switch.ofText?_eq_some_iff.mp h)).reads_read
  | case5 o name s h value rest ih =>
    have named := Switch.ofText?_eq_some_iff.mp h
    cases s with
    | formula => exact reads_read_append (.formula named value) ⟨trivial, nofun⟩ (ih _)
    | output => exact reads_read_append (.output named value) ⟨trivial, nofun⟩ (ih _)
    | pattern => exact reads_read_append (.pattern named value) ⟨trivial, nofun⟩ (ih _)
    | assignment =>
      cases hparse : Assignment.parse? value with
      | none =>
        have hequals := Assignment.parse?_eq_none_iff.mp hparse
        exact (Ends.invalidAssignment named hequals rest).reads_read
      | some a =>
        obtain ⟨hplain, hspelled⟩ := Assignment.parse?_eq_some_iff.mp hparse
        exact reads_read_append (.assignment named hspelled) ⟨hplain, nofun⟩ (ih _)
  | case6 o argument rest h ih =>
    by_cases hpath : IsPath argument
    · cases hfile : o.file with
      | none => exact reads_read_append (.file argument) ⟨hpath, fun _ _ => hfile⟩ (ih _)
      | some path => exact (Ends.unexpectedArgument hpath (by rw [hfile]; rfl) rest).reads_read
    · have hunknown (switch : Switch) : argument ∉ switch.spellings := by
        intro hswitch
        rw [Switch.ofText?_eq_some_iff.mpr hswitch] at h
        cases h
      exact (Ends.unknownOption hpath hunknown rest).reads_read

theorem parse_eq_iff_reads : parse arguments = r ↔ initial.Reads arguments r := by
  constructor
  · rintro rfl
    exact reads_read initial arguments
  · rintro ⟨i, -, o, htakes, hends⟩
    have hread := htakes.read_append (arguments.drop i)
    rw [List.take_append_drop, hends.read_eq] at hread
    exact hread

end Options

end Spreadsheet.Command
