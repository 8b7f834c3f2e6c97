import Spreadsheet.Proofs.Command.Arguments

/-! # Spelled options

Options are spelled by the parts they consist of, in any order in which the assignments keep theirs.
Each part changes what it stands for and nothing else, so that reading the parts one after the other
makes up the options again.
-/

namespace Spreadsheet.Command.Options

variable {o : Options} {arguments : List String} {part : Part} {parts : List Part}

def toParts (o : Options) : List Part :=
  o.file.toList.map .file ++ o.formula.toList.map .formula ++ o.assignments.map .assignment ++
    o.output.toList.map .output ++ o.pattern.toList.map .pattern ++
    if o.noConfig then [.noConfig] else []

/-- The arguments spell the parts of the options in some order, one behind the other. The assignments
are in their order among themselves. -/
def SpelledBy (o : Options) (arguments : List String) : Prop :=
  ∃ (parts : List Part) (pieces : List (List String)), parts.Perm o.toParts ∧
    parts.filterMap Part.assignment? = o.assignments ∧
    List.Forall₂ Part.SpelledBy parts pieces ∧ arguments = pieces.flatten

structure IsPlain (o : Options) : Prop where
  help : o.help = false
  file : ∀ path, o.file = some path → IsPath path
  assignments : ∀ a ∈ o.assignments, a.IsPlain

theorem mem_toParts_iff : part ∈ o.toParts ↔ match part with
    | .file path => o.file = some path
    | .formula text => o.formula = some text
    | .assignment a => a ∈ o.assignments
    | .output path => o.output = some path
    | .pattern source => o.pattern = some source
    | .noConfig => o.noConfig = true := by
  cases part <;> simp [toParts]

theorem IsPlain.of_mem_toParts (h : o.IsPlain) (hpart : part ∈ o.toParts) : part.IsPlain := by
  rw [mem_toParts_iff] at hpart
  cases part with
  | file path => exact h.file path hpart
  | assignment a => exact h.assignments a hpart
  | _ => trivial

theorem filterMap_file?_toParts (o : Options) :
    o.toParts.filterMap Part.file? = o.file.toList := by
  simp [toParts, Part.file?, List.filterMap_map, Function.comp_def]

/-! ## One part after the other -/

theorem file_add (o : Options) (part : Part) : (o.add part).file = part.file?.or o.file := by
  cases part <;> rfl

theorem takes_of_forall₂ {pieces : List (List String)} (h : List.Forall₂ Part.SpelledBy parts pieces)
    (hplain : ∀ part ∈ parts, part.IsPlain)
    (hfile : (parts.filterMap Part.file?).length + o.file.toList.length ≤ 1) :
    o.Takes pieces.flatten (parts.foldl add o) := by
  induction h generalizing o with
  | nil => exact .nil o
  | @cons part front parts pieces hpart _ ih =>
    have hrest := fun part hm => hplain part (List.mem_cons_of_mem _ hm)
    have hplain := hplain part List.mem_cons_self
    rw [List.flatten_cons, List.foldl_cons]
    cases hpath : part.file? with
    | none =>
      rw [List.filterMap_cons_none hpath] at hfile
      refine .cons hpart ⟨hplain, fun path hsome => ?_⟩ (ih hrest ?_)
      · rw [hpath] at hsome
        cases hsome
      · rwa [file_add, hpath, Option.none_or]
    | some path =>
      rw [List.filterMap_cons_some hpath, List.length_cons] at hfile
      have hnone : o.file = none := by
        cases ho : o.file with
        | none => rfl
        | some path =>
          rw [ho, Option.toList_some, List.length_singleton] at hfile
          omega
      refine .cons hpart ⟨hplain, fun _ _ => hnone⟩ (ih hrest ?_)
      rw [file_add, hpath, Option.some_or, Option.toList_some, List.length_singleton]
      omega

/-- A field holds the value of one of the parts that set it, or is left as it was by the others. -/
theorem field_foldl_add {field : Options → Option String} {mk : String → Part}
    (hset : ∀ (o : Options) (v : String), field (o.add (mk v)) = some v)
    (hkeep : ∀ (o : Options) (part : Part), (∃ v, part = mk v) ∨ field (o.add part) = field o)
    (parts : List Part) (o : Options) :
    (∃ v, mk v ∈ parts ∧ field (parts.foldl add o) = some v) ∨
      ((∀ v, mk v ∉ parts) ∧ field (parts.foldl add o) = field o) := by
  induction parts generalizing o with
  | nil => exact .inr ⟨fun v => List.not_mem_nil, rfl⟩
  | cons part parts ih =>
    rw [List.foldl_cons]
    rcases ih (o.add part) with ⟨v, hv, hfield⟩ | ⟨hno, hfield⟩
    · exact .inl ⟨v, List.mem_cons_of_mem _ hv, hfield⟩
    · by_cases hpart : ∃ v, part = mk v
      · obtain ⟨v, rfl⟩ := hpart
        exact .inl ⟨v, List.mem_cons_self, hfield.trans (hset o v)⟩
      · refine .inr ⟨fun v hv => ?_, hfield.trans ((hkeep o part).resolve_left hpart)⟩
        rcases List.mem_cons.mp hv with hv | hv
        · exact hpart ⟨v, hv.symm⟩
        · exact hno v hv

theorem field_foldl_add_initial {field : Options → Option String} {mk : String → Part}
    (hset : ∀ (o : Options) (v : String), field (o.add (mk v)) = some v)
    (hkeep : ∀ (o : Options) (part : Part), (∃ v, part = mk v) ∨ field (o.add part) = field o)
    (hinitial : field initial = none) (hmem : ∀ v, mk v ∈ parts ↔ field o = some v) :
    field (parts.foldl add initial) = field o := by
  rcases field_foldl_add hset hkeep parts initial with ⟨v, hv, hfield⟩ | ⟨hno, hfield⟩
  · rw [hfield, (hmem v).mp hv]
  · rw [hfield, hinitial, eq_comm, Option.eq_none_iff_forall_ne_some]
    exact fun v hv => hno v ((hmem v).mpr hv)

theorem assignments_foldl_add (parts : List Part) (o : Options) :
    (parts.foldl add o).assignments = o.assignments ++ parts.filterMap Part.assignment? := by
  induction parts generalizing o with
  | nil => simp
  | cons part parts ih =>
    rw [List.foldl_cons, ih]
    cases part <;> simp [add, Part.assignment?, List.filterMap_cons]

theorem noConfig_foldl_add (parts : List Part) (o : Options) :
    (parts.foldl add o).noConfig = true ↔ o.noConfig = true ∨ .noConfig ∈ parts := by
  induction parts generalizing o with
  | nil => simp
  | cons part parts ih =>
    rw [List.foldl_cons, ih]
    cases part <;> simp [add]

theorem help_foldl_add (parts : List Part) (o : Options) :
    (parts.foldl add o).help = o.help := by
  induction parts generalizing o with
  | nil => rfl
  | cons part parts ih =>
    rw [List.foldl_cons, ih]
    cases part <;> rfl

/-- The parts of the options make them up again. -/
theorem foldl_add_initial (hp : parts.Perm o.toParts)
    (hassignments : parts.filterMap Part.assignment? = o.assignments) (hhelp : o.help = false) :
    parts.foldl add initial = o := by
  have hmem (part : Part) : part ∈ parts ↔ _ := hp.mem_iff.trans mem_toParts_iff
  have hfile : (parts.foldl add initial).file = o.file :=
    field_foldl_add_initial (fun _ _ => rfl) (fun _ part => by cases part <;> simp [add]) rfl
      fun path => hmem (.file path)
  have hformula : (parts.foldl add initial).formula = o.formula :=
    field_foldl_add_initial (fun _ _ => rfl) (fun _ part => by cases part <;> simp [add]) rfl
      fun text => hmem (.formula text)
  have houtput : (parts.foldl add initial).output = o.output :=
    field_foldl_add_initial (fun _ _ => rfl) (fun _ part => by cases part <;> simp [add]) rfl
      fun path => hmem (.output path)
  have hpattern : (parts.foldl add initial).pattern = o.pattern :=
    field_foldl_add_initial (fun _ _ => rfl) (fun _ part => by cases part <;> simp [add]) rfl
      fun source => hmem (.pattern source)
  have hall : (parts.foldl add initial).assignments = o.assignments := by
    rw [assignments_foldl_add, hassignments]
    rfl
  have hnoConfig : (parts.foldl add initial).noConfig = o.noConfig := by
    rw [Bool.eq_iff_iff, noConfig_foldl_add, hmem]
    simp [initial]
  have hnoHelp : (parts.foldl add initial).help = o.help := by
    rw [help_foldl_add, hhelp]
    rfl
  calc parts.foldl add initial
      = ⟨o.file, o.formula, o.assignments, o.output, o.pattern, o.noConfig, o.help⟩ := by
        rw [← hfile, ← hformula, ← hall, ← houtput, ← hpattern, ← hnoConfig, ← hnoHelp]
    _ = o := rfl

theorem parse_of_spelledBy (h : o.IsPlain) (hs : o.SpelledBy arguments) :
    parse arguments = .ok o := by
  obtain ⟨parts, pieces, hp, hassignments, hpieces, rfl⟩ := hs
  have htakes : initial.Takes pieces.flatten (parts.foldl add initial) := by
    refine takes_of_forall₂ hpieces (fun part hm => h.of_mem_toParts (hp.mem_iff.mp hm)) ?_
    rw [(hp.filterMap Part.file?).length_eq, filterMap_file?_toParts]
    cases o.file <;> simp [initial]
  rw [foldl_add_initial hp hassignments h.help] at htakes
  simpa [parse, read] using htakes.read_append []

/-- Reading finds plain options again in whatever order their parts are spelled, be it by short names
or long ones, whatever their values look like. It comes to an end on every list of arguments: with
parts taken up to some position in the list, the end of the list included, and for a reason that what
stands at this position gives. -/
theorem parse_spelled :
    (∀ (o : Options) (arguments : List String), o.IsPlain → o.SpelledBy arguments →
      parse arguments = .ok o) ∧
    ∀ (arguments : List String) (r : Except ArgumentError Options), parse arguments = r ↔
      ∃ i ≤ arguments.length, ∃ o, initial.Takes (arguments.take i) o ∧ o.Ends (arguments.drop i) r :=
  ⟨fun _ _ => parse_of_spelledBy, fun _ _ => parse_eq_iff_reads⟩

/-- No value is what it looks like, and the file is a hyphen. -/
def misleading : Options :=
  ⟨some "-", some "-h", [⟨"B1", "=A1*2"⟩, ⟨"", "--set"⟩], some "--output", some "=", true, false⟩

/-- Blanks stand around the cell of the first assignment. -/
theorem parse_spelled_misleading : ∃ arguments : List String,
    arguments = ["--pattern", "=", "-s", " B1 ==A1*2", "-", "--no-config", "-o", "--output",
      "--set", "=--set", "-c", "-h"] ∧
    misleading.IsPlain ∧ misleading.SpelledBy arguments ∧ parse arguments = .ok misleading ∧
    ∀ r, parse arguments = r ↔ ∃ i ≤ arguments.length, ∃ o,
      initial.Takes (arguments.take i) o ∧ o.Ends (arguments.drop i) r := by
  have hplain : misleading.IsPlain := by
    refine ⟨rfl, fun path hpath => ?_, fun a ha => ?_⟩
    · cases hpath
      decide
    · simp only [misleading, List.mem_cons, List.not_mem_nil, or_false] at ha
      rcases ha with rfl | rfl
      · refine ⟨by decide, ?_, ?_⟩ <;> rintro c ⟨⟩ <;> decide
      · refine ⟨by decide, ?_, ?_⟩ <;> rintro c ⟨⟩
  have hspelled : misleading.SpelledBy ["--pattern", "=", "-s", " B1 ==A1*2", "-", "--no-config",
      "-o", "--output", "--set", "=--set", "-c", "-h"] := by
    refine ⟨[.pattern "=", .assignment ⟨"B1", "=A1*2"⟩, .file "-", .noConfig, .output "--output",
      .assignment ⟨"", "--set"⟩, .formula "-h"], [["--pattern", "="], ["-s", " B1 ==A1*2"], ["-"],
      ["--no-config"], ["-o", "--output"], ["--set", "=--set"], ["-c", "-h"]], by decide, rfl, ?_, rfl⟩
    refine .cons (.pattern (by decide) _) (.cons (.assignment (by decide) ?_) (.cons (.file _)
      (.cons (.noConfig (by decide)) (.cons (.output (by decide) _)
        (.cons (.assignment (by decide) ?_) (.cons (.formula (by decide) _) .nil))))))
    · have hblank : ∀ c ∈ [' '], Text.isBlank c = true := by
        rintro c (_ | ⟨_, ⟨⟩⟩)
        decide
      exact ⟨[' '], [' '], hblank, hblank, by decide⟩
    · exact ⟨[], [], nofun, nofun, by decide⟩
  obtain ⟨hparse, hends⟩ := parse_spelled
  exact ⟨_, rfl, hplain, hspelled, hparse _ _ hplain hspelled, hends _⟩

end Spreadsheet.Command.Options
