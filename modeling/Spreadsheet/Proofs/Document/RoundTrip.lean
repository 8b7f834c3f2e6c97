import Spreadsheet.Document.Reader
import Spreadsheet.Document.Writer
import Spreadsheet.Proofs.Except
import Spreadsheet.Proofs.Text.Utf8
import Spreadsheet.Proofs.Xml.Entity
import Spreadsheet.Proofs.Xml.Event

/-! # Written documents

A written document is read back as it was: each line of it moves the reader from one place to the
next, with the line break behind it still to be read.
-/

namespace Spreadsheet.Document

open Text (Symbol)
open Xml (OpenNames IsName eventsFrom escape symbols)

variable {opened : OpenNames} {rest : List Symbol} {body : Body} {draft draft' : Draft} {f : Field}
  {place place' : Place} {name w : List Symbol}

/-- The reader is not between the tags of a field, so only blanks may stand here. -/
def Place.AmongTags : Place → Prop
  | .field .. => False
  | _ => True

namespace Place

theorem step_text (hp : place.AmongTags) (hw : w.all isFiller = true) :
    place.step (.text w) = .ok place := by
  cases place <;> first | exact hp.elim | simp [step, hw]

theorem read_of_step {e : Xml.Event} {es : List Xml.Event} (hi : e.isIgnored = false)
    (hm : e ≠ .malformed) (hf : e ≠ .finish) (h : place.step e = .ok place') :
    place.read (e :: es) = place'.read es := by
  rw [read]
  · rw [hi, h]
    rfl
  · exact hf
  · exact hm

theorem read_ignored {e : Xml.Event} {es : List Xml.Event} (h : e.isIgnored = true) :
    place.read (e :: es) = place.read es := by
  cases e <;> first | rfl | cases h

theorem read_filler (hp : place.AmongTags) (hw : w.all isFiller = true) :
    place.read (eventsFrom opened (w ++ .char '<' :: rest)) =
      place.read (eventsFrom opened (.char '<' :: rest)) := by
  have hne : ∀ x ∈ w, x ≠ .char '<' := by
    rintro x hx rfl
    have := List.all_eq_true.mp hw _ hx
    simp [isFiller] at this
  by_cases hnil : w = []
  · rw [hnil, List.nil_append]
  · rw [Xml.eventsFrom_text hnil hne]
    exact read_of_step rfl (by simp) (by simp) (step_text hp hw)

theorem read_start (hp : place.AmongTags) (hw : w.all isFiller = true) (hn : IsName name)
    (h : place.step (.start ⟨name, []⟩) = .ok place') :
    place.read (eventsFrom opened (w ++ .char '<' :: (name ++ .char '>' :: rest))) =
      place'.read (eventsFrom (name :: opened) rest) := by
  rw [read_filler hp hw, Xml.eventsFrom_start hn]
  exact read_of_step rfl (by simp) (by simp) h

theorem read_close (hp : place.AmongTags) (hw : w.all isFiller = true) (hn : IsName name)
    (h : place.step .close = .ok place') :
    place.read (eventsFrom (name :: opened)
        (w ++ .char '<' :: .char '/' :: (name ++ .char '>' :: rest))) =
      place'.read (eventsFrom opened rest) := by
  rw [read_filler hp hw, Xml.eventsFrom_close hn]
  exact read_of_step rfl (by simp) (by simp) h

end Place

open Place

/-! ## Fields -/

theorem decodeText_escape (cs : List Char) : decodeText ((escape cs).map Symbol.char) = .ok cs := by
  rw [decodeText, Text.characters?_map_char, Option.bind_some, Xml.unescape?_escape]

theorem ne_of_mem_escape {x : Symbol} {c : Char} {cs : List Char} (hc : Xml.IsMarkup c)
    (hx : x ∈ (escape cs).map Symbol.char) : x ≠ .char c := by
  rintro rfl
  obtain ⟨d, hd, he⟩ := List.mem_map.mp hx
  cases he
  exact Xml.not_isMarkup_of_mem_escape hd hc

theorem read_fieldText (text : List Char) :
    (Place.field body draft f []).read
        (eventsFrom opened ((escape text).map Symbol.char ++ .char '<' :: rest)) =
      (Place.field body draft f text).read (eventsFrom opened (.char '<' :: rest)) := by
  by_cases hnil : (escape text).map Symbol.char = []
  · have hempty : decodeText [] = .ok [] := decodeText_escape []
    have hd := decodeText_escape text
    rw [hnil, hempty] at hd
    cases hd
    rw [hnil, List.nil_append]
  · rw [Xml.eventsFrom_text hnil fun x hx => ne_of_mem_escape (.inl rfl) hx]
    refine read_of_step rfl (by simp) (by simp) ?_
    rw [step, decodeText_escape]
    rfl

theorem isName_symbols {s : String} (hs : s.toList ≠ []) (h : ∀ c ∈ s.toList, c.isAlpha = true) :
    IsName (symbols s) where
  ne_nil he := hs (List.map_eq_nil_iff.mp he)
  letters x hx := by
    obtain ⟨c, hc, rfl⟩ := List.mem_map.mp hx
    exact ⟨c, rfl, h c hc⟩

theorem Field.isName_element (f : Field) : IsName (symbols f.element) := by
  cases f
  · exact isName_symbols (by simp [element]) (by simp [element])
  · exact isName_symbols (by simp [element]) (by simp [element])

theorem Field.symbols_line (f : Field) (text : String) :
    (f.line text).map Symbol.char = symbols "    " ++ .char '<' :: (symbols f.element ++
      .char '>' :: ((escape text.toList).map Symbol.char ++ .char '<' :: .char '/' ::
        (symbols f.element ++ .char '>' :: [.char '\n']))) := by
  simp [line, symbols]

theorem read_field {text : String} (h : draft.fill f text.toList = .ok draft') :
    (Place.cell body draft).read
        (eventsFrom opened (.char '\n' :: ((f.line text).map Symbol.char ++ rest))) =
      (Place.cell body draft').read (eventsFrom opened (.char '\n' :: rest)) := by
  have hfield : fieldOf? ⟨symbols f.element, []⟩ = some f := by
    cases f <;> simp [fieldOf?, named, Xml.Tag.localName, symbols, Field.element]
  have hstart : (Place.cell body draft).step (.start ⟨symbols f.element, []⟩) =
      .ok (.field body draft f []) := by
    simp [step, hfield]
  have hclose : (Place.field body draft f text.toList).step .close = .ok (.cell body draft') := by
    rw [step, h]
    rfl
  have hwhole : .char '\n' :: ((f.line text).map Symbol.char ++ rest) =
      symbols "\n    " ++ .char '<' :: (symbols f.element ++ .char '>' ::
        ((escape text.toList).map Symbol.char ++ .char '<' :: .char '/' ::
          (symbols f.element ++ .char '>' :: (.char '\n' :: rest)))) := by
    simp [f.symbols_line, symbols]
  have hw : (symbols "\n    ").all isFiller = true := by decide
  have ha : (Place.cell body draft).AmongTags := trivial
  rw [hwhole, read_start ha hw f.isName_element hstart, read_fieldText, Xml.eventsFrom_close f.isName_element]
  exact read_of_step rfl (by simp) (by simp) hclose

/-! ## Records -/

theorem Record.lines_eq (r : Record) : r.lines = "  <cell>\n".toList ++ Field.name.line r.name ++
    Field.contents.line r.contents ++ "  </cell>\n".toList := rfl

theorem read_record (r : Record) :
    (Place.sheet body).read
        (eventsFrom opened (.char '\n' :: (r.lines.map Symbol.char ++ rest))) =
      (Place.sheet ⟨body.pattern, r :: body.records⟩).read
        (eventsFrom opened (.char '\n' :: rest)) := by
  have hname : IsName (symbols "cell") := isName_symbols (by simp) (by simp)
  have hwhole : .char '\n' :: (r.lines.map Symbol.char ++ rest) =
      symbols "\n  " ++ .char '<' :: (symbols "cell" ++ .char '>' ::
        (.char '\n' :: ((Field.name.line r.name).map Symbol.char ++
          ((Field.contents.line r.contents).map Symbol.char ++ (symbols "  " ++ .char '<' ::
            .char '/' :: (symbols "cell" ++ .char '>' :: (.char '\n' :: rest))))))) := by
    simp [r.lines_eq, symbols]
  have hstart : (Place.sheet body).step (.start ⟨symbols "cell", []⟩) =
      .ok (.cell body .empty) := by
    simp [step, named, Xml.Tag.localName, symbols]
  have hfill : Draft.empty.fill .name r.name.toList = .ok ⟨some r.name, none⟩ := by
    simp [Draft.fill, Draft.field?, Draft.empty]
  have hfill' : Draft.fill ⟨some r.name, none⟩ .contents r.contents.toList =
      .ok ⟨some r.name, some r.contents⟩ := by
    simp [Draft.fill, Draft.field?]
  have hclose : (Place.cell body ⟨some r.name, some r.contents⟩).step .close =
      .ok (.sheet ⟨body.pattern, r :: body.records⟩) := rfl
  have hline (s : List Symbol) : .char '\n' :: (symbols "  " ++ s) = symbols "\n  " ++ s := by
    simp [symbols]
  have hw : (symbols "\n  ").all isFiller = true := by decide
  rw [hwhole, read_start (show (Place.sheet body).AmongTags from trivial) hw hname hstart,
    read_field hfill, read_field hfill', hline]
  exact read_close (show (Place.cell body _).AmongTags from trivial) hw hname hclose

theorem read_records (rs : List Record) :
    (Place.sheet body).read
        (eventsFrom opened (.char '\n' :: ((rs.flatMap Record.lines).map Symbol.char ++ rest))) =
      (Place.sheet ⟨body.pattern, rs.reverse ++ body.records⟩).read
        (eventsFrom opened (.char '\n' :: rest)) := by
  induction rs generalizing body with
  | nil => rfl
  | cons r rs ih =>
    rw [List.flatMap_cons, List.map_append, List.append_assoc, read_record, ih]
    simp

/-! ## Documents -/

theorem isName_spreadsheet : IsName (symbols "spreadsheet") :=
  isName_symbols (by simp) (by simp)

theorem read_header (pattern : String) :
    Place.prolog.read (eventsFrom []
        (symbols "<?xml version=\"1.0\" encoding=\"utf-8\"?>\n<spreadsheet IsValid=\"" ++
          ((escape pattern.toList).map Symbol.char ++ (symbols "\">" ++ rest)))) =
      (Place.sheet ⟨pattern, []⟩).read (eventsFrom [symbols "spreadsheet"] rest) := by
  let a : Xml.Attribute := ⟨symbols "IsValid", (escape pattern.toList).map Symbol.char⟩
  have ha : a.IsWritten :=
    ⟨isName_symbols (by simp) (by simp), fun x hx => ne_of_mem_escape (.inr (.inr (.inl rfl))) hx⟩
  have hversion : ∀ x ∈ symbols "version=\"1.0\" encoding=\"utf-8\"", x ≠ .char '?' := by
    simp [symbols]
  have hwhole : symbols "<?xml version=\"1.0\" encoding=\"utf-8\"?>\n<spreadsheet IsValid=\"" ++
      ((escape pattern.toList).map Symbol.char ++ (symbols "\">" ++ rest)) =
      .char '<' :: .char '?' :: (symbols "xml " ++ symbols "version=\"1.0\" encoding=\"utf-8\"" ++
        (symbols "?>" ++ (symbols "\n" ++ .char '<' ::
          (symbols "spreadsheet" ++ (a.text ++ .char '>' :: rest))))) := by
    simp [a, Xml.Attribute.text, symbols]
  have hstart : Place.prolog.step (.start ⟨symbols "spreadsheet", a.text⟩) =
      .ok (.sheet ⟨pattern, []⟩) := by
    have hnamed : named ⟨symbols "spreadsheet", a.text⟩ "spreadsheet" = true := by
      simp [named, Xml.Tag.localName, symbols]
    have hpattern : recordedPattern ⟨symbols "spreadsheet", a.text⟩ = .ok pattern := by
      have hfind : Xml.Attribute.find? (symbols "IsValid") [] a.text =
        .ok ((escape pattern.toList).map Symbol.char) := ha.find?
      rw [recordedPattern, hfind]
      simp only [decodeText_escape, Except.map, String.ofList_toList]
    rw [step, enterRoot, if_pos hnamed, hpattern]
    rfl
  rw [hwhole, Xml.eventsFrom_declaration hversion, read_ignored rfl,
    read_filler (show Place.prolog.AmongTags from trivial) (by decide),
    ha.eventsFrom_start isName_spreadsheet]
  exact read_of_step rfl (by simp) (by simp) hstart

theorem read_footer :
    (Place.sheet body).read (eventsFrom [symbols "spreadsheet"]
        (.char '\n' :: symbols "</spreadsheet>\n")) =
      .ok ⟨body.pattern, body.records.reverse⟩ := by
  have hwhole : .char '\n' :: symbols "</spreadsheet>\n" = symbols "\n" ++ .char '<' :: .char '/' ::
      (symbols "spreadsheet" ++ .char '>' :: [.char '\n']) := by
    simp [symbols]
  have hend : eventsFrom [] [.char '\n'] = [.text [.char '\n'], .finish] := by
    simp [eventsFrom]
  have hw : (symbols "\n").all isFiller = true := by decide
  rw [hwhole, read_close (show (Place.sheet body).AmongTags from trivial) hw isName_spreadsheet rfl,
    hend]
  rfl

theorem chars_eq (d : Document) : d.chars =
    "<?xml version=\"1.0\" encoding=\"utf-8\"?>\n<spreadsheet IsValid=\"".toList ++
      escape d.pattern.toList ++ "\">\n".toList ++ d.records.flatMap Record.lines ++
      "</spreadsheet>\n".toList := rfl

theorem ofBytes_render (d : Document) : ofBytes d.render.toUTF8.data.toList = .ok d := by
  have hwhole : d.chars.map Symbol.char =
      symbols "<?xml version=\"1.0\" encoding=\"utf-8\"?>\n<spreadsheet IsValid=\"" ++
        ((escape d.pattern.toList).map Symbol.char ++ (symbols "\">" ++ .char '\n' ::
          ((d.records.flatMap Record.lines).map Symbol.char ++ symbols "</spreadsheet>\n"))) := by
    simp [d.chars_eq, symbols]
  have hevents : Xml.events d.render.toUTF8.data.toList =
      eventsFrom [] (d.chars.map Symbol.char) := by
    obtain ⟨tail, htail⟩ : ∃ tail, d.chars.map Symbol.char = .char '<' :: tail :=
      ⟨_, hwhole.trans rfl⟩
    rw [Xml.events, Text.Utf8.symbols_toUTF8, render, String.toList_ofList, htail]
    split
    · rename_i h
      simp at h
    · rfl
  rw [ofBytes, ofEvents, hevents, hwhole, read_header, read_records, read_footer]
  simp

/-! ## Written cells -/

theorem ofCells_eq (pattern : String) (cells : List (CellName × Content)) :
    ofCells pattern cells = ⟨pattern, cells.filterMap fun (a, c) =>
      if c = .text "" then none else some ⟨a.text, c.display⟩⟩ := by
  have hrecord (p : CellName × Content) :
      (if !p.2.isEmpty then some (Record.mk p.1.text p.2.display) else none) =
        if p.2 = .text "" then none else some ⟨p.1.text, p.2.display⟩ := by
    obtain ⟨a, c⟩ := p
    cases c <;> simp [Content.isEmpty]
  rw [ofCells, ← List.filterMap_eq_map, List.filterMap_filter]
  exact congrArg (Document.mk pattern) (List.filterMap_congr fun p _ => hrecord p)

/-- Whatever cells are written, in whatever order and however often, the pattern is read back as it was
and each cell that is not empty as one record with its name and what its content displays. -/
theorem ofBytes_render_ofCells (pattern : String) (cells : List (CellName × Content)) :
    ofBytes (ofCells pattern cells).render.toUTF8.data.toList =
      .ok ⟨pattern, cells.filterMap fun (a, c) =>
        if c = .text "" then none else some ⟨a.text, c.display⟩⟩ := by
  rw [ofBytes_render, ofCells_eq]

end Spreadsheet.Document
