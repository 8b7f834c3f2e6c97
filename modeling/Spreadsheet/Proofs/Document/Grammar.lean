import Spreadsheet.Proofs.Document.RoundTrip

/-! # The grammar of documents

The events of a document form a language: padding, one root element with cells in it, padding again,
and the end. Reading accepts exactly this language. What may follow at each place of the reader is a
part of it, and each event that the reader takes is the first of such a part.
-/

namespace Spreadsheet

namespace Xml

open Text (Symbol)

def Event.IsLast (e : Event) : Prop := e = .malformed ∨ e = .finish

/-- Events as they are delivered: one that is last, and before it others. Whether the tags among them
match is left open. -/
inductive IsRun : List Event → Prop
  | malformed : IsRun [.malformed]
  | finish : IsRun [.finish]
  | more {e : Event} {es : List Event} (next : ¬ e.IsLast) (rest : IsRun es) : IsRun (e :: es)

theorem not_isLast_of_declaration? {s rest : List Symbol} {e : Event}
    (h : declaration? s = some (e, rest)) : ¬ e.IsLast := by
  unfold declaration? at h
  split at h
  · obtain ⟨p, -, h⟩ := Option.map_eq_some_iff.mp h
    cases h
    simp [Event.IsLast]
  · split at h
    · obtain ⟨p, -, h⟩ := Option.map_eq_some_iff.mp h
      cases h
      simp [Event.IsLast]
    · cases h
  · repeat' split at h
    all_goals cases h
    simp [Event.IsLast]

theorem not_isLast_of_instruction? {s rest : List Symbol} {e : Event}
    (h : instruction? s = some (e, rest)) : ¬ e.IsLast := by
  unfold instruction? at h
  split at h
  · cases h
  · simp only [Option.map_eq_some_iff] at h
    obtain ⟨p, -, h⟩ := h
    split at h <;> · cases h; simp [Event.IsLast]

theorem not_isLast_of_markup? {opened opened' : OpenNames} {s rest : List Symbol} {e : Event}
    (h : markup? opened s = some (e, opened', rest)) : ¬ e.IsLast := by
  unfold markup? at h
  split at h
  · cases h
  · obtain ⟨p, hp, h⟩ := Option.map_eq_some_iff.mp h
    cases h
    exact not_isLast_of_declaration? hp
  · obtain ⟨p, hp, h⟩ := Option.map_eq_some_iff.mp h
    cases h
    exact not_isLast_of_instruction? hp
  · simp only [Option.bind_eq_bind, Option.bind_eq_some_iff] at h
    obtain ⟨p, -, opened, -, h⟩ := h
    cases h
    simp [Event.IsLast]
  · simp only [Option.bind_eq_bind, Option.bind_eq_some_iff] at h
    obtain ⟨⟨content, rest⟩, -, h⟩ := h
    cases h
    unfold startTag
    split <;> simp [Event.IsLast]

theorem isRun_eventsFrom (opened : OpenNames) (s : List Symbol) : IsRun (eventsFrom opened s) := by
  fun_induction eventsFrom opened s with
  | case1 => exact .finish
  | case2 opened cs e opened' rest h ih => exact .more (not_isLast_of_markup? h) ih
  | case3 opened cs h => exact .malformed
  | case4 opened c cs hc ih => exact .more (by simp [Event.IsLast]) ih

theorem isRun_events (bytes : List UInt8) : IsRun (events bytes) := by
  unfold events
  split <;> exact isRun_eventsFrom [] _

/-- The attributes up to the first one with the wanted key can be read, and this one has the value. -/
inductive Attribute.Finds (wanted : List Symbol) :
    List (List Symbol) → List Symbol → List Symbol → Prop
  | here {seen : List (List Symbol)} {s rest : List Symbol} {a : Attribute}
      (first : first? seen s = .ok (a, rest)) (key : a.key = wanted) : Finds wanted seen s a.value
  | later {seen : List (List Symbol)} {s rest value : List Symbol} {a : Attribute}
      (first : first? seen s = .ok (a, rest)) (key : a.key ≠ wanted)
      (found : Finds wanted (a.key :: seen) rest value) : Finds wanted seen s value

end Xml

namespace Document

open Text (Symbol)
open Xml (Event Tag Attribute IsRun)

/-! ## The language -/

/-- Texts of blanks alone. -/
def IsPadding (es : List Event) : Prop := ∀ e ∈ es, ∃ s, e = .text s ∧ s.all isFiller = true

/-- Texts and verbatim sections, and the text that they are together. -/
inductive IsText : List Event → List Char → Prop
  | nil : IsText [] []
  | text {s : List Symbol} {cs ds : List Char} {es : List Event} (decoded : decodeText s = .ok cs)
      (rest : IsText es ds) : IsText (.text s :: es) (cs ++ ds)
  | verbatim {s : List Symbol} {ds : List Char} {es : List Event} (rest : IsText es ds) :
      IsText (.verbatim s :: es) (s.map Symbol.replaced ++ ds)

inductive IsField (f : Field) : List Event → String → Prop
  | empty {t : Tag} (name : named t f.element = true) : IsField f [.empty t] ""
  | element {t : Tag} {es : List Event} {cs : List Char} (name : named t f.element = true)
      (text : IsText es cs) : IsField f (.start t :: es ++ [.close]) (String.ofList cs)

inductive IsFields : List Event → List (Field × String) → Prop
  | nil : IsFields [] []
  | padding {s : List Symbol} {es : List Event} {fs : List (Field × String)}
      (blank : s.all isFiller = true) (rest : IsFields es fs) : IsFields (.text s :: es) fs
  | field {f : Field} {text : String} {xs es : List Event} {fs : List (Field × String)}
      (first : IsField f xs text) (rest : IsFields es fs) : IsFields (xs ++ es) ((f, text) :: fs)

def Record.entries (r : Record) : List (Field × String) :=
  [(.name, r.name), (.contents, r.contents)]

/-- The element of a cell. It has each field once, in either order. -/
inductive IsCell : List Event → Record → Prop
  | element {t : Tag} {es : List Event} {fs : List (Field × String)} {r : Record}
      (name : named t "cell" = true) (content : IsFields es fs)
      (fields : fs.Perm r.entries) :
      IsCell (.start t :: es ++ [.close]) r

inductive IsCells : List Event → List Record → Prop
  | nil : IsCells [] []
  | padding {s : List Symbol} {es : List Event} {rs : List Record}
      (blank : s.all isFiller = true) (rest : IsCells es rs) : IsCells (.text s :: es) rs
  | cell {r : Record} {xs es : List Event} {rs : List Record} (first : IsCell xs r)
      (rest : IsCells es rs) : IsCells (xs ++ es) (r :: rs)

/-- The tag is that of a root element and records the pattern. -/
structure Opens (t : Tag) (pattern : String) : Prop where
  name : named t "spreadsheet" = true
  pattern : ∃ value cs, Attribute.Finds (Xml.symbols "IsValid") [] t.rest value ∧
    decodeText value = .ok cs ∧ pattern = String.ofList cs

inductive IsRoot : List Event → Document → Prop
  | empty {t : Tag} {pattern : String} (tag : Opens t pattern) : IsRoot [.empty t] ⟨pattern, []⟩
  | element {t : Tag} {es : List Event} {d : Document} (tag : Opens t d.pattern)
      (content : IsCells es d.records) : IsRoot (.start t :: es ++ [.close]) d

/-- The events of a document, without those that carry no data. -/
def IsDocument (es : List Event) (d : Document) : Prop :=
  ∃ before root behind, es = before ++ root ++ behind ++ [.finish] ∧
    IsPadding before ∧ IsRoot root d ∧ IsPadding behind

/-! ## Drafts -/

def Draft.entries (draft : Draft) : List (Field × String) :=
  (draft.name.map (Field.name, ·)).toList ++ (draft.contents.map (Field.contents, ·)).toList

namespace Draft

variable {draft draft' : Draft} {f : Field} {cs : List Char} {fs : List (Field × String)} {r : Record}

theorem field?_eq_none_iff : draft.field? f = none ↔ ∀ text, (f, text) ∉ draft.entries := by
  obtain ⟨name, contents⟩ := draft
  cases f <;> cases name <;> cases contents <;> simp [field?, entries]

theorem exists_fill_iff : (∃ draft', draft.fill f cs = .ok draft') ↔ draft.field? f = none := by
  unfold fill
  cases hf : draft.field? f with
  | none => cases f <;> simp
  | some text => simp

theorem perm_entries_of_fill (h : draft.fill f cs = .ok draft') :
    draft'.entries.Perm ((f, String.ofList cs) :: draft.entries) := by
  have hf := exists_fill_iff.mp ⟨draft', h⟩
  obtain ⟨name, contents⟩ := draft
  cases f with
  | name =>
    obtain rfl : name = none := hf
    cases h
    exact .refl _
  | contents =>
    obtain rfl : contents = none := hf
    cases h
    cases name with
    | none => exact .refl _
    | some n => exact .swap _ _ _

/-- The fields that are filled in and those to come are together those of a record. -/
def Completes (draft : Draft) (fs : List (Field × String)) (r : Record) : Prop :=
  (draft.entries ++ fs).Perm r.entries

theorem completes_nil_iff : draft.Completes [] r ↔ draft.finish = .ok r := by
  obtain ⟨name, contents⟩ := draft
  obtain ⟨n, c⟩ := r
  rw [Completes, List.append_nil]
  constructor
  · intro h
    have hname : (.name, n) ∈ entries ⟨name, contents⟩ := h.mem_iff.mpr List.mem_cons_self
    have hcontents : (.contents, c) ∈ entries ⟨name, contents⟩ :=
      h.mem_iff.mpr (List.mem_cons_of_mem _ List.mem_cons_self)
    obtain rfl : name = some n := by simpa [entries] using hname
    obtain rfl : contents = some c := by simpa [entries] using hcontents
    rfl
  · intro h
    cases name <;> cases contents <;> cases h
    exact .refl _

theorem completes_cons_iff {text : String} : draft.Completes ((f, text) :: fs) r ↔
    ∃ draft', draft.fill f text.toList = .ok draft' ∧ draft'.Completes fs r := by
  have hperm {draft' : Draft} (h : draft.fill f text.toList = .ok draft') :
      (draft'.entries ++ fs).Perm (draft.entries ++ (f, text) :: fs) := by
    have hfill := (perm_entries_of_fill h).append_right fs
    rw [String.ofList_toList] at hfill
    exact hfill.trans List.perm_middle.symm
  constructor
  · intro h
    -- The fields of a record differ, so this one is not among those filled in.
    have hfields : ((draft.entries ++ (f, text) :: fs).map Prod.fst).Nodup :=
      (h.map Prod.fst).nodup_iff.mpr (by simp [Record.entries])
    have hnew : draft.field? f = none := by
      refine field?_eq_none_iff.mpr fun text' hmem => ?_
      rw [List.map_append, List.map_cons] at hfields
      have hdisjoint := (List.nodup_append.mp hfields).2.2
      exact hdisjoint f (List.mem_map.mpr ⟨_, hmem, rfl⟩) f List.mem_cons_self rfl
    obtain ⟨draft', hfill⟩ := exists_fill_iff.mpr hnew
    exact ⟨draft', hfill, (hperm hfill).trans h⟩
  · rintro ⟨draft', hfill, h⟩
    exact (hperm hfill).symm.trans h

end Draft

/-! ## Tags -/

variable {t : Tag} {pattern : String}

theorem find?_of_first? {wanted s rest : List Symbol} {seen : List (List Symbol)} {a : Attribute}
    (h : Attribute.first? seen s = .ok (a, rest)) : Attribute.find? wanted seen s =
      if a.key = wanted then .ok a.value else Attribute.find? wanted (a.key :: seen) rest := by
  rw [Attribute.find?]
  split
  · rename_i h'
    cases h.symm.trans h'
  · rename_i h'
    cases h.symm.trans h'
    rfl

theorem find?_eq_ok_iff {wanted value s : List Symbol} {seen : List (List Symbol)} :
    Attribute.find? wanted seen s = .ok value ↔ Attribute.Finds wanted seen s value := by
  constructor
  · intro h
    fun_induction Attribute.find? wanted seen s with
    | case1 seen s e he => cases h
    | case2 seen s a rest hfirst hkey =>
      cases h
      exact .here hfirst hkey
    | case3 seen s a rest hfirst hkey ih => exact .later hfirst hkey (ih h)
  · intro h
    induction h with
    | here first key => rw [find?_of_first? first, if_pos key]
    | later first key _ ih =>
      rw [find?_of_first? first, if_neg key]
      exact ih

theorem recordedPattern_eq_ok_iff : recordedPattern t = .ok pattern ↔
    ∃ value cs, Attribute.Finds (Xml.symbols "IsValid") [] t.rest value ∧
      decodeText value = .ok cs ∧ pattern = String.ofList cs := by
  simp only [← find?_eq_ok_iff, recordedPattern]
  split
  · rename_i value hfind
    simp [hfind, Except.map_eq_ok_iff, eq_comm (a := pattern)]
  · rename_i hfind
    simp [hfind]
  · rename_i hfind
    simp [hfind]

theorem enterRoot_eq_ok_iff {body : Body} :
    Place.enterRoot t = .ok body ↔ Opens t body.pattern ∧ body.records = [] := by
  obtain ⟨pattern, records⟩ := body
  unfold Place.enterRoot
  split
  · rename_i hname
    rw [Except.map_eq_ok_iff]
    constructor
    · rintro ⟨p, hp, hbody⟩
      cases hbody
      exact ⟨⟨hname, recordedPattern_eq_ok_iff.mp hp⟩, rfl⟩
    · rintro ⟨hopens, rfl⟩
      exact ⟨pattern, recordedPattern_eq_ok_iff.mpr hopens.pattern, rfl⟩
  · rename_i hname
    refine iff_of_false (by simp) ?_
    rintro ⟨hopens, -⟩
    exact hname hopens.name

theorem fieldOf?_eq_some_iff {f : Field} : fieldOf? t = some f ↔ named t f.element = true := by
  have hdiffer (hname : named t "name" = true) (hcontents : named t "contents" = true) : False := by
    rw [named, beq_iff_eq] at hname hcontents
    rw [hname] at hcontents
    exact absurd hcontents (by decide)
  unfold fieldOf?
  cases f with
  | name => by_cases hname : named t "name" = true <;> simp [Field.element, hname]
  | contents =>
    by_cases hname : named t "name" = true
    · simp [Field.element, hname, Bool.eq_false_iff.mpr fun h => hdiffer hname h]
    · simp [Field.element, hname]

/-! ## Reading -/

namespace Place

variable {place place' next : Place} {e : Event} {es es' : List Event} {body : Body} {d : Document}
  {draft draft' : Draft} {f : Field} {text cs : List Char} {fs : List (Field × String)} {r : Record}
  {rs : List Record}

/-- The events lead the reader from one place to the other. -/
def Reaches (place : Place) (es : List Event) (place' : Place) : Prop :=
  es.foldlM step place = .ok place'

theorem reaches_nil : place.Reaches [] place := rfl

theorem reaches_cons_iff : place.Reaches (e :: es) place' ↔
    ∃ next, place.step e = .ok next ∧ next.Reaches es place' := by
  rw [Reaches, List.foldlM_cons, Except.bind_eq_ok_iff]
  rfl

theorem Reaches.cons (h : place.step e = .ok next) (hes : next.Reaches es place') :
    place.Reaches (e :: es) place' :=
  reaches_cons_iff.mpr ⟨next, h, hes⟩

theorem Reaches.append (h : place.Reaches es next) (h' : next.Reaches es' place') :
    place.Reaches (es ++ es') place' := by
  rw [Reaches, List.foldlM_append]
  exact Except.bind_eq_ok_iff.mpr ⟨next, h, h'⟩

theorem Reaches.close (h : place.Reaches es next) (hclose : next.step .close = .ok place') :
    place.Reaches (es ++ [.close]) place' :=
  h.append (.cons hclose reaches_nil)

end Place

open Place

variable {es : List Event} {body : Body} {d : Document}
  {draft draft' : Draft} {f : Field} {cs ds : List Char} {fs : List (Field × String)} {r : Record}
  {rs : List Record}

theorem IsPadding.reaches {place : Place} (hp : place.AmongTags) (h : IsPadding es) :
    place.Reaches es place := by
  induction es with
  | nil => exact reaches_nil
  | cons e es ih =>
    obtain ⟨⟨s, rfl, hs⟩, hes⟩ := List.forall_mem_cons.mp h
    exact .cons (step_text hp hs) (ih hes)

theorem IsText.reaches (h : IsText es ds) :
    (Place.field body draft f cs).Reaches es (.field body draft f (cs ++ ds)) := by
  induction h generalizing cs with
  | nil =>
    rw [List.append_nil]
    exact reaches_nil
  | text decoded _ ih =>
    rw [← List.append_assoc]
    exact .cons (by rw [step, decoded]; rfl) ih
  | verbatim _ ih =>
    rw [← List.append_assoc]
    exact .cons rfl ih

theorem IsField.reaches {text : String} (h : IsField f es text)
    (hfill : draft.fill f text.toList = .ok draft') :
    (Place.cell body draft).Reaches es (.cell body draft') := by
  cases h with
  | @empty t name =>
    rw [String.toList_empty] at hfill
    have hstep : (Place.cell body draft).step (.empty t) = .ok (.cell body draft') := by
      simp only [step, fieldOf?_eq_some_iff.mpr name, hfill, Except.map]
    exact .cons hstep reaches_nil
  | @element t es cs name htext =>
    rw [String.toList_ofList] at hfill
    have hstart : (Place.cell body draft).step (.start t) = .ok (.field body draft f []) := by
      simp only [step, fieldOf?_eq_some_iff.mpr name, Except.pure_eq_ok]
    have hclose : (Place.field body draft f cs).step .close = .ok (.cell body draft') := by
      simp only [step, hfill, Except.map]
    have hes : (Place.field body draft f []).Reaches es (.field body draft f cs) := htext.reaches
    exact .close (.cons hstart hes) hclose

theorem IsFields.reaches (h : IsFields es fs) (hc : draft.Completes fs r) :
    ∃ draft', (Place.cell body draft).Reaches es (.cell body draft') ∧ draft'.finish = .ok r := by
  induction h generalizing draft with
  | nil => exact ⟨draft, reaches_nil, Draft.completes_nil_iff.mp hc⟩
  | padding blank _ ih =>
    obtain ⟨draft', hes, hfinish⟩ := ih hc
    exact ⟨draft', .cons (step_text trivial blank) hes, hfinish⟩
  | field first _ ih =>
    obtain ⟨next, hfill, hnext⟩ := Draft.completes_cons_iff.mp hc
    obtain ⟨draft', hes, hfinish⟩ := ih hnext
    exact ⟨draft', (first.reaches hfill).append hes, hfinish⟩

theorem IsCell.reaches (h : IsCell es r) :
    (Place.sheet body).Reaches es (.sheet ⟨body.pattern, r :: body.records⟩) := by
  obtain @⟨t, es, fs, r, name, content, fields⟩ := h
  have hstart : (Place.sheet body).step (.start t) = .ok (.cell body .empty) := by
    simp only [step, name, if_true, Except.pure_eq_ok]
  have hcompletes : Draft.empty.Completes fs r := fields
  obtain ⟨draft, hes, hfinish⟩ := content.reaches hcompletes
  have hclose : (Place.cell body draft).step .close =
      .ok (.sheet ⟨body.pattern, r :: body.records⟩) := by
    rw [step, hfinish]
    rfl
  exact .close (.cons hstart hes) hclose

theorem IsCells.reaches (h : IsCells es rs) :
    (Place.sheet body).Reaches es (.sheet ⟨body.pattern, rs.reverse ++ body.records⟩) := by
  induction h generalizing body with
  | nil => exact reaches_nil
  | padding blank _ ih => exact .cons (step_text trivial blank) ih
  | cell first _ ih =>
    rw [List.reverse_cons, List.append_assoc]
    exact first.reaches.append ih

theorem IsRoot.reaches (h : IsRoot es d) :
    Place.prolog.Reaches es (.epilog ⟨d.pattern, d.records.reverse⟩) := by
  cases h with
  | @empty t pattern tag =>
    have hroot : enterRoot t = .ok ⟨pattern, []⟩ := enterRoot_eq_ok_iff.mpr ⟨tag, rfl⟩
    have hstep : Place.prolog.step (.empty t) = .ok (.epilog ⟨pattern, []⟩) := by
      simp only [step, hroot, Except.map]
    exact .cons hstep reaches_nil
  | @element t es d tag content =>
    have hroot : enterRoot t = .ok ⟨d.pattern, []⟩ := enterRoot_eq_ok_iff.mpr ⟨tag, rfl⟩
    have hstart : Place.prolog.step (.start t) = .ok (.sheet ⟨d.pattern, []⟩) := by
      simp only [step, hroot, Except.map]
    have hes : (Place.sheet ⟨d.pattern, []⟩).Reaches es
        (.sheet ⟨d.pattern, d.records.reverse ++ []⟩) := content.reaches
    rw [List.append_nil] at hes
    exact .close (.cons hstart hes) rfl

/-! ## What may follow -/

def RestOfSheet (d : Document) (body : Body) (es : List Event) : Prop :=
  ∃ xs rs behind, es = xs ++ .close :: behind ∧ IsCells xs rs ∧ IsPadding behind ∧
    d = ⟨body.pattern, body.records.reverse ++ rs⟩

def RestOfCell (d : Document) (body : Body) (draft : Draft) (es : List Event) : Prop :=
  ∃ xs fs r ys, es = xs ++ .close :: ys ∧ IsFields xs fs ∧ draft.Completes fs r ∧
    RestOfSheet d ⟨body.pattern, r :: body.records⟩ ys

def RestOfField (d : Document) (body : Body) (draft : Draft) (f : Field) (cs : List Char)
    (es : List Event) : Prop :=
  ∃ xs ds draft' ys, es = xs ++ .close :: ys ∧ IsText xs ds ∧ draft.fill f (cs ++ ds) = .ok draft' ∧
    RestOfCell d body draft' ys

/-- What may follow at a place, where it makes the whole the given document. -/
def Place.Rest (d : Document) : Place → List Event → Prop
  | prolog, es => ∃ before root behind, es = before ++ root ++ behind ∧ IsPadding before ∧
      IsRoot root d ∧ IsPadding behind
  | sheet body, es => RestOfSheet d body es
  | cell body draft, es => RestOfCell d body draft es
  | field body draft f cs, es => RestOfField d body draft f cs es
  | epilog body, es => IsPadding es ∧ d = ⟨body.pattern, body.records.reverse⟩

namespace Place

variable {place' : Place} {e : Event}

theorem rest_of_step_field (h : (field body draft f cs).step e = .ok place')
    (hr : place'.Rest d es) : RestOfField d body draft f cs (e :: es) := by
  cases e with
  | text s =>
    obtain ⟨more, hmore, h⟩ := Except.bind_eq_ok_iff.mp h
    cases h
    obtain ⟨xs, ds, draft', ys, rfl, hxs, hfill, hys⟩ := hr
    rw [List.append_assoc] at hfill
    exact ⟨.text s :: xs, more ++ ds, draft', ys, rfl, .text hmore hxs, hfill, hys⟩
  | verbatim s =>
    cases h
    obtain ⟨xs, ds, draft', ys, rfl, hxs, hfill, hys⟩ := hr
    rw [List.append_assoc] at hfill
    exact ⟨.verbatim s :: xs, _, draft', ys, rfl, .verbatim hxs, hfill, hys⟩
  | close =>
    obtain ⟨draft', hfill, h⟩ := Except.map_eq_ok_iff.mp h
    cases h
    exact ⟨[], [], draft', es, rfl, .nil, by rwa [List.append_nil], hr⟩
  | _ => cases h

theorem rest_of_step_cell (h : (cell body draft).step e = .ok place') (hr : place'.Rest d es) :
    RestOfCell d body draft (e :: es) := by
  cases e with
  | text s =>
    simp only [step] at h
    split at h
    · rename_i hblank
      cases h
      obtain ⟨xs, fs, r, ys, rfl, hxs, hc, hys⟩ := hr
      exact ⟨.text s :: xs, fs, r, ys, rfl, .padding hblank hxs, hc, hys⟩
    · cases h
  | start t =>
    simp only [step] at h
    split at h
    · rename_i f hf
      cases h
      obtain ⟨ts, cs, draft', zs, rfl, hts, hfill, xs, fs, r, ys, rfl, hxs, hc, hys⟩ := hr
      have hfield : IsField f (.start t :: ts ++ [.close]) (String.ofList cs) :=
        .element (fieldOf?_eq_some_iff.mp hf) hts
      refine ⟨_, (f, String.ofList cs) :: fs, r, ys, ?_, .field hfield hxs, ?_, hys⟩
      · simp
      · exact Draft.completes_cons_iff.mpr ⟨draft', by rwa [String.toList_ofList], hc⟩
    · cases h
  | empty t =>
    simp only [step] at h
    split at h
    · rename_i f hf
      obtain ⟨draft', hfill, h⟩ := Except.map_eq_ok_iff.mp h
      cases h
      obtain ⟨xs, fs, r, ys, rfl, hxs, hc, hys⟩ := hr
      have hfield : IsField f [.empty t] "" := .empty (fieldOf?_eq_some_iff.mp hf)
      refine ⟨_, (f, "") :: fs, r, ys, rfl, .field hfield hxs, ?_, hys⟩
      exact Draft.completes_cons_iff.mpr ⟨draft', by rwa [String.toList_empty], hc⟩
    · cases h
  | close =>
    obtain ⟨r, hfinish, h⟩ := Except.bind_eq_ok_iff.mp h
    cases h
    exact ⟨[], [], r, es, rfl, .nil, Draft.completes_nil_iff.mpr hfinish, hr⟩
  | _ => cases h

theorem rest_of_step_sheet (h : (sheet body).step e = .ok place') (hr : place'.Rest d es) :
    RestOfSheet d body (e :: es) := by
  cases e with
  | text s =>
    simp only [step] at h
    split at h
    · rename_i hblank
      cases h
      obtain ⟨xs, rs, behind, rfl, hxs, hbehind, hd⟩ := hr
      exact ⟨.text s :: xs, rs, behind, rfl, .padding hblank hxs, hbehind, hd⟩
    · cases h
  | start t =>
    simp only [step] at h
    split at h
    · rename_i hname
      cases h
      obtain ⟨cs, fs, r, ys, rfl, hcs, hfields, xs, rs, behind, rfl, hxs, hbehind, hd⟩ := hr
      have hcell : IsCell (.start t :: cs ++ [.close]) r := .element hname hcs hfields
      refine ⟨_, r :: rs, behind, ?_, .cell hcell hxs, hbehind, ?_⟩
      · simp
      · rw [hd, List.reverse_cons, List.append_assoc]
        rfl
    · cases h
  | close =>
    cases h
    exact ⟨[], [], es, rfl, .nil, hr.1, by rw [hr.2, List.append_nil]⟩
  | _ => cases h

theorem rest_of_step_prolog (h : prolog.step e = .ok place') (hr : place'.Rest d es) :
    prolog.Rest d (e :: es) := by
  cases e with
  | text s =>
    simp only [step] at h
    split at h
    · rename_i hblank
      cases h
      obtain ⟨before, root, behind, rfl, hbefore, hroot, hbehind⟩ := hr
      refine ⟨.text s :: before, root, behind, rfl, ?_, hroot, hbehind⟩
      exact List.forall_mem_cons.mpr ⟨⟨s, rfl, hblank⟩, hbefore⟩
    · cases h
  | start t =>
    obtain ⟨⟨pattern, records⟩, hbody, h⟩ := Except.map_eq_ok_iff.mp h
    cases h
    obtain ⟨htag, rfl⟩ := enterRoot_eq_ok_iff.mp hbody
    obtain ⟨xs, rs, behind, rfl, hxs, hbehind, rfl⟩ := hr
    have hroot : IsRoot (.start t :: xs ++ [.close]) ⟨pattern, rs⟩ := .element htag hxs
    exact ⟨[], _, behind, by simp, by simp [IsPadding], hroot, hbehind⟩
  | empty t =>
    obtain ⟨⟨pattern, records⟩, hbody, h⟩ := Except.map_eq_ok_iff.mp h
    cases h
    obtain ⟨htag, rfl⟩ := enterRoot_eq_ok_iff.mp hbody
    obtain ⟨hbehind, rfl⟩ := hr
    exact ⟨[], _, es, rfl, by simp [IsPadding], .empty htag, hbehind⟩
  | _ => cases h

theorem rest_of_step_epilog (h : (epilog body).step e = .ok place') (hr : place'.Rest d es) :
    (epilog body).Rest d (e :: es) := by
  cases e with
  | text s =>
    simp only [step] at h
    split at h
    · rename_i hblank
      cases h
      exact ⟨List.forall_mem_cons.mpr ⟨⟨s, rfl, hblank⟩, hr.1⟩, hr.2⟩
    · cases h
  | _ => cases h

/-- What may follow an event that is taken may follow with it before the event. -/
theorem rest_of_step {place : Place} (h : place.step e = .ok place') (hr : place'.Rest d es) :
    place.Rest d (e :: es) := by
  cases place with
  | prolog => exact rest_of_step_prolog h hr
  | sheet body => exact rest_of_step_sheet h hr
  | cell body draft => exact rest_of_step_cell h hr
  | field body draft f cs => exact rest_of_step_field h hr
  | epilog body => exact rest_of_step_epilog h hr

theorem rest_of_reaches {place : Place} (h : place.Reaches es (epilog body)) :
    place.Rest ⟨body.pattern, body.records.reverse⟩ es := by
  induction es generalizing place with
  | nil =>
    cases h
    exact ⟨by simp [IsPadding], rfl⟩
  | cons e es ih =>
    obtain ⟨next, hstep, hes⟩ := reaches_cons_iff.mp h
    exact rest_of_step hstep (ih hes)

end Place

/-! ## Documents -/

theorem reaches_epilog_iff : Place.prolog.Reaches es (.epilog ⟨d.pattern, d.records.reverse⟩) ↔
    ∃ before root behind, es = before ++ root ++ behind ∧ IsPadding before ∧ IsRoot root d ∧
      IsPadding behind := by
  constructor
  · intro h
    have hrest := rest_of_reaches h
    rw [List.reverse_reverse] at hrest
    exact hrest
  · rintro ⟨before, root, behind, rfl, hbefore, hroot, hbehind⟩
    have hstart : Place.prolog.Reaches before .prolog := hbefore.reaches trivial
    have hend {body : Body} : (Place.epilog body).Reaches behind (.epilog body) :=
      hbehind.reaches trivial
    exact (hstart.append hroot.reaches).append hend

theorem read_cons {place : Place} {e : Event} (hi : e.isIgnored = false) (he : ¬ e.IsLast) :
    place.read (e :: es) = place.step e >>= fun next => next.read es := by
  rw [Place.read]
  · rw [if_neg (by simp [hi])]
  · exact fun h => he (.inr h)
  · exact fun h => he (.inl h)

/-- A run is read to a document when the events in it that carry data lead behind the root element and
the end of the document comes next. -/
theorem read_eq_ok_iff {place : Place} (h : IsRun es) : place.read es = .ok d ↔
    ∃ xs, es.filter (fun e => !e.isIgnored) = xs ++ [.finish] ∧
      place.Reaches xs (.epilog ⟨d.pattern, d.records.reverse⟩) := by
  induction h generalizing place with
  | malformed =>
    refine iff_of_false (by simp [Place.read]) ?_
    rintro ⟨xs, hxs, -⟩
    have hmem : Event.finish ∈ [Event.malformed] := by
      rw [show [Event.malformed] = xs ++ [.finish] from hxs]
      simp
    simp at hmem
  | finish =>
    constructor
    · intro h
      cases place with
      | epilog body =>
        cases h
        exact ⟨[], rfl, by rw [List.reverse_reverse]; exact reaches_nil⟩
      | _ => cases h
    · rintro ⟨xs, hxs, h⟩
      obtain rfl : xs = [] := by simpa [Event.isIgnored] using hxs
      cases h
      simp [Place.read]
  | @more e es he _ ih =>
    by_cases hi : e.isIgnored = true
    · rw [read_ignored hi, ih, List.filter_cons_of_neg (by simp [hi])]
    · have hi' : e.isIgnored = false := Bool.eq_false_iff.mpr hi
      rw [read_cons hi' he, Except.bind_eq_ok_iff, List.filter_cons_of_pos (by simp [hi'])]
      constructor
      · rintro ⟨next, hstep, hread⟩
        obtain ⟨xs, hxs, h⟩ := ih.mp hread
        exact ⟨e :: xs, by rw [hxs, List.cons_append], .cons hstep h⟩
      · rintro ⟨xs, hxs, h⟩
        cases xs with
        | nil => exact absurd (.inr (List.cons.inj hxs).1) he
        | cons x xs =>
          obtain ⟨rfl, hes⟩ := List.cons.inj hxs
          obtain ⟨next, hstep, hnext⟩ := reaches_cons_iff.mp h
          exact ⟨next, hstep, ih.mpr ⟨xs, hes, hnext⟩⟩

/-- What bytes hold is delivered as a run, and a run is accepted exactly when its events that carry data
form a document, wherever comments, instructions and declarations stand between them. It is read as
this document. -/
theorem ofEvents_eq_ok_iff :
    (∀ bytes, IsRun (Xml.events bytes)) ∧ ∀ es d, IsRun es →
      (ofEvents es = .ok d ↔ IsDocument (es.filter fun e => !e.isIgnored) d) := by
  refine ⟨Xml.isRun_events, fun es d h => ?_⟩
  rw [ofEvents, read_eq_ok_iff h]
  constructor
  · rintro ⟨xs, hxs, hreaches⟩
    obtain ⟨before, root, behind, rfl, hbefore, hroot, hbehind⟩ := reaches_epilog_iff.mp hreaches
    exact ⟨before, root, behind, hxs, hbefore, hroot, hbehind⟩
  · rintro ⟨before, root, behind, hes, hbefore, hroot, hbehind⟩
    exact ⟨_, hes, reaches_epilog_iff.mpr ⟨before, root, behind, rfl, hbefore, hroot, hbehind⟩⟩

/-- The pattern stands behind another attribute and before what is none, the contents before the name
and in parts. -/
def scattered : List Event :=
  let tag (name rest : String) : Tag := ⟨Xml.symbols name, Xml.symbols rest⟩
  [.declaration, .text (Xml.symbols "\n"), .start (tag "s:spreadsheet" " a='' IsValid=\"&lt;\" ="),
    .comment, .start (tag "cell" ""), .start (tag "contents" ""), .text (Xml.symbols "=&#65;"),
    .instruction, .verbatim (Xml.symbols "1&"), .close, .text (Xml.symbols " "),
    .empty (tag "name" " a=1"), .close, .close, .doctype, .finish]

theorem ofEvents_eq_ok_iff_scattered :
    IsRun scattered ∧ ofEvents scattered = .ok ⟨"<", [⟨"", "=A1&"⟩]⟩ ∧
      IsDocument (scattered.filter fun e => !e.isIgnored) ⟨"<", [⟨"", "=A1&"⟩]⟩ := by
  have hrun : IsRun scattered := by
    repeat' first | exact .finish | refine .more (by simp [Event.IsLast]) ?_
  have hread : ofEvents scattered = .ok ⟨"<", [⟨"", "=A1&"⟩]⟩ := by cbv
  exact ⟨hrun, hread, (ofEvents_eq_ok_iff.2 scattered _ hrun).mp hread⟩

end Document

end Spreadsheet
