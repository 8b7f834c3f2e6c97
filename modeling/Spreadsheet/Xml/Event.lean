import Spreadsheet.Text.Utf8

/-! # Markup events

A document is cut into events: texts, tags, and markup that carries no data. An end tag has to name
the element open at that place; the end of the document closes no element. The events up to the first
malformed markup are kept, so that what stands before it can be judged first.
-/

namespace Spreadsheet.Xml

open Text (Symbol)

def isTagBlank : Symbol → Bool
  | .char c => c == ' ' || c == '\t' || c == '\r' || c == '\n'
  | .illFormed _ => false

/-- A start tag or an empty element: all between its angle brackets, its name, and what follows the
name. -/
structure Tag where
  name : List Symbol
  rest : List Symbol
  deriving DecidableEq

namespace Tag

/-- The name reaches up to the first blank. -/
def ofContent (content : List Symbol) : Tag :=
  ⟨content.takeWhile (!isTagBlank ·), content.dropWhile (!isTagBlank ·)⟩

def localName (t : Tag) : List Symbol :=
  match t.name.dropWhile (· ≠ .char ':') with
  | [] => t.name
  | _ :: s => s

end Tag

inductive Event where
  | text (s : List Symbol)
  | verbatim (s : List Symbol)
  | start (t : Tag)
  | empty (t : Tag)
  | close
  | comment
  | instruction
  | declaration
  | doctype
  | malformed
  | finish
  deriving DecidableEq

/-- Markup that a document may hold anywhere without a change of its meaning. -/
def Event.isIgnored : Event → Bool
  | comment | instruction | declaration | doctype => true
  | _ => false

/-! ## Where markup ends -/

def symbols (s : String) : List Symbol := s.toList.map Symbol.char

/-- The symbols before the first place where `mark` stands, and those behind it. -/
def splitAt? (mark : List Symbol) : List Symbol → Option (List Symbol × List Symbol)
  | [] => none
  | s :: ss =>
    if mark.isPrefixOf (s :: ss) then some ([], (s :: ss).drop mark.length)
    else (splitAt? mark ss).map fun (before, behind) => (s :: before, behind)

/-- The content of a tag and what follows its closing bracket, where brackets between quotes do not
count. -/
def tagContent? (quote : Option Symbol) : List Symbol → Option (List Symbol × List Symbol)
  | [] => none
  | s :: ss =>
    if quote = none ∧ s = .char '>' then some ([], ss)
    else
      let quote := match quote with
        | none => if s = .char '"' ∨ s = .char '\'' then some s else none
        | some q => if s = q then none else some q
      (tagContent? quote ss).map fun (content, rest) => (s :: content, rest)

/-- The content of a declaration that can hold brackets in pairs, and what follows it. -/
def bracketed? (depth : Nat) : List Symbol → Option (List Symbol × List Symbol)
  | [] => none
  | s :: ss =>
    if s = .char '>' ∧ depth = 0 then some ([], ss)
    else
      let depth :=
        if s = .char '<' then depth + 1 else if s = .char '>' then depth - 1 else depth
      (bracketed? depth ss).map fun (content, rest) => (s :: content, rest)

theorem length_splitAt?_lt {mark ss before behind : List Symbol} (hm : mark ≠ [])
    (h : splitAt? mark ss = some (before, behind)) : behind.length < ss.length := by
  have hp := List.length_pos_iff.2 hm
  induction ss generalizing before with
  | nil => cases h
  | cons s ss ih =>
    unfold splitAt? at h
    split at h
    · cases h
      simp only [List.length_drop, List.length_cons]
      omega
    · simp only [Option.map_eq_some_iff, Prod.exists, Prod.mk.injEq] at h
      obtain ⟨b, r, h, -, rfl⟩ := h
      have := ih h
      simp only [List.length_cons]
      omega

theorem length_tagContent?_lt {quote : Option Symbol} {ss content rest : List Symbol}
    (h : tagContent? quote ss = some (content, rest)) : rest.length < ss.length := by
  induction ss generalizing quote content with
  | nil => cases h
  | cons s ss ih =>
    unfold tagContent? at h
    split at h
    · cases h; simp
    · simp only [Option.map_eq_some_iff, Prod.exists, Prod.mk.injEq] at h
      obtain ⟨b, r, h, -, rfl⟩ := h
      have := ih h
      simp only [List.length_cons]
      omega

theorem length_bracketed?_lt {depth : Nat} {ss content rest : List Symbol}
    (h : bracketed? depth ss = some (content, rest)) : rest.length < ss.length := by
  induction ss generalizing depth content with
  | nil => cases h
  | cons s ss ih =>
    unfold bracketed? at h
    split at h
    · cases h; simp
    · simp only [Option.map_eq_some_iff, Prod.exists, Prod.mk.injEq] at h
      obtain ⟨b, r, h, -, rfl⟩ := h
      have := ih h
      simp only [List.length_cons]
      omega

/-! ## Markup -/

/-- The names of the open elements, innermost first. -/
abbrev OpenNames := List (List Symbol)

/-- The event of a start tag, an element being empty if its tag ends with a slash. -/
def startTag (opened : OpenNames) (content : List Symbol) : Event × OpenNames :=
  if content.getLast? = some (.char '/') then (.empty (Tag.ofContent content.dropLast), opened)
  else
    let t := Tag.ofContent content
    (.start t, t.name :: opened)

/-- An end tag without the blanks behind its name; a tag of blanks alone keeps them. -/
def endName (content : List Symbol) : List Symbol :=
  match (content.reverse.dropWhile isTagBlank).reverse with
  | [] => content
  | name => name

def endTag? (opened : OpenNames) (content : List Symbol) : Option OpenNames :=
  match opened with
  | name :: opened => if endName content = name then some opened else none
  | [] => none

/-- Letters in any case count as equal to those of an upper case mark. -/
def startsWithAnyCase (mark : List Char) (s : List Symbol) : Bool :=
  (s.take mark.length).map (fun s => s.char?.map Char.toUpper) == mark.map some

def declaration? (s : List Symbol) : Option (Event × List Symbol) :=
  match s with
  | .char '-' :: .char '-' :: s => (splitAt? (symbols "-->") s).map fun (_, rest) => (.comment, rest)
  | .char '[' :: s =>
    if (symbols "CDATA[").isPrefixOf s then
      (splitAt? (symbols "]]>") (s.drop 6)).map fun (text, rest) => (.verbatim text, rest)
    else none
  | s =>
    if startsWithAnyCase ['D', 'O', 'C', 'T', 'Y', 'P', 'E'] s then
      match bracketed? 0 s with
      | some (content, rest) =>
        if (content.drop 7).all isTagBlank then none else some (.doctype, rest)
      | none => none
    else none

def instruction? (s : List Symbol) : Option (Event × List Symbol) :=
  if s.head? = some (.char '>') then none
  else (splitAt? (symbols "?>") s).map fun (content, rest) =>
    if (symbols "xml").isPrefixOf content && ((content.drop 3).head?.all isTagBlank) then
      (.declaration, rest)
    else (.instruction, rest)

def markup? (opened : OpenNames) (s : List Symbol) : Option (Event × OpenNames × List Symbol) :=
  match s with
  | [] => none
  | .char '!' :: s => (declaration? s).map fun (e, rest) => (e, opened, rest)
  | .char '?' :: s => (instruction? s).map fun (e, rest) => (e, opened, rest)
  | .char '/' :: s => do
    let (content, rest) ← tagContent? none s
    let opened ← endTag? opened content
    pure (.close, opened, rest)
  | s => do
    let (content, rest) ← tagContent? none s
    let (e, opened) := startTag opened content
    pure (e, opened, rest)

theorem length_declaration?_lt {s rest : List Symbol} {e : Event}
    (h : declaration? s = some (e, rest)) : rest.length < s.length := by
  unfold declaration? at h
  split at h
  · simp only [Option.map_eq_some_iff, Prod.exists, Prod.mk.injEq] at h
    obtain ⟨_, _, h, -, rfl⟩ := h
    have := length_splitAt?_lt (by simp [symbols]) h
    simp only [List.length_cons]
    omega
  · split at h
    · simp only [Option.map_eq_some_iff, Prod.exists, Prod.mk.injEq] at h
      obtain ⟨_, _, h, -, rfl⟩ := h
      have := length_splitAt?_lt (by simp [symbols]) h
      simp only [List.length_drop, List.length_cons] at this ⊢
      omega
    · cases h
  · split at h
    · split at h
      · split at h
        · cases h
        · rename_i hb _
          cases h
          exact length_bracketed?_lt hb
      · cases h
    · cases h

theorem length_instruction?_lt {s rest : List Symbol} {e : Event}
    (h : instruction? s = some (e, rest)) : rest.length < s.length := by
  unfold instruction? at h
  split at h
  · cases h
  · simp only [Option.map_eq_some_iff, Prod.exists] at h
    obtain ⟨_, _, h, hr⟩ := h
    have := length_splitAt?_lt (by simp [symbols]) h
    split at hr <;> · cases hr; exact this

theorem length_markup?_lt {opened opened' : OpenNames} {s rest : List Symbol} {e : Event}
    (h : markup? opened s = some (e, opened', rest)) : rest.length < s.length := by
  unfold markup? at h
  split at h
  · cases h
  · simp only [Option.map_eq_some_iff, Prod.exists, Prod.mk.injEq] at h
    obtain ⟨_, _, h, -, -, rfl⟩ := h
    have := length_declaration?_lt h
    simp only [List.length_cons]
    omega
  · simp only [Option.map_eq_some_iff, Prod.exists, Prod.mk.injEq] at h
    obtain ⟨_, _, h, -, -, rfl⟩ := h
    have := length_instruction?_lt h
    simp only [List.length_cons]
    omega
  · simp only [Option.bind_eq_bind, Option.bind_eq_some_iff, Prod.exists] at h
    obtain ⟨_, _, h, _, -, hr⟩ := h
    cases hr
    have := length_tagContent?_lt h
    simp only [List.length_cons]
    omega
  · simp only [Option.bind_eq_bind, Option.bind_eq_some_iff, Prod.exists] at h
    obtain ⟨_, _, h, hr⟩ := h
    cases hr
    exact length_tagContent?_lt h

/-- The events of the symbols, where `opened` are the elements open before them. -/
def eventsFrom (opened : OpenNames) (s : List Symbol) : List Event :=
  match s with
  | [] => [.finish]
  | c :: cs =>
    if c = .char '<' then
      match _h : markup? opened cs with
      | some (e, opened, rest) => e :: eventsFrom opened rest
      | none => [.malformed]
    else
      .text (c :: cs.takeWhile (· ≠ .char '<')) :: eventsFrom opened (cs.dropWhile (· ≠ .char '<'))
termination_by s.length
decreasing_by
  · have := length_markup?_lt ‹_›
    simp only [List.length_cons]; omega
  · have := (List.dropWhile_suffix (· ≠ Symbol.char '<') (l := cs)).length_le
    simp only [List.length_cons]; omega

/-- The events of a document. A byte order mark in front of it is dropped. -/
def events (bytes : List UInt8) : List Event :=
  match Text.Utf8.symbols bytes with
  | .char '\ufeff' :: s => eventsFrom [] s
  | s => eventsFrom [] s

end Spreadsheet.Xml
