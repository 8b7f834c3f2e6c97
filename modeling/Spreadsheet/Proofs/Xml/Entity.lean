import Spreadsheet.Xml.Entity

/-! # Escaped text

Unescaping undoes escaping, and escaped text holds no bracket and no quote, so that tags and quoted
values end where they are meant to.
-/

namespace Spreadsheet.Xml

variable {c d : Char} {cs : List Char}

theorem escape_cons (c : Char) (cs : List Char) : escape (c :: cs) = escapeChar c ++ escape cs :=
  List.flatMap_cons

def IsMarkup (c : Char) : Prop := c = '<' ∨ c = '>' ∨ c = '"' ∨ c = '\''

theorem not_isMarkup_of_mem_escapeChar (h : d ∈ escapeChar c) : ¬ IsMarkup d := by
  unfold escapeChar at h
  split at h
  case h_6 hlt hgt _ hapos hquot =>
    obtain rfl := List.mem_singleton.mp h
    rintro (hd | hd | hd | hd)
    · exact hlt hd
    · exact hgt hd
    · exact hquot hd
    · exact hapos hd
  all_goals rintro (rfl | rfl | rfl | rfl) <;> simp at h

theorem not_isMarkup_of_mem_escape (h : d ∈ escape cs) : ¬ IsMarkup d := by
  obtain ⟨c, -, hd⟩ := List.mem_flatMap.mp h
  exact not_isMarkup_of_mem_escapeChar hd

theorem unescape?_entity (name : List Char) {rest : List Char}
    (hn : ∀ c ∈ name, isEntityChar c = true) (he : entity? name = some d) :
    unescape? ('&' :: (name ++ ';' :: rest)) = (unescape? rest).map (d :: ·) := by
  have hs : isEntityChar ';' = false := by decide
  have htake : (name ++ ';' :: rest).takeWhile isEntityChar = name := by
    rw [List.takeWhile_append_of_pos hn, List.takeWhile_cons_of_neg (by simp [hs]), List.append_nil]
  have hdrop : (name ++ ';' :: rest).dropWhile isEntityChar = ';' :: rest := by
    rw [List.dropWhile_append_of_pos hn, List.dropWhile_cons_of_neg (by simp [hs])]
  rw [unescape?, if_pos rfl]
  split
  · rename_i h
    rw [hdrop] at h
    cases h
    rw [htake, he]
    cases unescape? rest <;> rfl
  · rename_i h
    exact absurd hdrop (h rest)

theorem unescape?_escapeChar_append (c : Char) (rest : List Char) :
    unescape? (escapeChar c ++ rest) = (unescape? rest).map (c :: ·) := by
  unfold escapeChar
  split
  · exact unescape?_entity ['l', 't'] (by simp [isEntityChar]) rfl
  · exact unescape?_entity ['g', 't'] (by simp [isEntityChar]) rfl
  · exact unescape?_entity ['a', 'm', 'p'] (by simp [isEntityChar]) rfl
  · exact unescape?_entity ['a', 'p', 'o', 's'] (by simp [isEntityChar]) rfl
  · exact unescape?_entity ['q', 'u', 'o', 't'] (by simp [isEntityChar]) rfl
  · rename_i hamp _ _
    rw [List.singleton_append, unescape?, if_neg hamp]

theorem unescape?_escape (cs : List Char) : unescape? (escape cs) = some cs := by
  induction cs with
  | nil => rw [escape, List.flatMap_nil, unescape?]
  | cons c cs ih =>
    rw [escape_cons, unescape?_escapeChar_append, ih]
    rfl

end Spreadsheet.Xml
