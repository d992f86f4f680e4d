import MemoryAtlas.Query.Scanner

/-!
Queries read by their grammar: an item is told by its first character, and what is left behind it is read
in the same way. There is no state between items.
-/

namespace MemoryAtlas.Query.Grammar

/-- The text up to the closing mark, and what is behind the mark. -/
def untilMark (mark : Char) (s : List Char) : Option (List Char × List Char) :=
  match s.dropWhile (· != mark) with
  | [] => none
  | _ :: rest => some (s.takeWhile (· != mark), rest)

/-- The text up to a slash that is no second half of a pair that begins with a backslash. -/
def untilSlash : List Char → Option (List Char × List Char)
  | [] => none
  | '/' :: rest => some ([], rest)
  | '\\' :: c :: rest => (untilSlash rest).map fun (s, r) => ('\\' :: c :: s, r)
  | c :: rest => (untilSlash rest).map fun (s, r) => (c :: s, r)

def untilSpace (s : List Char) : List Char × List Char :=
  (s.takeWhile (· != ' '), s.dropWhile (· != ' '))

/-- How the operators are written, longer ones before those that they begin with. -/
def spellings : List (List Char × AddressOp) := [
  (['=', '='], .compare .eq), (['='], .compare .eq), (['>', '='], .compare .ge), (['>'], .compare .gt),
  (['<', '='], .compare .le), (['<'], .compare .lt), (['~'], .near)]

/-- The first spelling that the text begins with, and the text behind it. A text of one character has no
operator. -/
def leading? : List Char → Option (AddressOp × List Char)
  | [_] => none
  | s => spellings.findSome? fun (symbol, op) =>
      if symbol.isPrefixOf s then some (op, s.drop symbol.length) else none

/-- An item without its exclusion mark: its kind, its text and what is behind it. -/
def body (c : Char) (rest : List Char) : Option (ItemKind × List Char × List Char) :=
  if c = '"' then (untilMark '"' rest).map fun (s, r) => (.quote, s, r)
  else if c = '/' then (untilSlash rest).map fun (s, r) => (.regex, s, r)
  else
    match leading? (c :: rest) with
    | some (op, behind) => some (.address op, untilSpace behind)
    | none => some (.term, c :: (untilSpace rest).1, (untilSpace rest).2)

theorem length_untilMark_le {mark : Char} {s t r : List Char} (h : untilMark mark s = some (t, r)) :
    r.length ≤ s.length := by
  have hd := (List.dropWhile_sublist (· != mark) (l := s)).length_le
  simp only [untilMark] at h
  split at h
  · cases h
  · next he =>
    cases h
    rw [he, List.length_cons] at hd
    omega

theorem length_untilSlash_le {s t r : List Char} (h : untilSlash s = some (t, r)) :
    r.length ≤ s.length := by
  fun_induction untilSlash s generalizing t r with
  | case1 => cases h
  | case2 rest =>
    cases h
    simp
  | case3 c rest ih =>
    obtain ⟨⟨a, b⟩, hb, he⟩ := Option.map_eq_some_iff.1 h
    cases he
    have := ih hb
    simp only [List.length_cons]
    omega
  | case4 c rest _ _ ih =>
    obtain ⟨⟨a, b⟩, hb, he⟩ := Option.map_eq_some_iff.1 h
    cases he
    have := ih hb
    simp only [List.length_cons]
    omega

theorem length_leading_le {c : Char} {rest r : List Char} {op : AddressOp}
    (h : leading? (c :: rest) = some (op, r)) : r.length ≤ rest.length := by
  have hs : ∀ spelling ∈ spellings, 0 < spelling.1.length := by decide
  cases rest with
  | nil => cases h
  | cons d rest =>
    obtain ⟨⟨symbol, _⟩, hm, hp⟩ := List.exists_of_findSome?_eq_some h
    have hl := hs _ hm
    dsimp only at hp hl
    split at hp
    · cases hp
      simp only [List.length_drop, List.length_cons]
      omega
    · cases hp

theorem length_body_le {c : Char} {rest t r : List Char} {kind : ItemKind}
    (h : body c rest = some (kind, t, r)) : r.length ≤ rest.length := by
  simp only [body] at h
  split at h
  · obtain ⟨⟨a, b⟩, hb, he⟩ := Option.map_eq_some_iff.1 h
    cases he
    exact length_untilMark_le hb
  · split at h
    · obtain ⟨⟨a, b⟩, hb, he⟩ := Option.map_eq_some_iff.1 h
      cases he
      exact length_untilSlash_le hb
    · split at h
      · next op behind ho =>
        cases h
        exact Nat.le_trans (List.dropWhile_sublist _).length_le (length_leading_le ho)
      · cases h
        exact (List.dropWhile_sublist _).length_le

/-- Spaces separate items, and `-` in front of one excludes; alone it is nothing. A quote or an
expression that is not closed ends the query without an item. -/
def items : List Char → List Item
  | [] => []
  | ' ' :: rest => items rest
  | ['-'] => []
  | '-' :: ' ' :: rest => items rest
  | '-' :: c :: rest =>
    match _h : body c rest with
    | some (kind, text, left) => ⟨kind, true, text⟩ :: items left
    | none => []
  | c :: rest =>
    match _h : body c rest with
    | some (kind, text, left) => ⟨kind, false, text⟩ :: items left
    | none => []
termination_by s => s.length
decreasing_by
  · simp
  · simp only [List.length_cons]
    omega
  · have := length_body_le _h
    simp only [List.length_cons]
    omega
  · have := length_body_le _h
    simp only [List.length_cons]
    omega

end MemoryAtlas.Query.Grammar
