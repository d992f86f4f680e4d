import MemoryAtlas.Query.Clause

/-!
Scanning the text of a query into items, one character at a time. Only an address operator looks at
the character behind it. A quote or expression that is never closed is no item.
-/

namespace MemoryAtlas.Query

inductive ItemKind where
  | term | quote | regex
  | address (op : AddressOp)
deriving DecidableEq

structure Item where
  kind : ItemKind
  exclude : Bool
  text : List Char
deriving DecidableEq

/-- Where the next character belongs. -/
inductive Phase where
  | boundary | quote | regex | word
deriving DecidableEq

/-- `items` holds the items begun so far, the latest first. -/
structure Scan where
  rest : List Char
  phase : Phase
  exclude : Bool
  escaped : Bool
  items : List Item
deriving DecidableEq

/-- An operator at the start of an item and the text behind it. The last character of a query is no
operator. -/
def operator? : List Char → Option (AddressOp × List Char)
  | [_] => none
  | '=' :: '=' :: rest => some (.compare .eq, rest)
  | '=' :: rest => some (.compare .eq, rest)
  | '>' :: '=' :: rest => some (.compare .ge, rest)
  | '>' :: rest => some (.compare .gt, rest)
  | '<' :: '=' :: rest => some (.compare .le, rest)
  | '<' :: rest => some (.compare .lt, rest)
  | '~' :: rest => some (.near, rest)
  | _ => none

namespace Scan

def start (s : List Char) : Scan := ⟨s, .boundary, false, false, []⟩

def push (s : Scan) (kind : ItemKind) (text : List Char) (phase : Phase) : Scan :=
  { s with items := ⟨kind, s.exclude, text⟩ :: s.items, exclude := false, phase }

/-- One character more for the latest item. -/
def append (s : Scan) (c : Char) : Scan :=
  match s.items with
  | item :: others => { s with items := { item with text := item.text ++ [c] } :: others }
  | [] => s

/-- The first character of an item, or one in front of it. A second `-` begins a term. -/
def begin (s : Scan) (c : Char) : Scan :=
  if c = ' ' then { s with exclude := false }
  else
    match operator? (c :: s.rest) with
    | some (op, rest) => { s with rest }.push (.address op) [] .word
    | none =>
      if c = '-' ∧ s.exclude = false then { s with exclude := true }
      else if c = '"' then s.push .quote [] .quote
      else if c = '/' then { s with escaped := false }.push .regex [] .regex
      else s.push .term [c] .word

/-- A backslash escapes the character behind it, and both belong to the expression. -/
def inRegex (s : Scan) (c : Char) : Scan :=
  if c = '/' ∧ s.escaped = false then { s with phase := .boundary }
  else { s with escaped := !s.escaped && c == '\\' }.append c

def read (s : Scan) (c : Char) : Scan :=
  match s.phase with
  | .boundary => s.begin c
  | .quote => if c = '"' then { s with phase := .boundary } else s.append c
  | .regex => s.inRegex c
  | .word => if c = ' ' then { s with phase := .boundary } else s.append c

def step (s : Scan) : Option Scan :=
  match s.rest with
  | [] => none
  | c :: rest => some ({ s with rest }.read c)

/-- At most `n` steps. -/
def advance : Nat → Scan → Scan
  | 0, s => s
  | n + 1, s =>
    match s.step with
    | some t => advance n t
    | none => s

/-- The closed items in order. -/
def closed (s : Scan) : List Item :=
  (match s.phase with
    | .quote | .regex => s.items.tail
    | .boundary | .word => s.items).reverse

end Scan

/-- Every step takes at least one character, so there are no more steps than characters. -/
def scan (s : List Char) : List Item := ((Scan.start s).advance s.length).closed

end MemoryAtlas.Query
