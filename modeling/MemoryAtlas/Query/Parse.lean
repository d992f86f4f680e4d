import MemoryAtlas.Query.Scanner

/-!
From items to clauses, and remarks on expressions. An address that is no hexadecimal numeral drops its item without a
word; an expression that cannot be read is a fault.
-/

namespace MemoryAtlas.Query

/-- Where the cartridge begins in the address space. -/
def romBase : Nat := 0x8000000

/-- Addresses in the cartridge are counted from its start. -/
def normalize (addr : Nat) : Nat := if romBase ≤ addr then addr - romBase else addr

def lowered (text : List Char) : String := String.ofList (Text.lower text)

def Item.clause? (item : Item) : Except BadPattern (Option Clause) :=
  match item.kind with
  | .term => .ok (some ⟨item.exclude, .term (lowered item.text)⟩)
  | .quote => .ok (some ⟨item.exclude, .quote (lowered item.text)⟩)
  | .regex =>
    match Pattern.read item.text with
    | .ok pattern => .ok (some ⟨item.exclude, .regex (String.ofList item.text) pattern⟩)
    | .error flaw => .error ⟨String.ofList item.text, flaw⟩
  | .address op =>
    .ok ((Hex.readChars item.text).map fun n =>
      ⟨item.exclude, .address op (String.ofList item.text) (normalize n)⟩)

def ofItems (items : List Item) : Except BadPattern (List Clause) := do
  let found ← items.mapM Item.clause?
  return found.filterMap id

/-- Reads the text of a query. -/
def parse (s : String) : Except BadPattern (List Clause) := ofItems (scan s.toList)

/-- The expressions that have been read. -/
abbrev Known := List (List Char)

def expressions (s : String) : List (List Char) :=
  ((scan s.toList).filter (·.kind = .regex)).map (·.text)

/-- An expression is remarked upon until it has been read once; one that cannot be read ends the query. -/
def remarksFrom (known : Known) : List (List Char) → List Pattern.Remark × Known
  | [] => ([], known)
  | e :: rest =>
    if known.contains e then remarksFrom known rest
    else
      let examined := Pattern.examine e
      match examined.result with
      | .ok _ =>
        let (more, known) := remarksFrom (e :: known) rest
        (examined.warnings ++ more, known)
      | .error _ => (examined.warnings, known)

def remarks (known : Known) (s : String) : List Pattern.Remark × Known := remarksFrom known (expressions s)

end MemoryAtlas.Query
