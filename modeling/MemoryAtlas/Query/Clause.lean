import MemoryAtlas.Pattern.Reader

/-!
The clauses of a query: each one keeps some of the entries that the clauses before it have kept.
-/

namespace MemoryAtlas

/-- How the number of an entry is compared with an address. -/
inductive Comparison where
  | eq | gt | lt | ge | le
deriving DecidableEq

def Comparison.holds : Comparison → Int → Int → Bool
  | .eq, value, addr => value = addr
  | .gt, value, addr => addr < value
  | .lt, value, addr => value < addr
  | .ge, value, addr => addr ≤ value
  | .le, value, addr => value ≤ addr

inductive AddressOp where
  | compare (c : Comparison)
  | near
deriving DecidableEq

namespace Query

/-- What a clause may lack that was not read from a text. -/
inductive Gap where
  | address (op : AddressOp)
  | pattern
deriving DecidableEq

/-- What a clause asks of an entry. Texts to find are in lower case, expressions as they were written. -/
inductive Test where
  | term (text : String)
  | quote (text : String)
  | regex (text : String) (pattern : Pattern)
  | address (op : AddressOp) (numeral : String) (addr : Int)
  | unfinished (gap : Gap)

structure Clause where
  exclude : Bool
  test : Test

/-- The clause has what it compares with. -/
def Clause.IsFinal (c : Clause) : Prop := ∀ gap, c.test ≠ .unfinished gap

/-- The expression in a query cannot be read. -/
structure BadPattern where
  pattern : String
  flaw : Pattern.Flaw
deriving DecidableEq

def BadPattern.message (fault : BadPattern) : String :=
  match fault.flaw with
  | .malformed => "Invalid regex /" ++ fault.pattern ++ "/: "
  | .overflow => "the repetition number is too large"
  | .tooLong digits => (Integer.Misspelling.tooLong digits).message
  | .clash => "ASCII and UNICODE flags are incompatible"
  | .tooFar => "the expression looks too far behind"
  | .tooDeep => "the expression is nested too deep"

end Query

end MemoryAtlas
