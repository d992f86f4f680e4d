import MemoryAtlas.Query.Clause

/-!
Clauses written as the text of a query.
-/

namespace MemoryAtlas

def Comparison.symbol : Comparison → String
  | .eq => "="
  | .gt => ">"
  | .lt => "<"
  | .ge => ">="
  | .le => "<="

def AddressOp.symbol : AddressOp → String
  | .compare c => c.symbol
  | .near => "~"

namespace Query

def Test.write : Test → String
  | .term text => text
  | .quote text => "\"" ++ text ++ "\""
  | .regex text _ => "/" ++ text ++ "/"
  | .address op numeral _ => op.symbol ++ numeral
  | .unfinished (.address op) => op.symbol
  | .unfinished .pattern => "//"

def Clause.write (c : Clause) : String := if c.exclude then "-" ++ c.test.write else c.test.write

def write (clauses : List Clause) : String := String.intercalate " " (clauses.map Clause.write)

end Query

end MemoryAtlas
