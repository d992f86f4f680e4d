import MemoryAtlas.Document.Display
import MemoryAtlas.Numeral.Integer

/-!
Integers in documents: as numbers, or spelled as texts. A document with an integer that is too long cannot be written.
-/

namespace MemoryAtlas

def Scalar.isWritable : Scalar → Bool
  | .int n => Integer.isWritable n
  | _ => true

namespace Document

mutual

def isWritable : Document → Bool
  | .scalar s => s.isWritable
  | .list items => allWritable items
  | .record fields => allFieldsWritable fields

def allWritable : List Document → Bool
  | [] => true
  | item :: rest => isWritable item && allWritable rest

def allFieldsWritable : List (Scalar × Document) → Bool
  | [] => true
  | (key, value) :: rest => key.isWritable && isWritable value && allFieldsWritable rest

end

def write (d : Document) : Except Integer.Unwritable String :=
  if d.isWritable then .ok d.display else .error ⟨⟩

/-- A message about the document, or about what keeps it from being written. -/
def mention (d : Document) (message : String → String) : String :=
  match d.write with
  | .ok shown => message shown
  | .error fault => fault.message

end Document

/-- Why a value is no integer. -/
inductive NotInteger where
  | value (d : Document)
  | text (why : Integer.Misspelling)

def NotInteger.message : NotInteger → String
  | .value d => d.mention fun shown => "Invalid integer format: " ++ shown
  | .text why => why.message

/-- A truth value is no integer, and neither is a number with a fraction or an exponent. -/
def Document.integer : Document → Except NotInteger Int
  | .int n => .ok n
  | .text s => (Integer.read s).mapError .text
  | d => .error (.value d)

end MemoryAtlas
