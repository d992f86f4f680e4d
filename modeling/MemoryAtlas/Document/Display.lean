import MemoryAtlas.Document
import MemoryAtlas.Text.Quoted

/-!
How a document is shown inside a message: a text alone as it stands, a text within a list or record in quotes.
-/

namespace MemoryAtlas

/-- A scalar within a list or record. -/
def Scalar.inner : Scalar → String
  | .null => "None"
  | .bool true => "True"
  | .bool false => "False"
  | .int n => toString n
  | .float x => x.write
  | .text s => Text.quote s
  | .moment m => m.inner

def Scalar.display : Scalar → String
  | .text s => s
  | .moment m => m.display
  | s => s.inner

namespace Document

mutual

def inner : Document → String
  | .scalar s => s.inner
  | .list items => "[" ++ innerItems items ++ "]"
  | .record fields => "\x7b" ++ innerFields fields ++ "\x7d"

def innerItems : List Document → String
  | [] => ""
  | [item] => inner item
  | item :: rest => inner item ++ ", " ++ innerItems rest

def innerFields : List (Scalar × Document) → String
  | [] => ""
  | [(key, value)] => key.inner ++ ": " ++ inner value
  | (key, value) :: rest => key.inner ++ ": " ++ inner value ++ ", " ++ innerFields rest

end

def display : Document → String
  | .scalar s => s.display
  | d => d.inner

end Document

end MemoryAtlas
