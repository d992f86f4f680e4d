import MemoryAtlas.Numeral.Hex
import MemoryAtlas.Text.Characters
import MemoryAtlas.Text.Word

/-!
Type texts of the form "specifier declarator", such as `u16 [4]`, `Sprite *` or `u8 (*)[8]`.
Reading one never fails: a declarator that makes no sense is kept and shows when sizes are asked for.
-/

namespace MemoryAtlas

inductive Prim where
  | u8 | s8 | bool | u16 | s16 | u32 | s32 | void
deriving DecidableEq

namespace Prim

def all : List Prim := [.u8, .s8, .bool, .u16, .s16, .u32, .s32, .void]

def name : Prim → String
  | .u8 => "u8"
  | .s8 => "s8"
  | .bool => "bool"
  | .u16 => "u16"
  | .s16 => "s16"
  | .u32 => "u32"
  | .s32 => "s32"
  | .void => "void"

def ofName? (s : String) : Option Prim := all.find? fun p => p.name == s

def size : Prim → Int
  | .u8 | .s8 | .bool | .void => 1
  | .u16 | .s16 => 2
  | .u32 | .s32 => 4

def description : Prim → String
  | .u8 => "Unsigned 8 bit integer"
  | .s8 => "Signed 8 bit integer"
  | .bool => "Boolean (0 or 1)"
  | .u16 => "Unsigned 16 bit integer"
  | .s16 => "Signed 16 bit integer"
  | .u32 => "Unsigned 32 bit integer"
  | .s32 => "Signed 32 bit integer"
  | .void => ""

end Prim

inductive Spec where
  | prim (p : Prim)
  | struct (name : String)
deriving DecidableEq

namespace Spec

def ofName (s : String) : Spec :=
  match Prim.ofName? s with
  | some p => .prim p
  | none => .struct s

def name : Spec → String
  | .prim p => p.name
  | .struct s => s

def structName? : Spec → Option String
  | .prim _ => none
  | .struct s => some s

/-- A specifier has a struct name if and only if it is no primitive. -/
def ofParts? (prim : Option Prim) (structName : Option String) : Option Spec :=
  match prim, structName with
  | some p, none => some (.prim p)
  | none, some s => some (.struct s)
  | _, _ => none

/-- What a type name means to a reader; nothing for structs and `void`. -/
def description (name : String) : String := ((Prim.ofName? name).map Prim.description).getD ""

end Spec

structure TypeDecl where
  spec : Spec
  declarator : Option String
deriving DecidableEq

namespace TypeDecl

/-- The specifier ends at the first space; what follows is the declarator. -/
def parse (s : String) : TypeDecl :=
  let t := Text.strip s.toList
  let spec := t.takeWhile (· != ' ')
  let rest := Text.strip (t.dropWhile (· != ' '))
  ⟨Spec.ofName (String.ofList spec), if rest.isEmpty then none else some (String.ofList rest)⟩

def declaratorChars (t : TypeDecl) : List Char := (t.declarator.getD "").toList

/-- The part behind the last opening bracket, up to the next closing one; all of it if there is no
opening bracket. -/
def innermost (s : List Char) : List Char :=
  if s.contains '(' then
    ((s.reverse.takeWhile (· != '(')).reverse).takeWhile (· != ')')
  else s

def inner (t : TypeDecl) : List Char := innermost t.declaratorChars

def isPointer (t : TypeDecl) : Bool := t.inner.head? == some '*'

/-- The array dimensions, in hexadecimal; nothing if a word of the inner declarator is no numeral. -/
def dims (t : TypeDecl) : Option (List Nat) := (Text.wordRuns t.inner).mapM Hex.readChars

/-- The specifier, followed by the declarator if there is one. -/
def join (spec : String) (declarator : List Char) : String :=
  if declarator.isEmpty then spec else spec ++ " " ++ String.ofList declarator

def text (t : TypeDecl) : String := join t.spec.name t.declaratorChars

/-- A count becomes one more dimension, behind the last star. -/
def withCount (declarator : List Char) (count : Int) : List Char :=
  let behind := (declarator.reverse.takeWhile (· != '*')).reverse
  let front := declarator.take (declarator.length - behind.length)
  front ++ "[0x".toList ++ (Hex.write count).toList ++ [']'] ++ behind

end TypeDecl

end MemoryAtlas
