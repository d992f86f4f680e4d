import MemoryAtlas.Document
import MemoryAtlas.Table
import MemoryAtlas.TypeDecl

/-!
The entries of a memory map: variables, functions, and the structs and enums they refer to.
-/

namespace MemoryAtlas

/-- What the bytes of a variable stand for. -/
inductive Category where
  | flags | ascii | sjis | text | gfx | tilemap | palette | oamFrame | bgBlocks | bgMap | pcm | thumb | arm
deriving DecidableEq

namespace Category

def all : List Category :=
  [.flags, .ascii, .sjis, .text, .gfx, .tilemap, .palette, .oamFrame, .bgBlocks, .bgMap, .pcm, .thumb, .arm]

def key : Category → String
  | .flags => "flags"
  | .ascii => "ascii"
  | .sjis => "sjis"
  | .text => "text"
  | .gfx => "gfx"
  | .tilemap => "tilemap"
  | .palette => "palette"
  | .oamFrame => "oam_frame"
  | .bgBlocks => "bg_blocks"
  | .bgMap => "bg_map"
  | .pcm => "pcm"
  | .thumb => "thumb"
  | .arm => "arm"

def ofKey? (key : String) : Option Category := all.find? fun c => c.key == key

def title : Category → String
  | .flags => "Flags"
  | .ascii => "ASCII"
  | .sjis => "Shift JIS"
  | .text => "Text"
  | .gfx => "Graphics"
  | .tilemap => "Tilemap"
  | .palette => "Palette"
  | .oamFrame => "OAM frame"
  | .bgBlocks => "BG block map"
  | .bgMap => "BG tilemap"
  | .pcm => "PCM"
  | .thumb => "THUMB"
  | .arm => "ARM"

end Category

/-- The instruction set of a function. -/
inductive CodeMode where
  | thumb | arm
deriving DecidableEq

namespace CodeMode

def key : CodeMode → String
  | .thumb => "thumb"
  | .arm => "arm"

def ofKey? (key : String) : Option CodeMode := [thumb, arm].find? fun m => m.key == key

end CodeMode

/-- What the entries of every kind have in common: texts as a rule, but nothing keeps a data file from
having other values there. -/
structure Caption where
  label : Document
  desc : Document
  notes : Document
deriving DecidableEq

/-- A variable without an enum has null for it. -/
structure Var extends Caption where
  type : TypeDecl
  count : Option Int
  category : Option Category
  enum : Document
deriving DecidableEq

structure Data extends Var where
  addr : Int
deriving DecidableEq

structure Field extends Var where
  offset : Int
deriving DecidableEq

structure Code extends Caption where
  addr : Int
  size : Int
  mode : Option CodeMode
  params : List Var
  ret : Option Var
deriving DecidableEq

structure EnumValue extends Caption where
  val : Int
deriving DecidableEq

structure StructDef extends Caption where
  size : Int
  fields : List Field
deriving DecidableEq

structure EnumDef extends Caption where
  vals : List EnumValue
deriving DecidableEq

abbrev StructTable := Table StructDef

abbrev EnumTable := Table EnumDef

inductive Entry where
  | var (v : Var)
  | data (d : Data)
  | field (f : Field)
  | code (c : Code)
  | enumValue (v : EnumValue)
  | struct (s : StructDef)
  | enum (e : EnumDef)
deriving DecidableEq

/-- The name of a definition; what amounts to nothing is no name. -/
def Document.name? (d : Document) : Option Scalar := if d.isPresent then d.scalar? else none

/-- The struct that the type is about; an empty name refers to nothing. -/
def TypeDecl.structRef (t : TypeDecl) : Option Scalar :=
  (t.spec.structName?.filter (· != "")).map .text

/-- The type of a variable as it is shown: a count other than zero is one of the dimensions. -/
def Var.typeText (v : Var) : String :=
  let declarator := v.type.declaratorChars
  let shown := match v.count with
    | none | some 0 => declarator
    | some n => TypeDecl.withCount declarator n
  TypeDecl.join v.type.spec.name shown

namespace Entry

def caption : Entry → Caption
  | .var v => v.toCaption
  | .data d => d.toCaption
  | .field f => f.toCaption
  | .code c => c.toCaption
  | .enumValue v => v.toCaption
  | .struct s => s.toCaption
  | .enum e => e.toCaption

def label (e : Entry) : Document := e.caption.label

def desc (e : Entry) : Document := e.caption.desc

/-- The variable that an entry is, if it is one. -/
def var? : Entry → Option Var
  | .var v => some v
  | .data d => some d.toVar
  | .field f => some f.toVar
  | _ => none

/-- The number that entries are ordered by; variables alone and definitions have none. -/
def sortValue : Entry → Option Int
  | .data d => some d.addr
  | .field f => some f.offset
  | .code c => some c.addr
  | .enumValue v => some v.val
  | .var _ | .struct _ | .enum _ => none

/-- Entries without a number rank as zero. -/
def rank (e : Entry) : Int := e.sortValue.getD 0

end Entry

end MemoryAtlas
