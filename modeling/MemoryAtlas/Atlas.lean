import MemoryAtlas.Archive
import MemoryAtlas.MapKind
import MemoryAtlas.Record.Convert
import MemoryAtlas.Record.Region
import MemoryAtlas.References

/-!
Loading one map of a game as it is in one region, with the definitions that go with it.
-/

namespace MemoryAtlas

/-- What is on view: the definitions of the game and the entries of the map. -/
structure Atlas where
  structs : StructTable
  enums : EnumTable
  entries : List Entry

/-- Which map of which game, in which region. The names need not exist. -/
structure Selection where
  game : String
  map : String
  region : String
deriving DecidableEq

namespace Atlas

/-- Why nothing can be loaded. -/
inductive Fault where
  | file (path : String) (why : Archive.Fault)
  | noList (path : String)
  | record (index : Nat) (path : String) (defect : Defect)
  | struct (label : Document) (defect : Defect)
  | enum (label : Document) (defect : Defect)
  | misshape (m : Misshape)
  | unsupportedMap (key : String)
  | reference (fault : References.Fault)

def Fault.message : Fault → String
  | .file path .absent => "No such file: " ++ path
  | .file path .throughFile => "Not a directory on the way: " ++ path
  | .file path .isFolder => "Is a directory: " ++ path
  | .file path .tooLong => "File name too long: " ++ path
  | .file _ .badName => "embedded null byte"
  | .file path (.json .malformed) => "Not a JSON document: " ++ path
  | .file _ (.json (.tooLong digits)) => (Integer.Misspelling.tooLong digits).message
  | .file path (.json .tooDeep) => "Nested too deeply: " ++ path
  | .noList path => "Expected a list of records in " ++ path
  | .record index path defect =>
    "Error parsing record " ++ toString index ++ " in " ++ path ++ ": " ++ defect.message
  | .struct label defect => label.mention fun shown => "Error parsing struct " ++ shown ++ ": " ++ defect.message
  | .enum label defect => label.mention fun shown => "Error parsing enum " ++ shown ++ ": " ++ defect.message
  | .misshape _ => "Wrong shape"
  | .unsupportedMap key => "Unsupported map type: " ++ key
  | .reference fault => fault.message

/-- A defect is reported together with the place where it is. -/
def Fault.within (place : Defect → Fault) : RecordFault → Fault
  | .defect d => place d
  | .misshape m => .misshape m

def records (files : Archive) (path : String) : Except Fault (List Document) :=
  match files.document path with
  | .ok (.list items) => .ok items
  | .ok _ => .error (.noList path)
  | .error why => .error (.file path why)

/-- A definition needs a label that can be a key. -/
def keyed {α : Type} (caption : α → Caption) (a : α) : Except Fault α :=
  if (caption a).label.scalar?.isSome then .ok a else .error (.misshape .label)

def readStruct (d : Document) : Except Fault StructDef := do
  let r ← (d.toRecord .struct).mapError (.within (.struct .null))
  keyed StructDef.toCaption (← r.struct.mapError (.within (.struct (r.optional "label"))))

def readEnum (d : Document) : Except Fault EnumDef := do
  let r ← (d.toRecord .enum).mapError (.within (.enum .null))
  keyed EnumDef.toCaption (← r.enum.mapError (.within (.enum (r.optional "label"))))

def readStructs (files : Archive) (path : String) : Except Fault StructTable := do
  return Table.ofList (fun s => s.label.scalar?) (← (← records files path).mapM readStruct)

def readEnums (files : Archive) (path : String) : Except Fault EnumTable := do
  return Table.ofList (fun e => e.label.scalar?) (← (← records files path).mapM readEnum)

/-- Records of the code map are functions, all others are variables. -/
def convert (map : String) (r : Record) : Except RecordFault Entry :=
  if map = MapKind.code.key then .code <$> r.code else .data <$> r.data

/-- The entry of a record, unless the region has none. -/
def readEntry (map region : String) (d : Document) : Except RecordFault (Option Entry) := do
  match ← ((← d.toFields).inRegion region).mapError .defect with
  | some r => some <$> convert map r
  | none => return none

/-- Counts the records from `index` on, those without an entry too. -/
def readAll (path map region : String) : (index : Nat) → List Document → Except Fault (List Entry)
  | _, [] => .ok []
  | index, d :: rest => do
    let entry ← (readEntry map region d).mapError (.within (.record index path))
    return entry.toList ++ (← readAll path map region (index + 1) rest)

def ascending (a b : Entry) : Bool := a.rank ≤ b.rank

/-- Entries at one address keep the order of the file. -/
def readEntries (files : Archive) (path map region : String) : Except Fault (List Entry) := do
  return (← readAll path map region 0 (← records files path)).mergeSort ascending

/-- Whether one entry goes before another by their labels, if the labels have an order. -/
def labelsLe? (a b : Entry) : Option Bool := do (← a.label.scalar?).le? (← b.label.scalar?)

/-- Definitions in the order of their labels, which are all numbers or all texts. A single one may have
any label. -/
def listed : List Entry → Except Fault (List Entry)
  | [] => .ok []
  | e :: rest =>
    if rest.all fun other => (labelsLe? e other).isSome then
      .ok ((e :: rest).mergeSort fun a b => (labelsLe? a b).getD false)
    else .error (.misshape .label)

def file (root : String) (s : Selection) (name : String) : String :=
  Archive.join (Archive.join root s.game) (name ++ ".json")

def entriesOf (files : Archive) (root : String) (s : Selection) (structs : StructTable)
    (enums : EnumTable) : Except Fault (List Entry) :=
  match MapKind.ofKey? s.map with
  | some .structs => listed (structs.definitions.map .struct)
  | some .enums => listed (enums.definitions.map .enum)
  | some _ => readEntries files (file root s s.map) s.map s.region
  | none => .error (.unsupportedMap s.map)

/-- The atlas before its references are checked. -/
def read (files : Archive) (root : String) (s : Selection) : Except Fault Atlas := do
  let enums ← readEnums files (file root s "enums")
  let structs ← readStructs files (file root s "structs")
  return ⟨structs, enums, ← entriesOf files root s structs enums⟩

/-- Only an atlas that has been read as a whole gives warnings. -/
def load (files : Archive) (root : String) (s : Selection) : Checked UnknownEnum Fault Atlas :=
  match read files root s with
  | .error fault => .error fault
  | .ok atlas =>
    let checked := References.check atlas.structs atlas.enums (References.all atlas.entries atlas.structs)
    ⟨checked.warnings, (checked.result.mapError .reference).map fun _ => atlas⟩

end Atlas

end MemoryAtlas
