import MemoryAtlas.Checked
import MemoryAtlas.MapKind
import MemoryAtlas.Record
import MemoryAtlas.Text.Case
import MemoryAtlas.Text.Characters

/-!
Settings of the browser, read from a record. A choice that does not exist gives a warning and leaves the
default; any other value that cannot be used is a fault.
-/

namespace MemoryAtlas

structure Settings where
  mapsDir : String
  game : String
  region : String
  map : String
  filter : String
  searchStructs : Bool
  searchEnums : Bool
  pageSize : Nat
  hiddenColumns : List String
  pageSize_pos : 0 < pageSize

namespace Settings

def games : List String := ["mf", "zm"]

def regions : List String := ["U", "E", "J", "C"]

def maps : List String := MapKind.all.map MapKind.key

def default : Settings where
  mapsDir := "maps/json"
  game := "mf"
  region := "U"
  map := MapKind.ram.key
  filter := ""
  searchStructs := false
  searchEnums := false
  pageSize := 1000
  hiddenColumns := ["label", "notes"]
  pageSize_pos := by decide

/-- A choice that does not exist, as it was written. -/
inductive Warning where
  | game (name : String)
  | region (name : String)
  | map (name : String)
deriving DecidableEq

def Warning.message : Warning → String
  | .game name => "Unknown game '" ++ name ++ "', defaulting to '" ++ default.game ++ "'"
  | .region name => "Unknown region '" ++ name ++ "', defaulting to '" ++ default.region ++ "'"
  | .map name => "Unknown map '" ++ name ++ "', defaulting to '" ++ default.map ++ "'"

/-- Why settings cannot be used. -/
inductive Fault where
  | noRecord (value : Document)
  | noFields (value : Document)
  | notBoolean (value : Document)
  | notInteger (why : NotInteger)
  | notPositive (n : Int)
  | noItems (value : Document)
  | unwritable (why : Integer.Unwritable)

def Fault.message : Fault → String
  | .noRecord value | .noFields value => value.mention fun shown => "Settings are no record: " ++ shown
  | .notBoolean value => value.mention fun shown => "Invalid boolean format: " ++ shown
  | .notInteger why => why.message
  | .notPositive n =>
    (Document.int n).mention fun shown => "page_size must be a positive integer: " ++ shown
  | .noItems value => value.mention fun shown => "Not a list of columns: " ++ shown
  | .unwritable why => why.message

/-- Settings are read one after the other, with warnings on the way. -/
abbrev Reading := Checked Warning Fault

def written (d : Document) : Except Fault String := d.write.mapError .unwritable

/-- Null stands for a setting that is not made. -/
def made (d : Document) : Option Document :=
  match d with
  | .null => none
  | d => some d

/-- One of the choices, written exactly as it is, or else the default with a warning. -/
def choose (warning : String → Warning) (choices : List String) (fallback : String) (d : Document) :
    Reading String :=
  match made d with
  | none => .ok fallback
  | some d =>
    match d.asText?.filter choices.contains with
    | some choice => .ok choice
    | none => do
      let shown ← Checked.ofExcept (written d)
      Checked.warn [warning shown] (.ok fallback)

/-- Regions may be written in either case. -/
def regionName (d : Document) : Except Fault Document :=
  match made d with
  | none => .ok .null
  | some d => do return .text (String.ofList (Text.upper (← written d).toList))

def trueWords : List String := ["true", "yes", "on", "1"]

def falseWords : List String := ["false", "no", "off", "0"]

/-- A truth value, or a word for one in either case with white space around it. -/
def flag : Document → Except Fault (Option Bool)
  | .null => .ok none
  | .bool b => .ok (some b)
  | d => do
    let word := String.ofList (Text.lower (Text.strip (← written d).toList))
    if trueWords.contains word then return some true
    else if falseWords.contains word then return some false
    else throw (.notBoolean d)

/-- The letters that stand between commas. -/
def options (d : Document) : Except Fault (List (List Char)) := do
  if d.isPresent then return ((← written d).toList.splitOn ',').map Text.strip else return []

def positive (n : Int) : Except Fault { n : Nat // 0 < n } :=
  if h : 0 < n then .ok ⟨n.toNat, by omega⟩ else .error (.notPositive n)

def pageSizeOf (d : Document) : Except Fault { n : Nat // 0 < n } :=
  match d with
  | .null => .ok ⟨default.pageSize, default.pageSize_pos⟩
  | d => do positive (← d.integer.mapError .notInteger)

def columns : Document → Except Fault (List String)
  | .null => .ok default.hiddenColumns
  | d =>
    match d.items? with
    | some items => items.mapM written
    | none => .error (.noItems d)

def filterOf (d : Document) : Except Fault String :=
  if d.isPresent then written d else .ok default.filter

def mapsDirOf (r : Record) : Except Fault String :=
  match r.lookup (.text "maps_dir") with
  | some d => written d
  | none => .ok default.mapsDir

/-- The two search options may be given together or each on its own; the latter goes first. -/
def parse (r : Record) : Reading Settings := do
  let mapsDir ← Checked.ofExcept (mapsDirOf r)
  let game ← choose .game games default.game (r.optional "game")
  let regionName ← Checked.ofExcept (regionName (r.optional "region"))
  let region ← choose .region regions default.region regionName
  let map ← choose .map maps default.map (r.optional "map")
  let filter ← Checked.ofExcept (filterOf (r.optional "filter"))
  let letters ← Checked.ofExcept (options (r.optional "options"))
  let searchStructs ← Checked.ofExcept (flag (r.optional "search_structs"))
  let searchEnums ← Checked.ofExcept (flag (r.optional "search_enums"))
  let size ← Checked.ofExcept (pageSizeOf (r.optional "page_size"))
  let hiddenColumns ← Checked.ofExcept (columns (r.optional "hidden_columns"))
  return {
    mapsDir, game, region, map, filter
    searchStructs := searchStructs.getD (letters.contains ['s'])
    searchEnums := searchEnums.getD (letters.contains ['e'])
    pageSize := size.val
    pageSize_pos := size.property
    hiddenColumns }

/-- Why a document that is no record has no settings: a text or list without the first one is asked for
the second. -/
def refusal (d : Document) : Fault :=
  let lacksFirst := match d with
    | .text s => !Text.occurs "maps_dir".toList s.toList
    | .list items => !items.contains (.text "maps_dir")
    | _ => false
  if lacksFirst then .noFields d else .noRecord d

/-- A document without content stands for no settings at all. -/
def ofDocument (d : Document) : Reading Settings :=
  if d.isPresent then
    match d with
    | .record r => parse r
    | d => .error (refusal d)
  else parse []

end Settings

end MemoryAtlas
