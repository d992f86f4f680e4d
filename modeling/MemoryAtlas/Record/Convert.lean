import MemoryAtlas.Entry
import MemoryAtlas.Record

/-!
From records to entries and definitions. What a record must hold is asked for in a fixed order, and the
first fault found counts.
-/

namespace MemoryAtlas.Record

/-- A label that is left out is the empty one. -/
def caption (r : Record) : Caption where
  label := (r.lookup (.text "label")).getD (.text "")
  desc := (r.optional "desc").presentOr (.text "")
  notes := r.optional "notes"

def type (r : Record) : Except RecordFault TypeDecl := do
  match ← r.required "type" with
  | .text s => return TypeDecl.parse s
  | _ => throw (.misshape .type)

def count (r : Record) : Except RecordFault (Option Int) :=
  match r.optional "count" with
  | .null => .ok none
  | d => return some (← d.toInt)

def category (r : Record) : Except RecordFault (Option Category) :=
  let d := r.optional "cat"
  if d.isPresent then
    match d.asText?.bind Category.ofKey? with
    | some c => .ok (some c)
    | none => .error (.defect (.notCategory d))
  else .ok none

def mode (r : Record) : Except RecordFault (Option CodeMode) :=
  let d := r.optional "mode"
  if d.isPresent then
    match d.asText?.bind CodeMode.ofKey? with
    | some m => .ok (some m)
    | none => .error (.defect (.notMode d))
  else .ok none

def int (r : Record) (key : String) : Except RecordFault Int := do (← r.required key).toInt

def var (r : Record) : Except RecordFault Var := do
  return { r.caption with
    type := ← r.type
    count := ← r.count
    category := ← r.category
    enum := (r.optional "enum").presentOr .null }

def data (r : Record) : Except RecordFault Data := do
  let addr ← r.int "addr"
  return { ← r.var with addr }

def field (r : Record) : Except RecordFault Field := do
  let offset ← r.int "offset"
  return { ← r.var with offset }

/-- The parameters and the return value are optional. -/
def code (r : Record) : Except RecordFault Code := do
  let addr ← r.int "addr"
  let size ← r.int "size"
  let mode ← r.mode
  let params ← if (r.optional "params").isPresent then (r.optional "params").toItems else pure []
  let params ← params.mapM fun p => do (← p.toRecord .var).var
  let ret := r.optional "return"
  let ret ← if ret.isPresent then some <$> (do (← ret.toRecord .var).var) else pure none
  return { r.caption with addr, size, mode, params, ret }

/-- Members are optional, but `null` is none. -/
def members (r : Record) (key : String) : Except RecordFault (List Document) :=
  ((r.lookup (.text key)).getD (.list [])).toItems

def struct (r : Record) : Except RecordFault StructDef := do
  let _ ← r.required "label"
  let size ← r.int "size"
  let fields ← (← r.members "vars").mapM fun d => do (← d.toRecord .field).field
  return { r.caption with size, fields }

def enumValue (r : Record) : Except RecordFault EnumValue := do
  let val ← r.int "val"
  return { r.caption with val }

def enum (r : Record) : Except RecordFault EnumDef := do
  let vals ← (← r.members "vals").mapM fun d => do (← d.toRecord .enumValue).enumValue
  let _ ← r.required "label"
  return { r.caption with vals }

end MemoryAtlas.Record
