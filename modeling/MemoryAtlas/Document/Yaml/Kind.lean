import MemoryAtlas.Document
import MemoryAtlas.Document.Yaml.Source
import MemoryAtlas.Text.Case

/-!
Kinds of YAML 1.1 values: how the text of a plain scalar shows its kind, and what the text stands for.
-/

namespace MemoryAtlas.Yaml

/-- `merge` takes over the fields of other records, and `default` is the key for a value of its own. -/
inductive Kind where
  | null | bool | int | float | text | moment | list | record | merge | default | other
deriving DecidableEq

/-! Shapes of texts -/

def trueWords : List String := ["yes", "Yes", "YES", "true", "True", "TRUE", "on", "On", "ON"]

def falseWords : List String := ["no", "No", "NO", "false", "False", "FALSE", "off", "Off", "OFF"]

def nullWords : List String := ["", "~", "null", "Null", "NULL"]

def splitSign : List Char → Bool × List Char
  | '-' :: rest => (true, rest)
  | '+' :: rest => (false, rest)
  | s => (false, s)

/-- At least one digit of a base, with low lines anywhere. -/
def isRun (base : Nat) (s : List Char) : Bool :=
  !s.isEmpty && s.all fun c => c == '_' || (Hex.digit? c).any (· < base)

/-- Decimal digits that do not begin with a low line. -/
def isNumeral (s : List Char) : Bool := s.head?.any Char.isDigit && isRun 10 s

/-- One or two digits below sixty. -/
def isSixtieth : List Char → Bool
  | [c] => c.isDigit
  | [t, c] => '0' ≤ t && t ≤ '5' && c.isDigit
  | _ => false

/-- Decimal digits and groups of sixty, with colons in front of them. -/
def isSexagesimal (s : List Char) : Bool :=
  match s.splitOn ':' with
  | first :: group :: others => isNumeral first && (group :: others).all isSixtieth
  | _ => false

def isInt (s : List Char) : Bool :=
  match (splitSign s).2 with
  | ['0'] => true
  | '0' :: 'b' :: ds => isRun 2 ds
  | '0' :: 'x' :: ds => isRun 16 ds
  | '0' :: ds => isRun 8 ds
  | rest => isNumeral rest || isSexagesimal rest

/-- An exponent has a sign. -/
def isExponent : List Char → Bool
  | [] => true
  | e :: sign :: ds =>
    (e == 'e' || e == 'E') && (sign == '-' || sign == '+') && !ds.isEmpty && ds.all Char.isDigit
  | _ => false

def isDecimal (c : Char) : Bool := c.isDigit || c == '_'

/-- What stands in front of the point and behind it, if there is one. -/
def splitPoint (s : List Char) : Option (List Char × List Char) :=
  if s.contains '.' then some (s.takeWhile (· != '.'), (s.dropWhile (· != '.')).tail) else none

def infinityWords : List String := [".inf", ".Inf", ".INF"]

def nanWords : List String := [".nan", ".NaN", ".NAN"]

def isFloat (s : List Char) : Bool :=
  let rest := (splitSign s).2
  if infinityWords.contains (String.ofList rest) || nanWords.contains (String.ofList s) then true
  else
    match splitPoint rest with
    | none => false
    | some ([], fraction) =>
      rest.length == s.length && isNumeral (fraction.takeWhile isDecimal)
        && isExponent (fraction.dropWhile isDecimal)
    | some (whole, fraction) =>
      isNumeral whole && isExponent (fraction.dropWhile isDecimal)
        || isSexagesimal whole && fraction.all isDecimal

/-- A number of at least `least` and at most `most` digits in front of a text. -/
def digits? (least most : Nat) (s : List Char) : Option (Nat × List Char) :=
  let ds := (s.take most).takeWhile Char.isDigit
  if ds.length < least then none
  else some (ds.foldl (fun n c => 10 * n + (c.toNat - 48)) 0, s.drop ds.length)

def after? (mark : Char) : List Char → Option (List Char)
  | c :: rest => if c = mark then some rest else none
  | [] => none

/-- The fraction of a second in millionths; nothing behind the sixth digit counts. -/
def micro (s : List Char) : Nat × List Char :=
  match s with
  | '.' :: rest =>
    let ds := (rest.takeWhile Char.isDigit).take 6
    ((ds ++ List.replicate (6 - ds.length) '0').foldl (fun n c => 10 * n + (c.toNat - 48)) 0,
      rest.dropWhile Char.isDigit)
  | _ => (0, s)

/-- The offset of a zone in minutes, with nothing behind it. -/
def offset? (s : List Char) : Option (Option Int) :=
  match s.dropWhile isSpace with
  | [] => if s.isEmpty then some none else none
  | ['Z'] => some (some 0)
  | sign :: rest => do
    if sign ≠ '-' ∧ sign ≠ '+' then none
    let (hours, rest) ← digits? 1 2 rest
    let (minutes, rest) ← match rest with
      | ':' :: rest => digits? 2 2 rest
      | rest => some (0, rest)
    if !rest.isEmpty then none
    let n : Int := 60 * hours + minutes
    return some (if sign = '-' then -n else n)

def clock? (s : List Char) : Option Clock := do
  let s ← match s with
    | 'T' :: rest | 't' :: rest => some rest
    | c :: _ => if isSpace c then some (s.dropWhile isSpace) else none
    | [] => none
  let (hour, s) ← digits? 1 2 s
  let (minute, s) ← digits? 2 2 (← after? ':' s)
  let (second, s) ← digits? 2 2 (← after? ':' s)
  let (micro, s) := micro s
  return ⟨hour, minute, second, micro, ← offset? s⟩

def moment? (s : List Char) : Option Moment := do
  let (year, rest) ← digits? 4 4 s
  let (month, rest) ← digits? 1 2 (← after? '-' rest)
  let (day, rest) ← digits? 1 2 (← after? '-' rest)
  if rest.isEmpty then return ⟨year, month, day, none⟩
  else return ⟨year, month, day, some (← clock? rest)⟩

/-- Without a tag, a day has all its digits if no time follows it. -/
def isMoment (s : List Char) : Bool :=
  match moment? s with
  | some m => m.clock.isSome || s.length = 10
  | none => false

/-- The kind of a plain scalar. -/
def Kind.ofPlain (s : List Char) : Kind :=
  let word := String.ofList s
  if trueWords.contains word || falseWords.contains word then .bool
  else if isFloat s then .float
  else if isInt s then .int
  else if word = "<<" then .merge
  else if nullWords.contains word then .null
  else if isMoment s then .moment
  else if word = "=" then .default
  else .text

/-- Kinds of their own have names in one namespace. -/
def Kind.ofTag (tag : List Char) : Kind :=
  let names : List (String × Kind) := [("null", .null), ("bool", .bool), ("int", .int), ("float", .float),
    ("str", .text), ("timestamp", .moment), ("seq", .list), ("map", .record), ("merge", .merge),
    ("value", .default)]
  (names.lookup (String.ofList (tag.drop 18))).elim .other fun kind =>
    if tag.take 18 = "tag:yaml.org,2002:".toList then kind else .other

/-! What texts stand for -/

def inBase (base : Nat) (digits : List Char) : Except Fault Int :=
  match Integer.grouped (fun c => (Hex.digit? c).filter (· < base)) digits with
  | some ds => .ok (Integer.value base ds)
  | none => .error (.badInt (.badDigits base digits))

def inSixties (base : Int) (groups : List Int) : Int := groups.foldl (fun n d => base * n + d) 0

/-- Low lines do not count. A leading zero is for base eight. -/
def readInt (s : List Char) : Except Fault Int := do
  let (negative, digits) := splitSign (s.filter (· != '_'))
  let n ← match digits with
    | [] => throw .noNumber
    | ['0'] => pure 0
    | '0' :: 'b' :: ds => inBase 2 ds
    | '0' :: 'x' :: ds => inBase 16 ds
    | '0' :: ds => inBase 8 ('0' :: ds)
    | ds => do
      let groups ← (ds.splitOn ':').mapM fun group => (Integer.readDecimal group).mapError .badInt
      pure (inSixties 60 groups)
  return if negative then -n else n

/-- A decimal number with or without a point and an exponent. -/
def readDecimal (s : List Char) : Except Fault Binary64 :=
  let whole := s.takeWhile Char.isDigit
  let rest := s.dropWhile Char.isDigit
  let (fraction, rest) := match rest with
    | '.' :: r => (r.takeWhile Char.isDigit, r.dropWhile Char.isDigit)
    | r => ([], r)
  let power : Option Int := match rest with
    | [] => some 0
    | e :: r =>
      let (negative, ds) := splitSign r
      if e = 'e' ∧ !ds.isEmpty ∧ ds.all Char.isDigit then
        let n : Int := Integer.value 10 (ds.filterMap Hex.digit?)
        some (if negative then -n else n)
      else none
  match power with
  | some n =>
    if (whole ++ fraction).isEmpty then .error (.badFloat s)
    else
      let ds := (whole ++ fraction).filterMap Hex.digit?
      .ok (.ofDecimal false (Integer.value 10 ds) (n - fraction.length))
  | none => .error (.badFloat s)

def readFloat (s : List Char) : Except Fault Binary64 := do
  let text := Text.lower (s.filter (· != '_'))
  if text.isEmpty then throw .noNumber
  let (negative, rest) := splitSign text
  let x ←
    if rest = ".inf".toList then pure (.infinity false)
    else if rest = ".nan".toList then pure .notANumber
    else do
      let groups ← (rest.splitOn ':').mapM readDecimal
      pure (groups.reverse.foldl (fun sum x => (Binary64.add sum.1 (x.times sum.2), 60 * sum.2)) (.zero false, 1)).1
  return if negative then x.negate else x

/-- The scalar of a kind that a text stands for. -/
def Kind.read (kind : Kind) (s : List Char) : Except Fault Scalar :=
  match kind with
  | .null => .ok .null
  | .bool =>
    let word := Text.lower s
    if ["yes", "true", "on"].contains (String.ofList word) then .ok (.bool true)
    else if ["no", "false", "off"].contains (String.ofList word) then .ok (.bool false)
    else .error (.badBool word)
  | .int => return .int (← readInt s)
  | .float => return .float (← readFloat s)
  | .text => .ok (.text (String.ofList s))
  | .moment =>
    match moment? s with
    | some m => do return .moment (← m.checked.mapError .badMoment)
    | none => .error .noMoment
  | .list | .record | .merge | .default | .other => .error .malformed

end MemoryAtlas.Yaml
