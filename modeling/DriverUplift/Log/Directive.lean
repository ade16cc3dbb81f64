import DriverUplift.Log.Event
import DriverUplift.Pattern.Usable
import DriverUplift.Text.Split

/-!
# Directives

A directive is a level for some events: those of the targets that start with a
given text, or those that have a given field.  It is written as a target, spans
in brackets, a field in braces within them, and a level behind an equals sign;
each part may be missing.

Blanks around a directive do not count when its parts are told apart, but the
parts are then cut out of the whole text, at the places where they are without
the blanks in front.
-/

namespace DriverUplift.Log

/-- The level up to which events are shown; `none` shows nothing. -/
abbrev Threshold := Option Level

def Level.passes (level : Level) : Threshold → Bool
  | none => false
  | some bound => level.rank ≤ bound.rank

namespace Threshold

def ofNumber? : Nat → Option Threshold
  | 0 => some none
  | 1 => some (some .error)
  | 2 => some (some .warn)
  | 3 => some (some .info)
  | 4 => some (some .debug)
  | 5 => some (some .trace)
  | _ => none

def ofChars? (text : List Char) : Option Threshold :=
  let digits := match text with
    | '+' :: rest => rest
    | _ => text
  if digits ≠ [] ∧ digits.all Char.isDigit then
    ofNumber? (digits.foldl (fun n c => n * 10 + (c.toNat - '0'.toNat)) 0)
  else
    match String.ofList (text.map Char.toLower) with
    | "off" => some none
    | "error" => some (some .error)
    | "warn" => some (some .warn)
    | "info" => some (some .info)
    | "debug" => some (some .debug)
    | "trace" => some (some .trace)
    | _ => none

/-- The threshold behind an equals sign; nothing stands for everything. -/
def orAll? (text : List Char) : Option Threshold :=
  if text.isEmpty then some (some .trace) else ofChars? text

end Threshold

/-- A threshold for the events that a directive concerns. -/
structure Directive where
  /-- What their targets start with. -/
  target : Option String
  /-- The field that they have. -/
  field : Option String
  threshold : Threshold
  deriving DecidableEq, Repr

namespace Directive

def ofThreshold (threshold : Threshold) : Directive :=
  ⟨none, none, threshold⟩

/-! ## Places in a text -/

def size (text : List Char) : Nat :=
  text.foldl (fun n c => n + c.utf8Size) 0

def drop? : Nat → List Char → Option (List Char)
  | 0, text => some text
  | _, [] => none
  | bytes, c :: text => if c.utf8Size ≤ bytes then drop? (bytes - c.utf8Size) text else none

def take? : Nat → List Char → Option (List Char)
  | 0, _ => some []
  | _, [] => none
  | bytes, c :: text =>
      if c.utf8Size ≤ bytes then (take? (bytes - c.utf8Size) text).map (c :: ·) else none

def cut? (text : List Char) (start stop : Nat) : Option (List Char) :=
  (drop? start text).bind (take? (stop - start))

/-! ## Fields -/

def isDecimal (text : List Char) : Bool :=
  let whole := text.takeWhile Char.isDigit
  let behind := text.dropWhile Char.isDigit
  let fraction := match behind with
    | '.' :: rest => rest.takeWhile Char.isDigit
    | _ => []
  let behind := match behind with
    | '.' :: rest => rest.dropWhile Char.isDigit
    | _ => behind
  let exponentOk := match behind with
    | [] => true
    | mark :: rest =>
        let digits := match rest with
          | '+' :: digits => digits
          | '-' :: digits => digits
          | digits => digits
        (mark == 'e' || mark == 'E') && !digits.isEmpty && digits.all Char.isDigit
  !(whole.isEmpty && fraction.isEmpty) && exponentOk

def isPositive (text : List Char) : Bool :=
  match text with
  | '+' :: number =>
      isDecimal number ||
        ["inf", "infinity", "nan"].contains (String.ofList (number.map Char.toLower))
  | _ => false

/-- Whether a text can be the value of a field.  Other numbers and truth values are patterns too. -/
def isValue (text : List Char) : Bool :=
  isPositive text || Pattern.isUsable text

/-- A field of events, and whether its value counts. -/
structure FieldMatch where
  name : String
  hasValue : Bool
  deriving DecidableEq, Repr

def FieldMatch.ofChars? (text : List Char) : Option FieldMatch :=
  if text.isEmpty then none
  else
    match Text.splitWhere (· == '=') text with
    | name :: value :: _ => if isValue value then some ⟨String.ofList name, true⟩ else none
    | parts => some ⟨String.ofList (parts.headD []), false⟩

/-! ## Reading -/

inductive Part where
  | directive (directive : Directive)
  /-- Only spans or values of fields are concerned, of which events have none. -/
  | elsewhere
  deriving DecidableEq, Repr

def mayStart (c : Char) : Bool :=
  Text.isAlphanumeric c || c == '-' || c == ':' || c == '_'

def Part.of (target : Option String) (spans : Bool) (field : Option FieldMatch)
    (threshold : Threshold) : Part :=
  match spans, field with
  | false, none => .directive ⟨target, none, threshold⟩
  | false, some ⟨name, false⟩ => .directive ⟨target, some name, threshold⟩
  | _, _ => .elsewhere

def behindSpans? (whole : List Char) (make : Threshold → Part) (place : Nat) :
    List Char → Option Part
  | [] => some (make (some .trace))
  | '=' :: _ => do
      let level ← drop? (place + 1) whole
      let threshold ← Threshold.orAll? level
      pure (make threshold)
  | _ => none

/-- Read spans behind the bracket that opens them; a field in them ends them. -/
def spans? (whole : List Char) (target : Option String) (place : Nat) (text : List Char) :
    Option Part := do
  let ends := fun c => c == ']' || c == '\x7b'
  let stop := place + size (text.takeWhile (!ends ·))
  let name ← cut? whole place stop
  match text.dropWhile (!ends ·) with
  | ']' :: rest => behindSpans? whole (.of target true none) (stop + 1) rest
  | _ :: inner =>
      let fieldStop := stop + 1 + size (inner.takeWhile (· != '\x7d'))
      match inner.dropWhile (· != '\x7d') with
      | _ :: ']' :: rest =>
          let field ← (cut? whole (stop + 1) fieldStop).bind FieldMatch.ofChars?
          behindSpans? whole (.of target (!name.isEmpty) (some field)) (fieldStop + 2) rest
      | _ => none
  | [] => none

def alone (text : List Char) : Directive :=
  match Threshold.ofChars? text with
  | some threshold => ofThreshold threshold
  | none => ⟨some (String.ofList text), none, some .trace⟩

def part? (whole : List Char) : Option Part :=
  match Text.trimmed whole with
  | [] => none
  | '[' :: rest => spans? whole none 1 rest
  | c :: rest =>
      if !mayStart c then none
      else
        let ends := fun c => c == '=' || c == '['
        let stop := size ((c :: rest).takeWhile (!ends ·))
        match (c :: rest).dropWhile (!ends ·) with
        | [] => some (.directive (alone whole))
        | '=' :: _ => do
            let target ← cut? whole 0 stop
            let level ← drop? (stop + 1) whole
            let threshold ← Threshold.orAll? level
            pure (.directive ⟨some (String.ofList target), none, threshold⟩)
        | _ :: spans => do
            let target ← cut? whole 0 stop
            spans? whole (some (String.ofList target)) (stop + 1) spans

/-! ## Which events a directive concerns -/

def concerns (event : Event) (directive : Directive) : Bool :=
  (directive.target.map fun start => start.toList.isPrefixOf event.target.toList).getD true &&
    (directive.field.map event.source.fields.contains).getD true

/-- How long the target of a directive is; one for all targets comes before all lengths. -/
def reach (directive : Directive) : Nat :=
  match directive.target with
  | none => 0
  | some start => start.utf8ByteSize + 1

/--
Whether one directive is at least as specific as another that concerns the same
event: a longer target first, then a field, then the name of the field.
-/
def isAsSpecific (first second : Directive) : Bool :=
  if first.reach ≠ second.reach then second.reach < first.reach
  else
    match first.field, second.field with
    | _, none => true
    | none, some _ => false
    | some name, some other => !(name < other)

end Directive

end DriverUplift.Log
