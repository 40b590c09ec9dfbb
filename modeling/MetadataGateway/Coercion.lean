import MetadataGateway.Argument
import MetadataGateway.Request
import MetadataGateway.Json.Reader
import MetadataGateway.Text.Quoted
import MetadataGateway.Timestamp.Reader

/-!
# Arguments from texts

The raw values of a request become the arguments of an operation. The empty text becomes the null of
its type, whatever the type, and no other text does. Numbers and timestamps may have white space
around them.
-/

namespace MetadataGateway.Coercion

open Text Number

/-- Why a text is no value of a type. -/
inductive Reason where
  | integer (e : IntegerError)
  | emptyFloat
  | invalidFloat
  | notATimestamp
  | json (e : Json.Error)
deriving DecidableEq, Repr

/-- The wording of a reason. -/
def Reason.message : Reason → String
  | .integer e => e.message
  | .emptyFloat => "cannot parse float from empty string"
  | .invalidFloat => "invalid float literal"
  | .notATimestamp => "not a recognised timestamp"
  | .json e => e.message

/-- The integer of a text. -/
def integerOf (raw : List Char) : Except Reason Int :=
  match readInt32 (trim raw) with
  | .ok n => .ok n
  | .error e => .error (.integer e)

/-- The floating-point number of a text. -/
def floatOf (raw : List Char) : Except Reason Float :=
  match trim raw with
  | [] => .error .emptyFloat
  | text =>
    match readFloat? text with
    | some x => .ok x
    | none => .error .invalidFloat

/-- The timestamp of a text. -/
def timestampOf (raw : List Char) : Except Reason Timestamp :=
  match Timestamp.read? raw with
  | some t => .ok t
  | none => .error .notATimestamp

/-- The items of a text, which commas separate. -/
def itemsOf (raw : List Char) : List String :=
  (raw.splitOn ',').map String.ofList

/-- The JSON value of a text. -/
def jsonOf (raw : List Char) : Except Reason Json :=
  match Json.ofText raw with
  | .ok v => .ok v
  | .error e => .error (.json e)

/-- The argument of a type that a text stands for. -/
def coerce (kind : Kind) (raw : String) : Except Reason Argument :=
  if raw = "" then .ok (.null kind)
  else
    match kind with
    | .text => .ok (.text (some raw))
    | .integer => (integerOf raw.toList).map fun n => .integer (some n)
    | .float => (floatOf raw.toList).map fun x => .float (some x)
    | .timestamp => (timestampOf raw.toList).map fun t => .timestamp (some t)
    | .textList => .ok (.textList (some (itemsOf raw.toList)))
    | .json => (jsonOf raw.toList).map fun v => .json (some v)

/-- A parameter whose value is no value of its type. -/
structure Error where
  parameter : String
  value : String
  reason : Reason
deriving DecidableEq, Repr

/-- The wording of an error. -/
def Error.message (e : Error) : String :=
  "invalid value " ++ quoteString e.value ++ " for parameter " ++ e.parameter ++ ": "
    ++ e.reason.message

/-- The argument for one parameter. The path is always there, so it is never null. -/
def prepareOne (r : Request) (p : Parameter) : Except Error Argument :=
  match p.source with
  | .path => .ok (.text (some r.gpath))
  | .form name =>
    match coerce p.kind (r.value name) with
    | .ok a => .ok a
    | .error reason => .error ⟨name, r.value name, reason⟩

/-- The arguments of an operation, or the error of its first parameter that has one. -/
def prepare (op : Operation) (r : Request) : Except Error (List Argument) :=
  op.parameters.mapM (prepareOne r)

end MetadataGateway.Coercion
