import MetadataGateway.Operation
import MetadataGateway.Json.Writer
import MetadataGateway.Timestamp.Basic

/-!
# Arguments

The typed values that an operation calls its function with. Each may be null, which is another thing
than any value of its type.
-/

namespace MetadataGateway

/-- A typed argument, or the null of a type. -/
inductive Argument where
  | text (value : Option String)
  | integer (value : Option Int)
  | float (value : Option Float)
  | timestamp (value : Option Timestamp)
  | textList (value : Option (List String))
  | json (value : Option Json)
deriving Repr

namespace Argument

/-- The type of an argument. -/
def kind : Argument → Kind
  | text _ => .text
  | integer _ => .integer
  | float _ => .float
  | timestamp _ => .timestamp
  | textList _ => .textList
  | json _ => .json

/-- The null of a type. -/
def null : Kind → Argument
  | .text => text none
  | .integer => integer none
  | .float => float none
  | .timestamp => timestamp none
  | .textList => textList none
  | .json => json none

/-- Whether an argument is the null of its type. -/
def isNull : Argument → Bool
  | text v => v.isNone
  | integer v => v.isNone
  | float v => v.isNone
  | timestamp v => v.isNone
  | textList v => v.isNone
  | json v => v.isNone

/-- An argument as a JSON value, without its type. -/
def toJson : Argument → Json
  | text (some s) => .string s
  | integer (some n) => .integer n
  | float (some x) => .float x
  | timestamp (some t) => .string (String.ofList t.render)
  | textList (some items) => .array (items.map .string)
  | json (some v) => v
  | text none | integer none | float none | timestamp none | textList none | json none => .null

/-- The null of a type is of that type. -/
@[simp] theorem kind_null (k : Kind) : (null k).kind = k := by
  cases k <;> rfl

/-- The null of a type is null. -/
@[simp] theorem isNull_null (k : Kind) : (null k).isNull = true := by
  cases k <;> rfl

end Argument

end MetadataGateway
