import MetadataGateway.Argument

/-!
# The backend

The database that the operations are calls of. It answers a call with a text or says why it cannot.

An operation is called by one statement whose text depends on nothing but the operation. Its
arguments are not in the text: a numbered placeholder stands for each, cast to the type of its
parameter. What is sent for an argument is a value of a database type, or the null of that type. A
timestamp is sent as the microseconds from the beginning of the year 2000, without the rest.
-/

namespace MetadataGateway

/-- Why a call has no answer. -/
inductive Backend.Error where
  /-- The call failed, in the backend's own words. -/
  | call (message : String)
  /-- The function gave no value. -/
  | nullResult (function : String)
deriving DecidableEq, Repr

/-- The wording of an error. -/
def Backend.Error.message : Backend.Error → String
  | .call m => m
  | .nullResult function => function ++ " returned no result"

/-- A backend whose state is a `β`. -/
structure Backend (β : Type) where
  /-- Call an operation with its arguments. -/
  call : Operation → List Argument → β → Except Backend.Error String × β

/-! ## Statements -/

/-- The placeholder of the parameter behind `index` others. -/
def Parameter.placeholder (index : Nat) (p : Parameter) : String :=
  "$" ++ toString (index + 1) ++ "::" ++ p.kind.sqlType

namespace Operation

/-- The placeholders of the parameters of an operation. -/
def placeholders (op : Operation) : List String :=
  op.parameters.mapIdx Parameter.placeholder

/-- The statement that calls an operation. -/
def statement (op : Operation) : String :=
  "select " ++ op.function ++ "(" ++ String.intercalate ", " op.placeholders ++ ")::text as json"

/-- The statement that is kept for a flag. -/
def statementFor? (flag : String) : Option String :=
  (withFlag? flag).map statement

end Operation

/-! ## Bindings -/

/-- The database types that values are sent as. -/
inductive WireType where
  | text
  | int4
  | float8
  | timestamptz
  | textArray
  | jsonb
deriving DecidableEq, Repr

/-- The name of a database type. -/
def WireType.name : WireType → String
  | .text => "text"
  | .int4 => "int4"
  | .float8 => "float8"
  | .timestamptz => "timestamptz"
  | .textArray => "text[]"
  | .jsonb => "jsonb"

/-- The database type of the values of a type. -/
def Kind.wireType : Kind → WireType
  | .text => .text
  | .integer => .int4
  | .float => .float8
  | .timestamp => .timestamptz
  | .textList => .textArray
  | .json => .jsonb

/-- The seconds from the beginning of 1970 to the beginning of 2000. -/
def secondsBefore2000 : Int := 946684800

/-- The nanoseconds from the beginning of 2000 to a timestamp; those of a leap second lie behind the
second before it. -/
def Timestamp.nanosSince2000 (t : Timestamp) : Int :=
  (t.seconds - secondsBefore2000) * 1000000000 + t.nanos

/-- The whole microseconds from the beginning of 2000 to a timestamp. -/
def Timestamp.microsSince2000 (t : Timestamp) : Int :=
  t.nanosSince2000.tdiv 1000

/-- A value of a database type, or the null of that type. -/
inductive Binding where
  | text (value : Option String)
  | int4 (value : Option Int)
  | float8 (value : Option Float)
  /-- Microseconds from the beginning of 2000. -/
  | timestamptz (micros : Option Int)
  | textArray (value : Option (List String))
  | jsonb (value : Option Json)
deriving Repr

namespace Binding

/-- The database type of a binding. -/
def wireType : Binding → WireType
  | text _ => .text
  | int4 _ => .int4
  | float8 _ => .float8
  | timestamptz _ => .timestamptz
  | textArray _ => .textArray
  | jsonb _ => .jsonb

/-- Whether a binding is the null of its type. -/
def isNull : Binding → Bool
  | text v => v.isNone
  | int4 v => v.isNone
  | float8 v => v.isNone
  | timestamptz v => v.isNone
  | textArray v => v.isNone
  | jsonb v => v.isNone

end Binding

/-- What is sent for an argument. -/
def Argument.binding : Argument → Binding
  | .text v => .text v
  | .integer v => .int4 v
  | .float v => .float8 v
  | .timestamp v => .timestamptz (v.map Timestamp.microsSince2000)
  | .textList v => .textArray v
  | .json v => .jsonb v

/-- An argument is sent as the database type of its type. -/
@[simp] theorem Argument.wireType_binding (a : Argument) :
    a.binding.wireType = a.kind.wireType := by
  cases a <;> rfl

/-- An argument is sent as a null just if it is one. -/
@[simp] theorem Argument.isNull_binding (a : Argument) : a.binding.isNull = a.isNull := by
  cases a with
  | timestamp v => cases v <;> rfl
  | _ => rfl

end MetadataGateway
