/-!
# JSON values

The members of an object have different names, and stand in the order of their names; a member put
under a name that is there takes the place of the one before.
-/

namespace MetadataGateway

/-- A JSON value. A number is an integer when it is written as one and 64 bits hold it, and a double
otherwise. -/
inductive Json where
  | null
  | boolean (b : Bool)
  | integer (n : Int)
  | float (x : Float)
  | string (s : String)
  | array (items : List Json)
  | object (members : List (String × Json))
deriving Inhabited, Repr

namespace Json

/-- The members of an object with one of them put in, where the order of names has it. -/
def putMember (name : String) (value : Json) : List (String × Json) → List (String × Json)
  | [] => [(name, value)]
  | (n, v) :: rest =>
    if name < n then (name, value) :: (n, v) :: rest
    else if n = name then (n, value) :: rest
    else (n, v) :: putMember name value rest

/-- The greatest integer that 64 bits hold without a sign. -/
def greatest : Nat := 18446744073709551615

/-- The size of the least integer that 64 bits hold with a sign. -/
def leastSize : Nat := 9223372036854775808

end Json

end MetadataGateway
