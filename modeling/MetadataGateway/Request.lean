import MetadataGateway.Text.Percent

/-!
# Requests

A request is read from a target, which is a path and perhaps a query behind a question mark, and
perhaps a form in its body. The names in the query are its flags. The named values are those of the
body and then those of the query, and the first value of a name counts.
-/

namespace MetadataGateway

open Text

/-- What the gateway wants to know of a request. -/
structure Request where
  /-- The target, as received. -/
  uri : String
  /-- The decoded path. -/
  gpath : String
  /-- The names in the query, in order. -/
  flags : List String
  /-- The named values: those of the body, then those of the query. -/
  values : List (String × String)
  /-- Whether some of the values come from the body. -/
  hasBodyValues : Bool
deriving DecidableEq, Repr

namespace Request

/-- The path of a target: what stands before the first question mark. -/
def pathOf (target : List Char) : List Char :=
  target.takeWhile (· != '?')

/-- The query of a target: what stands behind the first question mark. -/
def queryOf (target : List Char) : List Char :=
  (target.dropWhile (· != '?')).drop 1

/-- The request for a target with a form in its body, if it has one. -/
def ofTarget (target : String) (body : Option (List UInt8)) : Request :=
  let queryPairs := formPairs (Utf8.encode (queryOf target.toList))
  let bodyPairs := (body.map formPairs).getD []
  { uri := target
    gpath := percentDecodeText (Utf8.encode (pathOf target.toList))
    flags := queryPairs.map Prod.fst
    values := bodyPairs ++ queryPairs
    hasBodyValues := bodyPairs != [] }

/-- Whether a name stands in the query. -/
def hasFlag (r : Request) (flag : String) : Bool :=
  r.flags.contains flag

/-- The first value of a name, or the empty text if there is none. -/
def value (r : Request) (name : String) : String :=
  (r.values.lookup name).getD ""

end Request

end MetadataGateway
