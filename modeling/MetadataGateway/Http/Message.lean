import MetadataGateway.Text.Blank
import MetadataGateway.Text.Utf8

/-!
# Messages

A request as it arrives: a method, the path and query of its target, header fields and a body. A
body comes in pieces; its length may have been declared before, and reading it may fail behind the
last piece.
-/

namespace MetadataGateway.Http

open Text

/-- A header field: a name and octets. -/
abbrev Header := String × List UInt8

/-- A body. -/
structure Body where
  /-- The length, if it is known before the body is read. -/
  declared : Option Nat
  /-- The octets, in the pieces in which they arrive. -/
  pieces : List (List UInt8)
  /-- What is wrong behind the last piece, if reading fails there. -/
  failure : Option String
deriving DecidableEq, Repr

namespace Body

/-- A body whose length is declared. -/
def ofOctets (octets : List UInt8) : Body :=
  ⟨some octets.length, [octets], none⟩

/-- The pieces of at most `size` octets that octets are cut into. -/
def cut (size : Nat) (octets : List UInt8) : List (List UInt8) :=
  (List.range ((octets.length + size - 1) / size)).map fun i => (octets.drop (size * i)).take size

/-- A body that arrives in pieces of at most `size` octets without a declared length. -/
def streamed (size : Nat) (octets : List UInt8) (failure : Option String) : Body :=
  ⟨none, cut size octets, failure⟩

end Body

/-- A request as it arrives. -/
structure Message where
  method : String
  /-- The path and query of the target. -/
  target : String
  headers : List Header
  body : Body
deriving DecidableEq, Repr

namespace Message

/-- The octets of the first field of a name; the case of names does not count. -/
def header? (headers : List Header) (name : String) : Option (List UInt8) :=
  (headers.find? fun h => h.1.toLower == name).map Prod.snd

/-- The text of octets, if all of them are visible ASCII characters, spaces or tabs. -/
def visibleText? (octets : List UInt8) : Option (List Char) :=
  if octets.all fun b => (0x20 ≤ b && b ≤ 0x7E) || b = 0x09 then
    some (octets.map fun b => Char.ofNat b.toNat)
  else none

/-- The text of the first field of a name. -/
def headerText? (headers : List Header) (name : String) : Option (List Char) :=
  (header? headers name).bind visibleText?

/-- The identifier that a request came with. -/
def requestId (headers : List Header) : String :=
  match headerText? headers "x-request-id" with
  | some id => String.ofList id
  | none => "unknown"

/-- The media type of a form. -/
def formMediaType : List Char := "application/x-www-form-urlencoded".toList

/-- Whether a content type begins like that of a form; case and white space before it do not count.
-/
def isFormType (contentType : List Char) : Bool :=
  formMediaType.isPrefixOf ((trimStart contentType).map Char.toLower)

/-- Whether the body of a request is a form whose values count: only POST, PUT and PATCH have such.
-/
def hasFormBody (method : String) (headers : List Header) : Bool :=
  (method == "POST" || method == "PUT" || method == "PATCH")
    && ((headerText? headers "content-type").map isFormType).getD false

end Message

end MetadataGateway.Http
