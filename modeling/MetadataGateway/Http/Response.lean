import MetadataGateway.Json.Writer
import MetadataGateway.Text.Utf8

/-!
# Responses

A payload goes out as it is. An error goes out as a JSON object with the one member `error`.
-/

namespace MetadataGateway.Http

/-- A response. -/
structure Response where
  status : Nat
  contentType : String
  body : List UInt8
deriving DecidableEq, Repr

namespace Response

/-- The content type of all responses. -/
def jsonType : String := "application/json"

/-- A payload. -/
def payload (octets : List UInt8) : Response :=
  ⟨200, jsonType, octets⟩

/-- The object that tells of an error. -/
def envelope (message : String) : Json :=
  .object [("error", .string message)]

/-- An error. -/
def error (status : Nat) (message : String) : Response :=
  ⟨status, jsonType, Utf8.encode (envelope message).render⟩

end Response

end MetadataGateway.Http
