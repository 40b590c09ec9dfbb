import MetadataGateway.Http.Handler
import MetadataGateway.Http.Target

/-!
# The server

Every path leads to the gateway, with any method. What names no path leads nowhere, and is not
recorded. A request keeps the identifier it comes with, or gets a fresh one, and its response has
the same. The response to a HEAD request tells the length of a body that it does not have.
-/

namespace MetadataGateway.Http

open Dispatch

/-- The identifier of a request. -/
inductive RequestId where
  | given (octets : List UInt8)
  | fresh
deriving DecidableEq, Repr

/-- A response with the fields that are sent before its body. -/
structure Sent where
  status : Nat
  contentType : Option String
  contentLength : Nat
  requestId : Option RequestId
  body : List UInt8
deriving DecidableEq, Repr

namespace Server

/-- The identifier of a request with these header fields. -/
def identify (headers : List Header) : RequestId :=
  match Message.header? headers "x-request-id" with
  | some octets => .given octets
  | none => .fresh

/-- Whether a target names a path: an authority alone and `*` do not. -/
def namesPath (target : String) : Bool :=
  let octets := Utf8.encodeString target
  match octets with
  | 0x2F :: _ => true
  | _ =>
    match Target.dropScheme? octets with
    | .ok (some _) => true
    | _ => false

/-- The status for a target that is none. -/
def targetStatus : Target.Error → Nat
  | .tooLong => 414
  | _ => 400

/-- A response without a body. -/
def bare (status : Nat) (id : Option RequestId) : Sent :=
  ⟨status, none, 0, id, []⟩

/-- A response as it is sent to a request of a method. -/
def send (method : String) (id : RequestId) (r : Response) : Sent where
  status := r.status
  contentType := some r.contentType
  contentLength := r.body.length
  requestId := some id
  body := if method = "HEAD" then [] else r.body

variable {β σ : Type}

/-- Answer a request whose target stands in it as received. -/
def serve (g : Gateway β σ) (limit : Nat) (m : Message) (w : World β σ) : Sent × World β σ :=
  match Target.ofString m.target with
  | .error e => (bare (targetStatus e) none, w)
  | .ok target =>
    let id := identify m.headers
    if namesPath m.target then
      let (r, w) := handle g limit { m with target } w
      (send m.method id r, w)
    else (bare 404 (some id), w)

/-- Answer requests one after another. -/
def serveAll (g : Gateway β σ) (limit : Nat) : List Message → World β σ → List Sent × World β σ
  | [], w => ([], w)
  | m :: rest, w =>
    let (sent, w) := serve g limit m w
    let (others, w) := serveAll g limit rest w
    (sent :: others, w)

end Server

end MetadataGateway.Http
