import MetadataGateway.Dispatch.Gateway
import MetadataGateway.Http.Message
import MetadataGateway.Http.Response

/-!
# Handling a request

A request is read, selects an operation, and is dispatched. A form in the body is read only up to a
limit. Each request is answered and recorded once, under the operation it selected.
-/

namespace MetadataGateway.Http

open Dispatch

/-- Why a body could not be read. -/
inductive BodyError where
  /-- More octets than the limit arrived. -/
  | overLimit
  /-- Reading failed. -/
  | broken (message : String)
deriving DecidableEq, Repr

/-- The wording of an error. -/
def BodyError.message : BodyError → String
  | .overLimit => "length limit exceeded"
  | .broken m => m

/-- The octets of pieces that are at most `limit` octets in all, and then perhaps a failure. -/
def collect (failure : Option String) : Nat → List (List UInt8) → Except BodyError (List UInt8)
  | _, [] =>
    match failure with
    | some m => .error (.broken m)
    | none => .ok []
  | limit, piece :: rest =>
    if limit < piece.length then .error .overLimit
    else (collect failure (limit - piece.length) rest).map (piece ++ ·)

/-- The request that a message makes, or the response to a message that cannot be read. A declared
length is checked before anything is read. -/
def readRequest (m : Message) (limit : Nat) : Except Response Request :=
  if !Message.hasFormBody m.method m.headers then .ok (.ofTarget m.target none)
  else if limit < m.body.declared.getD 0 then
    .error (.error 413 ("request body exceeds " ++ toString limit ++ " bytes"))
  else
    match collect m.body.failure limit m.body.pieces with
    | .ok octets => .ok (.ofTarget m.target (some octets))
    | .error e => .error (.error 400 ("failed to read request body: " ++ e.message))

/-- The response to a failure. -/
def failureResponse (f : Failure) : Response :=
  .error f.status f.message

/-- The operation under which requests are recorded that select none. -/
def noOperation : String := "none"

variable {β σ : Type}

/-- Record the status of a response. -/
def record (operation : String) (status : Nat) (w : World β σ) : World β σ :=
  { w with journal := w.journal ++ [.request operation status] }

/-- Answer a message. -/
def handle (g : Gateway β σ) (limit : Nat) (m : Message) (w : World β σ) :
    Response × World β σ :=
  match readRequest m limit with
  | .error response => (response, record noOperation response.status w)
  | .ok r =>
    match select r with
    | .error e => (failureResponse e, record noOperation e.status w)
    | .ok op =>
      match g.execute op r w with
      | (.ok served, w) => (.payload served.payload, record op.flag 200 w)
      | (.error e, w) => (failureResponse e, record op.flag e.status w)

end MetadataGateway.Http
