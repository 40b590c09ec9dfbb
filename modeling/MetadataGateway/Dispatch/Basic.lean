import MetadataGateway.Backend.Basic
import MetadataGateway.Coercion
import MetadataGateway.Fingerprint

/-!
# Dispatching a request

A request selects an operation, and is answered from the cache or by the backend. The cache stands
in only for requests that their target describes fully, and, unless the policy says otherwise, only
for operations that change nothing.
-/

namespace MetadataGateway.Dispatch

/-- Which operations may use the cache. -/
structure Policy where
  /-- Whether operations that change the database pass the cache over. -/
  bypassMutating : Bool
deriving DecidableEq, Repr

namespace Policy

/-- Operations that change the database pass the cache over. -/
def standard : Policy := ⟨true⟩

/-- Whether an operation may use the cache. -/
def appliesTo (p : Policy) (op : Operation) : Bool :=
  !(p.bypassMutating && op.mutatesState)

end Policy

/-- How the cache took part in an answer. -/
inductive Outcome where
  | hit
  | miss
  /-- There is a cache, but not for this request. -/
  | bypass
  /-- There is no cache. -/
  | disabled
deriving DecidableEq, Repr

/-- The name of an outcome. -/
def Outcome.label : Outcome → String
  | .hit => "hit"
  | .miss => "miss"
  | .bypass => "bypass"
  | .disabled => "disabled"

/-- An answer. -/
structure Served where
  operation : Operation
  payload : List UInt8
  cache : Outcome
deriving DecidableEq, Repr

/-- Why a request has no answer. -/
inductive Failure where
  | unsupportedOperation
  | coercion (e : Coercion.Error)
  | backend (e : Backend.Error)
deriving DecidableEq, Repr

namespace Failure

/-- The wording of a failure. -/
def message : Failure → String
  | unsupportedOperation => Operation.unsupportedMessage
  | coercion e => e.message
  | backend e => e.message

/-- The name of a kind of failure. -/
def label : Failure → String
  | unsupportedOperation => "unsupported_operation"
  | coercion _ => "parameter_coercion"
  | backend _ => "backend_call"

/-- The status that a failure is answered with: every kind is the client's error. -/
def status : Failure → Nat
  | unsupportedOperation => 400
  | coercion _ => 400
  | backend _ => 400

end Failure

/-- The operation that a request selects: the first whose flag stands in the query. -/
def select (r : Request) : Except Failure Operation :=
  match Operation.find? r.hasFlag with
  | some op => .ok op
  | none => .error .unsupportedOperation

/-- The key of a request, if the cache applies to it. Values of the body are not in the target, so
the fingerprint cannot cover them. -/
def cacheKey (enabled : Bool) (policy : Policy) (op : Operation) (r : Request) :
    Option Fingerprint :=
  if !enabled || !policy.appliesTo op || r.hasBodyValues then none else some (.ofUri r.uri)

end MetadataGateway.Dispatch
