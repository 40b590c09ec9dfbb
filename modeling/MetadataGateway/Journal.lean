/-!
# The journal

What the gateway records of its work: events, in order. Some of them count towards a counter, and
some are warnings for the log. A counter appears once something has counted towards it.
-/

namespace MetadataGateway

/-- How the cache took part in a request. -/
inductive CacheEvent where
  | hit
  | miss
  /-- The cache was passed over. -/
  | bypass
  /-- The cache could not be asked. -/
  | lookupError
  /-- The cache did not take the answer. -/
  | storeError
deriving DecidableEq, Repr

/-- The name of a cache event. -/
def CacheEvent.label : CacheEvent → String
  | .hit => "hit"
  | .miss => "miss"
  | .bypass => "bypass"
  | .lookupError => "lookup_error"
  | .storeError => "store_error"

/-- What is worth a warning. -/
inductive Warning where
  /-- A call of the backend failed. -/
  | backendFailed (operation gpath error : String)
  /-- More idle connections are wanted than connections are allowed. -/
  | poolAboveLimit (pool limit : Nat)
deriving DecidableEq, Repr

namespace Warning

/-- The wording of a warning. -/
def message : Warning → String
  | backendFailed .. => "Backend call failed"
  | poolAboveLimit .. =>
    "database.pool exceeds database.limit, clamping idle connections to the limit"

/-- The values that a warning carries, by name. -/
def fields : Warning → List (String × String)
  | backendFailed operation gpath error =>
    [("operation", operation), ("gpath", gpath), ("error", error)]
  | poolAboveLimit pool limit => [("pool", toString pool), ("limit", toString limit)]

end Warning

/-- What is recorded. -/
inductive Event where
  | cache (e : CacheEvent)
  /-- A call of the backend failed for the operation with this flag. -/
  | backendError (operation : String)
  /-- A request was answered with this status; the operation is `none` if none was selected. -/
  | request (operation : String) (status : Nat)
  | warning (w : Warning)
deriving DecidableEq, Repr

/-- The counters. -/
inductive Counter where
  | cacheEvents (e : CacheEvent)
  | backendErrors (operation : String)
  | requests (operation : String) (status : Nat)
  /-- How many durations of requests have been observed. -/
  | durations (operation : String)
deriving DecidableEq, Repr

/-- A counter with its labels, as it is published. -/
def Counter.text : Counter → String
  | .cacheEvents e => "mas_cache_events_total\x7bevent=\"" ++ e.label ++ "\"\x7d"
  | .backendErrors op => "mas_backend_errors_total\x7boperation=\"" ++ op ++ "\"\x7d"
  | .requests op status =>
    "mas_requests_total\x7boperation=\"" ++ op ++ "\",status=\"" ++ toString status ++ "\"\x7d"
  | .durations op => "mas_request_duration_seconds_count\x7boperation=\"" ++ op ++ "\"\x7d"

/-- The counters that an event counts towards. -/
def Event.counters : Event → List Counter
  | .cache e => [.cacheEvents e]
  | .backendError op => [.backendErrors op]
  | .request op status => [.requests op status, .durations op]
  | .warning _ => []

/-- The events recorded so far, in order. -/
abbrev Journal := List Event

namespace Journal

/-- All that has counted towards counters, in order. -/
def counted (j : Journal) : List Counter :=
  j.flatMap Event.counters

/-- The value of a counter. -/
def count (j : Journal) (c : Counter) : Nat :=
  j.counted.count c

/-- The counters that something has counted towards, each once. -/
def touched (j : Journal) : List Counter :=
  j.counted.eraseDups

/-- The counters with their values, in the order of their texts. -/
def lines (j : Journal) : List String :=
  (j.touched.map fun c => c.text ++ " " ++ toString (j.count c)).mergeSort fun a b => a ≤ b

/-- The warnings, in order. -/
def warnings (j : Journal) : List Warning :=
  j.filterMap fun
    | .warning w => some w
    | _ => none

end Journal

end MetadataGateway
