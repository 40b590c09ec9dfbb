import MetadataGateway.Fingerprint
import MetadataGateway.Journal

/-!
# The response cache

The cache keeps payloads by fingerprint in a store, if one is configured. A store may fail; the
cache absorbs that: a failed lookup is like a miss, and a failed store is like none. What it did
goes into the journal.
-/

namespace MetadataGateway.Cache

/-- Why a store could not do what it was asked. -/
inductive Error where
  /-- There is no connection to the store. -/
  | connection (message : String)
  /-- The store refused. -/
  | refused (message : String)
deriving DecidableEq, Repr

/-- The wording of an error. -/
def Error.message : Error → String
  | .connection m => "cache connection failed: " ++ m
  | .refused m => "cache backend error: " ++ m

/-- A store of payloads whose state is a `σ`. -/
structure Provider (σ : Type) where
  /-- The payload under a key, if there is one. -/
  get : Fingerprint → σ → Except Error (Option (List UInt8)) × σ
  /-- Put a payload under a key. -/
  set : Fingerprint → List UInt8 → σ → Except Error Unit × σ

variable {σ : Type}

/-- What a lookup is recorded as. -/
def lookupEvent : Except Error (Option (List UInt8)) → CacheEvent
  | .ok (some _) => .hit
  | .ok none => .miss
  | .error _ => .lookupError

/-- What a lookup finds; a store that fails has nothing. -/
def found : Except Error (Option (List UInt8)) → Option (List UInt8)
  | .ok payload => payload
  | .error _ => none

/-- The payload under a key, with what is recorded and the store behind it. -/
def lookup (cache : Option (Provider σ)) (key : Fingerprint) (store : σ) :
    Option (List UInt8) × Journal × σ :=
  match cache with
  | none => (none, [], store)
  | some p =>
    let (answer, store) := p.get key store
    (found answer, [.cache (lookupEvent answer)], store)

/-- Put a payload under a key: what is recorded, and the store behind it. -/
def store (cache : Option (Provider σ)) (key : Fingerprint) (payload : List UInt8) (store : σ) :
    Journal × σ :=
  match cache with
  | none => ([], store)
  | some p =>
    match p.set key payload store with
    | (.ok _, store) => ([], store)
    | (.error _, store) => ([.cache .storeError], store)

end MetadataGateway.Cache
