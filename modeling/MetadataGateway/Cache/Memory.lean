import MetadataGateway.Cache.Basic

/-!
# A store in memory

A store that keeps every payload it is given and never forgets one. For trials it can be told to
fail at every get or at every set.
-/

namespace MetadataGateway.Cache

/-- The payloads of a store, each under a key of its own. -/
structure Memory where
  entries : List (Fingerprint × List UInt8)
deriving DecidableEq, Repr

namespace Memory

/-- No payload. -/
def empty : Memory := ⟨[]⟩

/-- The payload under a key. -/
def get? (m : Memory) (key : Fingerprint) : Option (List UInt8) :=
  m.entries.lookup key

/-- Put a payload in the place of the one under its key, or behind the others. -/
def put (key : Fingerprint) (payload : List UInt8) :
    List (Fingerprint × List UInt8) → List (Fingerprint × List UInt8)
  | [] => [(key, payload)]
  | (k, v) :: rest => if k = key then (k, payload) :: rest else (k, v) :: put key payload rest

/-- The store with a payload under a key. -/
def set (m : Memory) (key : Fingerprint) (payload : List UInt8) : Memory :=
  ⟨put key payload m.entries⟩

/-- How many payloads the store keeps. -/
def size (m : Memory) : Nat :=
  m.entries.length

/-- Whether there is a payload under a key. -/
def contains (m : Memory) (key : Fingerprint) : Bool :=
  (m.get? key).isSome

/-- Under the key it was put under stands the payload, and under every other what stood there
before. -/
theorem lookup_put (key other : Fingerprint) (payload : List UInt8)
    (entries : List (Fingerprint × List UInt8)) :
    (put key payload entries).lookup other =
      if other = key then some payload else entries.lookup other := by
  induction entries with
  | nil =>
    by_cases h : other = key
    · simp [put, h]
    · have hb : (other == key) = false := by simpa using h
      simp [put, List.lookup_cons, h, hb]
  | cons e rest ih =>
    obtain ⟨k, v⟩ := e
    by_cases hk : k = key
    · subst hk
      by_cases h : other = k
      · simp [put, h]
      · have hb : (other == k) = false := by simpa using h
        simp [put, List.lookup_cons, h, hb]
    · by_cases h : other = k
      · subst h
        simp [put, hk]
      · have hb : (other == k) = false := by simpa using h
        simp [put, List.lookup_cons, hk, hb, ih]

/-- Under the key it was set under the store has the payload, and under every other what it had
before. -/
theorem get?_set (m : Memory) (key other : Fingerprint) (payload : List UInt8) :
    (m.set key payload).get? other = if other = key then some payload else m.get? other :=
  lookup_put key other payload m.entries

/-- The store as a provider; with `getFails` every get fails, with `setFails` every set. -/
def provider (getFails setFails : Bool) : Provider Memory where
  get key m :=
    if getFails then (.error (.connection "connection refused"), m) else (.ok (m.get? key), m)
  set key payload m :=
    if setFails then (.error (.refused "out of memory"), m) else (.ok (), m.set key payload)

end Memory

end MetadataGateway.Cache
