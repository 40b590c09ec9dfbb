import MetadataGateway.Config.Basic
import MetadataGateway.Number.Shortest
import MetadataGateway.Toml.Reader

/-!
# Configurations from documents

A document has a table for each section, and in it a value for each field that is not to be as
assumed. Names that are not known do not matter. A section may also be an array of the values of its
fields in order. The first value of a wrong type, in the order of the document, is reported.
-/

namespace MetadataGateway.Config

open Number Text

/-- What a field or section takes. -/
inductive Expected where
  | text
  | boolean
  /-- A whole number of so many bits. -/
  | word (bits : Nat)
  /-- A whole number that counts octets. -/
  | size
  /-- The section of a name. -/
  | section (name : String)
deriving DecidableEq, Repr

/-- The name of what is expected. -/
def Expected.name : Expected → String
  | .text => "a string"
  | .boolean => "a boolean"
  | .word bits => "u" ++ toString bits
  | .size => "usize"
  | .section name => "struct " ++ name

/-- A value that is not what a field or section takes. -/
inductive ShapeError where
  | wrongType (found : Toml.Value) (expected : Expected)
  /-- The field takes whole numbers, but none so small or large. -/
  | outOfRange (n : Int) (expected : Expected)

/-- What a value is called. A date or time is shown as a table. -/
def describe : Toml.Value → String
  | .string s => "string " ++ quoteString s
  | .integer n => "integer `" ++ toString n ++ "`"
  | .float x => "floating point `" ++ positionalWithPoint x ++ "`"
  | .boolean b => "boolean `" ++ (if b then "true" else "false") ++ "`"
  | .moment => "map"
  | .array _ => "sequence"
  | .table _ => "map"

/-- The wording of a shape error. -/
def ShapeError.message : ShapeError → String
  | .wrongType found expected =>
    "invalid type: " ++ describe found ++ ", expected " ++ expected.name
  | .outOfRange n expected =>
    "invalid value: " ++ describe (.integer n) ++ ", expected " ++ expected.name

/-! ## Fields -/

/-- The text that a value is. -/
def text : Toml.Value → Except ShapeError String
  | .string s => .ok s
  | v => .error (.wrongType v .text)

/-- The truth value that a value is. -/
def boolean : Toml.Value → Except ShapeError Bool
  | .boolean b => .ok b
  | v => .error (.wrongType v .boolean)

/-- The number below `bound` that a value is. -/
def natural (bound : Nat) (expected : Expected) : Toml.Value → Except ShapeError Nat
  | .integer n =>
    if 0 ≤ n && n < bound then .ok n.toNat else .error (.outOfRange n expected)
  | v => .error (.wrongType v expected)

/-- The number of 16 bits that a value is. -/
def word16 (v : Toml.Value) : Except ShapeError UInt16 :=
  (natural 65536 (.word 16) v).map .ofNat

/-- The number of 32 bits that a value is. -/
def word32 (v : Toml.Value) : Except ShapeError UInt32 :=
  (natural 4294967296 (.word 32) v).map .ofNat

/-- The number of 64 bits that a value is. -/
def word64 (v : Toml.Value) : Except ShapeError UInt64 :=
  (natural 18446744073709551616 (.word 64) v).map .ofNat

/-- The number of octets that a value is. -/
def size (v : Toml.Value) : Except ShapeError UInt64 :=
  (natural 18446744073709551616 .size v).map .ofNat

/-! ## Sections -/

/-- A field of a section: its name, and how a value becomes the field's. -/
structure Field (σ : Type) where
  name : String
  set : Toml.Value → σ → Except ShapeError σ

/-- A field that reads its value and puts it into the section. -/
def Field.of {σ α : Type} (name : String) (read : Toml.Value → Except ShapeError α)
    (put : α → σ → σ) : Field σ :=
  ⟨name, fun v s => (read v).map fun a => put a s⟩

/-- The section with the value of one member of a table, if a field has its name. -/
def setMember {σ : Type} (fields : List (Field σ)) (s : σ) (member : String × Toml.Value) :
    Except ShapeError σ :=
  match fields.find? fun f => f.name == member.1 with
  | some f => f.set member.2 s
  | none => .ok s

/-- The section with the values of the members of a table. -/
def setMembers {σ : Type} (fields : List (Field σ)) (members : List (String × Toml.Value)) (s : σ) :
    Except ShapeError σ :=
  members.foldlM (setMember fields) s

/-- The section with the values of its first fields. -/
def setInOrder {σ : Type} (fields : List (Field σ)) (values : List Toml.Value) (s : σ) :
    Except ShapeError σ :=
  (fields.zip values).foldlM (fun s (f, v) => f.set v s) s

/-- The section that a value describes; what it does not say is as in `standard`. -/
def readSection {σ : Type} (name : String) (fields : List (Field σ)) (standard : σ) :
    Toml.Value → Except ShapeError σ
  | .table members => setMembers fields members standard
  | .array values => setInOrder fields values standard
  | .moment => .ok standard
  | v => .error (.wrongType v (.section name))

/-- The fields of the listener. -/
def listenerFields : List (Field Listener) :=
  [.of "bind_address" text fun a s => { s with bindAddress := a },
    .of "max_body_size" size fun a s => { s with maxBodySize := a }]

/-- The fields of the database. -/
def databaseFields : List (Field Database) :=
  [.of "host" text fun a s => { s with host := a },
    .of "port" word16 fun a s => { s with port := a },
    .of "name" text fun a s => { s with name := a },
    .of "user" text fun a s => { s with user := a },
    .of "password" text fun a s => { s with password := a },
    .of "pool" word32 fun a s => { s with pool := a },
    .of "limit" word32 fun a s => { s with limit := a }]

/-- The fields of the cache. -/
def cacheFields : List (Field CacheSettings) :=
  [.of "uri" text fun a s => { s with uri := some a },
    .of "bypass_ows_operations" boolean fun a s => { s with bypassOwsOperations := a },
    .of "timeout_ms" word64 fun a s => { s with timeoutMs := a }]

/-- The fields of what the gateway reports. -/
def observabilityFields : List (Field Observability) :=
  [.of "log_level" text fun a s => { s with logLevel := a },
    .of "log_format" text fun a s => { s with logFormat := a },
    .of "metrics_enabled" boolean fun a s => { s with metricsEnabled := a },
    .of "metrics_address" text fun a s => { s with metricsAddress := a }]

/-- The sections of a configuration. -/
def sections : List (Field Config) :=
  [.of "listener" (readSection "ListenerConfig" listenerFields .standard)
      fun a c => { c with listener := a },
    .of "database" (readSection "DatabaseConfig" databaseFields .standard)
      fun a c => { c with database := a },
    .of "cache" (readSection "CacheConfig" cacheFields .standard)
      fun a c => { c with cache := a },
    .of "observability" (readSection "ObservabilityConfig" observabilityFields .standard)
      fun a c => { c with observability := a }]

/-- The configuration that the members of a document describe. -/
def ofMembers (members : List (String × Toml.Value)) : Except ShapeError Config :=
  setMembers sections members .standard

/-- Why a text is no configuration. -/
inductive ParseError where
  /-- The text is no document. -/
  | malformed
  | shape (e : ShapeError)

/-- The configuration that a text describes. -/
def ofText (content : String) : Except ParseError Config :=
  match Toml.ofText? content.toList with
  | none => .error .malformed
  | some members => (ofMembers members).mapError .shape

end MetadataGateway.Config
