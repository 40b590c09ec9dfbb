import MetadataGateway.Config.Decoding
import MetadataGateway.Config.Overrides
import MetadataGateway.Config.Validation
import MetadataGateway.Dispatch.Basic
import MetadataGateway.Text.Utf8

/-!
# Configurations from files

A file is read, and then it is a configuration or it is said why it is none. A configuration may be
overridden before it is validated, so reading and validating are apart. What is left says with what
the gateway is run: whether there is a cache and for which operations, how large a form may be, and
what is logged.
-/

namespace MetadataGateway

namespace Config

/-- Why there is no configuration. -/
inductive LoadError where
  | noSuchFile
  /-- The file is no text. -/
  | notUtf8
  | parse (e : ParseError)
  | invalid (vs : List Violation)

/-- The wording of an error. -/
def LoadError.message : LoadError → String
  | .noSuchFile => "IO error: No such file or directory (os error 2)"
  | .notUtf8 => "IO error: stream did not contain valid UTF-8"
  | .parse .malformed => "Parse error: the file is no TOML document"
  | .parse (.shape e) => "Parse error: " ++ e.message
  | .invalid vs => violationsMessage vs

/-- The configuration in the octets of a file, if there is one. -/
def ofFile : Option (List UInt8) → Except LoadError Config
  | none => .error .noSuchFile
  | some octets =>
    match Utf8.decode? octets with
    | none => .error .notUtf8
    | some text => (ofText (String.ofList text)).mapError .parse

/-- The valid configuration in the octets of a file. -/
def validOfFile (octets : Option (List UInt8)) : Except LoadError Config := do
  (validate (← ofFile octets)).mapError .invalid

/-- The valid configuration that is left when what is in the file, if one is named, is overridden.
-/
def assemble (o : Overrides) (octets : Option (List UInt8)) : Except LoadError Config := do
  let c ← if o.configFile.isSome then ofFile octets else .ok .standard
  (validate (o.apply c)).mapError .invalid

/-- Whether there is a cache. -/
def cacheEnabled (c : Config) : Bool :=
  c.cache.uri.isSome

/-- Which operations may use the cache. -/
def cachePolicy (c : Config) : Dispatch.Policy :=
  ⟨c.cache.bypassOwsOperations⟩

/-- The size of the largest form that is read. -/
def bodyLimit (c : Config) : Nat :=
  c.listener.maxBodySize.toNat

end Config

/-- The log directives for a level, which counts for the gateway and for its web server. The
database client logs warnings only. -/
def logFilter (level : String) : String :=
  "mas_gateway=" ++ level ++ ",tower_http=" ++ level ++ ",sqlx=warn"

end MetadataGateway
