import MetadataGateway.Cache.Endpoint
import MetadataGateway.Config.Basic

/-!
# Validation

A configuration of the right shape may still be one that no gateway can run with. Everything that is
wrong is reported, in the order of the fields.
-/

namespace MetadataGateway.Config

/-- What is wrong with a configuration. -/
inductive Violation where
  /-- The text of a field is no socket address. -/
  | invalidAddress (field value : String)
  /-- A field is empty. -/
  | empty (field : String)
  /-- No connection to the database is allowed. -/
  | zeroPoolLimit
  /-- The store of the cache is given no time. -/
  | zeroCacheTimeout
  /-- The text does not say where a store is. -/
  | invalidCacheUri (uri : String)
  | unknownLogFormat (format : String)
deriving DecidableEq, Repr

/-- The wording of a violation. -/
def Violation.message : Violation → String
  | .invalidAddress field value => field ++ ": invalid socket address '" ++ value ++ "'"
  | .empty field => field ++ " must not be empty"
  | .zeroPoolLimit => "database.limit must be greater than 0"
  | .zeroCacheTimeout => "cache.timeout_ms must be greater than 0"
  | .invalidCacheUri uri => "cache.uri '" ++ uri ++ "' must be host:port"
  | .unknownLogFormat format =>
    "observability.log_format '" ++ format ++ "' must be 'pretty' or 'json'"

/-- A violation, if there is one. -/
def oneUnless (good : Bool) (v : Violation) : List Violation :=
  if good then [] else [v]

/-- Whether a text is a socket address. -/
def isAddress (value : String) : Bool :=
  (Net.SocketAddress.ofString? value).isSome

/-- What is wrong with the listener. -/
def listenerViolations (l : Listener) : List Violation :=
  oneUnless (isAddress l.bindAddress) (.invalidAddress "listener.bind_address" l.bindAddress)

/-- What is wrong with the database. -/
def databaseViolations (d : Database) : List Violation :=
  oneUnless (d.host != "") (.empty "database.host")
    ++ oneUnless (d.name != "") (.empty "database.name")
    ++ oneUnless (d.user != "") (.empty "database.user")
    ++ oneUnless (d.limit != 0) .zeroPoolLimit

/-- What is wrong with the cache. -/
def cacheViolations (c : CacheSettings) : List Violation :=
  (match c.uri with
    | some uri => oneUnless (Cache.isEndpointText uri) (.invalidCacheUri uri)
    | none => [])
    ++ oneUnless (c.timeoutMs != 0) .zeroCacheTimeout

/-- What is wrong with what the gateway reports. The address of the counters only matters if there
are to be any. -/
def observabilityViolations (r : Observability) : List Violation :=
  oneUnless (r.logFormat == "pretty" || r.logFormat == "json") (.unknownLogFormat r.logFormat)
    ++ oneUnless (!r.metricsEnabled || isAddress r.metricsAddress)
      (.invalidAddress "observability.metrics_address" r.metricsAddress)

/-- All that is wrong with a configuration. -/
def violations (c : Config) : List Violation :=
  listenerViolations c.listener ++ databaseViolations c.database ++ cacheViolations c.cache
    ++ observabilityViolations c.observability

/-- The wording of violations. -/
def violationsMessage (vs : List Violation) : String :=
  "Validation failed: " ++ String.intercalate ", " (vs.map Violation.message)

/-- The configuration, if nothing is wrong with it. -/
def validate (c : Config) : Except (List Violation) Config :=
  if c.violations = [] then .ok c else .error c.violations

end MetadataGateway.Config
