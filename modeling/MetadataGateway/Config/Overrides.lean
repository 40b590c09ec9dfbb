import MetadataGateway.Config.Basic

/-!
# Overrides

A command line and an environment override some fields of a configuration. What they do not name
stays as it is.
-/

namespace MetadataGateway

/-- What is overridden, and where the configuration is that is overridden. -/
structure Overrides where
  configFile : Option String
  host : Option String
  databaseName : Option String
  user : Option String
  password : Option String
  pool : Option UInt32
  limit : Option UInt32
  /-- The port on which all addresses listen. -/
  port : Option UInt16
  /-- Where the store of the cache is; the empty text overrides nothing. -/
  memcache : Option String
  logLevel : Option String
  logFormat : Option String
deriving DecidableEq, Repr

namespace Overrides

/-- Nothing is overridden. -/
def none : Overrides :=
  ⟨.none, .none, .none, .none, .none, .none, .none, .none, .none, .none, .none⟩

/-- The socket address of a port of all addresses. -/
def anyAddress (port : UInt16) : String :=
  "0.0.0.0:" ++ toString port.toNat

/-- Where the store is to be instead. -/
def cacheUri (o : Overrides) : Option String :=
  o.memcache.filter fun uri => uri != ""

/-- The listener with what is overridden. -/
def applyToListener (o : Overrides) (l : Listener) : Listener :=
  { l with bindAddress := (o.port.map anyAddress).getD l.bindAddress }

/-- The database with what is overridden. -/
def applyToDatabase (o : Overrides) (d : Database) : Database :=
  { d with
    host := o.host.getD d.host
    name := o.databaseName.getD d.name
    user := o.user.getD d.user
    password := o.password.getD d.password
    pool := o.pool.getD d.pool
    limit := o.limit.getD d.limit }

/-- The cache with what is overridden. -/
def applyToCache (o : Overrides) (c : CacheSettings) : CacheSettings :=
  { c with uri := o.cacheUri.or c.uri }

/-- The reports with what is overridden. -/
def applyToObservability (o : Overrides) (r : Observability) : Observability :=
  { r with
    logLevel := o.logLevel.getD r.logLevel
    logFormat := o.logFormat.getD r.logFormat }

/-- The configuration with what is overridden. -/
def apply (o : Overrides) (c : Config) : Config where
  listener := o.applyToListener c.listener
  database := o.applyToDatabase c.database
  cache := o.applyToCache c.cache
  observability := o.applyToObservability c.observability

end Overrides

end MetadataGateway
