import MetadataGateway.Text.Quoted

/-!
# The configuration

What the gateway is told about its listener, its database, its cache and what it reports of itself,
with what it assumes where it is told nothing.
-/

namespace MetadataGateway

/-- Where requests are received. -/
structure Listener where
  /-- The socket address, as written. -/
  bindAddress : String
  /-- The size of the largest form that is read, in octets. -/
  maxBodySize : UInt64
deriving DecidableEq, Repr

/-- The metadata database. -/
structure Database where
  /-- The name of a machine, or the directory of a socket if it begins with a slash. -/
  host : String
  port : UInt16
  name : String
  user : String
  /-- The password; if it is empty, none is sent. -/
  password : String
  /-- How many idle connections are kept. -/
  pool : UInt32
  /-- How many connections there may be. -/
  limit : UInt32
deriving DecidableEq, Repr

/-- The response cache. -/
structure CacheSettings where
  /-- Where the store is; without it there is no cache. -/
  uri : Option String
  /-- Whether operations that change the database pass the cache over. -/
  bypassOwsOperations : Bool
  /-- The time that connecting, getting and setting may take, in milliseconds. -/
  timeoutMs : UInt64
deriving DecidableEq, Repr

/-- What the gateway reports of itself. -/
structure Observability where
  logLevel : String
  logFormat : String
  metricsEnabled : Bool
  /-- The socket address where counters are published, as written. -/
  metricsAddress : String
deriving DecidableEq, Repr

/-- A configuration. -/
structure Config where
  listener : Listener
  database : Database
  cache : CacheSettings
  observability : Observability
deriving DecidableEq, Repr

/-- All addresses, and forms of up to 2 MiB. -/
def Listener.standard : Listener where
  bindAddress := "0.0.0.0:8080"
  maxBodySize := 2097152

/-- A database on the same machine. -/
def Database.standard : Database where
  host := "/var/run/postgresql"
  port := 5432
  name := "mas"
  user := "api"
  password := ""
  pool := 8
  limit := 64

/-- No cache; a store that is configured has a tenth of a second. -/
def CacheSettings.standard : CacheSettings where
  uri := none
  bypassOwsOperations := true
  timeoutMs := 100

/-- A log for reading, and no counters. -/
def Observability.standard : Observability where
  logLevel := "info"
  logFormat := "pretty"
  metricsEnabled := false
  metricsAddress := "0.0.0.0:9090"

/-- The configuration of a gateway that has been told nothing. -/
def Config.standard : Config where
  listener := .standard
  database := .standard
  cache := .standard
  observability := .standard

/-- What the log may show of a password. -/
def Database.shownPassword (d : Database) : String :=
  if d.password = "" then "" else "***"

/-- The database as the log shows it. -/
def Database.summary (d : Database) : String :=
  "DatabaseConfig \x7b host: " ++ Text.quoteString d.host
    ++ ", port: " ++ toString d.port.toNat
    ++ ", name: " ++ Text.quoteString d.name
    ++ ", user: " ++ Text.quoteString d.user
    ++ ", password: " ++ Text.quoteString d.shownPassword
    ++ ", pool: " ++ toString d.pool.toNat
    ++ ", limit: " ++ toString d.limit.toNat ++ " \x7d"

end MetadataGateway
