import MetadataGateway.Config.Overrides
import MetadataGateway.Number.IntegerText

/-!
# The command line

Each setting has a flag and an environment variable, and the flag counts before the variable. A flag
has its value behind an equals sign or as the next argument. A value of its own is looked at only
when the next flag that is known is, so that an argument that is not known at all is reported before
it.
-/

namespace MetadataGateway

/-- What can be set. -/
inductive Setting where
  | configFile
  | host
  | databaseName
  | user
  | password
  | pool
  | limit
  | port
  | memcache
  | logLevel
  | logFormat
deriving DecidableEq, Repr

namespace Setting

/-- All settings, in the order in which the environment is asked for them. -/
def all : List Setting :=
  [configFile, host, databaseName, user, password, pool, limit, port, memcache, logLevel, logFormat]

/-- The flag of a setting, without its dashes. -/
def flag : Setting → String
  | configFile => "config"
  | host => "dbhost"
  | databaseName => "database"
  | user => "user"
  | password => "password"
  | pool => "pool"
  | limit => "limit"
  | port => "port"
  | memcache => "memcache"
  | logLevel => "log-level"
  | logFormat => "log-format"

/-- The environment variable of a setting. -/
def environmentVariable : Setting → String
  | configFile => "MAS_CONFIG"
  | host => "MAS_DBHOST"
  | databaseName => "MAS_DATABASE"
  | user => "MAS_USER"
  | password => "MAS_PASSWORD"
  | pool => "MAS_POOL"
  | limit => "MAS_LIMIT"
  | port => "MAS_PORT"
  | memcache => "MAS_MEMCACHE"
  | logLevel => "MAS_LOG_LEVEL"
  | logFormat => "MAS_LOG_FORMAT"

/-- What is set. -/
def purpose : Setting → String
  | configFile => "TOML configuration file"
  | host => "Database host or unix socket directory"
  | databaseName => "Database name"
  | user => "Database user name"
  | password => "Database user password"
  | pool => "Idle database connections kept open"
  | limit => "Maximum concurrent database connections"
  | port => "HTTP port (binds all interfaces)"
  | memcache => "Memcached endpoint, host:port"
  | logLevel => "Log level (trace, debug, info, warn, error)"
  | logFormat => "Log format (pretty, json)"

/-- The setting of a flag. -/
def withFlag? (flag : String) : Option Setting :=
  all.find? fun s => s.flag == flag

end Setting

namespace CommandLine

open Number

/-- Why a command line is not carried out. -/
inductive Error where
  | unknownArgument
  /-- A flag has no value, or the empty one where a path is wanted. -/
  | missingValue
  /-- The value of a setting is not of its type. -/
  | invalidValue
  /-- A flag is given twice. -/
  | repeated
  /-- A value is given to a flag that takes none. -/
  | unexpectedValue
  /-- The flags are asked for. -/
  | helpWanted
  /-- The version is asked for. -/
  | versionWanted
deriving DecidableEq, Repr

/-- The wording of an error. -/
def Error.message : Error → String
  | .unknownArgument => "error: unexpected argument found"
  | .missingValue => "error: a value is required but none was supplied"
  | .invalidValue => "error: invalid value"
  | .repeated => "error: an argument cannot be used multiple times"
  | .unexpectedValue => "error: unexpected value found"
  | .helpWanted => "Metadata API gateway"
  | .versionWanted => "mas-gateway"

/-- The number below `bound` that a text spells. -/
def natural (bound : Nat) (raw : String) : Except Error Nat :=
  match readInt64 raw.toList with
  | .ok n => if 0 ≤ n && n < bound then .ok n.toNat else .error .invalidValue
  | .error _ => .error .invalidValue

/-- Whether a setting has been given. -/
def isGiven (o : Overrides) : Setting → Bool
  | .configFile => o.configFile.isSome
  | .host => o.host.isSome
  | .databaseName => o.databaseName.isSome
  | .user => o.user.isSome
  | .password => o.password.isSome
  | .pool => o.pool.isSome
  | .limit => o.limit.isSome
  | .port => o.port.isSome
  | .memcache => o.memcache.isSome
  | .logLevel => o.logLevel.isSome
  | .logFormat => o.logFormat.isSome

/-- Give a setting the value that a text spells. -/
def give (o : Overrides) (s : Setting) (raw : String) : Except Error Overrides :=
  match s with
  | .configFile =>
    if raw = "" then .error .missingValue else .ok { o with configFile := some raw }
  | .host => .ok { o with host := some raw }
  | .databaseName => .ok { o with databaseName := some raw }
  | .user => .ok { o with user := some raw }
  | .password => .ok { o with password := some raw }
  | .pool => (natural 4294967296 raw).map fun n => { o with pool := some (.ofNat n) }
  | .limit => (natural 4294967296 raw).map fun n => { o with limit := some (.ofNat n) }
  | .port => (natural 65536 raw).map fun n => { o with port := some (.ofNat n) }
  | .memcache => .ok { o with memcache := some raw }
  | .logLevel => .ok { o with logLevel := some raw }
  | .logFormat => .ok { o with logFormat := some raw }

/-- Give a setting that may not have been given. -/
def giveOnce (o : Overrides) (s : Setting) (raw : String) : Except Error Overrides :=
  if isGiven o s then .error .repeated else give o s raw

/-- How far a command line has been read: what has been given, and the flag that has not been looked
at yet, with its value if that has come. -/
structure Progress where
  given : Overrides
  pending : Option (Setting × Option String)

/-- Look at the flag that has not been looked at yet. -/
def Progress.settle (p : Progress) : Except Error Overrides :=
  match p.pending with
  | none => .ok p.given
  | some (_, none) => .error .missingValue
  | some (s, some raw) => giveOnce p.given s raw

/-- What an argument may be. -/
inductive Token where
  /-- Two dashes alone, behind which there are no flags. -/
  | escape
  /-- A flag with two dashes, perhaps with a value. -/
  | long (flag : String) (value : Option String)
  /-- One dash and the letter behind it. -/
  | short (letter : Char)
  | plain
deriving DecidableEq, Repr

/-- What an argument is. -/
def Token.ofString (argument : String) : Token :=
  match argument.toList with
  | ['-', '-'] => .escape
  | '-' :: '-' :: text =>
    let flag := String.ofList (text.takeWhile (· != '='))
    if '=' ∈ text then .long flag (some (String.ofList ((text.dropWhile (· != '=')).drop 1)))
    else .long flag none
  | '-' :: letter :: _ => .short letter
  | _ => .plain

/-- Look at the flag that is pending and then end with an answer that is no configuration. -/
def endWith {α : Type} (p : Progress) (e : Error) : Except Error α := do
  let _ ← p.settle
  .error e

/-- Read one flag with two dashes. -/
def readLong (p : Progress) (flag : String) (value : Option String) : Except Error Progress :=
  if flag = "help" || flag = "version" then
    if value.isSome then .error .unexpectedValue
    else endWith p (if flag = "help" then .helpWanted else .versionWanted)
  else
    match Setting.withFlag? flag, value with
    | none, _ => .error .unknownArgument
    | some s, none => do .ok ⟨← p.settle, some (s, none)⟩
    | some s, some raw => do .ok ⟨← giveOnce (← p.settle) s raw, none⟩

/-- Read one flag with one dash. -/
def readShort (p : Progress) (letter : Char) : Except Error Progress :=
  if letter = 'h' then endWith p .helpWanted
  else if letter = 'V' then endWith p .versionWanted
  else .error .unknownArgument

/-- Read one argument that is no flag. -/
def readPlain (p : Progress) (argument : String) : Except Error Progress :=
  match p.pending with
  | some (s, none) => .ok { p with pending := some (s, some argument) }
  | _ => .error .unknownArgument

/-- Read arguments from the left. -/
def readArguments : List String → Progress → Except Error Progress
  | [], p => .ok p
  | argument :: rest, p =>
    match Token.ofString argument with
    | .escape => if rest = [] then .ok p else .error .unknownArgument
    | .long flag value => do readArguments rest (← readLong p flag value)
    | .short letter => do readArguments rest (← readShort p letter)
    | .plain => do readArguments rest (← readPlain p argument)

/-- Give a setting the value of its variable, if it has not been given. -/
def giveVariable (environment : String → Option String) (o : Overrides) (s : Setting) :
    Except Error Overrides :=
  if isGiven o s then .ok o
  else
    match environment s.environmentVariable with
    | some raw => give o s raw
    | none => .ok o

/-- What a command line and an environment override. -/
def read (arguments : List String) (environment : String → Option String) :
    Except Error Overrides := do
  let p ← readArguments arguments ⟨.none, none⟩
  Setting.all.foldlM (giveVariable environment) (← p.settle)

end CommandLine

end MetadataGateway
