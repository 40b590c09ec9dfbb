import MetadataGateway.Backend.Basic
import MetadataGateway.Config.Basic
import MetadataGateway.Journal
import MetadataGateway.Net.Host

/-!
# The database server

The backend is a pool of connections to a database server. The server admits a client or turns it
away, and carries out queries, which give rows of one column or fail. The gateway asks it whether it
is well before it relies on it.
-/

namespace MetadataGateway.Backend

/-- A statement with what is bound to its placeholders. -/
structure Query where
  sql : String
  bindings : List Binding

/-- What a client names itself with. -/
structure Login where
  user : String
  database : String
  /-- The password; the empty one is not sent. -/
  password : String
deriving DecidableEq, Repr

/-- Why a server turns a client away. -/
structure Refusal where
  code : String
  message : String
deriving DecidableEq, Repr

/-- What comes of a query. -/
inductive Answer where
  /-- The values of the only column. -/
  | rows (values : List (Option String))
  /-- The query failed, in the server's own words. -/
  | failed (message : String)
deriving DecidableEq, Repr

/-- A server whose state is a `σ`. -/
structure Server (σ : Type) where
  startup : Login → σ → Option Refusal × σ
  run : Query → σ → Answer × σ

/-! ## Queries -/

/-- Why a query has no value. -/
inductive QueryError where
  | database (message : String)
  | noRow
  /-- The value is null where one is wanted. -/
  | unexpectedNull
deriving DecidableEq, Repr

/-- The wording of an error. -/
def QueryError.message : QueryError → String
  | .database m => "error returned from database: " ++ m
  | .noRow =>
    "no rows returned by a query that expected to return at least one row"
  | .unexpectedNull =>
    "error occurred while decoding column 0: unexpected null; try decoding as an `Option`"

/-- What a client of the gateway is told of an error: of one from the database its own words. -/
def QueryError.callMessage : QueryError → String
  | .database m => m
  | e => e.message

/-- The value in the first row. -/
def firstValue : Answer → Except QueryError (Option String)
  | .rows (value :: _) => .ok value
  | .rows [] => .error .noRow
  | .failed m => .error (.database m)

variable {σ : Type}

/-- The query that calls an operation, if there is a statement for it. -/
def callQuery? (op : Operation) (args : List Argument) : Option Query :=
  (Operation.statementFor? op.flag).map fun sql => ⟨sql, args.map Argument.binding⟩

/-- What the value of a call means. -/
def callResult (op : Operation) : Except QueryError (Option String) → Except Backend.Error String
  | .ok (some text) => .ok text
  | .ok none => .error (.nullResult op.function)
  | .error e => .error (.call e.callMessage)

/-- Call an operation by its statement. -/
def Server.call (server : Server σ) (op : Operation) (args : List Argument) (s : σ) :
    Except Backend.Error String × σ :=
  match callQuery? op args with
  | none => (.error (.call ("no statement for " ++ op.function)), s)
  | some query =>
    let (answer, s) := server.run query s
    (callResult op (firstValue answer), s)

/-- The backend that a server is. -/
def Server.backend (server : Server σ) : Backend σ where
  call := server.call

/-- The query that asks a server whether it is well. -/
def probe : Query := ⟨"select true", []⟩

/-- What the value of the probe means. -/
def probeResult : Except QueryError (Option String) → Except QueryError Bool
  | .ok (some text) => .ok (text == "t")
  | .ok none => .error .unexpectedNull
  | .error e => .error e

/-- Ask a server whether it is well. -/
def Server.isHealthy (server : Server σ) (s : σ) : Except QueryError Bool × σ :=
  let (answer, s) := server.run probe s
  (probeResult (firstValue answer), s)

/-! ## Connections -/

/-- How many idle connections are kept: never more than there may be. -/
def idleConnections (d : Database) : Nat :=
  min d.pool.toNat d.limit.toNat

/-- What is recorded of the number of idle connections. -/
def idleWarnings (d : Database) : Journal :=
  if d.limit < d.pool then [.warning (.poolAboveLimit d.pool.toNat d.limit.toNat)] else []

/-- How many connections are open when the pool is ready; it takes one to ask the server. -/
def openConnections (d : Database) : Nat :=
  max 1 (idleConnections d)

/-- Where a database is: a socket in a directory, or a port of a machine. -/
def endpoint (d : Database) : Net.Endpoint :=
  if d.host.toList.head? = some '/' then .socket (d.host ++ "/.s.PGSQL." ++ toString d.port.toNat)
  else .tcp d.host d.port.toNat

/-- What the gateway names itself with. -/
def login (d : Database) : Login :=
  ⟨d.user, d.name, d.password⟩

/-- Why there is no pool. -/
inductive ConnectError where
  | unreached (e : Net.Unreached)
  | refused (message : String)
  /-- No connection came free in time. -/
  | exhausted
  /-- The server did not say whether it is well. -/
  | unwell (e : QueryError)
deriving DecidableEq, Repr

/-- The wording of an error. -/
def ConnectError.message : ConnectError → String
  | .unreached e => "error communicating with database: " ++ e.message
  | .refused m => "error returned from database: " ++ m
  | .exhausted => "pool timed out while waiting for an open connection"
  | .unwell e => e.message

/-- Whether a client that is turned away so may try again: the server has too many clients or is
starting. -/
def Refusal.isTransient (r : Refusal) : Bool :=
  r.code == "53300" || r.code == "57P03"

/-- Whether a client that is turned away ever reaches the server. -/
def Server.signIn (server : Server σ) (d : Database) (s : σ) : Except ConnectError Unit × σ :=
  match server.startup (login d) s with
  | (none, s) => (.ok (), s)
  | (some r, s) => (.error (if r.isTransient then .exhausted else .refused r.message), s)

/-- Open the pool: what is recorded, and whether the server is well. -/
def Server.connect (server : Server σ) (machine : Net.Machine) (d : Database) (s : σ) :
    Journal × Except ConnectError Bool × σ :=
  let recorded := idleWarnings d
  if d.limit = 0 then (recorded, .error .exhausted, s)
  else
    match machine.reach (endpoint d) with
    | .error e => (recorded, .error (.unreached e), s)
    | .ok () =>
      match server.signIn d s with
      | (.error e, s) => (recorded, .error e, s)
      | (.ok (), s) =>
        let (well, s) := server.isHealthy s
        (recorded, well.mapError .unwell, s)

end MetadataGateway.Backend
