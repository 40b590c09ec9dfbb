import MetadataGateway.Cache.Endpoint
import MetadataGateway.Cache.Pool
import MetadataGateway.Config.Basic
import MetadataGateway.Net.Host
import MetadataGateway.Text.Quoted

/-!
# A store on another machine

The store of the cache is found by its source name, and every step of an operation on it has the
same time. What answers at the other end is a peer, which says for each command what comes back.
-/

namespace MetadataGateway.Cache

open Net

/-- Where a store is, and how long each step may take. -/
structure Remote where
  source : String
  timeoutMs : Nat
deriving DecidableEq, Repr

namespace Remote

/-- The store at the place that a text names. -/
def ofUri (uri : String) (timeoutMs : Nat) : Remote :=
  ⟨sourceName uri, timeoutMs⟩

/-- The store that is configured, if one is. -/
def ofSettings (c : CacheSettings) : Option Remote :=
  c.uri.map fun uri => ofUri uri c.timeoutMs.toNat

/-- The kind of store. -/
def providerName : String := "memcached"

/-- Milliseconds in the largest unit of which there is one, with as many places as are needed. -/
def durationText (ms : Nat) : String :=
  if ms = 0 then "0ns"
  else if ms < 1000 then toString ms ++ "ms"
  else toString (ms / 1000) ++ fractionText (ms % 1000) ++ "s"
where
  /-- Thousandths behind a point, without zeros at the end. -/
  fractionText (n : Nat) : String :=
    if n = 0 then ""
    else if n % 100 = 0 then "." ++ toString (n / 100)
    else if n % 10 = 0 then "." ++ padded 2 (n / 10)
    else "." ++ padded 3 n
  /-- A number with zeros before it. -/
  padded (width n : Nat) : String :=
    let digits := Nat.toDigits 10 n
    String.ofList (List.replicate (width - digits.length) '0' ++ digits)

/-- The store as the log shows it. -/
def summary (r : Remote) : String :=
  "MemcachedStore \x7b dsn: " ++ Text.quoteString r.source ++ ", timeout: "
    ++ durationText r.timeoutMs ++ " \x7d"

/-! ## Connecting -/

/-- The port of a store whose source name has none. -/
def standardPort : Nat := 11211

/-- The name of a machine in a URL. -/
def hostText : HostName → String
  | .domain name => name
  | .ip4 ip => String.intercalate "." (ip.map toString)
  | .ip6 ip =>
    "[" ++ String.intercalate ":" (ip.map fun g => String.ofList (Nat.toDigits 16 g)) ++ "]"

/-- Why there is no connection to a store. -/
inductive DialError where
  | invalidSource (e : Url.Error)
  | noHost
  | unreached (e : Unreached)
deriving DecidableEq, Repr

/-- The wording of the reason. -/
def DialError.message : DialError → String
  | .invalidSource e => "failed to parse DSN: " ++ e.message
  | .noHost => "no host found in DSN"
  | .unreached e => e.message

/-- What a source name that is a URL leads to. A scheme that is not known says nothing, and the
whole is taken for an address. -/
def endpointOf (source : String) (url : Url) : Except DialError Endpoint :=
  match url.scheme with
  | "unix" => (Endpoint.ofPath url.path).mapError .unreached
  | "tcp" =>
    match url.host with
    | some host => .ok (.tcp (hostText host) (url.port.getD standardPort))
    | none => .error .noHost
  | _ => (Endpoint.ofAddress source).mapError .unreached

/-- What the source name of a store leads to. -/
def endpoint (source : String) : Except DialError Endpoint :=
  match Url.ofString source with
  | .ok url => endpointOf source url
  | .error e => .error (.invalidSource e)

/-- What comes of opening a connection to a store. -/
def dial (machine : Machine) (r : Remote) : Except DialError Unit := do
  let place ← endpoint r.source
  (machine.reach place).mapError .unreached

/-! ## Operations -/

/-- What comes on a connection. -/
inductive Arrival where
  | octets (piece : List UInt8)
  | closed
deriving DecidableEq, Repr

/-- What answers commands at the other end. When all has come that comes back, it is silent. -/
abbrev Peer (π : Type) := Command → π → List Arrival × π

/-- The event that an arrival is for an operation. -/
def Arrival.event (operation : Nat) : Arrival → Pool.Event
  | .octets piece => .arrive operation piece
  | .closed => .close operation

/-- The event of opening a connection for an operation. -/
def dialEvent (machine : Machine) (r : Remote) (operation : Nat) : Pool.Event :=
  match dial machine r with
  | .ok () => .connected operation
  | .error e => .notConnected operation e.message

/-- The events of an operation that has begun: its connection opens, what comes back arrives, the
time is up if that is not enough, and the client is put back. -/
def events (machine : Machine) (r : Remote) (operation : Nat) (arrivals : List Arrival) :
    List Pool.Event :=
  dialEvent machine r operation :: arrivals.map (Arrival.event operation)
    ++ [.expire operation, .release operation]

/-- What came of an operation. -/
def result (s : Pool.State) (operation : Nat) : Except Error Pool.Answer :=
  match s.operations[operation]? with
  | some (.done r) => r
  | _ => .error (.connection "")

/-- Carry out one command. -/
def perform {π : Type} (machine : Machine) (r : Remote) (peer : Peer π) (c : Command)
    (s : Pool.State × π) : Except Error Pool.Answer × Pool.State × π :=
  let operation := s.1.operations.length
  let reached := s.1.idle != [] || (dial machine r).isOk
  let (arrivals, p) := if reached then peer c s.2 else ([], s.2)
  let after :=
    Pool.run r.source r.timeoutMs (.start c :: events machine r operation arrivals) s.1
  (result after operation, after, p)

/-- The payload that an answer brings. -/
def payloadOf : Pool.Answer → Option (List UInt8)
  | .hit payload => some payload
  | _ => none

/-- The store as a provider. -/
def provider {π : Type} (machine : Machine) (r : Remote) (peer : Peer π) :
    Provider (Pool.State × π) where
  get key s :=
    let (answer, s) := perform machine r peer (.get (keyOctets key)) s
    (answer.map payloadOf, s)
  set key payload s :=
    let (answer, s) := perform machine r peer (.set (keyOctets key) payload) s
    (answer.map fun _ => (), s)

end Remote

end MetadataGateway.Cache
