import MetadataGateway.Cache.Basic
import MetadataGateway.Cache.Reply

/-!
# The connections to a store

An operation takes the idle client that was put back last, or opens a connection, sends its command,
and waits for the reply. Only a client whose reply has come as a whole is put back, and only if few
are idle; any other is dropped with its connection. So that many operations can take turns, what
happens is a sequence of events, each of which belongs to one operation.
-/

namespace MetadataGateway.Cache.Pool

/-- A connection with what has come on it and has not been read. -/
structure Client where
  /-- How many connections were opened before. -/
  number : Nat
  unread : List UInt8
deriving DecidableEq, Repr

/-- What an operation was told. -/
inductive Answer where
  | miss
  | hit (payload : List UInt8)
  | stored
deriving DecidableEq, Repr

/-- How far an operation is. -/
inductive Stage where
  /-- It opens a connection. -/
  | connecting (c : Command)
  /-- It holds a client and has not sent its command. -/
  | ready (c : Command) (client : Client)
  /-- It has sent its command and waits for the reply. -/
  | waiting (c : Command) (client : Client)
  /-- It has its answer and still holds the client. -/
  | answered (a : Answer) (client : Client)
  | done (result : Except Error Answer)

/-- An operation that has sent a command, and the number of the connection it sent it on. -/
structure Sender where
  operation : Nat
  connection : Nat
deriving DecidableEq, Repr

/-- The idle clients, the one put back last in front; how many connections have been opened; the
operations as they were begun; and the commands that have been sent, each with its sender. -/
structure State where
  idle : List Client
  opened : Nat
  operations : List Stage
  sent : List (Sender × Command)

/-- Nothing has happened yet. -/
def State.initial : State := ⟨[], 0, [], []⟩

/-- How many idle clients are kept. -/
def maxIdle : Nat := 2

/-- What the protocol calls a command. -/
def verb : Command → String
  | .get _ => "GET"
  | .set .. => "SET"

/-! ## What a reply means -/

/-- What is wrong with a reply that does not answer the command. -/
def complaint : Reply → String
  | .stored => "stored"
  | .notStored => "not stored"
  | .exists => "exists"
  | .notFound => "not found"
  | .deleted => "deleted"
  | .touched => "touched"
  | .items _ => "error: protocol: unknown"
  | .number _ => "error: protocol: unknown"
  | .noSuchCommand => "error: command does not exist"
  | .clientError m => "error: client: " ++ String.ofList (Utf8.decodeLossy m)
  | .serverError m => "error: server: " ++ String.ofList (Utf8.decodeLossy m)

/-- The error of a command that failed. -/
def failed (c : Command) (reason : String) : Error :=
  .refused ("memcached " ++ verb c ++ " failed: " ++ reason)

/-- The answer that a reply gives to a command, or what is wrong. -/
def meaning (c : Command) (r : Reply) : Except Error Answer :=
  match c, r with
  | .get _, .items [] => .ok .miss
  | .get _, .notFound => .ok .miss
  | .get _, .items [i] => .ok (.hit i.payload)
  | .set .., .stored => .ok .stored
  | c, r => .error (failed c (complaint r))

/-- How far an operation is that has sent its command and reads what has come. -/
def receive (c : Command) (client : Client) : Stage :=
  match Reply.decode client.unread with
  | .more => .waiting c client
  | .refused => .done (.error (failed c "error: protocol: unknown"))
  | .done r rest =>
    match meaning c r with
    | .ok a => .answered a { client with unread := rest }
    | .error e => .done (.error e)

/-! ## Events -/

/-- What happens. All events but the first two name an operation by how many were begun before it.
-/
inductive Event where
  /-- An operation begins: it takes an idle client, or it opens a connection. -/
  | checkout (c : Command)
  /-- An operation begins, and sends its command at once if a client is idle. -/
  | start (c : Command)
  /-- A connection is open. -/
  | opened (operation : Nat)
  /-- A connection is open, and its operation sends its command at once. -/
  | connected (operation : Nat)
  /-- A connection could not be opened. -/
  | notConnected (operation : Nat) (reason : String)
  /-- An operation that holds a client sends its command. -/
  | send (operation : Nat)
  /-- Octets come. -/
  | arrive (operation : Nat) (octets : List UInt8)
  /-- The store closes a connection. -/
  | close (operation : Nat)
  /-- The time of an operation is up. -/
  | expire (operation : Nat)
  /-- An operation that has its answer puts its client back. -/
  | release (operation : Nat)
deriving DecidableEq, Repr

namespace State

/-- The state in which an operation is so far. -/
def setStage (s : State) (i : Nat) (stage : Stage) : State :=
  { s with operations := s.operations.set i stage }

/-- An operation begins with the client that was put back last, or without one. -/
def checkout (s : State) (c : Command) : State :=
  match s.idle with
  | client :: idle => { s with idle, operations := s.operations ++ [.ready c client] }
  | [] => { s with operations := s.operations ++ [.connecting c] }

/-- A connection of an operation is open. -/
def openFor (s : State) (i : Nat) : State :=
  match s.operations[i]? with
  | some (.connecting c) =>
    { s with
      opened := s.opened + 1
      operations := s.operations.set i (.ready c ⟨s.opened, []⟩) }
  | _ => s

/-- An operation that holds a client sends its command. -/
def send (s : State) (i : Nat) : State :=
  match s.operations[i]? with
  | some (.ready c client) =>
    { s with
      operations := s.operations.set i (receive c client)
      sent := s.sent ++ [(⟨i, client.number⟩, c)] }
  | _ => s

/-- An operation puts its client back, or drops it if enough are idle. -/
def release (s : State) (i : Nat) (a : Answer) (client : Client) : State :=
  { s with
    idle := if s.idle.length < maxIdle then client :: s.idle else s.idle
    operations := s.operations.set i (.done (.ok a)) }

end State

/-- The error of a step that took too long. -/
def timedOut (what : String) (timeoutMs : Nat) : Error :=
  .connection ("memcached " ++ what ++ " timed out after " ++ toString timeoutMs ++ "ms")

/-- What an event makes of the state; an event that does not fit changes nothing. -/
def step (source : String) (timeoutMs : Nat) (s : State) : Event → State
  | .checkout c => s.checkout c
  | .start c => (s.checkout c).send s.operations.length
  | .opened i => s.openFor i
  | .connected i => (s.openFor i).send i
  | .notConnected i reason =>
    match s.operations[i]? with
    | some (.connecting _) =>
      s.setStage i (.done (.error (.connection
        ("failed to connect to memcached at " ++ source ++ ": connect: " ++ reason))))
    | _ => s
  | .send i => s.send i
  | .arrive i octets =>
    match s.operations[i]? with
    | some (.waiting c client) =>
      s.setStage i (receive c { client with unread := client.unread ++ octets })
    | _ => s
  | .close i =>
    match s.operations[i]? with
    | some (.waiting c _) =>
      s.setStage i (.done (.error (failed c "io: unexpected end of file")))
    | _ => s
  | .expire i =>
    match s.operations[i]? with
    | some (.connecting _) => s.setStage i (.done (.error (timedOut "connect" timeoutMs)))
    | some (.ready c _) => s.setStage i (.done (.error (timedOut (verb c) timeoutMs)))
    | some (.waiting c _) => s.setStage i (.done (.error (timedOut (verb c) timeoutMs)))
    | _ => s
  | .release i =>
    match s.operations[i]? with
    | some (.answered a client) => s.release i a client
    | _ => s

/-- What a sequence of events makes of the state. -/
def run (source : String) (timeoutMs : Nat) (events : List Event) (s : State) : State :=
  events.foldl (step source timeoutMs) s

end MetadataGateway.Cache.Pool
