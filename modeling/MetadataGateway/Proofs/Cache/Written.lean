import MetadataGateway.Cache.Remote
import MetadataGateway.Proofs.Cache.Command
import MetadataGateway.Proofs.Cache.Wire
import MetadataGateway.Proofs.Lists

/-!
# What is written to a store

An operation writes its command once, on the connection that it holds, and writes nothing else. So
what stands on a connection are whole commands, each of them that of the operation that sent it, in
the order in which they were sent (`State.Logged`). Nothing that comes back, and no failure, makes
a difference to that.

The cache begins an operation for each lookup and each store, with a key that is a fingerprint and
with a payload that may be anything. A store that reads a connection by the grammar of the protocol
therefore finds on it the commands of lookups and stores that were made, and nothing else
(`written_readable`).
-/

namespace MetadataGateway.Cache

namespace Pool

variable {s s' : State} {begun : List Command} {c : Command} {i n : Nat}

/-- The command of an operation that has not sent it. -/
def Stage.unsent? : Stage → Option Command
  | .connecting c => some c
  | .ready c _ => some c
  | _ => none

/-- The commands that were sent on a connection, in order, each with its sender. -/
def State.sentOn (s : State) (n : Nat) : List (Sender × Command) :=
  s.sent.filter fun e => e.1.connection = n

/-- The octets that were written on a connection. -/
def State.written (s : State) (n : Nat) : List UInt8 :=
  (s.sentOn n).flatMap fun e => e.2.encode

/-- Operations were begun with commands, and each of them has sent its own command at most once. -/
structure State.Logged (begun : List Command) (s : State) : Prop where
  length : s.operations.length = begun.length
  own : ∀ {i stage c}, s.operations[i]? = some stage → stage.unsent? = some c →
    begun[i]? = some c ∧ ∀ e ∈ s.sent, e.1.operation ≠ i
  sent : ∀ e ∈ s.sent, begun[e.1.operation]? = some e.2
  once : (s.sent.map fun e => e.1.operation).Nodup

/-- What waits for its reply has nothing left to send. -/
lemma unsent?_receive (c : Command) (client : Client) : (receive c client).unsent? = none := by
  unfold receive
  split
  · rfl
  · rfl
  · split <;> rfl

namespace State

/-- Where no operation has begun nothing is logged. -/
lemma logged_initial : initial.Logged [] where
  length := rfl
  own here := by cases here
  sent _ here := by cases here
  once := List.nodup_nil

/-- An operation is begun. -/
lemma Logged.begin (logged : s.Logged begun) {stage : Stage} (unsent : stage.unsent? = some c)
    (operations : s'.operations = s.operations ++ [stage]) (sent : s'.sent = s.sent) :
    s'.Logged (begun ++ [c]) where
  length := by
    rw [operations, List.length_append, List.length_append, logged.length]
    rfl
  own here its := by
    rw [operations] at here
    rw [sent]
    rcases getElem?_of_concat here with ⟨rfl, rfl⟩ | old
    · -- Nothing was sent by an operation that was not there.
      rw [unsent] at its
      cases its
      rw [logged.length]
      refine ⟨List.getElem?_concat_length, fun e mem same => ?_⟩
      have short := lt_length_of_getElem? (logged.sent e mem)
      omega
    · obtain ⟨own, silent⟩ := logged.own old its
      exact ⟨getElem?_of_front (List.prefix_append _ _) own, silent⟩
  sent e mem := by
    rw [sent] at mem
    exact getElem?_of_front (List.prefix_append _ _) (logged.sent e mem)
  once := by
    rw [sent]
    exact logged.once

/-- An operation goes on without sending anything. -/
lemma Logged.go_on (logged : s.Logged begun) {stage : Stage} (stage' : Stage)
    (here : s.operations[i]? = some stage)
    (unsent : ∀ c, stage'.unsent? = some c → stage.unsent? = some c)
    (operations : s'.operations = s.operations.set i stage') (sent : s'.sent = s.sent) :
    s'.Logged begun where
  length := by rw [operations, List.length_set, logged.length]
  own here' its := by
    rw [operations] at here'
    rw [sent]
    rcases getElem?_of_set here' with ⟨rfl, rfl⟩ | ⟨-, old⟩
    · exact logged.own here (unsent _ its)
    · exact logged.own old its
  sent e mem := by
    rw [sent] at mem
    exact logged.sent e mem
  once := by
    rw [sent]
    exact logged.once

/-- An operation that begins is logged with its command. -/
lemma Logged.checkout (logged : s.Logged begun) (c : Command) :
    (s.checkout c).Logged (begun ++ [c]) := by
  unfold State.checkout
  split
  · exact logged.begin rfl rfl rfl
  · exact logged.begin rfl rfl rfl

/-- A connection that is opened adds nothing to the log. -/
lemma Logged.openFor (logged : s.Logged begun) (i : Nat) : (s.openFor i).Logged begun := by
  unfold State.openFor
  split
  · rename_i here
    exact logged.go_on (.ready _ _) here (fun _ its => its) rfl rfl
  · exact logged

/-- An operation that sends its command has not sent it before, and does not do so again. -/
lemma Logged.send (logged : s.Logged begun) (i : Nat) : (s.send i).Logged begun := by
  unfold State.send
  split
  · rename_i c client here
    obtain ⟨own, silent⟩ := logged.own here rfl
    constructor
    case length => rw [List.length_set, logged.length]
    case own =>
      intro j stage c' here' its
      rcases getElem?_of_set here' with ⟨rfl, rfl⟩ | ⟨other, old⟩
      · rw [unsent?_receive] at its
        cases its
      · obtain ⟨own', silent'⟩ := logged.own old its
        refine ⟨own', fun e mem => ?_⟩
        obtain old | new := List.mem_append.1 mem
        · exact silent' e old
        · obtain rfl := List.mem_singleton.1 new
          exact fun same => other same.symm
    case sent =>
      intro e mem
      obtain old | new := List.mem_append.1 mem
      · exact logged.sent e old
      · obtain rfl := List.mem_singleton.1 new
        exact own
    case once =>
      rw [List.map_append, List.map_singleton, List.nodup_append]
      refine ⟨logged.once, List.pairwise_singleton _ _, ?_⟩
      intro j mem k same
      obtain rfl := List.mem_singleton.1 same
      obtain ⟨e, old, rfl⟩ := List.mem_map.1 mem
      exact silent e old
  · exact logged

/-- An operation fails, or goes on behind its command. -/
lemma Logged.setStage (logged : s.Logged begun) {stage stage' : Stage}
    (here : s.operations[i]? = some stage) (behind : stage'.unsent? = none) :
    (s.setStage i stage').Logged begun :=
  logged.go_on stage' here (fun c its => by rw [behind] at its; cases its) rfl rfl

end State

variable {source : String} {timeoutMs : Nat}

/-- Whatever happens, operations send their own commands, and once. -/
lemma State.Logged.step (logged : s.Logged begun) (e : Event) :
    (step source timeoutMs s e).Logged (begun ++ e.begins) := by
  cases e with
  | checkout c => exact logged.checkout c
  | start c => exact (logged.checkout c).send _
  -- From here on no operation begins: the log of what is begun stays as it is.
  | opened i =>
    simp only [Event.begins, List.append_nil]
    exact logged.openFor i
  | connected i =>
    simp only [Event.begins, List.append_nil]
    exact (logged.openFor i).send i
  | send i =>
    simp only [Event.begins, List.append_nil]
    exact logged.send i
  | notConnected i reason =>
    simp only [Pool.step, Event.begins, List.append_nil]
    split
    · rename_i here
      exact logged.setStage here rfl
    · exact logged
  | arrive i octets =>
    simp only [Pool.step, Event.begins, List.append_nil]
    split
    · rename_i here
      exact logged.setStage here (unsent?_receive _ _)
    · exact logged
  | close i =>
    simp only [Pool.step, Event.begins, List.append_nil]
    split
    · rename_i here
      exact logged.setStage here rfl
    · exact logged
  | expire i =>
    simp only [Pool.step, Event.begins, List.append_nil]
    split
    · rename_i here
      exact logged.setStage here rfl
    · rename_i here
      exact logged.setStage here rfl
    · rename_i here
      exact logged.setStage here rfl
    · exact logged
  | release i =>
    simp only [Pool.step, Event.begins, List.append_nil]
    split
    · rename_i here
      refine logged.go_on (.done _) here ?_ rfl rfl
      rintro _ ⟨⟩
    · exact logged

/-- A run of events logs the commands that they begin, in order. -/
lemma State.Logged.run (logged : s.Logged begun) (events : List Event) :
    (run source timeoutMs events s).Logged (begun ++ events.flatMap Event.begins) := by
  induction events generalizing s begun with
  | nil => rwa [List.flatMap_nil, List.append_nil]
  | cons e events ih =>
    rw [List.flatMap_cons, ← List.append_assoc]
    exact ih (logged.step e)

/-- A store that reads a connection finds on it the commands that were sent there, if the keys of
the commands are keys. -/
lemma State.Logged.read_written (logged : s.Logged begun) (regular : ∀ c ∈ begun, c.Regular)
    (n : Nat) : Command.ofOctets? (s.written n) = some ((s.sentOn n).map Prod.snd) := by
  rw [written, ← List.flatMap_map]
  refine Command.ofOctets?_encode fun c mem => ?_
  obtain ⟨e, here, rfl⟩ := List.mem_map.1 mem
  exact regular _ (List.mem_of_getElem? (logged.sent e (List.mem_of_mem_filter here)))

/-! ## One operation after another -/

/-- An operation that is behind its command opens no connection. -/
lemma State.openFor_eq_self {stage : Stage} (here : s.operations[i]? = some stage)
    (behind : stage.unsent? = none) : s.openFor i = s := by
  unfold State.openFor
  split
  · rename_i connecting
    rw [here] at connecting
    cases connecting
    cases behind
  · rfl

/-- An operation that is behind its command sends nothing. -/
lemma State.send_eq_self {stage : Stage} (here : s.operations[i]? = some stage)
    (behind : stage.unsent? = none) : s.send i = s := by
  unfold State.send
  split
  · rename_i ready
    rw [here] at ready
    cases ready
    cases behind
  · rfl

/-- An operation that is begun and whose connection can be opened sends its command. -/
lemma sent_begun (s : State) (c : Command) :
    (step source timeoutMs (step source timeoutMs s (.start c))
      (.connected s.operations.length)).sent.map Prod.snd = s.sent.map Prod.snd ++ [c] := by
  simp only [step]
  cases idle : s.idle with
  | nil =>
    have waits : (s.checkout c).operations[s.operations.length]? = some (.connecting c) := by
      simp [State.checkout, idle]
    have silent : (s.checkout c).send s.operations.length = s.checkout c := by
      simp [State.send, waits]
    rw [silent]
    simp [State.openFor, State.send, State.checkout, idle]
  | cons client rest =>
    have sends : (s.checkout c).send s.operations.length =
        { s with
          idle := rest
          operations := s.operations ++ [receive c client]
          sent := s.sent ++ [(⟨s.operations.length, client.number⟩, c)] } := by
      simp [State.checkout, idle, State.send]
    -- It has sent its command, so it has no more use for a connection.
    have here : ((s.checkout c).send s.operations.length).operations[s.operations.length]? =
        some (receive c client) := by
      simp [sends]
    have behind := unsent?_receive c client
    rw [State.openFor_eq_self here behind, State.send_eq_self here behind, sends]
    simp

end Pool

namespace Remote

open Net

variable {π : Type} {machine : Machine} {r : Remote} {peer : Peer π}

/-- What comes back makes an operation send nothing, and neither does its end. -/
lemma sent_events (operation : Nat) (arrivals : List Arrival) (s : Pool.State) :
    (Pool.run r.source r.timeoutMs
      (arrivals.map (Arrival.event operation) ++ [.expire operation, .release operation]) s).sent =
      s.sent := by
  induction arrivals generalizing s with
  | nil =>
    have release : ∀ s, (Pool.step r.source r.timeoutMs s (.release operation)).sent = s.sent := by
      intro s
      simp only [Pool.step]
      split <;> rfl
    have expire : (Pool.step r.source r.timeoutMs s (.expire operation)).sent = s.sent := by
      simp only [Pool.step]
      split <;> rfl
    exact (release _).trans expire
  | cons arrival arrivals ih =>
    refine (ih _).trans ?_
    cases arrival with
    | octets piece =>
      simp only [Arrival.event, Pool.step]
      split <;> rfl
    | closed =>
      simp only [Arrival.event, Pool.step]
      split <;> rfl

/-- An operation on a store is begun once, with its command. -/
lemma perform_run (machine : Machine) (peer : Peer π) (c : Command) (s : Pool.State × π) :
    ∃ events, events.flatMap Pool.Event.begins = [c] ∧
      (r.perform machine peer c s).2.1 = Pool.run r.source r.timeoutMs events s.1 := by
  refine ⟨_, ?_, rfl⟩
  have arrived : ∀ (i : Nat) (arrivals : List Arrival),
      (arrivals.map (Arrival.event i)).flatMap Pool.Event.begins = [] := by
    intro i arrivals
    rw [List.flatMap_eq_nil_iff]
    intro e mem
    obtain ⟨arrival, -, rfl⟩ := List.mem_map.1 mem
    cases arrival <;> rfl
  have dialed : (r.dialEvent machine s.1.operations.length).begins = [] := by
    unfold dialEvent
    split <;> rfl
  rw [events, List.flatMap_cons, List.flatMap_append, List.flatMap_cons, dialed, arrived]
  rfl

/-- An operation on a store that can be reached sends its command, and then nothing more. -/
lemma sent_perform (reached : r.dial machine = .ok ()) (c : Command) (s : Pool.State × π) :
    (r.perform machine peer c s).2.1.sent.map Prod.snd = s.1.sent.map Prod.snd ++ [c] := by
  have opened : ∀ i, r.dialEvent machine i = .connected i := by
    intro i
    rw [dialEvent, reached]
  simp only [perform, events, opened]
  exact (congrArg _ (sent_events _ _ _)).trans (Pool.sent_begun s.1 c)

end Remote

/-! ## Lookups and stores -/

/-- A lookup or a store under the fingerprint of a target. -/
inductive Use where
  | lookup (uri : String)
  | store (uri : String) (payload : List UInt8)

namespace Use

/-- The command of a lookup or a store. -/
def command : Use → Command
  | lookup uri => .get (keyOctets (.ofUri uri))
  | store uri payload => .set (keyOctets (.ofUri uri)) payload

/-- The command of a use is regular. -/
lemma regular_command (u : Use) : u.command.Regular := by
  cases u with
  | lookup uri =>
    rw [Command.Regular, command, Command.key]
    exact keyOctets_ofUri uri
  | store uri payload =>
    rw [Command.Regular, command, Command.key]
    exact keyOctets_ofUri uri

/-- What is left of a store when the cache is used. -/
def carryOut {σ : Type} (cache : Option (Provider σ)) (s : σ) : Use → σ
  | lookup uri => (Cache.lookup cache (.ofUri uri) s).2.2
  | store uri payload => (Cache.store cache (.ofUri uri) payload s).2

variable {π : Type} {machine : Net.Machine} {r : Remote} {peer : Remote.Peer π}

/-- A cache over a store on another machine performs the command. -/
lemma carryOut_provider (u : Use) (s : Pool.State × π) :
    carryOut (some (r.provider machine peer)) s u = (r.perform machine peer u.command s).2 := by
  cases u with
  | lookup uri => rfl
  | store uri payload =>
    rw [carryOut, Cache.store]
    split
    · rename_i put
      exact (congrArg Prod.snd put).symm
    · rename_i put
      exact (congrArg Prod.snd put).symm

/-- A cache that is used begins an operation for each use, in order. -/
lemma carryOut_run (machine : Net.Machine) (r : Remote) (peer : Remote.Peer π) (uses : List Use)
    (s : Pool.State × π) :
    ∃ events, events.flatMap Pool.Event.begins = uses.map command ∧
      (uses.foldl (carryOut (some (r.provider machine peer))) s).1 =
        Pool.run r.source r.timeoutMs events s.1 := by
  induction uses generalizing s with
  | nil => exact ⟨[], rfl, rfl⟩
  | cons u uses ih =>
    obtain ⟨first, one, same⟩ := r.perform_run machine peer u.command s
    obtain ⟨rest, others, run⟩ := ih (carryOut (some (r.provider machine peer)) s u)
    refine ⟨first ++ rest, by rw [List.flatMap_append, one, others]; rfl, ?_⟩
    rw [List.foldl_cons, run, carryOut_provider, same]
    exact List.foldl_append.symm

/-- If the store can be reached, all commands are sent, in order. -/
lemma sent_carryOut (reached : r.dial machine = .ok ()) (uses : List Use) (s : Pool.State × π) :
    (uses.foldl (carryOut (some (r.provider machine peer))) s).1.sent.map Prod.snd =
      s.1.sent.map Prod.snd ++ uses.map command := by
  induction uses generalizing s with
  | nil => exact (List.append_nil _).symm
  | cons u uses ih =>
    rw [List.foldl_cons, ih, carryOut_provider, Remote.sent_perform reached, List.append_assoc]
    rfl

end Use

/-- Operations of uses of the cache have written commands of these uses, each once, and nothing
else. -/
lemma Pool.State.Logged.uses {uses : List Use} {s : Pool.State}
    (logged : s.Logged (uses.map Use.command)) (n : Nat) :
    Command.ofOctets? (s.written n) = some ((s.sentOn n).map Prod.snd) ∧
      ((s.sentOn n).map fun e => e.1.operation).Nodup ∧
        ∀ e ∈ s.sentOn n, ∃ u, uses[e.1.operation]? = some u ∧ e.2 = u.command := by
  have regular : ∀ c ∈ uses.map Use.command, c.Regular := by
    intro c mem
    obtain ⟨u, -, rfl⟩ := List.mem_map.1 mem
    exact u.regular_command
  refine ⟨logged.read_written regular n, ?_, fun e mem => ?_⟩
  · exact (List.filter_sublist.map _).nodup logged.once
  · have sent := logged.sent e (List.mem_of_mem_filter mem)
    rw [List.getElem?_map] at sent
    obtain ⟨u, here, same⟩ := Option.map_eq_some_iff.1 sent
    exact ⟨u, here, same.symm⟩

/-- What lookups and stores write is read as their commands, whatever the targets and the payloads.
The key is 32 hexadecimal digits. What stands on a connection are commands of the uses that sent
there, once for each, in whatever order things happen; and if one use follows another, the store can
be reached and all use one connection, what stands on it are the commands of all uses in order. -/
theorem written_readable :
    (∀ uri, (Fingerprint.ofUri uri).text.length = 32 ∧
      ∀ c ∈ (Fingerprint.ofUri uri).text.toList, c ∈ hexAlphabet) ∧
    (∀ uses : List Use, Command.ofOctets? ((uses.map Use.command).flatMap Command.encode) =
      some (uses.map Use.command)) ∧
    (∀ (source : String) (timeoutMs : Nat) (uses : List Use) (events : List Pool.Event),
      events.flatMap Pool.Event.begins = uses.map Use.command →
        let s := Pool.run source timeoutMs events .initial
        ∀ n, Command.ofOctets? (s.written n) = some ((s.sentOn n).map Prod.snd) ∧
          ((s.sentOn n).map fun e => e.1.operation).Nodup ∧
            ∀ e ∈ s.sentOn n, ∃ u, uses[e.1.operation]? = some u ∧ e.2 = u.command) ∧
    ∀ (π : Type) (machine : Net.Machine) (r : Remote) (peer : Remote.Peer π) (p : π)
      (uses : List Use),
      let s := (uses.foldl (Use.carryOut (some (r.provider machine peer))) (.initial, p)).1
      (∀ n, Command.ofOctets? (s.written n) = some ((s.sentOn n).map Prod.snd)) ∧
        (r.dial machine = .ok () →
          s.sent.map Prod.snd = uses.map Use.command ∧
            ∀ n, (∀ e ∈ s.sent, e.1.connection = n) →
              Command.ofOctets? (s.written n) = some (uses.map Use.command)) := by
  have whole {uses : List Use} {source : String} {timeoutMs : Nat} {events : List Pool.Event}
      (begun : events.flatMap Pool.Event.begins = uses.map Use.command) :
      (Pool.run source timeoutMs events .initial).Logged (uses.map Use.command) := by
    rw [← begun, ← List.nil_append (events.flatMap _)]
    exact Pool.State.logged_initial.run events
  refine ⟨fun uri => ⟨Fingerprint.length_ofUri uri, fun c => Fingerprint.mem_ofUri⟩, ?_, ?_, ?_⟩
  · intro uses
    refine Command.ofOctets?_encode fun c mem => ?_
    obtain ⟨u, -, rfl⟩ := List.mem_map.1 mem
    exact u.regular_command
  · intro source timeoutMs uses events begun s n
    exact (whole begun).uses n
  · intro π machine r peer p uses s
    obtain ⟨events, begun, run⟩ := Use.carryOut_run machine r peer uses (.initial, p)
    have logged : s.Logged (uses.map Use.command) := by
      show Pool.State.Logged _ (Prod.fst _)
      rw [run]
      exact whole begun
    refine ⟨fun n => (logged.uses n).1, fun reached => ?_⟩
    -- A store that is reached has sent them all; on one connection, all that stands there.
    have all : s.sent.map Prod.snd = uses.map Use.command :=
      Use.sent_carryOut reached uses (.initial, p)
    refine ⟨all, fun n one => ?_⟩
    have here : s.sentOn n = s.sent :=
      List.filter_eq_self.2 fun e mem => decide_eq_true (one e mem)
    rw [(logged.uses n).1, here, all]

/-- A store that answers keeps one connection, and what stands on it are the commands, though the
payload ends a line and has a command of its own. -/
theorem written_readable_answered :
    let machine : Net.Machine := ⟨fun _ => .ok ()⟩
    let r := Remote.ofUri "127.0.0.1:11211" 100
    let peer : Remote.Peer Unit := fun c p =>
      match c with
      | .get _ => ([.octets (octets "END\r\n")], p)
      | .set _ _ => ([.octets (octets "STORED\r\n")], p)
    let uses : List Use := [.store "/a b\r\nget x" (octets "\r\nget x\r\n"), .lookup "/"]
    let s := (uses.foldl (Use.carryOut (some (r.provider machine peer))) (.initial, ())).1
    r.dial machine = .ok () ∧ (∀ e ∈ s.sent, e.1.connection = 0) ∧
      Command.ofOctets? (s.written 0) = some (uses.map Use.command) := by
  intro machine r peer uses s
  have reached : r.dial machine = .ok () := by decide +kernel
  have connections : s.sent.map (fun e => e.1.connection) = [0, 0] := by decide +kernel
  have one : ∀ e ∈ s.sent, e.1.connection = 0 := by
    intro e mem
    have here : e.1.connection ∈ [0, 0] := connections ▸ List.mem_map_of_mem mem
    simpa using here
  have sequential := written_readable.2.2.2 Unit machine r peer () uses
  exact ⟨reached, one, (sequential.2 reached).2 0 one⟩

end MetadataGateway.Cache
