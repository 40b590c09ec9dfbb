import Mathlib.Logic.Function.Basic
import Mathlib.Logic.Relation
import Mathlib.Tactic.Common
import MetadataGateway.Cache.Pool
import MetadataGateway.Proofs.Cache.Reply

/-!
# A pool and the store behind it

The store answers the commands of a connection in order, each at most once, at any time and in
regular replies, of which it may send only the front. What it has sent comes in pieces, late or
never, to the operation that waits on the connection, and is lost if none does. A `Wire` is the pool
and the store with what is between them; it keeps on record which command each operation was begun
with and which replies were given on each connection. Whatever happens is a sequence of moves
(`Wire.run_moves`), each of which changes one connection or one operation.
-/

namespace MetadataGateway.Cache.Pool

open Relation (ReflTransGen)

/-- A reply that the protocol can say. -/
abbrev RegularReply := { r : Reply // r.Regular }

/-- The pool, the commands that its operations were begun with, the replies that the store has given
on each connection, and the octets that are on their way on it. -/
structure Wire where
  pool : State
  begun : List Command
  replies : Nat → List RegularReply
  onWay : Nat → List UInt8

/-- What happens between a pool and its store. -/
inductive Wire.Event where
  /-- An operation goes on, or it fails. -/
  | pool (e : Pool.Event)
  /-- The store gives the next reply on a connection, and sends the front of it. -/
  | answer (connection : Nat) (r : RegularReply) (count : Nat)
  /-- The first octets that are on their way to an operation come. -/
  | deliver (operation count : Nat)

/-- The command that an operation is begun with. -/
def Event.begins : Event → List Command
  | .checkout c => [c]
  | .start c => [c]
  | _ => []

namespace Wire

/-- Nothing has happened yet. -/
def initial : Wire := ⟨State.initial, [], fun _ => [], fun _ => []⟩

/-- The commands that were sent on a connection, in order, each with its sender. -/
def sentOn (w : Wire) (n : Nat) : List (Sender × Command) :=
  w.pool.sent.filter fun e => e.1.connection = n

/-- An operation sends its command on the connection of its client. -/
def send (w : Wire) (i : Nat) (c : Command) (client : Client) : Wire :=
  { w with
    pool :=
      { w.pool with
        operations := w.pool.operations.set i (receive c client)
        sent := w.pool.sent ++ [(⟨i, client.number⟩, c)] } }

/-- The store gives the next reply on a connection, and sends the front of it. -/
def answer (w : Wire) (n : Nat) (r : RegularReply) (count : Nat) : Wire :=
  { w with
    replies := Function.update w.replies n (w.replies n ++ [r])
    onWay := Function.update w.onWay n (w.onWay n ++ r.1.encode.take count) }

/-- The first octets that are on their way on a connection come to an operation that waits. -/
def deliver (w : Wire) (i : Nat) (c : Command) (client : Client) (count : Nat) : Wire :=
  let come := (w.onWay client.number).take count
  { w with
    pool := w.pool.setStage i (receive c { client with unread := client.unread ++ come })
    onWay := Function.update w.onWay client.number ((w.onWay client.number).drop count) }

/-- A reply stands behind those before it on its connection. -/
lemma replies_answer (w : Wire) (n : Nat) (r : RegularReply) (count : Nat) :
    (w.answer n r count).replies n = w.replies n ++ [r] :=
  Function.update_self _ _ _

/-- Of a reply so many octets are on their way. -/
lemma onWay_answer (w : Wire) (n : Nat) (r : RegularReply) (count : Nat) :
    (w.answer n r count).onWay n = w.onWay n ++ r.1.encode.take count :=
  Function.update_self _ _ _

/-- Octets that are delivered are on their way no more. -/
lemma onWay_deliver (w : Wire) (i : Nat) (c : Command) (client : Client) (count : Nat) :
    (w.deliver i c client count).onWay client.number = (w.onWay client.number).drop count :=
  Function.update_self _ _ _

variable (source : String) (timeoutMs : Nat)

/-- What happens next. The store gives no reply where no command is unanswered, and no octets come
but those that are on their way. -/
def step (w : Wire) : Event → Wire
  | .pool (.arrive _ _) => w
  | .pool e =>
    { w with pool := Pool.step source timeoutMs w.pool e, begun := w.begun ++ e.begins }
  | .answer n r count =>
    if (w.replies n).length < (w.sentOn n).length then w.answer n r count else w
  | .deliver i count =>
    match w.pool.operations[i]? with
    | some (.waiting c client) => w.deliver i c client count
    | _ => w

/-- What a sequence of events makes of a pool and its store. -/
def run (events : List Event) (w : Wire) : Wire :=
  events.foldl (step source timeoutMs) w

/-- A single change. -/
inductive Move (w : Wire) : Wire → Prop
  | stay : Move w w
  | take {c : Command} {client : Client} {idle : List Client} :
    w.pool.idle = client :: idle →
    Move w
      { w with
        pool := { w.pool with idle, operations := w.pool.operations ++ [.ready c client] }
        begun := w.begun ++ [c] }
  | dial {c : Command} :
    w.pool.idle = [] →
    Move w
      { w with
        pool := { w.pool with operations := w.pool.operations ++ [.connecting c] }
        begun := w.begun ++ [c] }
  | opened {i : Nat} {c : Command} :
    w.pool.operations[i]? = some (.connecting c) →
    Move w
      { w with
        pool :=
          { w.pool with
            opened := w.pool.opened + 1
            operations := w.pool.operations.set i (.ready c ⟨w.pool.opened, []⟩) } }
  | sent {i : Nat} {c : Command} {client : Client} :
    w.pool.operations[i]? = some (.ready c client) →
    Move w (w.send i c client)
  | failed {i : Nat} {stage : Stage} {e : Error} :
    w.pool.operations[i]? = some stage →
    (∀ result, stage ≠ .done result) →
    Move w { w with pool := w.pool.setStage i (.done (.error e)) }
  | released {i : Nat} {a : Answer} {client : Client} :
    w.pool.operations[i]? = some (.answered a client) →
    Move w { w with pool := w.pool.release i a client }
  | answered {n : Nat} {r : RegularReply} {count : Nat} :
    (w.replies n).length < (w.sentOn n).length →
    Move w (w.answer n r count)
  | delivered {i : Nat} {c : Command} {client : Client} {count : Nat} :
    w.pool.operations[i]? = some (.waiting c client) →
    Move w (w.deliver i c client count)

variable {source timeoutMs}

/-- An operation that begins makes a move. -/
lemma Move.checkout (w : Wire) (c : Command) :
    Move w { w with pool := w.pool.checkout c, begun := w.begun ++ [c] } := by
  unfold State.checkout
  split
  · rename_i idle
    exact .take idle
  · rename_i idle
    exact .dial idle

/-- A connection that is opened makes a move. -/
lemma Move.openFor (w : Wire) (i : Nat) : Move w { w with pool := w.pool.openFor i } := by
  unfold State.openFor
  split
  · rename_i stage
    exact .opened stage
  · exact .stay

/-- A command that is sent makes a move. -/
lemma Move.send (w : Wire) (i : Nat) : Move w { w with pool := w.pool.send i } := by
  unfold State.send
  split
  · rename_i stage
    exact .sent stage
  · exact .stay

/-- What happens is some moves. -/
lemma step_moves (w : Wire) (e : Event) : ReflTransGen Move w (w.step source timeoutMs e) := by
  cases e with
  | pool e =>
    cases e with
    | arrive => exact .refl
    | checkout c => exact .single (Move.checkout w c)
    | start c =>
      -- It begins, and then it sends if it has taken an idle client.
      have begins := Move.checkout w c
      exact (ReflTransGen.single begins).tail (Move.send _ _)
    | opened i =>
      have opens := Move.openFor w i
      simp only [step, Event.begins, List.append_nil]
      exact .single opens
    | connected i =>
      have opens := Move.openFor w i
      simp only [step, Event.begins, List.append_nil]
      exact (ReflTransGen.single opens).tail (Move.send _ _)
    | send i =>
      simp only [step, Event.begins, List.append_nil]
      exact .single (Move.send w i)
    | notConnected i reason =>
      simp only [step, Pool.step, Event.begins, List.append_nil]
      split
      · rename_i stage
        exact .single (.failed stage nofun)
      · exact .refl
    | close i =>
      simp only [step, Pool.step, Event.begins, List.append_nil]
      split
      · rename_i stage
        exact .single (.failed stage nofun)
      · exact .refl
    | expire i =>
      simp only [step, Pool.step, Event.begins, List.append_nil]
      split
      · rename_i stage
        exact .single (.failed stage nofun)
      · rename_i stage
        exact .single (.failed stage nofun)
      · rename_i stage
        exact .single (.failed stage nofun)
      · exact .refl
    | release i =>
      simp only [step, Pool.step, Event.begins, List.append_nil]
      split
      · rename_i stage
        exact .single (.released stage)
      · exact .refl
  | answer n r count =>
    rw [step]
    split
    · rename_i owed
      exact .single (.answered owed)
    · exact .refl
  | deliver i count =>
    rw [step]
    split
    · rename_i stage
      exact .single (.delivered stage)
    · exact .refl

/-- Whatever happens is a sequence of moves. -/
theorem run_moves (events : List Event) (w : Wire) :
    ReflTransGen Move w (run source timeoutMs events w) := by
  induction events generalizing w with
  | nil => exact .refl
  | cons e events ih => exact (step_moves w e).trans (ih _)

end Wire
end MetadataGateway.Cache.Pool
