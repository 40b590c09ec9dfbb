import Mathlib.Data.List.Nodup
import MetadataGateway.Proofs.Cache.Wire
import MetadataGateway.Proofs.Lists

/-!
# Who holds a connection

A connection that has been opened is idle, is held by one operation, or is held by nobody and out of
use. `State.Owned` states that, and every move preserves it (`State.Owned.move`).
-/

namespace MetadataGateway.Cache.Pool

/-- The client that an operation holds. -/
def Stage.client? : Stage → Option Client
  | .ready _ client => some client
  | .waiting _ client => some client
  | .answered _ client => some client
  | _ => none

/-- The operation holds a client on the connection. -/
def State.Holds (s : State) (i n : Nat) : Prop :=
  ∃ stage client, s.operations[i]? = some stage ∧ stage.client? = some client ∧ client.number = n

/-- The numbers of the idle connections. -/
def State.idleNumbers (s : State) : List Nat :=
  s.idle.map Client.number

/-- Few connections are idle, none of them twice; a connection is held by one operation, and then it
is not idle; and all of them have been opened. -/
structure State.Owned (s : State) : Prop where
  few : s.idle.length ≤ maxIdle
  apart : s.idleNumbers.Nodup
  one_holder : ∀ {i j n}, s.Holds i n → s.Holds j n → i = j
  not_idle : ∀ {i n}, s.Holds i n → n ∉ s.idleNumbers
  idle_opened : ∀ {n}, n ∈ s.idleNumbers → n < s.opened
  held_opened : ∀ {i n}, s.Holds i n → n < s.opened

/-- An operation that went on holds what it holds now, and the others what they held. -/
lemma State.Holds.of_set {s s' : State} {i j n : Nat} {stage : Stage}
    (set : s'.operations = s.operations.set i stage) (holds : s'.Holds j n) :
    (j = i ∧ ∃ client, stage.client? = some client ∧ client.number = n) ∨
      (j ≠ i ∧ s.Holds j n) := by
  obtain ⟨stage', client, here, its, number⟩ := holds
  rw [set] at here
  rcases getElem?_of_set here with ⟨same, rfl⟩ | ⟨other, here⟩
  · exact .inl ⟨same, client, its, number⟩
  · exact .inr ⟨other, stage', client, here, its, number⟩

/-- An operation that was begun holds what it holds now, and the others what they held. -/
lemma State.Holds.of_append {s s' : State} {j n : Nat} {stage : Stage}
    (append : s'.operations = s.operations ++ [stage]) (holds : s'.Holds j n) :
    (j = s.operations.length ∧ ∃ client, stage.client? = some client ∧ client.number = n) ∨
      s.Holds j n := by
  obtain ⟨stage', client, here, its, number⟩ := holds
  rw [append] at here
  rcases getElem?_of_concat here with ⟨new, rfl⟩ | here
  · exact .inl ⟨new, client, its, number⟩
  · exact .inr ⟨stage', client, here, its, number⟩

/-- If no operation comes to hold a connection and none becomes idle, all belong as they did. -/
lemma State.Owned.narrow {s s' : State} (owned : s.Owned) (idle : s'.idle = s.idle)
    (opened : s'.opened = s.opened) (holds : ∀ {i n}, s'.Holds i n → s.Holds i n) : s'.Owned := by
  have numbers : s'.idleNumbers = s.idleNumbers := by rw [idleNumbers, idle, idleNumbers]
  constructor
  · rw [idle]
    exact owned.few
  · rw [numbers]
    exact owned.apart
  · intro i j n first second
    exact owned.one_holder (holds first) (holds second)
  · intro i n held
    rw [numbers]
    exact owned.not_idle (holds held)
  · intro n mem
    rw [numbers] at mem
    rw [opened]
    exact owned.idle_opened mem
  · intro i n held
    rw [opened]
    exact owned.held_opened (holds held)

/-- An operation that reads a reply holds the client that it held, or none. -/
lemma receive_client? {c : Command} {client k : Client}
    (holds : (receive c client).client? = some k) :
    k.number = client.number := by
  unfold receive at holds
  split at holds
  · cases holds
    rfl
  · cases holds
  · split at holds
    · cases holds
      rfl
    · cases holds

/-- An operation that takes an idle client is the one that holds it. -/
lemma State.Owned.take {s : State} {c : Command} {client : Client} {idle : List Client}
    (owned : s.Owned) (first : s.idle = client :: idle) :
    State.Owned { s with idle, operations := s.operations ++ [.ready c client] } := by
  have numbers : s.idleNumbers = client.number :: idle.map Client.number := by
    rw [idleNumbers, first, List.map_cons]
  have apart := owned.apart
  rw [numbers, List.nodup_cons] at apart
  have taken : client.number ∈ s.idleNumbers := by
    rw [numbers]
    exact List.mem_cons_self
  -- The new operation holds a connection that nobody else holds.
  have holds {j n}
      (held : State.Holds { s with idle, operations := s.operations ++ [.ready c client] } j n) :
      (j = s.operations.length ∧ n = client.number) ∨ (s.Holds j n ∧ n ≠ client.number) := by
    rcases held.of_append rfl with ⟨new, _, its, rfl⟩ | old
    · cases its
      exact .inl ⟨new, rfl⟩
    · refine .inr ⟨old, ?_⟩
      rintro rfl
      exact owned.not_idle old taken
  constructor
  · have few := owned.few
    rw [first, List.length_cons] at few
    show idle.length ≤ maxIdle
    omega
  · exact apart.2
  · intro i j n one other
    rcases holds one with ⟨rfl, rfl⟩ | ⟨old, differs⟩
    · rcases holds other with ⟨rfl, -⟩ | ⟨-, differs⟩
      · rfl
      · exact absurd rfl differs
    · rcases holds other with ⟨-, same⟩ | ⟨old', -⟩
      · exact absurd same differs
      · exact owned.one_holder old old'
  · intro i n held mem
    rcases holds held with ⟨-, rfl⟩ | ⟨old, -⟩
    · exact apart.1 mem
    · refine owned.not_idle old ?_
      rw [numbers]
      exact List.mem_cons_of_mem _ mem
  · intro n mem
    refine owned.idle_opened ?_
    rw [numbers]
    exact List.mem_cons_of_mem _ mem
  · intro i n held
    rcases holds held with ⟨-, rfl⟩ | ⟨old, -⟩
    · exact owned.idle_opened taken
    · exact owned.held_opened old

/-- An operation that opens a connection is the one that holds it. -/
lemma State.Owned.open {s : State} {i : Nat} {c : Command} (owned : s.Owned) :
    State.Owned
      { s with
        opened := s.opened + 1
        operations := s.operations.set i (.ready c ⟨s.opened, []⟩) } := by
  -- The new connection has a number of its own, beyond those of all others.
  have holds {j n}
      (held : State.Holds
        { s with
          opened := s.opened + 1
          operations := s.operations.set i (.ready c ⟨s.opened, []⟩) } j n) :
      (j = i ∧ n = s.opened) ∨ (s.Holds j n ∧ n < s.opened) := by
    rcases held.of_set rfl with ⟨here, _, its, rfl⟩ | ⟨-, old⟩
    · cases its
      exact .inl ⟨here, rfl⟩
    · exact .inr ⟨old, owned.held_opened old⟩
  constructor
  · exact owned.few
  · exact owned.apart
  · intro j k n one other
    rcases holds one with ⟨rfl, rfl⟩ | ⟨old, less⟩
    · rcases holds other with ⟨rfl, -⟩ | ⟨-, less⟩
      · rfl
      · exact absurd less (Nat.lt_irrefl _)
    · rcases holds other with ⟨-, rfl⟩ | ⟨old', -⟩
      · exact absurd less (Nat.lt_irrefl _)
      · exact owned.one_holder old old'
  · intro j n held mem
    rcases holds held with ⟨-, rfl⟩ | ⟨old, -⟩
    · exact absurd (owned.idle_opened mem) (Nat.lt_irrefl _)
    · exact owned.not_idle old mem
  · intro n mem
    exact Nat.lt_succ_of_lt (owned.idle_opened mem)
  · intro j n held
    rcases holds held with ⟨-, rfl⟩ | ⟨-, less⟩
    · exact Nat.lt_succ_self _
    · exact Nat.lt_succ_of_lt less

/-- An idle connection has been idle before, or is the one that was given back. -/
lemma State.mem_idleNumbers_release {s : State} {i n : Nat} {a : Answer} {client : Client}
    (mem : n ∈ (s.release i a client).idleNumbers) : n = client.number ∨ n ∈ s.idleNumbers := by
  unfold idleNumbers State.release at mem
  dsimp only at mem
  split at mem
  · exact List.mem_cons.1 mem
  · exact .inr mem

/-- A client that is put back is held by nobody. -/
lemma State.Owned.release {s : State} {i : Nat} {a : Answer} {client : Client} (owned : s.Owned)
    (stage : s.operations[i]? = some (.answered a client)) : (s.release i a client).Owned := by
  have its : s.Holds i client.number := ⟨_, client, stage, rfl, rfl⟩
  -- Whoever holds a connection afterwards held it before, and it is not the one put back.
  have holds {j n} (held : (s.release i a client).Holds j n) :
      s.Holds j n ∧ n ≠ client.number := by
    rcases held.of_set rfl with ⟨-, _, none_held, -⟩ | ⟨other, old⟩
    · cases none_held
    · refine ⟨old, ?_⟩
      rintro rfl
      exact other (owned.one_holder old its)
  constructor
  · unfold State.release
    simp only
    split
    · assumption
    · exact owned.few
  · unfold idleNumbers State.release
    simp only
    split
    · exact List.nodup_cons.2 ⟨owned.not_idle its, owned.apart⟩
    · exact owned.apart
  · intro j k n one other
    exact owned.one_holder (holds one).1 (holds other).1
  · intro j n held mem
    rcases mem_idleNumbers_release mem with rfl | mem
    · exact (holds held).2 rfl
    · exact owned.not_idle (holds held).1 mem
  · intro n mem
    rcases mem_idleNumbers_release mem with rfl | mem
    · exact owned.held_opened its
    · exact owned.idle_opened mem
  · intro j n held
    exact owned.held_opened (holds held).1

/-- How connections change hands: none does, or an operation takes one, opens one or gives it back.
-/
inductive State.Handover (s : State) : State → Prop
  | none {s' : State} :
    s'.idle = s.idle →
    s'.opened = s.opened →
    (∀ {i n}, s'.Holds i n → s.Holds i n) →
    Handover s s'
  | taken {c : Command} {client : Client} {idle : List Client} :
    s.idle = client :: idle →
    Handover s { s with idle, operations := s.operations ++ [.ready c client] }
  | opened {i : Nat} {c : Command} :
    Handover s
      { s with
        opened := s.opened + 1
        operations := s.operations.set i (.ready c ⟨s.opened, []⟩) }
  | released {i : Nat} {a : Answer} {client : Client} :
    s.operations[i]? = some (.answered a client) →
    Handover s (s.release i a client)

/-- If an operation goes on with the client that it held or without one, no connection changes
hands. -/
lemma State.Handover.of_set {s s' : State} {i : Nat} {stage stage' : Stage}
    (here : s.operations[i]? = some stage)
    (set : s'.operations = s.operations.set i stage')
    (idle : s'.idle = s.idle) (opened : s'.opened = s.opened)
    (keeps : ∀ {k}, stage'.client? = some k →
      ∃ client, stage.client? = some client ∧ k.number = client.number) :
    Handover s s' := by
  refine .none idle opened fun held => ?_
  rcases held.of_set set with ⟨rfl, k, its, rfl⟩ | ⟨-, old⟩
  · obtain ⟨client, was_its, same⟩ := keeps its
    exact ⟨stage, client, here, was_its, same.symm⟩
  · exact old

/-- At every move connections change hands in one of these ways. -/
lemma Wire.Move.handover {w w' : Wire} (moves : Wire.Move w w') :
    w.pool.Handover w'.pool := by
  cases moves with
  | stay => exact .none rfl rfl id
  | take first => exact .taken first
  | dial _ =>
    refine .none rfl rfl fun held => ?_
    rcases held.of_append rfl with ⟨-, _, none_held, -⟩ | old
    · cases none_held
    · exact old
  | opened _ => exact .opened
  | sent stage => exact .of_set stage rfl rfl rfl fun its => ⟨_, rfl, receive_client? its⟩
  | failed stage _ => exact .of_set stage rfl rfl rfl nofun
  | released stage => exact .released stage
  | answered _ => exact .none rfl rfl id
  | delivered stage =>
    refine .of_set stage rfl rfl rfl fun its => ?_
    have same := receive_client? its
    exact ⟨_, rfl, same⟩

/-- Whatever happens, connections belong to one operation or are idle. -/
theorem State.Owned.handover {s s' : State} (owned : s.Owned) (hands : s.Handover s') :
    s'.Owned := by
  cases hands with
  | none idle opened holds => exact owned.narrow idle opened holds
  | taken first => exact owned.take first
  | opened => exact owned.open
  | released stage => exact owned.release stage

/-! ## Connections out of use -/

/-- The connection was opened, and it is neither idle nor held. -/
structure State.Retired (s : State) (n : Nat) : Prop where
  opened : n < s.opened
  not_idle : n ∉ s.idleNumbers
  not_held : ∀ i, ¬ s.Holds i n

/-- A connection that is out of use stays out of use. -/
theorem State.Retired.handover {s s' : State} {n : Nat} (retired : s.Retired n)
    (hands : s.Handover s') : s'.Retired n := by
  obtain ⟨opened, not_idle, not_held⟩ := retired
  cases hands with
  | none idle opened' holds =>
    refine ⟨opened' ▸ opened, ?_, fun i held => not_held i (holds held)⟩
    rw [idleNumbers, idle]
    exact not_idle
  -- What is taken was idle, and the retired connection is not.
  | @taken c client idle first =>
    have numbers : s.idleNumbers = client.number :: idle.map Client.number := by
      rw [idleNumbers, first, List.map_cons]
    rw [numbers] at not_idle
    refine ⟨opened, fun mem => not_idle (List.mem_cons_of_mem _ mem), fun i held => ?_⟩
    rcases held.of_append rfl with ⟨-, _, its, rfl⟩ | old
    · cases its
      exact not_idle List.mem_cons_self
    · exact not_held i old
  -- A connection that is opened has a number above all that were opened before.
  | opened =>
    refine ⟨Nat.lt_succ_of_lt opened, not_idle, fun i held => ?_⟩
    rcases held.of_set rfl with ⟨-, _, its, rfl⟩ | ⟨-, old⟩
    · cases its
      exact absurd opened (Nat.lt_irrefl _)
    · exact not_held i old
  | @released i a client stage =>
    refine ⟨opened, fun mem => ?_, fun j held => ?_⟩
    · rcases mem_idleNumbers_release mem with rfl | mem
      · exact not_held i ⟨_, client, stage, rfl, rfl⟩
      · exact not_idle mem
    · rcases held.of_set rfl with ⟨-, _, none_held, -⟩ | ⟨-, old⟩
      · cases none_held
      · exact not_held j old

/-! ## What becomes of an operation that holds a connection -/

/-- The operation holds the connection, or it has come to an end: well, or with the connection out
of use. -/
inductive State.Serves (s : State) (i n : Nat) : Prop
  | holds : s.Holds i n → Serves s i n
  | succeeded {a : Answer} : s.operations[i]? = some (.done (.ok a)) → Serves s i n
  | failed {e : Error} : s.operations[i]? = some (.done (.error e)) → s.Retired n → Serves s i n

/-- What an operation was told in the end stays so. -/
lemma Wire.Move.done {w w' : Wire} {i : Nat} {result : Except Error Answer}
    (moves : Wire.Move w w') (ended : w.pool.operations[i]? = some (.done result)) :
    w'.pool.operations[i]? = some (.done result) := by
  -- No move is one of an operation that has come to an end.
  have other {j : Nat} {stage stage' : Stage} (here : w.pool.operations[j]? = some stage)
      (runs : stage ≠ .done result) :
      (w.pool.operations.set j stage')[i]? = some (.done result) := by
    rw [List.getElem?_set_ne, ended]
    rintro rfl
    rw [ended] at here
    exact runs (Option.some.inj here).symm
  cases moves with
  | stay => exact ended
  | take _ => exact (List.getElem?_append_left (lt_length_of_getElem? ended)).trans ended
  | dial _ => exact (List.getElem?_append_left (lt_length_of_getElem? ended)).trans ended
  | opened stage => exact other stage nofun
  | sent stage => exact other stage nofun
  | failed stage runs => exact other stage (runs result)
  | released stage => exact other stage nofun
  | answered _ => exact ended
  | delivered stage => exact other stage nofun

/-- An operation whose new stage has a connection holds it. -/
lemma State.Holds.set_self {s s' : State} {i n : Nat} {stage : Stage} {client : Client}
    (here : i < s.operations.length) (set : s'.operations = s.operations.set i stage)
    (its : stage.client? = some client) (number : client.number = n) : s'.Holds i n := by
  refine ⟨stage, client, ?_, its, number⟩
  rw [set, List.getElem?_set_self here]

/-- An operation holds what it did when another one comes to a new stage. -/
lemma State.Holds.set_ne {s s' : State} {i j n : Nat} {stage : Stage} (holds : s.Holds i n)
    (other : j ≠ i) (set : s'.operations = s.operations.set j stage) : s'.Holds i n := by
  obtain ⟨stage', client, here, its, number⟩ := holds
  refine ⟨stage', client, ?_, its, number⟩
  rw [set, List.getElem?_set_ne other, here]

/-- An operation holds what it did when another one begins. -/
lemma State.Holds.append {s s' : State} {i n : Nat} {stage : Stage} (holds : s.Holds i n)
    (append : s'.operations = s.operations ++ [stage]) : s'.Holds i n := by
  obtain ⟨stage', client, here, its, number⟩ := holds
  refine ⟨stage', client, ?_, its, number⟩
  rw [append, List.getElem?_append_left (lt_length_of_getElem? here), here]

/-- The connection of an operation that fails is out of use. -/
lemma State.Serves.of_failed {s s' : State} {i n : Nat} {e : Error} (owned : s.Owned)
    (held : s.Holds i n) (idle : s'.idle = s.idle) (opened : s'.opened = s.opened)
    (set : s'.operations = s.operations.set i (.done (.error e))) : s'.Serves i n := by
  have ended : s'.operations[i]? = some (.done (.error e)) := by
    obtain ⟨_, _, here, -⟩ := held
    rw [set, List.getElem?_set_self (lt_length_of_getElem? here)]
  refine .failed ended ⟨?_, ?_, fun j holds => ?_⟩
  · rw [opened]
    exact owned.held_opened held
  · rw [idleNumbers, idle]
    exact owned.not_idle held
  · rcases holds.of_set set with ⟨-, _, none_held, -⟩ | ⟨other, old⟩
    · cases none_held
    · exact other (owned.one_holder old held)

/-- An operation that reads a reply goes on with its client or fails. -/
lemma State.Serves.of_receive {s s' : State} {i n : Nat} {c : Command} {client : Client}
    (owned : s.Owned) (held : s.Holds i n) (idle : s'.idle = s.idle) (opened : s'.opened = s.opened)
    (set : s'.operations = s.operations.set i (receive c client)) (number : client.number = n) :
    s'.Serves i n := by
  have long : i < s.operations.length := by
    obtain ⟨_, _, here, -⟩ := held
    exact lt_length_of_getElem? here
  unfold receive at set
  split at set
  · exact .holds (.set_self long set rfl number)
  · exact .of_failed owned held idle opened set
  · split at set
    · exact .holds (.set_self long set rfl number)
    · exact .of_failed owned held idle opened set

/-- At every move an operation keeps its connection, succeeds, or fails and takes its connection out
of use. -/
theorem State.Serves.move {w w' : Wire} {i n : Nat} (serves : w.pool.Serves i n)
    (owned : w.pool.Owned) (moves : Wire.Move w w') : w'.pool.Serves i n := by
  cases serves with
  | succeeded ended => exact .succeeded (moves.done ended)
  | failed ended retired => exact .failed (moves.done ended) (retired.handover moves.handover)
  | holds held =>
    obtain ⟨stage, client, here, its, rfl⟩ := id held
    cases moves with
    | stay => exact .holds held
    | take _ => exact .holds (held.append rfl)
    | dial _ => exact .holds (held.append rfl)
    -- The operation holds a connection already, so the one that is opened is for another.
    | @opened j c stage' =>
      refine .holds (held.set_ne ?_ rfl)
      rintro rfl
      rw [here] at stage'
      cases stage'
      cases its
    | @sent j c k stage' =>
      by_cases same : j = i
      · subst same
        rw [here] at stage'
        cases stage'
        cases its
        exact .of_receive owned held rfl rfl rfl rfl
      · exact .holds (held.set_ne same rfl)
    | @failed j stage' e here' _ =>
      by_cases same : j = i
      · subst same
        exact .of_failed owned held rfl rfl rfl
      · exact .holds (held.set_ne same rfl)
    | @released j a k stage' =>
      by_cases same : j = i
      · subst same
        exact .succeeded (List.getElem?_set_self (lt_length_of_getElem? here))
      · exact .holds (held.set_ne same rfl)
    | answered _ => exact .holds held
    | @delivered j c k count stage' =>
      by_cases same : j = i
      · subst same
        rw [here] at stage'
        cases stage'
        cases its
        exact .of_receive owned held rfl rfl rfl rfl
      · exact .holds (held.set_ne same rfl)

end MetadataGateway.Cache.Pool
