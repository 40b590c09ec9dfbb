import MetadataGateway.Proofs.Cache.Ownership

/-!
# Operations do not disturb each other

An idle client is at rest: every command that was sent on its connection has been answered, and the
answers have been read. So an operation that takes it reads the reply to its own command, and an
operation that fails keeps its client from ever being used again. These facts hold together or not
at all, so `Wire.Sound` states them at once; every move preserves it (`Wire.Sound.move`), and
`Wire.isolation` is what it says of whatever happens.
-/

namespace MetadataGateway.Cache.Pool

open Relation (ReflTransGen)

/-! ## What has come on a connection -/

/-- What a reply says in answer to a command. -/
inductive Conveys : Command → Reply → Answer → Prop
  | hit {key : List UInt8} {item : Item} : Conveys (.get key) (.items [item]) (.hit item.payload)
  | empty {key : List UInt8} : Conveys (.get key) (.items []) .miss
  | absent {key : List UInt8} : Conveys (.get key) .notFound .miss
  | stored {key payload : List UInt8} : Conveys (.set key payload) .stored .stored

/-- A reply conveys what it means to a command. -/
lemma conveys_of_meaning {c : Command} {r : Reply} {a : Answer} (means : meaning c r = .ok a) :
    Conveys c r a := by
  unfold meaning at means
  split at means
  · cases means
    exact .empty
  · cases means
    exact .absent
  · cases means
    exact .hit
  · cases means
    exact .stored
  · cases means

namespace Wire

/-- The store has given a reply to the command of an operation: on some connection the two stand at
the same place, one among the replies and one among the commands. -/
def Replied (w : Wire) (i : Nat) (c : Command) (r : Reply) : Prop :=
  ∃ (n j : Nat) (reply : RegularReply),
    (w.sentOn n)[j]? = some (⟨i, n⟩, c) ∧ (w.replies n)[j]? = some reply ∧ reply.1 = r

/-- Every command on a connection has been answered, and nothing is on its way on it. -/
def Quiet (w : Wire) (n : Nat) : Prop :=
  (w.replies n).length = (w.sentOn n).length ∧ w.onWay n = []

/-- A client at rest: its connection is quiet, and all that came on it has been read. -/
def Clean (w : Wire) (client : Client) : Prop :=
  w.Quiet client.number ∧ client.unread = []

/-- An operation has sent no command. -/
def Unsent (w : Wire) (i : Nat) : Prop :=
  ∀ e ∈ w.pool.sent, e.1.operation ≠ i

/-- How an operation that is so far stands to the store. -/
inductive Fits (w : Wire) (i : Nat) : Stage → Prop
  | connecting {c : Command} :
    w.begun[i]? = some c →
    w.Unsent i →
    Fits w i (.connecting c)
  | ready {c : Command} {client : Client} :
    w.begun[i]? = some c →
    w.Unsent i →
    w.Clean client →
    Fits w i (.ready c client)
  | unanswered {c : Command} {n : Nat} {old : List (Sender × Command)} :
    w.begun[i]? = some c →
    w.sentOn n = old ++ [(⟨i, n⟩, c)] →
    (w.replies n).length = old.length →
    w.onWay n = [] →
    Fits w i (.waiting c ⟨n, []⟩)
  | answering {c : Command} {n : Nat} {unread lost : List UInt8} {old : List (Sender × Command)}
      {given : List RegularReply} {r : RegularReply} :
    w.begun[i]? = some c →
    w.sentOn n = old ++ [(⟨i, n⟩, c)] →
    w.replies n = given ++ [r] →
    given.length = old.length →
    unread ++ (w.onWay n ++ lost) = r.1.encode →
    Fits w i (.waiting c ⟨n, unread⟩)
  | answered {c : Command} {r : Reply} {a : Answer} {client : Client} :
    w.begun[i]? = some c →
    w.Replied i c r →
    Conveys c r a →
    w.Clean client →
    Fits w i (.answered a client)
  | told {c : Command} {r : Reply} {a : Answer} :
    w.begun[i]? = some c →
    w.Replied i c r →
    Conveys c r a →
    Fits w i (.done (.ok a))
  | failed {e : Error} : Fits w i (.done (.error e))

/-- The record of a connection is the same. -/
def Agree (w w' : Wire) (n : Nat) : Prop :=
  w'.sentOn n = w.sentOn n ∧ w'.replies n = w.replies n ∧ w'.onWay n = w.onWay n

/-- What is on record stays on record. -/
structure Grows (w w' : Wire) : Prop where
  begun : ∀ {i : Nat} {c : Command}, w.begun[i]? = some c → w'.begun[i]? = some c
  sent : ∀ n, w.sentOn n <+: w'.sentOn n
  replies : ∀ n, w.replies n <+: w'.replies n

/-- A connection that agrees with a quiet one is quiet. -/
lemma Quiet.agree {w w' : Wire} {n : Nat} (quiet : w.Quiet n) (agree : Agree w w' n) :
    w'.Quiet n := by
  obtain ⟨sent, replies, onWay⟩ := agree
  unfold Quiet
  rw [sent, replies, onWay]
  exact quiet

/-- What has been sent on a connection stays sent where wires agree on it. -/
lemma Agree.sent {w w' : Wire} {n : Nat} (agree : Agree w w' n) : w.sentOn n <+: w'.sentOn n :=
  ⟨[], (List.append_nil _).trans agree.1.symm⟩

/-- What has been replied on a connection stays replied where wires agree on it. -/
lemma Agree.replies {w w' : Wire} {n : Nat} (agree : Agree w w' n) : w.replies n <+: w'.replies n :=
  ⟨[], (List.append_nil _).trans agree.2.1.symm⟩

/-- A command that is replied to stays so while the wire grows. -/
lemma Replied.grow {w w' : Wire} {i : Nat} {c : Command} {r : Reply} (replied : w.Replied i c r)
    (grows : Grows w w') : w'.Replied i c r := by
  obtain ⟨n, j, reply, sent, given, its⟩ := replied
  exact ⟨n, j, reply, getElem?_of_front (grows.sent n) sent,
    getElem?_of_front (grows.replies n) given, its⟩

/-- An operation stands as it stood if nothing happened on the connection that it holds. -/
lemma Fits.frame {w w' : Wire} {i : Nat} {stage : Stage} (fits : w.Fits i stage)
    (grows : Grows w w') (unsent : w.Unsent i → w'.Unsent i)
    (agree : ∀ client, stage.client? = some client → Agree w w' client.number) :
    w'.Fits i stage := by
  cases fits with
  | connecting begun not_sent => exact .connecting (grows.begun begun) (unsent not_sent)
  | ready begun not_sent clean =>
    exact .ready (grows.begun begun) (unsent not_sent) ⟨clean.1.agree (agree _ rfl), clean.2⟩
  | unanswered begun sent owed nothing =>
    obtain ⟨sent', replies', onWay'⟩ := agree _ rfl
    refine .unanswered (grows.begun begun) (sent'.trans sent) ?_ (onWay'.trans nothing)
    rw [replies', owed]
  | answering begun sent given length front =>
    obtain ⟨sent', replies', onWay'⟩ := agree _ rfl
    dsimp only at onWay'
    rw [← onWay'] at front
    exact .answering (grows.begun begun) (sent'.trans sent) (replies'.trans given) length front
  | answered begun replied means clean =>
    exact .answered (grows.begun begun) (replied.grow grows) means
      ⟨clean.1.agree (agree _ rfl), clean.2⟩
  | told begun replied means => exact .told (grows.begun begun) (replied.grow grows) means
  | failed => exact .failed

/-- An operation that reads what has come reads the reply to its own command, or waits, or fails. -/
lemma Fits.receive {w : Wire} {i : Nat} {c : Command} {client : Client}
    (fits : w.Fits i (.waiting c client)) : w.Fits i (receive c client) := by
  have waits := fits
  cases fits with
  | unanswered begun sent owed nothing => exact waits
  -- What has come is the front of one reply, so if a reply is read it is that one, and all of it.
  | @answering _ n unread lost old given r begun sent replies length front =>
    unfold Pool.receive
    cases read : Reply.decode unread with
    | more => exact waits
    | refused => exact .failed
    | done r' rest =>
      obtain ⟨rfl, rfl, none_left⟩ := Reply.decode_of_append_eq_encode r.2 front read
      have onWay := (List.append_eq_nil_iff.1 none_left).1
      dsimp only
      cases means : meaning c r.1 with
      | error e => exact .failed
      | ok a =>
        have replied : w.Replied i c r.1 := by
          refine ⟨n, old.length, r, ?_, ?_, rfl⟩
          · rw [sent, List.getElem?_concat_length]
          · rw [replies, ← length, List.getElem?_concat_length]
        have quiet : w.Quiet n := by
          refine ⟨?_, onWay⟩
          rw [sent, replies, List.length_append, List.length_append, length]
          rfl
        exact .answered begun replied (conveys_of_meaning means) ⟨quiet, rfl⟩

/-! ## What always holds -/

/-- Connections belong to one operation or are idle; an operation sends one command; connections
that are not open are quiet, idle clients are at rest, and operations stand to the store as they
should. -/
structure Sound (w : Wire) : Prop where
  owned : w.pool.Owned
  recorded : w.begun.length = w.pool.operations.length
  once : (w.pool.sent.map fun e => e.1.operation).Nodup
  senders : ∀ {e}, e ∈ w.pool.sent → e.1.operation < w.pool.operations.length
  unopened : ∀ {n}, w.pool.opened ≤ n → w.Quiet n
  clean : ∀ {client}, client ∈ w.pool.idle → w.Clean client
  fits : ∀ {i stage}, w.pool.operations[i]? = some stage → w.Fits i stage

/-- A wire on which nothing has happened is sound. -/
lemma sound_initial : Sound initial where
  owned :=
    { few := Nat.zero_le _
      apart := List.nodup_nil
      one_holder := by
        rintro i j n ⟨stage, client, here, -⟩
        cases here
      not_idle := by
        intro i n held mem
        cases mem
      idle_opened := by
        intro n mem
        cases mem
      held_opened := by
        rintro i n ⟨stage, client, here, -⟩
        cases here }
  recorded := rfl
  once := List.nodup_nil
  senders mem := by cases mem
  unopened _ := ⟨rfl, rfl⟩
  clean mem := by cases mem
  fits here := by cases here

/-- A move that gives no command and no reply and takes no octets from their way. -/
lemma Sound.quietly {w w' : Wire} (sound : w.Sound) (moves : Move w w')
    (begun : w.begun <+: w'.begun) (recorded : w'.begun.length = w'.pool.operations.length)
    (sent : w'.pool.sent = w.pool.sent) (replies : w'.replies = w.replies)
    (onWay : w'.onWay = w.onWay) (opened : w.pool.opened ≤ w'.pool.opened)
    (length : w.pool.operations.length ≤ w'.pool.operations.length)
    (idle : ∀ {client}, client ∈ w'.pool.idle → w.Clean client)
    (fits : ∀ {i stage}, w'.pool.operations[i]? = some stage →
      w.pool.operations[i]? = some stage ∨ w'.Fits i stage) : w'.Sound := by
  -- Nothing is written or comes in: every connection carries what it carried.
  have agree (n : Nat) : Agree w w' n := by
    unfold Agree sentOn
    rw [sent, replies, onWay]
    exact ⟨rfl, rfl, rfl⟩
  have grows : Grows w w' :=
    ⟨getElem?_of_front begun, fun n => (agree n).sent, fun n => (agree n).replies⟩
  constructor
  · exact sound.owned.handover moves.handover
  · exact recorded
  · rw [sent]
    exact sound.once
  · intro e mem
    rw [sent] at mem
    exact Nat.lt_of_lt_of_le (sound.senders mem) length
  · intro n le
    exact (sound.unopened (Nat.le_trans opened le)).agree (agree n)
  · intro client mem
    exact ⟨(idle mem).1.agree (agree _), (idle mem).2⟩
  · intro i stage here
    rcases fits here with old | new
    · refine (sound.fits old).frame grows ?_ fun client _ => agree client.number
      unfold Unsent
      rw [sent]
      exact id
    · exact new

/-- A move on one connection, which is open and not idle. -/
lemma Sound.locally {w w' : Wire} {n : Nat} (sound : w.Sound) (moves : Move w w')
    (busy : n < w.pool.opened ∧ n ∉ w.pool.idleNumbers)
    (same : w'.begun = w.begun ∧ w'.pool.idle = w.pool.idle ∧ w'.pool.opened = w.pool.opened ∧
      w'.pool.operations.length = w.pool.operations.length)
    (once : (w'.pool.sent.map fun e => e.1.operation).Nodup)
    (senders : ∀ {e}, e ∈ w'.pool.sent → e.1.operation < w.pool.operations.length)
    (agree : ∀ m, m ≠ n → Agree w w' m)
    (fits : ∀ {i stage}, w'.pool.operations[i]? = some stage → w'.Fits i stage) : w'.Sound := by
  obtain ⟨begun, idle, opened, length⟩ := same
  constructor
  · exact sound.owned.handover moves.handover
  · rw [begun, length]
    exact sound.recorded
  · exact once
  · rw [length]
    exact senders
  · intro m le
    rw [opened] at le
    refine (sound.unopened le).agree (agree m ?_)
    rintro rfl
    exact absurd busy.1 (Nat.not_lt.2 le)
  · intro client mem
    rw [idle] at mem
    obtain ⟨quiet, read⟩ := sound.clean mem
    refine ⟨quiet.agree (agree _ ?_), read⟩
    rintro rfl
    exact busy.2 (List.mem_map_of_mem mem)
  · exact fits

/-- The connection that an operation holds is open and not idle. -/
lemma Sound.busy {w : Wire} {i n : Nat} (sound : w.Sound) (held : w.pool.Holds i n) :
    n < w.pool.opened ∧ n ∉ w.pool.idleNumbers :=
  ⟨sound.owned.held_opened held, sound.owned.not_idle held⟩

/-- An operation that takes an idle connection leaves the wire sound. -/
lemma Sound.take {w : Wire} {c : Command} {client : Client} {idle : List Client} (sound : w.Sound)
    (first : w.pool.idle = client :: idle) :
    Sound
      { w with
        pool := { w.pool with idle, operations := w.pool.operations ++ [.ready c client] }
        begun := w.begun ++ [c] } := by
  refine sound.quietly (.take first) (List.prefix_append _ _) ?_ rfl rfl rfl (Nat.le_refl _)
    ?_ ?_ ?_
  · simp only [List.length_append, sound.recorded, List.length_singleton]
  · simp only [List.length_append]
    exact Nat.le_add_right _ _
  · intro k mem
    refine sound.clean ?_
    rw [first]
    exact List.mem_cons_of_mem _ mem
  · intro i stage here
    rcases getElem?_of_concat here with ⟨rfl, rfl⟩ | old
    · refine .inr (.ready ?_ ?_ ?_)
      · rw [← sound.recorded, List.getElem?_concat_length]
      · intro e mem same
        exact absurd (sound.senders mem) (same ▸ Nat.lt_irrefl _)
      · refine sound.clean ?_
        rw [first]
        exact List.mem_cons_self
    · exact .inl old

/-- An operation that begins to connect leaves the wire sound. -/
lemma Sound.dial {w : Wire} {c : Command} (sound : w.Sound) (none_idle : w.pool.idle = []) :
    Sound
      { w with
        pool := { w.pool with operations := w.pool.operations ++ [.connecting c] }
        begun := w.begun ++ [c] } := by
  refine sound.quietly (.dial none_idle) (List.prefix_append _ _) ?_ rfl rfl rfl (Nat.le_refl _) ?_
    sound.clean ?_
  · simp only [List.length_append, sound.recorded, List.length_singleton]
  · simp only [List.length_append]
    exact Nat.le_add_right _ _
  · intro i stage here
    rcases getElem?_of_concat here with ⟨rfl, rfl⟩ | old
    · refine .inr (.connecting ?_ ?_)
      · rw [← sound.recorded, List.getElem?_concat_length]
      · intro e mem same
        exact absurd (sound.senders mem) (same ▸ Nat.lt_irrefl _)
    · exact .inl old

/-- A connection that is opened for an operation leaves the wire sound. -/
lemma Sound.open {w : Wire} {i : Nat} {c : Command} (sound : w.Sound)
    (stage : w.pool.operations[i]? = some (.connecting c)) :
    Sound
      { w with
        pool :=
          { w.pool with
            opened := w.pool.opened + 1
            operations := w.pool.operations.set i (.ready c ⟨w.pool.opened, []⟩) } } := by
  refine sound.quietly (.opened stage) (List.prefix_refl _) ?_ rfl rfl rfl (Nat.le_succ _) ?_
    sound.clean ?_
  · rw [List.length_set]
    exact sound.recorded
  · rw [List.length_set]
  · intro j stage' here
    rcases getElem?_of_set here with ⟨rfl, rfl⟩ | ⟨-, old⟩
    · cases sound.fits stage with
      | connecting begun unsent =>
        exact .inr (.ready begun unsent ⟨sound.unopened (Nat.le_refl _), rfl⟩)
    · exact .inl old

/-- An operation that fails leaves the wire sound. -/
lemma Sound.fail {w : Wire} {i : Nat} {stage : Stage} {e : Error} (sound : w.Sound)
    (here : w.pool.operations[i]? = some stage) (runs : ∀ result, stage ≠ .done result) :
    Sound { w with pool := w.pool.setStage i (.done (.error e)) } := by
  refine sound.quietly (.failed here runs) (List.prefix_refl _) ?_ rfl rfl rfl (Nat.le_refl _) ?_
    sound.clean ?_
  · exact sound.recorded.trans List.length_set.symm
  · exact Nat.le_of_eq List.length_set.symm
  · intro j stage' here'
    rcases getElem?_of_set here' with ⟨rfl, rfl⟩ | ⟨-, old⟩
    · exact .inr .failed
    · exact .inl old

/-- An operation that gives its connection back leaves the wire sound. -/
lemma Sound.release {w : Wire} {i : Nat} {a : Answer} {client : Client} (sound : w.Sound)
    (stage : w.pool.operations[i]? = some (.answered a client)) :
    Sound { w with pool := w.pool.release i a client } := by
  cases sound.fits stage with
  | answered begun replied means clean =>
    refine sound.quietly (.released stage) (List.prefix_refl _) ?_ rfl rfl rfl (Nat.le_refl _) ?_
      ?_ ?_
    · exact sound.recorded.trans List.length_set.symm
    · exact Nat.le_of_eq List.length_set.symm
    · intro k mem
      unfold State.release at mem
      dsimp only at mem
      split at mem
      · rcases List.mem_cons.1 mem with rfl | mem
        · exact clean
        · exact sound.clean mem
      · exact sound.clean mem
    · intro j stage' here
      rcases getElem?_of_set here with ⟨rfl, rfl⟩ | ⟨-, old⟩
      · exact .inr (.told begun replied means)
      · exact .inl old

/-- The command is the last that was sent on its connection, and nothing was sent on the others. -/
lemma sentOn_send (w : Wire) (i m : Nat) (c : Command) (client : Client) :
    (w.send i c client).sentOn m =
      w.sentOn m ++ if client.number = m then [(⟨i, client.number⟩, c)] else [] := by
  unfold sentOn send
  rw [List.filter_append, List.filter_singleton]
  by_cases same : client.number = m <;> simp [same]

/-- A command that is sent changes nothing on the other connections. -/
lemma agree_send (w : Wire) {i m : Nat} (c : Command) {client : Client}
    (other : m ≠ client.number) :
    Agree w (w.send i c client) m := by
  refine ⟨?_, rfl, rfl⟩
  rw [sentOn_send, if_neg (Ne.symm other), List.append_nil]

/-- A wire grows by a command that is sent. -/
lemma grows_send (w : Wire) (i : Nat) (c : Command) (client : Client) :
    Grows w (w.send i c client) := by
  refine ⟨id, fun m => ?_, fun m => List.prefix_refl _⟩
  rw [sentOn_send]
  exact List.prefix_append _ _

/-- A command that is sent on a connection of its operation leaves the wire sound. -/
lemma Sound.send {w : Wire} {i : Nat} {c : Command} {client : Client} (sound : w.Sound)
    (stage : w.pool.operations[i]? = some (.ready c client)) : (w.send i c client).Sound := by
  have held : w.pool.Holds i client.number := ⟨_, _, stage, rfl, rfl⟩
  cases sound.fits stage with
  | ready begun unsent clean =>
    refine sound.locally (.sent stage) (sound.busy held) ⟨rfl, rfl, rfl, List.length_set⟩ ?_ ?_
      (fun m => agree_send w c) ?_
    · -- The operation has sent nothing before, so its number is new in the log.
      unfold Wire.send
      rw [List.map_append]
      refine List.nodup_append.2 ⟨sound.once, List.nodup_singleton _, ?_⟩
      intro j old k new
      obtain ⟨e, mem, rfl⟩ := List.mem_map.1 old
      cases List.mem_singleton.1 new
      exact unsent e mem
    · intro e mem
      rcases List.mem_append.1 mem with old | new
      · exact sound.senders old
      · cases List.mem_singleton.1 new
        exact lt_length_of_getElem? stage
    · intro j stage' here
      rcases getElem?_of_set here with ⟨rfl, rfl⟩ | ⟨other, old⟩
      · -- The client was at rest, so the command is the only one without an answer.
        obtain ⟨n, unread⟩ := client
        obtain ⟨⟨answered, nothing⟩, rfl⟩ := clean
        have sent := sentOn_send w j n c ⟨n, []⟩
        rw [if_pos rfl] at sent
        exact .receive (.unanswered begun sent answered nothing)
      · refine (sound.fits old).frame (grows_send w i c client) ?_ fun k its => agree_send w c ?_
        · intro unsent' e mem
          rcases List.mem_append.1 mem with old | new
          · exact unsent' e old
          · cases List.mem_singleton.1 new
            exact Ne.symm other
        · intro same
          exact other (sound.owned.one_holder ⟨_, k, old, its, same⟩ held)

/-- A reply changes nothing on the other connections. -/
lemma agree_answer (w : Wire) {n m : Nat} (r : RegularReply) (count : Nat) (other : m ≠ n) :
    Agree w (w.answer n r count) m :=
  ⟨rfl, Function.update_of_ne other _ _, Function.update_of_ne other _ _⟩

/-- A wire grows by a reply. -/
lemma grows_answer (w : Wire) (n : Nat) (r : RegularReply) (count : Nat) :
    Grows w (w.answer n r count) := by
  refine ⟨id, fun m => List.prefix_refl _, fun m => ?_⟩
  by_cases same : m = n
  · subst same
    rw [replies_answer]
    exact List.prefix_append _ _
  · exact (agree_answer w r count same).replies

/-- A reply to a command that has none yet leaves the wire sound. -/
lemma Sound.answer {w : Wire} {n : Nat} {r : RegularReply} {count : Nat} (sound : w.Sound)
    (owed : (w.replies n).length < (w.sentOn n).length) : (w.answer n r count).Sound := by
  have not_quiet : ¬ w.Quiet n := by
    rintro ⟨answered, -⟩
    exact absurd owed (answered ▸ Nat.lt_irrefl _)
  have busy : n < w.pool.opened ∧ n ∉ w.pool.idleNumbers := by
    refine ⟨Nat.lt_of_not_le fun le => not_quiet (sound.unopened le), fun mem => not_quiet ?_⟩
    obtain ⟨client, idle, rfl⟩ := List.mem_map.1 mem
    exact (sound.clean idle).1
  refine sound.locally (.answered owed) busy ⟨rfl, rfl, rfl, rfl⟩ sound.once sound.senders
    (fun m => agree_answer w r count) ?_
  intro i stage here
  by_cases its : ∃ client, stage.client? = some client ∧ client.number = n
  · -- The operation that holds the connection waits for this reply.
    obtain ⟨client, its, rfl⟩ := its
    cases sound.fits here with
    | connecting => cases its
    | ready _ _ clean =>
      cases its
      exact absurd clean.1 not_quiet
    | @unanswered c n old begun sent answered nothing =>
      cases its
      have given := replies_answer w n r count
      have front : [] ++ ((w.answer n r count).onWay n ++ r.1.encode.drop count) = r.1.encode := by
        rw [onWay_answer, nothing]
        exact List.take_append_drop _ _
      exact .answering begun sent given answered front
    | answering _ sent given length _ =>
      cases its
      dsimp only at owed
      rw [sent, given, List.length_append, List.length_append, length] at owed
      exact absurd owed (Nat.lt_irrefl _)
    | answered _ _ _ clean =>
      cases its
      exact absurd clean.1 not_quiet
    | told => cases its
    | failed => cases its
  · refine (sound.fits here).frame (grows_answer w n r count) id fun client held => ?_
    exact agree_answer w r count fun same => its ⟨client, held, same⟩

/-- Octets that are delivered to the operation that waits for them leave the wire sound. -/
lemma Sound.deliver {w : Wire} {i : Nat} {c : Command} {client : Client} {count : Nat}
    (sound : w.Sound) (stage : w.pool.operations[i]? = some (.waiting c client)) :
    (w.deliver i c client count).Sound := by
  have held : w.pool.Holds i client.number := ⟨_, _, stage, rfl, rfl⟩
  have agree (m : Nat) (other : m ≠ client.number) : Agree w (w.deliver i c client count) m :=
    ⟨rfl, rfl, Function.update_of_ne other _ _⟩
  refine sound.locally (.delivered stage) (sound.busy held) ⟨rfl, rfl, rfl, List.length_set⟩
    sound.once sound.senders agree ?_
  intro j stage' here
  rcases getElem?_of_set here with ⟨rfl, rfl⟩ | ⟨other, old⟩
  · refine .receive ?_
    cases sound.fits stage with
    | @unanswered c n old begun sent answered nothing =>
      have onWay := onWay_deliver w j c ⟨n, []⟩ count
      dsimp only at onWay
      rw [nothing, List.drop_nil] at onWay
      simp only [nothing, List.take_nil, List.append_nil]
      exact .unanswered begun sent answered onWay
    | @answering c n unread lost old given r begun sent replies length front =>
      -- Octets go over from the way to the client; in a row they are the reply as before.
      have moved : unread ++ (w.onWay n).take count ++
          ((w.deliver j c ⟨n, unread⟩ count).onWay n ++ lost) = r.1.encode := by
        have onWay := onWay_deliver w j c ⟨n, unread⟩ count
        dsimp only at onWay
        rw [onWay, List.append_assoc, ← List.append_assoc ((w.onWay n).take count),
          List.take_append_drop, front]
      exact .answering begun sent replies length moved
  · refine (sound.fits old).frame ⟨id, fun n => List.prefix_refl _, fun n => List.prefix_refl _⟩ id
      fun k its => agree _ fun same => other ?_
    exact sound.owned.one_holder ⟨_, k, old, its, same⟩ held

/-- Every move preserves what always holds. -/
theorem Sound.move {w w' : Wire} (sound : w.Sound) (moves : Move w w') : w'.Sound := by
  cases moves with
  | stay => exact sound
  | take first => exact sound.take first
  | dial none_idle => exact sound.dial none_idle
  | opened stage => exact sound.open stage
  | sent stage => exact sound.send stage
  | failed stage runs => exact sound.fail stage runs
  | released stage => exact sound.release stage
  | answered owed => exact sound.answer owed
  | delivered stage => exact sound.deliver stage

/-- Any number of moves leave the wire sound. -/
lemma Sound.moves {w w' : Wire} (sound : w.Sound) (moves : ReflTransGen Move w w') : w'.Sound := by
  induction moves with
  | refl => exact sound
  | tail _ last ih => exact ih.move last

/-- Whatever happens, an operation keeps its connection, succeeds, or fails and takes its connection
out of use. -/
lemma Sound.serves {w w' : Wire} {i n : Nat} (sound : w.Sound) (serves : w.pool.Serves i n)
    (moves : ReflTransGen Move w w') : w'.pool.Serves i n := by
  induction moves with
  | refl => exact serves
  | tail before last ih => exact ih.move (sound.moves before).owned last

/-- An operation sends one command, and the store gives one reply to it. -/
lemma Sound.one_reply {w : Wire} {i : Nat} {c c' : Command} {r r' : Reply} (sound : w.Sound)
    (replied : w.Replied i c r) (replied' : w.Replied i c' r') : c' = c ∧ r' = r := by
  obtain ⟨n, j, reply, sent, given, rfl⟩ := replied
  obtain ⟨n', j', reply', sent', given', rfl⟩ := replied'
  have mem := List.mem_of_mem_filter (List.mem_of_getElem? sent)
  have mem' := List.mem_of_mem_filter (List.mem_of_getElem? sent')
  have same := List.inj_on_of_nodup_map sound.once mem mem' rfl
  cases same
  have apart : (w.sentOn n).Nodup := (List.Nodup.of_map _ sound.once).filter _
  -- The two commands are one entry of the log, which stands at one place.
  have place : j = j' :=
    (List.getElem?_inj (lt_length_of_getElem? sent) apart).1 (sent.trans sent'.symm)
  subst place
  rw [given] at given'
  cases given'
  exact ⟨rfl, rfl⟩

/-- What the operations on a pool can rely on. -/
structure Isolated (w : Wire) : Prop where
  /-- Few clients are idle. -/
  few : w.pool.idle.length ≤ maxIdle
  /-- No connection is idle twice. -/
  apart : w.pool.idleNumbers.Nodup
  /-- No connection is held by two operations. -/
  one_holder : ∀ {i j n}, w.pool.Holds i n → w.pool.Holds j n → i = j
  /-- No connection is held and idle. -/
  not_idle : ∀ {i n}, w.pool.Holds i n → n ∉ w.pool.idleNumbers
  /-- An idle client has no unanswered command and nothing left to read. -/
  clean : ∀ {client}, client ∈ w.pool.idle → w.Clean client
  /-- What an operation was told, the store told it in reply to its own command, the only one that
  it sent. -/
  own_reply : ∀ {i a}, w.pool.operations[i]? = some (.done (.ok a)) →
    ∃ c r, w.begun[i]? = some c ∧ w.Replied i c r ∧ Conveys c r a ∧
      ∀ c' r', w.Replied i c' r' → c' = c ∧ r' = r

/-- On a sound wire operations are isolated from one another. -/
lemma Sound.isolated {w : Wire} (sound : w.Sound) : w.Isolated where
  few := sound.owned.few
  apart := sound.owned.apart
  one_holder := sound.owned.one_holder
  not_idle := sound.owned.not_idle
  clean := sound.clean
  own_reply ended := by
    cases sound.fits ended with
    | told begun replied means =>
      exact ⟨_, _, begun, replied, means, fun _ _ => sound.one_reply replied⟩

/-- Whatever happens on a pool, its operations do not disturb each other, and an operation that
fails takes its connection out of use for good. -/
theorem isolation (source : String) (timeoutMs : Nat) (events later : List Event) :
    let w := run source timeoutMs events initial
    let w' := run source timeoutMs later w
    w.Isolated ∧
      ∀ i n e, w.pool.Holds i n → w'.pool.operations[i]? = some (.done (.error e)) →
        w'.pool.Retired n := by
  intro w w'
  have sound : w.Sound := sound_initial.moves (run_moves events initial)
  refine ⟨sound.isolated, fun i n e held ended => ?_⟩
  have serves : w'.pool.Serves i n := sound.serves (.holds held) (run_moves later w)
  -- It has failed, so it neither holds a connection any more nor has succeeded.
  cases serves with
  | holds held' =>
    obtain ⟨_, _, here, its, -⟩ := held'
    rw [ended] at here
    cases here
    cases its
  | succeeded told =>
    rw [ended] at told
    cases told
  | failed _ retired => exact retired

/-- A reply that comes too late is not read by the operation that comes next. -/
example :
    (run "store" 5
      [.pool (.start (.get [0x61])), .pool (.connected 0), .pool (.expire 0),
        .answer 0 ⟨.items [⟨[0x61], 0, [0x31]⟩], by simp [Reply.Regular, Item.Regular]; decide⟩ 99,
        .pool (.start (.get [0x62])), .pool (.connected 1), .answer 1 ⟨.notFound, trivial⟩ 99,
        .deliver 1 99, .pool (.release 1)] initial).pool.idle = [⟨1, []⟩] := by
  rfl

end Wire
end MetadataGateway.Cache.Pool
