import MetadataGateway.Proofs.Dispatch.Session
import MetadataGateway.Proofs.Http.Observation

/-!
# Messages side by side

Messages are handled side by side, and share a world. A message that arrives is read, and is
answered at once if it cannot be read or selects no operation. Otherwise its dispatch is a thread,
and has its turns among others. When the thread is at its end, one more turn answers the message and
records it. Anything may happen between two turns of a message, so a backend and a store are free to
do what they can do at all.

What a visit has recorded follows from how far it has come (`Visit.Sound`), and the journal is what
the visits have recorded, in some order (`Reception.sound_run`). Messages that are handled one after
another are visits too (`Reception.exists_run_eq_handleAll`).
-/

namespace MetadataGateway.Http

open Dispatch

variable {β σ : Type}

/-- How far a message has come. -/
inductive Phase where
  | dispatching (op : Operation) (t : Thread)
  | answered (response : Response) (recorded : Journal)

/-- A message on its way to its response. -/
structure Visit where
  message : Message
  phase : Phase

/-- The status that is recorded for what a dispatch has come to. -/
def recordedStatus : Except Failure Served → Nat
  | .ok _ => 200
  | .error e => e.status

/-- The status that is recorded is that of the response. -/
lemma recordedStatus_eq (result : Except Failure Served) :
    recordedStatus result = (respond result).status := by
  cases result <;> rfl

namespace Visit

/-- What has been recorded for a message. -/
def recorded (v : Visit) : Journal :=
  match v.phase with
  | .dispatching _ t => t.recorded
  | .answered _ recorded => recorded

/-- The response to a message, once there is one. -/
def response? (v : Visit) : Option Response :=
  match v.phase with
  | .dispatching .. => none
  | .answered response _ => some response

/-- A message as it arrives. -/
def arrive (g : Gateway β σ) (limit : Nat) (m : Message) : Visit :=
  match readRequest m limit with
  | .error response => ⟨m, .answered response [.request noOperation response.status]⟩
  | .ok r =>
    match select r with
    | .error e => ⟨m, .answered (failureResponse e) [.request noOperation e.status]⟩
    | .ok op => ⟨m, .dispatching op (g.arrival r)⟩

/-- One turn of a message: its dispatch has a turn, or its end is the response. -/
def turn (g : Gateway β σ) (v : Visit) (w : World β σ) : Visit × World β σ :=
  match v.phase with
  | .answered .. => (v, w)
  | .dispatching op t =>
    match t.stage with
    | .done result =>
      (⟨v.message,
          .answered (respond result) (t.recorded ++ [.request op.flag (recordedStatus result)])⟩,
        record op.flag (recordedStatus result) w)
    | _ => (⟨v.message, .dispatching op (g.turn t w).1⟩, (g.turn t w).2)

/-! ## What a visit has recorded -/

/-- A message has recorded what it must have by the time it is in its phase. -/
inductive Sound (g : Gateway β σ) (limit : Nat) : Visit → Prop where
  | unread {m response} :
    readRequest m limit = .error response →
    Sound g limit ⟨m, .answered response [.request noOperation response.status]⟩
  | unsupported {m r e} :
    readRequest m limit = .ok r →
    select r = .error e →
    Sound g limit ⟨m, .answered (failureResponse e) [.request noOperation e.status]⟩
  | dispatching {m op} {t : Thread} :
    readRequest m limit = .ok t.request →
    select t.request = .ok op →
    t.Sound g.cacheEnabled g.policy →
    Sound g limit ⟨m, .dispatching op t⟩
  | answered {m op result} {t : Thread} :
    readRequest m limit = .ok t.request →
    select t.request = .ok op →
    t.Sound g.cacheEnabled g.policy →
    t.stage = .done result →
    Sound g limit ⟨m,
      .answered (respond result) (t.recorded ++ [.request op.flag (recordedStatus result)])⟩

variable {g : Gateway β σ} {limit : Nat} {m : Message} {op : Operation} {t : Thread}

/-- A message whose dispatch is at its end is answered by what that has come to. -/
lemma turn_of_done {result : Except Failure Served} (ended : t.stage = .done result)
    (w : World β σ) :
    turn g ⟨m, .dispatching op t⟩ w =
      (⟨m, .answered (respond result) (t.recorded ++ [.request op.flag (recordedStatus result)])⟩,
        record op.flag (recordedStatus result) w) := by
  simp only [turn, ended]

/-- A message whose dispatch waits has a turn of the dispatch. -/
lemma turn_of_waits (waits : 0 < t.stage.waits) (w : World β σ) :
    turn g ⟨m, .dispatching op t⟩ w =
      (⟨m, .dispatching op (g.turn t w).1⟩, (g.turn t w).2) := by
  unfold turn
  cases stage : t.stage with
  | done result => simp [stage, Stage.waits] at waits
  | lookup | call | store => simp only [stage]

/-- A message arrives as a sound visit. -/
lemma arrive_sound (g : Gateway β σ) (limit : Nat) (m : Message) :
    (arrive g limit m).Sound g limit := by
  unfold arrive
  cases read : readRequest m limit with
  | error response => exact .unread read
  | ok r =>
    cases sel : select r with
    | error e =>
      simp only [sel]
      exact .unsupported read sel
    | ok op =>
      simp only [sel]
      have same := Session.request_arrival g r
      exact .dispatching (by rw [same, read]) (by rw [same, sel]) (g.arrival_sound r)

/-- A turn keeps a visit sound, whatever the backend and the store do. -/
lemma Sound.turn {v : Visit} (sound : v.Sound g limit) (w : World β σ) :
    (v.turn g w).1.Sound g limit := by
  cases sound with
  | unread read => exact .unread read
  | unsupported read sel => exact .unsupported read sel
  | answered read sel sound ended => exact .answered read sel sound ended
  | @dispatching m op t read sel sound =>
    obtain ⟨result, ended⟩ | waits := done_or_waits t.stage
    · rw [turn_of_done ended]
      exact .answered read sel sound ended
    · rw [turn_of_waits waits]
      exact .dispatching (t := (g.turn t w).1) read sel (sound.turn w)

/-- What a message records in a turn goes into the journal. -/
lemma journal_turn (g : Gateway β σ) (v : Visit) (w : World β σ) :
    ∃ new, (v.turn g w).1.recorded = v.recorded ++ new ∧
      (v.turn g w).2.journal = w.journal ++ new := by
  obtain ⟨m, phase⟩ := v
  cases phase with
  | answered => exact ⟨[], (List.append_nil _).symm, (List.append_nil _).symm⟩
  | dispatching op t =>
    obtain ⟨result, ended⟩ | waits := done_or_waits t.stage
    · rw [turn_of_done ended]
      exact ⟨_, rfl, rfl⟩
    · rw [turn_of_waits waits]
      exact g.journal_turn t w

end Visit

/-- Messages as tasks that take turns. -/
def receiving (g : Gateway β σ) (limit : Nat) : Service Message Visit β σ where
  arrival := Visit.arrive g limit
  turn := Visit.turn g
  recorded := Visit.recorded
  journal_turn := Visit.journal_turn g

/-- All messages in the order of their arrival, and what they share. -/
abbrev Reception (β σ : Type) := Interleaving Visit β σ

namespace Reception

/-- All visits are sound, and the journal is what they have recorded. -/
abbrev Sound (g : Gateway β σ) (limit : Nat) (s : Reception β σ) : Prop :=
  Interleaving.Sound Visit.recorded (Visit.Sound g limit) s

variable (g : Gateway β σ) (limit : Nat)

/-- Whatever turns its messages take, a reception is sound. -/
lemma sound_run (backend : β) (store : σ) (turns : List (Interleaving.Turn Message)) :
    Sound g limit ((receiving g limit).run (.initial backend store) turns) :=
  Interleaving.Sound.run (S := receiving g limit) (Interleaving.sound_initial backend store)
    (Visit.arrive_sound g limit) (fun _ w sound => sound.turn w) turns

/-! ## One message after another -/

/-- A message whose dispatch has all the turns is answered by what the dispatch comes to. -/
lemma exists_run_eq_answered (vs : List Visit) (m : Message) (op : Operation) (t : Thread)
    (w : World β σ) :
    ∃ turns recorded, (receiving g limit).run ⟨vs ++ [⟨m, .dispatching op t⟩], w⟩ turns =
      ⟨vs ++ [⟨m, .answered (respond (g.finish t.stage w).1) recorded⟩],
        record op.flag (recordedStatus (g.finish t.stage w).1) (g.finish t.stage w).2⟩ := by
  induction waits : t.stage.waits using Nat.strongRecOn generalizing t w with
  | ind n ih =>
    obtain ⟨result, ended⟩ | some := done_or_waits t.stage
    · refine ⟨[.advance vs.length], t.recorded ++ [.request op.flag (recordedStatus result)], ?_⟩
      rw [Interleaving.run_last, ended, g.finish_done]
      simp only [receiving, Visit.turn_of_done ended]
      rfl
    · -- The first turn leaves fewer waits, and what is left comes to the same end.
      have advanced := g.turn_eq_advance t w
      have fewer := g.waits_advance_lt t.stage w some
      have finish := g.finish_advance t.stage w
      rw [← advanced] at fewer finish
      obtain ⟨turns, recorded, same⟩ := ih _ (waits ▸ fewer) (g.turn t w).1 (g.turn t w).2 rfl
      rw [finish] at same
      refine ⟨.advance vs.length :: turns, recorded, ?_⟩
      rw [Interleaving.run_last]
      simp only [receiving, Visit.turn_of_waits some] at same ⊢
      exact same

/-- A message that is answered as it arrives is handled. -/
lemma run_arrive_of_answered {m : Message} {response : Response} {label : String} {status : Nat}
    (answered : (receiving g limit).arrival m = ⟨m, .answered response [.request label status]⟩)
    (vs : List Visit) (w : World β σ) :
    (receiving g limit).run ⟨vs, w⟩ [.arrive m] =
      ⟨vs ++ [⟨m, .answered response [.request label status]⟩], record label status w⟩ := by
  rw [Interleaving.run_arrive, answered]
  rfl

/-- A message that arrives and then has all the turns is handled. -/
lemma exists_run_eq_handle (m : Message) (vs : List Visit) (w : World β σ) :
    ∃ turns v, (receiving g limit).run ⟨vs, w⟩ turns = ⟨vs ++ [v], (handle g limit m w).2⟩ ∧
      v.message = m ∧ v.response? = some (handle g limit m w).1 := by
  cases read : readRequest m limit with
  | error response =>
    have answered : (receiving g limit).arrival m =
        ⟨m, .answered response [.request noOperation response.status]⟩ := by
      simp only [receiving, Visit.arrive, read]
    rw [handle_of_unread read]
    exact ⟨_, _, run_arrive_of_answered g limit answered vs w, rfl, rfl⟩
  | ok r =>
    rw [handle_of_read read]
    cases sel : select r with
    | error e =>
      have answered : (receiving g limit).arrival m =
          ⟨m, .answered (failureResponse e) [.request noOperation e.status]⟩ := by
        simp only [receiving, Visit.arrive, read, sel]
      rw [requestLabel, Gateway.dispatch]
      simp only [sel]
      exact ⟨_, _, run_arrive_of_answered g limit answered vs w, rfl, rfl⟩
    -- Of the three ways only this one takes more than a turn: those of its dispatch.
    | ok op =>
      have arrived : (receiving g limit).arrival m = ⟨m, .dispatching op (g.arrival r)⟩ := by
        simp only [receiving, Visit.arrive, read, sel]
      obtain ⟨turns, recorded, same⟩ := exists_run_eq_answered g limit vs m op (g.arrival r)
        { w with journal := w.journal ++ (g.arrival r).recorded }
      rw [Session.finish_arrival, recordedStatus_eq] at same
      refine ⟨.arrive m :: turns, ⟨m, .answered (respond (g.dispatch r w).1) recorded⟩, ?_, rfl,
        rfl⟩
      rw [Interleaving.run_arrive, arrived, requestLabel, sel]
      exact same

/-- Messages that are handled one after another are visits. -/
lemma exists_run_eq_handleAll (ms : List Message) (vs : List Visit) (w : World β σ) :
    ∃ turns new,
      (receiving g limit).run ⟨vs, w⟩ turns = ⟨vs ++ new, (handleAll g limit ms w).2⟩ ∧
      new.map Visit.message = ms ∧
      new.map Visit.response? = (handleAll g limit ms w).1.map some :=
  Interleaving.exists_run_eq_oneByOne (exists_run_eq_handle g limit) ms vs w

end Reception

end MetadataGateway.Http
