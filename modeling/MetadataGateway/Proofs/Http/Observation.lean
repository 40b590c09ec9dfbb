import MetadataGateway.Http.Handler
import MetadataGateway.Proofs.Dispatch.Observation

/-!
# Watching messages being handled

A message that can be read is dispatched, and the response and the record of it follow from what the
dispatch comes to (`handle_of_read`). A message that cannot be read is answered and recorded without
one (`handle_of_unread`). In both cases what is recorded is the status of the response.

What is done for a message beside its response is seen by handling it with a watched gateway:
`observe` has the calls of the backend, the accesses to the store and all that is recorded.
Watching changes nothing (`observe_eq_handle`).
-/

namespace MetadataGateway.Http

open Dispatch

variable {β σ : Type}

/-- The response to what a dispatch has come to. -/
def respond : Except Failure Served → Response
  | .ok served => .payload served.payload
  | .error e => failureResponse e

/-- The name under which a request is recorded: the flag of the operation that it selects. -/
def requestLabel (r : Request) : String :=
  match select r with
  | .ok op => op.flag
  | .error _ => noOperation

/-- The name under which a message is recorded. -/
def messageLabel (limit : Nat) (m : Message) : String :=
  match readRequest m limit with
  | .ok r => requestLabel r
  | .error _ => noOperation

section label

variable {limit : Nat} {m : Message} {r : Request}

/-- A message that cannot be read is counted under no operation. -/
lemma messageLabel_of_unread {response : Response}
    (unread : readRequest m limit = .error response) :
    messageLabel limit m = noOperation := by
  simp only [messageLabel, unread]

/-- A message whose request selects nothing is counted under no operation. -/
lemma messageLabel_of_unsupported {e : Failure} (read : readRequest m limit = .ok r)
    (sel : select r = .error e) : messageLabel limit m = noOperation := by
  simp only [messageLabel, requestLabel, read, sel]

/-- A message whose request selects an operation is counted under its flag. -/
lemma messageLabel_of_select {op : Operation} (read : readRequest m limit = .ok r)
    (sel : select r = .ok op) : messageLabel limit m = op.flag := by
  simp only [messageLabel, requestLabel, read, sel]

end label

section handle

variable {g : Gateway β σ} {limit : Nat} {m : Message} {w : World β σ}

/-- A message that can be read is answered by what its dispatch comes to. -/
lemma handle_of_read {r : Request} (read : readRequest m limit = .ok r) :
    handle g limit m w =
      (respond (g.dispatch r w).1,
        record (requestLabel r) (respond (g.dispatch r w).1).status (g.dispatch r w).2) := by
  unfold handle requestLabel Gateway.dispatch
  simp only [read]
  cases select r with
  | error e => rfl
  | ok op =>
    simp only
    rcases g.execute op r w with ⟨_ | _, _⟩ <;> rfl

/-- A message that cannot be read has its response at once. -/
lemma handle_of_unread {response : Response} (unread : readRequest m limit = .error response) :
    handle g limit m w = (response, record noOperation response.status w) := by
  unfold handle
  simp only [unread]

/-- A message that cannot be read has a form that is too long, or that cannot be read. -/
lemma readRequest_eq_error {response : Response} (unread : readRequest m limit = .error response) :
    Message.hasFormBody m.method m.headers = true ∧
    ((limit < m.body.declared.getD 0 ∧
        response = .error 413 ("request body exceeds " ++ toString limit ++ " bytes")) ∨
      (m.body.declared.getD 0 ≤ limit ∧
        ∃ e, collect m.body.failure limit m.body.pieces = .error e ∧
          response = .error 400 ("failed to read request body: " ++ e.message))) := by
  unfold readRequest at unread
  split_ifs at unread with noForm long
  · cases unread
    exact ⟨by simpa using noForm, .inl ⟨long, rfl⟩⟩
  · refine ⟨by simpa using noForm, .inr ⟨Nat.le_of_not_lt long, ?_⟩⟩
    cases collected : collect m.body.failure limit m.body.pieces with
    | ok octets => simp [collected] at unread
    | error e =>
      simp only [collected, Except.error.injEq] at unread
      exact ⟨e, rfl, unread.symm⟩

end handle

/-- Handle messages one after another. -/
def handleAll (g : Gateway β σ) (limit : Nat) :
    List Message → World β σ → List Response × World β σ :=
  oneByOne (handle g limit)

/-! ## Watched handling -/

/-- What has been done for one message. -/
structure Handling where
  response : Response
  calls : List Backend.Exchange
  accesses : List Cache.Access
  recorded : Journal

/-- Handle a message, and tell what has been done for it. -/
def observe (g : Gateway β σ) (limit : Nat) (m : Message) (w : World β σ) :
    Handling × World β σ :=
  let (response, seen) := handle g.watched limit m ⟨(w.backend, []), (w.store, []), []⟩
  (⟨response, seen.backend.2, seen.store.2, seen.journal⟩, seen.unwatched w.journal)

/-- Handle messages one after another, and tell what has been done for each. -/
def observeAll (g : Gateway β σ) (limit : Nat) :
    List Message → World β σ → List Handling × World β σ :=
  oneByOne (observe g limit)

variable (g : Gateway β σ) (limit : Nat)

/-- A record goes into the journal, watched or not. -/
lemma unwatched_record (before : Journal) (label : String) (status : Nat)
    (w : World (β × List Backend.Exchange) (σ × List Cache.Access)) :
    (record label status w).unwatched before = record label status (w.unwatched before) := by
  simp only [record, World.unwatched, List.append_assoc]

/-- A watched gateway gives the same response and leaves the same world. -/
lemma watched_handle (before : Journal) (m : Message) (w) :
    Prod.map id (World.unwatched before) (handle g.watched limit m w) =
      handle g limit m (w.unwatched before) := by
  cases read : readRequest m limit with
  | error response =>
    rw [handle_of_unread read, handle_of_unread read, Prod.map_apply, unwatched_record, id]
  | ok r =>
    rw [handle_of_read read, handle_of_read read, ← g.watched_dispatch, Prod.map_apply,
      unwatched_record]
    rfl

/-- A message that is watched is handled as one that is not. -/
theorem observe_eq_handle (m : Message) (w : World β σ) :
    ((observe g limit m w).1.response, (observe g limit m w).2) = handle g limit m w := by
  have same := watched_handle g limit w.journal m ⟨(w.backend, []), (w.store, []), []⟩
  rw [w.unwatched_fresh] at same
  exact same

/-- Messages that are watched are handled as those that are not. -/
theorem observeAll_eq_handleAll (ms : List Message) (w : World β σ) :
    ((observeAll g limit ms w).1.map Handling.response, (observeAll g limit ms w).2) =
      handleAll g limit ms w :=
  oneByOne_map (observe_eq_handle g limit) ms w

end MetadataGateway.Http
