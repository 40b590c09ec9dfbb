import MetadataGateway.Proofs.Dispatch.Course
import MetadataGateway.Proofs.Http.Observation
import MetadataGateway.Proofs.Json.Reading
import MetadataGateway.Proofs.Lists
import MetadataGateway.Proofs.Text.Utf8

/-!
# What failures look like

Every message is answered with a payload, or with an object that has the one member `error`
(`handle_envelope`). `Complaint` lists what there is to complain of, each with its status and its
text. The text is in the object character for character: whatever it is, it is what a client reads
from the response (`decode?_error`, `ofText_envelope`).
-/

namespace MetadataGateway.Http

open Dispatch Coercion Text

variable {β σ : Type}

/-- What may be wrong with a message, with the status and the text that tell of it. -/
inductive Complaint (g : Gateway β σ) (limit : Nat) (m : Message) (s : β) :
    Nat → String → Prop where
  /-- More octets are declared than are read. -/
  | tooLong :
    Message.hasFormBody m.method m.headers = true →
    limit < m.body.declared.getD 0 →
    Complaint g limit m s 413 ("request body exceeds " ++ toString limit ++ " bytes")
  /-- The body cannot be read. -/
  | unread {e} :
    Message.hasFormBody m.method m.headers = true →
    m.body.declared.getD 0 ≤ limit →
    collect m.body.failure limit m.body.pieces = .error e →
    Complaint g limit m s 400 ("failed to read request body: " ++ e.message)
  /-- No operation is named. -/
  | unsupported {r} :
    readRequest m limit = .ok r →
    (∀ op ∈ Operation.table, r.hasFlag op.flag = false) →
    Complaint g limit m s 400
      "unknown operation; currently supported: ?intersects, ?timestamps, ?extents"
  /-- A parameter has no value of its type, and none before it is so. -/
  | coercion {r op before p after name reason} :
    readRequest m limit = .ok r →
    select r = .ok op →
    op.parameters = before ++ p :: after →
    (∀ q ∈ before, ∃ a, prepareOne r q = .ok a) →
    p.source = .form name →
    coerce p.kind (r.value name) = .error reason →
    Complaint g limit m s 400
      ("invalid value " ++ quoteString (r.value name) ++ " for parameter " ++ name ++ ": " ++
        reason.message)
  /-- The backend fails, in its own words. -/
  | failed {r op args text s'} :
    readRequest m limit = .ok r →
    select r = .ok op →
    prepare op r = .ok args →
    g.backend.call op args s = (.error (.call text), s') →
    Complaint g limit m s 400 text
  /-- The backend has no value. -/
  | noResult {r op args function s'} :
    readRequest m limit = .ok r →
    select r = .ok op →
    prepare op r = .ok args →
    g.backend.call op args s = (.error (.nullResult function), s') →
    Complaint g limit m s 400 (function ++ " returned no result")

variable {g : Gateway β σ} {limit : Nat} {m : Message} {s : β}

/-- Whoever complains is told so with one of two statuses. -/
lemma Complaint.status_eq {status : Nat} {text : String}
    (complaint : Complaint g limit m s status text) : status = 400 ∨ status = 413 := by
  cases complaint with
  | tooLong => exact .inr rfl
  | unread | unsupported | coercion | failed | noResult => exact .inl rfl

/-! ## What there is to complain of -/

/-- A message that is not read is complained of. -/
lemma complaint_of_unread {response : Response} (unread : readRequest m limit = .error response) :
    ∃ status text, Complaint g limit m s status text ∧ response = .error status text := by
  obtain ⟨form, ⟨long, rfl⟩ | ⟨fits, e, collected, rfl⟩⟩ := readRequest_eq_error unread
  · exact ⟨_, _, .tooLong form long, rfl⟩
  · exact ⟨_, _, .unread form fits collected, rfl⟩

/-- Without an operation none of the flags is there. -/
lemma hasFlag_of_select {r : Request} {e : Failure} (sel : select r = .error e) :
    ∀ op ∈ Operation.table, r.hasFlag op.flag = false := by
  intro op mem
  unfold select at sel
  cases found : Operation.find? r.hasFlag with
  | some op => simp [found] at sel
  | none => simpa using List.find?_eq_none.1 found op mem

/-- The error of a preparation is that of the first parameter that has one, which is not the path.
-/
lemma complaint_of_refused {r : Request} {op : Operation} {e : Coercion.Error}
    (read : readRequest m limit = .ok r) (sel : select r = .ok op)
    (refused : prepare op r = .error e) : Complaint g limit m s 400 e.message := by
  obtain ⟨before, p, after, split, done, failed⟩ := mapM_eq_error_iff.1 refused
  unfold prepareOne at failed
  cases source : p.source with
  | path => simp [source] at failed
  | form name =>
    cases coerced : coerce p.kind (r.value name) with
    | ok a => simp [source, coerced] at failed
    | error reason =>
      simp only [source, coerced, Except.error.injEq] at failed
      subst failed
      exact .coercion read sel split done source coerced

/-- A backend's error has the backend's words. -/
lemma complaint_of_failed {r : Request} {op : Operation} {args : List Argument} {s' : β}
    {e : Backend.Error} (read : readRequest m limit = .ok r) (sel : select r = .ok op)
    (prepared : prepare op r = .ok args) (called : g.backend.call op args s = (.error e, s')) :
    Complaint g limit m s 400 e.message := by
  cases e with
  | call text => exact .failed read sel prepared called
  | nullResult function => exact .noResult read sel prepared called

/-- A dispatch that fails is complained of. -/
lemma complaint_of_failure {r : Request} {w : World β σ} {e : Failure}
    (read : readRequest m limit = .ok r) (failed : (g.dispatch r w).1 = .error e) :
    Complaint g limit m w.backend e.status e.message := by
  have course := g.report_course r w
  have answer : (g.report r w).1.answer = .error e := by
    rw [← failed]
    exact congrArg Prod.fst (g.report_eq_dispatch r w)
  generalize (g.report r w).1 = report at course answer
  obtain ⟨_, calls, accesses, recorded⟩ := report
  obtain rfl : _ = Except.error e := answer
  obtain ⟨sound, called, -⟩ := course
  cases sound with
  | unsupported sel => exact .unsupported read (hasFlag_of_select sel)
  | refused sel _ refused => exact complaint_of_refused read sel refused
  | failed sel _ prepared => exact complaint_of_failed read sel prepared called.call_of_singleton

/-! ## How a complaint is told -/

/-- The body of an error is the text of its object. -/
lemma decode?_error (status : Nat) (message : String) :
    Utf8.decode? (Response.error status message).body = some (Response.envelope message).render :=
  Utf8.decode?_encode _

/-- Whatever the text of an error, its object is read back with that text in it. -/
lemma ofText_envelope (message : String) :
    Json.ofText (Response.envelope message).render = .ok (.object [("error", .string message)]) :=
  Json.ofText_member (by decide) message

/-- A message is answered with an error of which there is a complaint, or with a payload. -/
lemma handle_cases (g : Gateway β σ) (limit : Nat) (m : Message) (w : World β σ) :
    (∃ status text, Complaint g limit m w.backend status text ∧
      (handle g limit m w).1 = .error status text) ∨
    (∃ r served, readRequest m limit = .ok r ∧ (g.dispatch r w).1 = .ok served ∧
      (handle g limit m w).1 = .payload served.payload) := by
  cases read : readRequest m limit with
  | error response =>
    obtain ⟨status, text, complaint, rfl⟩ := complaint_of_unread read
    exact .inl ⟨status, text, complaint, by rw [handle_of_unread read]⟩
  | ok r =>
    rw [handle_of_read read]
    cases came : (g.dispatch r w).1 with
    | error e => exact .inl ⟨_, _, complaint_of_failure read came, rfl⟩
    | ok served => exact .inr ⟨r, served, rfl, came, rfl⟩

/-- A message is answered with JSON. If the status is 200, then the body is the payload of the
dispatch, octet by octet. Any other status is 400 or 413, and there is something to complain of: the
body is the text of an object whose only member is `error`, and the value of that is the text of the
complaint, character by character. -/
theorem handle_envelope (g : Gateway β σ) (limit : Nat) (m : Message) (w : World β σ) :
    let response := (handle g limit m w).1
    response.contentType = "application/json" ∧
    ((response.status = 200 ∧
        ∃ r served, readRequest m limit = .ok r ∧ (g.dispatch r w).1 = .ok served ∧
          response.body = served.payload) ∨
      ((response.status = 400 ∨ response.status = 413) ∧
        ∃ text, Complaint g limit m w.backend response.status text ∧
          Utf8.decode? response.body = some (Response.envelope text).render ∧
          Json.ofText (Response.envelope text).render =
            .ok (.object [("error", .string text)]))) := by
  intro response
  obtain ⟨status, text, complaint, told⟩ | ⟨r, served, read, came, told⟩ := handle_cases g limit m w
  · have same : response = .error status text := told
    rw [same]
    exact ⟨rfl, .inr ⟨complaint.status_eq, text, complaint, decode?_error status text,
      ofText_envelope text⟩⟩
  · have same : response = .payload served.payload := told
    rw [same]
    exact ⟨rfl, .inl ⟨rfl, r, served, read, came, rfl⟩⟩

end MetadataGateway.Http
