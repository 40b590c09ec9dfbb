import MetadataGateway.Http.Handler
import MetadataGateway.Proofs.Lists

/-!
# Forms up to a limit

A form whose length is declared is refused before it is read, and one that arrives in pieces is
refused where its pieces exceed what is left of the limit. Both draw the line at the same length,
and the pieces do not matter: what is collected of them depends on the octets that they are in all
and on the failure behind them (`collect_eq`). A form that is longer than the limit is longer
whether or not reading it would fail.

The pairs of a form are what stands between its separators, so that a form of separators alone has
none and is read as no form at all (`Request.ofTarget_separators`).
-/

namespace MetadataGateway

open Text

variable {target : String} {octets : List UInt8}

/-- A form has no pairs if it is nothing but separators. -/
lemma Text.formPairs_eq_nil : formPairs octets = [] ↔ ∀ b ∈ octets, b = 0x26 := by
  rw [formPairs, List.map_eq_nil_iff, filter_splitOn_eq_nil]

/-- The values of a form count as values of the body unless it is nothing but separators. -/
lemma Request.hasBodyValues_ofTarget :
    (ofTarget target (some octets)).hasBodyValues = true ↔ ¬ ∀ b ∈ octets, b = 0x26 := by
  rw [← formPairs_eq_nil]
  exact bne_iff_ne

/-- A form of separators alone is read as no form. -/
lemma Request.ofTarget_separators (separators : ∀ b ∈ octets, b = 0x26) :
    ofTarget target (some octets) = ofTarget target none := by
  simp only [ofTarget, Option.map_some, formPairs_eq_nil.2 separators, Option.getD_some,
    Option.map_none, Option.getD_none]

namespace Http

/-- The response to a form whose declared length is above the limit. -/
def tooLong (limit : Nat) : Response :=
  .error 413 ("request body exceeds " ++ toString limit ++ " bytes")

/-- The response to a form that cannot be read as a whole. -/
def unreadable (e : BodyError) : Response :=
  .error 400 ("failed to read request body: " ++ e.message)

/-- What is collected of pieces depends on what they are in all, and on the failure behind them. -/
lemma collect_eq (failure : Option String) (limit : Nat) (pieces : List (List UInt8)) :
    collect failure limit pieces =
      if limit < pieces.flatten.length then .error .overLimit
      else match failure with
        | some m => .error (.broken m)
        | none => .ok pieces.flatten := by
  induction pieces generalizing limit with
  | nil => rfl
  | cons piece rest ih =>
    rw [collect, ih, List.flatten_cons, List.length_append]
    by_cases long : limit < piece.length
    · rw [if_pos long, if_pos (by omega)]
    · rw [if_neg long]
      -- What is left of the limit is too little for the rest just if the limit is for the whole.
      by_cases longer : limit - piece.length < rest.flatten.length
      · rw [if_pos longer, if_pos (by omega)]
        rfl
      · rw [if_neg longer, if_neg (by omega)]
        cases failure <;> rfl

section read

variable {m : Message} {limit : Nat}

/-- A form whose declared length is above the limit is refused, whatever arrives. -/
lemma readRequest_of_declared (form : Message.hasFormBody m.method m.headers = true)
    (long : limit < m.body.declared.getD 0) : readRequest m limit = .error (tooLong limit) := by
  rw [readRequest, form, Bool.not_true, if_neg (by decide), if_pos long]
  rfl

/-- Any other form is read as far as its pieces allow. -/
lemma readRequest_of_pieces (m : Message) (limit : Nat)
    (form : Message.hasFormBody m.method m.headers = true)
    (short : m.body.declared.getD 0 ≤ limit) :
    readRequest m limit =
      if limit < m.body.pieces.flatten.length then .error (unreadable .overLimit)
      else match m.body.failure with
        | some reason => .error (unreadable (.broken reason))
        | none => .ok (.ofTarget m.target (some m.body.pieces.flatten)) := by
  rw [readRequest, form, Bool.not_true, if_neg (by decide), if_neg (Nat.not_lt.2 short), collect_eq]
  split_ifs
  · rfl
  · cases m.body.failure <;> rfl

end read

/-- A form is read just if it is no longer than the limit and reading does not fail, whether its
length is declared or not and however it is cut into pieces. With its length declared, a longer one
is refused before anything is read. Otherwise it is refused where it exceeds the limit, and that
comes before a failure behind it. The request that is read is the same in all cases; it is that of
no form if the form is nothing but separators, and has values of the body if it is not. -/
theorem readRequest_limited (method target : String) (headers : List Header) (limit : Nat)
    (octets : List UInt8) (form : Message.hasFormBody method headers = true) :
    let read (body : Body) := readRequest ⟨method, target, headers, body⟩ limit
    let r := Request.ofTarget target (some octets)
    (∀ pieces, pieces.flatten = octets →
      (read ⟨some octets.length, pieces, none⟩ =
        if octets.length ≤ limit then .ok r else .error (tooLong limit)) ∧
      (read ⟨none, pieces, none⟩ =
        if octets.length ≤ limit then .ok r else .error (unreadable .overLimit)) ∧
      ∀ reason, read ⟨none, pieces, some reason⟩ =
        .error (unreadable (if octets.length ≤ limit then .broken reason else .overLimit))) ∧
    (limit < octets.length → ∀ pieces failure,
      read ⟨some octets.length, pieces, failure⟩ = .error (tooLong limit)) ∧
    ((∀ b ∈ octets, b = 0x26) → r = .ofTarget target none) ∧
    (r.hasBodyValues = true ↔ ¬ ∀ b ∈ octets, b = 0x26) := by
  intro read r
  have refused : limit < octets.length → ∀ pieces failure,
      read ⟨some octets.length, pieces, failure⟩ = .error (tooLong limit) :=
    fun long pieces failure => readRequest_of_declared form long
  refine ⟨?_, refused, Request.ofTarget_separators, Request.hasBodyValues_ofTarget⟩
  rintro pieces rfl
  let message (declared : Option Nat) (failure : Option String) : Message :=
    ⟨method, target, headers, ⟨declared, pieces, failure⟩⟩
  -- No length is declared: only what arrives can pass the limit.
  have streamed (failure : Option String) :=
    readRequest_of_pieces (message none failure) limit form (Nat.zero_le _)
  by_cases short : pieces.flatten.length ≤ limit
  · have fits : ¬ limit < pieces.flatten.length := Nat.not_lt.2 short
    simp only [if_pos short]
    refine ⟨?_, ?_, fun reason => ?_⟩
    · have declared :=
        readRequest_of_pieces (message (some pieces.flatten.length) none) limit form short
      exact declared.trans (if_neg fits)
    · exact (streamed none).trans (if_neg fits)
    · exact (streamed (some reason)).trans (if_neg fits)
  · have long : limit < pieces.flatten.length := Nat.lt_of_not_le short
    simp only [if_neg short]
    refine ⟨refused long pieces none, ?_, fun reason => ?_⟩
    · exact (streamed none).trans (if_pos long)
    · exact (streamed (some reason)).trans (if_pos long)

/-- A form of three octets at the limit and above it, in one piece and in three. -/
theorem readRequest_limited_three :
    let headers : List Header :=
      [("Content-Type", Utf8.encodeString "Application/X-WWW-form-urlencoded; charset=utf-8")]
    let read (limit : Nat) (body : Body) := readRequest ⟨"POST", "/a?q", headers, body⟩ limit
    let r := Request.ofTarget "/a?q" (some [0x61, 0x3D, 0x26])
    Message.hasFormBody "POST" headers = true ∧
    read 3 ⟨some 3, [[0x61, 0x3D, 0x26]], none⟩ = .ok r ∧
    read 3 ⟨none, [[0x61], [], [0x3D, 0x26]], none⟩ = .ok r ∧
    read 2 ⟨some 3, [[0x61, 0x3D, 0x26]], none⟩ = .error (tooLong 2) ∧
    read 2 ⟨none, [[0x61], [], [0x3D, 0x26]], some "reset"⟩ = .error (unreadable .overLimit) ∧
    r.hasBodyValues = true := by
  intro headers read r
  have form : Message.hasFormBody "POST" headers = true := by decide +kernel
  have at_limit := readRequest_limited "POST" "/a?q" headers 3 [0x61, 0x3D, 0x26] form
  have above := readRequest_limited "POST" "/a?q" headers 2 [0x61, 0x3D, 0x26] form
  exact ⟨form, (at_limit.1 _ rfl).1, (at_limit.1 _ rfl).2.1, (above.1 _ rfl).1,
    (above.1 _ rfl).2.2 "reset", at_limit.2.2.2.2 (by decide)⟩

end Http

end MetadataGateway
