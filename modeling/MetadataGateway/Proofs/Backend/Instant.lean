import MetadataGateway.Proofs.Backend.Query
import MetadataGateway.Proofs.Preparation
import MetadataGateway.Proofs.Timestamp.Rendering

/-!
# Instants on the wire

A timestamp is sent as microseconds from the beginning of 2000, and the part of a microsecond that
is left over is cut off towards that moment. The years that a timestamp can lie in are few enough
for the number to fit into 64 bits (`microsSince2000_fits`), and it is less than a microsecond off
and never out of order, on either side of the beginning of 2000 (`Server.call_instants`).
-/

namespace MetadataGateway

namespace Timestamp

open Calendar

variable {t t' : Timestamp}

/-- The nanoseconds from the beginning of 1970 to a timestamp. -/
def nanosSince1970 (t : Timestamp) : Int :=
  t.seconds * 1000000000 + t.nanos

/-- The beginning of the year 2000 in UTC. -/
def year2000 : Timestamp :=
  ofLocal { date := ⟨2000, 1, 1⟩, hour := 0, minute := 0, second := 0, nanos := 0, offset := 0 }

/-- A number of 64 bits with a sign. -/
def FitsInt64 (n : Int) : Prop :=
  -9223372036854775808 ≤ n ∧ n ≤ 9223372036854775807

/-- The nanoseconds since 2000 are those since 1970 without those in between. -/
lemma nanosSince2000_eq (t : Timestamp) :
    t.nanosSince2000 = t.nanosSince1970 - year2000.nanosSince1970 := by
  have start : year2000 = ⟨secondsBefore2000, 0⟩ := by decide
  rw [start, nanosSince2000, nanosSince1970, nanosSince1970]
  dsimp only
  omega

/-- What is cut off is less than a microsecond. -/
lemma microsSince2000_close (t : Timestamp) :
    (1000 * t.microsSince2000 - t.nanosSince2000).natAbs < 1000 := by
  have whole := Int.mul_tdiv_add_tmod t.nanosSince2000 1000
  have rest : (t.nanosSince2000.tmod 1000).natAbs < 1000 := by
    rw [Int.natAbs_tmod]
    exact Nat.mod_lt _ (by decide)
  rw [microsSince2000]
  omega

/-- Cutting off keeps the order of instants. -/
lemma microsSince2000_mono (earlier : t.nanosSince1970 ≤ t'.nanosSince1970) :
    t.microsSince2000 ≤ t'.microsSince2000 := by
  refine Int.tdiv_le_tdiv (by decide) ?_
  rw [nanosSince2000_eq, nanosSince2000_eq]
  omega

/-- The years that can hold timestamps lie within so many seconds of 1970. -/
lemma Regular.seconds_bounds (regular : t.Regular) :
    -8350000000000 ≤ t.seconds ∧ t.seconds ≤ 8350000000000 := by
  obtain ⟨first, last⟩ := (isYear_iff t.date.year).1 regular.year
  obtain ⟨after, before⟩ := Date.year_ofDayNumber (t.seconds / secondsPerDay)
  simp only [date, firstYear, lastYear, daysBeforeEpoch, secondsPerDay] at first last after before
  omega

/-- What is sent for a timestamp that was read fits into 64 bits. -/
lemma microsSince2000_fits (regular : t.Regular) : FitsInt64 t.microsSince2000 := by
  have close := t.microsSince2000_close
  have seconds := regular.seconds_bounds
  have nanos := regular.nanos
  simp only [nanosSince2000, secondsBefore2000, nanosPerSecond] at close nanos
  unfold FitsInt64
  omega

/-- A timestamp that a text is coerced to is regular. -/
lemma regular_of_coerce {raw : String}
    (coerced : Coercion.coerce .timestamp raw = .ok (.timestamp (some t))) : t.Regular :=
  regular_of_read? (coerce_eq_ok_iff.1 coerced).2

end Timestamp

namespace Coercion

/-- A timestamp among the arguments of an operation comes of a text. -/
lemma exists_coerce_of_prepare {op : Operation} {r : Request} {args : List Argument} {t : Timestamp}
    (prepared : prepare op r = .ok args) (mem : .timestamp (some t) ∈ args) :
    ∃ raw, coerce .timestamp raw = .ok (.timestamp (some t)) := by
  obtain ⟨p, -, one⟩ := exists_of_mem_mapM prepared mem
  have answers := answers_of_prepareOne one
  unfold Answers at answers
  split at answers
  · cases answers
  case _ name _ =>
    obtain ⟨coerced, kind, null_iff⟩ := answers
    obtain first | absent := r.firstValue_or_absent name
    · exact ⟨_, kind ▸ coerced _ first⟩
    · cases null_iff.2 (.inr absent)

end Coercion

namespace Backend

open Timestamp

/-- A call of an operation of the table binds for each timestamp among its arguments the number of
microseconds since 2000. For a timestamp that a text is coerced to, that is the exact number of
nanoseconds divided by a thousand, cut off towards zero; it fits into 64 bits and is less than a
microsecond off. Of two timestamps the earlier never has the greater number. So whatever a request
asks for, all that is bound for its timestamps fits. -/
theorem Server.call_instants :
    (∀ op ∈ Operation.table, ∀ (args : List Argument) (i : Nat) (t : Timestamp),
      args[i]? = some (.timestamp (some t)) →
      ∀ {σ : Type} (server : Server σ) (s : σ), ∃ query : Query,
        (server.watched.call op args (s, [])).2.2 = [query] ∧
        query.bindings[i]? = some (Binding.timestamptz (some t.microsSince2000))) ∧
    (∀ raw t, Coercion.coerce .timestamp raw = .ok (.timestamp (some t)) →
      t.microsSince2000 = (t.nanosSince1970 - year2000.nanosSince1970).tdiv 1000 ∧
      FitsInt64 t.microsSince2000 ∧
      (1000 * t.microsSince2000 - (t.nanosSince1970 - year2000.nanosSince1970)).natAbs < 1000) ∧
    (∀ t t' : Timestamp, t.nanosSince1970 ≤ t'.nanosSince1970 →
      t.microsSince2000 ≤ t'.microsSince2000) ∧
    (∀ op ∈ Operation.table, ∀ r args, Coercion.prepare op r = .ok args →
      ∀ {σ : Type} (server : Server σ) (s : σ), ∃ query : Query,
        (server.watched.call op args (s, [])).2.2 = [query] ∧
        ∀ n, Binding.timestamptz (some n) ∈ query.bindings → FitsInt64 n) := by
  refine ⟨?bound, ?exact, fun t t' => microsSince2000_mono, ?requests⟩
  case bound =>
    intro op mem args i t here σ server s
    refine ⟨⟨op.statement, args.map Argument.binding⟩, server.log_call mem s [], ?_⟩
    rw [List.getElem?_map, here]
    rfl
  case exact =>
    intro raw t coerced
    have close := t.microsSince2000_close
    rw [nanosSince2000_eq] at close
    refine ⟨?_, microsSince2000_fits (regular_of_coerce coerced), close⟩
    rw [microsSince2000, nanosSince2000_eq]
  case requests =>
    intro op mem r args prepared σ server s
    refine ⟨⟨op.statement, args.map Argument.binding⟩, server.log_call mem s [], ?_⟩
    intro n bound
    obtain ⟨a, arg, same⟩ := List.mem_map.1 bound
    cases a with
    | timestamp value =>
      cases value with
      | none => cases same
      | some t =>
        cases same
        obtain ⟨raw, coerced⟩ := Coercion.exists_coerce_of_prepare prepared arg
        exact microsSince2000_fits (regular_of_coerce coerced)
    | _ => cases same

/-- The first and the last timestamp that there are, and one just before 2000 that is sent as its
beginning. -/
theorem Server.call_instants_ends :
    let first : Timestamp := ⟨-8334601228800, 0⟩
    let last : Timestamp := ⟨8210266876799, 1999999999⟩
    let eve : Timestamp := ⟨946684799, 999999900⟩
    let r : Request :=
      ⟨"/?timestamps", "/", ["timestamps"], [("until", "1999-12-31 23:59:59.9999999")], false⟩
    let args : List Argument :=
      [.text (some "/"), .timestamp none, .timestamp (some eve), .textList none, .text none]
    let server : Server Nat := ⟨fun _ n => (none, n), fun _ n => (.rows [some "[]"], n + 1)⟩
    (∃ query : Query, (server.watched.call .timestamps args (0, [])).2.2 = [query] ∧
      query.bindings[2]? = some (.timestamptz (some eve.microsSince2000))) ∧
    Coercion.coerce .timestamp "-262143-01-01" = .ok (.timestamp (some first)) ∧
    FitsInt64 first.microsSince2000 ∧
    Coercion.coerce .timestamp "+262142-12-31T23:59:60.999999999Z" =
      .ok (.timestamp (some last)) ∧
    FitsInt64 last.microsSince2000 ∧
    eve.microsSince2000 = 0 ∧
    eve.microsSince2000 ≤ last.microsSince2000 ∧
    Coercion.prepare .timestamps r = .ok args ∧
    ∃ query : Query, (server.watched.call .timestamps args (0, [])).2.2 = [query] ∧
      ∀ n, Binding.timestamptz (some n) ∈ query.bindings → FitsInt64 n := by
  intro first last eve r args server
  obtain ⟨bound, exact, mono, requests⟩ := Server.call_instants
  have listed : Operation.timestamps ∈ Operation.table := by decide
  have first_read : Coercion.coerce .timestamp "-262143-01-01" = .ok (.timestamp (some first)) :=
    coerce_eq_ok_iff.2 ⟨by decide, by decide +kernel⟩
  have last_read : Coercion.coerce .timestamp "+262142-12-31T23:59:60.999999999Z" =
      .ok (.timestamp (some last)) :=
    coerce_eq_ok_iff.2 ⟨by decide, by decide +kernel⟩
  have eve_read : Coercion.coerce .timestamp "1999-12-31 23:59:59.9999999" =
      .ok (.timestamp (some eve)) :=
    coerce_eq_ok_iff.2 ⟨by decide, by decide +kernel⟩
  have eve_prepared : Coercion.prepareOne r (.form "until" .timestamp) =
      .ok (.timestamp (some eve)) :=
    (Coercion.prepareOne_eq_ok_iff rfl ⟨[], [], rfl, List.forall_mem_nil _⟩).2 eve_read
  have prepared : Coercion.prepare .timestamps r = .ok args :=
    mapM_eq_ok_iff.2 (.cons rfl (.cons rfl (.cons eve_prepared (.cons rfl (.cons rfl .nil)))))
  refine ⟨bound .timestamps listed args 2 eve rfl server 0, first_read,
    (exact _ first first_read).2.1, last_read, (exact _ last last_read).2.1, ?_,
    mono eve last (by decide), prepared, requests .timestamps listed r args prepared server 0⟩
  rw [(exact _ eve eve_read).1]
  decide

end Backend

end MetadataGateway
