import MetadataGateway.Backend.Server
import MetadataGateway.Proofs.Backend.Statement
import MetadataGateway.Proofs.Coercion

/-!
# The query that a call makes

A call of an operation makes one query. Its text is the statement of the operation, whatever the
request, and it binds one value for each placeholder, of the type that the placeholder is cast to.
Three things have to fit for that: the name that a cast has for a type, the type of the argument
that a text becomes, and the type that the argument is sent as.

A watched server keeps a log of the queries that it carries out, and does as it did before.
-/

namespace MetadataGateway

/-- The type that the database knows by a name; it has two names for integers of four octets. -/
def WireType.ofName? (name : String) : Option WireType :=
  if name = "integer" then some .int4
  else [text, int4, float8, timestamptz, textArray, jsonb].find? fun type => type.name == name

/-- A cast names the type that the values of its parameter are sent as. -/
lemma Kind.ofName?_sqlType (kind : Kind) : WireType.ofName? kind.sqlType = some kind.wireType := by
  cases kind <;> rfl

/-- The statement that is kept for the flag of an operation of the table is its own. -/
lemma Operation.statementFor?_flag {op : Operation} (mem : op ∈ table) :
    statementFor? op.flag = some op.statement := by
  have own : ∀ op ∈ table, withFlag? op.flag = some op := by decide
  rw [statementFor?, own op mem]
  rfl

namespace Backend

variable {σ : Type} {op : Operation} {r : Request} {args : List Argument}

/-- A server that keeps a log of its queries. -/
def Server.watched (server : Server σ) : Server (σ × List Query) where
  startup login s :=
    let (refusal, state) := server.startup login s.1
    (refusal, state, s.2)
  run query s :=
    let (answer, state) := server.run query s.1
    (answer, state, s.2 ++ [query])

/-- A call has the same result and leaves the same state if the server is watched. -/
lemma Server.watched_call (server : Server σ) (op : Operation) (args : List Argument) (s : σ)
    (log : List Query) :
    ((server.watched.call op args (s, log)).1, (server.watched.call op args (s, log)).2.1) =
      server.call op args s := by
  unfold call
  cases callQuery? op args <;> rfl

/-- A call of an operation of the table carries out its statement with its arguments bound. -/
lemma Server.log_call (server : Server σ) (mem : op ∈ Operation.table) (s : σ) (log : List Query) :
    (server.watched.call op args (s, log)).2.2 =
      log ++ [⟨op.statement, args.map Argument.binding⟩] := by
  unfold call callQuery?
  rw [Operation.statementFor?_flag mem]
  rfl

/-- The values of a query fit the placeholders of its text: there are as many, and the database
knows the type of each by the name that its placeholder is cast to. -/
def Query.Fits (query : Query) : Prop :=
  List.Forall₂ (fun slot value => WireType.ofName? slot.type = some (Binding.wireType value))
    (slots query.sql) query.bindings

/-- The types of the casts of an operation are those of its parameters. -/
lemma map_type_casts (op : Operation) :
    op.casts.map Slot.type = (op.parameters.map Parameter.kind).map Kind.sqlType := by
  conv_rhs => rw [← List.zipIdx_map_fst 0 op.parameters]
  simp only [Operation.casts, List.mapIdx_eq_zipIdx_map, List.map_map, Function.comp_def]

/-- The values that are sent for arguments fit the casts of an operation whose parameters have the
types of the arguments. -/
lemma forall₂_casts (kinds : args.map Argument.kind = op.parameters.map Parameter.kind) :
    List.Forall₂ (fun slot value => WireType.ofName? slot.type = some (Binding.wireType value))
      op.casts (args.map Argument.binding) := by
  have types : op.casts.map (WireType.ofName? ∘ Slot.type) =
      args.map (some ∘ Binding.wireType ∘ Argument.binding) := by
    calc op.casts.map (WireType.ofName? ∘ Slot.type)
        = (op.parameters.map Parameter.kind).map (WireType.ofName? ∘ Kind.sqlType) := by
          rw [← List.map_map, map_type_casts, List.map_map]
      _ = (args.map Argument.kind).map (some ∘ Kind.wireType) := by
          rw [kinds]
          exact List.map_congr_left fun kind _ => kind.ofName?_sqlType
      _ = args.map (some ∘ Binding.wireType ∘ Argument.binding) := by
          simp only [List.map_map, Function.comp_def, Argument.wireType_binding]
  rw [← List.forall₂_eq_eq_eq, List.forall₂_map_left_iff, List.forall₂_map_right_iff] at types
  exact List.forall₂_map_right_iff.2 types

/-- The table has no function with a dollar sign in its name. -/
lemma slots_function {op : Operation} (mem : op ∈ Operation.table) : slots op.function = [] := by
  have none : ∀ op ∈ Operation.table, '$' ∉ op.function.toList := by decide
  exact Slot.all_eq_nil (none op mem)

/-- The statement of an operation, whatever its parameters, calls the function of the operation,
and its arguments are the placeholders that the parameters need, in order. If the arguments of an
operation of the table are prepared, then a call makes one query, on any server in any state. The
text of the query depends on the operation only. The query binds what is sent for the arguments, as
many values as there are parameters and a null for each null, and the values fit the placeholders.
-/
theorem Server.call_fits :
    (∀ op : Operation,
      op.statement = "select " ++ op.function ++ "(" ++ op.argumentList ++ ")::text as json" ∧
      slots op.argumentList = op.casts ∧
      slots op.statement = slots op.function ++ op.casts) ∧
    ∀ op ∈ Operation.table, ∀ r args, Coercion.prepare op r = .ok args →
      ∀ {σ : Type} (server : Server σ) (s : σ), ∃ query : Query,
        (server.watched.call op args (s, [])).2.2 = [query] ∧
        ((server.watched.call op args (s, [])).1, (server.watched.call op args (s, [])).2.1) =
          server.call op args s ∧
        query.sql = op.statement ∧
        slots query.sql = op.casts ∧
        query.bindings.length = op.parameters.length ∧
        query.bindings.map Binding.isNull = args.map Argument.isNull ∧
        query.Fits := by
  refine ⟨fun op => ⟨rfl, op.slots_argumentList, op.slots_statement⟩, ?_⟩
  intro op mem r args prepared σ server s
  have kinds := Coercion.kinds_of_prepare mem prepared
  have found : slots op.statement = op.casts := by
    rw [op.slots_statement, slots_function mem, List.nil_append]
  refine ⟨⟨op.statement, args.map Argument.binding⟩, ?log, server.watched_call op args s [], rfl,
    found, ?number, ?nulls, ?fits⟩
  case log => exact server.log_call mem s []
  case number => simpa using congrArg List.length kinds
  case nulls => simp [Function.comp_def]
  case fits =>
    rw [Query.Fits, found]
    exact forall₂_casts kinds

/-- A request without a beginning of its span of time, and with two namespaces. -/
theorem Server.call_fits_timestamps :
    let r : Request := ⟨"/a?timestamps", "/a", ["timestamps"], [("namespace", "x,y")], false⟩
    let args : List Argument :=
      [.text (some "/a"), .timestamp none, .timestamp none, .textList (some ["x", "y"]), .text none]
    let server : Server Nat := ⟨fun _ n => (none, n), fun _ n => (.rows [some "[]"], n + 1)⟩
    Coercion.prepare .timestamps r = .ok args ∧
    ∃ query : Query,
      (server.watched.call .timestamps args (0, [])).2.2 = [query] ∧
      query.sql = Operation.timestamps.statement ∧
      query.bindings.map Binding.isNull = [false, true, true, false, true] ∧
      query.Fits := by
  intro r args server
  have prepared : Coercion.prepare .timestamps r = .ok args := by
    simp only [r, args]
    rfl
  obtain ⟨query, log, -, sql, -, -, nulls, fits⟩ :=
    Server.call_fits.2 .timestamps (by decide) r args prepared server 0
  exact ⟨prepared, query, log, sql, nulls, fits⟩

end Backend

end MetadataGateway
