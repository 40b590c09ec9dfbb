import Mathlib.Tactic.Common
import MetadataGateway.Config.Overrides
import MetadataGateway.Config.Validation
import MetadataGateway.Proofs.Net.Address

/-!
# Which violations are reported

Nine fields of a configuration are checked, each for itself (`Checked.Breaks`). A configuration has
one violation for each field that breaks its rule, in the order of the fields, and no other
(`violations_eq`). Since a check looks at its own field only, what is said of a field that is not
overridden stays as it was, word for word (`kept_violations`), and the address that a port stands
for is one that can be read back (`ofString?_anyAddress`).
-/

namespace MetadataGateway

open Net Number

/-- The fields of a configuration that are checked. -/
inductive Checked where
  | bindAddress
  | host
  | name
  | user
  | limit
  | uri
  | timeoutMs
  | logFormat
  | metricsAddress
deriving DecidableEq, Repr

namespace Checked

/-- The fields in the order in which they are checked. -/
def all : List Checked :=
  [bindAddress, host, name, user, limit, uri, timeoutMs, logFormat, metricsAddress]

/-- What a field is called. -/
def path : Checked → String
  | bindAddress => "listener.bind_address"
  | host => "database.host"
  | name => "database.name"
  | user => "database.user"
  | limit => "database.limit"
  | uri => "cache.uri"
  | timeoutMs => "cache.timeout_ms"
  | logFormat => "observability.log_format"
  | metricsAddress => "observability.metrics_address"

/-- There are no other fields. -/
lemma mem_all (f : Checked) : f ∈ all := by
  cases f <;> decide

/-- No two fields have the same path. -/
lemma path_injective : Function.Injective path := by
  intro f f' same
  have apart : ∀ f ∈ all, ∀ f' ∈ all, f.path = f'.path → f = f' := by decide
  exact apart f f.mem_all f' f'.mem_all same

/-- A field has a value with which no gateway can run. -/
def Breaks (c : Config) : Checked → Prop
  | bindAddress => SocketAddress.ofString? c.listener.bindAddress = none
  | host => c.database.host = ""
  | name => c.database.name = ""
  | user => c.database.user = ""
  | limit => c.database.limit = 0
  | uri => ∃ uri ∈ c.cache.uri, Cache.isEndpointText uri = false
  | timeoutMs => c.cache.timeoutMs = 0
  | logFormat => ¬ (c.observability.logFormat = "pretty" ∨ c.observability.logFormat = "json")
  | metricsAddress => c.observability.metricsEnabled = true ∧
    SocketAddress.ofString? c.observability.metricsAddress = none

instance (c : Config) (f : Checked) : Decidable (f.Breaks c) :=
  match f with
  | bindAddress => inferInstanceAs (Decidable (SocketAddress.ofString? _ = none))
  | host | name | user => inferInstanceAs (Decidable ((_ : String) = ""))
  | limit => inferInstanceAs (Decidable (c.database.limit = 0))
  | uri => inferInstanceAs (Decidable (∃ uri ∈ c.cache.uri, Cache.isEndpointText uri = false))
  | timeoutMs => inferInstanceAs (Decidable (c.cache.timeoutMs = 0))
  | logFormat => inferInstanceAs (Decidable (¬ (_ ∨ _)))
  | metricsAddress => inferInstanceAs (Decidable (_ ∧ _))

/-- What is reported of a field that breaks its rule. -/
def report (c : Config) : Checked → Config.Violation
  | bindAddress => .invalidAddress "listener.bind_address" c.listener.bindAddress
  | host => .empty "database.host"
  | name => .empty "database.name"
  | user => .empty "database.user"
  | limit => .zeroPoolLimit
  | uri => .invalidCacheUri (c.cache.uri.getD "")
  | timeoutMs => .zeroCacheTimeout
  | logFormat => .unknownLogFormat c.observability.logFormat
  | metricsAddress =>
    .invalidAddress "observability.metrics_address" c.observability.metricsAddress

end Checked

namespace Config

variable {c : Config} {f : Checked}

/-- The field that a violation is about, as its wording begins. -/
def Violation.path : Violation → String
  | .invalidAddress field _ => field
  | .empty field => field
  | .zeroPoolLimit => "database.limit"
  | .zeroCacheTimeout => "cache.timeout_ms"
  | .invalidCacheUri _ => "cache.uri"
  | .unknownLogFormat _ => "observability.log_format"

/-- The wording of a violation begins with the field that it is about. -/
lemma Violation.message_begins (v : Violation) : ∃ rest, v.message = v.path ++ rest := by
  cases v with
  | invalidAddress field value =>
    refine ⟨": invalid socket address '" ++ value ++ "'", ?_⟩
    show field ++ ": invalid socket address '" ++ value ++ "'" = field ++ _
    rw [String.append_assoc, String.append_assoc, String.append_assoc]
  | empty field => exact ⟨" must not be empty", rfl⟩
  | zeroPoolLimit => exact ⟨" must be greater than 0", rfl⟩
  | zeroCacheTimeout => exact ⟨" must be greater than 0", rfl⟩
  | invalidCacheUri uri =>
    have quote : "cache.uri '" = "cache.uri" ++ " '" := rfl
    refine ⟨" '" ++ uri ++ "' must be host:port", ?_⟩
    show "cache.uri '" ++ uri ++ "' must be host:port" = "cache.uri" ++ _
    rw [quote, String.append_assoc, String.append_assoc, String.append_assoc]
  | unknownLogFormat format =>
    have quote : "observability.log_format '" = "observability.log_format" ++ " '" := rfl
    refine ⟨" '" ++ format ++ "' must be 'pretty' or 'json'", ?_⟩
    show "observability.log_format '" ++ format ++ "' must be 'pretty' or 'json'" =
      "observability.log_format" ++ _
    rw [quote, String.append_assoc, String.append_assoc, String.append_assoc]

/-- What is reported of a field names its path. -/
lemma path_report (c : Config) (f : Checked) : (f.report c).path = f.path := by
  cases f <;> rfl

/-! ## One violation for each field -/

/-- What is reported of one field. -/
def check (c : Config) (f : Checked) : List Violation :=
  oneUnless (decide (¬ f.Breaks c)) (f.report c)

/-- A check that fails just if the field breaks its rule reports the field. -/
lemma check_eq {good : Bool} (f : Checked) (rule : good = true ↔ ¬ f.Breaks c) :
    oneUnless good (f.report c) = c.check f := by
  rw [check, Bool.eq_iff_iff.2 (rule.trans decide_eq_true_iff.symm)]

/-- A text is taken for an address just if it is one. -/
lemma isAddress_iff (value : String) :
    isAddress value = true ↔ ¬ SocketAddress.ofString? value = none := by
  rw [isAddress, Option.isSome_iff_ne_none]

/-- What is reported of the cache is what its two fields report. -/
lemma cacheViolations_eq (c : Config) :
    cacheViolations c.cache = c.check .uri ++ c.check .timeoutMs := by
  have timeoutMs : oneUnless (c.cache.timeoutMs != 0) .zeroCacheTimeout = c.check .timeoutMs :=
    check_eq .timeoutMs bne_iff_ne
  rw [cacheViolations, timeoutMs]
  congr 1
  cases here : c.cache.uri with
  | none =>
    have kept : ¬ Checked.uri.Breaks c := by simp [Checked.Breaks, here]
    rw [check, decide_eq_true kept]
    rfl
  | some uri =>
    have rule : Cache.isEndpointText uri = true ↔ ¬ Checked.uri.Breaks c := by
      simp [Checked.Breaks, here]
    rw [← check_eq _ rule, Checked.report, here]
    rfl

/-- The fields are checked one after the other. -/
lemma violations_eq_flatMap (c : Config) : c.violations = Checked.all.flatMap c.check := by
  have bindAddress : listenerViolations c.listener = c.check .bindAddress :=
    check_eq .bindAddress (isAddress_iff _)
  have host : oneUnless (c.database.host != "") (.empty "database.host") = c.check .host :=
    check_eq .host bne_iff_ne
  have name : oneUnless (c.database.name != "") (.empty "database.name") = c.check .name :=
    check_eq .name bne_iff_ne
  have user : oneUnless (c.database.user != "") (.empty "database.user") = c.check .user :=
    check_eq .user bne_iff_ne
  have limit : oneUnless (c.database.limit != 0) .zeroPoolLimit = c.check .limit :=
    check_eq .limit bne_iff_ne
  have logFormat : oneUnless (c.observability.logFormat == "pretty" ||
      c.observability.logFormat == "json") (.unknownLogFormat c.observability.logFormat) =
        c.check .logFormat :=
    check_eq .logFormat (by rw [Checked.Breaks, not_not]; simp)
  have metricsAddress : oneUnless (!c.observability.metricsEnabled ||
      isAddress c.observability.metricsAddress) (.invalidAddress "observability.metrics_address"
        c.observability.metricsAddress) = c.check .metricsAddress :=
    check_eq .metricsAddress (by simp [Checked.Breaks, isAddress_iff, or_iff_not_imp_left])
  rw [violations, bindAddress, databaseViolations, host, name, user, limit, cacheViolations_eq,
    observabilityViolations, logFormat, metricsAddress]
  simp only [Checked.all, List.flatMap_cons, List.flatMap_nil, List.append_assoc, List.append_nil]

/-- One violation is reported for each field that breaks its rule, in the order of the fields. -/
theorem violations_eq (c : Config) :
    c.violations = (Checked.all.filter (·.Breaks c)).map (·.report c) := by
  rw [violations_eq_flatMap]
  induction Checked.all with
  | nil => rfl
  | cons f fields ih =>
    rw [List.flatMap_cons, ih, check, oneUnless]
    by_cases breaks : f.Breaks c
    · rw [List.filter_cons_of_pos (by simpa using breaks), if_neg (by simpa using breaks)]
      rfl
    · rw [List.filter_cons_of_neg (by simpa using breaks), if_pos (by simpa using breaks)]
      rfl

/-- Nothing is reported just if no field breaks its rule. -/
lemma violations_eq_nil_iff (c : Config) : c.violations = [] ↔ ∀ f : Checked, ¬ f.Breaks c := by
  rw [violations_eq, List.map_eq_nil_iff, List.filter_eq_nil_iff]
  simp only [decide_eq_true_eq]
  exact ⟨fun kept f => kept f f.mem_all, fun kept f _ => kept f⟩

end Config

/-! ## Overriding -/

namespace Overrides

variable {o : Overrides} {c : Config} {f : Checked}

/-- Whether a field that is checked is overridden. -/
def overrides (o : Overrides) : Checked → Bool
  | .bindAddress => o.port.isSome
  | .host => o.host.isSome
  | .name => o.databaseName.isSome
  | .user => o.user.isSome
  | .limit => o.limit.isSome
  | .uri => o.cacheUri.isSome
  | .timeoutMs => false
  | .logFormat => o.logFormat.isSome
  | .metricsAddress => false

/-- A field that is not overridden keeps its value, and so what is said of it. -/
lemma kept (c : Config) (untouched : o.overrides f = false) :
    (f.Breaks (o.apply c) ↔ f.Breaks c) ∧ f.report (o.apply c) = f.report c := by
  cases f with
  | timeoutMs | metricsAddress => exact ⟨Iff.rfl, rfl⟩
  | uri =>
    have absent := Option.isNone_iff_eq_none.1 (Option.isSome_eq_false_iff.1 untouched)
    have same : (o.apply c).cache.uri = c.cache.uri := by
      rw [apply, applyToCache, absent, Option.none_or]
    simp only [Checked.Breaks, Checked.report, same, and_self]
  | bindAddress =>
    have absent := Option.isNone_iff_eq_none.1 (Option.isSome_eq_false_iff.1 untouched)
    have same : (o.apply c).listener.bindAddress = c.listener.bindAddress := by
      rw [apply, applyToListener, absent]
      rfl
    simp only [Checked.Breaks, Checked.report, same, and_self]
  | host | name | user | limit | logFormat =>
    have absent := Option.isNone_iff_eq_none.1 (Option.isSome_eq_false_iff.1 untouched)
    simp only [Checked.Breaks, Checked.report, apply, applyToDatabase, applyToObservability, absent,
      Option.getD_none, and_self]

/-- The field that a violation is about is not overridden. -/
def Keeps (o : Overrides) (v : Config.Violation) : Prop :=
  ∃ f : Checked, o.overrides f = false ∧ v.path = f.path

instance (o : Overrides) (v : Config.Violation) : Decidable (o.Keeps v) :=
  decidable_of_iff (∃ f ∈ Checked.all, o.overrides f = false ∧ v.path = f.path)
    (by simp only [Keeps, Checked.mem_all, true_and])

/-- Overrides keep what is reported of a field just if they leave the field. -/
lemma keeps_report_iff (c : Config) : o.Keeps (f.report c) ↔ o.overrides f = false := by
  constructor
  · rintro ⟨f', untouched, same⟩
    rw [Config.path_report] at same
    rwa [Checked.path_injective same]
  · exact fun untouched => ⟨f, untouched, Config.path_report c f⟩

/-- What is reported of the fields that are not overridden. -/
lemma filter_keeps_violations (o : Overrides) (c : Config) :
    c.violations.filter (o.Keeps ·) =
      (Checked.all.filter fun f => o.overrides f = false ∧ f.Breaks c).map (·.report c) := by
  rw [Config.violations_eq, List.filter_map, List.filter_filter]
  congr 1
  refine List.filter_congr fun f _ => ?_
  simp only [Function.comp_apply, keeps_report_iff, Bool.decide_and]

/-- What is said of fields that are not overridden stays as it was. -/
theorem kept_violations (o : Overrides) (c : Config) :
    (o.apply c).violations.filter (o.Keeps ·) = c.violations.filter (o.Keeps ·) := by
  have same : ∀ f ∈ Checked.all, (decide (o.overrides f = false ∧ f.Breaks (o.apply c))) =
      decide (o.overrides f = false ∧ f.Breaks c) :=
    fun f _ => decide_eq_decide.2 (and_congr_right fun untouched => (kept c untouched).1)
  rw [filter_keeps_violations, filter_keeps_violations, List.filter_congr same]
  refine List.map_congr_left fun f mem => ?_
  exact (kept c (decide_eq_true_eq.mp (List.mem_filter.1 mem).2).1).2

/-! ## Ports -/

/-- The address that a port stands for is read back. -/
lemma ofString?_anyAddress (port : UInt16) :
    SocketAddress.ofString? (anyAddress port) = some (.v4 [0, 0, 0, 0] port.toNat) := by
  have spelled : anyAddress port =
      String.ofList ("0.0.0.0".toList ++ ':' :: Nat.toDigits 10 port.toNat) := by
    have digits : (toString port.toNat).toList = Nat.toDigits 10 port.toNat := Nat.toList_repr
    apply String.toList_inj.1
    rw [anyAddress, String.toList_append, digits]
    exact String.toList_ofList.symm
  rw [spelled]
  exact ofString?_ip4 (by decide) (by decide) port.toNat_lt

/-- A port that is given leaves nothing to report of the address. -/
lemma not_breaks_of_port {port : UInt16} (given : o.port = some port) (c : Config) :
    ¬ Checked.bindAddress.Breaks (o.apply c) := by
  have bound : (o.apply c).listener.bindAddress = anyAddress port := by
    rw [apply, applyToListener, given]
    rfl
  rw [Checked.Breaks, bound, ofString?_anyAddress]
  nofun

end Overrides

/-! ## Validation -/

namespace Config

/-- A configuration is valid just if no field breaks its rule, and otherwise has one violation for
each field that does, in the order of the fields, and no other. Overriding fields leaves what is
reported of the others as it was, and a port that is given leaves nothing to report of the address.
-/
theorem validate_exact (c : Config) :
    (validate c = .ok c ↔ ∀ f : Checked, ¬ f.Breaks c) ∧
    ((∃ f : Checked, f.Breaks c) →
      validate c = .error ((Checked.all.filter (·.Breaks c)).map (·.report c))) ∧
    (∀ o : Overrides,
      (o.apply c).violations.filter (o.Keeps ·) = c.violations.filter (o.Keeps ·)) ∧
    (∀ (o : Overrides) (port : UInt16), o.port = some port →
      ∀ v ∈ (o.apply c).violations, v.path ≠ "listener.bind_address") := by
  refine ⟨?valid, ?reported, fun o => o.kept_violations c, ?bound⟩
  case valid =>
    rw [← violations_eq_nil_iff, validate]
    split_ifs with none
    · exact iff_of_true rfl none
    · exact iff_of_false nofun none
  case reported =>
    rintro ⟨f, breaks⟩
    have some_violation : ¬ c.violations = [] :=
      fun none => (violations_eq_nil_iff c).1 none f breaks
    rw [validate, if_neg some_violation, violations_eq]
  case bound =>
    intro o port given v mem same
    rw [violations_eq] at mem
    obtain ⟨f, broken, rfl⟩ := List.mem_map.1 mem
    rw [path_report] at same
    obtain rfl : f = .bindAddress := Checked.path_injective same
    exact o.not_breaks_of_port given c (decide_eq_true_eq.mp (List.mem_filter.1 broken).2)

/-- Four fields break their rules, and a port is given that mends the first of them. The empty text
for a store overrides nothing. -/
theorem validate_exact_mended :
    let c : Config := ⟨{ Listener.standard with bindAddress := "not-an-address" },
      { Database.standard with name := "" }, { CacheSettings.standard with timeoutMs := 0 },
      { Observability.standard with logFormat := "xml" }⟩
    let o : Overrides := { Overrides.none with port := some 9000, memcache := some "" }
    validate c = .error [.invalidAddress "listener.bind_address" "not-an-address",
      .empty "database.name", .zeroCacheTimeout, .unknownLogFormat "xml"] ∧
    (o.apply c).violations.filter (o.Keeps ·) =
      [.empty "database.name", .zeroCacheTimeout, .unknownLogFormat "xml"] ∧
    ∀ v ∈ (o.apply c).violations, v.path ≠ "listener.bind_address" := by
  intro c o
  obtain ⟨-, reported, kept, bound⟩ := validate_exact c
  refine ⟨?_, ?_, bound o 9000 rfl⟩
  · rw [reported ⟨.name, rfl⟩]
    decide
  · rw [kept o, violations_eq]
    decide

end Config

end MetadataGateway
