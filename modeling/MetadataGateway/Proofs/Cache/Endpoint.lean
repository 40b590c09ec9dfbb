import Mathlib.Data.List.TakeWhile
import MetadataGateway.Cache.Remote
import MetadataGateway.Proofs.Config.Violations
import MetadataGateway.Proofs.Net.Url

/-!
# Where a store may be

A text says where a store is just if its source name is a URL that is a TCP endpoint, a socket, or
has a host and a port behind a scheme of its own (`isEndpointText_iff`). The scheme is looked at for
sockets only: the third kind is valid like the other two, but leads to no machine, since the whole
of it is taken for an address (`slash_of_isForeign`).
-/

namespace MetadataGateway.Cache

open Net Number

variable {uri source : String} {url : Url} {place : Endpoint}

/-! ## What a URL says -/

/-- A URL has a host with a name and a port. -/
def NamesMachine (url : Url) : Prop :=
  ∃ host port, url.host = some host ∧ host.Named ∧ url.port = some port ∧ port < 65536

/-- A store that is reached by TCP. -/
def IsTcp (url : Url) : Prop :=
  url.scheme = "tcp" ∧ NamesMachine url

/-- A store at a socket of the same machine. -/
def IsSocket (url : Url) : Prop :=
  url.scheme = "unix" ∧ url.path ≠ ""

/-- A host and a port behind a scheme by which no store is reached. -/
def IsForeign (url : Url) : Prop :=
  url.scheme ≠ "tcp" ∧ url.scheme ≠ "unix" ∧ NamesMachine url

/-- Of what was read, host and port are looked at only for whether they are there. -/
lemma namesMachine_iff (proper : Url.Proper url.host url.port) :
    NamesMachine url ↔ (url.host.isSome && url.port.isSome) = true := by
  rw [Bool.and_eq_true, Option.isSome_iff_exists, Option.isSome_iff_exists]
  constructor
  · rintro ⟨host, port, some_host, -, some_port, -⟩
    exact ⟨⟨host, some_host⟩, ⟨port, some_port⟩⟩
  · rintro ⟨⟨host, some_host⟩, ⟨port, some_port⟩⟩
    exact ⟨host, port, some_host, proper.named host some_host, some_port,
      proper.small port some_port⟩

/-- A URL is taken for that of a store just if it is a TCP endpoint, a socket, or of another scheme
with a host and a port. -/
lemma isEndpoint_iff (proper : Url.Proper url.host url.port) :
    isEndpoint url = true ↔ IsTcp url ∨ IsSocket url ∨ IsForeign url := by
  rw [isEndpoint, IsTcp, IsSocket, IsForeign, namesMachine_iff proper]
  by_cases socket : url.scheme = "unix"
  · rw [if_pos socket, bne_iff_ne]
    simp [socket]
  · rw [if_neg socket]
    by_cases tcp : url.scheme = "tcp" <;> simp [tcp, socket]

/-! ## Source names -/

/-- The mark of a scheme stands in a text. -/
lemma hasMark_iff (text : List Char) :
    hasScheme.hasMark text = true ↔ ∃ front rest, text = front ++ ':' :: '/' :: '/' :: rest := by
  induction text with
  | nil => simp [hasScheme.hasMark]
  | cons c text ih =>
    rw [hasScheme.hasMark, Bool.or_eq_true, ih]
    constructor
    · rintro (here | ⟨front, rest, rfl⟩)
      · obtain ⟨rest, here⟩ := List.isPrefixOf_iff_prefix.1 here
        exact ⟨[], rest, here.symm⟩
      · exact ⟨c :: front, rest, rfl⟩
    · rintro ⟨front, rest, here⟩
      cases front with
      | nil => exact .inl (List.isPrefixOf_iff_prefix.2 ⟨rest, here.symm⟩)
      | cons d front => exact .inr ⟨front, rest, (List.cons.inj here).2⟩

/-- A source name has a scheme. -/
lemma hasScheme_sourceName (uri : String) : hasScheme (sourceName uri) = true := by
  rw [sourceName]
  split_ifs with named
  · exact named
  · refine (hasMark_iff _).2 ⟨"tcp".toList, uri.toList, ?_⟩
    rw [String.toList_append]
    rfl

/-- What names no scheme is a TCP endpoint. -/
lemma scheme_of_sourceName (bare : hasScheme uri = false)
    (read : Url.ofString (sourceName uri) = .ok url) : url.scheme = "tcp" := by
  have named : (sourceName uri).toList =
      't' :: "cp".toList ++ ':' :: ("//".toList ++ uri.toList) := by
    rw [sourceName, bare, if_neg Bool.false_ne_true, String.toList_append]
    rfl
  have lower : String.ofList (('t' :: "cp".toList).map Char.toLower) = "tcp" := by decide
  rw [Url.scheme_of_ofString named (by decide) (List.all_eq_true.1 (by decide)) read, lower]

/-- A text says where a store is just if it stands for one of three kinds of URLs; the third has its
scheme from the text. -/
theorem isEndpointText_iff : isEndpointText uri = true ↔
    ∃ url, Url.ofString (sourceName uri) = .ok url ∧
      (IsTcp url ∨ IsSocket url ∨ hasScheme uri = true ∧ IsForeign url) := by
  unfold isEndpointText
  cases read : Url.ofString (sourceName uri) with
  | error e => simp
  | ok url =>
    have named : IsForeign url → hasScheme uri = true := by
      intro foreign
      by_contra bare
      exact foreign.1 (scheme_of_sourceName (Bool.not_eq_true _ ▸ bare) read)
    show isEndpoint url = true ↔ _
    rw [isEndpoint_iff (Url.proper_of_ofString read)]
    simp only [Except.ok.injEq, exists_eq_left', and_iff_right_of_imp named]

/-! ## Where a source name leads -/

/-- A TCP endpoint leads to its host and port. -/
lemma endpointOf_of_isTcp (tcp : IsTcp url) (source : String) :
    ∃ host port, url.host = some host ∧ url.port = some port ∧
      Remote.endpointOf source url = .ok (.tcp (Remote.hostText host) port) := by
  obtain ⟨scheme, host, port, some_host, -, some_port, -⟩ := tcp
  refine ⟨host, port, some_host, some_port, ?_⟩
  rw [Remote.endpointOf, scheme, some_host, some_port]
  rfl

/-- A socket leads to its path. -/
lemma endpointOf_of_isSocket (socket : IsSocket url) (source : String) :
    Remote.endpointOf source url = (Endpoint.ofPath url.path).mapError .unreached := by
  rw [Remote.endpointOf, socket.1]
  rfl

/-- An address is the name of a machine and a port behind the last colon. -/
lemma ofAddress_eq_ok (read : Endpoint.ofAddress source = .ok place) :
    ∃ host port n, source.toList = host ++ ':' :: port ∧ ':' ∉ port ∧
      readInteger 0 65535 port = .ok n ∧ place = .tcp (String.ofList host) n.toNat := by
  unfold Endpoint.ofAddress at read
  dsimp only at read
  split at read
  · cases read
  · rename_i none
    have colon : ':' ∈ source.toList.reverse := by simpa using none
    have cut := congrArg List.reverse (takeWhile_append_cons_dropWhile colon)
    rw [List.reverse_append, List.reverse_cons, List.append_assoc, List.reverse_reverse] at cut
    split at read
    · cases read
    · rename_i n number
      split at read
      · cases read
      · cases read
        refine ⟨_, _, n, cut.symm, ?_, number, rfl⟩
        intro here
        simpa using List.mem_takeWhile_imp (List.mem_reverse.1 here)

/-- If no slash stands before the last colon of a text with a scheme, one stands behind it. -/
lemma port_of_hasMark {host port : List Char}
    (marked : hasScheme.hasMark (host ++ ':' :: port) = true) (last : ':' ∉ port)
    (plain : '/' ∉ host) : ∃ rest, port = '/' :: rest := by
  obtain ⟨front, rest, here⟩ := (hasMark_iff _).1 marked
  rcases List.append_eq_append_iff.1 here with ⟨more, rfl, behind⟩ | ⟨more, rfl, behind⟩
  · cases more with
    | nil => exact ⟨_, (List.cons.inj behind).2⟩
    | cons c more =>
      refine absurd ?_ last
      rw [(List.cons.inj behind).2]
      simp
  · match more, behind with
    | [], behind => exact ⟨_, (List.cons.inj behind).2.symm⟩
    | [_], behind => cases behind
    | _ :: c :: more, behind =>
      have slash : '/' = c := (List.cons.inj (List.cons.inj behind).2).1
      refine absurd ?_ plain
      rw [← slash]
      simp

/-- A source name with a scheme that is taken for an address names no machine: there is a slash in
its host. -/
lemma slash_of_ofAddress (marked : hasScheme source = true)
    (read : Endpoint.ofAddress source = .ok place) :
    ∃ host port, place = .tcp host port ∧ '/' ∈ host.toList := by
  obtain ⟨host, port, n, cut, last, number, rfl⟩ := ofAddress_eq_ok read
  refine ⟨_, _, rfl, ?_⟩
  rw [String.toList_ofList]
  by_contra plain
  rw [hasScheme, cut] at marked
  obtain ⟨rest, rfl⟩ := port_of_hasMark marked last plain
  cases number

/-- A scheme by which no store is reached leads to no name of a machine either. -/
lemma slash_of_isForeign (foreign : IsForeign url) (marked : hasScheme source = true)
    (led : Remote.endpointOf source url = .ok place) :
    ∃ host port, place = .tcp host port ∧ '/' ∈ host.toList := by
  have whole : Remote.endpointOf source url =
      (Endpoint.ofAddress source).mapError .unreached := by
    rw [Remote.endpointOf]
    split
    · exact absurd ‹_› foreign.2.1
    · exact absurd ‹_› foreign.1
    · rfl
  rw [whole] at led
  cases address : Endpoint.ofAddress source with
  | error e =>
    rw [address] at led
    cases led
  | ok place' =>
    rw [address] at led
    cases led
    exact slash_of_ofAddress marked address

/-! ## Valid configurations -/

variable {c : Config}

/-- The text for a store is reported just if it does not say where one is. -/
lemma invalidCacheUri_mem_iff (given : c.cache.uri = some uri) :
    .invalidCacheUri uri ∈ c.violations ↔ ¬ isEndpointText uri = true := by
  have breaks : Checked.uri.Breaks c ↔ ¬ isEndpointText uri = true := by
    simp [Checked.Breaks, given]
  rw [← breaks, Config.violations_eq, List.mem_map]
  constructor
  · rintro ⟨f, mem, same⟩
    cases f with
    | uri => exact of_decide_eq_true (List.mem_filter.1 mem).2
    | _ => cases same
  · intro broken
    refine ⟨.uri, List.mem_filter.2 ⟨Checked.mem_all _, decide_eq_true broken⟩, ?_⟩
    rw [Checked.report, given]
    rfl

/-- Nothing is reported of the text for a store just if the URL that the store is reached by is a
TCP endpoint, a socket with a path, or, if the text has a scheme, a host and a port behind a scheme
that is neither. The first leads to its host and port and the second to its path, but the third to
no name of a machine. -/
theorem invalidCacheUri_not_mem_iff {r : Remote} (given : c.cache.uri = some uri)
    (store : Remote.ofSettings c.cache = some r) :
    (.invalidCacheUri uri ∉ c.violations ↔ ∃ url, Url.ofString r.source = .ok url ∧
      (IsTcp url ∨ IsSocket url ∨ hasScheme uri = true ∧ IsForeign url)) ∧
    ∀ url, Url.ofString r.source = .ok url →
      (IsTcp url → ∃ host port, url.host = some host ∧ url.port = some port ∧
        Remote.endpoint r.source = .ok (.tcp (Remote.hostText host) port)) ∧
      (IsSocket url →
        Remote.endpoint r.source = (Endpoint.ofPath url.path).mapError .unreached) ∧
      (IsForeign url → ∀ place, Remote.endpoint r.source = .ok place →
        ∃ host port, place = .tcp host port ∧ '/' ∈ host.toList) := by
  have named : r.source = sourceName uri := by
    rw [Remote.ofSettings, given] at store
    cases store
    rfl
  refine ⟨?reported, fun url read => ?leads⟩
  case reported =>
    rw [invalidCacheUri_mem_iff given, not_not, named]
    exact isEndpointText_iff
  case leads =>
    have leads : Remote.endpoint r.source = Remote.endpointOf r.source url := by
      rw [Remote.endpoint, read]
    rw [leads]
    exact ⟨fun tcp => endpointOf_of_isTcp tcp r.source,
      fun socket => endpointOf_of_isSocket socket r.source,
      fun foreign _ => slash_of_isForeign foreign (named ▸ hasScheme_sourceName uri)⟩

/-- The standard place of a store, without a scheme: a TCP endpoint. -/
theorem invalidCacheUri_not_mem_iff_bare :
    let c : Config := { Config.standard with
      cache := { CacheSettings.standard with uri := some "localhost:11211" } }
    .invalidCacheUri "localhost:11211" ∉ c.violations := by
  intro c
  have endpoint : IsTcp ⟨"tcp", some (.domain "localhost"), some 11211, ""⟩ :=
    ⟨rfl, _, _, rfl, Url.named_domain (by decide), rfl, by decide⟩
  exact (invalidCacheUri_not_mem_iff (c := c) rfl rfl).1.2
    ⟨_, by decide +kernel, .inl endpoint⟩

/-- The scheme of another kind of store, with a host and a port: the configuration is valid. -/
theorem validate_foreign_scheme :
    let c : Config := { Config.standard with
      cache := { CacheSettings.standard with uri := some "redis://h:6379" } }
    let r : Remote := ⟨"redis://h:6379", 100⟩
    let url : Url := ⟨"redis", some (.domain "h"), some 6379, ""⟩
    Config.validate c = .ok c ∧ Remote.ofSettings c.cache = some r ∧
    Url.ofString r.source = .ok url ∧ ¬ IsTcp url ∧ ¬ IsSocket url := by
  refine ⟨by decide +kernel, by decide +kernel, by decide +kernel, ?_, ?_⟩
  · exact fun tcp => absurd tcp.1 (by decide)
  · exact fun socket => absurd socket.1 (by decide)

end MetadataGateway.Cache
