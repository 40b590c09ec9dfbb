import Mathlib.Tactic.Common
import MetadataGateway.Net.Url
import MetadataGateway.Proofs.Lists

/-!
# What is known of a URL that was read

A URL that was read has a host with a name that is not empty, or no host, and a port of 16 bits, or
none (`Url.proper_of_ofString`). What stands in front of the colon of a text decides the scheme of
its URL, whatever stands behind it (`Url.scheme_of_ofString`).
-/

namespace MetadataGateway.Net

open Number

/-- A host has a name, if it is no address. -/
def HostName.Named (h : HostName) : Prop :=
  h ≠ .domain ""

namespace Url

variable {text rest : List Char} {h : HostName} {kind : SchemeKind} {host : Option HostName}
  {port : Option Nat}

/-- There is no host without a name, and no port beyond 16 bits. -/
structure Proper (host : Option HostName) (port : Option Nat) : Prop where
  named : ∀ h, host = some h → h.Named
  small : ∀ p, port = some p → p < 65536

/-! ## Hosts -/

/-- A domain of some characters has a name. -/
lemma named_domain (some_char : text ≠ []) : (HostName.domain (String.ofList text)).Named := by
  intro same
  have empty := congrArg String.toList (HostName.domain.inj same)
  rw [String.toList_ofList] at empty
  exact some_char empty

/-- An address in brackets has a name. -/
lemma named_of_bracketed (read : bracketed text = .ok h) : h.Named := by
  unfold bracketed at read
  split at read
  · split at read <;> cases read
    nofun
  · cases read

/-- A host that is taken as it stands has a name. -/
lemma named_of_plainHost (some_char : text ≠ []) (read : plainHost text = .ok h) : h.Named := by
  unfold plainHost at read
  split_ifs at read
  · exact named_of_bracketed read
  · cases read
    exact named_domain some_char

/-- A host that is read as a domain has a name. -/
lemma named_of_domainHost (read : domainHost text = .ok h) : h.Named := by
  unfold domainHost at read
  split at read
  · exact named_of_bracketed read
  · split at read
    · cases read
    · split_ifs at read with none number
      · split at read <;> cases read
        nofun
      · cases read
        exact named_domain none

/-! ## Authorities -/

/-- A port that is read has 16 bits. -/
lemma lt_of_readPort (read : readPort text = .ok (port, rest)) :
    ∀ p, port = some p → p < 65536 := by
  unfold readPort at read
  split at read
  · dsimp only at read
    split_ifs at read with large ended digits
    · cases read
      nofun
    · cases read
      rintro _ ⟨⟩
      omega
  · cases read
    nofun

/-- A host and a port that are read are proper. -/
lemma proper_of_hostAndPort (read : hostAndPort kind text = .ok (host, port, rest)) :
    Proper host port := by
  cases kind with
  | web own =>
    simp only [hostAndPort] at read
    split_ifs at read
    obtain ⟨named, host_read, read⟩ := bind_eq_ok_iff.1 read
    obtain ⟨⟨said, behind⟩, port_read, read⟩ := bind_eq_ok_iff.1 read
    cases read
    constructor
    · rintro _ ⟨⟩
      exact named_of_domainHost host_read
    · intro p here
      split_ifs at here
      exact lt_of_readPort port_read p here
  | file | other =>
    simp only [hostAndPort] at read
    obtain ⟨named, host_read, read⟩ := bind_eq_ok_iff.1 read
    split at read
    · cases read
    · obtain ⟨⟨said, behind⟩, port_read, read⟩ := bind_eq_ok_iff.1 read
      cases read
      constructor
      · intro h here
        split_ifs at here with none
        cases here
        exact named_of_plainHost none host_read
      · exact lt_of_readPort port_read

/-- The host and the port of an authority are proper. -/
lemma proper_of_authority (read : authority kind text = .ok (host, port, rest)) :
    Proper host port := by
  simp only [authority] at read
  split at read
  · obtain ⟨⟨host', port', rest'⟩, inner, read⟩ := bind_eq_ok_iff.1 read
    cases read
    exact proper_of_hostAndPort inner
  · split_ifs at read
    obtain ⟨⟨host', port', rest'⟩, inner, read⟩ := bind_eq_ok_iff.1 read
    dsimp only at read
    split_ifs at read
    cases read
    exact proper_of_hostAndPort inner

/-- The host of a file has a name, if there is one. -/
lemma named_of_fileHost (read : fileHost text = .ok (host, rest)) :
    ∀ h, host = some h → h.Named := by
  simp only [fileHost] at read
  split_ifs at read
  · cases read
    nofun
  · obtain ⟨named, host_read, read⟩ := bind_eq_ok_iff.1 read
    cases read
    intro h here
    split_ifs at here
    cases here
    exact named_of_domainHost host_read

/-! ## Whole texts -/

/-- The scheme of a URL is the one that was read, and its host and port are proper. -/
lemma ofParts_eq_ok {scheme : String} {url : Url} (read : ofParts scheme text = .ok url) :
    url.scheme = scheme ∧ Proper url.host url.port := by
  unfold ofParts at read
  split at read
  · dsimp only at read
    split at read
    · obtain ⟨⟨host, rest⟩, host_read, read⟩ := bind_eq_ok_iff.1 read
      cases read
      exact ⟨rfl, named_of_fileHost host_read, nofun⟩
    · cases read
      exact ⟨rfl, nofun, nofun⟩
  · obtain ⟨⟨host, port, rest⟩, inner, read⟩ := bind_eq_ok_iff.1 read
    cases read
    exact ⟨rfl, proper_of_authority inner⟩
  · split at read
    · obtain ⟨⟨host, port, rest⟩, inner, read⟩ := bind_eq_ok_iff.1 read
      cases read
      exact ⟨rfl, proper_of_authority inner⟩
    · cases read
      exact ⟨rfl, nofun, nofun⟩
    · cases read
      exact ⟨rfl, nofun, nofun⟩

/-- The host and the port of a URL are proper. -/
theorem proper_of_ofString {raw : String} {url : Url} (read : ofString raw = .ok url) :
    Proper url.host url.port := by
  unfold ofString at read
  split at read
  · exact (ofParts_eq_ok read).2
  · cases read

/-! ## Schemes -/

/-- What a text begins with counts, if none of it is a space or a control. -/
lemma significant_append {front : List Char} (some_char : front ≠ [])
    (printed : ∀ c ∈ front, ' ' < c) (rest : List Char) :
    ∃ rest', significant (front ++ rest) = front ++ rest' := by
  have solid : ∀ c ∈ front, ¬ decide (c ≤ ' ') = true :=
    fun c mem => by simpa using printed c mem
  have starts (back : List Char) : (front ++ back).dropWhile (· ≤ ' ') = front ++ back := by
    obtain ⟨c, front, rfl⟩ := List.exists_cons_of_ne_nil some_char
    exact List.dropWhile_cons_of_neg (solid c List.mem_cons_self)
  have turned : front.reverse.dropWhile (· ≤ ' ') = front.reverse := by
    obtain ⟨c, back, here⟩ :=
      List.exists_cons_of_ne_nil (mt List.reverse_eq_nil_iff.1 some_char)
    have mem : c ∈ front := List.mem_reverse.1 (here ▸ List.mem_cons_self)
    rw [here]
    exact List.dropWhile_cons_of_neg (solid c mem)
  have ends : ∃ back, ((front ++ rest).reverse.dropWhile (· ≤ ' ')).reverse = front ++ back := by
    rw [List.reverse_append, List.dropWhile_append]
    split_ifs
    · exact ⟨[], by rw [turned, List.reverse_reverse, List.append_nil]⟩
    · exact ⟨_, by rw [List.reverse_append, List.reverse_reverse]⟩
  have counts : front.filter (fun c => !(c == '\t' || c == '\n' || c == '\r')) = front := by
    refine List.filter_eq_self.2 fun c mem => ?_
    have other : c ≠ '\t' ∧ c ≠ '\n' ∧ c ≠ '\r' := by
      refine ⟨?_, ?_, ?_⟩ <;> rintro rfl <;> exact absurd (printed _ mem) (by decide)
    simp [other]
  obtain ⟨back, ended⟩ := ends
  refine ⟨back.filter fun c => !(c == '\t' || c == '\n' || c == '\r'), ?_⟩
  rw [significant, starts, ended, List.filter_append, counts]

/-- The characters of a scheme come behind the space. -/
lemma space_lt_of_isSchemeChar {c : Char} (scheme : isSchemeChar c = true) : ' ' < c := by
  by_contra control
  have small : c.toNat ≤ ' '.toNat := Char.not_lt.1 control
  have none : ∀ n < 33, isSchemeChar (Char.ofNat n) = false := by decide
  have other := none c.toNat (Nat.lt_succ_of_le small)
  rw [Char.ofNat_toNat, scheme] at other
  cases other

/-- The characters of a scheme in front of a colon are the scheme, in lower case. -/
lemma cutScheme?_append {front : List Char} {c : Char} (letter : c.isAlpha = true)
    (all : ∀ b ∈ c :: front, isSchemeChar b = true) (rest : List Char) :
    cutScheme? (c :: front ++ ':' :: rest) =
      some (String.ofList ((c :: front).map Char.toLower), rest) := by
  have stops : ¬ isSchemeChar ':' = true := by decide
  rw [cutScheme?, List.takeWhile_append_of_pos all, List.dropWhile_append_of_pos all,
    List.takeWhile_cons_of_neg stops, List.dropWhile_cons_of_neg stops, List.append_nil]
  simp [letter]

/-- What stands in front of the first colon of a text is the scheme of its URL. -/
theorem scheme_of_ofString {raw : String} {url : Url} {c : Char} {front rest : List Char}
    (here : raw.toList = c :: front ++ ':' :: rest) (letter : c.isAlpha = true)
    (all : ∀ b ∈ c :: front, isSchemeChar b = true) (read : ofString raw = .ok url) :
    url.scheme = String.ofList ((c :: front).map Char.toLower) := by
  have printed : ∀ b ∈ c :: front ++ [':'], ' ' < b := by
    intro b mem
    rcases List.mem_append.1 mem with scheme | colon
    · exact space_lt_of_isSchemeChar (all b scheme)
    · rw [List.mem_singleton.1 colon]
      decide
  obtain ⟨rest', counts⟩ := significant_append (by simp) printed rest
  have whole : significant raw.toList = c :: front ++ ':' :: rest' := by
    rw [here, List.append_cons, counts, ← List.append_cons]
  rw [ofString, whole, cutScheme?_append letter all] at read
  exact (ofParts_eq_ok read).1

end Url

end MetadataGateway.Net
