import Mathlib.Data.List.TakeWhile
import MetadataGateway.Http.Handler
import MetadataGateway.Http.Target
import MetadataGateway.Proofs.Preparation
import MetadataGateway.Proofs.Text.Utf8

/-!
# Targets without a path

The path and query that is taken from a target begins with a slash or is a star, unless the target
is a URI in which the query follows the authority at once (`Target.read_head?`). Then there is no
path, and the request that is read has the empty path (`gpath_eq_empty_iff`), although one without
path and query has the path `/`. So of all targets only these make the path argument of an operation
empty.
-/

namespace MetadataGateway

namespace Utf8

/-- What is begun is completed or replaced. -/
lemma decodeFrom_ne_nil (p : Pending) (octets : List UInt8) : decodeFrom (some p) octets ≠ [] := by
  induction octets generalizing p with
  | nil => exact List.cons_ne_nil _ _
  | cons b rest ih =>
    rw [decodeFrom]
    cases p.feed b with
    | char c => exact List.cons_ne_nil _ _
    | more q => exact ih q
    | broken => exact List.cons_ne_nil _ _

/-- Only no octets are decoded to the empty text. -/
lemma decodeLossy_eq_nil_iff {octets : List UInt8} : decodeLossy octets = [] ↔ octets = [] := by
  cases octets with
  | nil => exact iff_of_true rfl rfl
  | cons b rest =>
    refine iff_of_false ?_ (List.cons_ne_nil b rest)
    rw [decodeLossy, decodeFrom]
    cases lead b with
    | char c => exact List.cons_ne_nil _ _
    | more q => exact decodeFrom_ne_nil q rest
    | broken => exact List.cons_ne_nil _ _

/-- Only the empty text is encoded without octets. -/
lemma encode_eq_nil_iff {text : List Char} : encode text = [] ↔ text = [] := by
  rw [← decodeLossy_eq_nil_iff, decodeLossy_encode]

end Utf8

namespace Text

/-- Only no octets are decoded to none. -/
lemma percentDecode_eq_nil_iff {octets : List UInt8} : percentDecode octets = [] ↔ octets = [] := by
  unfold percentDecode
  split
  · split
    · split <;> exact iff_of_false (List.cons_ne_nil _ _) (List.cons_ne_nil _ _)
    · exact iff_of_false (List.cons_ne_nil _ _) (List.cons_ne_nil _ _)
  · exact Iff.rfl

/-- Only no octets are decoded to the empty string. -/
lemma percentDecodeText_eq_empty_iff {octets : List UInt8} :
    percentDecodeText octets = "" ↔ octets = [] := by
  rw [percentDecodeText, String.ofList_eq_empty_iff, Utf8.decodeLossy_eq_nil_iff,
    percentDecode_eq_nil_iff]

end Text

/-- The path of a request is empty just if there is nothing before the query of its target. -/
lemma Request.gpath_ofTarget_eq_empty_iff {target : String} {body : Option (List UInt8)} :
    (ofTarget target body).gpath = "" ↔ pathOf target.toList = [] := by
  rw [ofTarget, Text.percentDecodeText_eq_empty_iff, Utf8.encode_eq_nil_iff]

namespace Http

namespace Target

variable {text octets scheme rest : List UInt8}

/-- A URI without a path but with a query, which follows the authority at once. -/
def Pathless (text : List UInt8) : Prop :=
  ∃ scheme authority query, text = scheme ++ 0x3A :: 0x2F :: 0x2F :: (authority ++ 0x3F :: query) ∧
    (∀ b ∈ scheme, isSchemeOctet b = true) ∧ ∀ b ∈ authority, isAuthorityEnd b = false

/-! ## Schemes -/

/-- What stands behind the scheme of a URI is what the scheme is dropped from. -/
lemma dropScheme?_spelled (spelled : ∀ b ∈ scheme, isSchemeOctet b = true) (more : rest ≠ []) :
    dropScheme? (scheme ++ 0x3A :: 0x2F :: 0x2F :: rest) =
      if maxSchemeLength < scheme.length then .error .schemeTooLong else .ok (some rest) := by
  have colon : ¬ isSchemeOctet 0x3A = true := by decide
  have long : ¬ (scheme ++ 0x3A :: 0x2F :: 0x2F :: rest).length ≤ 3 := by
    have pos := List.length_pos_of_ne_nil more
    simp only [List.length_append, List.length_cons]
    omega
  unfold dropScheme?
  rw [List.takeWhile_append_of_pos spelled, List.dropWhile_append_of_pos spelled,
    List.takeWhile_cons_of_neg colon, List.dropWhile_cons_of_neg colon, List.append_nil]
  exact if_neg long

/-- A scheme that is dropped stood in front, with a colon and two slashes. -/
lemma eq_of_dropScheme? (dropped : dropScheme? text = .ok (some rest)) :
    text = text.takeWhile isSchemeOctet ++ 0x3A :: 0x2F :: 0x2F :: rest := by
  unfold dropScheme? at dropped
  split at dropped
  · rename_i behind here
    dsimp only at dropped
    split_ifs at dropped
    · cases dropped
    · cases dropped
      have whole := List.takeWhile_append_dropWhile (p := isSchemeOctet) (l := text)
      rw [here] at whole
      exact whole.symm
  · cases dropped

/-- A URI has a query in place of its path just if its authority ends in a question mark. -/
lemma pathless_iff (dropped : dropScheme? text = .ok (some rest)) :
    Pathless text ↔ ∃ query, rest.dropWhile (!isAuthorityEnd ·) = 0x3F :: query := by
  constructor
  · rintro ⟨scheme, authority, query, rfl, spelled, inside⟩
    have some_rest : authority ++ 0x3F :: query ≠ [] :=
      List.append_ne_nil_of_right_ne_nil _ (List.cons_ne_nil _ _)
    rw [dropScheme?_spelled spelled some_rest] at dropped
    split_ifs at dropped
    cases dropped
    refine ⟨query, ?_⟩
    rw [List.dropWhile_append_of_pos fun b mem => by rw [inside b mem]; rfl]
    exact List.dropWhile_cons_of_neg (by decide)
  · rintro ⟨query, behind⟩
    refine ⟨text.takeWhile isSchemeOctet, rest.takeWhile (!isAuthorityEnd ·), query, ?_, ?_, ?_⟩
    · rw [← behind, List.takeWhile_append_dropWhile]
      exact eq_of_dropScheme? dropped
    · exact fun b mem => List.mem_takeWhile_imp mem
    · intro b mem
      have inside := List.mem_takeWhile_imp (p := (!isAuthorityEnd ·)) mem
      rwa [Bool.not_eq_true'] at inside

/-! ## The path and query of a target -/

/-- A path and query is all that stands before a fragment. -/
lemma pathAndQuery_eq_ok (accepted : pathAndQuery text = .ok octets) :
    octets = text.takeWhile (!isHash ·) := by
  unfold pathAndQuery at accepted
  dsimp only at accepted
  split_ifs at accepted
  cases accepted
  have front : ∀ b ∈ text.takeWhile (!isPathEnd ·), (!isHash b) = true := by
    intro b mem
    have inside := List.mem_takeWhile_imp (p := (!isPathEnd ·)) mem
    simp only [isPathEnd, Bool.not_or, Bool.and_eq_true] at inside
    exact inside.2
  rw [← List.takeWhile_append_of_pos front, List.takeWhile_append_dropWhile]

/-- A path and query begins as it did before its fragment was cut off. -/
lemma head?_pathAndQuery {b : UInt8} (kept : isHash b = false)
    (accepted : pathAndQuery (b :: rest) = .ok octets) : octets.head? = some b := by
  rw [pathAndQuery_eq_ok accepted, List.takeWhile_cons_of_pos (by rw [kept]; rfl)]
  rfl

/-- What is left behind an authority is nothing, or begins with the octet that ended it. -/
lemma dropWhile_authority (rest : List UInt8) :
    rest.dropWhile (!isAuthorityEnd ·) = [] ∨
      ∃ b behind, rest.dropWhile (!isAuthorityEnd ·) = b :: behind ∧
        (b = 0x2F ∨ b = 0x3F ∨ b = 0x23) := by
  cases left : rest.dropWhile (!isAuthorityEnd ·) with
  | nil => exact .inl rfl
  | cons b behind =>
    right
    have stopped := List.head?_dropWhile_not (!isAuthorityEnd ·) rest
    rw [left] at stopped
    have ending : isAuthorityEnd b = true := by simpa using stopped
    simp only [isAuthorityEnd, isPathEnd, isHash, Bool.or_eq_true, beq_iff_eq] at ending
    exact ⟨b, behind, rfl, ending⟩

/-- An authority reaches up to the first octet that ends one. -/
lemma authority_eq_ok (accepted : authority rest = .ok octets) :
    octets = rest.takeWhile (!isAuthorityEnd ·) := by
  obtain ⟨a, -, accepted⟩ := bind_eq_ok_iff.1 accepted
  split_ifs at accepted
  cases accepted
  rfl

/-- A URI without a path is as long as what marks its parts, and begins with none of them but the
first. -/
lemma Pathless.begins (pathless : Pathless text) :
    3 < text.length ∧ ∀ behind, text ≠ 0x2F :: behind := by
  obtain ⟨scheme, authority, query, rfl, spelled, -⟩ := pathless
  constructor
  · simp only [List.length_append, List.length_cons]
    omega
  · intro behind same
    cases scheme with
    | nil => cases same
    | cons b scheme =>
      cases same
      exact absurd (spelled _ List.mem_cons_self) (by decide)

/-- A target without a path has a scheme. -/
lemma Pathless.dropScheme?_ne (pathless : Pathless text) : dropScheme? text ≠ .ok none := by
  obtain ⟨scheme, authority, query, rfl, spelled, -⟩ := pathless
  have some_rest : authority ++ 0x3F :: query ≠ [] :=
    List.append_ne_nil_of_right_ne_nil _ (List.cons_ne_nil _ _)
  rw [dropScheme?_spelled spelled some_rest]
  split_ifs <;> nofun

/-- What begins with an octet keeps it where a slash is put for nothing. -/
lemma head?_orSlash {b : UInt8} (first : octets.head? = some b) :
    (if octets = [] then [octet '/'] else octets).head? = some b := by
  have some_octets : octets ≠ [] := by
    rintro rfl
    cases first
  rw [if_neg some_octets, first]

/-- What is taken from behind an authority begins with the slash that is there or that stands for no
path and query, unless there is a question mark. -/
lemma head?_behindAuthority
    (accepted : pathAndQuery (rest.dropWhile (!isAuthorityEnd ·)) = .ok octets) :
    ((∃ query, rest.dropWhile (!isAuthorityEnd ·) = 0x3F :: query) ∧
        octets.head? = some 0x3F) ∨
      ((¬ ∃ query, rest.dropWhile (!isAuthorityEnd ·) = 0x3F :: query) ∧
        (octets = [] ∨ octets.head? = some 0x2F)) := by
  obtain none | ⟨b, behind, left, rfl | rfl | rfl⟩ := dropWhile_authority rest
  · rw [none] at accepted ⊢
    exact .inr ⟨nofun, .inl (pathAndQuery_eq_ok accepted)⟩
  · rw [left] at accepted ⊢
    exact .inr ⟨nofun, .inr (head?_pathAndQuery rfl accepted)⟩
  · rw [left] at accepted ⊢
    exact .inl ⟨⟨behind, rfl⟩, head?_pathAndQuery rfl accepted⟩
  · rw [left] at accepted ⊢
    exact .inr ⟨nofun, .inl (pathAndQuery_eq_ok accepted)⟩

/-- What is taken from a target begins with a slash or is a star, unless there is a query where a
URI may have its path. -/
lemma read_head? (accepted : read text = .ok octets) :
    (Pathless text ∧ octets.head? = some 0x3F) ∨
      (¬ Pathless text ∧ (octets.head? = some 0x2F ∨ octets.head? = some 0x2A)) := by
  unfold read at accepted
  split_ifs at accepted
  split at accepted
  · cases accepted
  · -- a star
    cases accepted
    exact .inr ⟨fun pathless => absurd pathless.begins.1 (by decide), .inr rfl⟩
  · -- a path, perhaps with a query
    rename_i behind _
    refine .inr ⟨fun pathless => pathless.begins.2 behind rfl, .inl ?_⟩
    exact head?_pathAndQuery rfl accepted
  · -- an authority of one octet
    obtain ⟨front, -, accepted⟩ := bind_eq_ok_iff.1 accepted
    split_ifs at accepted
    cases accepted
    exact .inr ⟨fun pathless => absurd pathless.begins.1 (by simp), .inl rfl⟩
  · obtain ⟨dropped, here, accepted⟩ := bind_eq_ok_iff.1 accepted
    split at accepted
    · -- a longer authority
      obtain ⟨front, -, accepted⟩ := bind_eq_ok_iff.1 accepted
      split_ifs at accepted
      cases accepted
      exact .inr ⟨fun pathless => pathless.dropScheme?_ne here, .inl rfl⟩
    · cases accepted
    · -- a URI
      rename_i rest _
      obtain ⟨front, ended, accepted⟩ := bind_eq_ok_iff.1 accepted
      split_ifs at accepted
      obtain ⟨found, taken, accepted⟩ := bind_eq_ok_iff.1 accepted
      rw [authority_eq_ok ended, drop_length_takeWhile] at taken
      rw [pathless_iff here]
      cases accepted
      obtain ⟨query, first⟩ | ⟨none, rfl | first⟩ := head?_behindAuthority taken
      · exact .inl ⟨query, head?_orSlash first⟩
      · exact .inr ⟨none, .inl rfl⟩
      · exact .inr ⟨none, .inl (head?_orSlash first)⟩

/-- The text that is taken from a target has no path just if the target has none. -/
lemma pathOf_ofString {text target : String} (accepted : ofString text = .ok target) :
    Request.pathOf target.toList = [] ↔ Pathless (Utf8.encodeString text) := by
  unfold ofString at accepted
  cases taken : read (Utf8.encodeString text) with
  | error e =>
    rw [taken] at accepted
    cases accepted
  | ok octets =>
    rw [taken] at accepted
    cases accepted
    rw [String.toList_ofList]
    -- The first octet is one of three, each of which is a character.
    have ascii (n : Nat) (small : n ≤ 0x7F) (first : octets.head? = some (UInt8.ofNat n)) :
        ∃ rest, Utf8.decodeLossy octets = Char.ofNat n :: rest := by
      obtain ⟨behind, rfl⟩ := List.head?_eq_some_iff.1 first
      exact ⟨_, Utf8.decodeFrom_one small⟩
    rcases read_head? taken with ⟨pathless, first⟩ | ⟨path, first | first⟩
    · obtain ⟨rest, decoded⟩ := ascii 0x3F (by decide) first
      rw [decoded]
      exact iff_of_true rfl pathless
    · obtain ⟨rest, decoded⟩ := ascii 0x2F (by decide) first
      rw [decoded]
      exact iff_of_false (List.cons_ne_nil '/' _) path
    · obtain ⟨rest, decoded⟩ := ascii 0x2A (by decide) first
      rw [decoded]
      exact iff_of_false (List.cons_ne_nil '*' _) path

end Target

/-- The request of a message is one for its target. -/
lemma exists_readRequest_eq {m : Message} {limit : Nat} {r : Request}
    (read : readRequest m limit = .ok r) : ∃ body, r = .ofTarget m.target body := by
  unfold readRequest at read
  split_ifs at read
  · cases read
    exact ⟨none, rfl⟩
  · split at read
    · cases read
      exact ⟨some _, rfl⟩
    · cases read

/-- Whatever its method, its header fields and its body, a message is read as a request with a path
that is not empty, unless its target is a URI in which the query follows the authority at once; then
the path is empty. It is the same with the path argument of every operation: it is a text, and that
text is empty for such targets only. -/
theorem gpath_eq_empty_iff {text target : String} {m : Message} {limit : Nat} {r : Request}
    (accepted : Target.ofString text = .ok target)
    (read : readRequest { m with target } limit = .ok r) :
    (r.gpath = "" ↔ Target.Pathless (Utf8.encodeString text)) ∧
    ∀ op args, Coercion.prepare op r = .ok args →
      List.Forall₂ (fun p a => p.source = .path → ∃ path, a = .text (some path) ∧
        (path = "" ↔ Target.Pathless (Utf8.encodeString text))) op.parameters args := by
  have empty : r.gpath = "" ↔ Target.Pathless (Utf8.encodeString text) := by
    obtain ⟨body, rfl⟩ := exists_readRequest_eq read
    rw [Request.gpath_ofTarget_eq_empty_iff, Target.pathOf_ofString accepted]
  refine ⟨empty, fun op args prepared => ?_⟩
  refine (mapM_eq_ok_iff.1 prepared).imp fun p a one source => ⟨r.gpath, ?_, empty⟩
  rw [Coercion.prepareOne_path source] at one
  cases one
  rfl

/-- A form that is posted to a URI with a path. -/
theorem gpath_eq_empty_iff_posted :
    let headers : List Header :=
      [("Content-Type", Utf8.encodeString "application/x-www-form-urlencoded")]
    let m (target : String) : Message := ⟨"POST", target, headers, .ofOctets [0x61]⟩
    let r := Request.ofTarget "/?extents" (some [0x61])
    Target.ofString "http://h/?extents" = .ok "/?extents" ∧
    readRequest (m "/?extents") 1 = .ok r ∧
    (r.gpath = "" ↔ Target.Pathless (Utf8.encodeString "http://h/?extents")) ∧
    ∀ op args, Coercion.prepare op r = .ok args →
      List.Forall₂ (fun p a => p.source = .path → ∃ path, a = .text (some path) ∧
        (path = "" ↔ Target.Pathless (Utf8.encodeString "http://h/?extents")))
        op.parameters args := by
  intro headers m r
  have accepted : Target.ofString "http://h/?extents" = .ok "/?extents" := by decide +kernel
  have read : readRequest { m "" with target := "/?extents" } 1 = .ok r := by decide +kernel
  exact ⟨accepted, read, gpath_eq_empty_iff accepted read⟩

/-- A URI without a path, whose query selects an operation: the path argument is empty. -/
theorem gpath_empty_behind_authority :
    let r := Request.ofTarget "?extents" none
    Target.ofString "http://localhost?extents" = .ok "?extents" ∧
    readRequest ⟨"GET", "?extents", [], .ofOctets []⟩ 1024 = .ok r ∧
    Dispatch.select r = .ok .extents ∧
    r.gpath = "" ∧
    Coercion.prepare .extents r = .ok [.text (some ""), .textList none] := by
  refine ⟨by decide +kernel, by decide +kernel, by decide +kernel, by decide +kernel, rfl⟩

end Http

end MetadataGateway
