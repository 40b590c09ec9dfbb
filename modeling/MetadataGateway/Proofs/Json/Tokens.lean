import Mathlib.Data.List.TakeWhile
import MetadataGateway.Proofs.Json.Strings
import MetadataGateway.Proofs.Lists

/-!
# The tokens of a value

The text of a value is the texts of its tokens, one behind the other (`flatten_tokens`). A text with
blanks before, between and behind its tokens is `Spaced`; where the reader passes over blanks, it
comes to the next token (`Spaced.skipBlanks`).
-/

namespace MetadataGateway.Json

/-! ## Tokens -/

mutual

/-- The tokens of a value. -/
def tokens : Json → List (List Char)
  | .null => [render .null]
  | .boolean b => [render (.boolean b)]
  | .integer n => [renderInteger n]
  | .float x => [render (.float x)]
  | .string s => [renderString s]
  | .array [] => [['['], [']']]
  | .array (v :: vs) => ['['] :: tokens v ++ itemTokens vs ++ [[']']]
  | .object [] => [['\x7B'], ['\x7D']]
  | .object ((n, v) :: ms) =>
    ['\x7B'] :: renderString n :: [':'] :: tokens v ++ memberTokens ms ++ [['\x7D']]

/-- The tokens of the items behind the first, each with its comma. -/
def itemTokens : List Json → List (List Char)
  | [] => []
  | v :: vs => [','] :: tokens v ++ itemTokens vs

/-- The tokens of the members behind the first, each with its comma. -/
def memberTokens : List (String × Json) → List (List Char)
  | [] => []
  | (n, v) :: ms => [','] :: renderString n :: [':'] :: tokens v ++ memberTokens ms

end

mutual

/-- The text of a value is its tokens, one behind the other. -/
theorem flatten_tokens : ∀ v : Json, v.tokens.flatten = v.render
  | .null | .boolean _ | .integer _ | .float _ | .string _ => by simp [tokens, render]
  | .array [] | .object [] => by simp [tokens, render]
  | .array (v :: vs) => by simp [tokens, render, flatten_tokens v, flatten_itemTokens vs]
  | .object ((n, v) :: ms) => by
    simp [tokens, render, flatten_tokens v, flatten_memberTokens ms]

/-- The text of items is their tokens, one behind the other. -/
theorem flatten_itemTokens : ∀ vs : List Json, (itemTokens vs).flatten = renderItems vs
  | [] => rfl
  | v :: vs => by simp [itemTokens, renderItems, flatten_tokens v, flatten_itemTokens vs]

/-- The text of members is their tokens, one behind the other. -/
theorem flatten_memberTokens : ∀ ms : List (String × Json),
    (memberTokens ms).flatten = renderMembers ms
  | [] => rfl
  | (n, v) :: ms => by
    simp [memberTokens, renderMembers, flatten_tokens v, flatten_memberTokens ms]

end

/-! ## Blanks between tokens -/

open Cursor

variable {text token : List Char} {behind : List (List Char)} {c : Cursor} {x : Char}

/-- A text has these tokens, with any blanks before, between and behind them. -/
inductive Spaced : List (List Char) → List Char → Prop where
  | done {blanks : List Char} :
    (∀ x ∈ blanks, isBlank x = true) →
    Spaced [] blanks
  | token {blanks token text : List Char} {behind : List (List Char)} :
    (∀ x ∈ blanks, isBlank x = true) →
    Spaced behind text →
    Spaced (token :: behind) (blanks ++ token ++ text)

namespace Spaced

/-- There may be no blanks in front of a token. -/
lemma close (spaced : Spaced behind text) : Spaced (token :: behind) (token ++ text) :=
  @Spaced.token [] token text behind nofun spaced

/-- Tokens may stand close together. -/
lemma flatten (tokens : List (List Char)) : Spaced tokens tokens.flatten := by
  induction tokens with
  | nil => exact done nofun
  | cons token behind ih => exact close ih

/-- No character of a token is left out. -/
lemma length_le (spaced : Spaced behind text) : behind.flatten.length ≤ text.length := by
  induction spaced with
  | done => exact Nat.zero_le _
  | token _ _ ih =>
    rw [List.flatten_cons, List.length_append, List.length_append, List.length_append]
    omega

end Spaced

namespace Cursor

/-- Behind the blanks stands what is left when they are dropped. -/
lemma rest_skipBlanks (c : Cursor) : c.skipBlanks.rest = c.rest.dropWhile isBlank := by
  rw [skipBlanks, rest_skip, drop_length_takeWhile]

end Cursor

namespace Spaced

/-- Behind the last blanks stands nothing. -/
lemma skipBlanks_end (spaced : Spaced [] c.rest) : c.skipBlanks.rest = [] := by
  cases spaced with
  | done blank => rw [rest_skipBlanks, List.dropWhile_eq_nil_iff.2 blank]

/-- Behind the blanks stands the next token, and behind it the others. -/
lemma skipBlanks (spaced : Spaced ((x :: token) :: behind) c.rest) (solid : isBlank x = false) :
    ∃ text, c.skipBlanks.rest = x :: token ++ text ∧ Spaced behind text := by
  rw [rest_skipBlanks]
  generalize c.rest = whole at spaced
  cases spaced with
  | token blank others =>
    refine ⟨_, ?_, others⟩
    rw [List.append_assoc, List.dropWhile_append_of_pos blank, List.cons_append,
      List.dropWhile_cons_of_neg (Bool.not_eq_true _ ▸ solid)]

/-- To pass over the blanks in front of a token takes nothing from the tokens. -/
lemma skipped (spaced : Spaced ((x :: token) :: behind) c.rest) (solid : isBlank x = false) :
    Spaced ((x :: token) :: behind) c.skipBlanks.rest := by
  obtain ⟨text, here, others⟩ := spaced.skipBlanks solid
  rw [here]
  exact close others

/-- Behind a token of one character stand the others. -/
lemma mark (spaced : Spaced ([x] :: behind) c.rest) (solid : isBlank x = false) :
    ∃ r, c.skipBlanks.rest = x :: r ∧ Spaced behind c.skipBlanks.next.rest := by
  obtain ⟨text, here, others⟩ := spaced.skipBlanks solid
  exact ⟨text, here, (rest_next here).symm ▸ others⟩

/-- At a token of one character stands a text that is longer than what it and some others hold. -/
lemma length_lt {front : List (List Char)} {n : Nat} (solid : isBlank x = false)
    (few : n ≤ ([x] :: front).flatten.length)
    (spaced : Spaced ([x] :: (front ++ behind)) c.rest) : n < c.skipBlanks.rest.length + 1 := by
  have all := (spaced.skipped solid).length_le
  rw [← List.cons_append, List.flatten_append, List.length_append] at all
  omega

end Spaced

end MetadataGateway.Json
