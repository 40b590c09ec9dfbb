import Mathlib.Logic.Function.Basic
import MetadataGateway.Config.CommandLine
import MetadataGateway.Proofs.Lists

/-!
# What a command line gives

A command line gives settings their values in one of two spellings (`Gives`). It is accepted, with
an environment, just if it gives no setting twice and each value that counts means something for its
setting, and then that is what is overridden (`read_eq_ok_iff`).
-/

namespace MetadataGateway

/-- What a setting may hold. -/
inductive Datum where
  | text (s : String)
  | number (n : Nat)
deriving DecidableEq, Repr

/-- What is overridden, by settings. -/
def Overrides.get (o : Overrides) : Setting → Option Datum
  | .configFile => o.configFile.map .text
  | .host => o.host.map .text
  | .databaseName => o.databaseName.map .text
  | .user => o.user.map .text
  | .password => o.password.map .text
  | .pool => o.pool.map fun n => .number n.toNat
  | .limit => o.limit.map fun n => .number n.toNat
  | .port => o.port.map fun n => .number n.toNat
  | .memcache => o.memcache.map .text
  | .logLevel => o.logLevel.map .text
  | .logFormat => o.logFormat.map .text

namespace CommandLine

open Number

/-! ## Values -/

/-- The number below `bound` that a text spells. -/
def numeral? (bound : Nat) (raw : String) : Option Datum :=
  match natural bound raw with
  | .ok n => some (.number n)
  | .error _ => none

/-- What a text means for a setting. A path is not empty. -/
def meaning (s : Setting) (raw : String) : Option Datum :=
  match s with
  | .configFile => if raw = "" then none else some (.text raw)
  | .pool => numeral? 4294967296 raw
  | .limit => numeral? 4294967296 raw
  | .port => numeral? 65536 raw
  | _ => some (.text raw)

/-- A setting holds what a text means for it, or nothing if there is no text. -/
def Reads (s : Setting) (raw : Option String) (held : Option Datum) : Prop :=
  match raw with
  | some raw => ∃ d, meaning s raw = some d ∧ held = some d
  | none => held = none

variable {o o' : Overrides} {s : Setting} {raw : String} {given : List (Setting × String)}
  {environment : String → Option String} {args : List String}

/-- Give settings their values, none of them twice. -/
def giveAll (o : Overrides) (given : List (Setting × String)) : Except Error Overrides :=
  given.foldlM (fun o m => giveOnce o m.1 m.2) o

/-- A text that stands for itself behind a flag: one that begins with no dash, or a dash alone. -/
def IsValue (raw : String) : Prop :=
  raw = "-" ∨ raw.toList.head? ≠ some '-'

/-- Arguments give settings values: each behind the flag of its setting, in one argument or as the
next one. Two dashes may stand at the end. -/
inductive Gives : List (Setting × String) → List String → Prop
  | nil : Gives [] []
  | escape : Gives [] ["--"]
  | joined {s : Setting} {raw : String} {given : List (Setting × String)} {args : List String} :
    Gives given args → Gives ((s, raw) :: given) (("--" ++ s.flag ++ "=" ++ raw) :: args)
  | apart {s : Setting} {raw : String} {given : List (Setting × String)} {args : List String} :
    IsValue raw → Gives given args →
      Gives ((s, raw) :: given) (("--" ++ s.flag) :: raw :: args)

/-- A setting is found by its flag. -/
lemma withFlag?_flag (s : Setting) : Setting.withFlag? s.flag = some s := by
  cases s <;> decide

namespace Token

variable {argument flag : String} {text : List Char}

/-- Two dashes with a text behind them are a flag. -/
lemma ofString_dashes (spelled : argument.toList = '-' :: '-' :: text) (some_text : text ≠ []) :
    Token.ofString argument =
      if '=' ∈ text then .long (String.ofList (text.takeWhile (· != '=')))
        (some (String.ofList ((text.dropWhile (· != '=')).drop 1)))
      else .long (String.ofList (text.takeWhile (· != '='))) none := by
  obtain ⟨c, rest, rfl⟩ := List.exists_cons_of_ne_nil some_text
  rw [Token.ofString, spelled]
  rfl

/-- A flag with its value behind an equals sign is one token with both. -/
lemma ofString_joined (s : Setting) (raw : String) :
    Token.ofString ("--" ++ s.flag ++ "=" ++ raw) = .long s.flag (some raw) := by
  have free : '=' ∉ s.flag.toList := by cases s <;> decide
  have spelled : ("--" ++ s.flag ++ "=" ++ raw).toList =
      '-' :: '-' :: (s.flag.toList ++ '=' :: raw.toList) := by
    simp [String.toList_append]
  rw [ofString_dashes spelled (by simp), if_pos (by simp), takeWhile_ne_append free,
    dropWhile_ne_append free]
  simp [String.ofList_toList]

/-- A flag alone is a token without a value. -/
lemma ofString_flag (s : Setting) : Token.ofString ("--" ++ s.flag) = .long s.flag none := by
  cases s <;> decide

end Token

/-- What arguments give is seen from the first of them. -/
lemma Gives.first {argument : String} {rest : List String}
    (gives : Gives given (argument :: rest)) :
    match Token.ofString argument with
    | .escape => given = []
    | .long flag (some raw) => ∃ s others, s.flag = flag ∧ given = (s, raw) :: others ∧
      Gives others rest
    | .long flag none => ∃ s raw behind others, s.flag = flag ∧ rest = raw :: behind ∧
      given = (s, raw) :: others ∧ Gives others behind
    | .short _ => False
    | .plain => False := by
  generalize whole : argument :: rest = args at gives
  cases gives with
  | nil => cases whole
  | escape =>
    cases whole
    rfl
  | joined others =>
    cases whole
    rw [Token.ofString_joined]
    exact ⟨_, _, rfl, rfl, others⟩
  | apart _ others =>
    cases whole
    rw [Token.ofString_flag]
    exact ⟨_, _, _, _, rfl, rfl, rfl, others⟩

/-- No two settings have the same flag. -/
lemma flag_injective {s s' : Setting} (same : s.flag = s'.flag) : s = s' := by
  have found := withFlag?_flag s
  rw [same, withFlag?_flag] at found
  exact (Option.some.inj found).symm

/-- Arguments give settings values in one way only. -/
theorem Gives.unique {given' : List (Setting × String)} (gives : Gives given args)
    (gives' : Gives given' args) : given = given' := by
  induction gives generalizing given' with
  | nil =>
    cases gives'
    rfl
  | escape => exact gives'.first.symm
  | @joined s raw given args _ ih =>
    have first := gives'.first
    rw [Token.ofString_joined] at first
    obtain ⟨s', others, same, rfl, behind⟩ := first
    rw [flag_injective same, ih behind]
  | @apart s raw given args _ _ ih =>
    have first := gives'.first
    rw [Token.ofString_flag] at first
    obtain ⟨s', _, _, others, same, ⟨⟩, rfl, behind⟩ := first
    rw [flag_injective same, ih behind]

variable {p p' : Progress}

/-- The flag that has not been looked at yet and the arguments together give settings values. -/
def Progress.Ends (p : Progress) (args : List String) (o : Overrides) : Prop :=
  match p.pending with
  | none => ∃ given, Gives given args ∧ giveAll p.given given = .ok o
  | some (s, some raw) => ∃ given, Gives given args ∧ giveAll p.given ((s, raw) :: given) = .ok o
  | some (s, none) => ∃ raw rest given, args = raw :: rest ∧ IsValue raw ∧ Gives given rest ∧
    giveAll p.given ((s, raw) :: given) = .ok o

end CommandLine

end MetadataGateway
