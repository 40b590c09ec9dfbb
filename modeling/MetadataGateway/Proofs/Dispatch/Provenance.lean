import MetadataGateway.Proofs.Cache.Contents
import MetadataGateway.Proofs.Dispatch.Session

/-!
# Where the payloads of the cache come from

Traffic is a session over a store in memory that is empty at first. Every moment brings the backend
as it behaves then, and says whether the gets and the sets of the store fail. So every order of
turns, every backend, and every pattern of faults is a list of moments.

A thread supplies a payload for a key if its request is one that the key may stand for and a
successful call that it has made returned that payload. What the store has, a thread has offered it,
and so is what the store has given (`Traffic.Sound`); each moment keeps that
(`Traffic.Sound.step`). What a thread has offered it has supplied, as its place in its course says.
-/

namespace MetadataGateway.Dispatch

open Cache (Memory)

variable {β : Type}

namespace Traffic

/-- What happens, with the backend as it behaves then, and whether the store fails. -/
structure Moment (β : Type) where
  turn : Interleaving.Turn Request
  backend : Backend β
  getFails : Bool
  setFails : Bool

/-- The gateway as it is in one moment. -/
def gateway (cached : Bool) (policy : Policy) (now : Moment β) : Gateway β Memory where
  backend := now.backend
  cache := if cached then some (Memory.provider now.getFails now.setFails) else none
  policy

/-- What a moment makes of the traffic. -/
def step (cached : Bool) (policy : Policy) (s : Session β Memory) (now : Moment β) :
    Session β Memory :=
  (gateway cached policy now).dispatching.step s now.turn

/-- What a sequence of moments makes of the traffic. -/
def run (cached : Bool) (policy : Policy) (moments : List (Moment β)) (s : Session β Memory) :
    Session β Memory :=
  moments.foldl (step cached policy) s

/-- Nothing has arrived, and the store is empty. -/
def initial (backend : β) : Session β Memory :=
  Interleaving.initial backend Memory.empty

end Traffic

/-- A payload is what a successful call has returned to a thread whose request the key may stand
for: it has no values in its body, the policy lets its operation use the cache, and the call had the
arguments that are prepared for it. -/
inductive Supplied (policy : Policy) (t : Thread) : Fingerprint → List UInt8 → Prop where
  | intro {op args text} :
    t.request.hasBodyValues = false →
    select t.request = .ok op →
    policy.appliesTo op = true →
    Coercion.prepare op t.request = .ok args →
    ⟨op, args, .ok text⟩ ∈ t.calls →
    Supplied policy t (.ofUri t.request.uri) (Utf8.encodeString text)

/-- What a thread has had the store take under a key, it has supplied for that key. -/
lemma Thread.Sound.supplied {enabled : Bool} {policy : Policy} {t : Thread} {key payload told}
    (sound : t.Sound enabled policy) (mem : .set key payload told ∈ t.accesses) :
    Supplied policy t key payload := by
  cases sound with
  | unsupported | lookup => cases mem
  | hit => cases List.mem_singleton.1 mem
  | refused _ crossing | call _ crossing | failed _ crossing | answered _ crossing
  | store _ crossing => exact absurd mem crossing.set_not_mem
  | stored sel crossing prep =>
    obtain past | written := List.mem_append.1 mem
    · exact absurd past crossing.set_not_mem
    · cases List.mem_singleton.1 written
      obtain ⟨-, applies, bare, rfl⟩ := cacheKey_eq_some.1 crossing.keyed
      exact .intro bare sel applies prep (List.mem_singleton.2 rfl)

/-- A thread has asked the store to take a payload under a key. -/
def Offered (s : Session β Memory) (key : Fingerprint) (payload : List UInt8) : Prop :=
  ∃ t ∈ s.tasks, ∃ told, .set key payload told ∈ t.accesses

/-- All threads are sound, and what the store has or has given was offered to it. -/
structure Traffic.Sound (cached : Bool) (policy : Policy) (s : Session β Memory) : Prop where
  threads : Interleaving.Sound Thread.recorded (Thread.Sound cached policy) s
  entries : ∀ {key payload}, s.world.store.get? key = some payload → Offered s key payload
  given : ∀ t ∈ s.tasks, ∀ {key payload}, .get key (.ok (some payload)) ∈ t.accesses →
    Offered s key payload

variable {cached : Bool} {policy : Policy}

namespace Traffic

variable {s : Session β Memory} {now : Moment β}

/-- There is a cache whenever there is one at all. -/
lemma gateway_cacheEnabled (cached : Bool) (policy : Policy) (now : Moment β) :
    (gateway cached policy now).cacheEnabled = cached := by
  cases cached <;> rfl

/-- The store is always one in memory. -/
lemma gateway_cache (p : Cache.Provider Memory)
    (there : (gateway cached policy now).cache = some p) :
    ∃ getFails setFails, p = Memory.provider getFails setFails := by
  unfold gateway at there
  split at there
  · exact ⟨_, _, (Option.some.inj there).symm⟩
  · cases there

/-- The store always has what it gives. -/
lemma gateway_contents (p : Cache.Provider Memory)
    (there : (gateway cached policy now).cache = some p) : Cache.Contents p Memory.get? := by
  obtain ⟨getFails, setFails, rfl⟩ := gateway_cache p there
  exact Memory.contents getFails setFails

/-- A thread that begins is sound. -/
lemma arrival_sound (r : Request) :
    ((gateway cached policy now).arrival r).Sound cached policy := by
  have sound := (gateway cached policy now).arrival_sound r
  rwa [gateway_cacheEnabled] at sound

/-- A turn keeps a thread sound. -/
lemma turn_sound {t : Thread} (sound : t.Sound cached policy) (w : World β Memory) :
    ((gateway cached policy now).turn t w).1.Sound cached policy := by
  have behind : t.Sound (gateway cached policy now).cacheEnabled policy := by
    rwa [gateway_cacheEnabled]
  have sound' := behind.turn (g := gateway cached policy now) w
  rwa [gateway_cacheEnabled] at sound'

/-- Before anything happens, there is nothing to account for. -/
lemma sound_initial (backend : β) : Sound cached policy (initial backend) where
  threads := Interleaving.sound_initial backend Memory.empty
  entries got := by cases got
  given _ mem := by cases mem

/-- A request that arrives asks nothing of the store. -/
lemma Sound.arrive (sound : Sound cached policy s) (now : Moment β) (r : Request) :
    Sound cached policy ((gateway cached policy now).dispatching.step s (.arrive r)) := by
  have offered {key payload} (old : Offered s key payload) :
      Offered ((gateway cached policy now).dispatching.step s (.arrive r)) key payload := by
    obtain ⟨t, mem, asked⟩ := old
    exact ⟨t, List.mem_append_left _ mem, asked⟩
  constructor
  case threads =>
    exact sound.threads.arrive (S := (gateway cached policy now).dispatching) (arrival_sound r)
  case entries => exact fun got => offered (sound.entries got)
  case given =>
    intro t mem key payload got
    obtain old | new := List.mem_append.1 mem
    · exact offered (sound.given t old got)
    · obtain rfl := List.mem_singleton.1 new
      have none_asked : ((gateway cached policy now).arrival r).accesses = [] := by
        unfold Gateway.arrival
        cases select r <;> rfl
      rw [Gateway.dispatching, none_asked] at got
      cases got

/-- A thread that has a turn logs what it asks of the store, and the store has and gives only what
it had before or is asked to take. -/
lemma Sound.advance (sound : Sound cached policy s) (now : Moment β) (i : Nat) :
    Sound cached policy ((gateway cached policy now).dispatching.step s (.advance i)) := by
  have threads := sound.threads.advance (S := (gateway cached policy now).dispatching)
    (fun _ w sound => turn_sound sound w) i
  cases here : s.tasks[i]? with
  | none =>
    rw [Interleaving.step_absent _ here]
    exact sound
  | some t =>
    have mem_t := List.mem_of_getElem? here
    obtain ⟨new, grown, follows⟩ := (gateway cached policy now).accesses_turn t s.world
    rw [Interleaving.step_advance _ here] at threads ⊢
    -- A turn adds to the accesses of a task and takes none back.
    have offered {key payload} (old : Offered s key payload ∨ ∃ told, .set key payload told ∈ new) :
        Offered ⟨s.tasks.set i ((gateway cached policy now).turn t s.world).1,
          ((gateway cached policy now).turn t s.world).2⟩ key payload := by
      obtain old | ⟨told, mem⟩ := old
      · refine exists_mem_set here ?_ old
        rintro ⟨told, mem⟩
        exact ⟨told, grown ▸ List.mem_append_left _ mem⟩
      · exact ⟨_, List.mem_set (lt_length_of_getElem? here) _, told,
          grown ▸ List.mem_append_right _ mem⟩
    constructor
    case threads => exact threads
    case entries =>
      intro key payload got
      exact offered ((follows.mem_of_has gateway_contents got).imp_left sound.entries)
    case given =>
      intro u mem key payload got
      obtain old | rfl := List.mem_or_eq_of_mem_set mem
      · exact offered (.inl (sound.given u old got))
      · obtain before | now := List.mem_append.1 (grown ▸ got)
        · exact offered (.inl (sound.given t mem_t before))
        · exact offered ((Memory.mem_of_given gateway_cache follows now).imp_left sound.entries)

/-- Each moment keeps everything accounted for. -/
lemma Sound.step (sound : Sound cached policy s) (now : Moment β) :
    Sound cached policy (step cached policy s now) := by
  obtain ⟨turn, backend, getFails, setFails⟩ := now
  cases turn with
  | arrive r => exact sound.arrive _ r
  | advance i => exact sound.advance _ i

/-- Any number of moments keep everything accounted for. -/
lemma Sound.run (sound : Sound cached policy s) (moments : List (Moment β)) :
    Sound cached policy (run cached policy moments s) := by
  induction moments generalizing s with
  | nil => exact sound
  | cons now rest ih => exact ih (sound.step now)

/-- Whatever turns the dispatches take, an entry of the store is a payload that an earlier call has
supplied for its key, to a thread that has offered it, and so is the payload of a hit. Whatever has
been offered was offered by a thread that has ended with a miss. -/
theorem provenance (cached : Bool) (policy : Policy) (backend : β) (moments : List (Moment β)) :
    let s := run cached policy moments (initial backend)
    (∀ key payload, s.world.store.get? key = some payload →
      ∃ t ∈ s.tasks, (∃ told, .set key payload told ∈ t.accesses) ∧
        Supplied policy t key payload) ∧
    (∀ t ∈ s.tasks, ∀ op payload, t.stage = .done (.ok ⟨op, payload, .hit⟩) →
      ∃ u ∈ s.tasks, Supplied policy u (.ofUri t.request.uri) payload) ∧
    ∀ t ∈ s.tasks, ∀ key payload told, .set key payload told ∈ t.accesses →
      ∃ op, t.stage = .done (.ok ⟨op, payload, .miss⟩) := by
  intro s
  have sound : Sound cached policy s := (sound_initial backend).run moments
  refine ⟨fun key payload got => ?_, fun t mem op payload ended => ?_,
    fun t mem key payload told asked => (sound.threads.tasks t mem).miss_of_set_mem asked⟩
  · obtain ⟨t, mem, told, asked⟩ := sound.entries got
    exact ⟨t, mem, ⟨told, asked⟩, (sound.threads.tasks t mem).supplied asked⟩
  · have given := ((sound.threads.tasks t mem).hit_iff.1 ended).2
    obtain ⟨u, mem', told, asked⟩ := sound.given t mem given
    exact ⟨u, mem', (sound.threads.tasks u mem').supplied asked⟩

end Traffic

end MetadataGateway.Dispatch
