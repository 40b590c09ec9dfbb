import MetadataGateway.Proofs.Dispatch.Basic
import MetadataGateway.Proofs.Lists

/-!
# Tasks side by side

Tasks share a world and take turns in it. A service says how a task is begun for what arrives, and
what one turn of it does; whatever a task records goes into the journal of the world. Dispatches are
such tasks, and so are messages on their way to their responses.

What every beginning establishes and every turn keeps holds of all tasks at every moment, and the
journal is what they have recorded, in some order (`Interleaving.Sound.run`). What is done one by
one is an interleaving too (`Interleaving.exists_run_eq_oneByOne`).
-/

namespace MetadataGateway.Dispatch

variable {α τ β σ : Type}

/-- How tasks are begun and have their turns. -/
structure Service (α τ β σ : Type) where
  /-- A task as it begins. -/
  arrival : α → τ
  /-- One turn of a task. -/
  turn : τ → World β σ → τ × World β σ
  /-- What a task has recorded. -/
  recorded : τ → Journal
  /-- What a task records in a turn goes into the journal. -/
  journal_turn : ∀ t w, ∃ new, recorded (turn t w).1 = recorded t ++ new ∧
    (turn t w).2.journal = w.journal ++ new

/-- All tasks in the order of their arrival, and what they share. -/
structure Interleaving (τ β σ : Type) where
  tasks : List τ
  world : World β σ

namespace Interleaving

/-- What happens. -/
inductive Turn (α : Type) where
  /-- A task is begun. -/
  | arrive (a : α)
  /-- A task has a turn. -/
  | advance (task : Nat)

/-- Nothing has arrived, and nothing has been recorded. -/
def initial (backend : β) (store : σ) : Interleaving τ β σ :=
  ⟨[], backend, store, []⟩

end Interleaving

namespace Service

variable (S : Service α τ β σ)

/-- What a turn makes of an interleaving; a turn of a task that is not there changes nothing. -/
def step (s : Interleaving τ β σ) : Interleaving.Turn α → Interleaving τ β σ
  | .arrive a =>
    { tasks := s.tasks ++ [S.arrival a]
      world := { s.world with journal := s.world.journal ++ S.recorded (S.arrival a) } }
  | .advance i =>
    match s.tasks[i]? with
    | some t => { tasks := s.tasks.set i (S.turn t s.world).1, world := (S.turn t s.world).2 }
    | none => s

/-- What a sequence of turns makes of an interleaving. -/
def run (s : Interleaving τ β σ) (turns : List (Interleaving.Turn α)) : Interleaving τ β σ :=
  turns.foldl S.step s

end Service

namespace Interleaving

variable {S : Service α τ β σ} {recorded : τ → Journal} {inv : τ → Prop} {s : Interleaving τ β σ}

/-- A task that is there has its turn. -/
lemma step_advance (S : Service α τ β σ) {i : Nat} {t : τ} (here : s.tasks[i]? = some t) :
    S.step s (.advance i) =
      ⟨s.tasks.set i (S.turn t s.world).1, (S.turn t s.world).2⟩ := by
  simp only [Service.step, here]

/-- A task that is not there has no turn. -/
lemma step_absent (S : Service α τ β σ) {i : Nat} (absent : s.tasks[i]? = none) :
    S.step s (.advance i) = s := by
  simp only [Service.step, absent]

/-! ## What holds at every moment -/

/-- An invariant holds of all tasks, and the journal is what they have recorded. -/
structure Sound (recorded : τ → Journal) (inv : τ → Prop) (s : Interleaving τ β σ) : Prop where
  tasks : ∀ t ∈ s.tasks, inv t
  journal : s.world.journal.Perm (s.tasks.flatMap recorded)

/-- Before anything happens, all is sound. -/
lemma sound_initial (backend : β) (store : σ) :
    Sound recorded inv (initial backend store) where
  tasks _ mem := by cases mem
  journal := List.Perm.refl _

/-- A beginning keeps an interleaving sound. -/
lemma Sound.arrive (sound : s.Sound S.recorded inv) {a : α} (begun : inv (S.arrival a)) :
    (S.step s (.arrive a)).Sound S.recorded inv := by
  simp only [Service.step]
  constructor
  case tasks =>
    intro t mem
    obtain old | new := List.mem_append.1 mem
    · exact sound.tasks t old
    · obtain rfl := List.mem_singleton.1 new
      exact begun
  case journal =>
    rw [List.flatMap_append, List.flatMap_singleton]
    exact sound.journal.append_right _

/-- A turn keeps an interleaving sound. -/
lemma Sound.advance (sound : s.Sound S.recorded inv)
    (kept : ∀ t w, inv t → inv (S.turn t w).1) (i : Nat) :
    (S.step s (.advance i)).Sound S.recorded inv := by
  cases here : s.tasks[i]? with
  | none =>
    rw [step_absent S here]
    exact sound
  | some t =>
    rw [step_advance S here]
    constructor
    case tasks =>
      intro t' mem
      obtain old | rfl := List.mem_or_eq_of_mem_set mem
      · exact sound.tasks t' old
      · exact kept t s.world (sound.tasks t (List.mem_of_getElem? here))
    case journal =>
      obtain ⟨new, grown, journal⟩ := S.journal_turn t s.world
      simp only [journal]
      exact (sound.journal.append_right new).trans (flatMap_set_perm here grown)

/-- Whatever happens keeps an interleaving sound. -/
lemma Sound.step (sound : s.Sound S.recorded inv) (begun : ∀ a, inv (S.arrival a))
    (kept : ∀ t w, inv t → inv (S.turn t w).1) (turn : Turn α) :
    (S.step s turn).Sound S.recorded inv := by
  cases turn with
  | arrive a => exact sound.arrive (begun a)
  | advance i => exact sound.advance kept i

/-- Any number of turns keep an interleaving sound. -/
lemma Sound.run (sound : s.Sound S.recorded inv) (begun : ∀ a, inv (S.arrival a))
    (kept : ∀ t w, inv t → inv (S.turn t w).1) (turns : List (Turn α)) :
    (S.run s turns).Sound S.recorded inv := by
  induction turns generalizing s with
  | nil => exact sound
  | cons turn rest ih => exact ih (sound.step begun kept turn)

/-! ## One task after another -/

/-- Turns that come behind others are taken in what those have made. -/
lemma run_append (S : Service α τ β σ) (s : Interleaving τ β σ) (turns more : List (Turn α)) :
    S.run s (turns ++ more) = S.run (S.run s turns) more :=
  List.foldl_append

/-- A task arrives behind the others. -/
lemma run_arrive (S : Service α τ β σ) (ts : List τ) (a : α) (w : World β σ)
    (turns : List (Turn α)) :
    S.run ⟨ts, w⟩ (.arrive a :: turns) =
      S.run ⟨ts ++ [S.arrival a],
        { w with journal := w.journal ++ S.recorded (S.arrival a) }⟩ turns := rfl

/-- The last task has a turn. -/
lemma run_last (S : Service α τ β σ) (ts : List τ) (t : τ) (w : World β σ)
    (turns : List (Turn α)) :
    S.run ⟨ts ++ [t], w⟩ (.advance ts.length :: turns) =
      S.run ⟨ts ++ [(S.turn t w).1], (S.turn t w).2⟩ turns := by
  simp [Service.run, Service.step]

/-- If each task comes to what is done for it alone, then tasks that are begun one after another
come to what is done for them one by one. -/
lemma exists_run_eq_oneByOne {γ δ : Type} {f : α → World β σ → γ × World β σ} {request : τ → α}
    {result : τ → δ} {tell : γ → δ}
    (each : ∀ a ts w, ∃ turns t, S.run ⟨ts, w⟩ turns = ⟨ts ++ [t], (f a w).2⟩ ∧
      request t = a ∧ result t = tell (f a w).1) (as : List α) (ts : List τ) (w : World β σ) :
    ∃ turns new, S.run ⟨ts, w⟩ turns = ⟨ts ++ new, (oneByOne f as w).2⟩ ∧
      new.map request = as ∧ new.map result = (oneByOne f as w).1.map tell := by
  induction as generalizing ts w with
  | nil => exact ⟨[], [], by rw [List.append_nil]; rfl, rfl, rfl⟩
  | cons a as ih =>
    obtain ⟨turns, t, same, here, come⟩ := each a ts w
    obtain ⟨more, new, same', requests, results⟩ := ih (ts ++ [t]) (f a w).2
    refine ⟨turns ++ more, t :: new, ?_, ?_, ?_⟩
    · rw [run_append, same, same', List.append_assoc]
      rfl
    · rw [List.map_cons, here, requests]
    · rw [List.map_cons, come, results, oneByOne_cons, List.map_cons]

end Interleaving

end MetadataGateway.Dispatch
