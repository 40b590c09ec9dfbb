import MetadataGateway.Proofs.Dispatch.Course
import MetadataGateway.Proofs.Interleaving

/-!
# Dispatches side by side

A session is many dispatches that share a world and take turns at the points at which they wait. The
backend and the store are any that there are, so all that they may do between two turns of a
dispatch is here.

All threads of a session are sound, and its journal is what they have recorded
(`Session.sound_run`). Dispatches that come one after another are a session too
(`Session.exists_run_eq_dispatchAll`).
-/

namespace MetadataGateway.Dispatch

variable {β σ : Type}

/-- Dispatches as tasks that take turns. -/
def Gateway.dispatching (g : Gateway β σ) : Service Request Thread β σ where
  arrival := g.arrival
  turn := g.turn
  recorded := Thread.recorded
  journal_turn := g.journal_turn

/-- All dispatches in the order of their arrival, and what they share. -/
abbrev Session (β σ : Type) := Interleaving Thread β σ

namespace Session

/-- All threads are sound, and the journal is what they have recorded. -/
abbrev Sound (g : Gateway β σ) (s : Session β σ) : Prop :=
  Interleaving.Sound Thread.recorded (Thread.Sound g.cacheEnabled g.policy) s

variable (g : Gateway β σ)

/-- Whatever turns its dispatches take, a session is sound. -/
lemma sound_run (backend : β) (store : σ) (turns : List (Interleaving.Turn Request)) :
    Sound g (g.dispatching.run (.initial backend store) turns) :=
  Interleaving.Sound.run (S := g.dispatching) (Interleaving.sound_initial backend store)
    g.arrival_sound (fun _ w sound => sound.turn w) turns

/-! ## One dispatch after another -/

/-- A dispatch that has all the turns comes to its end. -/
lemma exists_run_eq_finish (ts : List Thread) (t : Thread) (w : World β σ) :
    ∃ turns t', g.dispatching.run ⟨ts ++ [t], w⟩ turns = ⟨ts ++ [t'], (g.finish t.stage w).2⟩ ∧
      t'.request = t.request ∧ t'.stage = .done (g.finish t.stage w).1 := by
  induction waits : t.stage.waits using Nat.strongRecOn generalizing t w with
  | ind n ih =>
    obtain ⟨result, ended⟩ | some := done_or_waits t.stage
    · exact ⟨[], t, by rw [ended, g.finish_done]; rfl, rfl, by rw [ended, g.finish_done]⟩
    · -- The first turn leaves fewer waits, and what is left comes to the same end.
      have advanced := g.turn_eq_advance t w
      have fewer := g.waits_advance_lt t.stage w some
      have finish := g.finish_advance t.stage w
      rw [← advanced] at fewer finish
      obtain ⟨turns, t', same, request, done⟩ :=
        ih _ (waits ▸ fewer) (g.turn t w).1 (g.turn t w).2 rfl
      rw [finish] at same done
      exact ⟨.advance ts.length :: turns, t',
        (Interleaving.run_last g.dispatching ts t w turns).trans same, request, done⟩

/-- What arrives comes to the end that its dispatch comes to. -/
lemma finish_arrival (r : Request) (w : World β σ) :
    g.finish (g.arrival r).stage { w with journal := w.journal ++ (g.arrival r).recorded } =
      g.dispatch r w := by
  unfold Gateway.arrival Gateway.dispatch
  cases select r with
  | error e => rw [g.finish_done, List.append_nil]
  | ok op => rfl

/-- A dispatch is for the request that has arrived. -/
lemma request_arrival (r : Request) : (g.arrival r).request = r := by
  unfold Gateway.arrival
  cases select r <;> rfl

/-- A request that arrives and then has all the turns is dispatched. -/
lemma exists_run_eq_dispatch (r : Request) (ts : List Thread) (w : World β σ) :
    ∃ turns t, g.dispatching.run ⟨ts, w⟩ turns = ⟨ts ++ [t], (g.dispatch r w).2⟩ ∧
      t.request = r ∧ t.stage = .done (g.dispatch r w).1 := by
  obtain ⟨turns, t, same, request, done⟩ := exists_run_eq_finish g ts (g.arrival r)
    { w with journal := w.journal ++ (g.arrival r).recorded }
  rw [finish_arrival] at same done
  exact ⟨.arrive r :: turns, t, (Interleaving.run_arrive g.dispatching ts r w turns).trans same,
    request.trans (request_arrival g r), done⟩

/-- Requests that are dispatched one after another are a session. -/
lemma exists_run_eq_dispatchAll (rs : List Request) (ts : List Thread) (w : World β σ) :
    ∃ turns new, g.dispatching.run ⟨ts, w⟩ turns = ⟨ts ++ new, (g.dispatchAll rs w).2⟩ ∧
      new.map Thread.request = rs ∧
      new.map Thread.stage = (g.dispatchAll rs w).1.map Stage.done :=
  Interleaving.exists_run_eq_oneByOne (exists_run_eq_dispatch g) rs ts w

end Session

end MetadataGateway.Dispatch
