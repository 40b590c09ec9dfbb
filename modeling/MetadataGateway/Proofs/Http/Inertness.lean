import Mathlib.Data.List.Forall2
import MetadataGateway.Cache.Memory
import MetadataGateway.Proofs.Http.Observation

/-!
# Bodies that are no forms

The body of a message counts only if it is a form. Whatever other body stands in its place, of any
length, declared or not, cut into any pieces and broken off anywhere, the same request is read
(`Alike.readRequest_eq`). So two runs in which only such bodies differ are the same run: they
cannot be told apart by their responses, by what the backend and the store are asked, or by what is
recorded, and they leave the same world (`observeAll_of_alike`).
-/

namespace MetadataGateway.Http

open Dispatch

variable {β σ : Type} {m m' : Message} {ms ms' : List Message}

/-- Messages that are the same, or that differ only in a body that is no form. -/
inductive Alike : Message → Message → Prop where
  | same {m : Message} :
    Alike m m
  | rebodied {m : Message} (body : Body) :
    Message.hasFormBody m.method m.headers = false →
    Alike m { m with body }

/-- A body that is no form is not read. -/
lemma readRequest_of_not_form (noForm : Message.hasFormBody m.method m.headers = false)
    (limit : Nat) : readRequest m limit = .ok (.ofTarget m.target none) := by
  rw [readRequest, noForm]
  rfl

/-- Alike messages are read as the same request. -/
lemma Alike.readRequest_eq (alike : Alike m m') (limit : Nat) :
    readRequest m limit = readRequest m' limit := by
  cases alike with
  | same => rfl
  | rebodied body noForm =>
    rw [readRequest_of_not_form noForm limit]
    exact (readRequest_of_not_form (m := { m with body }) noForm limit).symm

/-- Handling depends on a message only through the request that is read from it. -/
lemma handle_of_readRequest_eq {limit : Nat} (same : readRequest m limit = readRequest m' limit)
    (g : Gateway β σ) (w : World β σ) : handle g limit m w = handle g limit m' w := by
  unfold handle
  rw [same]

/-- Alike messages have the same done for them. -/
lemma Alike.observe_eq (alike : Alike m m') (g : Gateway β σ) (limit : Nat) (w : World β σ) :
    observe g limit m w = observe g limit m' w := by
  unfold observe
  rw [handle_of_readRequest_eq (alike.readRequest_eq limit)]

/-- Runs over messages that are alike have the same done for each message: the same response, the
same calls of the backend with the same arguments, the same accesses to the store, and the same
events recorded. They leave the same backend, the same store and the same journal, and with it the
same warnings and counters. Watched or not, the runs are the same. -/
theorem observeAll_of_alike (g : Gateway β σ) (limit : Nat)
    (alike : List.Forall₂ Alike ms ms') (w : World β σ) :
    observeAll g limit ms w = observeAll g limit ms' w ∧
    handleAll g limit ms w = handleAll g limit ms' w ∧
    ∀ ms, handleAll g limit ms w =
      ((observeAll g limit ms w).1.map Handling.response, (observeAll g limit ms w).2) := by
  have observed : observeAll g limit ms w = observeAll g limit ms' w := by
    induction alike generalizing w with
    | nil => rfl
    | cons first _ ih =>
      simp only [observeAll, oneByOne_cons, first.observe_eq] at ih ⊢
      rw [ih]
  have handled := fun ms => (observeAll_eq_handleAll g limit ms w).symm
  refine ⟨observed, ?_, handled⟩
  rw [handled ms, handled ms', observed]

/-- A form that counts stands between two bodies that do not. -/
theorem observeAll_of_alike_mixed :
    let g : Gateway Nat Cache.Memory :=
      ⟨⟨fun op _ n => (.ok op.function, n + 1)⟩, some (Cache.Memory.provider false false),
        .standard⟩
    let w : World Nat Cache.Memory := ⟨0, .empty, []⟩
    let form : Message :=
      ⟨"POST", "/a?put_ows_cache",
        [("Content-Type", Utf8.encodeString "application/x-www-form-urlencoded")],
        .ofOctets (Utf8.encodeString "query=q")⟩
    let bare (method : String) (body : Body) : Message := ⟨method, "/a?extents", [], body⟩
    let ms := [bare "GET" (.ofOctets []), form, bare "POST" (.ofOctets [0x78])]
    let ms' := [bare "GET" (.streamed 1 (List.replicate 64 0x26) (some "reset")), form,
      bare "POST" (.ofOctets (List.replicate 64 0x78))]
    List.Forall₂ Alike ms ms' ∧
    observeAll g 16 ms w = observeAll g 16 ms' w ∧
    handleAll g 16 ms w = handleAll g 16 ms' w ∧
    ∀ ms, handleAll g 16 ms w =
      ((observeAll g 16 ms w).1.map Handling.response, (observeAll g 16 ms w).2) := by
  intro g w form bare ms ms'
  have alike : List.Forall₂ Alike ms ms' :=
    .cons (.rebodied _ rfl) (.cons .same (.cons (.rebodied _ rfl) .nil))
  exact ⟨alike, observeAll_of_alike g 16 alike w⟩

end MetadataGateway.Http
