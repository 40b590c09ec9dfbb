import MetadataGateway.Proofs.Lists
import MetadataGateway.Shutdown

/-!
# Histories of handles and subscriptions

A history is what was done with handles and subscriptions, in order, each command with its result.
It says by itself which handle was cloned from which (`Descends`), and no state is needed for that.
Two handles have one channel if they descend from one handle that was made on its own
(`Lineage.shared`).

What a command can do is said once (`Change`), and what every command preserves is true behind every
history (`run_induction`).
-/

namespace MetadataGateway.Shutdown

/-- Commands that were carried out, each with its result. -/
abbrev History := List (Command × Result)

/-- The commands with the results that they have if they are carried out. -/
def history (cs : List Command) (s : State) : History :=
  cs.zip (run cs s).1

/-- The state behind commands that are carried out. -/
def after (cs : List Command) (s : State) : State :=
  (run cs s).2

variable {h h' : History} {s s' : State} {e : Command} {r : Result} {c i j n o : Nat}

/-- The history of commands is that of the first and then that of the others. -/
lemma history_cons (e : Command) (cs : List Command) (s : State) :
    history (e :: cs) s = (e, (step s e).1) :: history cs (step s e).2 :=
  rfl

/-- The state behind commands is that of the others behind the first. -/
lemma after_cons (e : Command) (cs : List Command) (s : State) :
    after (e :: cs) s = after cs (step s e).2 :=
  rfl

/-! ## What a command can do -/

/-- A command, its result and the state behind it. -/
inductive Change (s : State) : Command → Result → State → Prop
  | absent (e : Command) : Change s e .absent s
  | subscribed {i c : Nat} : s.handles[i]? = some c →
    Change s (.subscribe i) (.made s.subscriptions.length) (s.subscribe c)
  | cloned {i c : Nat} : s.handles[i]? = some c →
    Change s (.clone i) (.made s.handles.length) (s.handle c)
  | created : Change s .create (.made s.handles.length) s.create
  | triggered {i c : Nat} : s.handles[i]? = some c →
    Change s (.trigger i) (.notified (s.receivers c)) (s.trigger c)
  | dropped {n : Nat} {sub : Subscription} : s.subscription? n = some sub →
    Change s (.drop n) .dropped (s.place n none)
  | polled {n : Nat} {sub : Subscription} : s.subscription? n = some sub →
    Change s (.poll n) (.received (receive (s.sent sub.channel) sub.position).1)
      (s.place n (some { sub with position := (receive (s.sent sub.channel) sub.position).2 }))

/-- Every step is one of the changes. -/
lemma step_change (s : State) (e : Command) : Change s e (step s e).1 (step s e).2 := by
  cases e with
  | subscribe i =>
    simp only [step]
    split
    · exact .subscribed ‹_›
    · exact .absent _
  | clone i =>
    simp only [step]
    split
    · exact .cloned ‹_›
    · exact .absent _
  | create => exact .created
  | trigger i =>
    simp only [step]
    split
    · exact .triggered ‹_›
    · exact .absent _
  | drop n =>
    simp only [step]
    split
    · exact .dropped ‹_›
    · exact .absent _
  | poll n =>
    simp only [step]
    split
    · exact .polled ‹_›
    · exact .absent _

/-- What each command preserves, commands preserve. -/
theorem run_induction {P : History → State → Prop}
    (preserved : ∀ {h s e r s'}, P h s → Change s e r s' → P (h ++ [(e, r)]) s')
    (cs : List Command) (holds : P h s) : P (h ++ history cs s) (after cs s) := by
  induction cs generalizing h s with
  | nil =>
    rw [show history [] s = [] from rfl, List.append_nil]
    exact holds
  | cons e cs ih =>
    have next := ih (preserved holds (step_change s e))
    rwa [List.append_assoc, List.singleton_append, ← history_cons, ← after_cons] at next

/-- A handle keeps its channel. -/
lemma Change.handles (change : Change s e r s') : s.handles <+: s'.handles := by
  cases change with
  | absent => exact List.prefix_rfl
  | subscribed => exact List.prefix_rfl
  | cloned => exact List.prefix_append _ _
  | created => exact List.prefix_append _ _
  | triggered =>
    unfold State.trigger
    split <;> exact List.prefix_rfl
  | dropped => exact List.prefix_rfl
  | polled => exact List.prefix_rfl

/-! ## Descent -/

/-- A handle that is no clone: the first one, or one that was made on its own. -/
def IsOrigin (h : History) (o : Nat) : Prop :=
  o = 0 ∨ (.create, .made o) ∈ h

/-- A handle descends from itself, and a clone from whatever the handle descends from that it is a
clone of. -/
inductive Descends (h : History) (o : Nat) : Nat → Prop
  | refl : Descends h o o
  | clone {i j : Nat} : Descends h o i → (.clone i, .made j) ∈ h → Descends h o j

/-- What has begun a channel has begun it however the history goes on. -/
lemma IsOrigin.mono (sub : h ⊆ h') (origin : IsOrigin h o) : IsOrigin h' o :=
  origin.imp_right fun mem => sub mem

/-- A handle descends from its origin however the history goes on. -/
lemma Descends.mono (sub : h ⊆ h') (descends : Descends h o i) : Descends h' o i := by
  induction descends with
  | refl => exact .refl
  | clone _ mem ih => exact ih.clone (sub mem)

/-- Which handles there are, and the channels of clones and of handles that are none. -/
structure Lineage (h : History) (s : State) : Prop where
  made : ∀ {i : Nat}, i < s.handles.length ↔ IsOrigin h i ∨ ∃ j, (.clone j, .made i) ∈ h
  bounded : ∀ {i c : Nat}, s.handles[i]? = some c → c < s.channels.length
  cloned : ∀ {i j : Nat}, (.clone i, .made j) ∈ h →
    ∃ c, s.handles[i]? = some c ∧ s.handles[j]? = some c
  rooted : ∀ {i : Nat}, i < s.handles.length → ∃ o, IsOrigin h o ∧ Descends h o i
  apart : ∀ {o o' c : Nat}, IsOrigin h o → IsOrigin h o' → s.handles[o]? = some c →
    s.handles[o']? = some c → o = o'

namespace Lineage

/-- Nothing has a lineage at first. -/
lemma initial : Lineage [] .initial where
  made {i} := by simp [State.initial, IsOrigin]
  bounded {i c} here := by
    obtain rfl | later := i.eq_zero_or_pos
    · cases here
      exact Nat.one_pos
    · rw [State.initial, List.getElem?_eq_none later] at here
      cases here
  cloned here := by cases here
  rooted {i} here := by
    obtain rfl : i = 0 := Nat.lt_one_iff.1 here
    exact ⟨0, .inl rfl, .refl⟩
  apart {o o' c} origin origin' _ _ := by
    obtain rfl | mem := origin
    · obtain rfl | mem := origin'
      · rfl
      · cases mem
    · cases mem

/-- An origin has a channel. -/
lemma lt_of_isOrigin (lineage : Lineage h s) (origin : IsOrigin h o) : o < s.handles.length :=
  lineage.made.2 (.inl origin)

/-- A command that makes no handle changes nothing about handles. -/
lemma keep (lineage : Lineage h s) {x : Command × Result} (handles : s'.handles = s.handles)
    (channels : s'.channels.length = s.channels.length)
    (create : ∀ i, x ≠ (.create, .made i)) (clone : ∀ i j, x ≠ (.clone i, .made j)) :
    Lineage (h ++ [x]) s' := by
  have created {i} : (.create, .made i) ∈ h ++ [x] ↔ (.create, .made i) ∈ h := by
    simp [(create i).symm]
  have cloned {i j} : (.clone i, .made j) ∈ h ++ [x] ↔ (.clone i, .made j) ∈ h := by
    simp [(clone i j).symm]
  have origin {o} : IsOrigin (h ++ [x]) o ↔ IsOrigin h o := by rw [IsOrigin, created, IsOrigin]
  constructor
  case made => simp only [handles, origin, cloned, lineage.made, implies_true]
  case bounded =>
    rw [handles, channels]
    exact lineage.bounded
  case cloned =>
    simp only [handles, cloned]
    exact lineage.cloned
  case rooted =>
    intro i here
    rw [handles] at here
    obtain ⟨o, root, descends⟩ := lineage.rooted here
    exact ⟨o, origin.2 root, descends.mono (List.subset_append_left _ _)⟩
  case apart =>
    simp only [handles, origin]
    exact lineage.apart

/-- A clone has the channel of the handle that it is a clone of. -/
lemma clone (lineage : Lineage h s) (here : s.handles[i]? = some c) :
    Lineage (h ++ [(.clone i, .made s.handles.length)]) (s.handle c) := by
  have grown : h ⊆ h ++ [(.clone i, .made s.handles.length)] := List.subset_append_left _ _
  have front : s.handles <+: (s.handle c).handles := List.prefix_append _ _
  have new : (s.handle c).handles[s.handles.length]? = some c := List.getElem?_concat_length
  have length : (s.handle c).handles.length = s.handles.length + 1 := List.length_append
  have origin {o} : IsOrigin (h ++ [(.clone i, .made s.handles.length)]) o ↔ IsOrigin h o := by
    simp [IsOrigin]
  -- An origin is older than the clone, so its channel was there before.
  have old {o d} (root : IsOrigin h o) (its : (s.handle c).handles[o]? = some d) :
      s.handles[o]? = some d := by
    rcases getElem?_of_concat its with ⟨rfl, -⟩ | its
    · exact absurd (lineage.lt_of_isOrigin root) (Nat.lt_irrefl _)
    · exact its
  constructor
  case made =>
    intro k
    rw [length, Nat.lt_succ_iff_lt_or_eq, lineage.made, origin, or_assoc]
    refine or_congr_right ⟨?_, ?_⟩
    · rintro (⟨j, mem⟩ | rfl)
      · exact ⟨j, grown mem⟩
      · exact ⟨i, List.mem_append_right _ (List.mem_singleton_self _)⟩
    · rintro ⟨j, mem⟩
      obtain mem | same := List.mem_append.1 mem
      · exact .inl ⟨j, mem⟩
      · cases List.mem_singleton.1 same
        exact .inr rfl
  case bounded =>
    intro k d its
    rcases getElem?_of_concat its with ⟨-, rfl⟩ | its
    · exact lineage.bounded here
    · exact lineage.bounded its
  case cloned =>
    intro k j mem
    obtain mem | same := List.mem_append.1 mem
    · obtain ⟨d, first, second⟩ := lineage.cloned mem
      exact ⟨d, getElem?_of_front front first, getElem?_of_front front second⟩
    · cases List.mem_singleton.1 same
      exact ⟨c, getElem?_of_front front here, new⟩
  case rooted =>
    intro k short
    rw [length] at short
    -- The clone descends from the origin of the handle that it is made of.
    obtain short | rfl := Nat.lt_succ_iff_lt_or_eq.1 short
    · obtain ⟨o, root, descends⟩ := lineage.rooted short
      exact ⟨o, origin.2 root, descends.mono grown⟩
    · obtain ⟨o, root, descends⟩ := lineage.rooted (lt_length_of_getElem? here)
      exact ⟨o, origin.2 root, (descends.mono grown).clone
        (List.mem_append_right _ (List.mem_singleton_self _))⟩
  case apart =>
    intro o o' d root root' its its'
    rw [origin] at root root'
    exact lineage.apart root root' (old root its) (old root' its')

/-- A handle that is made on its own has a channel that no other handle has. -/
lemma create (lineage : Lineage h s) :
    Lineage (h ++ [(.create, .made s.handles.length)]) s.create := by
  have grown : h ⊆ h ++ [(.create, .made s.handles.length)] := List.subset_append_left _ _
  have front : s.handles <+: s.create.handles := List.prefix_append _ _
  have length : s.create.handles.length = s.handles.length + 1 := List.length_append
  have channels : s.create.channels.length = s.channels.length + 1 := List.length_append
  have origin {o} : IsOrigin (h ++ [(.create, .made s.handles.length)]) o ↔
      IsOrigin h o ∨ o = s.handles.length := by
    simp [IsOrigin, or_assoc]
  have cloned {k j} : (.clone k, .made j) ∈ h ++ [(.create, .made s.handles.length)] ↔
      (.clone k, .made j) ∈ h := by
    simp
  -- An origin is the new one, with the new channel, or an old one, with an old channel.
  have origins {o d} (root : IsOrigin (h ++ [(.create, .made s.handles.length)]) o)
      (its : s.create.handles[o]? = some d) :
      (o = s.handles.length ∧ d = s.channels.length) ∨
        IsOrigin h o ∧ s.handles[o]? = some d ∧ d < s.channels.length := by
    rcases getElem?_of_concat its with new | its
    · exact .inl new
    · obtain root | rfl := origin.1 root
      · exact .inr ⟨root, its, lineage.bounded its⟩
      · exact absurd (lt_length_of_getElem? its) (Nat.lt_irrefl _)
  constructor
  case made =>
    intro k
    simp only [length, Nat.lt_succ_iff_lt_or_eq, lineage.made, origin, cloned]
    exact or_right_comm
  case bounded =>
    intro k d its
    rw [channels]
    rcases getElem?_of_concat its with ⟨-, rfl⟩ | its
    · exact Nat.lt_succ_self _
    · exact Nat.lt_succ_of_lt (lineage.bounded its)
  case cloned =>
    intro k j mem
    obtain ⟨d, first, second⟩ := lineage.cloned (cloned.1 mem)
    exact ⟨d, getElem?_of_front front first, getElem?_of_front front second⟩
  case rooted =>
    intro k short
    rw [length] at short
    obtain short | rfl := Nat.lt_succ_iff_lt_or_eq.1 short
    · obtain ⟨o, root, descends⟩ := lineage.rooted short
      exact ⟨o, root.mono grown, descends.mono grown⟩
    · exact ⟨_, origin.2 (.inr rfl), .refl⟩
  case apart =>
    intro o o' d root root' its its'
    rcases origins root its with ⟨rfl, rfl⟩ | ⟨root, its, old⟩
    · rcases origins root' its' with ⟨rfl, -⟩ | ⟨-, -, old⟩
      · rfl
      · exact absurd old (Nat.lt_irrefl _)
    · rcases origins root' its' with ⟨rfl, rfl⟩ | ⟨root', its', -⟩
      · exact absurd old (Nat.lt_irrefl _)
      · exact lineage.apart root root' its its'

/-- What was done is true of handles, whatever it was. -/
theorem extend (lineage : Lineage h s) (change : Change s e r s') : Lineage (h ++ [(e, r)]) s' := by
  cases change with
  | absent => exact lineage.keep rfl rfl (by simp) (by simp)
  | subscribed => exact lineage.keep rfl rfl (by simp) (by simp)
  | cloned here => exact lineage.clone here
  | created => exact lineage.create
  | triggered =>
    refine lineage.keep ?_ ?_ (by simp) (by simp)
    · unfold State.trigger
      split <;> rfl
    · unfold State.trigger
      split
      · rfl
      · exact List.length_set
  | dropped => exact lineage.keep rfl rfl (by simp) (by simp)
  | polled => exact lineage.keep rfl rfl (by simp) (by simp)

/-- What descends from a handle has its channel. -/
lemma channel_of_descends (lineage : Lineage h s) (descends : Descends h o i)
    (here : s.handles[i]? = some c) : s.handles[o]? = some c := by
  induction descends with
  | refl => exact here
  | clone _ mem ih =>
    obtain ⟨d, first, second⟩ := lineage.cloned mem
    rw [second] at here
    cases here
    exact ih first

/-- Two handles have one channel if both descend from one handle that is no clone. -/
theorem shared (lineage : Lineage h s) {d : Nat} (here : s.handles[i]? = some c)
    (there : s.handles[j]? = some d) :
    c = d ↔ ∃ o, IsOrigin h o ∧ Descends h o i ∧ Descends h o j := by
  constructor
  · rintro rfl
    obtain ⟨o, root, descends⟩ := lineage.rooted (lt_length_of_getElem? here)
    obtain ⟨o', root', descends'⟩ := lineage.rooted (lt_length_of_getElem? there)
    have same : o = o' := lineage.apart root root' (lineage.channel_of_descends descends here)
      (lineage.channel_of_descends descends' there)
    exact ⟨o, root, descends, same ▸ descends'⟩
  · rintro ⟨o, -, first, second⟩
    have its := lineage.channel_of_descends first here
    rw [lineage.channel_of_descends second there] at its
    exact (Option.some.inj its).symm

end Lineage

end MetadataGateway.Shutdown
