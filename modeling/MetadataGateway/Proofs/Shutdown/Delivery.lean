import MetadataGateway.Proofs.Shutdown.Ledger

/-!
# Every trigger reaches every subscription

A subscription that is behind its channel stays behind it until it receives a signal
(`signal_before_empty`), and what is done on other channels makes no difference to it
(`Apart.sameOn`). With what is due to it, this is all that there is to say of a shutdown: no trigger
is lost, and none that came before a subscription is found (`run_delivers`).
-/

namespace MetadataGateway.Shutdown

variable {h : History} {s s' : State} {e : Command} {r : Result} {c n : Nat}

/-! ## A signal is found before nothing is -/

namespace State

/-- A subscription that is there is behind its channel. -/
def Owes (s : State) (n : Nat) : Prop :=
  ∀ sub, s.subscription? n = some sub → sub.position < s.sent sub.channel

/-- A subscription that is placed is the only one that changes. -/
lemma subscription?_place {m : Nat} {p : Option Subscription} (short : m < s.subscriptions.length) :
    (s.place m p).subscription? n = if m = n then p else s.subscription? n := by
  rw [subscription?, place, List.getElem?_set]
  split <;> rfl

/-- A new subscription leaves those that were there. -/
lemma subscription?_subscribe {m : Nat} (short : n < s.subscriptions.length) :
    (s.subscribe m).subscription? n = s.subscription? n := by
  rw [subscription?, subscribe, List.getElem?_append_left short, subscription?]

/-- A trigger takes back no signal of any channel. -/
lemma sent_le_trigger (s : State) (c d : Nat) : s.sent d ≤ (s.trigger c).sent d := by
  unfold trigger
  split
  · exact Nat.le_refl _
  · simp only [sent, List.getD_eq_getElem?_getD, List.getElem?_set]
    split
    · rename_i same
      subst same
      split
      · exact Nat.le_succ _
      · rename_i long
        have absent := List.getElem?_eq_none (Nat.le_of_not_lt long)
        simp only [absent, Nat.le_refl]
    · exact Nat.le_refl _

/-- A trigger leaves all subscriptions where they are. -/
lemma subscription?_trigger (s : State) (c n : Nat) :
    (s.trigger c).subscription? n = s.subscription? n := by
  unfold trigger
  split <;> rfl

/-- A subscription that is behind its channel does not find that there is nothing. -/
lemma Owes.poll_ne_empty (owes : s.Owes n) : (step s (.poll n)).1 ≠ .received .empty := by
  cases here : s.subscription? n with
  | none =>
    rw [poll_of_absent here]
    nofun
  | some sub =>
    have behind := owes sub here
    rw [poll_of_live here, receive, if_neg (Nat.not_le.2 behind)]
    split <;> simp

end State

/-- A subscription that is behind its channel stays there until it receives a signal. -/
lemma Change.owes (change : Change s e r s') (short : n < s.subscriptions.length)
    (owes : s.Owes n) :
    (e, r) = (.poll n, .received .signal) ∨
      n < s'.subscriptions.length ∧ s'.Owes n := by
  cases change with
  | absent => exact .inr ⟨short, owes⟩
  | @subscribed i c =>
    refine .inr ⟨Nat.lt_of_lt_of_le short (List.prefix_append _ _).length_le, fun sub here => ?_⟩
    rw [State.subscription?_subscribe short] at here
    exact owes sub here
  | cloned => exact .inr ⟨short, owes⟩
  | created =>
    refine .inr ⟨short, fun sub here => ?_⟩
    rw [State.sent_create]
    exact owes sub here
  | @triggered i c =>
    have subscriptions : (s.trigger c).subscriptions = s.subscriptions := by
      unfold State.trigger
      split <;> rfl
    refine .inr ⟨subscriptions ▸ short, fun sub here => ?_⟩
    rw [State.subscription?_trigger] at here
    exact Nat.lt_of_lt_of_le (owes sub here) (s.sent_le_trigger c sub.channel)
  | @dropped m sub here =>
    have its := lt_length_of_getElem? (State.getElem?_of_subscription? here)
    refine .inr ⟨List.length_set.symm ▸ short, fun sub' there => ?_⟩
    rw [State.subscription?_place its] at there
    split at there
    · cases there
    · exact owes sub' there
  | @polled m sub here =>
    have its := lt_length_of_getElem? (State.getElem?_of_subscription? here)
    by_cases same : m = n
    · subst same
      have behind := owes sub here
      by_cases one : s.sent sub.channel = sub.position + 1
      · left
        rw [receive, if_neg (Nat.not_le.2 behind), if_pos one]
      · -- It is told how many it has missed, and one stays due.
        refine .inr ⟨List.length_set.symm ▸ short, fun sub' there => ?_⟩
        rw [State.subscription?_place its, if_pos rfl] at there
        cases there
        rw [receive, if_neg (Nat.not_le.2 behind), if_neg one]
        show s.sent sub.channel - 1 < s.sent sub.channel
        omega
    · refine .inr ⟨List.length_set.symm ▸ short, fun sub' there => ?_⟩
      rw [State.subscription?_place its, if_neg same] at there
      exact owes sub' there

/-- A subscription that is behind its channel receives a signal before it finds that there is
nothing. -/
theorem signal_before_empty (short : n < s.subscriptions.length) (owes : s.Owes n)
    (cs : List Command) (empty : (step (after cs s) (.poll n)).1 = .received .empty) :
    (.poll n, .received .signal) ∈ history cs s := by
  -- As long as the signal has not been received, the subscription is behind, or has been dropped.
  have kept : (.poll n, .received .signal) ∈ [] ++ history cs s ∨
      n < (after cs s).subscriptions.length ∧ (after cs s).Owes n := by
    refine run_induction (P := fun h s => (.poll n, .received .signal) ∈ h ∨
      n < s.subscriptions.length ∧ s.Owes n) ?_ cs (.inr ⟨short, owes⟩)
    rintro h s e r s' (received | ⟨short, owes⟩) change
    · exact .inl (List.mem_append_left _ received)
    · rcases change.owes short owes with signal | owes
      · exact .inl (List.mem_append_right _ (List.mem_singleton.2 signal.symm))
      · exact .inr owes
  obtain received | ⟨-, owes⟩ := kept
  · exact received
  · exact absurd empty owes.poll_ne_empty

/-! ## Channels are apart -/

/-- The channel that a command is about. -/
def State.concerns (s : State) : Command → Option Nat
  | .subscribe i => s.handles[i]?
  | .clone i => s.handles[i]?
  | .create => none
  | .trigger i => s.handles[i]?
  | .drop n => (s.subscription? n).map Subscription.channel
  | .poll n => (s.subscription? n).map Subscription.channel

/-- None of the commands is about a channel when it is carried out. -/
def Apart (c : Nat) : List Command → State → Prop
  | [], _ => True
  | e :: cs, s => s.concerns e ≠ some c ∧ Apart c cs (step s e).2

/-- Two states have the same to say of a channel. -/
structure SameOn (c : Nat) (s t : State) : Prop where
  handles : s.handles <+: t.handles
  sent : t.sent c = s.sent c
  receivers : t.receivers c = s.receivers c
  subscriptions : ∀ {n : Nat} {sub : Subscription}, s.subscription? n = some sub →
    sub.channel = c → t.subscription? n = some sub

/-- Who listens on a channel does not change when a subscription to another does. -/
lemma State.receivers_place {sub : Subscription} {p : Option Subscription}
    (here : s.subscription? n = some sub) (other : sub.channel ≠ c) (off : isOn c p = false) :
    (s.place n p).receivers c = s.receivers c := by
  obtain ⟨short, its⟩ := List.getElem?_eq_some_iff.1 (getElem?_of_subscription? here)
  have was : isOn c s.subscriptions[n] = false := by simp [its, isOn, other]
  rw [receivers, place, List.countP_set short, was, off]
  rfl

/-- What is put into the place of a subscription to another channel makes no difference. -/
lemma SameOn.place {sub : Subscription} {p : Option Subscription}
    (here : s.subscription? n = some sub) (other : sub.channel ≠ c)
    (off : State.isOn c p = false) : SameOn c s (s.place n p) where
  handles := List.prefix_rfl
  sent := rfl
  receivers := State.receivers_place here other off
  subscriptions {m sub'} there on := by
    rw [State.subscription?_place (lt_length_of_getElem? (State.getElem?_of_subscription? here)),
      if_neg]
    · exact there
    · rintro rfl
      rw [here] at there
      cases there
      exact other on

/-- A command that is not about a channel changes nothing about it. -/
lemma Change.sameOn (change : Change s e r s') (apart : s.concerns e ≠ some c) :
    SameOn c s s' := by
  cases change with
  | absent => exact ⟨List.prefix_rfl, rfl, rfl, fun here _ => here⟩
  | @subscribed i d here =>
    have other : d ≠ c := fun same => apart (same ▸ here)
    refine ⟨List.prefix_rfl, rfl, ?_, fun here _ => ?_⟩
    · simp [State.receivers, State.subscribe, State.isOn, other]
    · have there := lt_length_of_getElem? (State.getElem?_of_subscription? here)
      rw [State.subscription?_subscribe there, here]
  | cloned => exact ⟨List.prefix_append _ _, rfl, rfl, fun here _ => here⟩
  | created => exact ⟨List.prefix_append _ _, s.sent_create c, rfl, fun here _ => here⟩
  | @triggered i d here =>
    have other : d ≠ c := fun same => apart (same ▸ here)
    refine ⟨(Change.triggered here).handles, ?_, ?_, fun here _ => ?_⟩
    · unfold State.trigger
      split
      · rfl
      · rw [State.sent, List.getD_eq_getElem?_getD, List.getElem?_set_ne other]
        exact List.getD_eq_getElem?_getD.symm
    · unfold State.trigger
      split <;> rfl
    · rw [State.subscription?_trigger, here]
  | @dropped n sub here =>
    have other : sub.channel ≠ c := fun same => apart (by rw [State.concerns, here, ← same]; rfl)
    exact .place here other rfl
  | @polled n sub here =>
    have other : sub.channel ≠ c := fun same => apart (by rw [State.concerns, here, ← same]; rfl)
    exact .place here other (by simp [State.isOn, other])

/-- Commands that are not about a channel change nothing about it. -/
theorem Apart.sameOn {cs : List Command} (apart : Apart c cs s) : SameOn c s (after cs s) := by
  induction cs generalizing s with
  | nil => exact ⟨List.prefix_rfl, rfl, rfl, fun here _ => here⟩
  | cons e cs ih =>
    obtain ⟨first, rest⟩ := apart
    have one := (step_change s e).sameOn first
    have more := ih rest
    exact ⟨one.handles.trans more.handles, more.sent.trans one.sent,
      more.receivers.trans one.receivers, fun here on => more.subscriptions
        (one.subscriptions here on) on⟩

/-! ## Delivery -/

/-- What holds of the state behind a history. -/
structure Delivers (h : History) (s : State) : Prop where
  /-- The handles are the first one, those made on their own, and clones. -/
  handles : ∀ i, i < s.handles.length ↔ IsOrigin h i ∨ ∃ j, (.clone j, .made i) ∈ h
  /-- Two handles have one channel if they descend from one handle that is no clone. -/
  shared : ∀ {i j c d : Nat}, s.handles[i]? = some c → s.handles[j]? = some d →
    (c = d ↔ ∃ o, IsOrigin h o ∧ Descends h o i ∧ Descends h o j)
  /-- The receivers of a handle are the live subscriptions on its channel, each counted once. -/
  counted : s.receiverCounts = s.handles.map fun c => (liveOn s.handles c h).length
  distinct : ∀ c, (liveOn s.handles c h).Nodup
  /-- A trigger notifies all of them. -/
  notified : ∀ {i c : Nat}, s.handles[i]? = some c →
    (step s (.trigger i)).1 = .notified (liveOn s.handles c h).length
  subscribed : ∀ {i n : Nat}, Live h i n → ∃ c, s.handles[i]? = some c
  /-- Signals, lags and what is due are the triggers since a subscription was made. -/
  accounts : ∀ {i n c : Nat}, Live h i n → s.handles[i]? = some c →
    signals n (since n h) + lags n (since n h) + due s.handles c n h =
      triggers s.handles c (since n h)
  /-- What is due decides what a subscription finds, and what is due then. -/
  received : ∀ {i n c : Nat}, Live h i n → s.handles[i]? = some c →
    (step s (.poll n)).1 = .received (reception (due s.handles c n h))
  remains : ∀ {i n c : Nat}, Live h i n → s.handles[i]? = some c →
    due s.handles c n (h ++ [(.poll n, (step s (.poll n)).1)]) = left (due s.handles c n h)
  absent : ∀ {n : Nat}, (∀ i, ¬Live h i n) → (step s (.poll n)).1 = .absent
  /-- A new subscription finds nothing of what was triggered before. -/
  fresh : ∀ {i c : Nat}, s.handles[i]? = some c →
    (step s (.subscribe i)).1 = .made s.subscriptions.length ∧
      (step (step s (.subscribe i)).2 (.poll s.subscriptions.length)).1 = .received .empty
  /-- Whatever is done behind a trigger, a subscription on its channel receives a signal before it
  finds that there is nothing. -/
  seen : ∀ {i j n c : Nat}, Live h i n → s.handles[i]? = some c → s.handles[j]? = some c →
    ∀ ds, (step (after ds (step s (.trigger j)).2) (.poll n)).1 = .received .empty →
      (.poll n, .received .signal) ∈ history ds (step s (.trigger j)).2
  /-- What is done on other channels makes no difference to the receivers of a channel, to a trigger
  on it, or to what a subscription finds on it. -/
  apart : ∀ {c : Nat} {ds : List Command}, Apart c ds s →
    (after ds s).receivers c = s.receivers c ∧
      (∀ {i : Nat}, s.handles[i]? = some c → (after ds s).handles[i]? = some c ∧
        (step (after ds s) (.trigger i)).1 = (step s (.trigger i)).1) ∧
      ∀ {i n : Nat}, Live h i n → s.handles[i]? = some c →
        (step (after ds s) (.poll n)).1 = (step s (.poll n)).1

/-- Whatever is done with handles and subscriptions, every trigger is delivered. -/
theorem run_delivers (cs : List Command) :
    Delivers (history cs .initial) (after cs .initial) := by
  obtain ⟨lineage, kept⟩ := kept_history (H := (after cs .initial).handles) cs
  generalize history cs .initial = h at *
  generalize after cs .initial = s at *
  have ledger : Ledger s.handles h s := kept List.prefix_rfl
  have receivers := ledger.receivers_eq List.prefix_rfl
  -- From here on only the lineage and the ledger speak for the run: each part is read off them.
  constructor
  case handles => exact fun i => lineage.made
  case shared => exact lineage.shared
  case counted => exact List.map_congr_left fun c _ => receivers c
  case distinct => exact fun c => ledger.nodup_liveOn
  case notified =>
    intro i c here
    rw [trigger_of_handle here, receivers]
  case subscribed =>
    intro i n live
    obtain ⟨c, -, here, -⟩ := ledger.place (mem_subscribers.2 live.1)
    exact ⟨c, here⟩
  case accounts => exact fun live here => (ledger.poll live here).1
  case received => exact fun live here => (ledger.poll live here).2.1
  case remains => exact fun live here => (ledger.poll live here).2.2
  case absent => exact ledger.absent
  case fresh =>
    intro i c here
    have subscribe : step s (.subscribe i) = (.made s.subscriptions.length, s.subscribe c) := by
      simp only [step, here]
    have made : (s.subscribe c).subscription? s.subscriptions.length = some ⟨c, s.sent c⟩ := by
      simp [State.subscription?, State.subscribe]
    rw [subscribe, poll_of_live made, receive, if_pos]
    · exact ⟨rfl, rfl⟩
    · exact Nat.le_refl _
  case seen =>
    intro i j n c live here there ds empty
    obtain ⟨sub, found, -, rfl, behind, -⟩ := ledger.live live here
    rw [trigger_of_handle there] at empty ⊢
    have stays := (s.subscription?_trigger sub.channel n).trans found
    -- A trigger leaves the subscription as far as it was, now one signal behind what was sent.
    refine signal_before_empty (lt_length_of_getElem? (State.getElem?_of_subscription? stays))
      (fun sub' its => ?_) ds empty
    rw [stays] at its
    cases its
    rw [State.sent_trigger (lineage.bounded there) found, if_pos rfl]
    omega
  case apart =>
    intro c ds apart
    have same := apart.sameOn
    refine ⟨same.receivers, fun here => ?_, fun live here => ?_⟩
    · have there := getElem?_of_front same.handles here
      rw [trigger_of_handle here, trigger_of_handle there, same.receivers]
      exact ⟨there, rfl⟩
    · obtain ⟨sub, found, -, rfl, -⟩ := ledger.live live here
      rw [poll_of_live found, poll_of_live (same.subscriptions found rfl), same.sent]

end MetadataGateway.Shutdown
