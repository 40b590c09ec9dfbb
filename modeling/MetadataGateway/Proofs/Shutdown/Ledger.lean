import Mathlib.Data.List.Count
import Mathlib.Data.List.Nodup
import MetadataGateway.Proofs.Shutdown.History

/-!
# What is due to a subscription

A channel counts the signals that it has sent, and a subscription knows how many of them are behind
it. The history says the same without either: since a subscription was made there were so many
triggers on its channel, and it has received or been told of so many (`Ledger`). The difference is
what is due to it, and that decides what it finds next (`Ledger.poll`). The live subscriptions are
those that a channel has (`Ledger.receivers_eq`).
-/

namespace MetadataGateway.Shutdown

variable {h : History} {s s' : State} {e : Command} {r : Result} {H : List Nat} {c i j n : Nat}
  {x : Command × Result}

/-! ## What a history says of subscriptions -/

/-- The handle and the number of a subscription that was made. -/
def subscriber? : Command × Result → Option (Nat × Nat)
  | (.subscribe i, .made n) => some (i, n)
  | _ => none

/-- The subscriptions that were made, each with the handle that it was made through. -/
def subscribers (h : History) : List (Nat × Nat) :=
  h.filterMap subscriber?

/-- A subscription was made through a handle and has not been dropped. -/
def Live (h : History) (i n : Nat) : Prop :=
  (.subscribe i, .made n) ∈ h ∧ (.drop n, .dropped) ∉ h

/-- The live subscriptions that were made on a channel, if the handles have these channels. -/
def liveOn (H : List Nat) (c : Nat) (h : History) : List Nat :=
  ((subscribers h).filter fun e => H[e.1]? = some c ∧ (.drop e.2, .dropped) ∉ h).map Prod.snd

/-- What was done behind the making of a subscription. -/
def since (n : Nat) : History → History
  | [] => []
  | x :: h => if (subscriber? x).map Prod.snd = some n then h else since n h

/-- A trigger on a channel. -/
def isTrigger (H : List Nat) (c : Nat) : Command × Result → Bool
  | (.trigger i, .notified _) => H[i]? == some c
  | _ => false

/-- How many triggers on a channel there were. -/
def triggers (H : List Nat) (c : Nat) (h : History) : Nat :=
  h.countP (isTrigger H c)

/-- How many signals a subscription has received. -/
def signals (n : Nat) (h : History) : Nat :=
  h.count (.poll n, .received .signal)

/-- How many signals a subscription is told of that it has missed. -/
def lag (n : Nat) : Command × Result → Nat
  | (.poll m, .received (.lagged missed)) => if m = n then missed else 0
  | _ => 0

/-- How many signals a subscription was told of that it had missed. -/
def lags (n : Nat) (h : History) : Nat :=
  (h.map (lag n)).sum

/-- How many triggers a subscription has accounted for since it was made. -/
def accounted (n : Nat) (h : History) : Nat :=
  signals n (since n h) + lags n (since n h)

/-- How many triggers on its channel a subscription has not accounted for since it was made. -/
def due (H : List Nat) (c n : Nat) (h : History) : Nat :=
  triggers H c (since n h) - accounted n h

/-- What a subscription finds if so many signals are due. -/
def reception : Nat → Reception
  | 0 => .empty
  | 1 => .signal
  | m + 2 => .lagged (m + 1)

/-- How many signals are due behind that. -/
def left : Nat → Nat
  | 0 => 0
  | 1 => 0
  | _ + 2 => 1

/-- A subscriber is a subscription that was made through a handle. -/
lemma mem_subscribers : (i, n) ∈ subscribers h ↔ (.subscribe i, .made n) ∈ h := by
  rw [subscribers, List.mem_filterMap]
  constructor
  · rintro ⟨x, mem, its⟩
    unfold subscriber? at its
    split at its
    · cases its
      exact mem
    · cases its
  · exact fun mem => ⟨_, mem, rfl⟩

/-- What is done behind the making of a subscription is done since. -/
lemma since_concat (made : n ∈ (subscribers h).map Prod.snd) :
    since n (h ++ [x]) = since n h ++ [x] := by
  induction h with
  | nil => cases made
  | cons y h ih =>
    rw [List.cons_append, since, since]
    split
    · rfl
    · rename_i other
      refine ih ?_
      rw [subscribers, List.filterMap_cons] at made
      cases first : subscriber? y with
      | none =>
        rw [first] at made
        exact made
      | some e =>
        rw [first, List.map_cons, List.mem_cons] at made
        refine made.resolve_left fun same => other ?_
        rw [first, same]
        rfl

/-- Nothing was done since a subscription was made. -/
lemma since_made (new : n ∉ (subscribers h).map Prod.snd) :
    since n (h ++ [(.subscribe i, .made n)]) = [] := by
  induction h with
  | nil => exact if_pos rfl
  | cons y h ih =>
    rw [subscribers, List.filterMap_cons] at new
    rw [List.cons_append, since]
    cases first : subscriber? y with
    | none =>
      rw [first] at new
      exact (if_neg nofun).trans (ih new)
    | some e =>
      rw [first, List.map_cons, List.mem_cons, not_or] at new
      refine (if_neg fun same => new.1 ?_).trans (ih new.2)
      exact (Option.some.inj same).symm

/-- What an entry adds to the triggers. -/
lemma triggers_concat (made : n ∈ (subscribers h).map Prod.snd) :
    triggers H c (since n (h ++ [x])) = triggers H c (since n h) + triggers H c [x] := by
  rw [since_concat made]
  exact List.countP_append

/-- What an entry adds to what is accounted for. -/
lemma accounted_concat (made : n ∈ (subscribers h).map Prod.snd) :
    accounted n (h ++ [x]) = accounted n h + (signals n [x] + lags n [x]) := by
  simp only [accounted, since_concat made, signals, lags, List.count_append, List.map_append,
    List.sum_append]
  omega

/-- A subscription that finds what is due accounts for all of it but what is left. -/
lemma account_reception (n m : Nat) :
    signals n [(.poll n, .received (reception m))] + lags n [(.poll n, .received (reception m))]
      + left m = m := by
  match m with
  | 0 => simp [signals, lags, lag, reception, left]
  | 1 => simp [signals, lags, lag, reception, left]
  | m + 2 => simp [signals, lags, lag, reception, left]

/-- What a subscription finds on its channel, by what is due. -/
lemma receive_eq {sent position : Nat} (behind : position ≤ sent) :
    receive sent position = (reception (sent - position), sent - left (sent - position)) := by
  obtain ⟨m, rfl⟩ := Nat.exists_eq_add_of_le behind
  rw [Nat.add_sub_cancel_left]
  match m with
  | 0 => simp [receive, reception, left]
  | 1 => simp [receive, reception, left]
  | m + 2 =>
    rw [receive, if_neg (by omega), if_neg (by omega), reception, left]
    congr 2
    omega

/-! ## Places of subscriptions -/

/-- What stands at the place of a subscription that was made on a channel: nothing if it was
dropped, and else how many signals are behind it, which are those sent before it was made and those
that it has accounted for. -/
def Place (H : List Nat) (h : History) (s : State) (c n : Nat) : Option Subscription → Prop
  | none => (.drop n, .dropped) ∈ h
  | some sub => (.drop n, .dropped) ∉ h ∧ sub.channel = c ∧ sub.position ≤ s.sent c ∧
    s.sent c + accounted n h = sub.position + triggers H c (since n h)

/-- Each subscription has its place. -/
structure Ledger (H : List Nat) (h : History) (s : State) : Prop where
  numbered : (subscribers h).map Prod.snd = List.range s.subscriptions.length
  dropped : ∀ {n : Nat}, (.drop n, .dropped) ∈ h → n < s.subscriptions.length
  place : ∀ {i n : Nat}, (i, n) ∈ subscribers h →
    ∃ c p, s.handles[i]? = some c ∧ s.subscriptions[n]? = some p ∧ Place H h s c n p

/-- The place of a subscription stays as it is if its channel sends what is triggered and the
subscription itself is not asked for. -/
lemma Place.keep {p : Option Subscription} (place : Place H h s c n p)
    (made : n ∈ (subscribers h).map Prod.snd) (kept : x ≠ (.drop n, .dropped))
    (unasked : signals n [x] + lags n [x] = 0)
    (sent : p.isSome → s'.sent c = s.sent c + triggers H c [x]) : Place H (h ++ [x]) s' c n p := by
  cases p with
  | none => exact List.mem_append_left _ place
  | some sub =>
    obtain ⟨live, its, behind, even⟩ := place
    have sent := sent rfl
    refine ⟨?_, its, by omega, ?_⟩
    · rw [List.mem_append, List.mem_singleton, not_or]
      exact ⟨live, kept.symm⟩
    · rw [accounted_concat made, triggers_concat made, sent, unasked]
      omega

namespace Ledger

/-- At first the ledger is empty. -/
lemma initial : Ledger H [] .initial where
  numbered := rfl
  dropped here := by cases here
  place here := by cases here

/-- A subscription that was made has a number. -/
lemma mem_numbers (made : (i, n) ∈ subscribers h) : n ∈ (subscribers h).map Prod.snd :=
  List.mem_map_of_mem (f := Prod.snd) made

/-- A command that makes and drops no subscription, and finds none, leaves all places as they are.
-/
lemma keep (ledger : Ledger H h s) (handles : s.handles <+: s'.handles)
    (subscriptions : s'.subscriptions = s.subscriptions) (unmade : subscriber? x = none)
    (undropped : ∀ n, x ≠ (.drop n, .dropped)) (unasked : ∀ n, signals n [x] + lags n [x] = 0)
    (sent : ∀ n sub, s.subscription? n = some sub →
      s'.sent sub.channel = s.sent sub.channel + triggers H sub.channel [x]) :
    Ledger H (h ++ [x]) s' := by
  have same : subscribers (h ++ [x]) = subscribers h := by
    simp [subscribers, List.filterMap_append, unmade]
  constructor
  case numbered => rw [same, subscriptions, ledger.numbered]
  case dropped =>
    intro n mem
    rw [subscriptions]
    obtain mem | here := List.mem_append.1 mem
    · exact ledger.dropped mem
    · exact absurd (List.mem_singleton.1 here).symm (undropped n)
  case place =>
    intro i n made
    rw [same] at made
    obtain ⟨c, p, its, here, place⟩ := ledger.place made
    refine ⟨c, p, getElem?_of_front handles its, subscriptions ▸ here,
      place.keep (mem_numbers made) (undropped n) (unasked n) fun live => ?_⟩
    obtain ⟨sub, rfl⟩ := Option.isSome_iff_exists.1 live
    have channel : sub.channel = c := place.2.1
    rw [← channel]
    exact sent n sub (by rw [State.subscription?, here, Option.join_some])

/-- A subscription is made behind all that its channel has sent. -/
lemma subscribe (ledger : Ledger H h s) (here : s.handles[i]? = some c) :
    Ledger H (h ++ [(.subscribe i, .made s.subscriptions.length)]) (s.subscribe c) := by
  -- Subscriptions are numbered by their place, so the new number has been given to none.
  have new : s.subscriptions.length ∉ (subscribers h).map Prod.snd := by
    rw [ledger.numbered]
    exact List.not_mem_range_self
  have subscribers_eq : subscribers (h ++ [(.subscribe i, .made s.subscriptions.length)]) =
      subscribers h ++ [(i, s.subscriptions.length)] := List.filterMap_append
  have length : (s.subscribe c).subscriptions.length = s.subscriptions.length + 1 :=
    List.length_append
  have undropped {n} :
      (.drop n, .dropped) ∈ h ++ [(.subscribe i, .made s.subscriptions.length)] ↔
        (.drop n, .dropped) ∈ h := by
    simp
  constructor
  case numbered =>
    rw [subscribers_eq, List.map_append, ledger.numbered, length, List.range_succ]
    rfl
  case dropped =>
    intro n mem
    rw [length]
    exact Nat.lt_succ_of_lt (ledger.dropped (undropped.1 mem))
  case place =>
    intro k n made
    rw [subscribers_eq, List.mem_append, List.mem_singleton] at made
    obtain made | same := made
    · obtain ⟨d, p, its, there, place⟩ := ledger.place made
      exact ⟨d, p, its, getElem?_of_front (List.prefix_append _ _) there,
        place.keep (mem_numbers made) nofun rfl fun _ => rfl⟩
    · cases same
      refine ⟨c, some ⟨c, s.sent c⟩, here, List.getElem?_concat_length, ?_, rfl, Nat.le_refl _, ?_⟩
      · rw [undropped]
        exact fun mem => absurd (ledger.dropped mem) (Nat.lt_irrefl _)
      · rw [accounted, since_made new]
        rfl

/-- What stands in the place of one subscription is changed, and the others are not asked for. -/
lemma set (ledger : Ledger H h s) {q : Option Subscription} (unmade : subscriber? x = none)
    (undropped : ∀ m, m ≠ n → x ≠ (.drop m, .dropped))
    (unasked : ∀ m, m ≠ n → signals m [x] + lags m [x] = 0)
    (untriggered : ∀ c, triggers H c [x] = 0)
    (short : n < s.subscriptions.length)
    (place : ∀ c p, s.subscriptions[n]? = some p → n ∈ (subscribers h).map Prod.snd →
      Place H h s c n p → Place H (h ++ [x]) (s.place n q) c n q) :
    Ledger H (h ++ [x]) (s.place n q) := by
  have same : subscribers (h ++ [x]) = subscribers h := by
    simp [subscribers, List.filterMap_append, unmade]
  have length : (s.place n q).subscriptions.length = s.subscriptions.length := List.length_set
  constructor
  case numbered => rw [same, length, ledger.numbered]
  case dropped =>
    intro m mem
    rw [length]
    obtain mem | last := List.mem_append.1 mem
    · exact ledger.dropped mem
    · by_cases its : m = n
      · exact its ▸ short
      · exact absurd (List.mem_singleton.1 last).symm (undropped m its)
  case place =>
    intro i m made
    rw [same] at made
    obtain ⟨c, p, its, there, old⟩ := ledger.place made
    by_cases eq : m = n
    · subst eq
      refine ⟨c, q, its, ?_, place c p there (mem_numbers made) old⟩
      exact List.getElem?_set_self short
    · refine ⟨c, p, its, ?_,
        old.keep (mem_numbers made) (undropped m eq) (unasked m eq) fun _ => ?_⟩
      · exact (List.getElem?_set_ne (Ne.symm eq)).trans there
      · rw [untriggered]
        rfl

end Ledger

/-- A live subscription stands in its place. -/
lemma State.getElem?_of_subscription? {sub : Subscription} (here : s.subscription? n = some sub) :
    s.subscriptions[n]? = some (some sub) :=
  Option.join_eq_some_iff.1 here

/-- A trigger is sent where somebody listens. -/
lemma State.sent_trigger {sub : Subscription} (bounded : c < s.channels.length)
    (here : s.subscription? n = some sub) :
    (s.trigger c).sent sub.channel = s.sent sub.channel + if c = sub.channel then 1 else 0 := by
  unfold State.trigger
  split
  · rename_i nobody
    rw [if_neg]
    · rfl
    · -- The subscription listens on its channel.
      rintro rfl
      have listens := List.countP_eq_zero.1 nobody _
        (List.mem_of_getElem? (State.getElem?_of_subscription? here))
      simp [isOn] at listens
  · rw [sent, List.getD_eq_getElem?_getD, List.getElem?_set]
    split
    · rename_i same
      rw [same]
      rfl
    · exact List.getD_eq_getElem?_getD.symm

/-- A new channel has sent nothing, and the others have sent what they had sent. -/
lemma State.sent_create (s : State) (c : Nat) : s.create.sent c = s.sent c := by
  simp only [sent, create, List.getD_eq_getElem?_getD, List.getElem?_append]
  split
  · rfl
  · rename_i long
    rw [List.getElem?_eq_none (Nat.le_of_not_lt long), List.getElem?_singleton]
    split <;> rfl

namespace Ledger

/-- What was done is written down, whatever it was. -/
theorem extend (ledger : Ledger H h s) (lineage : Lineage h s) (front : s.handles <+: H)
    (change : Change s e r s') : Ledger H (h ++ [(e, r)]) s' := by
  cases change with
  | absent =>
    refine ledger.keep List.prefix_rfl rfl ?_ (by simp) (fun n => ?_) fun n sub here => ?_
    · cases e <;> rfl
    · cases e <;> simp [signals, lags, lag]
    · cases e <;> rfl
  | subscribed here => exact ledger.subscribe here
  | cloned =>
    exact ledger.keep (List.prefix_append _ _) rfl rfl (by simp)
      (fun n => by simp [signals, lags, lag]) fun n sub here => rfl
  | created =>
    exact ledger.keep (List.prefix_append _ _) rfl rfl (by simp)
      (fun n => by simp [signals, lags, lag]) fun n sub here => s.sent_create sub.channel
  | @triggered i c here =>
    refine ledger.keep (Change.triggered here).handles ?_ rfl (by simp)
      (fun n => by simp [signals, lags, lag]) fun n sub there => ?_
    · unfold State.trigger
      split <;> rfl
    · rw [State.sent_trigger (lineage.bounded here) there, triggers, List.countP_singleton,
        isTrigger, getElem?_of_front front here]
      simp
  | @dropped n sub here =>
    refine ledger.set rfl (fun m other => by simpa using other.symm)
      (fun m _ => by simp [signals, lags, lag]) (fun _ => rfl)
      (lt_length_of_getElem? (State.getElem?_of_subscription? here)) fun _ _ _ _ _ => ?_
    exact List.mem_append_right _ (List.mem_singleton_self _)
  | @polled n sub here =>
    have there := State.getElem?_of_subscription? here
    refine ledger.set rfl (by simp) (fun m other => ?_) (fun _ => rfl)
      (lt_length_of_getElem? there) fun c p its made old => ?_
    · have other : n ≠ m := Ne.symm other
      cases (receive (s.sent sub.channel) sub.position).1 <;> simp [signals, lags, lag, other]
    · rw [there] at its
      cases its
      obtain ⟨live, rfl, behind, even⟩ := old
      -- Its position moves by what it accounts for.
      have account := account_reception n (s.sent sub.channel - sub.position)
      rw [receive_eq behind]
      dsimp only
      refine ⟨by simpa using live, rfl, Nat.sub_le _ _, ?_⟩
      rw [accounted_concat made, triggers_concat made]
      show s.sent sub.channel + (accounted n h + (_ + _)) =
        s.sent sub.channel - left (s.sent sub.channel - sub.position) + (_ + 0)
      omega

end Ledger

/-- Commands are written down, if the handles have the channels that they have in the end. -/
theorem kept_history (cs : List Command) :
    Lineage (history cs .initial) (after cs .initial) ∧
      ((after cs .initial).handles <+: H → Ledger H (history cs .initial) (after cs .initial)) := by
  refine run_induction (h := []) (P := fun h s => Lineage h s ∧ (s.handles <+: H → Ledger H h s))
    ?_ cs ⟨.initial, fun _ => .initial⟩
  rintro h s e r s' ⟨lineage, ledger⟩ change
  refine ⟨lineage.extend change, fun front => ?_⟩
  have front := change.handles.trans front
  exact (ledger front).extend lineage front change

namespace Ledger

/-- A live subscription is the one that stands in its place. -/
lemma live (ledger : Ledger H h s) (live : Live h i n) (here : s.handles[i]? = some c) :
    ∃ sub, s.subscription? n = some sub ∧ Place H h s c n (some sub) := by
  obtain ⟨d, p, its, there, place⟩ := ledger.place (mem_subscribers.2 live.1)
  rw [here] at its
  cases its
  cases p with
  | none => exact absurd place live.2
  | some sub => exact ⟨sub, by rw [State.subscription?, there, Option.join_some], place⟩

/-- A subscription that stands in a place is live, and on the channel of its handle. -/
lemma live_of_subscription? (ledger : Ledger H h s) {sub : Subscription}
    (here : s.subscription? n = some sub) :
    ∃ i, Live h i n ∧ s.handles[i]? = some sub.channel := by
  have there := State.getElem?_of_subscription? here
  have known : n ∈ (subscribers h).map Prod.snd := by
    rw [ledger.numbered, List.mem_range]
    exact lt_length_of_getElem? there
  obtain ⟨⟨i, n⟩, made, rfl⟩ := List.mem_map.1 known
  obtain ⟨c, p, its, found, place⟩ := ledger.place made
  rw [there] at found
  cases found
  obtain ⟨live, rfl, -⟩ := place
  exact ⟨i, ⟨mem_subscribers.1 made, live⟩, its⟩

/-- Each live subscription on a channel is counted once. -/
lemma nodup_liveOn (ledger : Ledger H h s) : (liveOn H c h).Nodup := by
  have all : ((subscribers h).map Prod.snd).Nodup := by
    rw [ledger.numbered]
    exact List.nodup_range
  exact (List.filter_sublist.map _).nodup all

/-- The receivers of a channel are its live subscriptions. -/
lemma receivers_eq (ledger : Ledger H h s) (front : s.handles <+: H) (c : Nat) :
    s.receivers c = (liveOn H c h).length := by
  -- The places stand in the order in which the subscriptions were made.
  have places : s.subscriptions = (subscribers h).map fun e => s.subscription? e.2 := by
    rw [← Function.comp_def s.subscription? Prod.snd, ← List.map_map, ledger.numbered]
    refine List.ext_getElem (by simp) fun n short _ => ?_
    simp [State.subscription?, List.getElem?_eq_getElem short]
  rw [State.receivers, places, List.countP_map, liveOn, List.length_map,
    ← List.countP_eq_length_filter]
  refine List.countP_congr fun e made => ?_
  obtain ⟨d, p, its, there, place⟩ := ledger.place (i := e.1) (n := e.2) made
  simp only [Function.comp, State.subscription?, there, Option.join_some,
    getElem?_of_front front its, decide_eq_true_eq]
  cases p with
  | none =>
    have dropped : (.drop e.2, .dropped) ∈ h := place
    simp [State.isOn, dropped]
  | some sub =>
    obtain ⟨live, rfl, -⟩ := place
    simp [State.isOn, live]

end Ledger

/-! ## What a subscription finds -/

/-- A live subscription receives what it has coming. -/
lemma poll_of_live {sub : Subscription} (here : s.subscription? n = some sub) :
    (step s (.poll n)).1 = .received (receive (s.sent sub.channel) sub.position).1 := by
  simp only [step, here]

/-- A subscription that is not there receives nothing. -/
lemma poll_of_absent (gone : s.subscription? n = none) : (step s (.poll n)).1 = .absent := by
  simp only [step, gone]

/-- A trigger through a handle signals on its channel and counts those that receive. -/
lemma trigger_of_handle (here : s.handles[i]? = some c) :
    step s (.trigger i) = (.notified (s.receivers c), s.trigger c) := by
  simp only [step, here]

namespace Ledger

/-- What a live subscription finds is what is due. -/
theorem poll (ledger : Ledger H h s) (live : Live h i n) (here : s.handles[i]? = some c) :
    accounted n h + due H c n h = triggers H c (since n h) ∧
      (step s (.poll n)).1 = .received (reception (due H c n h)) ∧
        due H c n (h ++ [(.poll n, (step s (.poll n)).1)]) = left (due H c n h) := by
  obtain ⟨sub, there, -, rfl, behind, even⟩ := ledger.live live here
  have made := mem_numbers (mem_subscribers.2 live.1)
  have owed : due H sub.channel n h = s.sent sub.channel - sub.position := by
    rw [due]
    omega
  have found : (step s (.poll n)).1 = .received (reception (due H sub.channel n h)) := by
    rw [poll_of_live there, receive_eq behind, owed]
  refine ⟨by rw [due]; omega, found, ?_⟩
  have account := account_reception n (due H sub.channel n h)
  have untriggered {r} : triggers H sub.channel [(.poll n, r)] = 0 := rfl
  rw [found, due, accounted_concat made, triggers_concat made, untriggered]
  rw [due] at account ⊢
  omega

/-- What is not live is not there. -/
lemma absent (ledger : Ledger H h s) (gone : ∀ i, ¬Live h i n) :
    (step s (.poll n)).1 = .absent := by
  cases here : s.subscription? n with
  | none => exact poll_of_absent here
  | some sub =>
    obtain ⟨i, live, -⟩ := ledger.live_of_subscription? here
    exact absurd live (gone i)

end Ledger

end MetadataGateway.Shutdown
