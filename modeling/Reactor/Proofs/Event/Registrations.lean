import Reactor.Proofs.Event.System
import Mathlib.Data.Finset.Card

/-!
# Subscriptions and the registry

The registry of a center is the map from signals to the subscriptions whose handles are valid, in
the order in which they were made.
-/

namespace Reactor

/-- Every signal has one row, no row is empty, and the ids are distinct and rise in each list. -/
structure Registry.IsMap {κ : Type} (registry : Registry κ) : Prop where
  distinct : (registry.rows.map Prod.fst).Nodup
  inhabited : ∀ row ∈ registry.rows, row.2.isEmpty = false
  ids_distinct :
    (registry.rows.flatMap fun row => row.2.entries.toList.map Subscriber.id).Nodup
  rising : ∀ row ∈ registry.rows, row.2.entries.toList.Pairwise
    fun earlier later => earlier.id.raw < later.id.raw

namespace EventSystem

variable {κ : Type} {system next : EventSystem κ} {number : Nat} {subscription : Subscription κ}
  {signal : Signal} {front back : List (Subscription κ)}

/-! ## What every move keeps -/

/-- The ids of a center's subscriptions rise, and its registry holds those whose handles are
valid. -/
structure IsShown (system : EventSystem κ) (number : Nat) : Prop where
  rising : (system.made number).Pairwise fun earlier later => earlier.id.raw < later.id.raw
  below : ∀ subscription ∈ system.made number,
    subscription.id.raw.toNat < system.issued number
  subscribers_eq : ∀ signal, (system.registry number).subscribers signal =
    (system.live number signal).map Subscription.subscriber

/-- A center whose registry shows its subscriptions until the ids wrap around. -/
structure IsConsistent (system : EventSystem κ) (number : Nat) : Prop where
  sound : (system.registry number).IsSound
  next_eq : (system.registry number).nextId = UInt32.ofNat (system.issued number)
  shown : system.issued number ≤ UInt32.size → system.IsShown number

theorem isConsistent_fresh (storage : Nat → SubscriberStorage) (number : Nat) :
    (fresh storage : EventSystem κ).IsConsistent number where
  sound := Registry.isSound_new (storage number)
  next_eq := rfl
  shown := fun _ =>
    { rising := List.Pairwise.nil
      below := fun _ member => absurd member List.not_mem_nil
      subscribers_eq := Registry.subscribers_new (storage number) }

theorem IsConsistent.congr (consistent : system.IsConsistent number)
    (registry : next.registry number = system.registry number)
    (issued : next.issued number = system.issued number)
    (made : next.made number = system.made number) : next.IsConsistent number where
  sound := registry ▸ consistent.sound
  next_eq := by rw [registry, issued]; exact consistent.next_eq
  shown := by
    rw [issued]
    intro few
    obtain ⟨rising, below, subscribers_eq⟩ := consistent.shown few
    refine ⟨made ▸ rising, made ▸ issued ▸ below, ?_⟩
    intro signal
    rw [registry, live, made]
    exact subscribers_eq signal

theorem IsShown.enroll (shown : system.IsShown number) (few : system.issued number < UInt32.size)
    {callback : κ} {registry : Registry κ}
    (listed : ∀ other, registry.subscribers other = if other = signal then
      (system.registry number).subscribers signal ++
        [{ id := ⟨.ofNat (system.issued number)⟩, callback }]
      else (system.registry number).subscribers other)
    (registry_eq : next.registry number = registry)
    (issued : next.issued number = system.issued number + 1)
    (made : next.made number = system.made number ++
      [{ center := number, signal, id := ⟨.ofNat (system.issued number)⟩, callback }]) :
    next.IsShown number := by
  have new_id : (UInt32.ofNat (system.issued number)).toNat = system.issued number :=
    UInt32.toNat_ofNat_of_lt' few
  constructor
  · rw [made, List.pairwise_append]
    refine ⟨shown.rising, List.pairwise_singleton .., ?_⟩
    intro earlier member later new
    rw [List.mem_singleton.mp new, UInt32.lt_iff_toNat_lt, new_id]
    exact shown.below earlier member
  · rw [made, issued]
    intro subscription member
    rcases List.mem_append.mp member with earlier | new
    · exact Nat.lt_succ_of_lt (shown.below subscription earlier)
    · rw [List.mem_singleton.mp new, new_id]
      exact Nat.lt_succ_self _
  · intro other
    rw [registry_eq, listed other, live, made, List.filter_append, List.map_append,
      shown.subscribers_eq, shown.subscribers_eq]
    split
    · next same =>
      rw [same, live]
      simp [Subscription.subscriber]
    · next apart =>
      have foreign : (signal == other) = false := by simpa using Ne.symm apart
      rw [live]
      simp [foreign]

theorem IsConsistent.enroll (consistent : system.IsConsistent number) (center : Nat)
    (signal : Signal) (callback : κ) :
    (system.enroll center signal callback).IsConsistent number := by
  by_cases own : number = center
  · subst own
    obtain ⟨sound, next_eq, outcome⟩ := consistent.sound.subscribe_cases signal callback
    have next_id : ((system.registry number).subscribe signal callback).1.nextId =
        UInt32.ofNat (system.issued number + 1) := by
      rw [next_eq, consistent.next_eq, UInt32.ofNat_add]
      rfl
    rcases outcome with ⟨⟨error, refused⟩, same⟩ | ⟨accepted, listed⟩
    · -- An id is used up although nobody is registered under it.
      rw [enroll_of_error refused]
      refine ⟨by simpa using sound, by simpa using next_id, ?_⟩
      simp only [Function.update_self]
      intro few
      obtain ⟨rising, below, subscribers_eq⟩ := consistent.shown (by omega)
      refine ⟨rising, ?_, ?_⟩
      · intro subscription member
        simp only [Function.update_self]
        exact Nat.lt_succ_of_lt (below subscription member)
      · intro signal
        simp only [Function.update_self]
        rw [same signal]
        exact subscribers_eq signal
    · rw [enroll_of_ok accepted]
      refine ⟨by simpa using sound, by simpa using next_id, ?_⟩
      simp only [Function.update_self]
      intro few
      rw [consistent.next_eq] at listed ⊢
      apply (consistent.shown (by omega)).enroll (by omega) listed (by simp) (by simp)
      simp [made]
  · have others : ∀ new : List (Subscription κ), (∀ made ∈ new, made.center = center) →
        (system.subscriptions ++ new).filter (·.center == number) = system.made number := by
      intro new there
      have foreign : new.filter (·.center == number) = [] := by
        rw [List.filter_eq_nil_iff]
        intro subscription member
        simp [there subscription member, Ne.symm own]
      rw [List.filter_append, foreign, List.append_nil, made]
    apply consistent.congr
    · simp [EventSystem.enroll, own]
    · simp [EventSystem.enroll, own]
    · rw [made, EventSystem.enroll]
      apply others
      split <;> simp

/-- An id stands for one subscription of its center. -/
theorem IsShown.apart (shown : system.IsShown number)
    (split_at : system.made number = front ++ subscription :: back) :
    (∀ earlier ∈ front, earlier.id ≠ subscription.id) ∧
      ∀ later ∈ back, later.id ≠ subscription.id := by
  have rising := shown.rising
  rw [split_at, List.pairwise_append, List.pairwise_cons] at rising
  obtain ⟨_, ⟨above, _⟩, across⟩ := rising
  constructor
  · intro earlier member same
    have less := across earlier member subscription (List.mem_cons_self ..)
    exact UInt32.lt_irrefl _ (same ▸ less)
  · intro later member same
    exact UInt32.lt_irrefl _ (same ▸ above later member)

theorem IsShown.eq_of_id_eq (shown : system.IsShown number) {other : Subscription κ}
    (member : subscription ∈ system.made number) (other_member : other ∈ system.made number)
    (same : other.id = subscription.id) : other = subscription := by
  obtain ⟨front, back, split_at⟩ := List.append_of_mem member
  obtain ⟨before, after⟩ := shown.apart split_at
  rw [split_at, List.mem_append, List.mem_cons] at other_member
  rcases other_member with earlier | itself | later
  · exact absurd same (before other earlier)
  · exact itself
  · exact absurd same (after other later)

/-- The registry finds every subscription whose handle is valid, and removes that one. -/
theorem IsConsistent.unsubscribe (consistent : system.IsConsistent number)
    (few : system.issued number ≤ UInt32.size) (member : subscription ∈ system.made number)
    (valid : subscription.valid = true) :
    ∃ registry front back,
      (system.registry number).unsubscribe subscription.signal subscription.id =
        (registry, true) ∧
      (system.registry number).subscribers subscription.signal =
        front ++ subscription.subscriber :: back ∧
      ∀ other, registry.subscribers other =
        if other = subscription.signal then front ++ back
        else (system.registry number).subscribers other := by
  have shown := consistent.shown few
  have listed := shown.subscribers_eq subscription.signal
  have live_member : subscription ∈ system.live number subscription.signal :=
    mem_live.mpr ⟨member, rfl, valid⟩
  rcases consistent.sound.unsubscribe_cases subscription.signal subscription.id with
    ⟨_, absent⟩ | ⟨registry, front, found, back, removed, _, _, split_at, same, _, left_over⟩
  · rw [listed] at absent
    exact absurd rfl (absent _ (List.mem_map_of_mem live_member))
  · have found_member : found ∈ (system.live number subscription.signal).map
        Subscription.subscriber := by
      rw [← listed, split_at]
      simp
    obtain ⟨made, made_live, rfl⟩ := List.mem_map.mp found_member
    obtain rfl := shown.eq_of_id_eq member (mem_live.mp made_live).1 same
    exact ⟨registry, front, back, removed, split_at, left_over⟩

theorem made_of_split (split_at : system.subscriptions = front ++ subscription :: back)
    (own : subscription.center = number) : system.made number =
      front.filter (·.center == number) ++ subscription :: back.filter (·.center == number) := by
  rw [made, split_at, List.filter_append, List.filter_cons_of_pos (by simp [own])]

theorem IsShown.release (shown : system.IsShown number)
    (split_at : system.made number = front ++ subscription :: back)
    (valid : subscription.valid = true)
    (listed : ∀ other, (next.registry number).subscribers other =
      if other = subscription.signal then
        ((system.registry number).subscribers subscription.signal).eraseP fun subscriber =>
          subscriber.id == subscription.id
      else (system.registry number).subscribers other)
    (issued : next.issued number = system.issued number)
    (made : next.made number = front ++ subscription.released :: back) :
    next.IsShown number := by
  constructor
  · have rising := shown.rising
    rw [made]
    rw [split_at] at rising
    simp only [List.pairwise_append, List.pairwise_cons, List.forall_mem_cons] at rising ⊢
    exact rising
  · have below := shown.below
    rw [made, issued]
    rw [split_at] at below
    simp only [List.forall_mem_append, List.forall_mem_cons] at below ⊢
    exact below
  · intro other
    rw [listed other]
    split
    · next same =>
      have kept : ∀ earlier ∈ (front.filter fun made =>
          made.signal == subscription.signal && made.valid).map Subscription.subscriber,
          earlier.id ≠ subscription.id := by
        intro subscriber member
        obtain ⟨earlier, listed, rfl⟩ := List.mem_map.mp member
        exact (shown.apart split_at).1 earlier (List.mem_filter.mp listed).1
      have before : system.live number subscription.signal =
          front.filter (fun made => made.signal == subscription.signal && made.valid) ++
            subscription :: back.filter fun made =>
              made.signal == subscription.signal && made.valid := by
        rw [live, split_at, List.filter_append, List.filter_cons_of_pos (by simp [valid])]
      have after : next.live number subscription.signal =
          front.filter (fun made => made.signal == subscription.signal && made.valid) ++
            back.filter fun made => made.signal == subscription.signal && made.valid := by
        rw [live, made, List.filter_append, List.filter_cons_of_neg (by simp [Subscription.released])]
      rw [same, shown.subscribers_eq, before, after, List.map_append, List.map_cons,
        List.map_append]
      exact Registry.eraseP_of_split rfl kept
    · next foreign =>
      rw [shown.subscribers_eq, live, live, split_at, made, List.filter_append,
        List.filter_append, List.filter_cons_of_neg (by simp [Ne.symm foreign]),
        List.filter_cons_of_neg (by simp [Subscription.released])]

theorem IsConsistent.release (consistent : system.IsConsistent number) (place : Nat) :
    (system.release place).IsConsistent number := by
  rcases release_cases system place with same | ⟨front, subscription, back, split_at, rfl, valid⟩
  · rwa [same]
  rw [release_of_valid split_at valid]
  by_cases own : subscription.center = number
  · subst own
    have before := made_of_split split_at rfl
    have member : subscription ∈ system.made subscription.center := by simp [before]
    rcases consistent.sound.unsubscribe_cases subscription.signal subscription.id with
      ⟨kept, _⟩ | ⟨registry, earlier, found, later, removed, sound, next_id, listed, same, apart,
        left_over⟩
    · -- The handle was valid, so its subscription is missed only once ids have wrapped around.
      refine ⟨by simpa [kept] using consistent.sound, by simpa [kept] using consistent.next_eq, ?_⟩
      intro few
      obtain ⟨registry, _, _, removed, _⟩ := consistent.unsubscribe few member valid
      rw [kept] at removed
      cases removed
    · refine ⟨by simpa [removed] using sound, ?_, ?_⟩
      · simpa [removed, next_id] using consistent.next_eq
      · intro few
        refine (consistent.shown few).release before valid ?_ rfl ?_
        · intro other
          simp only [removed, Function.update_self]
          rw [left_over, listed, Registry.eraseP_of_split same apart]
        · rw [made, List.filter_append, List.filter_cons_of_pos (by simp [Subscription.released])]
  · apply consistent.congr
    · simp [Ne.symm own]
    · rfl
    · simp [made, split_at, own, Subscription.released, List.filter_append]

theorem isConsistent_after (storage : Nat → SubscriberStorage) (moves : List (EventMove κ))
    (number : Nat) : ((fresh storage).after moves).IsConsistent number :=
  perform_keeps (fun system => system.IsConsistent number)
    (fun _ _ registry issued subscriptions consistent =>
      consistent.congr (congrFun registry number) (congrFun issued number)
        (by rw [made, made, subscriptions]))
    (fun _ center signal callback consistent => consistent.enroll center signal callback)
    (fun _ place consistent => consistent.release place) moves
    (isConsistent_fresh storage number)

/-! ## What a registry shows -/

theorem IsShown.exists_live_iff (shown : system.IsShown number)
    (member : subscription ∈ system.made number) :
    (∃ other ∈ system.live number subscription.signal, other.id = subscription.id) ↔
      subscription.valid = true := by
  constructor
  · rintro ⟨other, listed, same⟩
    obtain ⟨other_member, _, valid⟩ := mem_live.mp listed
    obtain rfl := shown.eq_of_id_eq member other_member same
    exact valid
  · intro valid
    exact ⟨subscription, mem_live.mpr ⟨member, rfl, valid⟩, rfl⟩

theorem IsShown.isSubscribed_iff (shown : system.IsShown number)
    (member : subscription ∈ system.made number) :
    (system.registry number).isSubscribed subscription.signal subscription.id = true ↔
      subscription.valid = true := by
  rw [← shown.exists_live_iff member, Registry.isSubscribed, shown.subscribers_eq, List.any_map,
    List.any_eq_true]
  simp only [Function.comp_apply, beq_iff_eq]
  rfl

/-- A subscription is registered just as long as its handle is valid. -/
theorem IsShown.mem_subscribers_iff (shown : system.IsShown number)
    (member : subscription ∈ system.made number) :
    subscription.subscriber ∈ (system.registry number).subscribers subscription.signal ↔
      subscription.valid = true := by
  rw [shown.subscribers_eq, List.mem_map]
  constructor
  · rintro ⟨other, listed, same⟩
    exact (shown.exists_live_iff member).mp ⟨other, listed, congrArg Subscriber.id same⟩
  · intro valid
    exact ⟨subscription, mem_live.mpr ⟨member, rfl, valid⟩, rfl⟩

theorem IsConsistent.isMap (consistent : system.IsConsistent number)
    (few : system.issued number ≤ UInt32.size) : (system.registry number).IsMap := by
  obtain ⟨sound, _, shown⟩ := consistent
  replace shown := shown few
  have row_eq : ∀ row ∈ (system.registry number).rows, row.2.entries.toList =
      (system.live number row.1).map Subscription.subscriber := by
    intro row member
    rw [← sound.subscribers_of_mem member, shown.subscribers_eq]
  have rising : ∀ row ∈ (system.registry number).rows, row.2.entries.toList.Pairwise
      fun earlier later => earlier.id.raw < later.id.raw := by
    intro row member
    rw [row_eq row member, List.pairwise_map]
    exact shown.rising.sublist List.filter_sublist
  refine ⟨sound.distinct, ?_, ?_, rising⟩
  · intro row member
    rw [Roster.isEmpty, Bool.eq_false_iff, ne_eq, Array.isEmpty_iff, ← Array.toList_eq_nil_iff]
    exact sound.inhabited row member
  · rw [List.nodup_flatMap]
    constructor
    · intro row member
      rw [List.Nodup, List.pairwise_map]
      refine (rising row member).imp ?_
      intro earlier later less same
      exact UInt32.lt_irrefl _ (same ▸ less)
    · refine (List.pairwise_map.mp sound.distinct).imp_of_mem ?_
      intro first second first_member second_member apart id in_first in_second
      simp only [row_eq first first_member, List.map_map, List.mem_map] at in_first
      simp only [row_eq second second_member, List.map_map, List.mem_map] at in_second
      obtain ⟨one, one_live, rfl⟩ := in_first
      obtain ⟨other, other_live, same⟩ := in_second
      obtain ⟨one_made, one_signal, _⟩ := mem_live.mp one_live
      obtain ⟨other_made, other_signal, _⟩ := mem_live.mp other_live
      obtain rfl := shown.eq_of_id_eq one_made other_made same
      exact apart (one_signal.symm.trans other_signal)

theorem IsConsistent.signalCount_eq (consistent : system.IsConsistent number)
    (few : system.issued number ≤ UInt32.size) :
    (system.registry number).signalCount =
      (((system.made number).filter Subscription.valid).map Subscription.signal).toFinset.card := by
  have signals : (((system.made number).filter Subscription.valid).map
      Subscription.signal).toFinset = ((system.registry number).rows.map Prod.fst).toFinset := by
    ext signal
    rw [List.mem_toFinset, List.mem_toFinset, consistent.sound.mem_signals_iff,
      (consistent.shown few).subscribers_eq, ne_eq, List.eq_nil_iff_forall_not_mem, not_forall]
    simp only [List.mem_map, List.mem_filter, mem_live, not_not]
    constructor
    · rintro ⟨subscription, ⟨member, valid⟩, rfl⟩
      exact ⟨_, subscription, ⟨member, rfl, valid⟩, rfl⟩
    · rintro ⟨_, subscription, ⟨member, rfl, valid⟩, _⟩
      exact ⟨subscription, ⟨member, valid⟩, rfl⟩
  rw [signals, List.toFinset_card_of_nodup consistent.sound.distinct, List.length_map]
  rfl

/-! ## Releasing a handle -/

/-- One subscription has left its center, and nothing else has changed. -/
def Leaves (system next : EventSystem κ) (place : Nat) (subscription : Subscription κ) : Prop :=
  ∃ table front back,
    next =
      { system with
        registry := Function.update system.registry subscription.center
          { system.registry subscription.center with table }
        subscriptions := system.subscriptions.set place subscription.released } ∧
    (system.registry subscription.center).subscribers subscription.signal =
      front ++ subscription.subscriber :: back ∧
    ∀ signal, (next.registry subscription.center).subscribers signal =
      if signal = subscription.signal then front ++ back
      else (system.registry subscription.center).subscribers signal

theorem IsConsistent.leaves (consistent : system.IsConsistent number)
    (few : system.issued number ≤ UInt32.size) {place : Nat}
    (held : system.subscriptions[place]? = some subscription)
    (own : subscription.center = number) (valid : subscription.valid = true) :
    Leaves system (system.release place) place subscription := by
  subst own
  have member : subscription ∈ system.made subscription.center :=
    mem_made.mpr ⟨List.mem_of_getElem? held, rfl⟩
  obtain ⟨registry, front, back, removed, split_at, left_over⟩ :=
    consistent.unsubscribe few member valid
  obtain ⟨table, framed⟩ := (system.registry subscription.center).unsubscribe_frame
    subscription.signal subscription.id
  rw [removed] at framed
  rw [release_of_held held, if_pos valid, removed]
  refine ⟨table, front, back, by rw [framed], split_at, ?_⟩
  simpa using left_over

/-- A registry is a map from signals to the subscriptions whose handles are valid, as long as its
ids do not wrap around.  A handle is valid just if the table holds its subscription; the counts are
those of the valid handles; and a center that is asked to release a handle does so just if the handle
is valid and its own, and then that subscription leaves and nothing else changes. -/
theorem registry_refines_subscriptions (storage : Nat → SubscriberStorage)
    (moves : List (EventMove κ)) (number : Nat) (system : EventSystem κ)
    (reached : system = (fresh storage).after moves)
    (few : system.issued number ≤ UInt32.size) :
    (system.registry number).IsMap ∧
    (∀ signal, (system.registry number).subscribers signal =
      (system.live number signal).map Subscription.subscriber) ∧
    (∀ subscription ∈ system.made number, subscription.handle.id.isSome = true ↔
      (system.registry number).Holds subscription.signal subscription.id) ∧
    (∀ signal, (system.registry number).subscriberCount signal =
      (system.live number signal).length) ∧
    (system.registry number).signalCount =
      (((system.made number).filter Subscription.valid).map Subscription.signal).toFinset.card ∧
    ∀ place subscription, system.subscriptions[place]? = some subscription →
      subscription.center = number →
      system.perform (.reset place) = system.perform (.unsubscribe number place) ∧
      ∀ asked next, next = system.perform (.unsubscribe asked place) →
        (if asked = number ∧ subscription.valid = true then
          Leaves system next place subscription
        else next = system) ∧
        ∀ {σ : Type} (center : EventCenter σ κ) (world : σ), center.number = asked →
          center.registry.get world = system.registry asked →
          (asked = number → (center.reset subscription.handle).runFrom world =
            (center.unsubscribe subscription.handle).runFrom world) ∧
          (center.unsubscribe subscription.handle).runFrom world =
            if asked = number ∧ subscription.valid = true then
              (center.answer (.unsubscribed subscription.id subscription.signal)
                (subscription.released.handle, true)).runFrom
                (center.registry.set (next.registry number) world)
            else
              (center.answer
                (if asked = number then .alreadyReleased subscription.signal
                else .foreignHandle subscription.signal)
                (subscription.handle, false)).runFrom world := by
  have consistent : system.IsConsistent number := reached ▸ isConsistent_after storage moves number
  have shown := consistent.shown few
  refine ⟨consistent.isMap few, shown.subscribers_eq, ?_, ?_, consistent.signalCount_eq few, ?_⟩
  · intro subscription member
    rw [consistent.sound.holds_iff, shown.isSubscribed_iff member, Subscription.handle]
    cases subscription.valid <;> simp
  · intro signal
    rw [Registry.subscriberCount, shown.subscribers_eq, List.length_map]
  intro place subscription held own
  have asked_own : ∀ asked, system.perform (.unsubscribe asked place) =
      if number = asked then system.release place else system := by
    intro asked
    simp [perform, held, own]
  refine ⟨by rw [asked_own, if_pos rfl, perform], ?_⟩
  rintro asked next rfl
  rw [asked_own asked]
  refine ⟨?_, ?_⟩
  · by_cases same : asked = number
    · rw [if_pos same.symm]
      by_cases valid : subscription.valid = true
      · rw [if_pos ⟨same, valid⟩]
        exact consistent.leaves few held own valid
      · rw [if_neg (fun both => valid both.2), release_of_held held, if_neg valid]
    · rw [if_neg (fun both => same both.1), if_neg (Ne.symm same)]
  · intro σ center world numbered shown_registry
    have named : subscription.handle.center = number := own
    rw [EventCenter.runFrom_unsubscribe, named, numbered]
    constructor
    · intro same
      rw [if_pos same.symm]
    · by_cases same : asked = number
      · subst same
        rw [if_pos rfl, EventCenter.runFrom_reset, if_pos rfl, if_pos rfl, shown_registry]
        by_cases valid : subscription.valid = true
        · have member : subscription ∈ system.made asked :=
            mem_made.mpr ⟨List.mem_of_getElem? held, own⟩
          obtain ⟨registry, _, _, removed, _⟩ := consistent.unsubscribe few member valid
          rw [if_pos valid, if_pos ⟨rfl, valid⟩, release_of_held held, if_pos valid, own, removed]
          simp only [Function.update_self]
        · rw [if_neg valid, if_neg (fun both => valid both.2)]
      · rw [if_neg (Ne.symm same), if_neg (fun both => same both.1), if_neg same]
        rfl

/-- The last row moves into the place of the first one; a callback for which there is no room uses
up an id; and another center is asked to release a handle. -/
def crowdedSystem : EventSystem Nat :=
  (fresh fun _ => .fixed 2 2 4).after
    [.subscribe 0 ⟨1⟩ { bytes := 8 } 10, .subscribe 0 ⟨2⟩ { bytes := 8 } 11,
      .subscribe 0 ⟨3⟩ { bytes := 8 } 12, .subscribe 0 ⟨2⟩ { bytes := 8 } 13, .reset 0,
      .unsubscribe 1 1]

theorem crowded_registry_releases_own_handle :
    (crowdedSystem.registry 0).IsMap ∧ ¬(crowdedSystem.registry 0).Holds ⟨1⟩ ⟨0⟩ ∧
    (crowdedSystem.registry 0).subscriberCount ⟨2⟩ = 2 ∧
    (crowdedSystem.registry 0).signalCount = 1 ∧
    crowdedSystem.perform (.unsubscribe 1 1) = crowdedSystem ∧
    Leaves crowdedSystem (crowdedSystem.perform (.unsubscribe 0 1)) 1 ⟨0, ⟨2⟩, ⟨1⟩, 11, true⟩ := by
  obtain ⟨is_map, _, valid_iff, counted, signals, releases⟩ := registry_refines_subscriptions
    _ _ 0 crowdedSystem rfl (by decide +kernel)
  obtain ⟨_, asks⟩ :=
    releases 1 ⟨0, ⟨2⟩, ⟨1⟩, 11, true⟩ (by decide +kernel) rfl
  have foreign := (asks 1 _ rfl).1
  have own := (asks 0 _ rfl).1
  rw [if_neg (by decide)] at foreign
  rw [if_pos ⟨rfl, rfl⟩] at own
  refine ⟨is_map, ?_, ?_, ?_, foreign, own⟩
  · have released : (⟨0, ⟨1⟩, ⟨0⟩, 10, false⟩ : Subscription Nat) ∈ crowdedSystem.made 0 := by
      decide +kernel
    exact fun held => absurd ((valid_iff _ released).mpr held) (by decide)
  · rw [counted]
    decide +kernel
  · rw [signals]
    decide +kernel

end EventSystem

end Reactor
