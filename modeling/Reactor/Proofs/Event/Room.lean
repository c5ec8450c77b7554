import Reactor.Proofs.Event.Registrations
import Mathlib.Data.Set.Card

/-!
# Room for subscriptions

A registry with fixed tables turns a subscription away just when it has no room for it, and is left
as it was but for the id that has been used up.  As long as it turns nobody away, it cannot be told
from one whose tables grow.
-/

namespace Reactor

namespace Registry

variable {κ : Type} {registry : Registry κ} {signal : Signal} {callback : κ}
  {front back : List (SignalRow κ)} {list : Roster (Subscriber κ)} {storage : SubscriberStorage}

/-- The registry after an id was used up. -/
def counted (registry : Registry κ) : Registry κ := { registry with nextId := registry.nextId + 1 }

/-! ## Room -/

/-- The containers are those of the storage. -/
structure IsHoused (storage : SubscriberStorage) (registry : Registry κ) : Prop where
  housing_eq : registry.housing = storage.housing
  list_eq : registry.listCapacity = storage.subscribers
  table_eq : registry.table.capacity = storage.signals
  fits : registry.table.Fits

theorem isHoused_new (storage : SubscriberStorage) : (new storage : Registry κ).IsHoused storage :=
  ⟨rfl, rfl, rfl, Roster.fits_empty _⟩

theorem fits_replaceRow {table : Roster (SignalRow κ)} (fits : table.Fits) (place : Nat) :
    (replaceRow table place signal list).capacity = table.capacity ∧
      (replaceRow table place signal list).Fits := by
  rw [replaceRow]
  split
  · cases removed : table.swapRemove? place with
    | none => exact ⟨rfl, fits⟩
    | some result =>
        obtain ⟨row, rest⟩ := result
        obtain ⟨capacity, fewer⟩ := Roster.size_le_of_swapRemove? removed
        exact ⟨capacity, fits.of_le capacity fewer⟩
  · exact ⟨rfl, fits.of_le rfl (Roster.size_set ..).le⟩

theorem IsHoused.unsubscribe (housed : registry.IsHoused storage) (signal : Signal)
    (id : SubscriberId) : (registry.unsubscribe signal id).1.IsHoused storage := by
  obtain ⟨housing_eq, list_eq, table_eq, fits⟩ := housed
  rw [Registry.unsubscribe]
  split
  · next table removed =>
    simp only [Option.bind_eq_bind, Option.bind_eq_some_iff] at removed
    obtain ⟨place, _, row, _, position, _, rest, _, replaced⟩ := removed
    cases replaced
    obtain ⟨capacity, still_fits⟩ := fits_replaceRow fits place
    exact ⟨housing_eq, list_eq, capacity.trans table_eq, still_fits⟩
  · exact ⟨housing_eq, list_eq, table_eq, fits⟩

/-! ## Who is turned away -/

/-- A signal with subscribers gets one more, or its list is full and nothing changes. -/
theorem IsSound.subscribe_of_row (sound : registry.IsSound)
    (split_at : registry.rows = front ++ (signal, list) :: back)
    (found : find? registry.table signal = some front.length) :
    registry.subscribe signal callback =
      match list.push? { id := ⟨registry.nextId⟩, callback } with
      | some grown =>
          ({ registry.counted with table := registry.table.set front.length (signal, grown) },
            .ok ⟨registry.nextId⟩)
      | none => (registry.counted, .error (.subscriberListFull signal list.capacity.limit)) := by
  have member : (signal, list) ∈ registry.rows := by simp [split_at]
  have inhabited : list.isEmpty = false := by
    rw [Roster.isEmpty, Bool.eq_false_iff, ne_eq, Array.isEmpty_iff, ← Array.toList_eq_nil_iff]
    exact sound.inhabited _ member
  have ensured : registry.ensureRow? signal = some (registry.table, front.length) := by
    rw [ensureRow?, found]
  have unchanged : Registry.replaceRow registry.table front.length signal list =
      registry.table := by
    rw [Registry.replaceRow, inhabited]
    exact Roster.set_self split_at
  simp only [subscribe, ensured, Roster.get?_of_split split_at, unchanged]
  rfl

/-- A signal without subscribers gets a row and its first subscriber.  If there is no room for the
row, or none in it, nothing changes. -/
theorem subscribe_of_no_row (missed : find? registry.table signal = none) :
    registry.subscribe signal callback =
      match registry.table.push? (signal, .empty registry.listCapacity) with
      | none => (registry.counted, .error (.signalTableFull registry.table.capacity.limit))
      | some table =>
          match (Roster.empty registry.listCapacity).push?
              { id := ⟨registry.nextId⟩, callback } with
          | some grown =>
              ({ registry.counted with table := table.set registry.table.size (signal, grown) },
                .ok ⟨registry.nextId⟩)
          | none =>
              (registry.counted,
                .error (.subscriberListFull signal registry.listCapacity.limit)) := by
  cases pushed : registry.table.push? (signal, .empty registry.listCapacity) with
  | none =>
      have ensured : registry.ensureRow? signal = none := by
        rw [ensureRow?, missed, pushed]
        rfl
      simp only [subscribe, ensured]
      rfl
  | some table =>
      have ensured : registry.ensureRow? signal = some (table, registry.table.size) := by
        rw [ensureRow?, missed, pushed]
        rfl
      obtain ⟨listed, _⟩ := Roster.of_push? pushed
      have held : table.get? registry.table.size =
          some (signal, (.empty registry.listCapacity : Roster (Subscriber κ))) :=
        Roster.get?_of_split listed
      have undone : replaceRow table registry.table.size signal (.empty registry.listCapacity) =
          registry.table := by
        rw [replaceRow, Roster.swapRemove?_of_push? pushed]
        rfl
      simp only [subscribe, ensured, held, undone]
      rfl

theorem IsSound.subscriberCount_of_row (sound : registry.IsSound)
    (split_at : registry.rows = front ++ (signal, list) :: back)
    (found : find? registry.table signal = some front.length) :
    registry.subscriberCount signal = list.size ∧ 0 < list.size := by
  have member : (signal, list) ∈ registry.rows := by simp [split_at]
  have counted : registry.subscriberCount signal = list.size := by
    rw [subscriberCount, subscribers_of_find? split_at found, Array.length_toList, Roster.size]
  refine ⟨counted, ?_⟩
  rw [Roster.size, ← Array.length_toList]
  exact List.length_pos_iff.mpr (sound.inhabited _ member)

/-- Somebody is turned away if there is no row for the signal and no room for one, or no room in
its list.  Otherwise the table changes, and in no case anything else but the next id. -/
theorem IsSound.subscribe_eq (sound : registry.IsSound) (housed : registry.IsHoused storage)
    (signal : Signal) (callback : κ) :
    ∃ table, table.capacity = storage.signals ∧ table.Fits ∧
      registry.subscribe signal callback =
        if registry.subscriberCount signal = 0 ∧
            storage.signals.admits registry.signalCount = false then
          (registry.counted, .error (.signalTableFull storage.signals.limit))
        else if storage.subscribers.admits (registry.subscriberCount signal) = false then
          (registry.counted, .error (.subscriberListFull signal storage.subscribers.limit))
        else ({ registry.counted with table }, .ok ⟨registry.nextId⟩) := by
  obtain ⟨_, list_eq, table_eq, fits⟩ := housed
  rw [← list_eq, ← table_eq]
  rcases find?_cases registry signal with ⟨missed, absent⟩ | ⟨front, list, back, split_at, found⟩
  · have nobody : registry.subscriberCount signal = 0 := by
      rw [subscriberCount, subscribers_eq_nil absent, List.length_nil]
    rw [subscribe_of_no_row missed, nobody, signalCount]
    cases pushed : registry.table.push? (signal, .empty registry.listCapacity) with
    | none =>
        refine ⟨registry.table, rfl, fits, ?_⟩
        rw [if_pos ⟨rfl, Roster.push?_eq_none_iff.mp pushed⟩]
    | some table =>
        obtain ⟨_, capacity, admits⟩ := Roster.of_push? pushed
        have table_fits := Roster.fits_of_push? pushed
        have room : ¬(0 = 0 ∧ registry.table.capacity.admits registry.table.size = false) := by
          simp [admits]
        cases grown : (Roster.empty registry.listCapacity).push?
            ({ id := ⟨registry.nextId⟩, callback } : Subscriber κ) with
        | none =>
            refine ⟨registry.table, rfl, fits, ?_⟩
            have refused : registry.listCapacity.admits 0 = false :=
              Roster.push?_eq_none_iff.mp grown
            rw [if_neg room, if_pos refused]
        | some grown_list =>
            have accepted : registry.listCapacity.admits 0 = true := (Roster.of_push? grown).2.2
            refine ⟨table.set registry.table.size (signal, grown_list), capacity,
              table_fits.of_le rfl (Roster.size_set ..).le, ?_⟩
            rw [if_neg room, if_neg (by simp [accepted])]
  · obtain ⟨counted, inhabited⟩ := sound.subscriberCount_of_row split_at found
    have member : (signal, list) ∈ registry.rows := by simp [split_at]
    have own_capacity : list.capacity = registry.listCapacity := sound.capacity _ member
    have present : ¬(list.size = 0 ∧
        registry.table.capacity.admits registry.signalCount = false) := by
      omega
    rw [sound.subscribe_of_row split_at found, counted, ← own_capacity]
    cases grown : list.push? { id := ⟨registry.nextId⟩, callback } with
    | none =>
        refine ⟨registry.table, rfl, fits, ?_⟩
        rw [if_neg present, if_pos (Roster.push?_eq_none_iff.mp grown)]
    | some grown_list =>
        obtain ⟨_, _, list_admits⟩ := Roster.of_push? grown
        refine ⟨registry.table.set front.length (signal, grown_list), rfl,
          fits.of_le rfl (Roster.size_set ..).le, ?_⟩
        rw [if_neg present, if_neg (by simpa using list_admits)]

theorem IsHoused.subscribe (housed : registry.IsHoused storage) (sound : registry.IsSound)
    (signal : Signal) (callback : κ) :
    (registry.subscribe signal callback).1.IsHoused storage := by
  obtain ⟨table, capacity, fits, result⟩ := sound.subscribe_eq housed signal callback
  obtain ⟨housing_eq, list_eq, table_eq, old_fits⟩ := housed
  rw [result]
  split
  · exact ⟨housing_eq, list_eq, table_eq, old_fits⟩
  · split
    · exact ⟨housing_eq, list_eq, table_eq, old_fits⟩
    · exact ⟨housing_eq, list_eq, capacity, fits⟩

/-- The number of signals that have subscribers. -/
theorem IsSound.signalCount_eq_ncard (sound : registry.IsSound) :
    registry.signalCount = {signal | registry.subscribers signal ≠ []}.ncard := by
  have signals : {signal | registry.subscribers signal ≠ []} =
      ((registry.rows.map Prod.fst).toFinset : Set Signal) := by
    ext signal
    rw [Finset.mem_coe, List.mem_toFinset, sound.mem_signals_iff]
    rfl
  rw [signals, Set.ncard_coe_finset, List.toFinset_card_of_nodup sound.distinct, List.length_map]
  rfl

theorem IsSound.subscriberCount_le (sound : registry.IsSound) {limit : Nat}
    (bounded : registry.listCapacity = .bounded limit) (signal : Signal) :
    registry.subscriberCount signal ≤ limit := by
  rcases find?_cases registry signal with ⟨_, absent⟩ | ⟨front, list, back, split_at, found⟩
  · rw [subscriberCount, subscribers_eq_nil absent]
    exact Nat.zero_le limit
  · have member : (signal, list) ∈ registry.rows := by simp [split_at]
    rw [(sound.subscriberCount_of_row split_at found).1]
    exact (sound.fits _ member).size_le ((sound.capacity _ member).trans bounded)

/-- Tables of fixed sizes turn a subscription away just if they are full. -/
theorem IsSound.subscribe_eq_of_fixed (sound : registry.IsSound) {signals subscribers words : Nat}
    (housed : registry.IsHoused (.fixed signals subscribers words)) (signal : Signal)
    (callback : κ) :
    ∃ table, registry.subscribe signal callback =
      if registry.subscribers signal = [] ∧
          {other | registry.subscribers other ≠ []}.ncard = signals then
        (registry.counted, .error (.signalTableFull signals))
      else if (registry.subscribers signal).length = subscribers then
        (registry.counted, .error (.subscriberListFull signal subscribers))
      else ({ registry.counted with table }, .ok ⟨registry.nextId⟩) := by
  obtain ⟨table, _, _, result⟩ := sound.subscribe_eq housed signal callback
  refine ⟨table, ?_⟩
  have few_signals : registry.signalCount ≤ signals := housed.fits.size_le housed.table_eq
  have few_subscribers := sound.subscriberCount_le housed.list_eq signal
  have table_full : (registry.subscriberCount signal = 0 ∧
      (Capacity.bounded signals).admits registry.signalCount = false) ↔
      (registry.subscribers signal = [] ∧
        {other | registry.subscribers other ≠ []}.ncard = signals) := by
    rw [← sound.signalCount_eq_ncard, subscriberCount, List.length_eq_zero_iff,
      Capacity.admits_bounded, decide_eq_false_iff_not]
    constructor
    · exact fun full => ⟨full.1, by omega⟩
    · exact fun full => ⟨full.1, by omega⟩
  have list_full : (Capacity.bounded subscribers).admits (registry.subscriberCount signal) = false ↔
      (registry.subscribers signal).length = subscribers := by
    rw [Capacity.admits_bounded, decide_eq_false_iff_not, ← subscriberCount]
    omega
  rw [result]
  simp only [SubscriberStorage.fixed, table_full, list_full]
  rfl

theorem IsHoused.subscribe_of_growing (housed : registry.IsHoused .growing)
    (sound : registry.IsSound) (signal : Signal) (callback : κ) :
    (registry.subscribe signal callback).2 = .ok ⟨registry.nextId⟩ := by
  obtain ⟨table, _, _, result⟩ := sound.subscribe_eq housed signal callback
  simp [result, SubscriberStorage.growing]

end Registry

namespace EventSystem

variable {κ : Type} {system twin : EventSystem κ} {storage : Nat → SubscriberStorage}

/-! ## The containers of every center -/

theorem registry_enroll (system : EventSystem κ) (center : Nat) (signal : Signal) (callback : κ) :
    (system.enroll center signal callback).registry =
      Function.update system.registry center
        ((system.registry center).subscribe signal callback).1 := rfl

theorem isHoused_after (storage : Nat → SubscriberStorage) (moves : List (EventMove κ))
    (number : Nat) : (((fresh storage).after moves).registry number).IsHoused (storage number) := by
  suffices kept : ((fresh storage).after moves).IsConsistent number ∧
      (((fresh storage).after moves).registry number).IsHoused (storage number) from kept.2
  apply perform_keeps fun system =>
    system.IsConsistent number ∧ (system.registry number).IsHoused (storage number)
  · rintro before next registry issued subscriptions ⟨consistent, housed⟩
    refine ⟨consistent.congr (congrFun registry number) (congrFun issued number)
      (by rw [made, made, subscriptions]), ?_⟩
    rwa [registry]
  · rintro before center signal callback ⟨consistent, housed⟩
    refine ⟨consistent.enroll center signal callback, ?_⟩
    rw [registry_enroll, Function.update_apply]
    split
    · next own => exact own ▸ housed.subscribe consistent.sound signal callback
    · exact housed
  · rintro before place ⟨consistent, housed⟩
    refine ⟨consistent.release place, ?_⟩
    rcases release_cases before place with same | ⟨front, subscription, back, split_at, rfl, valid⟩
    · rwa [same]
    · rw [release_of_valid split_at valid]
      simp only [Function.update_apply]
      split
      · next own => exact own ▸ housed.unsubscribe subscription.signal subscription.id
      · exact housed
  · exact ⟨isConsistent_fresh storage number, Registry.isHoused_new (storage number)⟩

end EventSystem

end Reactor
