import Reactor.Event.Registry
import Reactor.Proofs.Roster
import Mathlib.Data.List.Nodup

/-!
# The registry as a map

A registry maps each signal to the list of its subscribers.  Where the row of a signal stands in the
table does not matter: an operation sets the row of one signal apart from the others, and the others
keep theirs.
-/

namespace Reactor

variable {κ : Type}

/-- The rows are `others`, which belong to other signals, and perhaps one that belongs to `signal`. -/
structure RowApart (rows : List (SignalRow κ)) (signal : Signal)
    (own : Option (Roster (Subscriber κ))) (others : List (SignalRow κ)) : Prop where
  perm : rows.Perm (own.toList.map (Prod.mk signal) ++ others)
  others : ∀ row ∈ others, row.1 ≠ signal

theorem RowApart.mem_iff {rows others : List (SignalRow κ)} {signal other : Signal}
    {own : Option (Roster (Subscriber κ))} {list : Roster (Subscriber κ)}
    (apart : RowApart rows signal own others) (foreign : other ≠ signal) :
    (other, list) ∈ rows ↔ (other, list) ∈ others := by
  rw [apart.perm.mem_iff, List.mem_append, or_iff_right]
  intro member
  obtain ⟨_, _, same⟩ := List.mem_map.mp member
  exact foreign (Prod.mk.inj same).1.symm

namespace Registry

variable {registry next : Registry κ} {signal other : Signal} {id : SubscriberId}
  {own changed : Option (Roster (Subscriber κ))} {others front back : List (SignalRow κ)}
  {list : Roster (Subscriber κ)}

/-- The rows of the table. -/
def rows (registry : Registry κ) : List (SignalRow κ) := registry.table.entries.toList

/-- No signal has two rows, no row is empty, and every list is one of the storage. -/
structure IsSound (registry : Registry κ) : Prop where
  distinct : (registry.rows.map Prod.fst).Nodup
  inhabited : ∀ row ∈ registry.rows, row.2.entries.toList ≠ []
  capacity : ∀ row ∈ registry.rows, row.2.capacity = registry.listCapacity
  fits : ∀ row ∈ registry.rows, row.2.Fits

theorem isSound_new (storage : SubscriberStorage) : (new storage : Registry κ).IsSound where
  distinct := List.nodup_nil
  inhabited := fun _ member => absurd member List.not_mem_nil
  capacity := fun _ member => absurd member List.not_mem_nil
  fits := fun _ member => absurd member List.not_mem_nil

/-! ## Looking a signal up -/

theorem find?_cases (registry : Registry κ) (signal : Signal) :
    (find? registry.table signal = none ∧ ∀ row ∈ registry.rows, row.1 ≠ signal) ∨
      ∃ front list back, registry.rows = front ++ (signal, list) :: back ∧
        find? registry.table signal = some front.length := by
  rcases Roster.findIdx?_cases registry.table.entries (fun row => row.1 == signal) with
    ⟨missed, others⟩ | ⟨front, ⟨_, list⟩, back, split_at, found, same, _⟩
  · exact Or.inl ⟨missed, fun row member => by simpa using others row member⟩
  · rw [beq_iff_eq] at same
    exact Or.inr ⟨front, list, back, same ▸ split_at, found⟩

theorem subscribers_of_find? (split_at : registry.rows = front ++ (signal, list) :: back)
    (found : find? registry.table signal = some front.length) :
    registry.subscribers signal = list.entries.toList := by
  rw [subscribers, found, Option.bind_some, Roster.get?_of_split split_at]

theorem subscribers_eq_nil (absent : ∀ row ∈ registry.rows, row.1 ≠ signal) :
    registry.subscribers signal = [] := by
  rcases find?_cases registry signal with ⟨missed, _⟩ | ⟨front, list, back, split_at, _⟩
  · rw [subscribers, missed]
    rfl
  · exact absurd rfl (absent (signal, list) (by simp [split_at]))

theorem subscribers_new (storage : SubscriberStorage) (signal : Signal) :
    (new storage : Registry κ).subscribers signal = [] :=
  subscribers_eq_nil fun _ member => absurd member List.not_mem_nil

theorem IsSound.subscribers_of_mem (sound : registry.IsSound)
    (member : (signal, list) ∈ registry.rows) :
    registry.subscribers signal = list.entries.toList := by
  rcases find?_cases registry signal with ⟨_, others⟩ | ⟨front, first, back, split_at, found⟩
  · exact absurd rfl (others _ member)
  · have first_member : (signal, first) ∈ registry.rows := by simp [split_at]
    have same := List.inj_on_of_nodup_map sound.distinct member first_member rfl
    rw [subscribers_of_find? split_at found, (Prod.mk.inj same).2]

/-- A signal has subscribers just if it has a row. -/
theorem IsSound.mem_signals_iff (sound : registry.IsSound) :
    signal ∈ registry.rows.map Prod.fst ↔ registry.subscribers signal ≠ [] := by
  constructor
  · intro member
    obtain ⟨⟨_, list⟩, held, rfl⟩ := List.mem_map.mp member
    rw [sound.subscribers_of_mem held]
    exact sound.inhabited _ held
  · intro inhabited
    by_contra absent
    apply inhabited
    apply subscribers_eq_nil
    rintro row member rfl
    exact absent (List.mem_map_of_mem member)

/-- The table holds a subscription. -/
def Holds (registry : Registry κ) (signal : Signal) (id : SubscriberId) : Prop :=
  ∃ row ∈ registry.rows, row.1 = signal ∧ ∃ subscriber ∈ row.2.entries.toList, subscriber.id = id

theorem IsSound.holds_iff (sound : registry.IsSound) :
    registry.Holds signal id ↔ registry.isSubscribed signal id = true := by
  rw [isSubscribed, List.any_eq_true]
  constructor
  · rintro ⟨row, member, rfl, subscriber, listed, same⟩
    refine ⟨subscriber, ?_, beq_iff_eq.mpr same⟩
    rwa [sound.subscribers_of_mem member]
  · rintro ⟨subscriber, listed, same⟩
    obtain ⟨row, member, rfl⟩ :=
      List.mem_map.mp (sound.mem_signals_iff.mpr (List.ne_nil_of_mem listed))
    rw [sound.subscribers_of_mem member] at listed
    exact ⟨row, member, rfl, subscriber, listed, beq_iff_eq.mp same⟩

/-! ## Changing the row of one signal -/

/-- Takes a row out of its place. -/
theorem IsSound.apart_of_split (sound : registry.IsSound)
    (split_at : registry.rows = front ++ (signal, list) :: back) :
    RowApart registry.rows signal (some list) (front ++ back) := by
  have permuted : registry.rows.Perm ((signal, list) :: (front ++ back)) :=
    split_at ▸ List.perm_middle
  refine ⟨permuted, ?_⟩
  rintro row member rfl
  have distinct := (permuted.map Prod.fst).nodup_iff.mp sound.distinct
  exact (List.nodup_cons.mp distinct).1 (List.mem_map.mpr ⟨row, member, rfl⟩)

/-- A table in which one signal has another row, or none, is sound and maps that signal to what is
in the row. -/
theorem IsSound.change (sound : registry.IsSound)
    (before : RowApart registry.rows signal own others)
    (after : RowApart next.rows signal changed others)
    (capacity : next.listCapacity = registry.listCapacity)
    (inhabited : ∀ list ∈ changed, list.entries.toList ≠ [])
    (housed : ∀ list ∈ changed, list.capacity = registry.listCapacity ∧ list.Fits) :
    next.IsSound ∧ ∀ other, next.subscribers other =
      if other = signal then (changed.map fun list => list.entries.toList).getD []
      else registry.subscribers other := by
  have member_cases : ∀ row ∈ next.rows, (∃ list ∈ changed, row = (signal, list)) ∨
      row ∈ registry.rows := by
    intro row member
    rcases List.mem_append.mp (after.perm.mem_iff.mp member) with own_row | other_row
    · obtain ⟨list, listed, rfl⟩ := List.mem_map.mp own_row
      exact Or.inl ⟨list, Option.mem_toList.mp listed, rfl⟩
    · exact Or.inr (before.perm.mem_iff.mpr (List.mem_append_right _ other_row))
  have next_sound : next.IsSound := by
    constructor
    · rw [(after.perm.map Prod.fst).nodup_iff, List.map_append]
      have distinct := (before.perm.map Prod.fst).nodup_iff.mp sound.distinct
      rw [List.map_append] at distinct
      apply List.Nodup.append _ distinct.of_append_right
      · intro repeated own_signal other_signal
        obtain ⟨row, member, rfl⟩ := List.mem_map.mp other_signal
        simp only [List.map_map, List.mem_map] at own_signal
        obtain ⟨_, _, same⟩ := own_signal
        exact after.others row member same.symm
      · cases changed <;> simp
    · intro row member
      obtain ⟨list, held, rfl⟩ | kept := member_cases row member
      · exact inhabited list held
      · exact sound.inhabited row kept
    · intro row member
      rw [capacity]
      obtain ⟨list, held, rfl⟩ | kept := member_cases row member
      · exact (housed list held).1
      · exact sound.capacity row kept
    · intro row member
      obtain ⟨list, held, rfl⟩ | kept := member_cases row member
      · exact (housed list held).2
      · exact sound.fits row kept
  refine ⟨next_sound, ?_⟩
  intro other
  by_cases same : other = signal
  · rw [if_pos same, same]
    cases changed with
    | none =>
        apply subscribers_eq_nil
        intro row member
        exact after.others row (after.perm.mem_iff.mp member)
    | some list =>
        apply next_sound.subscribers_of_mem
        exact after.perm.mem_iff.mpr (List.mem_cons_self ..)
  · rw [if_neg same]
    by_cases listed : other ∈ registry.rows.map Prod.fst
    · obtain ⟨⟨_, list⟩, member, rfl⟩ := List.mem_map.mp listed
      rw [sound.subscribers_of_mem member]
      apply next_sound.subscribers_of_mem
      rwa [after.mem_iff same, ← before.mem_iff same]
    · rw [subscribers_eq_nil, subscribers_eq_nil]
      · rintro row member rfl
        exact listed (List.mem_map_of_mem member)
      · rintro ⟨_, list⟩ member rfl
        rw [after.mem_iff same, ← before.mem_iff same] at member
        exact listed (List.mem_map_of_mem member)

/-! ## The operations -/

theorem IsSound.subscribers_of_apart (sound : registry.IsSound)
    (apart : RowApart registry.rows signal own others) :
    registry.subscribers signal = (own.map fun list => list.entries.toList).getD [] := by
  cases own with
  | none =>
      apply subscribers_eq_nil
      intro row member
      exact apart.others row (apart.perm.mem_iff.mp member)
  | some list =>
      apply sound.subscribers_of_mem
      exact apart.perm.mem_iff.mpr (List.mem_cons_self ..)

/-- A signal has its row, or it gets an empty one at the end, or there is no room for one. -/
theorem IsSound.ensureRow?_cases (sound : registry.IsSound) (signal : Signal) :
    registry.ensureRow? signal = none ∨
      ∃ own table front back, registry.ensureRow? signal = some (table, front.length) ∧
        RowApart registry.rows signal own (front ++ back) ∧
        table.entries.toList =
          front ++ (signal, own.getD (.empty registry.listCapacity)) :: back := by
  rcases find?_cases registry signal with ⟨missed, absent⟩ | ⟨front, list, back, split_at, found⟩
  · cases pushed : registry.table.push? (signal, .empty registry.listCapacity) with
    | none =>
        left
        rw [ensureRow?, missed, pushed]
        rfl
    | some table =>
        right
        obtain ⟨listed, _⟩ := Roster.of_push? pushed
        refine ⟨none, table, registry.rows, [], ?_, ⟨?_, ?_⟩, listed⟩
        · rw [ensureRow?, missed, pushed]
          rfl
        · simp
        · simpa using absent
  · right
    refine ⟨some list, registry.table, front, back, ?_, sound.apart_of_split split_at, split_at⟩
    rw [ensureRow?, found]

theorem perm_replaceRow {table : Roster (SignalRow κ)}
    (split_at : table.entries.toList = front ++ (signal, list) :: back)
    (changed : Roster (Subscriber κ)) :
    (replaceRow table front.length signal changed).entries.toList.Perm
      ((if changed.isEmpty then none else some changed).toList.map (Prod.mk signal) ++
        (front ++ back)) := by
  rw [replaceRow]
  split
  · obtain ⟨rest, removed, permuted⟩ := Roster.swapRemove?_of_split split_at
    rw [removed]
    exact permuted
  · rw [Roster.set_of_split split_at]
    exact List.perm_middle

/-- The list of one signal is replaced. -/
theorem IsSound.replaceRow (sound : registry.IsSound) (next : Registry κ)
    {table : Roster (SignalRow κ)}
    (apart : RowApart registry.rows signal own (front ++ back))
    (split_at : table.entries.toList = front ++ (signal, list) :: back)
    {changed : Roster (Subscriber κ)} (capacity : changed.capacity = registry.listCapacity)
    (fits : changed.Fits) (replaced : next.table = replaceRow table front.length signal changed)
    (same_capacity : next.listCapacity = registry.listCapacity) :
    next.IsSound ∧ ∀ other, next.subscribers other =
      if other = signal then changed.entries.toList else registry.subscribers other := by
  have after : RowApart next.rows signal (if changed.isEmpty then none else some changed)
      (front ++ back) := by
    refine ⟨?_, apart.others⟩
    rw [rows, replaced]
    exact perm_replaceRow split_at changed
  have kept : ((if changed.isEmpty then none else some changed).map
      fun list => list.entries.toList).getD [] = changed.entries.toList := by
    split
    · next empty => simpa [Roster.isEmpty] using empty
    · rfl
  rw [← kept]
  apply sound.change apart after same_capacity
  · intro list held empty
    split at held
    · cases held
    · next inhabited =>
      cases held
      exact inhabited (by simpa [Roster.isEmpty] using empty)
  · intro list held
    split at held
    · cases held
    · cases held
      exact ⟨capacity, fits⟩

/-- A subscription takes the next id in any case; it is appended to the list of its signal unless
there is no room. -/
theorem IsSound.subscribe_cases (sound : registry.IsSound) (signal : Signal) (callback : κ) :
    (registry.subscribe signal callback).1.IsSound ∧
    (registry.subscribe signal callback).1.nextId = registry.nextId + 1 ∧
    ((∃ error, (registry.subscribe signal callback).2 = .error error) ∧
        (∀ other, (registry.subscribe signal callback).1.subscribers other =
          registry.subscribers other) ∨
      (registry.subscribe signal callback).2 = .ok ⟨registry.nextId⟩ ∧
        ∀ other, (registry.subscribe signal callback).1.subscribers other =
          if other = signal then
            registry.subscribers signal ++ [{ id := ⟨registry.nextId⟩, callback }]
          else registry.subscribers other) := by
  have counted : ({ registry with nextId := registry.nextId + 1 } : Registry κ).IsSound :=
    ⟨sound.distinct, sound.inhabited, sound.capacity, sound.fits⟩
  rcases sound.ensureRow?_cases signal with refused | ⟨own, table, front, back, ensured, apart, row⟩
  · have result : registry.subscribe signal callback =
        ({ registry with nextId := registry.nextId + 1 },
          .error (.signalTableFull registry.table.capacity.limit)) := by
      simp only [subscribe, refused]
    rw [result]
    exact ⟨counted, rfl, Or.inl ⟨⟨_, rfl⟩, fun _ => rfl⟩⟩
  · have own_fine : (own.getD (.empty registry.listCapacity)).capacity = registry.listCapacity ∧
        (own.getD (.empty registry.listCapacity)).Fits := by
      cases own with
      | none => exact ⟨rfl, Roster.fits_empty _⟩
      | some list =>
          have member : (signal, list) ∈ registry.rows :=
            apart.perm.mem_iff.mpr (List.mem_cons_self ..)
          exact ⟨sound.capacity _ member, sound.fits _ member⟩
    have own_list : (own.getD (.empty registry.listCapacity)).entries.toList =
        registry.subscribers signal := by
      rw [sound.subscribers_of_apart apart]
      cases own <;> rfl
    cases pushed : (own.getD (.empty registry.listCapacity)).push?
        { id := ⟨registry.nextId⟩, callback } with
    | none =>
        have result : registry.subscribe signal callback =
            ({ registry with
                nextId := registry.nextId + 1
                table := Registry.replaceRow table front.length signal
                  (own.getD (.empty registry.listCapacity)) },
              .error (.subscriberListFull signal
                (own.getD (.empty registry.listCapacity)).capacity.limit)) := by
          simp only [subscribe, ensured, Roster.get?_of_split row, pushed]
        obtain ⟨next_sound, listed⟩ := sound.replaceRow (registry.subscribe signal callback).1
          apart row own_fine.1 own_fine.2 (by rw [result]) (by rw [result])
        refine ⟨next_sound, by rw [result], Or.inl ⟨⟨_, by rw [result]⟩, ?_⟩⟩
        intro other
        rw [listed other, own_list]
        split
        · next same => rw [same]
        · rfl
    | some grown =>
        obtain ⟨longer, capacity, _⟩ := Roster.of_push? pushed
        have inhabited : grown.isEmpty = false := by
          rw [Roster.isEmpty, ← Array.isEmpty_toList, longer]
          simp
        have result : registry.subscribe signal callback =
            ({ registry with
                nextId := registry.nextId + 1
                table := table.set front.length (signal, grown) },
              .ok ⟨registry.nextId⟩) := by
          simp only [subscribe, ensured, Roster.get?_of_split row, pushed]
        obtain ⟨next_sound, listed⟩ := sound.replaceRow (registry.subscribe signal callback).1
          apart row (capacity.trans own_fine.1) (Roster.fits_of_push? pushed)
          (by simp [result, Registry.replaceRow, inhabited]) (by rw [result])
        refine ⟨next_sound, by rw [result], Or.inr ⟨by rw [result], ?_⟩⟩
        intro other
        rw [listed other, longer, own_list]

theorem eraseP_of_split {front back : List (Subscriber κ)} {subscriber : Subscriber κ}
    (same : subscriber.id = id) (apart : ∀ earlier ∈ front, earlier.id ≠ id) :
    (front ++ subscriber :: back).eraseP (fun subscriber => subscriber.id == id) =
      front ++ back := by
  rw [List.eraseP_append_right _ (by simpa using apart), List.eraseP_cons_of_pos (by simp [same])]

/-- What is removed is one subscription of the signal; where there is none, nothing changes. -/
theorem IsSound.unsubscribe_cases (sound : registry.IsSound) (signal : Signal)
    (id : SubscriberId) :
    (registry.unsubscribe signal id = (registry, false) ∧
        ∀ subscriber ∈ registry.subscribers signal, subscriber.id ≠ id) ∨
      ∃ next front subscriber back, registry.unsubscribe signal id = (next, true) ∧
        next.IsSound ∧ next.nextId = registry.nextId ∧
        registry.subscribers signal = front ++ subscriber :: back ∧ subscriber.id = id ∧
        (∀ earlier ∈ front, earlier.id ≠ id) ∧
        ∀ other, next.subscribers other =
          if other = signal then front ++ back else registry.subscribers other := by
  rcases find?_cases registry signal with ⟨missed, absent⟩ | ⟨front, list, back, split_at, found⟩
  · left
    rw [subscribers_eq_nil absent]
    refine ⟨?_, fun _ member => absurd member List.not_mem_nil⟩
    simp [unsubscribe, missed]
  · have member : (signal, list) ∈ registry.rows := by simp [split_at]
    have held := Roster.get?_of_split split_at
    rw [sound.subscribers_of_mem member]
    rcases Roster.findIdx?_cases list.entries (fun subscriber => subscriber.id == id) with
      ⟨missed, others⟩ | ⟨earlier, subscriber, later, listed, at_place, same, apart⟩
    · left
      refine ⟨?_, fun subscriber member => by simpa using others subscriber member⟩
      simp [unsubscribe, found, held, missed]
    · right
      obtain ⟨rest, removed, left_over, capacity⟩ := Roster.remove?_of_split listed
      have fits : rest.Fits := by
        apply (sound.fits _ member).of_le capacity
        simp only [Roster.size, ← Array.length_toList, left_over, listed, List.length_append,
          List.length_cons]
        omega
      obtain ⟨next_sound, replaced⟩ := sound.replaceRow
        { registry with table := Registry.replaceRow registry.table front.length signal rest }
        (sound.apart_of_split split_at) split_at (capacity.trans (sound.capacity _ member)) fits
        rfl rfl
      refine ⟨_, earlier, subscriber, later, ?_, next_sound, rfl, listed, by simpa using same,
        fun subscriber member => by simpa using apart subscriber member, ?_⟩
      · simp [unsubscribe, found, held, at_place, removed]
      · intro other
        rw [replaced other, left_over]

/-- Only the table changes. -/
theorem unsubscribe_frame (registry : Registry κ) (signal : Signal) (id : SubscriberId) :
    ∃ table, (registry.unsubscribe signal id).1 = { registry with table } := by
  rw [unsubscribe]
  split
  · exact ⟨_, rfl⟩
  · exact ⟨registry.table, rfl⟩

/-- A copy of a list has room for all of it. -/
theorem IsSound.snapshot_eq (sound : registry.IsSound) (signal : Signal) :
    registry.snapshot signal = registry.subscribers signal := by
  have room : ∀ size < (registry.subscribers signal).length,
      registry.listCapacity.admits size = true := by
    rcases find?_cases registry signal with ⟨_, absent⟩ | ⟨front, list, back, split_at, _⟩
    · intro size small
      rw [subscribers_eq_nil absent] at small
      exact absurd small (Nat.not_lt_zero size)
    · have member : (signal, list) ∈ registry.rows := by simp [split_at]
      rw [sound.subscribers_of_mem member, ← sound.capacity _ member]
      exact sound.fits _ member
  rw [snapshot, Roster.foldl_push?]
  · rfl
  · intro size small
    rw [Roster.size] at small
    exact room size (by simpa [Roster.empty] using small)

end Registry

end Reactor
