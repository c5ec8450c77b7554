import Reactor.Proofs.CallbackSlots.Placement
import Mathlib.Data.List.Induction
import Mathlib.Data.List.Perm.Basic

/-!
# How long closures live

A copy of a closure lives while a slot refers to it.  Every move drops those copies that a slot
gave up and that none refers to after it, and a closure that does not fit; nothing happens to a copy
after that.  So once all slots are empty, every copy that there has been is dropped, and dropped
once: a shared closure once for all its clones, an inline one once for itself and once for each
clone.
-/

namespace Reactor

/-- No copy is called, copied or dropped once it has been dropped. -/
def Touch.DropsLast {γ α : Type} (touches : List (Touch (Callback γ) α)) : Prop :=
  touches.Pairwise fun earlier later =>
    ∀ gone, earlier = .dropped gone → later.subject.copy ≠ gone.copy

theorem Touch.DropsLast.append {γ α : Type} {touches more : List (Touch (Callback γ) α)}
    (no_drops : ∀ touch ∈ touches, touch.dropped? = none) (last : DropsLast more) :
    DropsLast (touches ++ more) := by
  induction touches with
  | nil => exact last
  | cons touch touches induction =>
      rw [List.forall_mem_cons] at no_drops
      refine List.pairwise_cons.mpr ⟨fun later _ gone drops => ?_, induction no_drops.2⟩
      rw [drops] at no_drops
      cases no_drops.1

namespace CallbackSlots

variable {γ α : Type} {count : Nat} {table next : CallbackSlots γ α} {housing : Housing}

/-! ## References -/

/-- A slot holds a callback. -/
def Holds (table : CallbackSlots γ α) (callback : Callback γ) : Prop :=
  ∃ slot, table.get? slot = some callback

/-- A slot refers to a copy. -/
def Refers (table : CallbackSlots γ α) (copy : Nat) : Prop :=
  ∃ callback, table.Holds callback ∧ callback.copy = copy

theorem Holds.refers {callback : Callback γ} (held : table.Holds callback) :
    table.Refers callback.copy := ⟨callback, held, rfl⟩

theorem get?_eq_some_iff {slot : Nat} {callback : Callback γ} :
    table.get? slot = some callback ↔
      ∃ kept : KeptCallback γ α,
        table.slots[slot]? = some (some kept) ∧ kept.closure = callback := by
  simp only [get?, kept?, Option.map_eq_some_iff, Option.join_eq_some_iff]

theorem refersTo_iff {copy : Nat} : table.refersTo copy = true ↔ table.Refers copy := by
  rw [refersTo, List.any_eq_true]
  constructor
  · rintro ⟨held, member, refers⟩
    obtain ⟨kept, rfl, same⟩ := (Option.any_eq_true _ _).mp refers
    obtain ⟨slot, held⟩ := List.mem_iff_getElem?.mp member
    have holds : table.Holds kept.closure := ⟨slot, get?_eq_some_iff.mpr ⟨kept, held, rfl⟩⟩
    exact ⟨kept.closure, holds, beq_iff_eq.mp same⟩
  · rintro ⟨_, ⟨slot, held⟩, rfl⟩
    obtain ⟨kept, lies, rfl⟩ := get?_eq_some_iff.mp held
    exact ⟨some kept, List.mem_of_getElem? lies, beq_self_eq_true _⟩

/-! ## Changes -/

/-- Calls and copies of callbacks that slots hold. -/
def Uses (table : CallbackSlots γ α) (touches : List (Touch (Callback γ) α)) : Prop :=
  ∀ touch ∈ touches, touch.dropped? = none ∧ table.Holds touch.subject

/-- The slots with something else in one of them, and copies of some closures made for it. -/
def given (table : CallbackSlots γ α) (born : List γ) (slot : Nat)
    (callback : Option (Callback γ)) : CallbackSlots γ α :=
  { table.withSlot slot callback with copies := table.copies + born.length }

theorem Shaped.given (shaped : table.Shaped housing count) (born : List γ) (slot : Nat)
    (callback : Option (Callback γ)) : (table.given born slot callback).Shaped housing count :=
  have placed := shaped.withSlot slot callback
  ⟨placed.housing_eq, placed.length_eq, placed.kept_eq⟩

/-- What comes into a slot: nothing, a reference to a shared closure, or a new copy. -/
inductive Incoming (table : CallbackSlots γ α) : List γ → Option (Callback γ) → Prop where
  | nothing : Incoming table [] none
  | shared {callback : Callback γ} (held : table.Holds callback)
      (boxed : table.housing = .boxed) : Incoming table [] (some callback)
  | fresh (closure : γ) : Incoming table [closure] (some (table.fresh closure))

/-- All that can happen to lifetimes in a move, where `born` are the closures that new copies are
made of. -/
inductive Change (count : Nat) (table : CallbackSlots γ α) :
    List γ → List (Touch (Callback γ) α) → CallbackSlots γ α → Prop where
  /-- Callbacks are used. -/
  | used {touches : List (Touch (Callback γ) α)} (uses : table.Uses touches) :
      Change count table [] touches table
  /-- A closure is dropped at once. -/
  | wasted (closure : γ) :
      Change count table [closure] [.dropped (table.fresh closure)] table.grown
  /-- Callbacks are used, and then a slot is given something else. -/
  | given {born : List γ} {callback : Option (Callback γ)} {touches : List (Touch (Callback γ) α)}
      (slot : Fin count) (incoming : table.Incoming born callback) (uses : table.Uses touches) :
      Change count table born (touches ++ table.replaced slot (table.given born slot callback))
        (table.given born slot callback)

theorem Step.change {move : SlotMove γ α count} {shown : SlotShown (Callback γ) α}
    (step : table.Step move shown next) :
    table.Change count
      (move.closure?.toList ++ (Touch.clonesIn shown.touches).map Callback.closure)
      shown.touches next := by
  have unused : table.Uses ([] : List (Touch (Callback γ) α)) := List.forall_mem_nil _
  cases step with
  | unfit slot closure => exact .wasted closure
  | made slot closure =>
      rw [clonesIn_replaced]
      exact .given slot (.fresh closure) unused
  | missed slot =>
      rw [clonesIn_replaced]
      exact .given slot .nothing unused
  | shared slot held boxed =>
      rw [clonesIn_replaced]
      exact .given slot (.shared ⟨_, held⟩ boxed) unused
  | @copied slot source callback held =>
      have copies : Touch.clonesIn
          (.cloned callback :: table.replaced (α := α) slot (table.placed slot callback.closure)) =
          [callback] :=
        congrArg (callback :: ·) (clonesIn_replaced slot _)
      rw [copies]
      have uses : table.Uses ([.cloned callback] : List (Touch (Callback γ) α)) :=
        List.forall_mem_singleton.mpr ⟨rfl, source, held⟩
      have change := Change.given slot (Incoming.fresh callback.closure) uses
      exact change
  | called slot argument =>
      cases held : table.get? slot with
      | none => exact .used unused
      | some callback => exact .used (List.forall_mem_singleton.mpr ⟨rfl, slot, held⟩)
  | emptied slot =>
      rw [clonesIn_replaced]
      exact .given slot .nothing unused

/-! ## What every change keeps -/

/-- The lifetimes are in order, where `made` are the closures of all copies that there have been, by
their numbers, and `record` is what has happened to them. -/
structure Tracked (housing : Housing) (count : Nat) (made : List γ)
    (record : List (Touch (Callback γ) α)) (table : CallbackSlots γ α) : Prop where
  shaped : table.Shaped housing count
  copies_eq : table.copies = made.length
  held_made : ∀ {callback}, table.Holds callback → made[callback.copy]? = some callback.closure
  apart : housing ≠ .boxed → ∀ {slot other callback}, table.get? slot = some callback →
    table.get? other = some callback → slot = other
  dropped_iff : ∀ gone, .dropped gone ∈ record ↔
    made[gone.copy]? = some gone.closure ∧ ¬ table.Refers gone.copy
  dropsLast : Touch.DropsLast record

theorem not_holds_empty (callback : Callback γ) :
    ¬ (empty housing count : CallbackSlots γ α).Holds callback := by
  rintro ⟨slot, held⟩
  rw [get?_empty] at held
  cases held

theorem tracked_empty (housing : Housing) (count : Nat) :
    (empty housing count : CallbackSlots γ α).Tracked housing count []
      ([] : List (Touch (Callback γ) α)) where
  shaped := shaped_empty housing count
  copies_eq := rfl
  held_made := fun held => absurd held (not_holds_empty _)
  apart := fun _ _ _ callback held => absurd ⟨_, held⟩ (not_holds_empty callback)
  dropped_iff := fun _ => ⟨nofun, nofun⟩
  dropsLast := .nil

variable {made born : List γ} {record touches : List (Touch (Callback γ) α)}
  {callback : Option (Callback γ)} {slot : Fin count}

/-- A copy has one closure. -/
theorem eq_of_copy_eq {held other : Callback γ} (known : made[held.copy]? = some held.closure)
    (known_other : made[other.copy]? = some other.closure) (same : held.copy = other.copy) :
    held = other := by
  rw [same, known_other] at known
  cases held
  cases other
  cases same
  cases known
  rfl

namespace Tracked

theorem copy_lt (tracked : table.Tracked housing count made record) {held : Callback γ}
    (holds : table.Holds held) : held.copy < table.copies :=
  tracked.copies_eq ▸ (List.getElem?_eq_some_iff.mp (tracked.held_made holds)).1

/-- Further copies do not change which closure a copy has. -/
theorem known_append (tracked : table.Tracked housing count made record) {held : Callback γ}
    (holds : table.Holds held) : (made ++ born)[held.copy]? = some held.closure := by
  have known := tracked.held_made holds
  rwa [List.getElem?_append_left (List.getElem?_eq_some_iff.mp known).1]

theorem get?_given (tracked : table.Tracked housing count made record) (other : Nat) :
    (table.given born slot callback).get? other =
      if other = slot then callback else table.get? other :=
  tracked.shaped.get?_withSlot slot callback other

theorem holds_given_iff (tracked : table.Tracked housing count made record) {held : Callback γ} :
    (table.given born slot callback).Holds held ↔
      callback = some held ∨ ∃ other, other ≠ (slot : Nat) ∧ table.get? other = some held := by
  simp only [Holds, tracked.get?_given]
  constructor
  · rintro ⟨other, holds⟩
    split at holds
    · exact Or.inl holds
    · next different => exact Or.inr ⟨other, different, holds⟩
  · rintro (comes | ⟨other, different, holds⟩)
    · exact ⟨slot, (if_pos rfl).trans comes⟩
    · exact ⟨other, (if_neg different).trans holds⟩

/-- What comes into a slot is a copy that there is by then. -/
theorem known_of_incoming (tracked : table.Tracked housing count made record)
    (incoming : table.Incoming born callback) {held : Callback γ} (comes : callback = some held) :
    (made ++ born)[held.copy]? = some held.closure := by
  cases incoming with
  | nothing => cases comes
  | shared holds boxed =>
      obtain rfl := Option.some.inj comes
      exact tracked.known_append holds
  | fresh closure =>
      obtain rfl := Option.some.inj comes
      have number : (table.fresh closure).copy = made.length := tracked.copies_eq
      rw [number, List.getElem?_concat_length]
      rfl

/-- An inline callback that is put into a slot is not in a slot before. -/
theorem not_holds_of_incoming (tracked : table.Tracked housing count made record)
    (incoming : table.Incoming born callback) (inlined : housing ≠ .boxed) {held : Callback γ}
    (comes : callback = some held) : ¬ table.Holds held := by
  intro holds
  cases incoming with
  | nothing => cases comes
  | shared _ boxed => exact inlined (tracked.shaped.housing_eq ▸ boxed)
  | fresh closure =>
      obtain rfl := Option.some.inj comes
      exact absurd (tracked.copy_lt holds) (Nat.lt_irrefl _)

/-- A slot that is given something else is the only one to change. -/
theorem refers_given_of_ne (tracked : table.Tracked housing count made record) {other : Nat}
    {held : Callback γ} (holds : table.get? other = some held) (different : other ≠ slot) :
    (table.given born slot callback).Refers held.copy :=
  (tracked.holds_given_iff.mpr (Or.inr ⟨other, different, holds⟩)).refers

theorem held_made_given (tracked : table.Tracked housing count made record)
    (incoming : table.Incoming born callback) {held : Callback γ}
    (holds : (table.given born slot callback).Holds held) :
    (made ++ born)[held.copy]? = some held.closure := by
  obtain comes | ⟨other, _, holds⟩ := tracked.holds_given_iff.mp holds
  · exact tracked.known_of_incoming incoming comes
  · exact tracked.known_append ⟨other, holds⟩

theorem apart_given (tracked : table.Tracked housing count made record)
    (incoming : table.Incoming born callback) (inlined : housing ≠ .boxed) {one other : Nat}
    {held : Callback γ} (holds : (table.given born slot callback).get? one = some held)
    (holds_too : (table.given born slot callback).get? other = some held) : one = other := by
  rw [tracked.get?_given] at holds holds_too
  split at holds <;> split at holds_too
  · next first second => exact first.trans second.symm
  · exact absurd ⟨other, holds_too⟩ (tracked.not_holds_of_incoming incoming inlined holds)
  · exact absurd ⟨one, holds⟩ (tracked.not_holds_of_incoming incoming inlined holds_too)
  · exact tracked.apart inlined holds holds_too

/-- An inline copy that a slot gives up is referred to by no slot. -/
theorem not_refers_given_of_inline (tracked : table.Tracked housing count made record)
    (incoming : table.Incoming born callback) (inlined : housing ≠ .boxed) {old : Callback γ}
    (holds : table.get? slot = some old) :
    ¬ (table.given born slot callback).Refers old.copy := by
  rintro ⟨held, holds_after, same⟩
  obtain rfl : held = old :=
    eq_of_copy_eq (tracked.held_made_given incoming holds_after)
      (tracked.known_append ⟨slot, holds⟩) same
  obtain comes | ⟨other, different, holds_other⟩ := tracked.holds_given_iff.mp holds_after
  · exact tracked.not_holds_of_incoming incoming inlined comes ⟨slot, holds⟩
  · exact different (tracked.apart inlined holds_other holds)

/-- However callbacks are kept, giving a slot something else drops what was there just if no slot
refers to it after that. -/
theorem dropped_mem_replaced_iff (tracked : table.Tracked housing count made record)
    (incoming : table.Incoming born callback) {gone : Callback γ} :
    (.dropped gone : Touch (Callback γ) α) ∈
        table.replaced slot (table.given born slot callback) ↔
      table.get? slot = some gone ∧ ¬ (table.given born slot callback).Refers gone.copy := by
  rw [replaced]
  cases holds : table.get? slot with
  | none => exact iff_of_false List.not_mem_nil fun both => Option.some_ne_none gone both.1.symm
  | some old =>
      have lost_iff : (.dropped gone : Touch (Callback γ) α) ∈ [.dropped old] ↔
          some old = some gone := by
        rw [List.mem_singleton, Touch.dropped.injEq, Option.some.injEq, eq_comm]
      rw [Option.elim_some]
      by_cases boxed : table.housing = .boxed
      · rw [letGo_of_boxed _ boxed]
        by_cases refers : (table.given born slot callback).refersTo old.copy = true
        · rw [if_pos refers]
          refine iff_of_false List.not_mem_nil ?_
          rintro ⟨same, lost⟩
          cases same
          exact absurd (refersTo_iff.mp refers) lost
        · rw [if_neg refers, lost_iff]
          refine ⟨fun same => ⟨same, ?_⟩, And.left⟩
          cases same
          exact fun still => refers (refersTo_iff.mpr still)
      · rw [letGo_of_inline _ boxed, lost_iff]
        refine ⟨fun same => ⟨same, ?_⟩, And.left⟩
        cases same
        have inlined : housing ≠ .boxed := tracked.shaped.housing_eq ▸ boxed
        exact tracked.not_refers_given_of_inline incoming inlined holds

end Tracked

/-! ### Drops -/

/-- A change drops those copies that have been in a slot or are new and that no slot refers to after
it. -/
theorem Change.dropped_mem_iff (change : table.Change count born touches next)
    (tracked : table.Tracked housing count made record) {gone : Callback γ} :
    .dropped gone ∈ touches ↔
      (table.Holds gone ∨ gone.copy = table.copies ∧ born = [gone.closure]) ∧
        ¬ next.Refers gone.copy := by
  cases change with
  | used uses =>
      constructor
      · exact fun member => absurd (uses _ member).1 nofun
      · rintro ⟨holds | ⟨_, none⟩, lost⟩
        · exact absurd holds.refers lost
        · cases none
  | wasted closure =>
      rw [List.mem_singleton, Touch.dropped.injEq]
      constructor
      · rintro rfl
        refine ⟨Or.inr ⟨rfl, rfl⟩, ?_⟩
        rintro ⟨held, holds, same⟩
        exact absurd (same ▸ tracked.copy_lt holds) (Nat.lt_irrefl _)
      · rintro ⟨holds | ⟨number, new⟩, lost⟩
        · exact absurd holds.refers lost
        · cases gone
          cases number
          cases new
          rfl
  | @given _ callback _ slot incoming uses =>
      rw [List.mem_append, tracked.dropped_mem_replaced_iff incoming]
      constructor
      · rintro (member | ⟨holds, lost⟩)
        · exact absurd (uses _ member).1 nofun
        · exact ⟨Or.inl ⟨slot, holds⟩, lost⟩
      · rintro ⟨⟨other, holds⟩ | ⟨number, new⟩, lost⟩
        · by_cases same : other = slot
          · exact Or.inr ⟨same ▸ holds, lost⟩
          · exact absurd (tracked.refers_given_of_ne holds same) lost
        · refine absurd ?_ lost
          cases incoming with
          | nothing => cases new
          | shared => cases new
          | fresh closure =>
              rw [number]
              exact (tracked.holds_given_iff.mpr (Or.inl rfl)).refers

/-- A slot only comes to refer to copies that some slot has referred to or that are new. -/
theorem Change.refers_or_eq (change : table.Change count born touches next)
    (tracked : table.Tracked housing count made record) {copy : Nat} (refers : next.Refers copy) :
    table.Refers copy ∨ copy = table.copies := by
  cases change with
  | used => exact Or.inl refers
  | wasted => exact Or.inl refers
  | given slot incoming =>
      obtain ⟨held, holds, rfl⟩ := refers
      obtain rfl | ⟨other, _, holds⟩ := tracked.holds_given_iff.mp holds
      · cases incoming with
        | shared holds => exact Or.inl holds.refers
        | fresh closure => exact Or.inr rfl
      · exact Or.inl ⟨held, ⟨other, holds⟩, rfl⟩

theorem Change.born_cases (change : table.Change count born touches next) :
    born = [] ∨ ∃ closure, born = [closure] := by
  cases change with
  | used => exact Or.inl rfl
  | wasted closure => exact Or.inr ⟨closure, rfl⟩
  | given slot incoming =>
      cases incoming with
      | nothing => exact Or.inl rfl
      | shared => exact Or.inl rfl
      | fresh closure => exact Or.inr ⟨closure, rfl⟩

theorem Change.known_iff (change : table.Change count born touches next)
    (tracked : table.Tracked housing count made record) {gone : Callback γ} :
    (made ++ born)[gone.copy]? = some gone.closure ↔
      made[gone.copy]? = some gone.closure ∨
        gone.copy = table.copies ∧ born = [gone.closure] := by
  rw [tracked.copies_eq]
  obtain rfl | ⟨closure, rfl⟩ := change.born_cases
  · simp
  · rw [List.getElem?_append]
    grind

theorem Change.dropped_mem_append_iff (change : table.Change count born touches next)
    (tracked : table.Tracked housing count made record) (gone : Callback γ) :
    .dropped gone ∈ record ++ touches ↔
      (made ++ born)[gone.copy]? = some gone.closure ∧ ¬ next.Refers gone.copy := by
  rw [List.mem_append, tracked.dropped_iff, change.dropped_mem_iff tracked,
    change.known_iff tracked]
  constructor
  · rintro (⟨known, lost⟩ | ⟨holds | new, lost⟩)
    · refine ⟨Or.inl known, fun refers => ?_⟩
      obtain before | number := change.refers_or_eq tracked refers
      · exact lost before
      · have in_range := (List.getElem?_eq_some_iff.mp known).1
        rw [number, tracked.copies_eq] at in_range
        exact absurd in_range (Nat.lt_irrefl _)
    · exact ⟨Or.inl (tracked.held_made holds), lost⟩
    · exact ⟨Or.inr new, lost⟩
  · rintro ⟨known | new, lost⟩
    · by_cases refers : table.Refers gone.copy
      · obtain ⟨held, holds, same⟩ := refers
        obtain rfl := eq_of_copy_eq (tracked.held_made holds) known same
        exact Or.inr ⟨Or.inl holds, lost⟩
      · exact Or.inl ⟨known, refers⟩
    · exact Or.inr ⟨Or.inr new, lost⟩

/-- A change only touches copies that a slot refers to or that are new. -/
theorem Change.holds_or_eq (change : table.Change count born touches next)
    {touch : Touch (Callback γ) α} (member : touch ∈ touches) :
    table.Holds touch.subject ∨ touch.subject.copy = table.copies := by
  cases change with
  | used uses => exact Or.inl (uses touch member).2
  | wasted closure =>
      obtain rfl := List.mem_singleton.mp member
      exact Or.inr rfl
  | given slot incoming uses =>
      obtain member | member := List.mem_append.mp member
      · exact Or.inl (uses touch member).2
      · obtain ⟨gone, holds, rfl⟩ := eq_dropped_of_mem_replaced member
        exact Or.inl ⟨slot, holds⟩

theorem dropsLast_replaced (table next : CallbackSlots γ α) (slot : Nat) :
    Touch.DropsLast (table.replaced slot next : List (Touch (Callback γ) α)) := by
  rw [replaced]
  cases table.get? slot with
  | none => exact .nil
  | some old =>
      rw [Option.elim_some]
      obtain none | some := next.letGo_cases table.housing old
      · rw [none]
        exact .nil
      · rw [some]
        exact List.pairwise_singleton _ _

theorem Change.dropsLast (change : table.Change count born touches next) :
    Touch.DropsLast touches := by
  cases change with
  | used uses =>
      rw [← List.append_nil touches]
      exact .append (fun touch member => (uses touch member).1) .nil
  | wasted closure => exact List.pairwise_singleton _ _
  | given slot incoming uses =>
      exact .append (fun touch member => (uses touch member).1) (dropsLast_replaced _ _ _)

/-- What has been dropped is not touched again. -/
theorem Change.dropsLast_append (change : table.Change count born touches next)
    (tracked : table.Tracked housing count made record) : Touch.DropsLast (record ++ touches) := by
  refine List.pairwise_append.mpr ⟨tracked.dropsLast, change.dropsLast, ?_⟩
  rintro earlier earlier_member later later_member gone rfl same
  obtain ⟨known, lost⟩ := (tracked.dropped_iff gone).mp earlier_member
  obtain holds | number := change.holds_or_eq later_member
  · exact lost (same ▸ holds.refers)
  · have in_range := (List.getElem?_eq_some_iff.mp known).1
    rw [← same, number, tracked.copies_eq] at in_range
    exact absurd in_range (Nat.lt_irrefl _)

theorem Tracked.change (tracked : table.Tracked housing count made record)
    (change : table.Change count born touches next) :
    next.Tracked housing count (made ++ born) (record ++ touches) := by
  have dropped_iff := change.dropped_mem_append_iff tracked
  have dropsLast := change.dropsLast_append tracked
  cases change with
  | used uses =>
      rw [List.append_nil] at dropped_iff ⊢
      exact { tracked with dropped_iff, dropsLast }
  | wasted closure =>
      refine ⟨tracked.shaped.grown, ?_, tracked.known_append, tracked.apart, dropped_iff, dropsLast⟩
      rw [List.length_append]
      exact congrArg (· + 1) tracked.copies_eq
  | given slot incoming uses =>
      refine ⟨tracked.shaped.given _ slot _, ?_, tracked.held_made_given incoming,
        tracked.apart_given incoming, dropped_iff, dropsLast⟩
      rw [List.length_append, ← tracked.copies_eq]
      rfl

/-! ## Runs -/

theorem record_append (table : CallbackSlots γ α) (moves more : List (SlotMove γ α count)) :
    table.record (moves ++ more) =
      table.record moves ++ (Session.after take table moves).record more := by
  rw [record, Session.scan_append, List.flatMap_append]
  rfl

theorem record_singleton (table : CallbackSlots γ α) (move : SlotMove γ α count) :
    table.record [move] = (table.take move).1.touches := by
  rw [record, Session.scan, Session.scan, List.flatMap_singleton]

/-- Lifetimes stay in order, and there are as many copies as closures that came in or were
copied. -/
theorem exists_tracked (housing : Housing) (moves : List (SlotMove γ α count)) :
    ∃ made : List γ,
      (Session.after take (empty housing count) moves).Tracked housing count made
        ((empty housing count).record moves) ∧
      made.Perm (moves.filterMap SlotMove.closure? ++
        (Touch.clonesIn ((empty housing count).record moves)).map Callback.closure) := by
  induction moves using List.reverseRecOn with
  | nil => exact ⟨[], tracked_empty housing count, .refl _⟩
  | append_singleton moves move induction =>
      obtain ⟨made, tracked, perm⟩ := induction
      have step := tracked.shaped.step_take move
      rw [record_append, record_singleton, Session.after_append]
      refine ⟨_, tracked.change step.change, ?_⟩
      have came : [move].filterMap SlotMove.closure? = move.closure?.toList := by
        cases move <;> rfl
      rw [Touch.clonesIn_append, List.map_append, List.filterMap_append, came]
      -- Copies are numbered in the order of moves, in which creations and clones alternate.
      classical
      rw [List.perm_iff_count] at perm ⊢
      intro closure
      have counted := perm closure
      simp only [List.count_append] at counted ⊢
      omega

/-! ### The end -/

theorem Tracked.nodup_drops (tracked : table.Tracked housing count made record) :
    ((Touch.dropsIn record).map Callback.copy).Nodup := by
  rw [List.Nodup, List.pairwise_map, Touch.dropsIn, List.pairwise_filterMap]
  refine tracked.dropsLast.imp fun {earlier later} rests gone drops other drops_other same => ?_
  cases earlier with
  | dropped closure =>
      cases later with
      | dropped closure_other =>
          cases drops
          cases drops_other
          exact rests gone rfl same.symm
      | called => cases drops_other
      | cloned => cases drops_other
  | called => cases drops
  | cloned => cases drops

/-- Once no slot refers to anything, every copy has been dropped, and dropped once. -/
theorem Tracked.drops_perm (tracked : table.Tracked housing count made record)
    (lost : ∀ copy, ¬ table.Refers copy) :
    ((Touch.dropsIn record).map Callback.closure).Perm made := by
  -- Closures need not differ, so the drops are counted by the numbers of the copies.
  have copies_perm : ((Touch.dropsIn record).map Callback.copy).Perm (List.range made.length) := by
    refine (List.perm_ext_iff_of_nodup tracked.nodup_drops List.nodup_range).mpr fun copy => ?_
    rw [List.mem_map, List.mem_range]
    constructor
    · rintro ⟨gone, member, rfl⟩
      have known := ((tracked.dropped_iff gone).mp (Touch.mem_dropsIn.mp member)).1
      exact (List.getElem?_eq_some_iff.mp known).1
    · intro in_range
      refine ⟨{ closure := made[copy], copy }, Touch.mem_dropsIn.mpr ?_, rfl⟩
      exact (tracked.dropped_iff _).mpr ⟨List.getElem?_eq_getElem in_range, lost copy⟩
  have closures_eq : ((Touch.dropsIn record).map Callback.closure).map some =
      ((Touch.dropsIn record).map Callback.copy).map (made[·]?) := by
    rw [List.map_map, List.map_map]
    refine List.map_congr_left fun gone member => ?_
    exact ((tracked.dropped_iff gone).mp (Touch.mem_dropsIn.mp member)).1.symm
  have made_eq : (List.range made.length).map (made[·]?) = made.map some := by
    apply List.ext_getElem <;> simp
  rw [← List.map_perm_map_iff (fun _ _ => Option.some.inj), closures_eq, ← made_eq]
  exact copies_perm.map _

theorem Shaped.not_refers (shaped : table.Shaped housing count)
    (empty : ∀ slot : Fin count, table.get? slot = none) (copy : Nat) : ¬ table.Refers copy := by
  rintro ⟨callback, ⟨slot, held⟩, _⟩
  rw [empty ⟨slot, shaped.lt_of_get? held⟩] at held
  cases held

/-- The moves that empty every slot, first to last. -/
def dropMoves (γ α : Type) (count : Nat) : List (SlotMove γ α count) :=
  (List.finRange count).map .drop

theorem foldl_drop_eq (table : CallbackSlots γ α) (slots : List (Fin count))
    (touches : List (Touch (Callback γ) α)) :
    (slots.map Fin.val).foldl
        (fun (table, touches) slot =>
          let (next, more, _) := table.drop slot
          (next, touches ++ more))
        (table, touches) =
      (Session.after take table (slots.map (SlotMove.drop (α := α))),
        touches ++ table.record (slots.map SlotMove.drop)) := by
  induction slots generalizing table touches with
  | nil => simp [Session.after, record, Session.scan]
  | cons slot slots induction =>
      rw [List.map_cons, List.map_cons, List.foldl_cons, induction, ← List.singleton_append,
        record_append, record_singleton, List.append_assoc]
      rfl

theorem Shaped.dropEach_eq (shaped : table.Shaped housing count) :
    (table.dropEach : _ × List (Touch (Callback γ) α)) =
      (Session.after take table (dropMoves γ α count), table.record (dropMoves γ α count)) := by
  rw [dropEach, shaped.length_eq, ← List.map_coe_finRange_eq_range]
  exact foldl_drop_eq table (List.finRange count) []

theorem Shaped.get?_after_dropMoves (shaped : table.Shaped housing count) (slot : Fin count) :
    (Session.after take table (dropMoves γ α count)).get? slot = none := by
  have held :
      ((Session.after take table (dropMoves γ α count)).placement count).held slot = none := by
    rw [shaped.placement_after, dropMoves]
    exact Placement.held_after_drops housing _ _ (Or.inl (List.mem_finRange slot))
  rwa [held_placement, Option.map_eq_none_iff] at held

theorem closures_dropMoves :
    (dropMoves γ α count).filterMap SlotMove.closure? = [] := by
  rw [dropMoves, List.filterMap_map, List.filterMap_eq_nil_iff]
  exact fun _ _ => rfl

/-- Every closure has been dropped as often as there have been copies of it. -/
structure Released (housing : Housing) (moves : List (SlotMove γ α count))
    (record : List (Touch (Callback γ) α)) : Prop where
  nodup : ((Touch.dropsIn record).map Callback.copy).Nodup
  boxed : housing = .boxed →
    ((Touch.dropsIn record).map Callback.closure).Perm (moves.filterMap SlotMove.closure?)
  inline : housing ≠ .boxed →
    ((Touch.dropsIn record).map Callback.closure).Perm
      (moves.filterMap SlotMove.closure? ++ Touch.clonesIn (Placement.empty.record housing moves))

theorem released_of_empty (moves : List (SlotMove γ α count))
    (lost : ∀ slot : Fin count,
      (Session.after take (empty housing count) moves).get? slot = none) :
    Released housing moves ((empty housing count).record moves) := by
  obtain ⟨made, tracked, made_perm⟩ := exists_tracked housing moves
  have perm := (tracked.drops_perm (tracked.shaped.not_refers lost)).trans made_perm
  have shaped := shaped_empty (γ := γ) (α := α) housing count
  refine ⟨tracked.nodup_drops, ?_, fun inlined => ?_⟩
  · rintro rfl
    rwa [shaped.clonesIn_record_boxed, List.map_nil, List.append_nil] at perm
  · rwa [shaped.clonesIn_record_inline inlined, placement_empty] at perm

theorem released_whole (moves : List (SlotMove γ α count)) :
    Released housing moves
      ((empty housing count).record moves ++
        (Session.after take (empty housing count) moves).dropEach.2) := by
  have shaped := (shaped_empty (γ := γ) housing count).after moves
  rw [shaped.dropEach_eq, ← record_append]
  have released : Released housing (moves ++ dropMoves γ α count)
      ((empty housing count).record (moves ++ dropMoves γ α count)) := by
    apply released_of_empty
    rw [Session.after_append]
    exact shaped.get?_after_dropMoves
  have closures : (moves ++ dropMoves γ α count).filterMap SlotMove.closure? =
      moves.filterMap SlotMove.closure? := by
    rw [List.filterMap_append, closures_dropMoves, List.append_nil]
  have record : Placement.empty.record housing (moves ++ dropMoves γ α count) =
      Placement.empty.record housing moves := by
    rw [Placement.record_append, dropMoves, Placement.record_drops, List.append_nil]
  exact ⟨released.nodup, fun boxed => closures ▸ released.boxed boxed,
    fun inlined => closures ▸ record ▸ released.inline inlined⟩

/-! ### Failures -/

/-- A move that does not fail drops nothing but what slots hold. -/
theorem Step.holds_of_dropped {move : SlotMove γ α count} {shown : SlotShown (Callback γ) α}
    (step : table.Step move shown next) (fits : move.Fits table.housing) {gone : Callback γ}
    (member : .dropped gone ∈ shown.touches) : table.Holds gone := by
  have of_replaced : ∀ {slot next}, (.dropped gone : Touch (Callback γ) α) ∈
      table.replaced slot next → table.Holds gone := by
    intro slot next member
    obtain ⟨old, held, same⟩ := eq_dropped_of_mem_replaced member
    cases same
    exact ⟨slot, held⟩
  cases step with
  | unfit slot closure misfits => exact absurd (fits.symm.trans misfits) nofun
  | made => exact of_replaced member
  | missed => exact of_replaced member
  | shared => exact of_replaced member
  | copied =>
      obtain same | member := List.mem_cons.mp member
      · cases same
      · exact of_replaced member
  | called slot =>
      cases held : table.get? slot with
      | none => exact absurd (held ▸ member) List.not_mem_nil
      | some callback =>
          rw [held] at member
          cases List.mem_singleton.mp member
  | emptied => exact of_replaced member

/-- Whoever makes, clones, calls and drops callbacks in slots cannot tell how they are kept, as long
as every closure fits: answers and calls follow from which closure each slot was given.  A move that
does not fail drops those callbacks that a slot held before it and that none refers to after it, and
no copy of a closure is called, copied or dropped after its drop.  Once all slots are empty, be it
by moves or because the slots are dropped one after the other, a shared closure has been dropped
once, an inline one once for itself and once for each clone of it or of a copy of it.  A closure
that does not fit is dropped once, and every slot keeps what it has. -/
theorem callbacks_agree_and_end_once (count : Nat) :
    (∀ (words : Nat) (moves : List (SlotMove γ α count)),
      (∀ move ∈ moves, move.Fits (.inline words)) →
      (empty (.inline words) count).outcomes moves = (empty .boxed count).outcomes moves) ∧
    ∀ (housing : Housing) (moves : List (SlotMove γ α count)) (table : CallbackSlots γ α)
      (record whole : List (Touch (Callback γ) α)),
      table = Session.after take (empty housing count) moves →
      record = (empty housing count).record moves → whole = record ++ table.dropEach.2 →
      ((empty housing count).outcomes moves = Placement.empty.outcomes housing moves ∧
        table.placement count = Session.after (Placement.take housing) .empty moves) ∧
      (∀ move : SlotMove γ α count, move.Fits housing → ∀ gone,
        .dropped gone ∈ (table.take move).1.touches ↔
          table.Holds gone ∧ ¬ (table.take move).2.Refers gone.copy) ∧
      whole = (empty housing count).record (moves ++ dropMoves γ α count) ∧
      Touch.DropsLast whole ∧
      ((∀ slot : Fin count, table.get? slot = none) → Released housing moves record) ∧
      Released housing moves whole ∧
      ∀ (slot : Fin count) (closure : γ) (footprint : Footprint) (misfit : Misfit),
        housing.misfit? footprint = some misfit →
        (table.take (.create slot closure footprint) : SlotShown (Callback γ) α × _) =
          ({ answer := .panic misfit.message
             touches := [.dropped { closure, copy := table.copies }] },
            { table with copies := table.copies + 1 }) := by
  have follow := fun housing (moves : List (SlotMove γ α count)) =>
    placement_empty (γ := γ) housing count ▸ (shaped_empty housing count).outcomes_eq moves
  constructor
  · intro words moves fits
    rw [follow, follow, Placement.outcomes, Placement.outcomes,
      Placement.scan_congr _ fits fun move _ => move.fits_boxed]
  · rintro housing moves table record whole reached rfl rfl
    have shaped := reached ▸ (shaped_empty (γ := γ) housing count).after moves
    obtain ⟨made, tracked, _⟩ := exists_tracked housing moves
    rw [← reached] at tracked
    have whole_eq : (empty housing count).record moves ++ table.dropEach.2 =
        (empty housing count).record (moves ++ dropMoves γ α count) := by
      rw [shaped.dropEach_eq, record_append, ← reached]
    refine ⟨⟨follow housing moves, ?_⟩, ?_, whole_eq, ?_, ?_, reached ▸ released_whole moves, ?_⟩
    · rw [reached, (shaped_empty housing count).placement_after, placement_empty]
    · intro move fits gone
      have step := shaped.step_take move
      have drops : .dropped gone ∈ (table.take move).1.touches ↔ _ :=
        step.change.dropped_mem_iff tracked
      constructor
      · intro member
        exact ⟨step.holds_of_dropped (shaped.housing_eq ▸ fits) member, (drops.mp member).2⟩
      · rintro ⟨holds, lost⟩
        exact drops.mpr ⟨Or.inl holds, lost⟩
    · obtain ⟨_, tracked, _⟩ := exists_tracked housing (moves ++ dropMoves γ α count)
      rw [whole_eq]
      exact tracked.dropsLast
    · intro lost
      exact released_of_empty moves (reached ▸ lost)
    · intro slot closure footprint misfit misfits
      rw [← shaped.housing_eq] at misfits
      exact take_create_of_misfit slot closure misfits

/-- A callback is cloned into another slot, which is then given a clone of itself, and into a third
one; the first slot is given another callback and then a clone again. -/
def clonedMoves : List (SlotMove Nat Nat 3) :=
  [.create 0 7 { bytes := 8 }, .clone 1 0, .clone 1 1, .clone 2 1, .call 2 5,
    .create 0 8 { bytes := 16, align := 8 }, .drop 1, .clone 0 2, .drop 2, .call 0 6, .drop 0]

theorem cloned_callbacks_agree_and_end_once :
    (∀ move ∈ clonedMoves, move.Fits (.inline 2)) ∧
    ((empty (.inline 2) 3).outcomes clonedMoves = (empty .boxed 3).outcomes clonedMoves ∧
      (empty .boxed 3).outcomes clonedMoves =
        [(.done, []), (.flag true, []), (.flag true, []), (.flag true, []), (.flag true, [(7, 5)]),
          (.done, []), (.flag true, []), (.flag true, []), (.flag true, []), (.flag true, [(7, 6)]),
          (.flag true, [])]) ∧
    (Released .boxed clonedMoves ((empty .boxed 3).record clonedMoves) ∧
      Touch.dropsIn (((empty .boxed 3).record clonedMoves).map (Touch.map Callback.closure)) =
        [8, 7]) ∧
    (Released (.inline 2) clonedMoves ((empty (.inline 2) 3).record clonedMoves) ∧
      Touch.dropsIn
        (((empty (.inline 2) 3).record clonedMoves).map (Touch.map Callback.closure)) =
        [7, 7, 7, 8, 7, 7]) ∧
    (Session.after take (empty (.inline 2) 3) clonedMoves).take
        (.create 0 9 { bytes := 24 } : SlotMove Nat Nat 3) =
      ({ answer := .panic "closure of 24 bytes does not fit an inline slot of 16 bytes"
         touches := [.dropped { closure := 9, copy := 6 }] },
        { housing := .inline 2, slots := [none, none, none], copies := 7 }) := by
  have fits : ∀ move ∈ clonedMoves, move.Fits (.inline 2) := by
    simp only [clonedMoves, List.forall_mem_cons]
    exact ⟨rfl, trivial, trivial, trivial, trivial, rfl, trivial, trivial, trivial, trivial,
      trivial, List.forall_mem_nil _⟩
  obtain ⟨agree, each⟩ := callbacks_agree_and_end_once (γ := Nat) (α := Nat) 3
  obtain ⟨_, _, _, _, boxed, _, _⟩ := each .boxed clonedMoves _ _ _ rfl rfl rfl
  obtain ⟨_, _, _, _, inline, _, fails⟩ := each (.inline 2) clonedMoves _ _ _ rfl rfl rfl
  exact ⟨fits, ⟨agree 2 clonedMoves fits, rfl⟩, ⟨boxed (by decide), rfl⟩,
    ⟨inline (by decide), rfl⟩, fails 0 9 _ (.size 24 16) rfl⟩

end CallbackSlots

end Reactor
