import Reactor.CallbackSlots
import Reactor.Session.Scan
import Mathlib.Logic.Function.Basic

/-!
# Which closure a slot holds

Whoever makes, clones, calls and drops callbacks in slots only has to note which closure each slot
holds: answers and calls follow from that.  So callbacks that are shared and callbacks that are kept
inline answer and call alike, as long as every closure fits.
-/

namespace Reactor

/-! ## Records of touches -/

namespace Touch

variable {γ δ α : Type}

/-- What a touch is about. -/
def subject : Touch γ α → γ
  | called closure _ => closure
  | cloned closure => closure
  | dropped closure => closure

/-- The call, if it is one. -/
def called? : Touch γ α → Option (γ × α)
  | called closure argument => some (closure, argument)
  | _ => none

/-- The closure that is copied, if one is. -/
def cloned? : Touch γ α → Option γ
  | cloned closure => some closure
  | _ => none

/-- The closure that is dropped, if one is. -/
def dropped? : Touch γ α → Option γ
  | dropped closure => some closure
  | _ => none

/-- The calls, in order. -/
def callsIn (touches : List (Touch γ α)) : List (γ × α) := touches.filterMap called?

/-- What is copied, in order. -/
def clonesIn (touches : List (Touch γ α)) : List γ := touches.filterMap cloned?

/-- What is dropped, in order. -/
def dropsIn (touches : List (Touch γ α)) : List γ := touches.filterMap dropped?

theorem clonesIn_append (touches more : List (Touch γ α)) :
    clonesIn (touches ++ more) = clonesIn touches ++ clonesIn more := List.filterMap_append

theorem mem_dropsIn {touches : List (Touch γ α)} {gone : γ} :
    gone ∈ dropsIn touches ↔ dropped gone ∈ touches := by
  rw [dropsIn, List.mem_filterMap]
  constructor
  · rintro ⟨touch, member, drops⟩
    cases touch with
    | dropped closure =>
        obtain rfl := Option.some.inj drops
        exact member
    | called closure argument => cases drops
    | cloned closure => cases drops
  · exact fun member => ⟨_, member, rfl⟩

end Touch

/-! ## Moves -/

/-- What is done with callbacks in `count` slots. -/
inductive SlotMove (γ α : Type) (count : Nat) where
  /-- A callback is made from a closure and put into a slot. -/
  | create (slot : Fin count) (closure : γ) (footprint : Footprint)
  /-- The callback of one slot is cloned into another. -/
  | clone (slot source : Fin count)
  /-- The callback in a slot is called. -/
  | call (slot : Fin count) (argument : α)
  /-- A slot is emptied. -/
  | drop (slot : Fin count)

namespace SlotMove

variable {γ α : Type} {count : Nat}

/-- The closure that a move brings along. -/
def closure? : SlotMove γ α count → Option γ
  | create _ closure _ => some closure
  | _ => none

/-- Whether the closure of a move, if it brings one, can be kept. -/
def Fits (housing : Housing) : SlotMove γ α count → Prop
  | create _ _ footprint => housing.misfit? footprint = none
  | _ => True

theorem fits_boxed (move : SlotMove γ α count) : move.Fits .boxed := by
  cases move <;> trivial

end SlotMove

/-- What a move answers. -/
inductive SlotAnswer where
  /-- A callback has been made. -/
  | done
  /-- Whether there was a callback. -/
  | flag (value : Bool)
  /-- The move has panicked. -/
  | panic (message : String)
deriving DecidableEq

/-- What a move shows. -/
structure SlotShown (γ α : Type) where
  answer : SlotAnswer
  touches : List (Touch γ α) := []

/-- What a caller can tell of a move: the answer, and the calls that reach closures. -/
def SlotShown.outcome {γ δ α : Type} (see : γ → δ) (shown : SlotShown γ α) :
    SlotAnswer × List (δ × α) :=
  (shown.answer, Touch.callsIn (shown.touches.map (Touch.map see)))

/-! ## Moves on slots -/

namespace CallbackSlots

variable {γ α : Type} {count : Nat} {table : CallbackSlots γ α} {housing : Housing}

/-- Makes a move. -/
def take (table : CallbackSlots γ α) :
    SlotMove γ α count → SlotShown (Callback γ) α × CallbackSlots γ α
  | .create slot closure footprint =>
      let (next, touches, misfit) := table.create slot closure footprint
      match misfit with
      | some misfit => ({ answer := .panic misfit.message, touches }, next)
      | none => ({ answer := .done, touches }, next)
  | .clone slot source =>
      let (next, touches, filled) := table.clone slot source
      ({ answer := .flag filled, touches }, next)
  | .call slot argument =>
      let (touches, filled) := table.call slot argument
      ({ answer := .flag filled, touches }, table)
  | .drop slot =>
      let (next, touches, filled) := table.drop slot
      ({ answer := .flag filled, touches }, next)

/-- The slots with another callback, or nothing, in one of them. -/
def withSlot (table : CallbackSlots γ α) (slot : Nat) (closure : Option (Callback γ)) :
    CallbackSlots γ α :=
  { table with slots := table.slots.set slot (closure.map (.ofClosure table.housing)) }

/-- What becomes of the callback in a slot that is given something else. -/
def replaced (table : CallbackSlots γ α) (slot : Nat) (next : CallbackSlots γ α) :
    List (Touch (Callback γ) α) :=
  (table.get? slot).elim [] fun old => next.letGo (.ofClosure table.housing old)

/-- The callback that is made next from a closure. -/
def fresh (table : CallbackSlots γ α) (closure : γ) : Callback γ := (table.number closure).1

/-- The slots after another callback has been made and put into one of them. -/
def placed (table : CallbackSlots γ α) (slot : Nat) (closure : γ) : CallbackSlots γ α :=
  table.grown.withSlot slot (some (table.fresh closure))

/-! ### Slots of a given number and kind -/

/-- There are `count` slots for callbacks that are kept in a given way, each of which calls, clones
and drops the closure that it has. -/
structure Shaped (housing : Housing) (count : Nat) (table : CallbackSlots γ α) : Prop where
  housing_eq : table.housing = housing
  length_eq : table.slots.length = count
  kept_eq : ∀ {callback}, some callback ∈ table.slots →
    callback = .ofClosure housing callback.closure

theorem shaped_empty (housing : Housing) (count : Nat) :
    (empty housing count : CallbackSlots γ α).Shaped housing count where
  housing_eq := rfl
  length_eq := List.length_replicate
  kept_eq := fun member => absurd (List.eq_of_mem_replicate member) nofun

theorem Shaped.grown (shaped : table.Shaped housing count) : table.grown.Shaped housing count :=
  ⟨shaped.housing_eq, shaped.length_eq, shaped.kept_eq⟩

theorem Shaped.withSlot (shaped : table.Shaped housing count) (slot : Nat)
    (closure : Option (Callback γ)) : (table.withSlot slot closure).Shaped housing count where
  housing_eq := shaped.housing_eq
  length_eq := List.length_set.trans shaped.length_eq
  kept_eq := fun {callback} member => by
    obtain before | here := List.mem_or_eq_of_mem_set member
    · exact shaped.kept_eq before
    · obtain ⟨given, _, rfl⟩ := Option.map_eq_some_iff.mp here.symm
      rw [KeptCallback.closure_ofClosure, shaped.housing_eq]

theorem Shaped.placed (shaped : table.Shaped housing count) (slot : Nat) (closure : γ) :
    (table.placed slot closure).Shaped housing count :=
  shaped.grown.withSlot slot _

/-- A callback is what its closure would be made into. -/
theorem Shaped.kept?_eq (shaped : table.Shaped housing count) (slot : Nat) :
    table.kept? slot = (table.get? slot).map (.ofClosure table.housing) := by
  rw [get?, Option.map_map]
  cases kept : table.kept? slot with
  | none => rfl
  | some callback =>
      have member := List.mem_of_getElem? (Option.join_eq_some_iff.mp kept)
      rw [Option.map_some, Function.comp_apply, shaped.housing_eq, ← shaped.kept_eq member]

theorem get?_empty (housing : Housing) (count slot : Nat) :
    (empty housing count : CallbackSlots γ α).get? slot = none := by
  rw [get?, kept?, empty, List.getElem?_replicate]
  split <;> rfl

theorem Shaped.get?_withSlot (shaped : table.Shaped housing count) (slot : Fin count)
    (closure : Option (Callback γ)) (other : Nat) :
    (table.withSlot slot closure).get? other =
      if other = slot then closure else table.get? other := by
  have in_range : (slot : Nat) < table.slots.length := shaped.length_eq ▸ slot.isLt
  rw [get?, kept?, CallbackSlots.withSlot, List.getElem?_set, if_pos in_range]
  split
  · next same =>
    rw [Option.join_some, if_pos same.symm]
    cases closure with
    | none => rfl
    | some closure => exact congrArg some (KeptCallback.closure_ofClosure _ _)
  · next different =>
    rw [if_neg (Ne.symm different), get?, kept?]

theorem Shaped.lt_of_get? (shaped : table.Shaped housing count) {slot : Nat}
    {callback : Callback γ} (held : table.get? slot = some callback) : slot < count := by
  by_contra beyond
  rw [get?, kept?, List.getElem?_eq_none (shaped.length_eq ▸ Nat.le_of_not_lt beyond)] at held
  cases held

theorem Shaped.put_eq (shaped : table.Shaped housing count) (slot : Nat)
    (closure : Option (Callback γ)) :
    table.put slot (closure.map (.ofClosure table.housing)) =
      (table.withSlot slot closure, table.replaced slot (table.withSlot slot closure)) := by
  rw [put, replaced, shaped.kept?_eq]
  cases table.get? slot <;> rfl

/-! ### What moves do -/

/-- All that a move can do. -/
inductive Step (table : CallbackSlots γ α) :
    SlotMove γ α count → SlotShown (Callback γ) α → CallbackSlots γ α → Prop where
  /-- A closure does not fit. -/
  | unfit (slot : Fin count) (closure : γ) {footprint : Footprint} {misfit : Misfit}
      (misfits : table.housing.misfit? footprint = some misfit) :
      Step table (.create slot closure footprint)
        { answer := .panic misfit.message, touches := [.dropped (table.fresh closure)] } table.grown
  /-- A callback is made from a closure. -/
  | made (slot : Fin count) (closure : γ) {footprint : Footprint}
      (fits : table.housing.misfit? footprint = none) :
      Step table (.create slot closure footprint)
        { answer := .done, touches := table.replaced slot (table.placed slot closure) }
        (table.placed slot closure)
  /-- There is nothing to clone. -/
  | missed (slot : Fin count) {source : Fin count} (empty : table.get? source = none) :
      Step table (.clone slot source)
        { answer := .flag false, touches := table.replaced slot (table.withSlot slot none) }
        (table.withSlot slot none)
  /-- Another slot refers to a closure. -/
  | shared (slot : Fin count) {source : Fin count} {callback : Callback γ}
      (held : table.get? source = some callback) (boxed : table.housing = .boxed) :
      Step table (.clone slot source)
        { answer := .flag true
          touches := table.replaced slot (table.withSlot slot (some callback)) }
        (table.withSlot slot (some callback))
  /-- A closure is copied. -/
  | copied (slot : Fin count) {source : Fin count} {callback : Callback γ}
      (held : table.get? source = some callback) (inlined : table.housing ≠ .boxed) :
      Step table (.clone slot source)
        { answer := .flag true
          touches := .cloned callback :: table.replaced slot (table.placed slot callback.closure) }
        (table.placed slot callback.closure)
  /-- A closure is called, if there is one. -/
  | called (slot : Fin count) (argument : α) :
      Step table (.call slot argument)
        { answer := .flag (table.get? slot).isSome
          touches := (table.get? slot).elim [] fun callback => [.called callback argument] }
        table
  /-- A slot is emptied. -/
  | emptied (slot : Fin count) :
      Step table (.drop slot)
        { answer := .flag (table.get? slot).isSome
          touches := table.replaced slot (table.withSlot slot none) }
        (table.withSlot slot none)

/-- Making a callback from a closure that does not fit drops the closure, and every slot keeps what
it has. -/
theorem take_create_of_misfit (slot : Fin count) (closure : γ) {footprint : Footprint}
    {misfit : Misfit} (misfits : table.housing.misfit? footprint = some misfit) :
    (table.take (.create slot closure footprint) : SlotShown (Callback γ) α × _) =
      ({ answer := .panic misfit.message, touches := [.dropped (table.fresh closure)] },
        table.grown) := by
  simp only [take, create, misfits]
  rfl

theorem Shaped.step_create (shaped : table.Shaped housing count) (slot : Fin count) (closure : γ)
    (footprint : Footprint) :
    table.Step (.create slot closure footprint : SlotMove γ α count)
      (table.take (.create slot closure footprint)).1
      (table.take (.create slot closure footprint : SlotMove γ α count)).2 := by
  cases misfit : table.housing.misfit? footprint with
  | some misfits =>
      rw [take_create_of_misfit slot closure misfit]
      exact .unfit slot closure misfit
  | none =>
      have placed := shaped.grown.put_eq slot (some (table.fresh closure))
      simp only [take, create, misfit]
      exact placed ▸ .made slot closure misfit

theorem Shaped.step_clone (shaped : table.Shaped housing count) (slot source : Fin count) :
    table.Step (.clone slot source : SlotMove γ α count) (table.take (.clone slot source)).1
      (table.take (.clone slot source : SlotMove γ α count)).2 := by
  cases held : table.get? source with
  | none =>
      have kept : table.kept? source = none := by
        rw [shaped.kept?_eq, held]
        rfl
      have emptied := shaped.put_eq slot none
      simp only [take, clone, kept]
      exact emptied ▸ .missed slot held
  | some callback =>
      cases made : table.housing with
      | boxed =>
          have kept : table.kept? source = some (.shared callback) := by
            rw [shaped.kept?_eq, held, made]
            rfl
          have referred := shaped.put_eq slot (some callback)
          rw [made, Option.map_some, KeptCallback.ofClosure] at referred
          simp only [take, clone, kept, referred]
          exact .shared slot held made
      | inline words =>
          have kept : table.kept? source = some (.inline (.ofClosure callback)) := by
            rw [shaped.kept?_eq, held, made]
            rfl
          -- The clone has the words of its own copy and the functions of the original.
          have copied : (InlineCallback.ofClosure (α := α) callback).clone table.copies =
              (.ofClosure (table.fresh callback.closure), [.cloned callback]) := rfl
          have placed := shaped.grown.put_eq slot (some (table.fresh callback.closure))
          rw [show table.grown.housing = .inline words from made, Option.map_some,
            KeptCallback.ofClosure] at placed
          simp only [take, clone, kept, copied, placed]
          exact .copied slot held (made ▸ nofun)

theorem Shaped.step_take (shaped : table.Shaped housing count) (move : SlotMove γ α count) :
    table.Step move (table.take move).1 (table.take move).2 := by
  cases move with
  | create slot closure footprint => exact shaped.step_create slot closure footprint
  | clone slot source => exact shaped.step_clone slot source
  | call slot argument =>
      have step : table.Step (.call slot argument) _ _ := .called slot argument
      have kept := shaped.kept?_eq slot
      cases held : table.get? slot with
      | none =>
          rw [held] at kept step
          simp only [take, call, kept]
          exact step
      | some callback =>
          rw [held] at kept step
          simp only [take, call, kept, Option.map_some, KeptCallback.call_ofClosure]
          exact step
  | drop slot =>
      have emptied := shaped.put_eq slot none
      have filled : (table.kept? slot).isSome = (table.get? slot).isSome := Option.isSome_map.symm
      simp only [take, drop, filled]
      exact emptied ▸ .emptied slot

/-- Whatever a caller does, there are as many slots of the same kind. -/
theorem Step.shaped {move : SlotMove γ α count} {shown : SlotShown (Callback γ) α}
    {next : CallbackSlots γ α} (step : table.Step move shown next)
    (shaped : table.Shaped housing count) : next.Shaped housing count := by
  cases step with
  | unfit => exact shaped.grown
  | made slot closure => exact shaped.placed slot closure
  | missed slot => exact shaped.withSlot slot none
  | shared slot => exact shaped.withSlot slot _
  | copied slot => exact shaped.placed slot _
  | called => exact shaped
  | emptied slot => exact shaped.withSlot slot none

end CallbackSlots

/-! ## Placements -/

/-- Which closure each slot holds. -/
@[ext]
structure Placement (γ : Type) (count : Nat) where
  /-- The closure in a slot. -/
  held : Fin count → Option γ

namespace Placement

variable {γ α : Type} {count : Nat}

/-- No slot holds anything. -/
def empty : Placement γ count := ⟨fun _ => none⟩

/-- Gives a slot a closure, or nothing. -/
def give (placement : Placement γ count) (slot : Fin count) (closure : Option γ) :
    Placement γ count :=
  ⟨Function.update placement.held slot closure⟩

theorem held_give_self (placement : Placement γ count) (slot : Fin count) (closure : Option γ) :
    (placement.give slot closure).held slot = closure := by
  simp only [give, Function.update_self]

theorem held_give_of_ne (placement : Placement γ count) {slot other : Fin count}
    (closure : Option γ) (different : other ≠ slot) :
    (placement.give slot closure).held other = placement.held other := by
  simp only [give, Function.update_of_ne different]

/-- What a move shows to whoever only knows which closure each slot holds, and which closure each
slot holds after it.  Nothing is said about drops. -/
def take (housing : Housing) (placement : Placement γ count) :
    SlotMove γ α count → SlotShown γ α × Placement γ count
  | .create slot closure footprint =>
      match housing.misfit? footprint with
      | some misfit => ({ answer := .panic misfit.message }, placement)
      | none => ({ answer := .done }, placement.give slot (some closure))
  | .clone slot source =>
      ({ answer := .flag (placement.held source).isSome
         touches := (placement.held source).elim [] fun closure => [.cloned closure] },
        placement.give slot (placement.held source))
  | .call slot argument =>
      ({ answer := .flag (placement.held slot).isSome
         touches := (placement.held slot).elim [] fun closure => [.called closure argument] },
        placement)
  | .drop slot =>
      ({ answer := .flag (placement.held slot).isSome }, placement.give slot none)

/-- What a caller can tell of moves. -/
def outcomes (housing : Housing) (placement : Placement γ count)
    (moves : List (SlotMove γ α count)) : List (SlotAnswer × List (γ × α)) :=
  (Session.scan (take housing) placement moves).map fun turn => turn.1.outcome id

/-- The calls and clones of moves. -/
def record (housing : Housing) (placement : Placement γ count)
    (moves : List (SlotMove γ α count)) : List (Touch γ α) :=
  (Session.scan (take housing) placement moves).flatMap fun turn => turn.1.touches

/-- If a closure fits in either way, a move shows the same. -/
theorem take_congr {housing other : Housing} (placement : Placement γ count)
    {move : SlotMove γ α count} (fits : move.Fits housing) (fits_other : move.Fits other) :
    placement.take housing move = placement.take other move := by
  cases move with
  | create slot closure footprint =>
      have misfit : housing.misfit? footprint = none := fits
      have misfit_other : other.misfit? footprint = none := fits_other
      rw [take, take, misfit, misfit_other]
  | clone slot source => rfl
  | call slot argument => rfl
  | drop slot => rfl

theorem scan_congr {housing other : Housing} (placement : Placement γ count)
    {moves : List (SlotMove γ α count)} (fits : ∀ move ∈ moves, move.Fits housing)
    (fits_other : ∀ move ∈ moves, move.Fits other) :
    Session.scan (take housing) placement moves = Session.scan (take other) placement moves := by
  induction moves generalizing placement with
  | nil => rfl
  | cons move moves induction =>
      rw [List.forall_mem_cons] at fits fits_other
      rw [Session.scan, Session.scan, take_congr placement fits.1 fits_other.1,
        induction _ fits.2 fits_other.2]

/-- A slot is empty after drops if one of them was of that slot or it was empty before. -/
theorem held_after_drops (housing : Housing) (placement : Placement γ count)
    (slots : List (Fin count)) {slot : Fin count}
    (dropped : slot ∈ slots ∨ placement.held slot = none) :
    (Session.after (take housing) placement (slots.map (SlotMove.drop (α := α)))).held slot =
      none := by
  induction slots generalizing placement with
  | nil => exact dropped.resolve_left List.not_mem_nil
  | cons first slots induction =>
      apply induction
      by_cases now : slot = first
      · rw [now]
        exact Or.inr (placement.held_give_self first none)
      · have unchanged := placement.held_give_of_ne none now
        exact dropped.imp (fun member => (List.mem_cons.mp member).resolve_left now) unchanged.trans

theorem record_append (housing : Housing) (placement : Placement γ count)
    (moves more : List (SlotMove γ α count)) :
    placement.record housing (moves ++ more) =
      placement.record housing moves ++
        (Session.after (take housing) placement moves).record housing more := by
  rw [record, Session.scan_append, List.flatMap_append]
  rfl

theorem record_drops (housing : Housing) (placement : Placement γ count)
    (slots : List (Fin count)) :
    placement.record housing (slots.map (SlotMove.drop (α := α))) = [] := by
  induction slots generalizing placement with
  | nil => rfl
  | cons slot slots induction => exact induction _

end Placement

/-! ## What slots show -/

namespace CallbackSlots

variable {γ α : Type} {count : Nat} {table : CallbackSlots γ α} {housing : Housing}

/-- What a caller can tell of moves. -/
def outcomes (table : CallbackSlots γ α) (moves : List (SlotMove γ α count)) :
    List (SlotAnswer × List (γ × α)) :=
  (Session.scan take table moves).map fun turn => turn.1.outcome Callback.closure

/-- What happens to callbacks in moves. -/
def record (table : CallbackSlots γ α) (moves : List (SlotMove γ α count)) :
    List (Touch (Callback γ) α) :=
  (Session.scan take table moves).flatMap fun turn => turn.1.touches

/-- Which closure each slot holds. -/
def placement (count : Nat) (table : CallbackSlots γ α) : Placement γ count :=
  ⟨fun slot => (table.get? slot).map Callback.closure⟩

theorem held_placement (table : CallbackSlots γ α) (slot : Fin count) :
    (table.placement count).held slot = (table.get? slot).map Callback.closure := rfl

theorem placement_empty (housing : Housing) (count : Nat) :
    (empty housing count : CallbackSlots γ α).placement count = .empty := by
  ext slot : 2
  simp only [placement, get?_empty]
  rfl

theorem Shaped.placement_withSlot (shaped : table.Shaped housing count) (slot : Fin count)
    (callback : Option (Callback γ)) :
    (table.withSlot slot callback).placement count =
      (table.placement count).give slot (callback.map Callback.closure) := by
  ext other : 2
  simp only [placement, Placement.give, shaped.get?_withSlot, Function.update_apply, Fin.ext_iff]
  split <;> rfl

theorem Shaped.placement_placed (shaped : table.Shaped housing count) (slot : Fin count)
    (closure : γ) :
    (table.placed slot closure).placement count =
      (table.placement count).give slot (some closure) :=
  shaped.grown.placement_withSlot slot _

/-- Nothing but a drop ever comes of a callback that is replaced. -/
theorem eq_dropped_of_mem_replaced {slot : Nat} {next : CallbackSlots γ α}
    {touch : Touch (Callback γ) α} (member : touch ∈ table.replaced slot next) :
    ∃ gone, table.get? slot = some gone ∧ touch = .dropped gone := by
  rw [replaced] at member
  cases held : table.get? slot with
  | none =>
      rw [held] at member
      cases member
  | some old =>
      rw [held, Option.elim_some] at member
      refine ⟨old, rfl, ?_⟩
      obtain none | some := next.letGo_cases table.housing old
      · rw [none] at member
        cases member
      · rw [some] at member
        exact List.mem_singleton.mp member

theorem callsIn_replaced (slot : Nat) (next : CallbackSlots γ α) :
    Touch.callsIn ((table.replaced slot next : List (Touch (Callback γ) α)).map
      (Touch.map Callback.closure)) = [] := by
  rw [Touch.callsIn, List.filterMap_map, List.filterMap_eq_nil_iff]
  intro touch member
  obtain ⟨gone, _, rfl⟩ := eq_dropped_of_mem_replaced member
  rfl

theorem clonesIn_replaced (slot : Nat) (next : CallbackSlots γ α) :
    Touch.clonesIn (table.replaced slot next : List (Touch (Callback γ) α)) = [] := by
  rw [Touch.clonesIn, List.filterMap_eq_nil_iff]
  intro touch member
  obtain ⟨gone, _, rfl⟩ := eq_dropped_of_mem_replaced member
  rfl

/-- What a move shows is what it shows to whoever only knows which closure each slot holds; a clone
copies its closure only if callbacks are kept inline. -/
structure Reflects (housing : Housing) (shown : SlotShown (Callback γ) α)
    (expected : SlotShown γ α) : Prop where
  outcome_eq : shown.outcome Callback.closure = expected.outcome id
  clones_boxed : housing = .boxed → Touch.clonesIn shown.touches = []
  clones_inline : housing ≠ .boxed →
    (Touch.clonesIn shown.touches).map Callback.closure = Touch.clonesIn expected.touches

theorem reflects_replaced (housing : Housing) (answer : SlotAnswer) (slot : Nat)
    (next : CallbackSlots γ α) :
    Reflects housing { answer, touches := table.replaced slot next }
      ({ answer } : SlotShown γ α) where
  outcome_eq := by
    rw [SlotShown.outcome, callsIn_replaced]
    rfl
  clones_boxed := fun _ => clonesIn_replaced slot next
  clones_inline := fun _ => by
    rw [clonesIn_replaced]
    rfl

variable {move : SlotMove γ α count} {shown : SlotShown (Callback γ) α} {next : CallbackSlots γ α}

theorem Step.placement_eq (step : table.Step move shown next)
    (shaped : table.Shaped housing count) :
    next.placement count = ((table.placement count).take housing move).2 := by
  obtain rfl := shaped.housing_eq
  cases step with
  | unfit slot closure misfits =>
      rw [Placement.take, misfits]
      rfl
  | made slot closure fits =>
      rw [Placement.take, fits]
      exact shaped.placement_placed slot closure
  | missed slot empty =>
      rw [shaped.placement_withSlot, Placement.take, held_placement, empty]
  | shared slot held boxed =>
      rw [shaped.placement_withSlot, Placement.take, held_placement, held]
  | copied slot held inlined =>
      rw [shaped.placement_placed, Placement.take, held_placement, held]
      rfl
  | called slot argument => rfl
  | emptied slot => exact shaped.placement_withSlot slot none

theorem Step.reflects (step : table.Step move shown next) (shaped : table.Shaped housing count) :
    Reflects housing shown ((table.placement count).take housing move).1 := by
  obtain rfl := shaped.housing_eq
  cases step with
  | unfit slot closure misfits =>
      rw [Placement.take, misfits]
      exact ⟨rfl, fun _ => rfl, fun _ => rfl⟩
  | made slot closure fits =>
      rw [Placement.take, fits]
      exact reflects_replaced _ _ slot _
  | missed slot empty =>
      rw [Placement.take, held_placement, empty]
      exact reflects_replaced _ _ slot _
  | shared slot held boxed =>
      rw [Placement.take, held_placement, held]
      exact
        { outcome_eq := (reflects_replaced table.housing (.flag true) slot _).outcome_eq
          clones_boxed := fun _ => clonesIn_replaced slot _
          clones_inline := fun inlined => absurd boxed inlined }
  | @copied slot source callback held inlined =>
      rw [Placement.take, held_placement, held]
      refine ⟨?_, fun boxed => absurd boxed inlined, fun _ => ?_⟩
      · exact (reflects_replaced table.housing (.flag true) slot _).outcome_eq
      · exact congrArg (callback.closure :: ·.map Callback.closure) (clonesIn_replaced slot _)
  | called slot argument =>
      rw [Placement.take, held_placement]
      cases table.get? slot <;> exact ⟨rfl, fun _ => rfl, fun _ => rfl⟩
  | emptied slot =>
      rw [Placement.take, held_placement, Option.isSome_map]
      exact reflects_replaced _ _ slot _

/-! ## Runs -/

theorem Shaped.after (shaped : table.Shaped housing count) (moves : List (SlotMove γ α count)) :
    (Session.after take table moves).Shaped housing count := by
  induction moves generalizing table with
  | nil => exact shaped
  | cons move moves induction => exact induction ((shaped.step_take move).shaped shaped)

theorem Shaped.placement_after (shaped : table.Shaped housing count)
    (moves : List (SlotMove γ α count)) :
    (Session.after take table moves).placement count =
      Session.after (Placement.take housing) (table.placement count) moves := by
  induction moves generalizing table with
  | nil => rfl
  | cons move moves induction =>
      have step := shaped.step_take move
      rw [Session.after, List.foldl_cons, ← Session.after, induction (step.shaped shaped),
        step.placement_eq shaped]
      rfl

/-- Answers and calls follow from which closure each slot holds. -/
theorem Shaped.outcomes_eq (shaped : table.Shaped housing count)
    (moves : List (SlotMove γ α count)) :
    table.outcomes moves = (table.placement count).outcomes housing moves := by
  induction moves generalizing table with
  | nil => rfl
  | cons move moves induction =>
      have step := shaped.step_take move
      have rest := induction (step.shaped shaped)
      rw [step.placement_eq shaped] at rest
      rw [outcomes, Placement.outcomes, Session.scan, Session.scan, List.map_cons, List.map_cons,
        (step.reflects shaped).outcome_eq]
      exact congrArg _ rest

theorem Shaped.clonesIn_record_boxed (shaped : table.Shaped .boxed count)
    (moves : List (SlotMove γ α count)) : Touch.clonesIn (table.record moves) = [] := by
  induction moves generalizing table with
  | nil => rfl
  | cons move moves induction =>
      have step := shaped.step_take move
      rw [record, Session.scan, List.flatMap_cons, Touch.clonesIn_append,
        (step.reflects shaped).clones_boxed rfl, List.nil_append]
      exact induction (step.shaped shaped)

theorem Shaped.clonesIn_record_inline (shaped : table.Shaped housing count)
    (inlined : housing ≠ .boxed) (moves : List (SlotMove γ α count)) :
    (Touch.clonesIn (table.record moves)).map Callback.closure =
      Touch.clonesIn ((table.placement count).record housing moves) := by
  induction moves generalizing table with
  | nil => rfl
  | cons move moves induction =>
      have step := shaped.step_take move
      have rest := induction (step.shaped shaped)
      rw [step.placement_eq shaped] at rest
      rw [record, Placement.record, Session.scan, Session.scan, List.flatMap_cons,
        List.flatMap_cons, Touch.clonesIn_append, Touch.clonesIn_append, List.map_append,
        (step.reflects shaped).clones_inline inlined]
      exact congrArg _ rest

end CallbackSlots

end Reactor
