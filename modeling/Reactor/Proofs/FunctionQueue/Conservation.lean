import Reactor.Proofs.FunctionQueue.Calls
import Reactor.Session.Scan
import Mathlib.Data.List.Induction
import Mathlib.Data.List.Perm.Basic

/-!
# What becomes of closures

Whoever has a function queue pushes closures to it, takes operations out of it, runs them, drops
them and offers them again.  A ledger notes what was accepted, what left the queue and what happened
to closures.  Every closure is in the queue, in hand or dropped, so in the end each is dropped once;
a run is followed at once by the drop of what has run; and operations leave the queue in the order
in which they were accepted.  None of this depends on how operations are kept.
-/

namespace Reactor

/-! ## Records of runs and drops -/

namespace Life

variable {ω : Type} {lives more : List (Life ω)}

/-- The closure that runs. -/
def ran? : Life ω → Option ω
  | ran operation => some operation
  | dropped _ => none

/-- The closure that is dropped. -/
def dropped? : Life ω → Option ω
  | ran _ => none
  | dropped operation => some operation

/-- The closures that run, in order. -/
def ranIn (lives : List (Life ω)) : List ω := lives.filterMap ran?

/-- The closures that are dropped, in order. -/
def droppedIn (lives : List (Life ω)) : List ω := lives.filterMap dropped?

theorem droppedIn_append : droppedIn (lives ++ more) = droppedIn lives ++ droppedIn more :=
  List.filterMap_append

theorem droppedIn_dropped (operation : ω) : droppedIn [dropped operation] = [operation] := rfl

theorem droppedIn_map_dropped (operations : List ω) :
    droppedIn (operations.map dropped) = operations := by
  rw [droppedIn, List.filterMap_map]
  exact List.filterMap_some

/-- A record in which every run is followed at once by the drop of what has run. -/
inductive UsesUp : List (Life ω) → Prop where
  /-- Nothing happens. -/
  | quiet : UsesUp []
  /-- An operation is dropped without having run. -/
  | dropped (operation : ω) {lives : List (Life ω)} (rest : UsesUp lives) :
      UsesUp (.dropped operation :: lives)
  /-- An operation runs and is dropped. -/
  | ran (operation : ω) {lives : List (Life ω)} (rest : UsesUp lives) :
      UsesUp (.ran operation :: .dropped operation :: lives)

theorem UsesUp.append (first : UsesUp lives) (second : UsesUp more) : UsesUp (lives ++ more) := by
  induction first with
  | quiet => exact second
  | dropped operation _ induction => exact .dropped operation induction
  | ran operation _ induction => exact .ran operation induction

theorem usesUp_map_dropped (operations : List ω) : UsesUp (operations.map dropped) := by
  induction operations with
  | nil => exact .quiet
  | cons operation operations induction => exact .dropped operation induction

/-- What runs is among what is dropped, in the same order. -/
theorem UsesUp.ranIn_sublist (usesUp : UsesUp lives) : (ranIn lives).Sublist (droppedIn lives) := by
  induction usesUp with
  | quiet => exact .slnil
  | dropped operation _ induction => exact induction.cons operation
  | ran operation _ induction => exact induction.cons_cons operation

end Life

/-! ## Whoever has a queue -/

/-- What is done with a function queue and with the operations in hand. -/
inductive FunctionMove (ω : Type) where
  /-- A closure is pushed; if there is no room, that panics. -/
  | push (closure : ω) (footprint : Footprint)
  /-- A closure is pushed. -/
  | tryPush (closure : ω) (footprint : Footprint)
  /-- An operation is made from a closure and offered to the queue. -/
  | tryPushOperation (closure : ω) (footprint : Footprint)
  /-- An operation is made from a closure and kept in hand. -/
  | make (closure : ω) (footprint : Footprint)
  /-- An operation in hand is offered to the queue. -/
  | offer (place : Nat)
  /-- The oldest operation is taken in hand. -/
  | pop
  /-- The oldest operation is taken and dropped. -/
  | popDrop
  /-- An operation in hand runs. -/
  | run (place : Nat)
  /-- An operation in hand is dropped. -/
  | discard (place : Nat)
  /-- The oldest operation is taken and runs. -/
  | runOne
  /-- Whatever waits is dropped. -/
  | clear

/-- The closure that a move turns into an operation. -/
def FunctionMove.closure? {ω : Type} : FunctionMove ω → Option ω
  | .push closure _ | .tryPush closure _ | .tryPushOperation closure _ | .make closure _ =>
      some closure
  | _ => none

/-- Whether the closure of a move, if it has one, can be kept. -/
def FunctionMove.Fits {ω : Type} (housing : Housing) : FunctionMove ω → Prop
  | .push _ footprint | .tryPush _ footprint | .tryPushOperation _ footprint
  | .make _ footprint => housing.misfit? footprint = none
  | _ => True

/-- What a move answers. -/
inductive FunctionAnswer where
  /-- The queue has accepted an operation. -/
  | accepted
  /-- An operation is in hand, because it was not offered or has been handed back. -/
  | inHand
  /-- There is no room. -/
  | full (error : CapacityError)
  /-- Whether there was something to do. -/
  | flag (value : Bool)
  /-- The move has panicked. -/
  | panic (message : String)
deriving DecidableEq

/-- What an answer is taken for, unless there was a panic. -/
def FunctionAnswer.of {α : Type} (reply : α → FunctionAnswer) : Except String α → FunctionAnswer
  | .ok value => reply value
  | .error message => panic message

/-- A function queue, the operations in hand and what has become of closures. -/
structure FunctionLedger (ω : Type) where
  functions : FunctionQueue ω
  hand : List ω := []
  /-- The operations that the queue has accepted, in order. -/
  accepted : List ω := []
  /-- The operations that have left the queue, in order. -/
  left : List ω := []
  /-- The runs and drops so far. -/
  lives : List (Life ω) := []

namespace FunctionLedger

variable {ω : Type}

/-- The ledger of a new queue. -/
def opened (housing : Housing) (capacity : Capacity) : FunctionLedger ω :=
  { functions := .empty housing capacity }

/-- Takes over what a call of the queue leaves. -/
def settle {α : Type} (ledger : FunctionLedger ω) (turn : Turn ω α) : FunctionLedger ω :=
  { ledger with functions := turn.queue, lives := ledger.lives ++ turn.lives }

/-- A closure has been handed to the queue; where it is depends on the answer. -/
def enter {α : Type} (ledger : FunctionLedger ω) (closure : ω) (turn : Turn ω α)
    (reply : α → FunctionAnswer) : FunctionAnswer × FunctionLedger ω :=
  let settled := ledger.settle turn
  match FunctionAnswer.of reply turn.answer with
  | .accepted => (.accepted, { settled with accepted := ledger.accepted ++ [closure] })
  | .inHand => (.inHand, { settled with hand := ledger.hand ++ [closure] })
  | answer => (answer, settled)

/-- Some operations have left the queue. -/
def leave {α : Type} (ledger : FunctionLedger ω) (gone : List ω) (turn : Turn ω α)
    (reply : α → FunctionAnswer) : FunctionAnswer × FunctionLedger ω :=
  (.of reply turn.answer, { ledger.settle turn with left := ledger.left ++ gone })

/-- An operation in hand is used up. -/
def spend (ledger : FunctionLedger ω) (place : Nat) (use : ω → Effect ω) :
    FunctionAnswer × FunctionLedger ω :=
  match ledger.hand[place]? with
  | none => (.flag false, ledger)
  | some operation =>
      (.of .flag ((use operation).answer true),
        { ledger with
          hand := ledger.hand.eraseIdx place
          lives := ledger.lives ++ (use operation).lives })

/-- Makes a move; `panics` tells which operations panic when they run, and how. -/
def perform (panics : ω → Option String) (ledger : FunctionLedger ω) :
    FunctionMove ω → FunctionAnswer × FunctionLedger ω
  | .push closure footprint =>
      ledger.enter closure (ledger.functions.push closure footprint) fun () => .accepted
  | .tryPush closure footprint =>
      ledger.enter closure (ledger.functions.tryPush closure footprint) fun
        | .ok () => .accepted
        | .error full => .full full
  | .tryPushOperation closure footprint =>
      ledger.enter closure (ledger.functions.tryPushOperation closure footprint) fun refused =>
        if refused then .inHand else .accepted
  | .make closure footprint =>
      let made : Turn ω Unit := { queue := ledger.functions, answer := .ok () }
      ledger.enter closure (ledger.functions.build closure footprint made) fun () => .inHand
  | .offer place =>
      match ledger.hand[place]? with
      | none => (.flag false, ledger)
      | some operation =>
          match ledger.functions.offer? operation with
          | none => (.inHand, ledger)
          | some functions =>
              (.accepted,
                { ledger with
                  functions
                  hand := ledger.hand.eraseIdx place
                  accepted := ledger.accepted ++ [operation] })
  | .pop =>
      match ledger.functions.pop? with
      | none => (.flag false, ledger)
      | some (operation, functions) =>
          (.flag true,
            { ledger with
              functions
              hand := ledger.hand ++ [operation]
              left := ledger.left ++ [operation] })
  | .popDrop => ledger.leave (ledger.functions.waiting.take 1) ledger.functions.popDrop .flag
  | .run place => ledger.spend place (ledger.functions.housing.run panics)
  | .discard place => ledger.spend place ledger.functions.housing.discard
  | .runOne => ledger.leave (ledger.functions.waiting.take 1) (ledger.functions.runOne panics) .flag
  | .clear => ledger.leave ledger.functions.waiting ledger.functions.clear fun () => .flag true

/-- The ledger after some moves. -/
def after (panics : ω → Option String) (ledger : FunctionLedger ω) (moves : List (FunctionMove ω)) :
    FunctionLedger ω :=
  Session.after (perform panics) ledger moves

/-- All that happens to closures if the queue is dropped now, and what is in hand after it. -/
def wholeRecord (ledger : FunctionLedger ω) : List (Life ω) :=
  ledger.lives ++ ledger.functions.clear.lives ++
    ledger.functions.housing.discardAll ledger.hand

/-! ## What a move can do -/

/-- All that a move can do, and the closures that come in by it. -/
inductive Step (ledger : FunctionLedger ω) : List ω → FunctionLedger ω → Prop where
  /-- There is nothing to do. -/
  | idle : Step ledger [] ledger
  /-- A closure is refused and dropped. -/
  | wasted (closure : ω) :
      Step ledger [closure] { ledger with lives := ledger.lives ++ [.dropped closure] }
  /-- A closure is in hand. -/
  | kept (closure : ω) : Step ledger [closure] { ledger with hand := ledger.hand ++ [closure] }
  /-- A closure is accepted. -/
  | accepted (closure : ω) (room : ledger.functions.hasRoom = true) :
      Step ledger [closure]
        { ledger with
          functions := ledger.functions.withWaiting (ledger.functions.waiting ++ [closure])
          accepted := ledger.accepted ++ [closure] }
  /-- An operation in hand is accepted. -/
  | offered {operation : ω} {front back : List ω} (held : ledger.hand = front ++ operation :: back)
      (room : ledger.functions.hasRoom = true) :
      Step ledger []
        { ledger with
          functions := ledger.functions.withWaiting (ledger.functions.waiting ++ [operation])
          hand := front ++ back
          accepted := ledger.accepted ++ [operation] }
  /-- The oldest operation is taken in hand. -/
  | taken {operation : ω} {rest : List ω} (oldest : ledger.functions.waiting = operation :: rest) :
      Step ledger []
        { ledger with
          functions := ledger.functions.withWaiting rest
          hand := ledger.hand ++ [operation]
          left := ledger.left ++ [operation] }
  /-- The oldest operations are used up. -/
  | gone {operations rest : List ω} {lives : List (Life ω)}
      (oldest : ledger.functions.waiting = operations ++ rest) (usesUp : Life.UsesUp lives)
      (drops : Life.droppedIn lives = operations) :
      Step ledger []
        { ledger with
          functions := ledger.functions.withWaiting rest
          left := ledger.left ++ operations
          lives := ledger.lives ++ lives }
  /-- An operation in hand is used up. -/
  | spent {operation : ω} {front back : List ω} {lives : List (Life ω)}
      (held : ledger.hand = front ++ operation :: back) (usesUp : Life.UsesUp lives)
      (drops : Life.droppedIn lives = [operation]) :
      Step ledger []
        { ledger with hand := front ++ back, lives := ledger.lives ++ lives }

variable {panics : ω → Option String} {ledger next : FunctionLedger ω}

/-- An operation in hand divides what is in hand. -/
theorem exists_hand_split {place : Nat} {operation : ω}
    (held : ledger.hand[place]? = some operation) :
    ∃ front back, ledger.hand = front ++ operation :: back ∧
      ledger.hand.eraseIdx place = front ++ back := by
  obtain ⟨in_range, rfl⟩ := List.getElem?_eq_some_iff.mp held
  refine ⟨ledger.hand.take place, ledger.hand.drop (place + 1), ?_,
    List.eraseIdx_eq_take_drop_succ _ _⟩
  rw [← List.drop_eq_getElem_cons in_range, List.take_append_drop]

theorem step_tryPush (closure : ω) (footprint : Footprint) :
    ledger.Step [closure] (ledger.perform panics (.tryPush closure footprint)).2 := by
  rw [perform]
  cases misfit : ledger.functions.housing.misfit? footprint with
  | some misfits =>
      rw [FunctionQueue.tryPush_of_misfit closure misfit]
      exact .wasted closure
  | none =>
      rw [FunctionQueue.tryPush_of_fit closure misfit]
      cases room : ledger.functions.hasRoom with
      | true => simpa [enter, settle, FunctionAnswer.of] using Step.accepted closure room
      | false => exact .wasted closure

/-- A push that panics leaves what a push that returns an error leaves. -/
theorem perform_push_snd (closure : ω) (footprint : Footprint) :
    (ledger.perform panics (.push closure footprint)).2 =
      (ledger.perform panics (.tryPush closure footprint)).2 := by
  rw [perform, perform, FunctionQueue.push, enter, enter]
  rcases (ledger.functions.tryPush closure footprint).answer with message | full | _ <;> rfl

theorem step_push (closure : ω) (footprint : Footprint) :
    ledger.Step [closure] (ledger.perform panics (.push closure footprint)).2 := by
  rw [perform_push_snd]
  exact step_tryPush closure footprint

theorem step_tryPushOperation (closure : ω) (footprint : Footprint) :
    ledger.Step [closure] (ledger.perform panics (.tryPushOperation closure footprint)).2 := by
  rw [perform]
  cases misfit : ledger.functions.housing.misfit? footprint with
  | some misfits =>
      rw [FunctionQueue.tryPushOperation_of_misfit closure misfit]
      exact .wasted closure
  | none =>
      rw [FunctionQueue.tryPushOperation_of_fit closure misfit]
      cases room : ledger.functions.hasRoom with
      | true => simpa [enter, settle, FunctionAnswer.of] using Step.accepted closure room
      | false => simpa [enter, settle, FunctionAnswer.of] using Step.kept closure

theorem step_make (closure : ω) (footprint : Footprint) :
    ledger.Step [closure] (ledger.perform panics (.make closure footprint)).2 := by
  rw [perform]
  cases misfit : ledger.functions.housing.misfit? footprint with
  | some misfits =>
      rw [FunctionQueue.build_of_misfit closure _ misfit]
      exact .wasted closure
  | none =>
      rw [FunctionQueue.build_of_fit closure _ misfit]
      simpa [enter, settle, FunctionAnswer.of] using Step.kept closure

theorem step_spend (place : Nat) {use : ω → Effect ω}
    (usesUp : ∀ operation, Life.UsesUp (use operation).lives)
    (drops : ∀ operation, Life.droppedIn (use operation).lives = [operation]) :
    ledger.Step [] (ledger.spend place use).2 := by
  rw [spend]
  split
  · exact .idle
  · next operation held =>
    obtain ⟨front, back, split, erased⟩ := exists_hand_split held
    rw [erased]
    exact .spent split (usesUp operation) (drops operation)

theorem step_offer (place : Nat) : ledger.Step [] (ledger.perform panics (.offer place)).2 := by
  rw [perform]
  split
  · exact .idle
  · next operation held =>
    obtain ⟨front, back, split, erased⟩ := exists_hand_split held
    cases room : ledger.functions.hasRoom with
    | true =>
        rw [FunctionQueue.offer?_of_room operation room, erased]
        exact .offered split room
    | false =>
        rw [FunctionQueue.offer?_of_full operation room]
        exact .idle

theorem step_pop : ledger.Step [] (ledger.perform panics .pop).2 := by
  rw [perform]
  rcases waits : ledger.functions.waiting with _ | ⟨operation, rest⟩
  · rw [FunctionQueue.pop?_of_empty waits]
    exact .idle
  · rw [FunctionQueue.pop?_of_cons waits]
    exact .taken waits

theorem step_popDrop : ledger.Step [] (ledger.perform panics .popDrop).2 := by
  rw [perform]
  rcases waits : ledger.functions.waiting with _ | ⟨operation, rest⟩
  · rw [FunctionQueue.popDrop_of_empty waits]
    simpa [leave, settle] using Step.idle
  · rw [FunctionQueue.popDrop_of_cons waits]
    exact .gone waits (.dropped operation .quiet) rfl

theorem step_runOne : ledger.Step [] (ledger.perform panics .runOne).2 := by
  rw [perform]
  rcases waits : ledger.functions.waiting with _ | ⟨operation, rest⟩
  · rw [FunctionQueue.runOne_of_empty panics waits]
    simpa [leave, settle] using Step.idle
  · rw [FunctionQueue.runOne_of_cons panics waits]
    exact .gone waits (.ran operation .quiet) rfl

theorem step_clear : ledger.Step [] (ledger.perform panics .clear).2 := by
  rw [perform, FunctionQueue.clear_eq]
  exact .gone (List.append_nil _).symm (Life.usesUp_map_dropped _) (Life.droppedIn_map_dropped _)

theorem step_perform (panics : ω → Option String) (ledger : FunctionLedger ω)
    (move : FunctionMove ω) :
    ledger.Step move.closure?.toList (ledger.perform panics move).2 := by
  cases move with
  | push closure footprint => exact step_push closure footprint
  | tryPush closure footprint => exact step_tryPush closure footprint
  | tryPushOperation closure footprint => exact step_tryPushOperation closure footprint
  | make closure footprint => exact step_make closure footprint
  | offer place => exact step_offer place
  | pop => exact step_pop
  | popDrop => exact step_popDrop
  | run place =>
      apply step_spend place <;> intro operation <;> rw [Housing.run_eq]
      · exact .ran operation .quiet
      · rfl
  | discard place =>
      apply step_spend place <;> intro operation <;> rw [Housing.discard_eq]
      · exact .dropped operation .quiet
      · rfl
  | runOne => exact step_runOne
  | clear => exact step_clear

/-! ## What every move keeps -/

/-- Where closures are: dropped, waiting or in hand. -/
def whereabouts (ledger : FunctionLedger ω) : List ω :=
  Life.droppedIn ledger.lives ++ ledger.functions.waiting ++ ledger.hand

variable {came : List ω}

/-- A closure that comes in is somewhere, and no other closure appears or vanishes. -/
theorem Step.whereabouts_perm (step : ledger.Step came next) :
    next.whereabouts.Perm (ledger.whereabouts ++ came) := by
  -- The same closure may be pushed more than once, so occurrences are counted.
  classical
  rw [List.perm_iff_count]
  intro closure
  cases step with
  | idle => rw [List.append_nil]
  | wasted refused =>
      simp only [whereabouts, Life.droppedIn_append, Life.droppedIn_dropped, List.count_append]
      omega
  | kept held =>
      simp only [whereabouts, List.count_append]
      omega
  | accepted pushed room =>
      simp only [whereabouts, FunctionQueue.waiting_withWaiting, List.count_append]
      omega
  | offered held room =>
      simp only [whereabouts, FunctionQueue.waiting_withWaiting, held, List.count_append,
        List.count_cons, List.count_nil]
      omega
  | taken oldest =>
      simp only [whereabouts, FunctionQueue.waiting_withWaiting, oldest, List.count_append,
        List.count_cons, List.count_nil]
      omega
  | gone oldest usesUp drops =>
      simp only [whereabouts, FunctionQueue.waiting_withWaiting, oldest, Life.droppedIn_append,
        drops, List.count_append, List.count_nil]
      omega
  | spent held usesUp drops =>
      simp only [whereabouts, held, Life.droppedIn_append, drops, List.count_append,
        List.count_cons, List.count_nil]
      omega

/-- The books are in order, where `made` are the closures that have come in. -/
structure Balanced (housing : Housing) (capacity : Capacity) (made : List ω)
    (ledger : FunctionLedger ω) : Prop where
  housing_eq : ledger.functions.housing = housing
  capacity_eq : ledger.functions.queue.capacity = capacity
  holds : capacity.Holds ledger.functions.waiting.length
  made_perm : made.Perm ledger.whereabouts
  accepted_eq : ledger.accepted = ledger.left ++ ledger.functions.waiting
  usesUp : Life.UsesUp ledger.lives

theorem balanced_opened (housing : Housing) (capacity : Capacity) :
    (opened housing capacity : FunctionLedger ω).Balanced housing capacity [] where
  housing_eq := rfl
  capacity_eq := rfl
  holds := fun _ _ => Nat.zero_le _
  made_perm := .refl _
  accepted_eq := rfl
  usesUp := .quiet

variable {housing : Housing} {capacity : Capacity} {made : List ω}

theorem Balanced.step (balanced : ledger.Balanced housing capacity made)
    (step : ledger.Step came next) : next.Balanced housing capacity (made ++ came) := by
  obtain ⟨housing_eq, capacity_eq, holds, made_perm, accepted_eq, usesUp⟩ := balanced
  have perm := (made_perm.append_right came).trans step.whereabouts_perm.symm
  cases step with
  | idle => exact ⟨housing_eq, capacity_eq, holds, perm, accepted_eq, usesUp⟩
  | wasted closure =>
      exact ⟨housing_eq, capacity_eq, holds, perm, accepted_eq,
        usesUp.append (.dropped closure .quiet)⟩
  | kept closure => exact ⟨housing_eq, capacity_eq, holds, perm, accepted_eq, usesUp⟩
  | accepted closure room | offered _ room =>
      rw [FunctionQueue.hasRoom, capacity_eq] at room
      refine ⟨housing_eq, capacity_eq, ?_, perm, ?_, usesUp⟩
      · rw [FunctionQueue.waiting_withWaiting, List.length_append]
        exact Capacity.holds_succ_of_admits room
      · rw [accepted_eq, FunctionQueue.waiting_withWaiting, List.append_assoc]
  | taken oldest =>
      refine ⟨housing_eq, capacity_eq, holds.of_le ?_, perm, ?_, usesUp⟩
      · rw [FunctionQueue.waiting_withWaiting, oldest, List.length_cons]
        exact Nat.le_succ _
      · simp [accepted_eq, oldest]
  | gone oldest gone_usesUp _ =>
      refine ⟨housing_eq, capacity_eq, holds.of_le ?_, perm, ?_, usesUp.append gone_usesUp⟩
      · rw [FunctionQueue.waiting_withWaiting, oldest, List.length_append]
        exact Nat.le_add_left _ _
      · rw [accepted_eq, oldest, FunctionQueue.waiting_withWaiting, List.append_assoc]
  | spent _ spent_usesUp _ =>
      exact ⟨housing_eq, capacity_eq, holds, perm, accepted_eq, usesUp.append spent_usesUp⟩

theorem after_concat (panics : ω → Option String) (moves : List (FunctionMove ω))
    (move : FunctionMove ω) :
    ledger.after panics (moves ++ [move]) =
      ((ledger.after panics moves).perform panics move).2 := by
  rw [after, Session.after_append]
  rfl

theorem Balanced.after (balanced : ledger.Balanced housing capacity made)
    (panics : ω → Option String) (moves : List (FunctionMove ω)) :
    (ledger.after panics moves).Balanced housing capacity
      (made ++ moves.filterMap FunctionMove.closure?) := by
  induction moves using List.reverseRecOn with
  | nil => rwa [List.filterMap_nil, List.append_nil]
  | append_singleton moves move induction =>
      have next := induction.step (step_perform panics _ move)
      rw [after_concat, List.filterMap_append, ← List.append_assoc]
      have came : [move].filterMap FunctionMove.closure? = move.closure?.toList := by
        cases move <;> rfl
      rwa [came]

/-! ## The end of a queue -/

theorem wholeRecord_eq (ledger : FunctionLedger ω) :
    ledger.wholeRecord = ledger.lives ++ ledger.functions.waiting.map .dropped ++
      ledger.hand.map .dropped := by
  rw [wholeRecord, FunctionQueue.clear_eq, Housing.discardAll_eq]

/-- In the end everything has been dropped that was anywhere. -/
theorem droppedIn_wholeRecord (ledger : FunctionLedger ω) :
    Life.droppedIn ledger.wholeRecord = ledger.whereabouts := by
  rw [wholeRecord_eq, whereabouts, Life.droppedIn_append, Life.droppedIn_append,
    Life.droppedIn_map_dropped, Life.droppedIn_map_dropped]

theorem Balanced.usesUp_wholeRecord (balanced : ledger.Balanced housing capacity made) :
    Life.UsesUp ledger.wholeRecord := by
  rw [wholeRecord_eq]
  exact (balanced.usesUp.append (Life.usesUp_map_dropped _)).append (Life.usesUp_map_dropped _)

/-! ## How operations are kept -/

/-- The ledger with operations kept in another way. -/
def rehoused (housing : Housing) (ledger : FunctionLedger ω) : FunctionLedger ω :=
  { ledger with functions := ledger.functions.rehoused housing }

theorem wholeRecord_rehoused (housing : Housing) (ledger : FunctionLedger ω) :
    (ledger.rehoused housing).wholeRecord = ledger.wholeRecord := by
  rw [wholeRecord_eq, wholeRecord_eq]
  rfl

theorem functions_rehoused (housing : Housing) (ledger : FunctionLedger ω) :
    (ledger.rehoused housing).functions = ledger.functions.rehoused housing := rfl

theorem hand_rehoused (housing : Housing) (ledger : FunctionLedger ω) :
    (ledger.rehoused housing).hand = ledger.hand := rfl

theorem enter_rehoused {α : Type} (closure : ω) (turn : Turn ω α) (reply : α → FunctionAnswer) :
    (ledger.rehoused housing).enter closure (turn.rehoused housing) reply =
      ((ledger.enter closure turn reply).1,
        (ledger.enter closure turn reply).2.rehoused housing) := by
  have same_answer : (turn.rehoused housing).answer = turn.answer := rfl
  rw [enter, enter, same_answer]
  cases FunctionAnswer.of reply turn.answer <;> rfl

theorem leave_rehoused {α : Type} (gone : List ω) (turn : Turn ω α) (reply : α → FunctionAnswer) :
    (ledger.rehoused housing).leave gone (turn.rehoused housing) reply =
      ((ledger.leave gone turn reply).1, (ledger.leave gone turn reply).2.rehoused housing) := rfl

theorem spend_rehoused (place : Nat) (use : ω → Effect ω) :
    (ledger.rehoused housing).spend place use =
      ((ledger.spend place use).1, (ledger.spend place use).2.rehoused housing) := by
  rw [spend, spend, hand_rehoused]
  cases ledger.hand[place]? <;> rfl

/-- A move does the same however operations are kept, if its closure can be kept both ways. -/
theorem perform_rehoused (panics : ω → Option String) (ledger : FunctionLedger ω)
    {move : FunctionMove ω} (fits : move.Fits ledger.functions.housing)
    (fits_other : move.Fits housing) :
    (ledger.rehoused housing).perform panics move =
      ((ledger.perform panics move).1, (ledger.perform panics move).2.rehoused housing) := by
  cases move with
  | push closure footprint =>
      rw [perform, perform, functions_rehoused, FunctionQueue.push_rehoused closure fits fits_other,
        enter_rehoused]
  | tryPush closure footprint =>
      rw [perform, perform, functions_rehoused,
        FunctionQueue.tryPush_rehoused closure fits fits_other, enter_rehoused]
  | tryPushOperation closure footprint =>
      rw [perform, perform, functions_rehoused,
        FunctionQueue.tryPushOperation_rehoused closure fits fits_other, enter_rehoused]
  | make closure footprint =>
      rw [perform, perform, functions_rehoused, ← enter_rehoused,
        ← FunctionQueue.build_rehoused closure _ fits fits_other]
      rfl
  | offer place =>
      rw [perform, perform, hand_rehoused, functions_rehoused]
      cases ledger.hand[place]? with
      | none => rfl
      | some operation =>
          simp only [FunctionQueue.offer?_rehoused]
          cases ledger.functions.offer? operation <;> rfl
  | pop =>
      rw [perform, perform, functions_rehoused, FunctionQueue.pop?_rehoused]
      cases ledger.functions.pop? <;> rfl
  | popDrop =>
      rw [perform, perform, functions_rehoused, FunctionQueue.popDrop_rehoused, leave_rehoused,
        FunctionQueue.waiting_rehoused]
  | run place =>
      rw [perform, perform, ← spend_rehoused, spend, spend]
      simp only [Housing.run_eq]
  | discard place =>
      rw [perform, perform, ← spend_rehoused, spend, spend]
      simp only [Housing.discard_eq]
  | runOne =>
      rw [perform, perform, functions_rehoused, FunctionQueue.runOne_rehoused, leave_rehoused,
        FunctionQueue.waiting_rehoused]
  | clear =>
      rw [perform, perform, functions_rehoused, FunctionQueue.clear_rehoused, leave_rehoused,
        FunctionQueue.waiting_rehoused]

/-- So does a whole run: answers are the same, and ledgers up to how operations are kept. -/
theorem run_rehoused (panics : ω → Option String) (moves : List (FunctionMove ω))
    (balanced : ledger.Balanced .boxed capacity made)
    (fits : ∀ move ∈ moves, move.Fits housing) :
    Session.scan (perform panics) (ledger.rehoused housing) moves =
        (Session.scan (perform panics) ledger moves).map
          (fun (answer, ledger) => (answer, ledger.rehoused housing)) ∧
      (ledger.rehoused housing).after panics moves =
        (ledger.after panics moves).rehoused housing := by
  induction moves generalizing ledger made with
  | nil => exact ⟨rfl, rfl⟩
  | cons move moves induction =>
      have fits_boxed : move.Fits ledger.functions.housing := by
        rw [balanced.housing_eq]
        cases move <;> trivial
      have same := perform_rehoused panics ledger fits_boxed (fits move List.mem_cons_self)
      obtain ⟨same_scan, same_after⟩ :=
        induction (balanced.step (step_perform panics ledger move)) fun other member =>
          fits other (List.mem_cons_of_mem move member)
      refine ⟨by simp only [Session.scan, List.map_cons, same, same_scan], ?_⟩
      rw [after, Session.after, List.foldl_cons, same]
      exact same_after

/-! ## Refusals -/

/-- A closure that fits is refused just if the queue is full. -/
theorem Balanced.refuses_or_accepts (balanced : ledger.Balanced housing capacity made)
    (closure : ω) {footprint : Footprint} (fits : housing.misfit? footprint = none) :
    (capacity = .bounded ledger.functions.waiting.length ∧
      ledger.functions.Refuses closure footprint) ∨
    (capacity ≠ .bounded ledger.functions.waiting.length ∧
      ledger.functions.Accepts closure footprint) := by
  rw [← balanced.housing_eq] at fits
  cases room : ledger.functions.hasRoom with
  | false =>
      have full : ledger.functions.queue.capacity = .bounded ledger.functions.waiting.length := by
        rw [FunctionQueue.hasRoom, balanced.capacity_eq] at room
        rw [balanced.capacity_eq]
        exact balanced.holds.eq_bounded room
      exact Or.inl ⟨balanced.capacity_eq ▸ full, .of_full closure fits room full⟩
  | true =>
      refine Or.inr ⟨?_, .of_room closure fits room⟩
      intro full
      simp [FunctionQueue.hasRoom, balanced.capacity_eq, full] at room

/-- Every closure that is turned into an operation is dropped once, whether it runs, panics, is
refused, is handed back, is cleared away or is left when the queue is dropped, and it runs at most
once, just before it is dropped.  Operations leave the queue in the order in which they were
accepted.  A closure is refused just if the queue is full, and then the queue stays as it is; so
does the ledger if an operation in hand is refused.  Running one operation consumes that operation
and no other, also if it panics.  Where every closure fits a slot, whoever uses the queue cannot
tell how operations are kept. -/
theorem every_closure_ends_once (panics : ω → Option String) (housing : Housing)
    (capacity : Capacity) :
    (∀ moves : List (FunctionMove ω), ∀ ledger,
      ledger = (opened housing capacity).after panics moves → ∀ made,
      made = moves.filterMap FunctionMove.closure? →
      (made.Perm ledger.whereabouts ∧
        made.Perm (Life.droppedIn ledger.wholeRecord) ∧
        Life.UsesUp ledger.wholeRecord ∧
        (Life.ranIn ledger.wholeRecord).Sublist (Life.droppedIn ledger.wholeRecord) ∧
        (made.Nodup → (Life.droppedIn ledger.wholeRecord).Nodup ∧
          (Life.ranIn ledger.wholeRecord).Nodup)) ∧
      (ledger.accepted = ledger.left ++ ledger.functions.waiting ∧
        capacity.Holds ledger.functions.waiting.length) ∧
      ((∀ closure footprint, housing.misfit? footprint = none →
          (capacity = .bounded ledger.functions.waiting.length ∧
            ledger.functions.Refuses closure footprint) ∨
          (capacity ≠ .bounded ledger.functions.waiting.length ∧
            ledger.functions.Accepts closure footprint)) ∧
        (∀ closure footprint misfit, housing.misfit? footprint = some misfit →
          ledger.functions.Rejects closure footprint misfit) ∧
        ∀ place, place < ledger.hand.length →
          capacity = .bounded ledger.functions.waiting.length →
          ledger.perform panics (.offer place) = (.inHand, ledger)) ∧
      ((ledger.functions.waiting = [] →
          ledger.functions.runOne panics = { queue := ledger.functions, answer := .ok false }) ∧
        ∀ operation rest, ledger.functions.waiting = operation :: rest →
          ledger.functions.runOne panics =
            { queue := ledger.functions.withWaiting rest
              lives := [.ran operation, .dropped operation]
              answer :=
                match panics operation with
                | some message => .error message
                | none => .ok true })) ∧
    ∀ (words : Nat) (moves : List (FunctionMove ω)), (∀ move ∈ moves, move.Fits (.inline words)) →
      Session.scan (perform panics) (opened (.inline words) capacity) moves =
        (Session.scan (perform panics) (opened .boxed capacity) moves).map
          (fun (answer, ledger) => (answer, ledger.rehoused (.inline words))) ∧
      ((opened (.inline words) capacity).after panics moves).wholeRecord =
        ((opened .boxed capacity).after panics moves).wholeRecord := by
  constructor
  · rintro moves ledger reached made rfl
    have balanced := (balanced_opened housing capacity).after panics moves
    rw [← reached, List.nil_append] at balanced
    have ends := balanced.made_perm
    rw [← droppedIn_wholeRecord] at ends
    have among := balanced.usesUp_wholeRecord.ranIn_sublist
    refine ⟨⟨balanced.made_perm, ends, balanced.usesUp_wholeRecord, among, fun distinct => ?_⟩,
      ⟨balanced.accepted_eq, balanced.holds⟩,
      ⟨fun closure footprint => balanced.refuses_or_accepts closure, ?_, ?_⟩,
      FunctionQueue.runOne_of_empty panics,
      fun operation rest => FunctionQueue.runOne_of_cons panics⟩
    · have once := ends.nodup_iff.mp distinct
      exact ⟨once, once.sublist among⟩
    · intro closure footprint misfit misfits
      rw [← balanced.housing_eq] at misfits
      exact .of_misfit closure misfits
    · intro place in_hand full
      have no_room : ledger.functions.hasRoom = false := by
        simp [FunctionQueue.hasRoom, balanced.capacity_eq, full]
      rw [perform, List.getElem?_eq_getElem in_hand]
      simp only [FunctionQueue.offer?_of_full _ no_room]
  · intro words moves fits
    obtain ⟨same_scan, same_after⟩ := run_rehoused panics moves
      (balanced_opened (ω := ω) .boxed capacity) fits
    exact ⟨same_scan, (congrArg wholeRecord same_after).trans (wholeRecord_rehoused _ _)⟩

/-- A queue of two slots of two words each is filled, refuses two closures, of which one is handed
back, and accepts that one once the first operation has panicked. -/
def crowdedMoves : List (FunctionMove Nat) :=
  [.push 1 { bytes := 8 }, .tryPush 2 { bytes := 16 }, .tryPushOperation 3 { bytes := 8 },
    .push 4 { bytes := 16, align := 8 }, .runOne, .offer 0, .pop, .run 0]

theorem crowded_closures_end_once :
    (∀ move ∈ crowdedMoves, move.Fits (.inline 2)) ∧
    ∃ ledger : FunctionLedger Nat,
      ledger = (opened (.inline 2) (.bounded 2)).after
        (fun operation => if operation = 1 then some "out of order" else none) crowdedMoves ∧
      [1, 2, 3, 4].Perm (Life.droppedIn ledger.wholeRecord) ∧
      (Life.droppedIn ledger.wholeRecord).Nodup ∧
      ledger.wholeRecord =
        [.dropped 4, .ran 1, .dropped 1, .ran 2, .dropped 2, .dropped 3] ∧
      ledger.accepted = [1, 2, 3] ∧ ledger.functions.waiting = [3] ∧
      ledger.functions.Rejects 5 { bytes := 24 } (.size 24 16) ∧
      ledger.wholeRecord =
        ((opened .boxed (.bounded 2)).after
          (fun operation => if operation = 1 then some "out of order" else none)
          crowdedMoves).wholeRecord := by
  have fits : ∀ move ∈ crowdedMoves, move.Fits (.inline 2) := by
    simp only [crowdedMoves, List.forall_mem_cons]
    exact ⟨rfl, rfl, rfl, rfl, trivial, trivial, trivial, trivial, List.forall_mem_nil _⟩
  obtain ⟨in_turn, alike⟩ := every_closure_ends_once
    (fun operation => if operation = 1 then some "out of order" else none) (.inline 2) (.bounded 2)
  obtain ⟨⟨_, ends, _, _, once⟩, _, ⟨_, rejects, _⟩, _⟩ := in_turn crowdedMoves _ rfl _ rfl
  exact ⟨fits, _, rfl, ends, (once (by decide)).1, rfl, rfl, rfl, rejects 5 _ _ rfl,
    (alike 2 crowdedMoves fits).2⟩

end FunctionLedger

end Reactor
