import Mathlib.Data.Finset.Card
import Playthrough.Proofs.Epilogue.Standing
import Playthrough.Proofs.Task.Attendance

/-!
Contract: what the only epilogue shows, whatever it was asked for and in whichever order.

Owns: the calls that an epilogue is given one after the other and what is remembered of them, what it
shows between any two turns, and that an ending which nobody stops is shown to its end.

Does not own: calls that overlap.

A call is remembered from the moment at which it begins, so that nothing of an earlier ending is part of
what is shown from then on. What is left to be shown of an ending shrinks with every turn of its task, and
the tasks of earlier endings have one turn left each.
-/

namespace Playthrough.Epilogue.Alone

/-! ## Calls -/

/-- What an epilogue is asked for. -/
inductive Call where
  | play (showing : Showing)
  | reset
  | cancel
  | await

namespace Call

/-- The program of a call. -/
def plan : Call → Plan
  | .play showing => Alone.play showing.preferences showing.ending showing.tier
  | .reset => Alone.reset
  | .cancel => Alone.cancel
  | .await => Alone.await

/-- What a call has still to do once it has waited for a task. -/
inductive Residue : Call → Plan → Prop where
  | reset : Residue .reset (.update (seat.modify fun _ => blank) .stop)
  | cancel : Residue .cancel .stop
  | await (remaining : List Unit) : Residue .await (.settle [] remaining .stop)

end Call

/-- What is remembered of the calls: the ending that was asked for last, unless it was forgotten, whether
it was stopped, and the call that has not returned yet. -/
structure Record where
  showing : Option Showing
  stopped : Bool
  flight : Option (TaskId × Call)

namespace Record

/-- Nothing was asked for. -/
def blank : Record := { showing := none, stopped := false, flight := none }

/-- A call begins. -/
def begins (record : Record) (id : TaskId) (call : Call) : Record :=
  match call with
  | .play showing => { showing := some showing, stopped := false, flight := some (id, call) }
  | .reset => { record with stopped := true, flight := some (id, call) }
  | .cancel => { record with stopped := true, flight := some (id, call) }
  | .await => { record with flight := some (id, call) }

/-- A call returns. -/
def returns (record : Record) (call : Call) : Record :=
  match call with
  | .reset => { showing := none, stopped := record.stopped, flight := none }
  | _ => { record with flight := none }

end Record

/-- The worlds that occur when an epilogue is given one call after the other, while waits may end at any
time, each with what is remembered. -/
inductive Occurs : Record → Setting → Prop where
  | construct : Occurs .blank (World.initial initial)
  | begin {record : Record} {world : Setting} (call : Call) (before : Occurs record world)
      (noTurn : world.running = none) (alone : record.flight = none) :
      Occurs (record.begins world.tasks.length call) (world.begin call.plan).2
  | step {record : Record} {world : Setting} (before : Occurs record world) :
      Occurs record (world.step machine)
  | release {record : Record} {world released : Setting} (before : Occurs record world)
      (noTurn : world.running = none) (position : Nat)
      (wait : world.release? position = some released) : Occurs record released
  | complete {record : Record} {world : Setting} {id : TaskId} {call : Call} (before : Occurs record world)
      (noTurn : world.running = none) (flight : record.flight = some (id, call))
      (ended : (world.outcome? id).isSome = true) : Occurs (record.returns call) world

/-! ## What is remembered and how the epilogue stands -/

/-- The situation is that of the ending that was asked for last. -/
inductive Tells : Option Showing → Bool → Situation → Prop where
  | blank (stopped : Bool) : Tells none stopped .blank
  | playing (showing : Showing) (id : TaskId) (left : Nat) :
      Tells (some showing) false (.playing showing id left)
  | played (showing : Showing) (id : TaskId) : Tells (some showing) false (.played showing id)
  | stopped (showing : Showing) : Tells (some showing) true (.stopped showing)

theorem Tells.halted {showing : Option Showing} {stopped : Bool} {situation : Situation}
    (tells : Tells showing stopped situation) : Tells showing true situation.halted := by
  cases tells with
  | blank => exact .blank true
  | playing showing => exact .stopped showing
  | played showing => exact .stopped showing
  | stopped showing => exact .stopped showing

/-- The situation and the operation that waits are as is remembered. -/
inductive Fits (record : Record) : Situation → Option (TaskId × Plan) → Prop where
  | waits {situation : Situation} {id : TaskId} {call : Call} {plan : Plan}
      (flight : record.flight = some (id, call)) (residue : call.Residue plan)
      (vacant : call ≠ .await → situation.slot = none)
      (tells : Tells record.showing record.stopped situation) : Fits record situation (some (id, plan))
  /-- No call has anything to do any more. -/
  | free {situation : Situation} (others : ∀ id, record.flight ≠ some (id, .reset))
      (tells : Tells record.showing record.stopped situation) : Fits record situation none
  | forgot {id : TaskId} (flight : record.flight = some (id, .reset)) : Fits record .blank none

/-- An epilogue stands as is remembered. -/
def Stands (record : Record) (outline : Draft) : Prop :=
  ∃ situation visitor, Standing situation visitor outline ∧ Fits record situation visitor

/-! ## Turns -/

section Turns

variable {base : Setting} {situation : Situation} {visitor : Option (TaskId × Plan)} {id : TaskId}
variable {task : Task Alone Unit Empty Epilogue} {record : Record} {showing : Showing} {left : Nat}

/-- The turn of a task that was cancelled. -/
theorem lands_displaced (found : base.outline.tasks id = some task) (displaced : Displaced task) :
    World.Lands machine
      (fun after => after.outline = base.outline.close id base.store .cancelled)
      (base.focus id (World.atTurn task) base.store) := by
  rw [World.atTurn_of_cancelled displaced.2]
  exact World.lands_of_cancelled (fun outline => outline = base.outline.close id base.store .cancelled)
    (World.inside_of_found found) displaced.1 rfl

/-- The tasks that have not ended. -/
def unended (outline : Draft) : Finset TaskId :=
  (Finset.range outline.count).filter fun id => (outline.tasks id).isSome

/-- How many turns are left where nobody asks for anything. -/
def ahead (situation : Situation) (outline : Draft) : Nat :=
  (unended outline).card + match situation with
    | .playing _ _ left => left
    | _ => 0

/-- A task that ends leaves one less. -/
theorem card_unended_close {outline : Draft} (inside : id < outline.count)
    (found : outline.tasks id = some task) (store : Alone) (outcome : Outcome Epilogue) :
    (unended (outline.close id store outcome)).card < (unended outline).card := by
  refine Finset.card_lt_card (Finset.ssubset_iff_subset_ne.mpr ⟨?_, ?_⟩)
  · intro other member
    simp only [unended, Finset.mem_filter, Finset.mem_range] at member ⊢
    refine ⟨member.1, ?_⟩
    by_cases same : other = id
    · rw [same, found]
      rfl
    · rw [← Outline.tasks_close_other same]
      exact member.2
  · intro same
    have member : id ∈ unended outline := by simp [unended, inside, found]
    rw [← same] at member
    simp [unended, Outline.tasks_close_self] at member

/-- A task that goes on is still one of them. -/
theorem unended_rest {outline : Draft} (found : outline.tasks id = some task)
    (other : Task Alone Unit Empty Epilogue) (store : Alone) :
    unended (outline.rest id other store) = unended outline := by
  refine Finset.filter_congr fun someone _ => ?_
  by_cases same : someone = id
  · subst same
    have self : (outline.rest someone other store).tasks someone = some other :=
      Function.update_self _ _ _
    rw [self, found]
    simp
  · rw [show (outline.rest id other store).tasks someone = outline.tasks someone from
      Function.update_of_ne same _ _]

/-- The turn of the task that plays. -/
theorem lands_performer (standing : Standing (.playing showing id left) visitor base.outline)
    (found : base.outline.tasks id = some task) :
    World.Lands machine
      (fun after => ∃ next, Standing next visitor after.outline
        ∧ (next = .played showing id ∨ ∃ less, next = .playing showing id less)
        ∧ ahead next after.outline < ahead (.playing showing id left) base.outline)
      (base.focus id (World.atTurn task) base.store) := by
  obtain ⟨same, plan, found', owner, frames, kept, control, still⟩ := standing.performs showing id left rfl
  rw [found] at found'
  cases found'
  have inside := World.inside_of_found found
  have allowed : base.mayAct id task = true := by
    have permitted : base.holdings () = { slot := some id, live := some id } := standing.holding
    simp [World.mayAct, owner, permitted]
  obtain ⟨turnEnd, turns, goes⟩ := still.turns
  rw [World.atTurn_of_kept control kept, frames]
  refine (turns base id task inside allowed).mono fun after _ reached => ?_
  rw [reached, TurnEnd.outline_after found]
  cases goes with
  | @pauses next store duration shown less fewer stillLess =>
      refine ⟨.playing showing id less, standing.rest_performer found stillLess, .inr ⟨less, rfl⟩, ?_⟩
      have same := unended_rest found { task.on (.run (.check next)) [] with status := .ready } store
      simp only [ahead, TurnEnd.outline, same]
      exact Nat.add_lt_add_left fewer _
  | @ends control store whole =>
      refine ⟨.played showing id, standing.close_performer whole _, .inl rfl, ?_⟩
      have fewer := card_unended_close inside found store (.finished none)
      simp only [ahead, TurnEnd.outline]
      exact Nat.lt_of_lt_of_le fewer (Nat.le_add_right _ _)

/-- The turn of the operation that waits. -/
theorem lands_visitor {plan : Plan} (standing : Standing situation (some (id, plan)) base.outline)
    (fits : Fits record situation (some (id, plan))) :
    World.Lands machine (fun after => Stands record after.outline)
      (base.focus id (World.atTurn (.fresh none plan)) base.store) := by
  obtain ⟨found, apart⟩ := standing.visits id plan rfl
  have conducted : ∀ {next : Plan}, World.Conducts machine base.outline id next base.store
      (Stands record) → World.Lands machine (fun after => Stands record after.outline)
        (base.focus id ((Task.fresh none next).on (.run next) []) base.store) :=
    fun conducts => conducts base rfl (by rw [found]; rfl)
  rw [World.atTurn_of_kept rfl rfl]
  cases fits with
  | waits flight residue vacant tells =>
      refine conducted ?_
      cases residue with
      | reset =>
          refine .update (.done ⟨.blank, none, ?_, .forgot flight⟩)
          exact standing.close_visitor (.inr ⟨rfl, vacant nofun, rfl⟩) _
      | cancel =>
          refine .done ⟨situation, none, standing.close_visitor (.inl ⟨rfl, rfl⟩) _, .free ?_ tells⟩
          intro other reset
          rw [flight] at reset
          cases reset
      | await remaining =>
          have outside : ∀ driver, (base.outline.holdings driver).slot ≠ some id := by
            rintro ⟨⟩
            rw [standing.slot_eq]
            exact apart
          refine .settle remaining outside ?_ fun _ => .done ?_
          · intro driver held others holding unended
            have different : held ≠ id := by
              rintro rfl
              exact outside driver holding
            exact ⟨situation, _, standing.join different,
              .waits flight (.await _) (fun other => absurd rfl other) tells⟩
          · refine ⟨situation, none, standing.close_visitor (.inl ⟨rfl, rfl⟩) _, .free ?_ tells⟩
            intro other reset
            rw [flight] at reset
            cases reset

/-- What is remembered does not depend on how much of an ending was shown. -/
theorem Fits.of_plays {next : Situation} (fits : Fits record (.playing showing id left) visitor)
    (plays : next = .played showing id ∨ ∃ less, next = .playing showing id less) :
    Fits record next visitor := by
  have told : ∀ {showing? stopped}, Tells showing? stopped (.playing showing id left) →
      Tells showing? stopped next := by
    rintro showing? stopped ⟨⟩
    rcases plays with rfl | ⟨less, rfl⟩
    · exact .played showing id
    · exact .playing showing id less
  cases fits with
  | waits flight residue vacant tells =>
      exact .waits flight residue (fun other => absurd (vacant other) nofun) (told tells)
  | free others tells => exact .free others (told tells)

/-- The turn of a task that the driver made leaves less to be done. -/
theorem lands_driver (standing : Standing situation visitor base.outline)
    (fits : Fits record situation visitor) (found : base.outline.tasks id = some task)
    (notVisitor : ∀ plan, visitor ≠ some (id, plan)) :
    World.Lands machine
      (fun after => ∃ next, Standing next visitor after.outline ∧ Fits record next visitor
        ∧ ahead next after.outline < ahead situation base.outline)
      (base.focus id (World.atTurn task) base.store) := by
  by_cases holding : situation.slot = some id
  · cases situation with
    | blank => cases holding
    | stopped showing => cases holding
    | played showing performer =>
        cases holding
        rw [standing.ended showing id rfl] at found
        cases found
    | playing showing performer left =>
        cases holding
        refine (lands_performer standing found).mono fun after _ reached => ?_
        obtain ⟨next, still, plays, fewer⟩ := reached
        exact ⟨next, still, fits.of_plays plays, fewer⟩
  · have displaced : Displaced task := by
      rcases standing.only id task found with mine | ⟨plan, theirs⟩ | displaced
      · exact absurd mine holding
      · exact absurd theirs (notVisitor plan)
      · exact displaced
    refine (lands_displaced found displaced).mono fun after _ reached => ?_
    rw [reached]
    refine ⟨situation, standing.close_displaced holding notVisitor _, fits, ?_⟩
    exact Nat.add_lt_add_right (card_unended_close (World.inside_of_found found) found _ _) _

/-- Every turn leaves an epilogue standing as is remembered. -/
theorem lands_turn (stands : Stands record base.outline) (found : base.outline.tasks id = some task) :
    World.Lands machine (fun after => Stands record after.outline)
      (base.focus id (World.atTurn task) base.store) := by
  obtain ⟨situation, visitor, standing, fits⟩ := stands
  by_cases visits : ∃ plan, visitor = some (id, plan)
  · obtain ⟨plan, rfl⟩ := visits
    obtain ⟨same, -⟩ := standing.visits id plan rfl
    rw [found] at same
    cases same
    exact lands_visitor standing fits
  · refine (lands_driver standing fits found fun plan visits' => visits ⟨plan, visits'⟩).mono ?_
    rintro after - ⟨next, still, stillFits, -⟩
    exact ⟨next, visitor, still, stillFits⟩

/-! ## Calls -/

variable {world : Setting}

/-- An ending takes the place of whatever is being played. -/
theorem conducts_play (standing : Standing situation none world.outline) (showing : Showing) (plan : Plan) :
    World.Conducts machine (world.outline.add (.fresh none plan)) world.outline.count
      (Alone.play showing.preferences showing.ending showing.tier) world.store
      fun after => ∃ id, Standing (.playing showing id (showing.ending.texts.length + 2)) none after := by
  have begun := standing.add plan
  let added : Draft := world.outline.add (.fresh none plan)
  let opened : Alone := seat.record showing.label (seat.modify (fun epilogue => epilogue.begin showing.tier)
    world.store)
  have inside : world.outline.count < added.count := Nat.lt_succ_self _
  have looks : opened.epilogue = showing.shown 0 := rfl
  have displaced : ∀ other task, other ≠ world.outline.count → situation.slot ≠ some other →
      added.tasks other = some task → Displaced task := by
    intro other task different notHeld found
    rcases begun.only other task found with mine | ⟨plan', visits⟩ | displaced
    · exact absurd mine notHeld
    · cases visits
      exact absurd rfl different
    · exact displaced
  refine .update (.update ?_)
  cases holding : situation.slot with
  | none =>
      have vacant : ∀ other, situation.slot ≠ some other := by simp [holding]
      have stands : Standing (.playing showing added.count (showing.ending.texts.length + 2)) none
          ((added.install () (seat.script showing.preferences showing.ending showing.tier)).close
            world.outline.count opened (.finished none)) :=
        .of_install inside (fun other task different found =>
          displaced other task different (vacant other) found) looks _
      exact .spawn (begun.slot_eq.trans holding) (.done ⟨_, stands⟩)
  | some held =>
      have different : held ≠ world.outline.count := Nat.ne_of_lt (standing.within held holding)
      have cancelled : ∀ other task, other ≠ world.outline.count →
          (added.cancel held).tasks other = some task → Displaced task := by
        intro other task notSelf found
        by_cases same : other = held
        · subst same
          have marked : (added.cancel other).tasks other =
              (added.tasks other).map fun task => { task with cancelPending := true } :=
            Function.update_self _ _ _
          rw [marked] at found
          obtain ⟨former, there, rfl⟩ := Option.map_eq_some_iff.mp found
          have bare : former.frames = [] := begun.frames_of_held holding there
          exact ⟨bare, rfl⟩
        · refine displaced other task notSelf ?_ ((Function.update_of_ne same _ _).symm.trans found)
          rw [holding]
          exact fun mine => same (Option.some.inj mine).symm
      have stands : Standing (.playing showing added.count (showing.ending.texts.length + 2)) none
          (((added.cancel held).install ()
            (seat.script showing.preferences showing.ending showing.tier)).close
              world.outline.count opened (.finished none)) :=
        .of_install (show world.outline.count < (added.cancel held).count from inside) cancelled looks _
      exact .spawn_held (begun.slot_eq.trans holding) different (.done ⟨_, stands⟩)

/-- The driver is stopped: where it holds no task the operation goes on at once. -/
theorem conducts_cancel {plan next : Plan} {post : Draft → Prop}
    (standing : Standing situation none world.outline)
    (passes : Standing situation (some (world.outline.count, plan))
        ((world.outline.add (.fresh none plan)).vacate ()) → situation.slot = none →
      World.Conducts machine ((world.outline.add (.fresh none plan)).vacate ()) world.outline.count next
        world.store post)
    (waits : ∀ after, Standing situation.halted (some (world.outline.count, next)) after → post after) :
    World.Conducts machine (world.outline.add (.fresh none plan)) world.outline.count (.cancel () next)
      world.store post := by
  have begun := standing.add plan
  cases holding : situation.slot with
  | none => exact .cancel_empty (begun.slot_eq.trans holding) (passes (begun.vacate holding) holding)
  | some held =>
      have different : held ≠ world.outline.count := Nat.ne_of_lt (standing.within held holding)
      exact .cancel_held (begun.slot_eq.trans holding) different (waits _ (begun.take holding))

/-- A call leaves an epilogue standing as is remembered from its beginning on. -/
theorem lands_call (stands : Stands record world.outline) (alone : record.flight = none) (call : Call) :
    World.Lands machine (fun after => Stands (record.begins world.outline.count call) after.outline)
      (world.begin call.plan).2 := by
  obtain ⟨situation, visitor, standing, fits⟩ := stands
  cases fits with
  | waits flight => rw [alone] at flight; cases flight
  | forgot flight => rw [alone] at flight; cases flight
  | free _ tells =>
      refine World.lands_begin _ ?_
      cases call with
      | play showing =>
          intro base same present
          refine (conducts_play standing showing _ base same present).mono fun after _ reached => ?_
          obtain ⟨id, plays⟩ := reached
          exact ⟨_, none, plays, .free (fun id => by simp [Record.begins]) (.playing showing id _)⟩
      | cancel =>
          refine conducts_cancel standing (fun passed empty => .done ?_) fun after waits => ?_
          · have halted : situation.halted = situation := by
              cases situation <;> first | rfl | cases empty
            refine ⟨situation, none, passed.close_visitor (.inl ⟨rfl, rfl⟩) _,
              .free (fun id => by simp [Record.begins]) ?_⟩
            rw [← halted]
            exact tells.halted
          · exact ⟨_, _, waits, .waits rfl .cancel (fun _ => situation.slot_halted) tells.halted⟩
      | reset =>
          refine conducts_cancel standing (fun passed empty => .update (.done ?_)) fun after waits => ?_
          · exact ⟨.blank, none, passed.close_visitor (.inr ⟨rfl, empty, rfl⟩) _, .forgot rfl⟩
          · exact ⟨_, _, waits, .waits rfl .reset (fun _ => situation.slot_halted) tells.halted⟩
      | await =>
          have begun := standing.add Call.await.plan
          obtain ⟨-, apart⟩ := begun.visits _ _ rfl
          have outside : ∀ driver, ((world.outline.add (.fresh none Call.await.plan)).holdings
              driver).slot ≠ some world.outline.count := by
            rintro ⟨⟩
            rw [begun.slot_eq]
            exact apart
          refine .settle [()] outside ?_ fun _ => .done ?_
          · intro driver held others holding unended
            have different : held ≠ world.outline.count := by
              rintro rfl
              exact outside driver holding
            exact ⟨situation, _, begun.join different,
              .waits rfl (.await _) (fun other => absurd rfl other) tells⟩
          · exact ⟨situation, none, begun.close_visitor (.inl ⟨rfl, rfl⟩) _,
              .free (fun id => by simp [Record.begins]) tells⟩

end Turns

/-! ## Manners -/

/-- Operations give the driver its tasks, and tasks of the driver give it none. -/
def manners : Etiquette Alone Unit Empty where
  writes _ _ := True
  calls _ _ := False
  hands owner _ := owner = none
  hands_other _ handed := by cases handed

theorem machine_decorous : machine.Decorous manners := fun _ procedure => nomatch procedure

theorem decorous_script (showing : Showing) :
    (seat.script showing.preferences showing.ending showing.tier : Plan).Decorous manners (some ()) := by
  have texts : ∀ texts : List Localized,
      (seat.playTexts showing.preferences showing.tier
        (.pause closingBeat (.update (seat.modify complete) .stop)) texts : Plan).Decorous manners
          (some ()) := by
    intro texts
    induction texts with
    | nil => exact ⟨nofun, trivial, trivial⟩
    | cons text texts inductionHypothesis => exact ⟨nofun, trivial, inductionHypothesis⟩
  exact ⟨nofun, texts showing.ending.texts⟩

theorem Call.decorous (call : Call) : call.plan.Decorous manners none := by
  cases call with
  | play showing => exact ⟨trivial, trivial, rfl, decorous_script showing, trivial⟩
  | reset => exact ⟨rfl, trivial, trivial⟩
  | cancel => exact ⟨rfl, trivial⟩
  | await => exact ⟨rfl, trivial⟩

/-! ## One call after the other -/

section Histories

variable {record : Record} {world after : Setting} {showing : Showing}

/-- An epilogue that is given one call after the other. -/
structure Sound (record : Record) (world : Setting) : Prop where
  attended : world.Attended manners (record.flight.map Prod.fst)
  lands : World.Lands machine (fun after => Stands record after.outline) world

theorem flight_begins (record : Record) (id : TaskId) (call : Call) :
    (record.begins id call).flight = some (id, call) := by
  cases call <;> rfl

theorem flight_returns (record : Record) (call : Call) : (record.returns call).flight = none := by
  cases call <;> rfl

/-- A task that has ended is not seen among those that go on. -/
theorem not_found_of_ended {id : TaskId} (ended : (world.outcome? id).isSome = true) :
    world.outline.tasks id = none := by
  cases found : world.outline.tasks id with
  | none => rfl
  | some task =>
      have noOutcome : world.outcome? id = none := World.no_outcome found
      simp [noOutcome] at ended

/-- What is remembered when a call returns. -/
theorem Stands.returns {id : TaskId} {call : Call} (stands : Stands record world.outline)
    (flight : record.flight = some (id, call)) (ended : (world.outcome? id).isSome = true) :
    Stands (record.returns call) world.outline := by
  obtain ⟨situation, visitor, standing, fits⟩ := stands
  cases fits with
  | @waits _ waiting _ plan flight' residue vacant tells =>
      rw [flight] at flight'
      cases flight'
      obtain ⟨found, -⟩ := standing.visits id plan rfl
      rw [not_found_of_ended ended] at found
      cases found
  | free others tells =>
      refine ⟨situation, none, standing, .free (fun other => by simp [flight_returns]) ?_⟩
      cases call with
      | reset => exact absurd flight (others id)
      | _ => exact tells
  | forgot flight' =>
      rw [flight] at flight'
      cases flight'
      exact ⟨.blank, none, standing, .free (fun other => by simp [flight_returns]) (.blank _)⟩

namespace Sound

theorem stands (sound : Sound record world) (noTurn : world.running = none) :
    Stands record world.outline :=
  sound.lands.reached noTurn

theorem construct : Sound .blank (World.initial initial) := by
  refine ⟨.initial _, .here rfl ⟨.blank, none, ?_, .free nofun (.blank false)⟩⟩
  exact
    { looks := rfl
      holding := rfl
      within := nofun
      performs := nofun
      ended := nofun
      visits := nofun
      only := by
        intro id task found
        cases found }

theorem begin (sound : Sound record world) (noTurn : world.running = none)
    (alone : record.flight = none) (call : Call) :
    Sound (record.begins world.tasks.length call) (world.begin call.plan).2 := by
  refine ⟨?_, lands_call (sound.stands noTurn) alone call⟩
  have attended : world.Attended manners none := by
    have attended := sound.attended
    rwa [alone] at attended
  rw [flight_begins]
  exact attended.begin noTurn call.decorous

theorem step (sound : Sound record world) : Sound record (world.step machine) := by
  refine ⟨sound.attended.step machine_decorous, ?_⟩
  cases turn : world.running with
  | some id => exact sound.lands.onward turn
  | none =>
      have stands := sound.stands turn
      rcases World.step_cases machine sound.attended.balanced turn with
        ⟨noTurn, same, -⟩ | ⟨id, task, base, found, same, stepped, -⟩
      · exact .here noTurn (same ▸ stands)
      · have sameStore : base.store = world.store := congrArg Outline.store same
        rw [stepped, ← sameStore]
        exact lands_turn (same ▸ stands) (same ▸ found)

theorem release {position : Nat} {released : Setting} (sound : Sound record world)
    (noTurn : world.running = none) (wait : world.release? position = some released) :
    Sound record released := by
  refine ⟨sound.attended.release? wait, .here ?_ ?_⟩
  · obtain ⟨_, _, rfl⟩ := World.release?_eq_some.mp wait
    exact noTurn
  · rw [World.outline_release? sound.attended.balanced wait]
    exact sound.stands noTurn

theorem complete {id : TaskId} {call : Call} (sound : Sound record world)
    (noTurn : world.running = none) (flight : record.flight = some (id, call))
    (ended : (world.outcome? id).isSome = true) : Sound (record.returns call) world := by
  obtain ⟨outcome, isOver⟩ := Option.isSome_iff_exists.mp ended
  refine ⟨?_, .here noTurn ((sound.stands noTurn).returns flight ended)⟩
  rw [flight_returns]
  have attended := sound.attended
  rw [flight] at attended
  exact attended.complete isOver

theorem of_occurs (occurs : Occurs record world) : Sound record world := by
  induction occurs with
  | construct => exact construct
  | begin call _ noTurn alone inductionHypothesis => exact inductionHypothesis.begin noTurn alone call
  | step _ inductionHypothesis => exact inductionHypothesis.step
  | release _ noTurn _ wait inductionHypothesis => exact inductionHypothesis.release noTurn wait
  | complete _ noTurn flight ended inductionHypothesis =>
      exact inductionHypothesis.complete noTurn flight ended

end Sound

end Histories

end Playthrough.Epilogue.Alone
