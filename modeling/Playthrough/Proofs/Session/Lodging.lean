import Playthrough.Proofs.Task.Lodging
import Playthrough.Session.Operations

/-!
Contract: the programs of a play-through that lodges in a larger world.

Owns: when a part of a store can be changed for itself (`Lodging.Lawful`), the seats of a lodging play-through
in the larger world, and that every program of a play-through there is the lodger's own.

Does not own: which larger worlds there are.

All programs of a play-through read and change the store by way of its seat. Where the seat is moved into a
larger world, they are moved with it.
-/

namespace Playthrough

variable {Inner Room Errand Word Store Driver Procedure Answer : Type}

/-- The lodger's part of a store changes like a store of its own. -/
structure Lodging.Lawful (lodging : Lodging Inner Room Errand Word Store Driver Procedure Answer) : Prop where
  amend_same : (lodging.amend fun part => part) = fun store => store
  amend_amend : ∀ first second,
    (fun store => lodging.amend second (lodging.amend first store)) =
      lodging.amend fun part => second (first part)
  /-- A change depends on nothing but the part that it is made to. -/
  amend_view : ∀ change store,
    lodging.amend (fun _ => change (lodging.view store)) store = lodging.amend change store

namespace Lodging.Lawful

variable {lodging : Lodging Inner Room Errand Word Store Driver Procedure Answer}

theorem amend_apply (lawful : lodging.Lawful) (first second : Inner → Inner) (store : Store) :
    lodging.amend second (lodging.amend first store) = lodging.amend (fun part => second (first part)) store :=
  congrFun (lawful.amend_amend first second) store

/-- A change that is chosen by the part itself. -/
theorem amend_chosen (lawful : lodging.Lawful) (choose : Inner → Inner → Inner) (store : Store) :
    lodging.amend (fun part => choose part part) store =
      lodging.amend (choose (lodging.view store)) store :=
  (lawful.amend_view (fun part => choose part part) store).symm.trans
    (lawful.amend_view (choose (lodging.view store)) store)

/-- Changes one after the other. -/
theorem foldl_amend (lawful : lodging.Lawful) {Item : Type} (change : Inner → Item → Inner)
    (items : List Item) (store : Store) :
    items.foldl (fun reached item => lodging.amend (fun part => change part item) reached) store =
      lodging.amend (fun part => items.foldl change part) store := by
  induction items generalizing store with
  | nil => exact (congrFun lawful.amend_same store).symm
  | cons item items inductionHypothesis =>
      simp only [List.foldl_cons, inductionHypothesis]
      exact lawful.amend_apply _ _ store

end Lodging.Lawful

variable (lodging : Lodging Inner Room Errand Word Store Driver Procedure Answer)

theorem Program.lodged_ite {condition : Prop} [Decidable condition]
    (program other : Program Inner Room Errand Word) :
    (if condition then program else other).lodged lodging =
      if condition then program.lodged lodging else other.lodged lodging :=
  apply_ite _ _ _ _

/-! ## Interpreters -/

/-- An interpreter's seat in the larger world. -/
def Seat.lodged (seat : Seat Inner Room Errand Word) : Seat Store Driver Procedure Answer :=
  { driver := lodging.door seat.driver
    walk := lodging.procedure seat.walk
    get := fun store => seat.get (lodging.view store)
    modify := fun change => lodging.amend (seat.modify change)
    record := fun event => lodging.amend (seat.record event)
    award := fun points => lodging.amend (seat.award points)
    onFinish := seat.onFinish.lodged lodging
    warn := fun warning => lodging.amend (seat.warn warning) }

namespace Seat

variable (seat : Seat Inner Room Errand Word) (next : Program Inner Room Errand Word)
variable (interpreter : Interpreter)

theorem lodged_emitLines (kind : EventKind) (beat : Duration) (texts : List String) :
    (seat.emitLines kind beat next texts).lodged lodging =
      (seat.lodged lodging).emitLines kind beat (next.lodged lodging) texts := by
  induction texts with
  | nil => rfl
  | cons text rest inductionHypothesis =>
      cases rest with
      | nil => rfl
      | cons => simp only [emitLines, emit, Program.lodged, inductionHypothesis, Seat.lodged]

theorem lodged_emitAfterBeats (kind : EventKind) (beat : Duration) (texts : List String) :
    (seat.emitAfterBeats kind beat next texts).lodged lodging =
      (seat.lodged lodging).emitAfterBeats kind beat (next.lodged lodging) texts := by
  induction texts with
  | nil => rfl
  | cons text rest inductionHypothesis =>
      simp only [emitAfterBeats, emit, Program.lodged, inductionHypothesis, Seat.lodged]

theorem lodged_waitFor (wait : Option Duration) (waiting : Duration → Program Inner Room Errand Word) :
    (waitFor wait waiting).lodged lodging = waitFor wait fun duration => (waiting duration).lodged lodging := by
  cases wait <;> rfl

theorem lodged_suspend (threshold duration : Duration) :
    (seat.suspend threshold next duration).lodged lodging =
      (seat.lodged lodging).suspend threshold (next.lodged lodging) duration := by
  simp only [suspend, Program.lodged_ite]
  rfl

theorem lodged_playNarrative (block : NarrativeBlock) :
    (seat.playNarrative interpreter block next).lodged lodging =
      (seat.lodged lodging).playNarrative interpreter block (next.lodged lodging) := by
  simp only [playNarrative]
  cases block.description <;> rfl

theorem lodged_playMessages (block : MessageBlock) :
    (seat.playMessages interpreter block next).lodged lodging =
      (seat.lodged lodging).playMessages interpreter block (next.lodged lodging) := by
  simp only [playMessages, Program.lodged_ite, lodged_emitLines, lodged_suspend, lodged_waitFor]

theorem lodged_playLines (block : DialogueBlock) :
    (seat.playLines interpreter block next).lodged lodging =
      (seat.lodged lodging).playLines interpreter block (next.lodged lodging) := by
  simp only [playLines, Program.lodged_ite, lodged_emitLines, lodged_waitFor]
  congr 2
  funext duration
  rw [lodged_suspend, lodged_emitLines]

theorem lodged_playDialogue (block : DialogueBlock) :
    (seat.playDialogue interpreter block next).lodged lodging =
      (seat.lodged lodging).playDialogue interpreter block (next.lodged lodging) := by
  simp only [playDialogue]
  cases block.action with
  | none => exact seat.lodged_playLines lodging next interpreter block
  | some action => simp only [emit, Program.lodged, lodged_playLines, Seat.lodged]

theorem lodged_finish : seat.finish.lodged lodging = (seat.lodged lodging).finish := by
  simp only [finish, Program.lodged, Program.lodged_ite]
  rfl

theorem lodged_afterBlock : seat.afterBlock.lodged lodging = (seat.lodged lodging).afterBlock := by
  simp only [afterBlock, Program.lodged]
  congr 1
  funext store
  simp only [Seat.lodged]
  split
  · rw [Program.lodged_ite]
    rfl
  · rfl

theorem lodged_playNode (node : Node) :
    (seat.playNode interpreter node).lodged lodging = (seat.lodged lodging).playNode interpreter node := by
  cases node with
  | narrative block => exact seat.lodged_playNarrative lodging _ interpreter block
  | messages block =>
      simp only [playNode, lodged_playMessages, Program.lodged_ite, Program.lodged, lodged_afterBlock]
      rfl
  | dialogue block =>
      simp only [playNode, lodged_playDialogue, Program.lodged, lodged_afterBlock]
  | choice node =>
      simp only [playNode, Program.lodged_ite]
      rfl
  | system event =>
      simp only [playNode, Program.lodged_ite]
      congr 1
      cases event.label with
      | none => exact seat.lodged_finish lodging
      | some label =>
          simp only [Program.lodged_ite, lodged_finish]
          rfl
  | foreign node => rfl

theorem lodged_walkBody : seat.walkBody.lodged lodging = (seat.lodged lodging).walkBody := by
  simp only [walkBody, Program.lodged]
  congr 1
  funext store
  simp only [Seat.lodged]
  split
  · exact seat.lodged_finish lodging
  · exact congrArg Program.check (seat.lodged_playNode lodging _ _)

theorem lodged_openScene : seat.openScene.lodged lodging = (seat.lodged lodging).openScene := by
  simp only [openScene, Program.lodged]
  congr 1
  funext store
  simp only [Seat.lodged]
  split <;> rfl

theorem lodged_playBranchNarrative (choice : Choice) :
    (seat.playBranchNarrative interpreter choice next).lodged lodging =
      (seat.lodged lodging).playBranchNarrative interpreter choice (next.lodged lodging) := by
  simp only [playBranchNarrative]
  cases choice.narrative <;> rfl

theorem lodged_playTextBranch (choice : Choice) :
    (seat.playTextBranch interpreter choice next).lodged lodging =
      (seat.lodged lodging).playTextBranch interpreter choice (next.lodged lodging) := by
  simp only [playTextBranch, lodged_playBranchNarrative, Program.lodged_ite, lodged_waitFor]
  congr 2
  · congr 1
    funext duration
    rw [lodged_suspend, lodged_emitAfterBeats]
    rfl

theorem lodged_playEncounterBranch (choice : Choice) :
    (seat.playEncounterBranch interpreter choice next).lodged lodging =
      (seat.lodged lodging).playEncounterBranch interpreter choice (next.lodged lodging) := by
  simp only [playEncounterBranch, lodged_waitFor]
  congr 1
  funext duration
  rw [lodged_suspend, lodged_playBranchNarrative, lodged_emitLines]
  rfl

theorem lodged_playBranch (choice : Option Choice) :
    (seat.playBranch choice next).lodged lodging =
      (seat.lodged lodging).playBranch choice (next.lodged lodging) := by
  cases choice with
  | none => rfl
  | some choice =>
      simp only [playBranch, Program.lodged]
      congr 1
      funext store
      simp only [Seat.lodged]
      split
      · exact seat.lodged_playTextBranch lodging next _ choice
      · exact seat.lodged_playEncounterBranch lodging next _ choice

theorem lodged_resume (choice : Option Choice) :
    (seat.resume choice).lodged lodging = (seat.lodged lodging).resume choice := by
  rw [resume, lodged_playBranch]
  congr 1
  simp only [afterChoice, Program.lodged]
  congr 2
  funext store
  simp only [Seat.lodged]
  split
  · rw [Program.lodged_ite]
    rfl
  · rfl

variable {lodging} (lawful : lodging.Lawful)

include lawful

theorem lodged_start (preferences : Preferences) :
    (seat.start preferences next).lodged lodging =
      (seat.lodged lodging).start preferences (next.lodged lodging) := by
  have header : (lodging.amend fun part => seat.recordHeader (seat.get part) part) =
      fun store => (seat.lodged lodging).recordHeader ((seat.lodged lodging).get store) store := by
    funext store
    rw [lawful.amend_chosen fun part => seat.recordHeader (seat.get part)]
    exact (lawful.foldl_amend _ _ store).symm
  simp only [start, reset, Program.lodged, lodged_openScene, header]
  rfl

theorem lodged_select (offer : Offer) (refused accepted : Program Inner Room Errand Word) :
    (seat.select offer refused accepted).lodged lodging =
      (seat.lodged lodging).select offer (refused.lodged lodging) (accepted.lodged lodging) := by
  have applies : ∀ nodeId choice, lodging.amend (seat.applyChoice offer nodeId choice) =
      (seat.lodged lodging).applyChoice offer nodeId choice := by
    intro nodeId choice
    funext store
    cases choice with
    | none =>
        simp only [applyChoice, Seat.lodged, lawful.amend_apply]
        rfl
    | some choice =>
        simp only [applyChoice, Seat.lodged, lawful.amend_apply]
        rfl
  simp only [select, Program.lodged, Program.lodged_ite, lodged_resume, applies]
  rfl

end Seat

/-! ## Epilogues -/

/-- An epilogue's seat in the larger world. -/
def Epilogue.Seat.lodged (seat : Epilogue.Seat Inner Room) : Epilogue.Seat Store Driver :=
  { driver := lodging.door seat.driver
    modify := fun change => lodging.amend (seat.modify change)
    record := fun event => lodging.amend (seat.record event) }

namespace Epilogue.Seat

variable (seat : Epilogue.Seat Inner Room)

theorem lodged_script (preferences : Preferences) (ending : Ending) (tier : Option Tier) :
    (seat.script preferences ending tier : Program Inner Room Errand Word).lodged lodging =
      (seat.lodged lodging).script preferences ending tier := by
  have texts : ∀ (next : Program Inner Room Errand Word) (texts : List Localized),
      (seat.playTexts preferences tier next texts).lodged lodging =
        (seat.lodged lodging).playTexts preferences tier (next.lodged lodging) texts := by
    intro next texts
    induction texts with
    | nil => rfl
    | cons text rest inductionHypothesis =>
        simp only [playTexts, Program.lodged, inductionHypothesis, Epilogue.Seat.lodged]
  simp only [script, Program.lodged, texts]
  rfl

theorem lodged_play (preferences : Preferences) (ending : Ending) (tier : Option Tier)
    (next : Program Inner Room Errand Word) : (seat.play preferences ending tier next).lodged lodging =
      (seat.lodged lodging).play preferences ending tier (next.lodged lodging) := by
  simp only [play, Program.lodged, lodged_script]
  rfl

end Epilogue.Seat

/-! ## Play-throughs -/

namespace Session.Seat

/-- A play-through's seat in the larger world. -/
def lodged (seat : Session.Seat Inner Room Errand) : Session.Seat Store Driver Procedure :=
  { driver := fun role => lodging.door (seat.driver role)
    walk := fun kind => lodging.procedure (seat.walk kind)
    get := fun store => seat.get (lodging.view store)
    modify := fun change => lodging.amend (seat.modify change)
    deliver := fun role event => lodging.amend (seat.deliver role event)
    warn := fun warning => lodging.amend (seat.warn warning) }

variable {lodging} (lawful : lodging.Lawful) (seat : Session.Seat Inner Room Errand)
variable (next refused accepted : Program Inner Room Errand Word)

include lawful

theorem lodged_epilogue : seat.epilogue.lodged lodging = (seat.lodged lodging).epilogue := by
  simp only [epilogue, Epilogue.Seat.lodged, lodged]
  congr 1
  funext event store
  exact (lawful.amend_apply _ _ store).symm

theorem lodged_finishEncounter :
    (seat.finishEncounter next).lodged lodging = (seat.lodged lodging).finishEncounter (next.lodged lodging) := by
  simp only [finishEncounter, Program.lodged, Epilogue.Seat.lodged_play, lodged_epilogue lawful]
  rfl

theorem lodged_interpreter (kind : SceneKind) :
    (seat.interpreter kind : Playthrough.Seat Inner Room Errand Word).lodged lodging =
      (seat.lodged lodging).interpreter kind := by
  have records : ∀ event, (lodging.amend fun store => seat.deliver (roleOf kind) event
        (seat.modify (modifyInterpreter kind fun interpreter => interpreter.record event) store)) =
      fun store => lodging.amend (seat.deliver (roleOf kind) event)
        (lodging.amend (seat.modify (modifyInterpreter kind fun interpreter => interpreter.record event))
          store) := by
    intro event
    funext store
    exact (lawful.amend_apply _ _ store).symm
  cases kind with
  | text => simp only [interpreter, Playthrough.Seat.lodged, records, Program.stop, Program.lodged,
      Option.map_none, lodged]
  | encounter => simp only [interpreter, Playthrough.Seat.lodged, records, lodged_finishEncounter lawful,
      Program.stop, Program.lodged, Option.map_none, lodged]

theorem lodged_walkBody (kind : SceneKind) :
    (seat.interpreter kind : Playthrough.Seat Inner Room Errand Word).walkBody.lodged lodging =
      ((seat.lodged lodging).interpreter kind : Playthrough.Seat Store Driver Procedure Answer).walkBody := by
  rw [Playthrough.Seat.lodged_walkBody, lodged_interpreter lawful]

theorem lodged_start (kind : SceneKind) (preferences : Preferences) :
    ((seat.interpreter kind).start preferences next).lodged lodging =
      ((seat.lodged lodging).interpreter kind).start preferences (next.lodged lodging) := by
  rw [Playthrough.Seat.lodged_start _ _ lawful, lodged_interpreter lawful]

theorem lodged_begin : (seat.begin next).lodged lodging = (seat.lodged lodging).begin (next.lodged lodging) := by
  simp only [begin, Program.lodged, lodged_start lawful]
  rfl

theorem lodged_enterEncounter :
    (seat.enterEncounter next).lodged lodging = (seat.lodged lodging).enterEncounter (next.lodged lodging) := by
  simp only [enterEncounter, Program.lodged, lodged_start lawful]
  rfl

theorem lodged_triggerTransition : (seat.triggerTransition refused accepted).lodged lodging =
    (seat.lodged lodging).triggerTransition (refused.lodged lodging) (accepted.lodged lodging) := by
  simp only [triggerTransition, Program.lodged, Program.lodged_ite, lodged_enterEncounter lawful]
  rfl

theorem lodged_beginEncounter : (seat.beginEncounter refused accepted).lodged lodging =
    (seat.lodged lodging).beginEncounter (refused.lodged lodging) (accepted.lodged lodging) := by
  simp only [beginEncounter, Program.lodged, Program.lodged_ite, lodged_enterEncounter lawful]
  rfl

theorem lodged_select (id : String) : (seat.select id refused accepted).lodged lodging =
    (seat.lodged lodging).select id (refused.lodged lodging) (accepted.lodged lodging) := by
  simp only [select, Program.lodged]
  congr 1
  funext store
  simp only [lodged]
  split
  · rfl
  · split
    · rw [Playthrough.Seat.lodged_select _ lawful, lodged_interpreter lawful]
      rfl
    · rfl

omit lawful

theorem lodged_restart (preferences : Option Preferences) : (seat.restart preferences next).lodged lodging =
    (seat.lodged lodging).restart preferences (next.lodged lodging) := by
  simp only [restart, Playthrough.Seat.reset, Epilogue.Seat.reset, Program.lodged]
  rfl

end Session.Seat

end Playthrough
