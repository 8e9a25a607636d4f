import Playthrough.Proofs.Session.Alteration
import Playthrough.Proofs.Task.Clearance

/-!
Contract: a restart clears a play-through, in whichever world it lives.

Owns: what is forgotten of a driver (`Session.Seat.Forgotten`), the stages of a restart (`Session.Seat.Clears`),
and that it goes through them to where nothing is left of what was before it (`Session.Seat.Clear`), whatever the
drivers do meanwhile.

Does not own: what the restart goes on with, and that its turn comes.

A restart goes through the drivers in their order. Whoever could make a task for a driver, or change its
part, comes before it, so nothing that was forgotten comes back.
-/

namespace Playthrough.Session

variable {role : Role}

/-! ## What is forgotten -/

namespace Alone

/-- Takes the part of a driver back to the beginning. -/
def cleanse : Role → Session → Session
  | .text => modifyInterpreter .text Interpreter.reset
  | .encounter => modifyInterpreter .encounter Interpreter.reset
  | .epilogue => modifyEpilogue fun _ => .blank

/-- A part of a play-through is as it was in the beginning, but for the preferences that it was played with.
-/
def Pristine (session : Session) : Role → Prop
  | .text => session.text.reset = session.text
  | .encounter => session.encounter.reset = session.encounter
  | .epilogue => session.epilogue = .blank

theorem Pristine.of_part {session later : Session} (clean : Pristine session role)
    (part : SamePart session later role) : Pristine later role := by
  cases role with
  | text => exact (congrArg Interpreter.reset part).trans (clean.trans part.symm)
  | encounter => exact (congrArg Interpreter.reset part).trans (clean.trans part.symm)
  | epilogue => exact part.trans clean

theorem pristine_cleanse (session : Session) (role : Role) : Pristine (cleanse role session) role := by
  cases role <;> rfl

theorem samePart_cleanse (session : Session) {other : Role} (different : other ≠ role) :
    SamePart session (cleanse role session) other := by
  cases role <;> cases other <;> first | rfl | exact absurd rfl different

/-- A play-through has no points and is before the text scene, with chosen preferences. -/
structure Anew (chosen : Preferences) (session : Session) : Prop where
  phase : session.phase = .textScene
  score : session.score = 0
  preferences : session.preferences = chosen

end Alone

/-! ## The order of the drivers -/

/-- The drivers that are cleared last. -/
theorem suffixes_all {todo : List Role} (suffix : todo <:+ Role.all) :
    todo = Role.all ∨ todo = [.encounter, .epilogue] ∨ todo = [.epilogue] ∨ todo = [] := by
  simpa [Role.all, List.suffix_cons_iff] using suffix

/-- Whoever could change the part of a driver that was cleared was cleared before it. -/
theorem cleared_of_reaches {todo : List Role} {driver : Role} (suffix : todo <:+ Role.all)
    (reaches : Reaches (some driver) role) (done : role ∉ todo) : driver ∉ todo := by
  rcases reaches with rfl | ⟨rfl, rfl⟩
  · exact done
  · rcases suffixes_all suffix with rfl | rfl | rfl | rfl <;> simp_all [Role.all]

/-- Whoever could make a task for the driver that is to be cleared next was cleared before it. -/
theorem cleared_of_hands {rest : List Role} (suffix : role :: rest <:+ Role.all) (same : role = .epilogue) :
    Role.encounter ∉ role :: rest := by
  subst same
  rcases suffixes_all suffix with impossible | impossible | last | impossible
  · cases impossible
  · cases impossible
  · simp [last]
  · cases impossible

namespace Seat

variable {Store Answer : Type} {seat : Seat Store Role SceneKind} {etiquette : Etiquette Store Role SceneKind}
variable {again : Option Preferences} {chosen : Preferences} {id : TaskId}
variable {next : Program Store Role SceneKind Answer} {world after : World Store Role SceneKind Answer}

/-- Whoever keeps to the manners of a world changes of its play-through what it may, and only the encounter makes
a task for another driver, the epilogue. -/
structure Restrains (seat : Seat Store Role SceneKind) (etiquette : Etiquette Store Role SceneKind) : Prop where
  get_modify : ∀ change store, seat.get (seat.modify change store) = change (seat.get store)
  writes : ∀ {owner change}, etiquette.writes owner change → ∀ store,
    Permits owner (seat.get store) (seat.get (change store))
  hands : ∀ {driver role}, etiquette.hands (some driver) role → driver = .encounter ∧ role = .epilogue

/-- A driver holds no task, none of its tasks goes on, and its part is clean. -/
structure Forgotten (seat : Seat Store Role SceneKind) (world : World Store Role SceneKind Answer) (role : Role) :
    Prop where
  cleared : world.Cleared role
  clean : Alone.Pristine (seat.get world.store) role

theorem Forgotten.of_part (forgotten : seat.Forgotten world role) (cleared : after.Cleared role)
    (part : SamePart (seat.get world.store) (seat.get after.store) role) : seat.Forgotten after role :=
  ⟨cleared, forgotten.clean.of_part part⟩

theorem Forgotten.of_store (forgotten : seat.Forgotten world role) (cleared : after.Cleared role)
    (store : after.store = world.store) : seat.Forgotten after role :=
  forgotten.of_part cleared (.of_same (congrArg seat.get store) role)

/-- What was forgotten stays so while others move. -/
theorem Forgotten.of_leads (restrains : seat.Restrains etiquette) (forgotten : seat.Forgotten world role)
    (attended : world.Attended etiquette (some id)) (leads : world.Leads etiquette after)
    (idle : world.running ≠ some id)
    (done : ∀ driver, Reaches (some driver) role → seat.Forgotten world driver) : seat.Forgotten after role := by
  have cleared := forgotten.cleared.of_leads attended leads (fun _ => idle) fun other hands =>
    (done other (.inr (restrains.hands hands))).cleared
  refine forgotten.of_part cleared ?_
  rcases leads.store with same | ⟨acting, owner, change, turn, own, writes, changed⟩
  · exact .of_same (congrArg seat.get same) role
  · obtain ⟨driver, rfl⟩ := attended.driver_of_acting (fun _ => idle) turn own
    have unreached : ¬Reaches (some driver) role := fun reaches =>
      (done driver reaches).cleared.not_acting attended.balanced turn own
    rw [changed]
    exact (restrains.writes writes world.store).parts role unreached

/-- Nobody but the restart changes the preferences of the play-through. -/
theorem Restrains.preferences_of_leads (restrains : seat.Restrains etiquette)
    (attended : world.Attended etiquette (some id)) (leads : world.Leads etiquette after)
    (idle : world.running ≠ some id) :
    (seat.get after.store).preferences = (seat.get world.store).preferences := by
  rcases leads.store with same | ⟨acting, owner, change, turn, own, writes, changed⟩
  · rw [same]
  · obtain ⟨driver, rfl⟩ := attended.driver_of_acting (fun _ => idle) turn own
    rw [changed]
    exact (restrains.writes writes world.store).preferences (Option.some_ne_none driver)

/-! ## The stages of a restart -/

/-- What is left of a restart when some drivers have still to be cleared. -/
def forgetting (seat : Seat Store Role SceneKind) (again : Option Preferences)
    (next : Program Store Role SceneKind Answer) : List Role → Program Store Role SceneKind Answer
  | [] => .update (seat.modify (restarted again)) next
  | role :: rest => .cancel role (.update (seat.modify (Alone.cleanse role)) (seat.forgetting again next rest))

/-- The stages of a restart. -/
inductive Clears (seat : Seat Store Role SceneKind) (again : Option Preferences) (chosen : Preferences)
    (id : TaskId) (next : Program Store Role SceneKind Answer) (world : World Store Role SceneKind Answer) :
    Prop where
  /-- It takes the task of the next driver. -/
  | takes (todo : List Role) (suffix : todo <:+ Role.all) (turn : world.running = some id)
      (asks : world.Asks id (seat.forgetting again next todo))
      (done : ∀ role, role ∉ todo → seat.Forgotten world role)
      (kept : again.getD (seat.get world.store).preferences = chosen)
  /-- It waits until that task has ended. -/
  | waits (role : Role) (rest : List Role) (suffix : role :: rest <:+ Role.all)
      (asks : world.Asks id (.update (seat.modify (Alone.cleanse role)) (seat.forgetting again next rest)))
      (vacant : world.holdings role = { slot := none, live := none })
      (done : ∀ other, other ∉ role :: rest → seat.Forgotten world other)
      (kept : again.getD (seat.get world.store).preferences = chosen)

/-- Nothing is left of what was before a restart, which goes on with something else. -/
structure Clear (seat : Seat Store Role SceneKind) (chosen : Preferences) (id : TaskId)
    (next : Program Store Role SceneKind Answer) (world : World Store Role SceneKind Answer) : Prop where
  turn : world.running = some id
  asks : world.Asks id next
  done : ∀ role, seat.Forgotten world role
  anew : Alone.Anew chosen (seat.get world.store)

namespace Clears

/-- A restart begins with nothing forgotten. -/
theorem begins (turn : world.running = some id) (asks : world.Asks id (seat.forgetting again next Role.all)) :
    seat.Clears again (again.getD (seat.get world.store).preferences) id next world := by
  refine .takes Role.all List.suffix_rfl turn asks (fun role missing => ?_) rfl
  cases role <;> simp [Role.all] at missing

variable {machine : Machine Store Role SceneKind Answer}

/-- The next driver's task is taken from it. -/
theorem of_takes {rest : List Role} (suffix : role :: rest <:+ Role.all)
    (attended : world.Attended etiquette (some id)) (turn : world.running = some id)
    (asks : world.Asks id (seat.forgetting again next (role :: rest)))
    (done : ∀ other, other ∉ role :: rest → seat.Forgotten world other)
    (kept : again.getD (seat.get world.store).preferences = chosen) :
    seat.Clears again chosen id next (world.step machine) := by
  let goesOn : Program Store Role SceneKind Answer :=
    .update (seat.modify (Alone.cleanse role)) (seat.forgetting again next rest)
  let taken := (world.setHolding role { slot := none, live := none }).proceed id (.run goesOn) []
  have takes : world.Asks id (.cancel role goesOn) := asks
  have vacant : taken.holdings role = { slot := none, live := none } :=
    World.holdings_setHolding_self world role _
  have cleared : ∀ other, other ∉ role :: rest → taken.Cleared other := fun other before =>
    ((done other before).cleared.vacate role).proceed world.store _ _
  cases slot : (world.holdings role).slot with
  | none =>
      rw [takes.step_cancel machine turn slot]
      exact .waits role rest suffix (takes.proceed _ rfl) vacant (fun other before =>
        (done other before).of_store (cleared other before) rfl) kept
  | some held =>
      rw [takes.step_cancel_held machine turn slot (asks.different (attended.decorous.slots role held slot))]
      have asksNext : taken.Asks id goesOn := takes.proceed _ rfl
      have marked : (taken.cancelTask held).Asks id goesOn :=
        asksNext.of_same (by rw [World.bare_cancelTask]) World.isUnended_cancelTask
      have store : ((taken.cancelTask held).join id held).yieldTurn.store = world.store := by
        rw [World.yieldTurn, World.store_join, World.store_cancelTask]
        rfl
      refine .waits role rest suffix (takes.cancel held) ?_ (fun other before => ?_) ?_
      · rw [World.yieldTurn, World.holdings_join, World.holdings_cancelTask]
        exact vacant
      · refine (done other before).of_store ?_ store
        exact ((cleared other before).cancelTask held).join marked held
      · rw [store]
        exact kept

/-- The part of the driver whose tasks have all ended is forgotten. -/
theorem of_waits {rest : List Role} (restrains : seat.Restrains etiquette) (suffix : role :: rest <:+ Role.all)
    (attended : world.Attended etiquette (some id)) (turn : world.running = some id)
    (asks : world.Asks id (.update (seat.modify (Alone.cleanse role)) (seat.forgetting again next rest)))
    (vacant : world.holdings role = { slot := none, live := none })
    (done : ∀ other, other ∉ role :: rest → seat.Forgotten world other)
    (kept : again.getD (seat.get world.store).preferences = chosen) :
    seat.Clears again chosen id next (world.step machine) := by
  have cleansed := restrains.get_modify (Alone.cleanse role) world.store
  rw [asks.step_update machine turn]
  refine .takes rest ((List.suffix_cons role rest).trans suffix) turn (asks.proceed _ rfl) ?_ ?_
  · intro other cleared
    by_cases same : other = role
    · subst same
      refine ⟨(attended.cleared turn vacant).proceed _ _ _, ?_⟩
      show Alone.Pristine (seat.get (seat.modify (Alone.cleanse other) world.store)) other
      rw [cleansed]
      exact Alone.pristine_cleanse _ other
    · refine (done other (by simp [same, cleared])).of_part
        ((done other (by simp [same, cleared])).cleared.proceed _ _ _) ?_
      show SamePart _ (seat.get (seat.modify (Alone.cleanse role) world.store)) other
      rw [cleansed]
      exact Alone.samePart_cleanse _ same
  · show again.getD (seat.get (seat.modify (Alone.cleanse role) world.store)).preferences = chosen
    rw [cleansed]
    cases role <;> exact kept

/-- Phase, score and preferences are set. -/
theorem of_done (restrains : seat.Restrains etiquette) (turn : world.running = some id)
    (asks : world.Asks id (seat.forgetting again next [])) (done : ∀ role, seat.Forgotten world role)
    (kept : again.getD (seat.get world.store).preferences = chosen) :
    seat.Clear chosen id next (world.step machine) := by
  have last : world.Asks id (.update (seat.modify (restarted again)) next) := asks
  have set := restrains.get_modify (restarted again) world.store
  rw [last.step_update machine turn]
  refine ⟨turn, asks.proceed _ rfl, fun role => ?_, ?_⟩
  · refine (done role).of_part ((done role).cleared.proceed _ _ _) ?_
    show SamePart _ (seat.get (seat.modify (restarted again) world.store)) role
    rw [set]
    cases role <;> rfl
  · show Alone.Anew chosen (seat.get (seat.modify (restarted again) world.store))
    rw [set]
    exact ⟨rfl, rfl, kept⟩

/-- While the restart waits others move, and what was forgotten stays so. -/
theorem of_leads {rest : List Role} (restrains : seat.Restrains etiquette) (suffix : role :: rest <:+ Role.all)
    (attended : world.Attended etiquette (some id)) (leads : world.Leads etiquette after)
    (idle : world.running ≠ some id)
    (asks : world.Asks id (.update (seat.modify (Alone.cleanse role)) (seat.forgetting again next rest)))
    (vacant : world.holdings role = { slot := none, live := none })
    (done : ∀ other, other ∉ role :: rest → seat.Forgotten world other)
    (kept : again.getD (seat.get world.store).preferences = chosen) :
    seat.Clears again chosen id next after := by
  refine .waits role rest suffix (asks.of_leads attended.decorous leads idle) ?_ ?_ ?_
  · refine (leads.slots role vacant).resolve_right (attended.not_hands (fun _ => idle) fun other hands => ?_)
    obtain ⟨rfl, last⟩ := restrains.hands hands
    exact (done .encounter (cleared_of_hands suffix last)).cleared
  · intro other cleared
    exact (done other cleared).of_leads restrains attended leads idle fun driver reaches =>
      done driver (cleared_of_reaches suffix reaches cleared)
  · rw [restrains.preferences_of_leads attended leads idle]
    exact kept

/-- A step goes on with a restart until everything is forgotten. -/
theorem step (restrains : seat.Restrains etiquette) (machineDecorous : machine.Decorous etiquette)
    (clears : seat.Clears again chosen id next world) (attended : world.Attended etiquette (some id)) :
    seat.Clears again chosen id next (world.step machine) ∨ seat.Clear chosen id next (world.step machine) := by
  cases clears with
  | takes todo suffix turn asks done kept =>
      cases todo with
      | nil => exact .inr (of_done restrains turn asks (fun role => done role List.not_mem_nil) kept)
      | cons role rest => exact .inl (of_takes suffix attended turn asks done kept)
  | waits role rest suffix asks vacant done kept =>
      by_cases turn : world.running = some id
      · exact .inl (of_waits restrains suffix attended turn asks vacant done kept)
      · exact .inl (of_leads restrains suffix attended (attended.leads machineDecorous) turn asks vacant done kept)

/-- The end of a wait changes nothing of it. -/
theorem release? {position : Nat} (clears : seat.Clears again chosen id next world) (balanced : world.Balanced)
    (ends : world.release? position = some after) : seat.Clears again chosen id next after := by
  have asksAfter : ∀ {program : Program Store Role SceneKind Answer}, world.Asks id program →
      after.Asks id program := fun asks =>
    asks.of_same (by rw [World.bare_release? ends]) (World.isUnended_release? balanced ends)
  obtain ⟨held, -, released⟩ := World.release?_eq_some.mp ends
  have running : after.running = world.running := by rw [← released]; rfl
  have holdings : after.holdings = world.holdings := by rw [← released]; rfl
  have store : after.store = world.store := by rw [← released]; rfl
  have forgotten : ∀ {role : Role}, seat.Forgotten world role → seat.Forgotten after role := fun forgotten =>
    forgotten.of_store (forgotten.cleared.release? balanced ends) store
  cases clears with
  | takes todo suffix turn asks done kept =>
      exact .takes todo suffix (running.trans turn) (asksAfter asks) (fun role cleared => forgotten (done role cleared))
        (store ▸ kept)
  | waits role rest suffix asks vacant done kept =>
      exact .waits role rest suffix (asksAfter asks) ((congrFun holdings role).trans vacant)
        (fun other cleared => forgotten (done other cleared)) (store ▸ kept)

end Clears

end Seat

end Playthrough.Session
