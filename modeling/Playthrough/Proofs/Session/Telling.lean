import Playthrough.Proofs.Session.Demands

/-!
Contract: what listeners are told of a play-through.

Owns: the logs of the drivers and what their listeners were told (`logOf`, `heard`), what drivers and
operations make of both (`Recounts`), that all programs of a play-through keep to that (`recounting`), and
that since its log was last empty a driver has told what is in it (`Kept`).

Does not own: when logs are emptied.

Every change that writes an event tells the same event to the listeners. A log is taken back as a whole, and
nothing is told of that.
-/

namespace Playthrough.Session

/-- The log of a driver. -/
def logOf (session : Session) : Role → List SceneEvent
  | .text => session.text.events
  | .encounter => session.encounter.events
  | .epilogue => session.epilogue.events

theorem logOf_roleOf (session : Session) (kind : SceneKind) :
    session.logOf (roleOf kind) = (session.interpreter kind).events := by
  cases kind <;> rfl

namespace Alone

/-- What the listeners of a driver were told, the oldest first. Each of them is told everything. -/
def heard (store : Alone) (role : Role) : List SceneEvent :=
  store.deliveries.filterMap fun delivery => if delivery.1 = role then some delivery.2 else none

variable {owner : Option Role} {role : Role} {before between after : Alone}

/-! ## Logs and listeners -/

/-- A driver's log goes on with what its listeners are told. -/
def Adds (role : Role) (before after : Alone) : Prop :=
  ∃ told, after.heard role = before.heard role ++ told
    ∧ after.session.logOf role = before.session.logOf role ++ told

/-- A driver's log goes on with what its listeners are told, or they are told nothing and it is emptied. -/
def Tells (role : Role) (before after : Alone) : Prop :=
  Adds role before after ∨ after.heard role = before.heard role ∧ after.session.logOf role = []

theorem Adds.of_same (heard : after.heard role = before.heard role)
    (log : after.session.logOf role = before.session.logOf role) : Adds role before after :=
  ⟨[], by rw [heard, List.append_nil], by rw [log, List.append_nil]⟩

theorem Adds.refl (role : Role) (store : Alone) : Adds role store store := .of_same rfl rfl

theorem Adds.trans (former : Adds role before between) (latter : Adds role between after) :
    Adds role before after := by
  obtain ⟨told, heard, log⟩ := former
  obtain ⟨more, heardMore, logMore⟩ := latter
  exact ⟨told ++ more, by rw [heardMore, heard, List.append_assoc],
    by rw [logMore, log, List.append_assoc]⟩

/-- What was in a log that is added to stays at its beginning. -/
theorem Adds.grows_log (adds : Adds role before after) :
    before.session.logOf role <+: after.session.logOf role := by
  obtain ⟨told, -, log⟩ := adds
  exact ⟨told, log.symm⟩

/-- How much the listeners of a driver had been told when its log was last cleared. -/
def mark (since : Role → Nat) (before after : Alone) (role : Role) : Nat :=
  if before.session.logOf role ≠ [] ∧ after.session.logOf role = [] then (after.heard role).length
  else since role

/-- Since its log was last cleared the listeners of every driver were told what is in it. -/
def Kept (since : Role → Nat) (store : Alone) : Prop :=
  ∀ role, since role ≤ (store.heard role).length
    ∧ (store.heard role).drop (since role) = store.session.logOf role

/-- A log that goes on was told from where it was told before, and one that was cleared from there on. -/
theorem Kept.mark {since : Role → Nat} (kept : Kept since before)
    (tells : ∀ role, Tells role before after) : Kept (mark since before after) after := by
  intro role
  obtain ⟨inside, told⟩ := kept role
  unfold Alone.mark
  split
  next cleared => rw [cleared.2, List.drop_length]; exact ⟨le_rfl, rfl⟩
  next goesOn =>
    rcases tells role with ⟨more, heard, log⟩ | ⟨same, empty⟩
    · rw [heard, log, List.drop_append_of_le_length inside, told, List.length_append]
      exact ⟨by omega, rfl⟩
    · have wasEmpty : before.session.logOf role = [] := by
        by_contra written
        exact goesOn ⟨written, empty⟩
      rw [same, empty, told, wasEmpty]
      exact ⟨inside, rfl⟩

/-! ## What the changes of a play-through tell -/

theorem heard_deliver (other : Role) (event : SceneEvent) (store : Alone) :
    (seat.deliver other event store).heard role =
      store.heard role ++ if other = role then [event] else [] := by
  simp only [heard, seat, List.filterMap_append, List.filterMap_cons, List.filterMap_nil]
  split <;> simp_all

theorem logOf_modifyInterpreter_of_ne {kind : SceneKind} (different : roleOf kind ≠ role)
    (change : Interpreter → Interpreter) (session : Session) :
    (session.modifyInterpreter kind change).logOf role = session.logOf role := by
  cases kind <;> cases role <;> first | rfl | exact absurd rfl different

theorem logOf_modifyInterpreter (kind : SceneKind) (change : Interpreter → Interpreter)
    (session : Session) :
    (session.modifyInterpreter kind change).logOf (roleOf kind) =
      (change (session.interpreter kind)).events := by
  rw [logOf_roleOf, interpreter_modifyInterpreter]

theorem interpreter_modifyInterpreter_of_ne {kind other : SceneKind} (different : other ≠ kind)
    (change : Interpreter → Interpreter) (session : Session) :
    (session.modifyInterpreter kind change).interpreter other = session.interpreter other := by
  cases kind <;> cases other <;> first | rfl | exact absurd rfl different

/-- An interpreter writes an event. -/
theorem adds_record (kind : SceneKind) (event : SceneEvent) (store : Alone) :
    Adds role store ((sceneSeat kind).record event store) := by
  refine ⟨if roleOf kind = role then [event] else [], ?_, ?_⟩
  · exact heard_deliver _ _ _
  · show (store.session.modifyInterpreter kind _).logOf role = _
    split
    next same =>
      rw [← same, logOf_modifyInterpreter, logOf_roleOf]
      rfl
    next different => rw [logOf_modifyInterpreter_of_ne different, List.append_nil]

/-- An interpreter is changed, but not its log. -/
theorem adds_modify {kind : SceneKind} {change : Interpreter → Interpreter}
    (same : ∀ interpreter, (change interpreter).events = interpreter.events) (store : Alone) :
    Adds role store ((sceneSeat kind).modify change store) := by
  refine .of_same rfl ?_
  show (store.session.modifyInterpreter kind change).logOf role = _
  by_cases own : roleOf kind = role
  · rw [← own, logOf_modifyInterpreter, same, logOf_roleOf]
  · exact logOf_modifyInterpreter_of_ne own _ _

/-- The header of a scene is written. -/
theorem adds_recordHeader (kind : SceneKind) (interpreter : Interpreter) (store : Alone) :
    Adds role store ((sceneSeat kind).recordHeader interpreter store) := by
  unfold Seat.recordHeader
  generalize interpreter.scenario.header = lines
  induction lines generalizing store with
  | nil => exact .refl role store
  | cons line lines inductionHypothesis => exact (adds_record _ _ _).trans (inductionHypothesis _)

/-- The player's line is written. -/
theorem adds_applyChoice (kind : SceneKind) (offer : Offer) (nodeId : String) (choice : Option Choice)
    (store : Alone) : Adds role store ((sceneSeat kind).applyChoice offer nodeId choice store) := by
  refine (adds_record kind (.plain .player offer.text) store).trans (.of_same ?_ ?_) <;>
    cases choice <;> cases role <;> rfl

theorem adds_recordEpilogue (event : SceneEvent) (store : Alone) :
    Adds role store (seat.epilogue.record event store) := by
  refine ⟨if Role.epilogue = role then [event] else [], heard_deliver _ _ _, ?_⟩
  cases role <;> first | exact (List.append_nil _).symm | rfl

/-- An interpreter is reset. -/
theorem tells_reset (kind : SceneKind) (store : Alone) :
    Tells role store ((sceneSeat kind).modify Interpreter.reset store) := by
  by_cases own : roleOf kind = role
  · refine .inr ⟨rfl, ?_⟩
    rw [← own]
    exact logOf_modifyInterpreter kind Interpreter.reset store.session
  · exact .inl (.of_same rfl (logOf_modifyInterpreter_of_ne own _ _))

/-- An epilogue without events takes the place of another one. -/
theorem tells_modifyEpilogue {change : Epilogue → Epilogue}
    (silent : ∀ epilogue, (change epilogue).events = []) (store : Alone) :
    Tells role store (seat.modify (modifyEpilogue change) store) := by
  cases role with
  | epilogue => exact .inr ⟨rfl, silent _⟩
  | text => exact .inl (.of_same rfl rfl)
  | encounter => exact .inl (.of_same rfl rfl)

/-! ## Who changes what -/

/-- What an interpreter is after a while of its scene: not behind where it was, and not idle again. -/
structure Later (before after : Interpreter) : Prop where
  place : before.nodeIndex ≤ after.nodeIndex
  awake : before.progress ≠ .idle → after.progress ≠ .idle

/-- What whoever a driver made does to the logs and the places of a play-through. -/
structure Recounts (owner : Option Role) (before after : Alone) : Prop where
  tells : ∀ role, Tells role before after
  adds : ∀ role, owner = some role → Adds role before after
  apart : ∀ kind, owner ≠ none → owner ≠ some (roleOf kind) →
    after.session.interpreter kind = before.session.interpreter kind
  later : ∀ kind, owner ≠ none →
    Later (before.session.interpreter kind) (after.session.interpreter kind)
  epilogue : owner = some .text → after.session.epilogue = before.session.epilogue

namespace Recounts

/-- An operation changes more than a driver may. -/
theorem outside (tells : ∀ role, Tells role before after) : Recounts none before after where
  tells := tells
  adds _ := nofun
  apart _ outside := absurd rfl outside
  later _ outside := absurd rfl outside
  epilogue := nofun

/-- A scene changes its own interpreter. -/
theorem scene {kind : SceneKind} (adds : ∀ role, Adds role before after)
    (apart : ∀ other, other ≠ kind →
      after.session.interpreter other = before.session.interpreter other)
    (later : Later (before.session.interpreter kind) (after.session.interpreter kind))
    (epilogue : after.session.epilogue = before.session.epilogue) :
    Recounts (some (roleOf kind)) before after where
  tells role := .inl (adds role)
  adds role _ := adds role
  apart other _ different := apart other fun same => different (by rw [same])
  later other _ := by
    by_cases same : other = kind
    · rw [same]
      exact later
    · rw [apart other same]
      exact ⟨le_rfl, id⟩
  epilogue _ := epilogue

/-- The epilogue is changed by its own driver, or by the encounter before it gives way. -/
theorem ending {driver : Role} (handsOver : driver ≠ .text) (tells : ∀ role, Tells role before after)
    (adds : Adds driver before after)
    (scenes : ∀ kind, after.session.interpreter kind = before.session.interpreter kind) :
    Recounts (some driver) before after where
  tells := tells
  adds role own := by
    cases own
    exact adds
  apart kind _ _ := scenes kind
  later kind _ := by
    rw [scenes kind]
    exact ⟨le_rfl, id⟩
  epilogue own := absurd (Option.some.inj own) handsOver

end Recounts

/-- What drivers and operations do to the logs and the places of a play-through. -/
def recounting : Etiquette Alone Role SceneKind where
  writes owner change := ∀ store, Recounts owner store (change store)
  calls := manners.calls
  hands := manners.hands
  hands_other := manners.hands_other

/-! ## The drivers -/

theorem recounting_script (preferences : Preferences) (ending : Ending) (tier : Option Tier) :
    (seat.epilogue.script preferences ending tier : Plan).Decorous recounting (some .epilogue) := by
  have completes : recounting.writes (some .epilogue) (seat.epilogue.modify Epilogue.complete) := by
    intro store
    refine .ending nofun (fun role => .inl ?_) ?_ fun kind => ?_
    · cases role <;> exact .of_same rfl rfl
    · exact .of_same rfl rfl
    · cases kind <;> rfl
  have texts : ∀ texts : List Localized,
      (seat.epilogue.playTexts preferences tier
        (.pause Epilogue.closingBeat (.update (seat.epilogue.modify Epilogue.complete) .stop)) texts :
          Plan).Decorous recounting (some .epilogue) := by
    intro texts
    induction texts with
    | nil => exact ⟨nofun, completes, trivial⟩
    | cons text texts inductionHypothesis =>
        refine ⟨nofun, fun store => ?_, inductionHypothesis⟩
        refine .ending nofun (fun role => .inl (adds_recordEpilogue _ _)) (adds_recordEpilogue _ _) ?_
        intro kind
        cases kind <;> rfl
  exact ⟨nofun, texts ending.texts⟩

/-- The encounter ends and hands over to the epilogue. -/
theorem recounting_finishEncounter (owner : Option Role) (mayFinish : owner = none ∨ owner = some .encounter) :
    (seat.finishEncounter .stop : Plan).Decorous recounting owner := by
  have writes {change : Alone → Alone} (tells : ∀ store role, Tells role store (change store))
      (adds : ∀ store, Adds .encounter store (change store))
      (scenes : ∀ store kind,
        (change store).session.interpreter kind = store.session.interpreter kind) :
      recounting.writes owner change := by
    intro store
    rcases mayFinish with rfl | rfl
    · exact .outside (tells store)
    · exact .ending nofun (tells store) (adds store) (scenes store)
  intro store
  refine ⟨writes (fun store role => .inl ?_) (fun store => .of_same rfl rfl) fun store kind => ?_,
    writes (fun store role => tells_modifyEpilogue (fun _ => rfl) store) (fun store => .of_same rfl rfl)
      fun store kind => ?_,
    writes (fun store role => .inl (adds_recordEpilogue _ _)) (fun store => adds_recordEpilogue _ _)
      fun store kind => ?_, ?_, recounting_script _ _ _, trivial⟩
  · cases role <;> exact .of_same rfl rfl
  · cases kind <;> rfl
  · cases kind <;> rfl
  · cases kind <;> rfl
  · rcases mayFinish with rfl | rfl
    · exact .inl rfl
    · exact .inr ⟨rfl, rfl⟩

theorem recounts_modify {kind : SceneKind} {change : Interpreter → Interpreter}
    (events : ∀ interpreter, (change interpreter).events = interpreter.events)
    (later : ∀ interpreter, Later interpreter (change interpreter)) :
    recounting.writes (some (roleOf kind)) ((sceneSeat kind).modify change) := by
  intro store
  refine .scene (fun role => adds_modify events store)
    (fun other different => interpreter_modifyInterpreter_of_ne different _ _) ?_ ?_
  · rw [show ((sceneSeat kind).modify change store).session =
      store.session.modifyInterpreter kind change from rfl, interpreter_modifyInterpreter]
    exact later _
  · cases kind <;> rfl

theorem recounting_scene (kind : SceneKind) :
    (sceneSeat kind).Composes fun program => program.Decorous recounting (some (roleOf kind)) := by
  have held (suspended : Bool) : recounting.writes (some (roleOf kind))
      ((sceneSeat kind).modify fun interpreter => interpreter.setSuspended suspended) :=
    recounts_modify (fun _ => rfl) fun _ => ⟨le_rfl, id⟩
  have advances : recounting.writes (some (roleOf kind)) ((sceneSeat kind).modify Interpreter.advance) :=
    recounts_modify (fun _ => rfl) fun _ => ⟨Nat.le_succ _, id⟩
  refine
    { stop := trivial
      fail := fun _ => trivial
      look := fun _ _ goesOn => goesOn
      check := fun goesOn => goesOn
      pause := fun _ _ goesOn => ⟨nofun, goesOn⟩
      record := fun event _ goesOn => ⟨fun store => ?_, goesOn⟩
      modify := fun _ _ stays goesOn =>
        ⟨recounts_modify stays.events fun interpreter =>
          ⟨Nat.le_of_eq (stays.nodeIndex interpreter).symm, stays.awake interpreter⟩, goesOn⟩
      warn := fun warning _ goesOn => ⟨fun store => ?_, goesOn⟩
      hold := fun _ _ goesOn => ⟨held true, ⟨nofun, trivial⟩, ⟨_, held false, rfl⟩, goesOn⟩
      walk := ⟨advances, rfl, trivial⟩
      offers := fun _ => ⟨advances, recounts_modify (fun _ => rfl) fun _ => ⟨le_rfl, fun _ => nofun⟩,
        trivial⟩
      onFinish := ?_ }
  · refine .scene (fun role => adds_record _ _ _)
      (fun other different => interpreter_modifyInterpreter_of_ne different _ _) ?_ ?_
    · rw [show ((sceneSeat kind).record event store).session = store.session.modifyInterpreter kind
        (fun interpreter => interpreter.record event) from rfl, interpreter_modifyInterpreter]
      exact ⟨le_rfl, id⟩
    · cases kind <;> rfl
  · exact .scene (fun role => .of_same rfl rfl) (fun _ _ => rfl) ⟨le_rfl, id⟩ rfl
  · cases kind with
    | text => trivial
    | encounter => exact recounting_finishEncounter _ (.inr rfl)

/-- Everything that can be called recounts what it does. -/
theorem machine_recounting : machine.Decorous recounting := by
  rintro owner kind rfl
  exact (recounting_scene kind).walkBody

theorem recounting_openScene (kind : SceneKind) :
    (sceneSeat kind).openScene.Decorous recounting (some (roleOf kind)) :=
  (recounting_scene kind).openScene ⟨rfl, trivial⟩

theorem recounting_resume (kind : SceneKind) (choice : Option Choice) :
    ((sceneSeat kind).resume choice).Decorous recounting (some (roleOf kind)) := by
  have composes := recounting_scene kind
  refine composes.resume choice ⟨recounts_modify (fun _ => rfl) fun _ => ⟨Nat.le_succ _, id⟩, ?_⟩
  intro store
  dsimp only
  split
  · split
    · exact composes.pause _ composes.becomesReady
    · exact ⟨rfl, trivial⟩
  · exact ⟨rfl, trivial⟩

/-! ## The operations -/

theorem recounting_reset (kind : SceneKind) {next : Plan} (goesOn : next.Decorous recounting none) :
    ((sceneSeat kind).reset next).Decorous recounting none :=
  ⟨rfl, fun store => .outside fun _ => tells_reset kind store, goesOn⟩

/-- Changes of the phase, the preferences and the score leave the logs alone. -/
theorem recounts_of_logs {change : Session → Session}
    (logs : ∀ session role, (change session).logOf role = session.logOf role) :
    recounting.writes none (seat.modify change) :=
  fun store => .outside fun role => .inl (.of_same rfl (logs store.session role))

theorem recounting_start (kind : SceneKind) (preferences : Preferences) {next : Plan}
    (goesOn : next.Decorous recounting none) :
    ((sceneSeat kind).start preferences next).Decorous recounting none :=
  recounting_reset kind
    ⟨fun store => .outside fun _ => .inl (@adds_modify _ kind (·.begin preferences) (fun _ => rfl) store),
      fun store => .outside fun _ => .inl (adds_recordHeader kind _ store),
      .inl rfl, recounting_openScene kind, goesOn⟩

theorem recounting_enterEncounter : (seat.enterEncounter accepted).Decorous recounting none :=
  ⟨recounts_of_logs fun _ role => by cases role <;> rfl, fun _ => recounting_start .encounter _ trivial⟩

theorem recounting_warn (warning : Warning) {next : Plan} (goesOn : next.Decorous recounting none) :
    (Program.update (seat.warn warning) next).Decorous recounting none :=
  ⟨fun _ => .outside fun _ => .inl (.of_same rfl rfl), goesOn⟩

theorem recounting_triggerTransition : triggerTransition.Decorous recounting none := by
  intro store
  dsimp only
  split
  · refine ⟨rfl, fun store => ?_⟩
    dsimp only
    split
    · exact recounting_enterEncounter
    · exact ⟨recounts_of_logs fun _ role => by cases role <;> rfl, trivial⟩
  · exact recounting_warn _ trivial

theorem recounting_beginEncounter : beginEncounter.Decorous recounting none := by
  intro store
  dsimp only
  split
  · exact recounting_enterEncounter
  · exact recounting_warn _ trivial

theorem recounting_selectOffer (kind : SceneKind) (offer : Offer) :
    ((sceneSeat kind).select offer refused accepted).Decorous recounting none := by
  intro store
  dsimp only
  split
  · exact ⟨fun store => .outside fun _ => .inl (@adds_modify _ kind .claim (fun _ => rfl) store), rfl,
      fun store => .outside fun _ => .inl (adds_applyChoice kind _ _ _ store), .inl rfl,
      recounting_resume kind _, trivial⟩
  · exact recounting_warn _ trivial

theorem recounting_select (id : String) : (select id).Decorous recounting none := by
  intro store
  dsimp only
  split
  · trivial
  · split
    · exact recounting_selectOffer _ _
    · exact recounting_warn _ trivial

theorem recounting_restart (preferences : Option Preferences) :
    (restart preferences).Decorous recounting none :=
  recounting_reset .text (recounting_reset .encounter
    ⟨rfl, fun store => .outside fun _ => tells_modifyEpilogue (fun _ => rfl) store,
      recounts_of_logs fun _ role => by cases role <;> rfl, trivial⟩)

/-- Every operation recounts what it does. -/
theorem Operation.recounting (operation : Operation) :
    operation.plan.Decorous Alone.recounting none := by
  cases operation with
  | begin =>
      exact ⟨recounts_of_logs fun _ role => by cases role <;> rfl,
        fun _ => recounting_start .text _ trivial⟩
  | triggerTransition => exact recounting_triggerTransition
  | beginEncounter => exact recounting_beginEncounter
  | select id => exact recounting_select id
  | restart preferences => exact recounting_restart preferences
  | settle => exact ⟨rfl, trivial⟩

/-! ## What is told in every play-through -/

variable {textScene : Option TextScene} {encounterScene : Option EncounterScene}
variable {preferences : Preferences} {history : History} {world : Setting}

/-- In a play-through that occurs one operation goes on at a time, and all keep to the etiquette that their
programs keep to. -/
theorem Occurs.attended {etiquette : Etiquette Alone Role SceneKind}
    (occurs : Occurs textScene encounterScene preferences history world)
    (machineDecorous : machine.Decorous etiquette)
    (decorous : ∀ operation : Operation, operation.plan.Decorous etiquette none) :
    world.Attended etiquette (history.flight.map Flight.task) := by
  induction occurs with
  | construct => exact .initial _
  | begin operation _ noTurn free _ inductionHypothesis =>
      rw [free] at inductionHypothesis
      exact inductionHypothesis.begin noTurn (decorous operation)
  | step _ inductionHypothesis =>
      rw [History.flight_noted]
      exact inductionHypothesis.step machineDecorous
  | release _ _ _ wait inductionHypothesis => exact inductionHypothesis.release? wait
  | complete _ _ inFlight ended inductionHypothesis =>
      rw [inFlight] at inductionHypothesis
      rw [History.flight_completed]
      exact inductionHypothesis.complete ended

/-- Everybody in a play-through recounts what they do. -/
theorem Occurs.recounted (occurs : Occurs textScene encounterScene preferences history world) :
    world.Attended recounting (history.flight.map Flight.task) :=
  occurs.attended machine_recounting Operation.recounting

/-- Every step of a play-through tells the listeners what it writes. -/
theorem Occurs.tells (occurs : Occurs textScene encounterScene preferences history world) (role : Role) :
    Tells role world.store (world.step machine).store := by
  rcases (occurs.recounted.leads machine_recounting).store with same | ⟨_, _, _, -, -, writes, changed⟩
  · rw [same]
    exact .inl (.refl role _)
  · rw [changed]
    exact (writes world.store).tells role

end Alone

end Playthrough.Session
