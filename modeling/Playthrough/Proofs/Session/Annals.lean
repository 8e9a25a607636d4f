import Mathlib.Data.List.Infix
import Playthrough.Proofs.Session.Accounting
import Playthrough.Proofs.Session.Renewal
import Playthrough.Proofs.Session.Telling

/-!
Contract: what a play-through has shown stays shown.

Owns: the moments of a play-through together with what was done to it and what its listeners were told
(`Point`), how one moment leads to another, and what lasts between any two of them that no restart parts.

Does not own: what is told in a single step.

Logs are emptied where a scene or the epilogue begins, which happens to each of them once between two
restarts, when its log is empty anyway. So whoever acts between two turns is looked at with the situation
that the turn began in: drivers add to their logs, and operations begin only what was not begun before.
-/

namespace Playthrough.Session.Alone

/-! ## Turns that keep to something -/

/-- The terms of an operation that keeps something true of the store, as long as nobody else acts. -/
def abiding (keeps : Alone → Prop) : Pact Alone Role SceneKind Reply Unit where
  sane := keeps
  drift before after := after = before
  calls _ _ _ _ _ := True
  lends _ := True
  spawned _ _ := ()
  cancelled _ _ := ()
  good _ _ _ := True

variable {keeps : Alone → Prop} {world : Setting} {id : TaskId} {program : Plan}

/-- An instruction of an operation that keeps something true. -/
theorem abiding_step (decorous : world.Decorous recounting) (asks : world.Asks id program)
    (turn : world.running = some id) (kept : keeps world.store)
    (upholds : program.Upholds (abiding keeps) () world.store) :
    keeps (world.step machine).store ∧ ((world.step machine).running = some id →
      ∃ next, (world.step machine).Asks id next
        ∧ next.Upholds (abiding keeps) () (world.step machine).store) := by
  have allowed := asks.decorous decorous
  cases program with
  | done answer =>
      obtain ⟨joiners, stepped⟩ := asks.step_done machine turn
      rw [stepped]
      exact ⟨kept, nofun⟩
  | look choose =>
      rw [asks.step_look machine turn]
      exact ⟨kept, fun _ => ⟨_, asks.proceed world rfl, upholds⟩⟩
  | update change next =>
      rw [asks.step_update machine turn]
      exact ⟨upholds.1, fun _ => ⟨_, asks.proceed { world with store := change world.store } rfl, upholds.2⟩⟩
  | call procedure next => cases allowed.1
  | spawn driver body next =>
      have same : (((world.displace driver id).install driver body).proceed id (.run next) []).store =
          world.store := World.store_displace driver
      rw [asks.step_spawn machine turn, same]
      exact ⟨kept, fun _ => ⟨_, asks.spawn, upholds.2⟩⟩
  | cancel driver next =>
      cases holding : (world.holdings driver).slot with
      | none =>
          rw [asks.step_cancel machine turn holding]
          exact ⟨kept, fun _ => ⟨_, asks.proceed (world.setHolding driver _) rfl, upholds _ kept rfl⟩⟩
      | some held =>
          rw [asks.step_cancel_held machine turn holding
            (asks.different (decorous.slots driver held holding))]
          have same : ((((world.setHolding driver { slot := none, live := none }).proceed id (.run next)
              []).cancelTask held).join id held).yieldTurn.store = world.store :=
            (World.store_join _ _ _).trans (World.store_cancelTask _ _)
          rw [same]
          exact ⟨kept, nofun⟩
  | settle drivers remaining next =>
      rcases asks.step_settle machine turn with ⟨goesOn, shape, stepped⟩ | ⟨held, stepped⟩
      · rw [stepped]
        refine ⟨kept, fun _ => ⟨goesOn, asks.proceed world rfl, ?_⟩⟩
        rcases shape with rfl | ⟨rest, rfl⟩
        · exact upholds _ kept rfl
        · exact upholds
      · rw [stepped]
        have same : (world.join id held).yieldTurn.store = world.store := World.store_join _ _ _
        rw [same]
        exact ⟨kept, nofun⟩
  | fail | check | revoke | pause | guard | ensure => exact upholds.elim

/-- Something is true of the store, and whoever acts keeps it so. -/
structure Keeping (keeps : Alone → Prop) (world : Setting) : Prop where
  kept : keeps world.store
  acts : ∀ id, world.running = some id →
    (∃ role, world.owners[id]? = some (some role) ∧ ∃ stronger : Alone → Prop,
      stronger world.store ∧ (∀ store, stronger store → keeps store) ∧
        ∀ before after, Recounts (some role) before after → stronger before → stronger after)
    ∨ ∃ program, world.Asks id program ∧ program.Upholds (abiding keeps) () world.store

/-- Between two turns nobody acts. -/
theorem Keeping.between (kept : keeps world.store) (noTurn : world.running = none) :
    Keeping keeps world where
  kept := kept
  acts id turn := by
    rw [noTurn] at turn
    cases turn

/-- Within a turn whoever acts goes on keeping it. -/
theorem Keeping.step {flight : Option TaskId} (keeping : Keeping keeps world)
    (attended : world.Attended recounting flight) (turn : world.running = some id) :
    Keeping keeps (world.step machine) := by
  have advances := attended.decorous.advances machine_recounting attended.balanced
  have running : ∀ other, (world.step machine).running = some other → other = id := by
    intro other goesOn
    rcases advances.running turn with same | yielded
    · exact (Option.some.inj (same.symm.trans goesOn)).symm
    · rw [yielded] at goesOn
      cases goesOn
  rcases keeping.acts id turn with ⟨role, own, stronger, holds, implies, keeps⟩ | ⟨program, asks, upholds⟩
  · have holds : stronger (world.step machine).store := by
      rcases advances.leads.store with same | ⟨other, owner, change, acting, owned, writes, changed⟩
      · rwa [same]
      · rw [changed]
        have same : other = id := Option.some.inj (acting.symm.trans turn)
        rw [same, own] at owned
        cases owned
        exact keeps _ _ (writes _) holds
    refine ⟨implies _ holds, fun other goesOn => .inl ⟨role, ?_, stronger, holds, implies, keeps⟩⟩
    rw [running other goesOn]
    exact advances.leads.owner_after own
  · obtain ⟨kept, goesOn⟩ := abiding_step attended.decorous asks turn keeping.kept upholds
    refine ⟨kept, fun other acting => .inr ?_⟩
    cases running other acting
    exact goesOn acting

/-! ## What is kept -/

/-- Logs are added to, and interpreters stay at their places. -/
structure Writes (before after : Alone) : Prop where
  adds : ∀ role, Adds role before after
  place : ∀ kind,
    (after.session.interpreter kind).nodeIndex = (before.session.interpreter kind).nodeIndex
  idle : ∀ kind, (after.session.interpreter kind).progress = .idle →
    (before.session.interpreter kind).progress = .idle

namespace Writes

variable {before between after : Alone}

theorem trans (former : Writes before between) (latter : Writes between after) : Writes before after where
  adds role := (former.adds role).trans (latter.adds role)
  place kind := (latter.place kind).trans (former.place kind)
  idle kind idle := former.idle kind (latter.idle kind idle)

/-- Changes that leave scenes and epilogue alone. -/
theorem of_same (heard : ∀ role, after.heard role = before.heard role)
    (scenes : ∀ kind, after.session.interpreter kind = before.session.interpreter kind)
    (epilogue : after.session.epilogue = before.session.epilogue) : Writes before after where
  adds role := by
    refine .of_same (heard role) ?_
    cases role with
    | text => exact congrArg Interpreter.events (scenes .text)
    | encounter => exact congrArg Interpreter.events (scenes .encounter)
    | epilogue => exact congrArg Epilogue.events epilogue
  place kind := by rw [scenes kind]
  idle kind := by rw [scenes kind]; exact id

/-- Changes of an interpreter, but not of its place. -/
theorem of_change (kind : SceneKind) (change : Interpreter → Interpreter)
    (adds : ∀ role, Adds role before after)
    (same : after.session = before.session.modifyInterpreter kind change)
    (place : ∀ interpreter, (change interpreter).nodeIndex = interpreter.nodeIndex)
    (idle : ∀ interpreter, (change interpreter).progress = .idle → interpreter.progress = .idle) :
    Writes before after where
  adds := adds
  place other := by
    rw [same]
    by_cases own : other = kind
    · rw [own, interpreter_modifyInterpreter, place]
    · rw [interpreter_modifyInterpreter_of_ne own]
  idle other := by
    rw [same]
    by_cases own : other = kind
    · rw [own, interpreter_modifyInterpreter]
      exact idle _
    · rw [interpreter_modifyInterpreter_of_ne own]
      exact id

theorem record (kind : SceneKind) (event : SceneEvent) (store : Alone) :
    Writes store ((sceneSeat kind).record event store) :=
  of_change kind (fun interpreter => interpreter.record event)
    (fun _ => adds_record kind event store) rfl (fun _ => rfl) fun _ => id

/-- An interpreter is changed, but neither its log nor its place. -/
theorem modify (kind : SceneKind) (change : Interpreter → Interpreter)
    (events : ∀ interpreter, (change interpreter).events = interpreter.events)
    (place : ∀ interpreter, (change interpreter).nodeIndex = interpreter.nodeIndex)
    (idle : ∀ interpreter, (change interpreter).progress = .idle → interpreter.progress = .idle)
    (store : Alone) : Writes store ((sceneSeat kind).modify change store) :=
  of_change kind change (fun _ => adds_modify events store) rfl place idle

theorem recordHeader (kind : SceneKind) (interpreter : Interpreter) (store : Alone) :
    Writes store ((sceneSeat kind).recordHeader interpreter store) := by
  unfold Seat.recordHeader
  generalize interpreter.scenario.header = lines
  induction lines generalizing store with
  | nil => exact of_same (fun _ => rfl) (fun _ => rfl) rfl
  | cons line lines inductionHypothesis => exact (record _ _ _).trans (inductionHypothesis _)

theorem applyChoice (kind : SceneKind) (offer : Offer) (nodeId : String) (choice : Option Choice)
    (store : Alone) : Writes store ((sceneSeat kind).applyChoice offer nodeId choice store) := by
  refine (record kind (.plain .player offer.text) store).trans (of_same (fun _ => ?_) (fun scene => ?_) ?_)
  · cases choice <;> rfl
  · cases choice <;> cases scene <;> rfl
  · cases choice <;> rfl

end Writes

/-- An interpreter that is idle is at its first node. -/
def Rested (store : Alone) : Prop :=
  ∀ kind, (store.session.interpreter kind).progress = .idle →
    (store.session.interpreter kind).nodeIndex = 0

/-- What was not begun rests. -/
theorem Rested.of_pristine {store : Alone} (clean : ∀ role, Pristine store.session role) :
    Rested store := by
  intro kind _
  cases kind with
  | text => exact (congrArg Interpreter.nodeIndex (clean .text)).symm
  | encounter => exact (congrArg Interpreter.nodeIndex (clean .encounter)).symm

/-- Nothing that was shown at an earlier moment is gone. -/
structure Abides (earlier store : Alone) : Prop where
  shown : ∀ role, earlier.session.logOf role <+: store.session.logOf role
  place : ∀ kind,
    (earlier.session.interpreter kind).nodeIndex ≤ (store.session.interpreter kind).nodeIndex
  rested : Rested store

namespace Abides

variable {earlier before after : Alone}

theorem refl (rested : Rested earlier) : Abides earlier earlier :=
  ⟨fun _ => List.prefix_rfl, fun _ => le_rfl, rested⟩

theorem of_writes (abides : Abides earlier before) (writes : Writes before after) :
    Abides earlier after where
  shown role := (abides.shown role).trans (writes.adds role).grows_log
  place kind := (abides.place kind).trans (Nat.le_of_eq (writes.place kind).symm)
  rested kind idle := by rw [writes.place kind, abides.rested kind (writes.idle kind idle)]

/-- A scene that was not begun is taken back. -/
theorem of_reset {kind : SceneKind} (abides : Abides earlier before)
    (untouched : Untouched (before.session.interpreter kind)) :
    Abides earlier ((sceneSeat kind).modify Interpreter.reset before) := by
  have silent : earlier.session.logOf (roleOf kind) = [] := by
    have shown := abides.shown (roleOf kind)
    rwa [logOf_roleOf before.session, untouched.silent, List.prefix_nil] at shown
  have first : (earlier.session.interpreter kind).nodeIndex = 0 := by
    have place := abides.place kind
    rw [abides.rested kind untouched.idle] at place
    exact Nat.le_zero.mp place
  have changed : ((sceneSeat kind).modify Interpreter.reset before).session =
      before.session.modifyInterpreter kind Interpreter.reset := rfl
  refine ⟨fun role => ?_, fun other => ?_, fun other => ?_⟩
  · rw [changed]
    by_cases own : roleOf kind = role
    · rw [← own, silent]
      exact List.nil_prefix
    · rw [logOf_modifyInterpreter_of_ne own]
      exact abides.shown role
  · rw [changed]
    by_cases own : other = kind
    · rw [own, first]
      exact Nat.zero_le _
    · rw [interpreter_modifyInterpreter_of_ne own]
      exact abides.place other
  · rw [changed]
    by_cases own : other = kind
    · intro _
      rw [own, interpreter_modifyInterpreter]
      rfl
    · rw [interpreter_modifyInterpreter_of_ne own]
      exact abides.rested other

/-- What a driver does while it plays. -/
theorem of_recounts {role : Role} (abides : Abides earlier before)
    (recounts : Recounts (some role) before after)
    (awake : ∀ kind, role = roleOf kind → (before.session.interpreter kind).progress ≠ .idle)
    (before_epilogue : role = .encounter → earlier.session.epilogue.events = []) :
    Abides earlier after where
  shown other := by
    by_cases own : role = other
    · rw [← own]
      exact (abides.shown role).trans (recounts.adds role rfl).grows_log
    have apart (kind : SceneKind) (different : role ≠ roleOf kind) :
        earlier.session.logOf (roleOf kind) <+: after.session.logOf (roleOf kind) := by
      rw [logOf_roleOf after.session, recounts.apart kind nofun fun same => different (Option.some.inj same),
        ← logOf_roleOf]
      exact abides.shown (roleOf kind)
    cases other with
    | text => exact apart .text own
    | encounter => exact apart .encounter own
    | epilogue =>
        cases role with
        | text =>
            show earlier.session.epilogue.events <+: after.session.epilogue.events
            rw [recounts.epilogue rfl]
            exact abides.shown .epilogue
        | encounter =>
            show earlier.session.epilogue.events <+: after.session.epilogue.events
            rw [before_epilogue rfl]
            exact List.nil_prefix
        | epilogue => exact absurd rfl own
  place kind := (abides.place kind).trans (recounts.later kind nofun).place
  rested kind idle := by
    by_cases own : role = roleOf kind
    · exact absurd idle ((recounts.later kind nofun).awake (awake kind own))
    · have same := recounts.apart kind nofun fun owned => own (Option.some.inj owned)
      rw [same] at idle ⊢
      exact abides.rested kind idle

end Abides

/-! ## What operations keep -/

section Operations

variable {earlier store : Alone} {answer : Option Reply}

/-- A scene that was not begun is begun. -/
theorem abiding_start (kind : SceneKind) (preferences : Preferences) (abides : Abides earlier store)
    (untouched : Untouched (store.session.interpreter kind)) :
    ((sceneSeat kind).start preferences (.done answer)).Upholds (abiding (Abides earlier)) () store := by
  rintro reached - rfl
  have reset := abides.of_reset untouched
  have begun := reset.of_writes
    (.modify kind (·.begin preferences) (fun _ => rfl) (fun _ => rfl) (fun _ => nofun) _)
  exact ⟨reset, begun, begun.of_writes (.recordHeader kind _ _), trivial, trivial⟩

theorem abiding_enterEncounter (abides : Abides earlier store)
    (untouched : Untouched store.session.encounter) :
    (seat.enterEncounter (.done answer)).Upholds (abiding (Abides earlier)) () store := by
  have entered : Abides earlier (seat.modify (enter .encounter) store) :=
    abides.of_writes (.of_same (fun _ => rfl) (fun kind => by cases kind <;> rfl) rfl)
  exact ⟨entered, abiding_start .encounter _ entered untouched⟩

theorem abiding_leaveText (abides : Abides earlier store) (untouched : Untouched store.session.encounter) :
    leaveText.Upholds (abiding (Abides earlier)) () store := by
  unfold leaveText Program.Upholds
  dsimp only
  split
  · exact abiding_enterEncounter abides untouched
  · exact ⟨abides.of_writes (.of_same (fun _ => rfl) (fun kind => by cases kind <;> rfl) rfl), trivial⟩

theorem abiding_answer (kind : SceneKind) (offer : Offer) (nodeId : String) (choice : Option Choice)
    (abides : Abides earlier store) :
    (Alone.answer kind offer nodeId choice).Upholds (abiding (Abides earlier)) () store :=
  ⟨abides.of_writes (.applyChoice kind offer nodeId choice store), trivial, trivial⟩

theorem abiding_warn (warning : Warning) (abides : Abides earlier store) :
    (Program.update (seat.warn warning) refused : Plan).Upholds (abiding (Abides earlier)) () store :=
  ⟨abides.of_writes (.of_same (fun _ => rfl) (fun _ => rfl) rfl), trivial⟩

theorem abiding_selectOffer (kind : SceneKind) (offer : Offer) (abides : Abides earlier store) :
    ((sceneSeat kind).select offer refused accepted).Upholds (abiding (Abides earlier)) () store := by
  simp only [Playthrough.Seat.select, Program.Upholds]
  split
  · have claimed := abides.of_writes
      (.modify kind .claim (fun _ => rfl) (fun _ => rfl) (fun _ => nofun) store)
    refine ⟨claimed, ?_⟩
    rintro reached - rfl
    exact abiding_answer kind _ _ _ claimed
  · exact abiding_warn _ abides

end Operations

/-- The encounter was not begun before its phase. -/
theorem untouched_encounter {scenes : Scenes} {situation : Situation} {session : Session}
    (calm : situation.Calm) (looks : situation.Looks scenes session)
    (before : session.phase = .textScene ∨ session.phase = .transition) : Untouched session.encounter := by
  have phase := looks.phase
  cases situation with
  | fresh => exact looks.2.2.2
  | transition => exact looks.2.2.1
  | scene kind id halt ahead =>
      cases kind with
      | text => exact looks.2.1 rfl
      | encounter => exact absurd (phase ▸ before) (by rintro (same | same) <;> cases same)
  | epilogue finished id ahead => exact absurd (phase ▸ before) (by rintro (same | same) <;> cases same)
  | leaving | claimed _ _ | clearing _ _ | fading _ _ => exact calm.elim

/-- An operation that begins keeps what was shown, unless it is a restart. -/
theorem abiding_operation {scenes : Scenes} {history : History} {earlier : Alone}
    {situation : Situation} {operation : Operation} (notRestart : operation.isRestart = false)
    (timely : operation = .begin → history.fresh = true) (calm : situation.Calm)
    (same : situation.isFresh = history.fresh) (looks : situation.Looks scenes world.store.session)
    (abides : Abides earlier world.store) :
    operation.plan.Upholds (abiding (Abides earlier)) () world.store := by
  cases operation with
  | restart preferences => cases notRestart
  | settle => exact fun _ _ _ => trivial
  | begin =>
      have fresh := same.trans (timely rfl)
      cases situation with
      | fresh =>
          have entered : Abides earlier (seat.modify (enter .textScene) world.store) :=
            abides.of_writes (.of_same (fun _ => rfl) (fun kind => by cases kind <;> rfl) rfl)
          exact ⟨entered, abiding_start .text _ entered looks.2.2.1⟩
      | scene _ _ _ _ | leaving | transition | claimed _ _ | epilogue _ _ _ | clearing _ _ | fading _ _ =>
          cases fresh
  | triggerTransition =>
      simp only [Operation.plan, triggerTransition, Seat.triggerTransition, Program.Upholds]
      split
      next leavable =>
        rintro reached - rfl
        exact abiding_leaveText abides (untouched_encounter calm looks (.inl leavable.1))
      next => exact abiding_warn _ abides
  | beginEncounter =>
      simp only [Operation.plan, beginEncounter, Seat.beginEncounter, Program.Upholds]
      split
      next phase => exact abiding_enterEncounter abides (untouched_encounter calm looks (.inr phase))
      next => exact abiding_warn _ abides
  | select tag =>
      simp only [Operation.plan, select, Seat.select, Program.Upholds]
      split
      · exact trivial
      · split
        · exact abiding_selectOffer _ _ abides
        · exact abiding_warn _ abides

/-- An operation that waits goes on keeping what was shown, unless it is a restart. -/
theorem abiding_engaged {scenes : Scenes} {earlier store : Alone} {situation : Situation}
    {place : Option (SceneKind × Nat)} {accepts : Bool} {operation : Operation}
    (notRestart : operation.isRestart = false)
    (engaged : Engaged scenes place accepts operation situation program)
    (looks : situation.Looks scenes store.session) (abides : Abides earlier store) :
    program.Upholds (abiding (Abides earlier)) () store := by
  cases engaged with
  | settling => exact fun _ _ _ => trivial
  | leaving => exact abiding_leaveText abides looks.2.2.1
  | choosing => exact abiding_answer _ _ _ _ abides
  | clearing | fading => cases notRestart

/-- Whoever plays a scene has begun it, and plays the encounter before the epilogue. -/
theorem begun_of_performer {scenes : Scenes} {situation : Situation} {session : Session} {role : Role}
    (performs : situation.performer = some (role, id)) (looks : situation.Looks scenes session) :
    (∀ kind, role = roleOf kind → (session.interpreter kind).progress ≠ .idle)
      ∧ (role = .encounter → session.epilogue.events = []) := by
  have apart (kind : SceneKind) : Role.epilogue ≠ roleOf kind := by cases kind <;> nofun
  cases situation with
  | scene kind _ _ ahead =>
      cases ahead with
      | none => cases performs
      | some _ =>
          cases performs
          obtain ⟨around, -, -, _, inPlay⟩ := looks
          have running : (session.interpreter kind).progress = .running := inPlay.running
          refine ⟨fun other same => ?_, fun _ => by rw [around.epilogue]; rfl⟩
          have own : other = kind := by cases kind <;> cases other <;> first | rfl | cases same
          rw [own, running]
          nofun
  | epilogue _ _ ahead | fading _ ahead =>
      cases ahead with
      | none => cases performs
      | some _ =>
          cases performs
          exact ⟨fun kind same => absurd same (apart kind), nofun⟩
  | fresh | leaving | transition | claimed _ _ | clearing _ _ => cases performs

/-- Between two turns whoever has not ended plays, or is the operation that waits. -/
theorem Progressing.unended_cases {scenes : Scenes} {history : History} {outline : Draft}
    {situation : Situation} {task : Task Alone Role SceneKind Reply}
    (progressing : Progressing scenes history outline situation)
    (notRestarting : history.restarting = false) (found : outline.tasks id = some task) :
    (∃ role, situation.performer = some (role, id) ∧ task.owner = some role)
      ∨ ∃ flight program, history.flight = some flight ∧ task = .fresh none program
        ∧ Engaged scenes flight.place flight.accepts flight.operation situation program := by
  have plays {bystanders : List TaskId} (standing : Standing scenes situation bystanders outline)
      (apart : id ∉ bystanders) : ∃ role, situation.performer = some (role, id) ∧ task.owner = some role := by
    rcases standing.only id task found with bystands | ⟨role, performs⟩ | leaves
    · exact absurd bystands apart
    · obtain ⟨-, last, _, there, owned, -⟩ := standing.performs role id performs
      rw [found] at there
      cases there
      exact ⟨role, performs, owned⟩
    · cases situation with
      | clearing stage leaver => exact absurd progressing.restarting_of_clearing (by simp [notRestarting])
      | fresh | scene _ _ _ _ | leaving | transition | claimed _ _ | epilogue _ _ _ | fading _ _ => cases leaves
  cases progressing with
  | free _ _ _ standing => exact .inl (plays standing List.not_mem_nil)
  | @engaged flight program inFlight standing waits engaged =>
      by_cases own : id = flight.task
      · rw [own, waits] at found
        exact .inr ⟨flight, program, inFlight, (Option.some.inj found).symm, engaged⟩
      · exact .inl (plays standing (by simpa using own))
  | @closed flight _ inFlight standing gone =>
      by_cases own : id = flight.task
      · rw [own, gone] at found
        cases found
      · exact .inl (plays standing (by simpa using own))

/-- A turn begins with somebody who keeps what was shown. -/
theorem Keeping.of_turn {scenes : Scenes} {history : History} {earlier : Alone} {flight : Option TaskId}
    (sound : Sound scenes history world) (attended : world.Attended recounting flight)
    (notRestarting : history.restarting = false) (noTurn : world.running = none)
    (abides : Abides earlier world.store) : Keeping (Abides earlier) (world.step machine) := by
  obtain ⟨situation, progressing, -⟩ := sound.moment noTurn
  have looks : situation.Looks scenes world.store.session := progressing.looks
  have leads := attended.leads machine_recounting
  rcases World.step_cases machine sound.balanced noTurn with
    ⟨stillNoTurn, same, -⟩ | ⟨id, task, base, found, -, stepped, -⟩
  · have sameStore : (world.step machine).store = world.store := congrArg Outline.store same
    exact .between (sameStore ▸ abides) stillNoTurn
  have sameStore : (world.step machine).store = world.store := by rw [stepped]; rfl
  have acts : (world.step machine).running = some id := by rw [stepped]; rfl
  obtain ⟨last, there, goesOn, ready⟩ := World.task_of_found found
  refine ⟨sameStore ▸ abides, fun other acting => ?_⟩
  cases acts.symm.trans acting
  rw [sameStore]
  rcases progressing.unended_cases notRestarting found with
    ⟨role, performs, owned⟩ | ⟨flight, program, inFlight, fresh, engaged⟩
  · -- the driver that plays
    obtain ⟨awake, before⟩ := begun_of_performer performs looks
    have silent (encounter : role = .encounter) : earlier.session.epilogue.events = [] := by
      have shown : earlier.session.epilogue.events <+: world.store.session.epilogue.events :=
        abides.shown .epilogue
      rwa [before encounter, List.prefix_nil] at shown
    have own : world.owners[id]? = some (some role) := by
      rw [World.owner_of_found there, ← owned, ← ready]
    refine .inl ⟨role, leads.owner_after own, fun store => Abides earlier store ∧ ∀ kind, role = roleOf kind →
      (store.session.interpreter kind).progress ≠ .idle, ⟨abides, awake⟩, fun _ => And.left, ?_⟩
    rintro store next recounts ⟨abides, awake⟩
    exact ⟨abides.of_recounts recounts awake silent, fun kind own =>
      (recounts.later kind nofun).awake (awake kind own)⟩
  · -- the operation that has waited
    have asks : world.Asks id program := by
      refine ⟨?_, ?_⟩
      · have same : last.bare = task.bare := by rw [← ready]; rfl
        rw [World.bare_of_found there, same, fresh]
        rfl
      · rw [World.isUnended_eq, found]
        rfl
    have notRestart : flight.operation.isRestart = false := by
      simpa [History.restarting, inFlight] using notRestarting
    refine .inr ⟨program, asks.of_leads attended.decorous leads (by simp [noTurn]), ?_⟩
    exact abiding_engaged notRestart engaged looks abides

/-- Everybody in a play-through has manners. -/
theorem Occurs.mannered {textScene : Option TextScene} {encounterScene : Option EncounterScene}
    {preferences : Preferences} {history : History}
    (occurs : Occurs textScene encounterScene preferences history world) :
    world.Attended manners (history.flight.map Flight.task) :=
  occurs.attended machine_decorous fun operation => Demand.decorous (.operation operation)

/-- A restart that goes on comes nearer to its end. -/
theorem Occurs.renews {textScene : Option TextScene} {encounterScene : Option EncounterScene}
    {preferences : Preferences} {history : History} {flight : Flight}
    (occurs : Occurs textScene encounterScene preferences history world)
    (inFlight : history.flight = some flight) (restarts : flight.operation.isRestart = true) :
    ∃ again chosen, Renews again chosen flight.task world := by
  induction occurs generalizing flight with
  | construct => cases inFlight
  | begin operation _ noTurn free timely =>
      cases inFlight
      cases operation with
      | restart again => exact ⟨again, _, renews_begin again _⟩
      | begin | triggerTransition | beginEncounter | select _ | settle => cases restarts
  | step before inductionHypothesis =>
      rw [History.flight_noted] at inFlight
      obtain ⟨again, chosen, renews⟩ := inductionHypothesis inFlight restarts
      have attended := before.mannered
      rw [inFlight] at attended
      exact ⟨again, chosen, renews.step attended⟩
  | release before noTurn position wait inductionHypothesis =>
      obtain ⟨again, chosen, renews⟩ := inductionHypothesis inFlight restarts
      have attended := before.mannered
      rw [inFlight] at attended
      exact ⟨again, chosen, renews.release? attended wait⟩
  | complete =>
      rw [History.flight_completed] at inFlight
      cases inFlight

/-! ## The moments of a play-through -/

/-- A moment of a play-through. -/
structure Point where
  history : History
  /-- The choices that count among the operations that have completed. -/
  chosen : List Choice
  /-- How much the listeners of each driver had been told when its log was last cleared. -/
  since : Role → Nat
  world : Setting

namespace Point

/-- The moment in which a play-through is made. -/
def start (textScene : Option TextScene) (encounterScene : Option EncounterScene)
    (preferences : Preferences) : Point :=
  { history := .initial
    chosen := []
    since := fun _ => 0
    world := World.initial (initial textScene encounterScene preferences) }

/-- From one moment to the next one: an operation begins, something moves by itself, a wait ends, or an
operation completes. -/
inductive Moves (scenes : Scenes) : Point → Point → Prop where
  | begin {point : Point} (operation : Operation) (noTurn : point.world.running = none)
      (free : point.history.flight = none) (timely : operation = .begin → point.history.fresh = true) :
      Moves scenes point
        { point with
          history := point.history.began operation point.world
          world := (point.world.begin operation.plan).2 }
  | step {point : Point} :
      Moves scenes point
        { point with
          history := point.history.noted (point.world.step machine)
          since := mark point.since point.world.store (point.world.step machine).store
          world := point.world.step machine }
  | release {point : Point} {released : Setting} (noTurn : point.world.running = none) (position : Nat)
      (wait : point.world.release? position = some released) :
      Moves scenes point { point with world := released }
  | complete {point : Point} {flight : Flight} {outcome : Outcome Reply}
      (noTurn : point.world.running = none) (inFlight : point.history.flight = some flight)
      (ended : point.world.outcome? flight.task = some outcome) :
      Moves scenes point
        { point with
          history := point.history.completed flight outcome
          chosen := flight.credited scenes point.chosen outcome }

/-- What a play-through of two scenes comes to. -/
def Reached (textScene : Option TextScene) (encounterScene : Option EncounterScene)
    (preferences : Preferences) (point : Point) : Prop :=
  Relation.ReflTransGen (Moves (.given textScene encounterScene))
    (start textScene encounterScene preferences) point

/-- From one moment to a later one that no restart parts from it. -/
def GoesOn (scenes : Scenes) : Point → Point → Prop :=
  Relation.ReflTransGen fun before after => Moves scenes before after ∧ after.history.restarting = false

/-- The choices that count at a moment. -/
def counted (scenes : Scenes) (point : Point) : List Choice :=
  point.history.credited scenes point.world.outcome? point.chosen

variable {textScene : Option TextScene} {encounterScene : Option EncounterScene}
variable {preferences : Preferences} {point next later : Point} {earlier : Alone}

theorem Reached.collects (reached : Reached textScene encounterScene preferences point) :
    Collects textScene encounterScene preferences point.history point.chosen point.world := by
  induction reached with
  | refl => exact .construct
  | tail _ moves inductionHypothesis =>
      cases moves with
      | begin operation noTurn free timely => exact inductionHypothesis.begin operation noTurn free timely
      | step => exact inductionHypothesis.step
      | release noTurn position wait => exact inductionHypothesis.release noTurn position wait
      | complete noTurn inFlight ended => exact inductionHypothesis.complete noTurn inFlight ended

theorem Reached.occurs (reached : Reached textScene encounterScene preferences point) :
    Occurs textScene encounterScene preferences point.history point.world :=
  reached.collects.occurs

/-- What comes after a moment that is reached is reached. -/
theorem Reached.goesOn (reached : Reached textScene encounterScene preferences point)
    (goesOn : GoesOn (.given textScene encounterScene) point later) :
    Reached textScene encounterScene preferences later :=
  reached.trans ((Relation.ReflTransGen.mono fun _ _ => And.left) _ _ goesOn)

/-- At every moment the listeners were told what is in the logs. -/
theorem Reached.kept (reached : Reached textScene encounterScene preferences point) :
    Kept point.since point.world.store := by
  induction reached with
  | refl => exact fun role => ⟨le_rfl, by cases role <;> rfl⟩
  | @tail before after reached moves inductionHypothesis =>
      cases moves with
      | begin | complete => exact inductionHypothesis
      | step => exact inductionHypothesis.mark (Reached.occurs reached).tells
      | release noTurn position wait =>
          obtain ⟨_, -, rfl⟩ := World.release?_eq_some.mp wait
          exact inductionHypothesis

/-! ## What lasts -/

/-- Every move keeps what was shown, unless a restart is going on or begins. -/
theorem Moves.keeping (moves : Moves (.given textScene encounterScene) point next)
    (reached : Reached textScene encounterScene preferences point)
    (notRestarting : point.history.restarting = false) (goesOn : next.history.restarting = false)
    (keeping : Keeping (Abides earlier) point.world) : Keeping (Abides earlier) next.world := by
  have sound := Sound.of_occurs reached.occurs
  have attended := reached.occurs.recounted
  cases moves with
  | begin operation noTurn free timely =>
      obtain ⟨situation, progressing, -⟩ := sound.moment noTurn
      have looks : situation.Looks _ point.world.store.session := progressing.looks
      refine ⟨keeping.kept, fun other acting => .inr ?_⟩
      cases acting
      refine ⟨operation.plan, .begin _ _, ?_⟩
      cases progressing with
      | free _ calm same => exact abiding_operation goesOn timely calm same looks keeping.kept
      | engaged inFlight => rw [free] at inFlight; cases inFlight
      | closed inFlight => rw [free] at inFlight; cases inFlight
  | step =>
      cases turn : point.world.running with
      | none => exact .of_turn sound attended notRestarting turn keeping.kept
      | some id => exact keeping.step attended turn
  | release noTurn position wait =>
      obtain ⟨_, -, rfl⟩ := World.release?_eq_some.mp wait
      exact .between keeping.kept noTurn
  | complete => exact keeping

/-- In a play-through that is not restarting whoever acts keeps what was shown at some time. -/
theorem Reached.keeping (reached : Reached textScene encounterScene preferences point)
    (notRestarting : point.history.restarting = false) :
    ∃ earlier, Keeping (Abides earlier) point.world := by
  induction reached with
  | refl => exact ⟨_, .between (.refl (.of_pristine fun role => by cases role <;> rfl)) rfl⟩
  | @tail before after reached moves inductionHypothesis =>
      have reached : Reached textScene encounterScene preferences before := reached
      cases was : before.history.restarting with
      | false =>
          obtain ⟨earlier, keeping⟩ := inductionHypothesis was
          exact ⟨earlier, moves.keeping reached was notRestarting keeping⟩
      | true =>
          cases moves with
          | begin _ _ free => simp [History.restarting, free] at was
          | step => rw [History.restarting_noted, was] at notRestarting; cases notRestarting
          | release => rw [was] at notRestarting; cases notRestarting
          | @complete flight outcome noTurn inFlight ended =>
              obtain ⟨again, chosen, renews⟩ := reached.occurs.renews inFlight
                (by simpa [History.restarting, inFlight] using was)
              have attended := reached.occurs.mannered
              rw [inFlight] at attended
              obtain ⟨-, done, -⟩ := renews.of_ended attended ended
              exact ⟨_, .between (.refl (.of_pristine fun role => (done role).clean)) noTurn⟩

/-- Whatever a play-through goes on with, nothing that was shown is gone. -/
theorem GoesOn.keeping (goesOn : GoesOn (.given textScene encounterScene) point later)
    (reached : Reached textScene encounterScene preferences point)
    (notRestarting : point.history.restarting = false) (keeping : Keeping (Abides earlier) point.world) :
    later.history.restarting = false ∧ Keeping (Abides earlier) later.world := by
  induction goesOn with
  | refl => exact ⟨notRestarting, keeping⟩
  | @tail before after goesOn moves inductionHypothesis =>
      obtain ⟨was, kept⟩ := inductionHypothesis
      exact ⟨moves.2, moves.1.keeping (reached.goesOn goesOn) was moves.2 kept⟩

/-- No move takes a choice from those that count, unless a restart is going on. -/
theorem Moves.grows_counted {scenes : Scenes} (moves : Moves scenes point next)
    (balanced : point.world.Balanced) (advances : World.Advances recounting machine point.world
      (point.world.step machine)) (notRestarting : point.history.restarting = false) :
    point.counted scenes <+: next.counted scenes := by
  unfold counted
  cases moves with
  | begin operation noTurn free =>
      rw [History.credited_of_free free, History.credited_of_unended rfl (World.Asks.begin _ _).no_outcome]
  | step =>
      cases inFlight : point.history.flight with
      | none =>
          rw [History.credited_of_free inFlight,
            History.credited_of_free ((History.flight_noted _ _).trans inFlight)]
      | some flight =>
          have still := (History.flight_noted point.history (point.world.step machine)).trans inFlight
          cases ended : point.world.outcome? flight.task with
          | some outcome =>
              rw [History.credited_of_ended inFlight ended,
                History.credited_of_ended still (advances.outcome? balanced ended)]
          | none =>
              rw [History.credited_of_unended inFlight ended]
              cases endedNow : (point.world.step machine).outcome? flight.task with
              | none =>
                  rw [History.credited_of_unended still endedNow]
              | some outcome =>
                  rw [History.credited_of_ended still endedNow]
                  exact Flight.prefix_credited (by simpa [History.restarting, inFlight] using notRestarting)
  | @release released noTurn position wait =>
      have same : released.outcome? = point.world.outcome? :=
        funext fun _ => World.outcome?_release? balanced wait
      exact same ▸ List.prefix_rfl
  | complete noTurn inFlight ended =>
      rw [History.credited_of_ended inFlight ended, History.credited_of_free (History.flight_completed _ _ _)]

theorem GoesOn.grows_counted (goesOn : GoesOn (.given textScene encounterScene) point later)
    (reached : Reached textScene encounterScene preferences point)
    (notRestarting : point.history.restarting = false) :
    point.counted (.given textScene encounterScene) <+: later.counted (.given textScene encounterScene) := by
  induction goesOn with
  | refl => exact List.prefix_rfl
  | @tail before after goesOn moves inductionHypothesis =>
      have attended := (reached.goesOn goesOn).occurs.recounted
      have was : before.history.restarting = false := by
        rcases Relation.ReflTransGen.cases_tail goesOn with rfl | ⟨_, -, last⟩
        · exact notRestarting
        · exact last.2
      exact inductionHypothesis.trans (moves.1.grows_counted attended.balanced
        (attended.decorous.advances machine_recounting attended.balanced) was)

/-- What a later moment of a play-through is to an earlier one: the logs have been added to, no interpreter
is behind, the score has gained what the choices give that were accepted in between, and since its log was
last cleared the listeners of every driver were told exactly what is in it. -/
structure Extends (scenes : Scenes) (point later : Point) : Prop where
  shown : ∀ role, point.world.store.session.logOf role <+: later.world.store.session.logOf role
  place : ∀ kind, (point.world.store.session.interpreter kind).nodeIndex ≤
    (later.world.store.session.interpreter kind).nodeIndex
  scored : ∃ accepted, later.counted scenes = point.counted scenes ++ accepted
    ∧ later.world.store.session.score = point.world.store.session.score + pointsOf accepted
  told : ∀ role, (later.world.store.heard role).drop (later.since role) =
    later.world.store.session.logOf role

/-- Between any two turns of a play-through that no restart parts, whatever was asked and whichever waits
ended meanwhile, the later moment extends the earlier one. -/
theorem extends_of_goesOn (reached : Reached textScene encounterScene preferences point)
    (notRestarting : point.history.restarting = false) (noTurn : point.world.running = none)
    (goesOn : GoesOn (.given textScene encounterScene) point later) (quiet : later.world.running = none) :
    Extends (.given textScene encounterScene) point later := by
  have reachedLater := reached.goesOn goesOn
  obtain ⟨_, kept⟩ := reached.keeping notRestarting
  obtain ⟨-, keeping⟩ := goesOn.keeping reached notRestarting (.between (.refl kept.kept.rested) noTurn)
  obtain ⟨accepted, counted⟩ := goesOn.grows_counted reached notRestarting
  have before := (accounted_of_collects reached.collects noTurn).score
  have after := (accounted_of_collects reachedLater.collects quiet).score
  have gained : later.world.store.session.score =
      point.world.store.session.score + pointsOf accepted := by
    rw [after, before, ← pointsOf_append]
    exact congrArg pointsOf counted.symm
  exact ⟨keeping.kept.shown, keeping.kept.place, ⟨accepted, counted.symm, gained⟩,
    fun role => (reachedLater.kept role).2⟩

/-- So many steps. -/
def stepped : Nat → Point → Point
  | 0, point => point
  | count + 1, point => stepped count
      { point with
        history := point.history.noted (point.world.step machine)
        since := mark point.since point.world.store (point.world.step machine).store
        world := point.world.step machine }

/-- No step begins a restart. -/
theorem goesOn_stepped (scenes : Scenes) (count : Nat) (point : Point)
    (notRestarting : point.history.restarting = false) : GoesOn scenes point (point.stepped count) := by
  induction count generalizing point with
  | zero => exact .refl
  | succ count inductionHypothesis =>
      have still : (point.history.noted (point.world.step machine)).restarting = false :=
        History.restarting_noted.trans notRestarting
      exact .head ⟨.step, still⟩ (inductionHypothesis _ still)

/-- The scene asks, and the first of two options of one id is chosen: its points are gained, and the player's
line comes after what was shown. -/
theorem extends_at_doubled_option :
    ∃ point later : Point, Reached (some askingTwice) none .standard point
      ∧ point.history.restarting = false ∧ point.world.running = none
      ∧ GoesOn (.given (some askingTwice) none) point later ∧ later.world.running = none
      ∧ (point.world.store.session.logOf .text).length < (later.world.store.session.logOf .text).length
      ∧ later.world.store.session.score = point.world.store.session.score + 3
      ∧ Extends (.given (some askingTwice) none) point later := by
  let scenes := Scenes.given (some askingTwice) none
  have begun : Reached (some askingTwice) none .standard _ :=
    .single (Moves.begin .begin rfl rfl fun _ => rfl)
  have asks := begun.goesOn (goesOn_stepped scenes 20 _ rfl)
  have reached : Reached (some askingTwice) none .standard
      { stepped 20 _ with
        history := History.completed _ ⟨0, .begin, some (.text, 0), true⟩ (.finished none)
        chosen := [] } := asks.tail (Moves.complete rfl rfl rfl)
  have selects (point : Point) (noTurn : point.world.running = none) (free : point.history.flight = none) :
      GoesOn scenes point _ :=
    .head ⟨.begin (.select "yes") noTurn free nofun, rfl⟩ (goesOn_stepped scenes 12 _ rfl)
  have extended := extends_of_goesOn reached rfl rfl (selects _ rfl rfl) rfl
  exact ⟨_, _, reached, rfl, rfl, selects _ rfl rfl, rfl, by decide, rfl, extended⟩

end Point

end Playthrough.Session.Alone
