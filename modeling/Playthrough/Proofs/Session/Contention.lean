import Mathlib.Logic.Function.Iterate
import Playthrough.Proofs.Session.Afresh
import Playthrough.Proofs.Session.Annals
import Playthrough.Proofs.Session.Rounds

/-!
Contract: of selections that are made at once one is applied.

Owns: the turns of selections that are made at once, and what becomes of a play-through that offers choices
when any number of them are.

Does not own: what the scene plays after a choice.

The first selection whose choice is on offer claims it before it waits for the driver, whose task has ended.
Every later one finds nothing on offer, and all of them have their turns before the first one goes on.
-/

namespace Playthrough

namespace World

variable {Store Driver Procedure Answer : Type} [DecidableEq Driver]
variable {machine : Machine Store Driver Procedure Answer}
variable {world between after : World Store Driver Procedure Answer}

/-- A world comes to another one by itself. -/
def GoesTo (machine : Machine Store Driver Procedure Answer)
    (world after : World Store Driver Procedure Answer) : Prop :=
  ∃ count, (step machine)^[count] world = after

theorem GoesTo.refl (world : World Store Driver Procedure Answer) : GoesTo machine world world :=
  ⟨0, rfl⟩

theorem GoesTo.step (stepped : world.step machine = between) (rest : GoesTo machine between after) :
    GoesTo machine world after := by
  obtain ⟨count, same⟩ := rest
  exact ⟨count + 1, by rw [Function.iterate_succ_apply, stepped, same]⟩

theorem GoesTo.trans (first : GoesTo machine world between) (rest : GoesTo machine between after) :
    GoesTo machine world after := by
  obtain ⟨count, rfl⟩ := first
  obtain ⟨more, rfl⟩ := rest
  exact ⟨more + count, Function.iterate_add_apply _ _ _ _⟩

omit [DecidableEq Driver] in
theorem found_ended {id : TaskId} (inside : id < world.tasks.length) (isOver : world.isUnended id = false) :
    ∃ task outcome, world.tasks[id]? = some task ∧ task.status = .ended outcome := by
  have there : world.tasks[id]? = some world.tasks[id] := List.getElem?_eq_getElem inside
  simp only [isUnended, there, Bool.not_eq_false', Task.isEnded] at isOver
  split at isOver
  · exact ⟨_, _, there, by assumption⟩
  · cases isOver

omit [DecidableEq Driver] in
/-- Whoever joins a task that has ended is told so once everybody who waits for a turn has had it. -/
theorem joining_of_ended {id held : TaskId} {task : Task Store Driver Procedure Answer} {store : Store}
    (isOver : world.isUnended held = false) :
    world.joining id task store held =
      { world with
        store := store
        tasks := world.tasks.set id { task with status := .joining 1 }
        queue := world.queue ++ [.joined id]
        running := none } := by
  simp only [joining, isOver]
  rfl

/-! ## Who may act -/

/-- Whoever may act for a driver is in its slot. -/
def Licensed (world : World Store Driver Procedure Answer) : Prop :=
  ∀ driver id, (world.holdings driver).live = some id → (world.holdings driver).slot = some id

omit [DecidableEq Driver] in
/-- Nobody may act for a driver whose slot is empty. -/
theorem Licensed.vacant (licensed : world.Licensed) {driver : Driver}
    (empty : (world.holdings driver).slot = none) :
    world.holdings driver = { slot := none, live := none } := by
  have nobody : (world.holdings driver).live = none := by
    rw [Option.eq_none_iff_forall_ne_some]
    intro id live
    rw [licensed driver id live] at empty
    cases empty
  exact congrArg₂ Holding.mk empty nobody

omit [DecidableEq Driver] in
theorem Licensed.of_same (licensed : world.Licensed) (same : after.holdings = world.holdings) :
    after.Licensed := by
  intro driver id live
  rw [same] at live ⊢
  exact licensed driver id live

theorem Licensed.setHolding (licensed : world.Licensed) (driver : Driver) {holding : Holding}
    (own : ∀ id, holding.live = some id → holding.slot = some id) :
    (world.setHolding driver holding).Licensed := by
  intro other id live
  by_cases same : other = driver
  · subst same
    rw [holdings_setHolding_self] at live ⊢
    exact own id live
  · rw [holdings_setHolding_of_ne _ _ same] at live ⊢
    exact licensed other id live

/-- A driver gets a task together with its permission, and loses both at once. -/
theorem Licensed.of_advances {etiquette : Etiquette Store Driver Procedure} (licensed : world.Licensed)
    (advances : Advances etiquette machine world after) : after.Licensed := by
  cases advances with
  | rests => exact licensed
  | goesOn | ends | sleeps | takes => exact licensed.of_same rfl
  | joins => exact licensed.of_same holdings_join
  | learns => exact licensed.of_same holdings_noteJoined
  | passes => exact (licensed.setHolding _ (by simp)).of_same rfl
  | @hands id task driver body control =>
      have displaced : (world.displace driver id).Licensed := licensed.of_same holdings_displace
      exact (displaced.setHolding driver fun _ live => live).of_same rfl
  | cancels => exact (licensed.setHolding _ (by simp)).of_same (holdings_join.trans holdings_cancelTask)

end World

namespace Session.Alone

open World (GoesTo)

/-- The tasks of a play-through. -/
abbrev Tasks := List (Task Alone Role SceneKind Reply)

variable {scenes : Scenes} {world : Setting} {store : Alone} {past more : Tasks} {rest : List Turn}
variable {kind : SceneKind} {index : Nat} {node : ChoiceNode} {choice : Choice} {tag : String}

/-! ## The turns of selections -/

/-- A moment of a world at which its drivers hold the same and its clock says the same. -/
def moment (world : Setting) (store : Alone) (tasks : Tasks) (queue : List Turn) : Setting :=
  { world with store := store, tasks := tasks, queue := queue }

/-- A selection that has had no turn yet. -/
def selecting (tag : String) : Task Alone Role SceneKind Reply := .fresh none (select tag)

/-- A selection that has returned. -/
def returned (accepts : Bool) : Task Alone Role SceneKind Reply :=
  { Task.fresh none (.give (.verdict accepts)) with
    status := .ended (.finished (some (.verdict accepts))) }

/-- A store to which more was reported. -/
def reporting (warnings : List Warning) (store : Alone) : Alone :=
  { store with warnings := store.warnings ++ warnings }

/-- A selection whose turn comes where its choice is not on offer returns in the same turn. -/
theorem goesTo_refused (past more : Tasks) (rest : List Turn) (noTurn : world.running = none)
    (refuses : (Operation.select tag).isAccepted store.session = false) :
    ∃ warnings, GoesTo machine
      (moment world store (past ++ selecting tag :: more) (.run past.length :: rest))
      (moment world (reporting warnings store) (past ++ returned false :: more) rest) := by
  obtain ⟨choose, looks, turned⟩ := select_of_refused refuses
  let taken : Setting := moment world store (past ++ selecting tag :: more) rest
  let asks : Task Alone Role SceneKind Reply := .fresh none (.give (.verdict false))
  have inside : past.length < taken.tasks.length := by simp [taken, moment]
  have found : (moment world store (past ++ selecting tag :: more)
      (.run past.length :: rest)).tasks[past.length]? = some (selecting tag) := by simp [moment]
  have stopped : (moment world store (past ++ selecting tag :: more) (.run past.length :: rest)).running =
      none := noTurn
  have takes : (moment world store (past ++ selecting tag :: more) (.run past.length :: rest)).step machine =
      taken.focus past.length (asks.on (.run (.look choose)) []) store := by
    rw [World.step_run stopped rfl found]
    exact congrArg (fun task => taken.focus past.length task store) (by rw [selecting, looks]; rfl)
  have returns : ∀ final : Alone, GoesTo machine (taken.focus past.length (asks.on (.run refused) []) final)
      (moment world final (past ++ returned false :: more) rest) := by
    intro final
    refine .step (World.step_done inside _) ?_
    simp [World.closed, moment, Task.on, asks, Task.fresh, taken, returned, noTurn, Program.give, GoesTo.refl]
  rcases turned store rfl with silent | ⟨warning, warns⟩
  · refine ⟨[], .step takes (.step (World.step_look inside choose) ?_)⟩
    rw [silent, reporting, List.append_nil]
    exact returns store
  · refine ⟨[warning], .step takes (.step (World.step_look inside choose) ?_)⟩
    rw [warns]
    exact .step (World.step_update inside _) (returns _)

/-- Selections whose turns come one after the other where nothing of what they ask for is on offer. -/
theorem goesTo_refusals (past more : Tasks) (rest : List Turn) (noTurn : world.running = none)
    {tags : List String}
    (refuses : ∀ tag ∈ tags, (Operation.select tag).isAccepted store.session = false) :
    ∃ warnings, GoesTo machine
      (moment world store (past ++ (tags.map selecting ++ more))
        ((List.range' past.length tags.length).map Turn.run ++ rest))
      (moment world (reporting warnings store)
        (past ++ (List.replicate tags.length (returned false) ++ more)) rest) := by
  induction tags generalizing store past with
  | nil => exact ⟨[], by simpa [reporting] using GoesTo.refl _⟩
  | cons tag tags inductionHypothesis =>
      obtain ⟨refused, others⟩ := List.forall_mem_cons.mp refuses
      obtain ⟨warnings, first⟩ := goesTo_refused past (tags.map selecting ++ more)
        ((List.range' (past.length + 1) tags.length).map Turn.run ++ rest) noTurn refused
      have still : ∀ tag ∈ tags,
          (Operation.select tag).isAccepted (reporting warnings store).session = false := others
      obtain ⟨later, further⟩ := inductionHypothesis (past ++ [returned false]) still
      have together : reporting later (reporting warnings store) = reporting (warnings ++ later) store := by
        simp [reporting]
      rw [together, List.length_append, List.length_singleton, List.append_assoc, List.append_assoc] at further
      refine ⟨warnings ++ later, ?_⟩
      rw [List.length_cons, List.range'_succ, List.replicate_succ]
      exact first.trans further

/-- A selection that has claimed a choice, before the driver's task has told it that it has ended. -/
def claimant (kind : SceneKind) (node : ChoiceNode) (choice : Choice) (session : Session) :
    Task Alone Role SceneKind Reply :=
  { Task.fresh none (answer kind (choice.offer (session.interpreter kind).preferences.language) node.id
      (some choice)) with
    status := .joining 1 }

/-- A selection whose turn comes where its choice is on offer claims it. The driver's task has ended, so the
selection goes on as soon as everybody who waits for a turn has had it. -/
theorem goesTo_claim (past more : Tasks) (rest : List Turn) (noTurn : world.running = none)
    (offers : OffersAt scenes kind index node store.session) (found : node.find? tag = some choice)
    {held : TaskId} {performer : Task Alone Role SceneKind Reply} {outcome : Outcome Reply}
    (slot : (world.holdings (roleOf kind)).slot = some held) (there : past[held]? = some performer)
    (ended : performer.status = .ended outcome) :
    GoesTo machine (moment world store (past ++ selecting tag :: more) (.run past.length :: rest))
      (moment (world.setHolding (roleOf kind) { slot := none, live := none }) (claimed kind store)
        (past ++ claimant kind node choice store.session :: more) (rest ++ [.joined past.length])) := by
  let taken : Setting := moment world store (past ++ selecting tag :: more) rest
  let offer := choice.offer (store.session.interpreter kind).preferences.language
  have inside : past.length < taken.tasks.length := by simp [taken, moment]
  have earlier : held < past.length := (List.getElem?_eq_some_iff.mp there).1
  have different : held ≠ past.length := Nat.ne_of_lt earlier
  have asked : (moment world store (past ++ selecting tag :: more)
      (.run past.length :: rest)).tasks[past.length]? = some (selecting tag) := by simp [moment]
  have stopped : (moment world store (past ++ selecting tag :: more) (.run past.length :: rest)).running =
      none := noTurn
  have chosen : Seat.chosen? (store.session.interpreter kind) offer.tag = some choice := by
    rw [Choice.tag_offer, Seat.chosen?, offers.there, ChoiceNode.id_of_find? found]
    exact found
  refine .step (World.step_run stopped rfl asked) ?_
  show GoesTo machine (taken.focus past.length ((selecting tag).on (.run (select tag)) []) store) _
  rw [select_eq]
  refine .step (World.step_look inside _) ?_
  simp only [currentKind_eq_some.mpr offers.phase, offers.find?_choices, found, Option.map_some]
  rw [choose_eq]
  refine .step (World.step_look inside _) ?_
  rw [if_pos offers.awaits, chosen, offers.there]
  refine .step (World.step_update inside _) (.step (World.step_cancel_held inside slot different) ?_)
  have isOver : (taken.setHolding (roleOf kind) { slot := none, live := none }).isUnended held = false := by
    have same : taken.tasks[held]? = some performer := by
      rw [← there]
      exact List.getElem?_append_left earlier
    simp [World.isUnended, World.setHolding, same, Task.isEnded, ended]
  rw [World.cancelTask_of_ended isOver, World.joining_of_ended isOver]
  simp [World.setHolding, moment, taken, claimant, claimed, selecting, Task.on, Task.fresh, noTurn]
  exact .refl _

/-- A selection that has claimed a choice makes the player say it, gives the driver what comes next, and
returns. -/
theorem goesTo_honour (node : ChoiceNode) (choice : Choice) (store : Alone) (past more : Tasks)
    (session : Session) (noTurn : world.running = none)
    (vacant : (world.holdings (roleOf kind)).slot = none) :
    GoesTo machine
      (moment world store (past ++ claimant kind node choice session :: more) [.joined past.length])
      ((moment world
        ((sceneSeat kind).applyChoice (choice.offer (session.interpreter kind).preferences.language) node.id
          (some choice) store) (past ++ returned true :: more) []).install (roleOf kind)
          ((sceneSeat kind).resume (some choice))) := by
  let offer := choice.offer (session.interpreter kind).preferences.language
  let woken : Task Alone Role SceneKind Reply := { claimant kind node choice session with status := .ready }
  let taken : Setting := moment world store (past ++ woken :: more) []
  have inside : past.length < taken.tasks.length := by simp [taken, moment]
  have waits : (moment world store (past ++ claimant kind node choice session :: more)
      []).tasks[past.length]? = some (claimant kind node choice session) := by simp [moment]
  have asked : (moment world store (past ++ woken :: more) [.run past.length]).tasks[past.length]? =
      some woken := by simp [moment]
  have told : (moment world store (past ++ claimant kind node choice session :: more)
      [.joined past.length]).step machine =
        moment world store (past ++ woken :: more) [.run past.length] := by
    have stopped : (moment world store (past ++ claimant kind node choice session :: more)
        [.joined past.length]).running = none := noTurn
    rw [World.step_joined stopped rfl]
    refine (World.noteJoined_of_one waits rfl).trans ?_
    simp [moment, woken]
  have stopped : (moment world store (past ++ woken :: more) [.run past.length]).running = none := noTurn
  refine .step told (.step (World.step_run stopped rfl asked) ?_)
  show GoesTo machine (taken.focus past.length (woken.on (.run (answer kind offer node.id (some choice))) [])
    store) _
  refine .step (World.step_update inside _) (.step (World.step_spawn inside _) ?_)
  have stillVacant : (taken.holdings (roleOf kind)).slot = none := vacant
  rw [World.displace_of_vacant stillVacant]
  have stillInside : past.length < (taken.install (roleOf kind) ((sceneSeat kind).resume
      (some choice))).tasks.length := by
    rw [World.length_tasks_install]
    exact Nat.lt_succ_of_lt inside
  refine .step (World.step_done stillInside _) ?_
  simp [World.closed, World.install, World.setHolding, World.enqueue, moment, taken, woken, claimant, returned,
    Task.on, Task.fresh, noTurn]
  exact .refl _

/-- Once a choice has been claimed nothing is on offer. -/
theorem refuses_claimed (phase : store.session.phase = phaseOf kind) (tag : String) :
    (Operation.select tag).isAccepted (claimed kind store).session = false := by
  have same : (claimed kind store).session.phase = phaseOf kind := by cases kind <;> exact phase
  have nothing : ((claimed kind store).session.interpreter kind).choices = [] := by cases kind <;> rfl
  simp only [Operation.isAccepted, currentKind_eq_some.mpr same, nothing, List.any_nil]

/-- The world in which a choice was made and selections have returned. -/
def settledOn (kind : SceneKind) (choice : Choice) (warnings : List Warning) (verdicts : List Bool)
    (world : Setting) : Setting :=
  moment (world.setHolding (roleOf kind) { slot := none, live := none })
    { session := answered kind choice world.store.session
      deliveries := world.store.deliveries ++ [(roleOf kind, playerLine kind choice world.store.session)]
      warnings := world.store.warnings ++ warnings }
    (world.tasks ++ verdicts.map returned) []

/-- Of selections that are made where choices are on offer, and of which one can be made, the first such is
made. -/
theorem goesTo_settledOn (before after : List String) (noTurn : world.running = none)
    (quiet : world.queue = []) (offers : OffersAt scenes kind index node world.store.session)
    (found : node.find? tag = some choice) {held : TaskId} {performer : Task Alone Role SceneKind Reply}
    {outcome : Outcome Reply} (slot : (world.holdings (roleOf kind)).slot = some held)
    (there : world.tasks[held]? = some performer) (ended : performer.status = .ended outcome)
    (refuses : ∀ earlier ∈ before, (Operation.select earlier).isAccepted world.store.session = false) :
    ∃ warnings, GoesTo machine (world.beginAll ((before ++ tag :: after).map select)).2
      ((settledOn kind choice warnings
        (List.replicate before.length false ++ true :: List.replicate after.length false) world).install
          (roleOf kind) ((sceneSeat kind).resume (some choice))) := by
  let past : Tasks := world.tasks ++ List.replicate before.length (returned false)
  let emptied : Setting := world.setHolding (roleOf kind) { slot := none, live := none }
  let others : List Turn := (List.range' (past.length + 1) after.length).map Turn.run
  have length : past.length = world.tasks.length + before.length := by simp [past]
  obtain ⟨told, first⟩ := goesTo_refusals world.tasks (selecting tag :: after.map selecting)
    (.run past.length :: others) noTurn refuses
  have stillOffers : OffersAt scenes kind index node (reporting told world.store).session := offers
  have stillThere : past[held]? = some performer := by
    rw [← there]
    exact List.getElem?_append_left (List.getElem?_eq_some_iff.mp there).1
  have claims := goesTo_claim past (after.map selecting) others noTurn stillOffers found slot stillThere ended
  let claimedOnce : Alone := claimed kind (reporting told world.store)
  obtain ⟨more, later⟩ : ∃ more, GoesTo machine
      (moment emptied claimedOnce
        (past ++ claimant kind node choice world.store.session :: after.map selecting)
        (others ++ [.joined past.length]))
      (moment emptied (reporting more claimedOnce)
        (past ++ claimant kind node choice world.store.session ::
          List.replicate after.length (returned false)) [.joined past.length]) := by
    have refused : ∀ other ∈ after, (Operation.select other).isAccepted claimedOnce.session = false :=
      fun other _ => refuses_claimed offers.phase other
    have refusals := goesTo_refusals (past ++ [claimant kind node choice world.store.session]) []
      [.joined past.length] (show emptied.running = none from noTurn) refused
    simpa [others] using refusals
  have vacant : (emptied.holdings (roleOf kind)).slot = none := by simp [emptied]
  have honours := goesTo_honour node choice (reporting more claimedOnce) past
    (List.replicate after.length (returned false)) world.store.session
    (show emptied.running = none from noTurn) vacant
  have begins : (world.beginAll ((before ++ tag :: after).map select)).2 =
      moment world world.store
        (world.tasks ++ (before.map selecting ++ (selecting tag :: after.map selecting)))
        ((List.range' world.tasks.length before.length).map Turn.run ++ (.run past.length :: others)) := by
    rw [World.beginAll_eq]
    have turns : List.range' world.tasks.length (before.length + (after.length + 1)) =
        List.range' world.tasks.length before.length ++
          past.length :: List.range' (past.length + 1) after.length := by
      rw [← List.range'_append_1, List.range'_succ, length]
    simp only [moment, quiet, others, List.map_append, List.map_cons, List.map_map, List.nil_append,
      List.length_append, List.length_cons, List.length_map, turns]
    rfl
  have stores : (sceneSeat kind).applyChoice
      (choice.offer (world.store.session.interpreter kind).preferences.language) node.id (some choice)
      (reporting more claimedOnce) =
        { session := answered kind choice world.store.session
          deliveries := world.store.deliveries ++ [(roleOf kind, playerLine kind choice world.store.session)]
          warnings := world.store.warnings ++ (told ++ more) } := by
    rw [applyChoice_offer, ← List.append_assoc]
    cases kind <;> rfl
  have tasks : past ++ returned true :: List.replicate after.length (returned false) =
      world.tasks ++
        (List.replicate before.length false ++ true :: List.replicate after.length false).map returned := by
    simp [past]
  rw [stores, tasks] at honours
  refine ⟨told ++ more, ?_⟩
  rw [begins]
  have between : world.tasks ++ (List.replicate before.length (returned false) ++
      selecting tag :: after.map selecting) = past ++ selecting tag :: after.map selecting :=
    (List.append_assoc _ _ _).symm
  rw [between] at first
  exact first.trans (claims.trans (later.trans honours))

/-- Whoever may act for a driver of a play-through is in its slot. -/
theorem Occurs.licensed {textScene : Option TextScene} {encounterScene : Option EncounterScene}
    {preferences : Preferences} {history : History}
    (occurs : Occurs textScene encounterScene preferences history world) : world.Licensed := by
  induction occurs with
  | construct =>
      intro role id live
      cases live
  | begin _ _ _ _ _ inductionHypothesis => exact inductionHypothesis.of_same rfl
  | step before inductionHypothesis =>
      have attended := before.mannered
      exact inductionHypothesis.of_advances
        (attended.decorous.advances machine_decorous attended.balanced)
  | release _ _ _ wait inductionHypothesis =>
      obtain ⟨_, _, rfl⟩ := World.release?_eq_some.mp wait
      exact inductionHypothesis.of_same rfl
  | complete _ _ _ _ inductionHypothesis => exact inductionHypothesis

/-! ## What is played -/

/-- The play-through in which a choice was made, without anything that goes on. -/
def answering (kind : SceneKind) (choice : Choice) (session : Session) : Setting :=
  World.initial { session := answered kind choice session, deliveries := [], warnings := [] }

/-- The play-through in which nothing but what comes after a choice is played. -/
def resuming (kind : SceneKind) (choice : Choice) (session : Session) : Setting :=
  (answering kind choice session).install (roleOf kind) ((sceneSeat kind).resume (some choice))

/-- Where a choice was made nothing is played but what comes after it, whatever happens from then on. -/
theorem mirrors_resuming (warnings : List Warning) (verdicts : List Bool) (noTurn : world.running = none)
    (silent : world.waits = [])
    (vacant : ∀ role, role ≠ roleOf kind → world.holdings role = { slot := none, live := none })
    (moves : List Move) :
    let settled := settledOn kind choice warnings verdicts world
    Option.Rel (Mirrors settled (answering kind choice world.store.session))
      (follow? (settled.install (roleOf kind) ((sceneSeat kind).resume (some choice))) moves)
      (follow? (resuming kind choice world.store.session) moves) := by
  intro settled
  have empty : ∀ role, settled.holdings role = { slot := none, live := none } := by
    intro role
    by_cases same : role = roleOf kind
    · subst same
      exact World.holdings_setHolding_self world _ _
    · exact (World.holdings_setHolding_of_ne world _ same).trans (vacant role same)
  have echoes := World.echoes_initial (rfl : settled.queue = []) silent noTurn empty
    { session := answered kind choice world.store.session, deliveries := [], warnings := [] }
  have doubles : Doubled settled (answering kind choice world.store.session) {kind}
      (settled.install (roleOf kind) ((sceneSeat kind).resume (some choice)))
      (resuming kind choice world.store.session) := by
    refine ⟨echoes.install (roleOf kind) ((sceneSeat kind).resume (some choice)), ?_, ?_⟩
    · exact ⟨rfl, rfl, rfl, rfl, rfl, fun _ => .inl rfl, (List.append_nil _).symm, [],
        (List.append_nil _).symm, rfl⟩
    · intro task member
      rw [resuming, World.bare_install, List.mem_append, List.mem_singleton] at member
      rcases member with earlier | rfl
      · cases earlier
      · exact .fresh ((conceals _).resume (Set.mem_singleton kind) (some choice)) _
  exact mirrors_follow doubles moves

theorem verdict_eq {before after place : Nat} (inside : place < before + (after + 1)) :
    (List.replicate before false ++ true :: List.replicate after false)[place]? = some (place == before) := by
  rcases Nat.lt_trichotomy place before with earlier | rfl | later
  · rw [List.getElem?_append_left (by simpa using earlier)]
    simp [earlier, Nat.ne_of_lt earlier]
  · simp
  · rw [List.getElem?_append_right (by simpa using Nat.le_of_lt later)]
    obtain ⟨more, rfl⟩ := Nat.exists_eq_add_of_lt later
    have rest : before + more + 1 - before = more + 1 := by omega
    have within : more < after := by omega
    simp [rest, within]
    omega

/-- Every selection has its answer. -/
theorem outcome?_settledOn {verdicts : List Bool} {place : Nat} {verdict : Bool} (choice : Choice)
    (warnings : List Warning) (body : Plan) (answered : verdicts[place]? = some verdict) :
    ((settledOn kind choice warnings verdicts world).install (roleOf kind) body).outcome?
        (world.tasks.length + place) = some (.finished (some (.verdict verdict))) := by
  have there : ((settledOn kind choice warnings verdicts world).install (roleOf kind) body).tasks[
      world.tasks.length + place]? = some (returned verdict) := by
    have within : place < verdicts.length := (List.getElem?_eq_some_iff.mp answered).1
    simp only [World.install, World.enqueue, World.setHolding, settledOn, moment]
    rw [List.append_assoc, List.getElem?_append_right (Nat.le_add_right _ _), Nat.add_sub_cancel_left,
      List.getElem?_append_left (by simpa using within), List.getElem?_map, answered]
    rfl
  simp [World.outcome?, there, returned, Task.outcome?]

theorem honours_settledOn (kind : SceneKind) (choice : Choice) (warnings : List Warning)
    (verdicts : List Bool) (world : Setting) :
    Honours kind choice world ((settledOn kind choice warnings verdicts world).install (roleOf kind)
      ((sceneSeat kind).resume (some choice))) := by
  refine ⟨rfl, rfl, (settledOn kind choice warnings verdicts world).tasks.length, ?_, ?_⟩
  · exact World.holdings_setHolding_self _ _ _
  · rw [World.outline_install]
    exact Function.update_self _ _ _

section Operations

variable {textScene : Option TextScene} {encounterScene : Option EncounterScene}
variable {preferences : Preferences} {history : History}

/-- Where a choice can be made, its scene rests at the node that offers it, and nothing else goes on. -/
theorem Occurs.offers (occurs : Occurs textScene encounterScene preferences history world)
    (noTurn : world.running = none) (free : history.flight = none)
    (accepted : (Operation.select tag).isAccepted world.store.session = true) :
    ∃ kind held index node choice,
      Standing (.given textScene encounterScene) (.scene kind held (.offering index node) none) []
          world.outline
        ∧ node.find? tag = some choice ∧ ∀ id, world.isUnended id = false := by
  obtain ⟨situation, progressing, -⟩ := (Sound.of_occurs occurs).moment noTurn
  cases progressing with
  | free _ calm _ standing =>
      obtain ⟨kind, held, index, node, choice, rfl, found⟩ := standing.offered calm accepted
      refine ⟨kind, held, index, node, choice, standing, found, fun id => ?_⟩
      rw [World.isUnended_eq, standing.isOver rfl rfl]
      rfl
  | engaged inFlight _ _ _ _ _ =>
      rw [free] at inFlight
      cases inFlight
  | closed inFlight _ _ _ _ =>
      rw [free] at inFlight
      cases inFlight

/-- Of selections that are made at once where choices are on offer, the first one whose choice is on offer is
accepted and all others are refused. The player has said the line of that choice and has its points, and
whatever happens from then on is what happens where nothing but its branch is played. -/
theorem first_on_offer_applies (occurs : Occurs textScene encounterScene preferences history world)
    (noTurn : world.running = none) (free : history.flight = none) {tags : List String}
    (offered : ∃ tag ∈ tags, (Operation.select tag).isAccepted world.store.session = true) :
    ∃ (before after : List String) (tag : String) (kind : SceneKind) (index : Nat) (node : ChoiceNode)
        (choice : Choice) (warnings : List Warning),
      tags = before ++ tag :: after
        ∧ (∀ earlier ∈ before, (Operation.select earlier).isAccepted world.store.session = false)
        ∧ (Operation.select tag).isAccepted world.store.session = true
        ∧ OffersAt (.given textScene encounterScene) kind index node world.store.session
        ∧ node.find? tag = some choice
        ∧ let verdicts := List.replicate before.length false ++ true :: List.replicate after.length false
          let settled := settledOn kind choice warnings verdicts world
          let reached := settled.install (roleOf kind) ((sceneSeat kind).resume (some choice))
          World.GoesTo machine (world.beginAll (tags.map select)).2 reached
            ∧ (∀ place < tags.length, reached.outcome? (world.tasks.length + place) =
                some (.finished (some (.verdict (place == before.length)))))
            ∧ Honours kind choice world reached
            ∧ ∀ moves, Option.Rel (Mirrors settled (answering kind choice world.store.session))
                (follow? reached moves) (follow? (resuming kind choice world.store.session) moves) := by
  obtain ⟨before, tag, after, rfl, accepted, refuses⟩ : ∃ before tag after, tags = before ++ tag :: after
      ∧ (Operation.select tag).isAccepted world.store.session = true
      ∧ ∀ earlier ∈ before, (Operation.select earlier).isAccepted world.store.session = false := by
    obtain ⟨tag, first⟩ := Option.isSome_iff_exists.mp (List.find?_isSome.mpr offered)
    obtain ⟨accepted, before, after, rfl, refuses⟩ := List.find?_eq_some_iff_append.mp first
    exact ⟨before, tag, after, rfl, accepted, by simpa using refuses⟩
  obtain ⟨kind, held, index, node, choice, standing, found, isOver⟩ := occurs.offers noTurn free accepted
  have offers := standing.looks.offersAt
  obtain ⟨-, quiet, silent⟩ := (Sound.of_occurs occurs).balanced.silent_of_ended isOver
  have slot_eq : ∀ role, (world.holdings role).slot = if role = roleOf kind then some held else none :=
    standing.slot_eq
  have slot : (world.holdings (roleOf kind)).slot = some held := by rw [slot_eq, if_pos rfl]
  have inside : held < world.tasks.length := (standing.within (roleOf kind) held (by simp [Situation.slot])).1
  obtain ⟨performer, outcome, there, ended⟩ := World.found_ended inside (isOver held)
  have vacant : ∀ role, role ≠ roleOf kind → world.holdings role = { slot := none, live := none } := by
    intro role different
    exact occurs.licensed.vacant (by rw [slot_eq, if_neg different])
  obtain ⟨warnings, reaches⟩ :=
    goesTo_settledOn before after noTurn quiet offers found slot there ended refuses
  refine ⟨before, after, tag, kind, index, node, choice, warnings, rfl, refuses, accepted, offers, found,
    reaches, ?_, honours_settledOn _ _ _ _ _, mirrors_resuming warnings _ noTurn silent vacant⟩
  intro place inside
  refine outcome?_settledOn _ _ _ ?_
  exact verdict_eq (by simpa using inside)

/-- A text scene that asks once, with two options. -/
def askingBoth : TextScene :=
  { TextScene.fallback with
    nodes := [.choice ⟨"ask",
      some [⟨"yes", .blank, 3, none, none, none⟩, ⟨"no", .blank, 5, none, none, none⟩]⟩] }

/-- Of three selections the first asks for nothing that is on offer, and the second one is accepted. -/
theorem first_on_offer_applies_at_question :
    ∃ (history : History) (world reached : Setting), Occurs (some askingBoth) none .standard history world
      ∧ world.running = none ∧ history.flight = none
      ∧ (∃ tag ∈ ["perhaps", "no", "yes"], (Operation.select tag).isAccepted world.store.session = true)
      ∧ World.GoesTo machine (world.beginAll (["perhaps", "no", "yes"].map select)).2 reached
      ∧ (∀ place < 3, reached.outcome? (world.tasks.length + place) =
        some (.finished (some (.verdict (place == 1)))))
      ∧ reached.store.session.score = 5 := by
  have start : Occurs (some askingBoth) none .standard .initial _ := .construct
  have begun := (start.begin .begin rfl rfl fun _ => rfl).stepped 20
  have rests : Occurs (some askingBoth) none .standard
      (History.completed _ ⟨0, .begin, some (.text, 0), true⟩ (.finished none)) _ :=
    begun.complete rfl rfl rfl
  obtain ⟨history, world, occurs, noTurn, free, refused, accepted, score, asks⟩ : ∃ history world,
      Occurs (some askingBoth) none .standard history world ∧ world.running = none ∧ history.flight = none
        ∧ (Operation.select "perhaps").isAccepted world.store.session = false
        ∧ (Operation.select "no").isAccepted world.store.session = true
        ∧ world.store.session.score = 0 ∧ world.store.session.place? = some (.text, 0) :=
    ⟨_, _, rests, rfl, rfl, rfl, rfl, rfl, rfl⟩
  have offered : ∃ tag ∈ ["perhaps", "no", "yes"],
      (Operation.select tag).isAccepted world.store.session = true := ⟨"no", by simp, accepted⟩
  obtain ⟨before, after, tag, kind, index, node, choice, warnings, split, refuses, accepts, offers, found,
    reaches, answers, honours, -⟩ := first_on_offer_applies occurs noTurn free offered
  obtain ⟨rfl, rfl⟩ : before = ["perhaps"] ∧ tag = "no" := by
    match before with
    | [] =>
        obtain ⟨rfl, -⟩ := List.cons.inj split
        rw [refused] at accepts
        cases accepts
    | [first] =>
        obtain ⟨rfl, rest⟩ := List.cons.inj split
        exact ⟨rfl, (List.cons.inj rest).1.symm⟩
    | first :: second :: more =>
        obtain ⟨-, rest⟩ := List.cons.inj split
        obtain ⟨rfl, -⟩ := List.cons.inj rest
        rw [refuses "no" (by simp)] at accepted
        cases accepted
  obtain ⟨rfl, rfl⟩ : SceneKind.text = kind ∧ 0 = index := by
    have same := asks.symm.trans offers.place
    simpa using same
  have points : choice.points = 5 := by
    cases offers.here
    cases found
    rfl
  refine ⟨history, world, _, occurs, noTurn, free, offered, reaches, ?_, ?_⟩
  · exact answers
  · rw [honours.session]
    simp [score, points]

end Operations

end Session.Alone

end Playthrough
