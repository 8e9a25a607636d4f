import Playthrough.Proofs.Server.Creation
import Playthrough.Proofs.Server.Hosting
import Playthrough.Proofs.Server.Replays

/-!
Contract: the history of a play-through in a server.

Owns: what happens to a play-through of a server from when it was made and for as long as it is registered
(`Server.Stay`), that every move of the server goes on with it, and that the play-through has become what it would
have become by itself (`Server.Stay.tracks`).

Does not own: play-throughs that are removed or evicted.

What happens to a play-through are the requests that find it and the ends of its own waits. A request about it
is told without its name, and a restart with the preferences that it finds. Everything else that goes on in the
server, and every change of the files, is left out.
-/

namespace Playthrough.Server

/-! ## Histories -/

/-- What a play-through is made of, and whether the answer waits until it has settled. -/
structure Making where
  textScene : Option TextScene
  encounterScene : Option EncounterScene
  preferences : Preferences
  wait : Bool

namespace Making

/-- The play-through that is made. -/
def session (making : Making) : Session :=
  .initial making.textScene making.encounterScene making.preferences

/-- What a request to make a play-through comes to when everything was read and there is room. -/
def establish (making : Making) (id : SessionId) : Plan :=
  .update (register making.session) ((seat id).begin (conclude id making.wait))

/-- What the play-through begins with by itself. -/
def start (making : Making) : Guest.Setting :=
  ((World.initial making.session).begin (Guest.opening making.wait)).2

end Making

theorem create_eq (wait : Bool) :
    create wait =
      ask Storage.settings fun settings =>
        ask (fun storage => storage.chosen storage.textScene settings.textScene) fun textScene =>
          ask (fun storage => storage.chosen storage.encounterScene settings.encounter) fun encounterScene =>
            ask Storage.preferences fun preferences =>
              .call .evict (.look fun server =>
                if server.isFull then failWith .noRoom
                else Making.establish ⟨textScene.value, encounterScene.value, preferences, wait⟩
                  server.sessions.length) := rfl

/-- Nothing of a play-through moves by itself. -/
def Resting (id : SessionId) (requests : List TaskId) (world : Setting) : Prop :=
  (∀ task, world.running = some task → ¬Concerns id requests world task)
    ∧ ∀ turn ∈ world.queue, ¬Concerns id requests world turn.task

/-- The history of a play-through that was made in a server, as long as it is registered: what happened to it,
the latest first, how many steps its tasks have made since, the requests about it, the latest first, and the
server at the end. -/
inductive Stay (storage : Storage) (limit : Nat) (id : SessionId) (making : Making) :
    List (Pace × Occurrence) → Nat → List TaskId → Setting → Prop where
  | made {world : Setting} {task : TaskId} (reachable : Reachable storage limit world)
      (turn : world.running = some task) (asks : world.Asks task (making.establish id))
      (number : world.store.sessions.length = id) :
      Stay storage limit id making [] 0 [task] (world.step machine)
  /-- One of its own tasks makes a step. -/
  | acts {occurrences : List (Pace × Occurrence)} {steps : Nat} {requests : List TaskId} {world : Setting}
      {task : TaskId} (earlier : Stay storage limit id making occurrences steps requests world)
      (acts : world.actor? = some task) (own : Concerns id requests world task)
      (stays : id ∈ (world.step machine).store.registry) :
      Stay storage limit id making occurrences (steps + 1) requests (world.step machine)
  /-- Somebody else makes a step. -/
  | passes {occurrences : List (Pace × Occurrence)} {steps : Nat} {requests : List TaskId} {world : Setting}
      (earlier : Stay storage limit id making occurrences steps requests world)
      (foreign : ∀ task, world.actor? = some task → ¬Concerns id requests world task)
      (stays : id ∈ (world.step machine).store.registry) :
      Stay storage limit id making occurrences steps requests (world.step machine)
  /-- A request arrives that finds it. -/
  | asked {occurrences : List (Pace × Occurrence)} {steps : Nat} {requests : List TaskId} {world : Setting}
      (earlier : Stay storage limit id making occurrences steps requests world)
      (noTurn : world.running = none) {pace : Pace} (kept : pace.Kept steps (Resting id requests world))
      {request : Request} {name : String} {wish : Wish} (wishes : request.call = .ok (wish.call name))
      (found : world.store.find? name = some id) (finds : wish.Finds world.store.storage) :
      Stay storage limit id making ((pace, .asked wish) :: occurrences) 0 (world.tasks.length :: requests)
        (world.begin request.program).2
  /-- Another request arrives. -/
  | asks {occurrences : List (Pace × Occurrence)} {steps : Nat} {requests : List TaskId} {world : Setting}
      (earlier : Stay storage limit id making occurrences steps requests world)
      (noTurn : world.running = none) (request : Request)
      (elsewhere : ∀ name wish, request.call = .ok (Wish.call name wish) → world.store.find? name ≠ some id) :
      Stay storage limit id making occurrences steps requests (world.begin request.program).2
  /-- One of its own waits ends. -/
  | released {occurrences : List (Pace × Occurrence)} {steps : Nat} {requests : List TaskId}
      {world after : Setting} (earlier : Stay storage limit id making occurrences steps requests world)
      (noTurn : world.running = none) {pace : Pace} (kept : pace.Kept steps (Resting id requests world))
      {position : Nat} {wait : Wait} (found : world.waits[position]? = some wait)
      (own : Concerns id requests world wait.task) (ends : world.release? position = some after) :
      Stay storage limit id making
        ((pace, .released ((world.waits.take position).countP fun wait => Concerns id requests world wait.task))
          :: occurrences) 0 requests after
  /-- Another wait ends. -/
  | releases {occurrences : List (Pace × Occurrence)} {steps : Nat} {requests : List TaskId}
      {world after : Setting} (earlier : Stay storage limit id making occurrences steps requests world)
      (noTurn : world.running = none) {position : Nat} {wait : Wait} (found : world.waits[position]? = some wait)
      (foreign : ¬Concerns id requests world wait.task) (ends : world.release? position = some after) :
      Stay storage limit id making occurrences steps requests after
  /-- The files are changed. -/
  | edits {occurrences : List (Pace × Occurrence)} {steps : Nat} {requests : List TaskId} {world : Setting}
      (earlier : Stay storage limit id making occurrences steps requests world)
      (noTurn : world.running = none) (edited : Storage) :
      Stay storage limit id making occurrences steps requests
        { world with store := world.store.setStorage edited }

namespace Stay

variable {storage : Storage} {limit : Nat} {id : SessionId} {making : Making}
variable {occurrences : List (Pace × Occurrence)} {steps : Nat} {requests : List TaskId} {world : Setting}

/-- A history is made of the moves of a server. -/
theorem reachable (stay : Stay storage limit id making occurrences steps requests world) :
    Reachable storage limit world := by
  induction stay with
  | made reachable => exact reachable.tail .step
  | acts _ _ _ _ inductionHypothesis => exact inductionHypothesis.tail .step
  | passes _ _ _ inductionHypothesis => exact inductionHypothesis.tail .step
  | asked _ noTurn _ _ _ _ inductionHypothesis => exact inductionHypothesis.tail (.begin _ noTurn)
  | asks _ noTurn request _ inductionHypothesis => exact inductionHypothesis.tail (.begin request noTurn)
  | released _ noTurn _ _ _ ends inductionHypothesis => exact inductionHypothesis.tail (.release _ noTurn ends)
  | releases _ noTurn _ _ ends inductionHypothesis => exact inductionHypothesis.tail (.release _ noTurn ends)
  | edits _ noTurn edited inductionHypothesis => exact inductionHypothesis.tail (.edit edited noTurn)

theorem registered (stay : Stay storage limit id making occurrences steps requests world) :
    id ∈ world.store.registry := by
  induction stay with
  | made _ turn asks number =>
      rw [asks.step_update machine turn]
      exact List.mem_append_right _ (number ▸ List.mem_cons_self)
  | acts _ _ _ stays => exact stays
  | passes _ _ stays => exact stays
  | asked _ _ _ _ _ _ inductionHypothesis => exact inductionHypothesis
  | asks _ _ _ _ inductionHypothesis => exact inductionHypothesis
  | released _ _ _ _ _ ends inductionHypothesis =>
      obtain ⟨_, -, rfl⟩ := World.release?_eq_some.mp ends
      exact inductionHypothesis
  | releases _ _ _ _ ends inductionHypothesis =>
      obtain ⟨_, -, rfl⟩ := World.release?_eq_some.mp ends
      exact inductionHypothesis
  | edits _ _ _ inductionHypothesis => exact inductionHypothesis

/-- A step is one of its own tasks' or somebody else's. -/
theorem step (stay : Stay storage limit id making occurrences steps requests world)
    (stays : id ∈ (world.step machine).store.registry) :
    ∃ more, Stay storage limit id making occurrences (steps + more) requests (world.step machine) := by
  by_cases own : ∃ task, world.actor? = some task ∧ Concerns id requests world task
  · obtain ⟨task, acts, concerns⟩ := own
    exact ⟨1, .acts stay acts concerns stays⟩
  · exact ⟨0, .passes stay (fun task acts concerns => own ⟨task, acts, concerns⟩) stays⟩

/-- As long as a play-through stays registered every move of the server goes on with its history. -/
theorem goes_on (stay : Stay storage limit id making occurrences steps requests world) {after : Setting}
    (moves : Moves world after) (stays : id ∈ after.store.registry) :
    ∃ more others asked, Stay storage limit id making (more ++ occurrences) others (asked ++ requests) after := by
  cases moves with
  | step =>
      obtain ⟨more, later⟩ := stay.step stays
      exact ⟨[], _, [], later⟩
  | begin request noTurn =>
      by_cases here : ∃ name wish, request.call = .ok (Wish.call name wish) ∧ world.store.find? name = some id
      · obtain ⟨name, wish, wishes, found⟩ := here
        obtain ⟨answers, wishes, finds⟩ : ∃ answers : Wish, request.call = .ok (answers.call name)
            ∧ answers.Finds world.store.storage := by
          cases wish with
          | restart _ wait => exact ⟨.restart world.store.storage.preferences wait, wishes, rfl⟩
          | observe | select | leave | enter => exact ⟨_, wishes, trivial⟩
        have kept : (Pace.after steps).Kept steps (Resting id requests world) := rfl
        exact ⟨[_], 0, [_], .asked stay noTurn kept wishes found finds⟩
      · exact ⟨[], steps, [], .asks stay noTurn request fun name wish wishes found =>
          here ⟨name, wish, wishes, found⟩⟩
  | release position noTurn ends =>
      obtain ⟨wait, found, -⟩ := World.release?_eq_some.mp ends
      by_cases own : Concerns id requests world wait.task
      · have kept : (Pace.after steps).Kept steps (Resting id requests world) := rfl
        exact ⟨[_], 0, [], .released stay noTurn kept found own ends⟩
      · exact ⟨[], steps, [], .releases stay noTurn found own ends⟩
  | edit edited noTurn => exact ⟨[], steps, [], .edits stay noTurn edited⟩

end Stay

/-- Whoever is registered was made. -/
theorem Reachable.made {storage : Storage} {limit : Nat} {id : SessionId} {world : Setting}
    (reachable : Reachable storage limit world) (registered : id ∈ world.store.registry) :
    id < world.store.sessions.length :=
  (admits_numbering.obliged_of_reachable (fun _ member => absurd member List.not_mem_nil) reachable).sane id registered

/-! ## The play-through by itself -/

/-- A play-through in a server has become what it would have become by itself. -/
structure Tracks (id : SessionId) (making : Making) (occurrences : List (Pace × Occurrence)) (steps : Nat)
    (requests : List TaskId) (world : Setting) (places : List TaskId) (inner : Guest.Setting) : Prop where
  replays : Guest.Replays making.start occurrences places inner
  hosts : Hosts id requests world (Guest.goOn steps inner)
  placed : ∀ (mine : TaskId → Prop) [DecidablePred mine],
    (∀ task < world.tasks.length, mine task ↔ Concerns id requests world task) →
      requests.map (Nat.count mine) = places

namespace Tracks

variable {id : SessionId} {making : Making} {occurrences : List (Pace × Occurrence)} {steps : Nat}
variable {requests places : List TaskId} {world after : Setting} {inner : Guest.Setting}

/-- A play-through is at rest when it would be by itself. -/
theorem resting_iff (hosts : Hosts id requests world inner) : Resting id requests world ↔ inner.isIdle = true := by
  have dwells := hosts.dwells (Concerns id requests world) fun _ _ => Iff.rfl
  have running : inner.running = none ↔ ∀ task, world.running = some task → ¬Concerns id requests world task := by
    rw [← dwells.running_eq]
    cases world.running with
    | none => simp
    | some task => simp [place?]
  have queue : inner.queue = [] ↔ ∀ turn ∈ world.queue, ¬Concerns id requests world turn.task := by
    rw [← dwells.queue_eq, List.filterMap_eq_nil_iff]
    refine forall₂_congr fun turn _ => ⟨fun nothing own => ?_, Turn.placed?_of_not_mine⟩
    obtain ⟨placed, there⟩ := Turn.placed?_of_mine own
    rw [there] at nothing
    cases nothing
  simp [Resting, World.isIdle, ← running, ← queue]

theorem kept_iff (hosts : Hosts id requests world inner) {pace : Pace} :
    pace.Kept steps (Resting id requests world) ↔ pace.Kept steps (inner.isIdle = true) := by
  cases pace with
  | atRest => exact resting_iff hosts
  | after expected => exact Iff.rfl

theorem placed_after (tracks : Tracks id making occurrences steps requests world places inner)
    (owners : world.owners <+: after.owners) (mine : TaskId → Prop) [DecidablePred mine]
    (agrees : ∀ task < after.tasks.length, mine task ↔ Concerns id requests after task) :
    requests.map (Nat.count mine) = places :=
  tracks.placed mine (agrees_before owners agrees)

end Tracks

/-- Whatever else goes on in the server, a play-through becomes what it would become by itself. -/
theorem Stay.tracks {storage : Storage} {limit : Nat} {id : SessionId} {making : Making}
    {occurrences : List (Pace × Occurrence)} {steps : Nat} {requests : List TaskId} {world : Setting}
    (stay : Stay storage limit id making occurrences steps requests world) :
    ∃ places inner, Tracks id making occurrences steps requests world places inner := by
  induction stay with
  | @made world task reachable turn asks number =>
      subst number
      have hosts := Hosts.of_unmade reachable (Nat.le_refl _)
      refine ⟨[0], making.start, .starts, Hosts.moves_in reachable turn asks, fun mine _ agrees => ?_⟩
      have owners : (world.step machine).owners = world.owners := by
        rw [asks.step_update machine turn]
        exact (World.owners_proceed _ _).trans rfl
      have inside : task < (world.step machine).tasks.length := by
        rw [← World.length_owners, owners, World.length_owners]
        exact asks.inside
      have alone := World.count_of_alone (fun other within => (agrees other within).trans (hosts.only_maker owners))
        inside
      rw [List.map_singleton, alone.1]
  | @acts occurrences steps requests world task earlier acts own stays inductionHypothesis =>
      obtain ⟨places, inner, tracks⟩ := inductionHypothesis
      have obliged := Reachable.obliged earlier.reachable
      have made := earlier.reachable.made earlier.registered
      have later := Reachable.made (.tail earlier.reachable .step) stays
      refine ⟨places, inner, tracks.replays, ?_, ?_⟩
      · rw [Guest.goOn_succ]
        exact tracks.hosts.step_own obliged acts own made ⟨fun _ => later, fun _ => stays⟩
      · exact tracks.placed_after (prefix_step obliged)
  | @passes occurrences steps requests world earlier foreign stays inductionHypothesis =>
      obtain ⟨places, inner, tracks⟩ := inductionHypothesis
      have obliged := Reachable.obliged earlier.reachable
      have made := earlier.reachable.made earlier.registered
      have later := Reachable.made (.tail earlier.reachable .step) stays
      refine ⟨places, inner, tracks.replays, ?_, ?_⟩
      · exact tracks.hosts.step_beside obliged foreign
          ⟨⟨fun _ => later, fun _ => stays⟩, fun _ => later, fun _ => made⟩
      · exact tracks.placed_after (prefix_step obliged)
  | @asked occurrences steps requests world earlier noTurn pace kept request name wish wishes found finds
      inductionHypothesis =>
      obtain ⟨places, inner, tracks⟩ := inductionHypothesis
      have enters : request.program.Enters (lodging id) world.store wish.plan := by
        simp only [Request.program, wishes]
        exact wish.enters found finds
      have dwells := tracks.hosts.dwells (Concerns id requests world) fun _ _ => Iff.rfl
      have innerNoTurn : (Guest.goOn steps inner).running = none := by
        rw [← dwells.running_eq, noTurn]
        rfl
      refine ⟨_, _, .asked tracks.replays innerNoTurn ((Tracks.kept_iff tracks.hosts).mp kept) wish,
        tracks.hosts.begin_own noTurn enters, fun mine _ agrees => ?_⟩
      have before := Hosts.agrees_begin agrees
      rw [List.map_cons, tracks.placed mine before, (tracks.hosts.dwells mine before).length_eq]
  | @asks occurrences steps requests world earlier noTurn request elsewhere inductionHypothesis =>
      obtain ⟨places, inner, tracks⟩ := inductionHypothesis
      refine ⟨places, inner, tracks.replays,
        tracks.hosts.begin_beside noTurn (Request.shuns tracks.hosts.stands elsewhere),
        tracks.placed_after (prefix_begin world _)⟩
  | @released occurrences steps requests world after earlier noTurn pace kept position wait found own ends
      inductionHypothesis =>
      obtain ⟨places, inner, tracks⟩ := inductionHypothesis
      have obliged := Reachable.obliged earlier.reachable
      obtain ⟨innerAfter, innerEnds, hosts⟩ := tracks.hosts.release_own obliged.balanced noTurn found own ends
      refine ⟨places, innerAfter, .released tracks.replays ((Tracks.kept_iff tracks.hosts).mp kept) innerEnds,
        hosts, tracks.placed_after (prefix_release ends)⟩
  | @releases occurrences steps requests world after earlier noTurn position wait found foreign ends
      inductionHypothesis =>
      obtain ⟨places, inner, tracks⟩ := inductionHypothesis
      have obliged := Reachable.obliged earlier.reachable
      refine ⟨places, inner, tracks.replays,
        tracks.hosts.release_beside obliged.balanced noTurn found foreign ends,
        tracks.placed_after (prefix_release ends)⟩
  | @edits occurrences steps requests world earlier noTurn edited inductionHypothesis =>
      obtain ⟨places, inner, tracks⟩ := inductionHypothesis
      exact ⟨places, inner, tracks.replays, tracks.hosts.edit noTurn edited, tracks.placed⟩

/-! ## What is seen of it -/

/-- The durations of the waits that the tasks of a play-through have begun. -/
def begunBy (id : SessionId) (requests : List TaskId) (world : Setting) : List Duration :=
  (world.begun.filter fun wait => Concerns id requests world wait.task).map Wait.duration

/-- What was answered to requests so far. -/
def answered (requests : List TaskId) (world : Setting) : List (Option (Outcome Reply)) :=
  requests.map world.outcome?

namespace Tracks

variable {id : SessionId} {making : Making} {occurrences : List (Pace × Occurrence)} {steps : Nat}
variable {requests places : List TaskId} {world : Setting} {inner : Guest.Setting}

theorem dwells (tracks : Tracks id making occurrences steps requests world places inner) :
    World.Dwells (lodging id) (Concerns id requests world) world (Guest.goOn steps inner) :=
  tracks.hosts.dwells _ fun _ _ => Iff.rfl

theorem session_eq (tracks : Tracks id making occurrences steps requests world places inner) :
    world.store.session id = (Guest.goOn steps inner).store :=
  tracks.dwells.store_eq

theorem length_eq (tracks : Tracks id making occurrences steps requests world places inner) :
    requests.length = places.length := by
  rw [← tracks.placed (Concerns id requests world) fun _ _ => Iff.rfl, List.length_map]

theorem begunBy_eq (tracks : Tracks id making occurrences steps requests world places inner) :
    begunBy id requests world = (Guest.goOn steps inner).begun.map Wait.duration := by
  rw [← tracks.dwells.begun_eq, begunBy, map_duration_placed]

theorem answered_eq (tracks : Tracks id making occurrences steps requests world places inner) :
    answered requests world =
      places.map fun place => ((Guest.goOn steps inner).outcome? place).map (Outcome.told (answerAbout id)) := by
  rw [← tracks.placed (Concerns id requests world) fun _ _ => Iff.rfl, List.map_map]
  exact List.map_congr_left fun task member => tracks.dwells.outcome?_eq (.inl member)

/-- What was answered is what is answered to a request of the play-through by itself. -/
theorem outcome_of_answered (tracks : Tracks id making occurrences steps requests world places inner)
    {position : Nat} {outcome : Outcome Reply}
    (answer : (answered requests world)[position]? = some (some outcome)) :
    ∃ place told, places[position]? = some place ∧ (Guest.goOn steps inner).outcome? place = some told
      ∧ told.told (answerAbout id) = outcome := by
  rw [tracks.answered_eq, List.getElem?_map] at answer
  obtain ⟨place, here, there⟩ := Option.map_eq_some_iff.mp answer
  obtain ⟨told, isOver, same⟩ := Option.map_eq_some_iff.mp there
  exact ⟨place, told, here, isOver, same⟩

theorem sound (tracks : Tracks id making occurrences steps requests world places inner) : Guest.Sound inner :=
  (Guest.Sound.start making.session making.wait).replays tracks.replays

end Tracks

/-! ## How histories go on -/

/-- Nobody removes a play-through while everything runs. -/
def stays (id : SessionId) : Nat → Setting → Bool
  | 0, world => world.store.registry.contains id
  | fuel + 1, world =>
      world.store.registry.contains id && (world.isIdle || stays id fuel (world.step machine))

section Opening

variable {storage : Storage} {limit : Nat} {id : SessionId} {making : Making}
variable {occurrences : List (Pace × Occurrence)} {steps : Nat} {requests : List TaskId} {world : Setting}

theorem registered_of_stays {fuel : Nat} (lasts : stays id fuel world = true) : id ∈ world.store.registry := by
  cases fuel with
  | zero => simpa [stays] using lasts
  | succ fuel =>
      simp only [stays, Bool.and_eq_true] at lasts
      simpa using lasts.1

/-- Everything runs. -/
theorem Stay.drain (stay : Stay storage limit id making occurrences steps requests world) {fuel : Nat}
    (lasts : stays id fuel world = true) :
    ∃ more, Stay storage limit id making occurrences (steps + more) requests (world.drain machine fuel) := by
  induction fuel generalizing world steps with
  | zero => exact ⟨0, stay⟩
  | succ fuel inductionHypothesis =>
      simp only [stays, Bool.and_eq_true, Bool.or_eq_true] at lasts
      rw [World.drain]
      split
      · exact ⟨0, stay⟩
      · next busy =>
          have later := lasts.2.resolve_left busy
          obtain ⟨first, stepped⟩ := stay.step (registered_of_stays later)
          obtain ⟨more, drained⟩ := inductionHypothesis stepped later
          exact ⟨first + more, by rwa [← Nat.add_assoc]⟩

/-- A server in which nothing moves. -/
theorem resting_of_isIdle (idle : world.isIdle = true) : Resting id requests world := by
  simp only [World.isIdle, Bool.and_eq_true, Option.isNone_iff_eq_none, List.isEmpty_iff] at idle
  refine ⟨fun task turn => ?_, fun turn queued => ?_⟩
  · rw [idle.1] at turn
    cases turn
  · rw [idle.2] at queued
    cases queued

/-- A play-through at rest is asked for something, and everything runs. -/
theorem Stay.asked_at_rest (stay : Stay storage limit id making occurrences steps requests world)
    (idle : world.isIdle = true) {request : Request} {wish : Wish} (wishes : request.call = .ok (wish.call (idText id)))
    (found : world.store.find? (idText id) = some id) (finds : wish.Finds world.store.storage) {fuel : Nat}
    (lasts : stays id fuel (world.begin (program (wish.call (idText id)))).2 = true) {place : TaskId}
    (count : world.tasks.length = place) :
    ∃ more, Stay storage limit id making ((.atRest, .asked wish) :: occurrences) more (place :: requests)
      ((world.begin (program (wish.call (idText id)))).2.drain machine fuel) := by
  have kept : Pace.atRest.Kept steps (Resting id requests world) := resting_of_isIdle idle
  have asked := stay.asked (World.noTurn_of_isIdle idle) kept wishes found finds
  have same : request.program = program (wish.call (idText id)) := by
    rw [Request.program, wishes]
  rw [same, count] at asked
  obtain ⟨more, ran⟩ := asked.drain lasts
  exact ⟨_, ran⟩

theorem drain_begin_call (procedure : Procedure) (next : Plan) (fuel : Nat) :
    World.drain machine (fuel + 1) (world.begin (.call procedure next)).2 =
      World.drain machine fuel (world.begin ((machine.body procedure).andThen next)).2 := by
  have busy : (world.begin (.call procedure next)).2.isIdle = false := rfl
  have stepped := (World.Asks.begin world (.call procedure next)).step_call machine rfl
  rw [World.drain, busy, stepped, World.proceed_begin]
  rfl

/-- Where there is room nobody is evicted. -/
theorem drain_begin_evict (room : world.store.isFull = false) (next : Plan) (fuel : Nat) :
    World.drain machine (fuel + 2) (world.begin (.call .evict next)).2 =
      World.drain machine fuel (world.begin next).2 := by
  rw [drain_begin_call]
  show World.drain machine (fuel + 1) (world.begin (evictProgram.andThen next)).2 = _
  simp only [evictProgram, Program.andThen]
  rw [World.drain_begin_look, room]
  rfl

/-- Where there is room a request makes a play-through of what the storage answers. -/
theorem Stay.opens (reachable : Reachable storage limit world) (noTurn : world.running = none)
    (room : world.store.isFull = false) {request : Request} {wait : Bool} (asks : request.call = .ok (.create wait))
    {settings : Settings} {textScene : Repository.Finding TextScene}
    {encounterScene : Repository.Finding EncounterScene} {preferences : Preferences}
    (read : world.store.storage.settings = .ok settings)
    (text : world.store.storage.chosen world.store.storage.textScene settings.textScene = .ok textScene)
    (encounter : world.store.storage.chosen world.store.storage.encounterScene settings.encounter =
      .ok encounterScene)
    (preferred : world.store.storage.preferences = .ok preferences) :
    Stay storage limit world.store.sessions.length
      ⟨textScene.value, encounterScene.value, preferences, wait⟩ [] 0 [world.tasks.length]
      ((world.begin (Making.establish ⟨textScene.value, encounterScene.value, preferences, wait⟩
        world.store.sessions.length)).2.step machine) := by
  have reads : World.drain machine 7 (world.begin request.program).2 =
      (world.begin (Making.establish ⟨textScene.value, encounterScene.value, preferences, wait⟩
        world.store.sessions.length)).2 := by
    rw [Request.program, asks]
    show World.drain machine 7 (world.begin (create wait)).2 = _
    rw [create_eq, drain_ask_of_ok read, drain_ask_of_ok text, drain_ask_of_ok encounter,
      drain_ask_of_ok preferred, drain_begin_evict room, World.drain_begin_look, room]
    rfl
  refine .made ((reachable.tail (.begin request noTurn)).trans ?_) rfl (.begin world _) rfl
  rw [← reads]
  exact moves_drain 7 _

end Opening

end Playthrough.Server
