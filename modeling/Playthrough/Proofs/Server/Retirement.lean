import Playthrough.Proofs.Server.Refusals
import Playthrough.Proofs.Server.Terms
import Playthrough.Proofs.Task.Habit

/-!
Contract: what becomes of a play-through that leaves the registry while requests overlap.

Owns: the terms on which requests leave such a play-through alone (`Server.sparing`), that whoever takes a
play-through out of the registry closes it at once (`Server.Thorough`), and that it stays stopped unless a
request was at work on it that still has something for it to play.

Does not own: the order of the registry.

A request finds a play-through by its name once and keeps to it from then on. One that waits for a driver to
stop does not look again whether the play-through is still registered, so what it gives the drivers
afterwards nobody stops. All other requests find nothing any more.
-/

namespace Playthrough.Server

variable {id other : SessionId} {server before after : Server}

/-! ## Requests that leave a play-through alone -/

/-- A play-through was made and is not registered any more. -/
structure Gone (id : SessionId) (server : Server) : Prop where
  made : id < server.sessions.length
  absent : id ∉ server.registry

namespace Gone

theorem of_sameBut (gone : Gone id before) (same : SameBut other before after) : Gone id after :=
  ⟨by rw [same.count]; exact gone.made, by rw [same.registry]; exact gone.absent⟩

theorem unregister (gone : Gone id server) (other : SessionId) : Gone id (server.unregister other) :=
  ⟨gone.made, fun inside => gone.absent (List.mem_filter.mp inside).1⟩

/-- Nobody finds it. -/
theorem ne_of_found {name : String} (gone : Gone id server) (found : server.find? name = some other) :
    other ≠ id := by
  rintro rfl
  exact gone.absent (List.mem_of_find?_eq_some found)

theorem touch (gone : Gone id server) (inside : other ∈ server.registry) : Gone id (server.touch other) :=
  ⟨gone.made, fun found => gone.absent ((mem_registry_touch inside).mp found)⟩

theorem register (gone : Gone id server) (session : Session) : Gone id (server.register session) := by
  refine ⟨?_, ?_⟩
  · show id < (server.sessions ++ [session]).length
    rw [List.length_append]
    exact Nat.lt_add_right _ gone.made
  · rw [registry_register, List.mem_append, List.mem_singleton]
    rintro (inside | same)
    · exact gone.absent inside
    · exact absurd same (Nat.ne_of_lt gone.made)

end Gone

/-- The terms on which requests give a play-through that is gone nothing to play and do not register it
again. -/
def sparing (id : SessionId) : Pact Server DriverId Procedure Reply Unit where
  sane := Gone id
  drift _ _ := True
  calls _ _ _ _ _ := True
  lends driver := driver.1 ≠ id
  spawned _ _ := ()
  cancelled _ _ := ()
  good _ _ _ := True

/-- Once a play-through is gone, whatever is found when the program goes on, it leaves it alone. -/
abbrev LeavesAlone (id : SessionId) (program : Plan) : Prop := Upheld (sparing id) program

/-- The terms on which no number is registered that was not given to a play-through. -/
def numbering : Pact Server DriverId Procedure Reply Unit where
  sane server := ∀ id ∈ server.registry, id < server.sessions.length
  drift _ _ := True
  calls _ _ _ _ _ := True
  lends _ := True
  spawned _ _ := ()
  cancelled _ _ := ()
  good _ _ _ := True

theorem admits_numbering : Admits numbering where
  free _ _ := trivial
  called _ _ _ := trivial
  good _ _ := trivial
  sameBut {_ before after} made same id inside := by
    rw [same.count]
    exact made id (same.registry ▸ inside)
  setStorage _ made := made
  unregister _ made id inside := made id (List.mem_filter.mp inside).1
  touch made found :=
    ⟨fun id inside => made id ((mem_registry_touch (List.mem_of_find?_eq_some found)).mp inside),
      fun _ => trivial⟩
  register {server} session made _ := by
    refine ⟨fun id inside => ?_, fun _ => trivial⟩
    show id < (server.sessions ++ [session]).length
    rw [List.length_append]
    rcases List.mem_append.mp inside with inside | last
    · exact Nat.lt_add_right _ (made id inside)
    · rw [List.mem_singleton.mp last]
      exact Nat.lt_succ_self _

/-- Every request that arrives keeps to these terms: it finds other play-throughs only, and a new one has
another number. -/
theorem admits_sparing (id : SessionId) : Admits (sparing id) where
  free _ _ := trivial
  called _ _ _ := trivial
  good _ _ := trivial
  sameBut gone same := gone.of_sameBut same
  setStorage _ gone := ⟨gone.made, gone.absent⟩
  unregister other gone := gone.unregister other
  touch gone found := ⟨gone.touch (List.mem_of_find?_eq_some found), fun _ => gone.ne_of_found found⟩
  register session gone _ := ⟨gone.register session, fun _ => Nat.ne_of_gt gone.made⟩

/-- Waiting until a play-through has settled gives nobody anything to play. -/
theorem leavesAlone_settling (other : SessionId) (drivers remaining : List DriverId) :
    LeavesAlone id (.settle drivers remaining (showSession other)) := fun _ _ _ _ _ => trivial

/-! ## Requests that take play-throughs out of the registry -/

/-- Whoever takes a play-through out of the registry closes it at once and leaves it alone from then on. -/
def Thorough : Plan → Prop
  | .done _ => True
  | .look choose => ∀ server, Thorough (choose server)
  | .update change next =>
      ((∀ server id, id ∈ server.registry → id ∈ (change server).registry)
        ∨ ∃ id rest, change = unregister id ∧ next = (seat id).close rest ∧ LeavesAlone id rest)
        ∧ Thorough next
  | .call _ next => (∀ id, LeavesAlone id next) ∧ Thorough next
  | .spawn _ _ next => Thorough next
  | .cancel _ next => Thorough next
  | .settle _ _ next => Thorough next
  | _ => False

/-- What is done to a play-through takes nobody out of the registry. -/
theorem composes_thorough (id : SessionId) : (seat id).Composes fun program : Plan => Thorough program where
  look _ goesOn := goesOn
  update change _ alters goesOn := by
    refine ⟨.inl fun server other inside => ?_, goesOn⟩
    rwa [(SameBut.of_alters (alters server)).registry]
  cancel _ _ goesOn := goesOn
  settle goesOn := goesOn
  spawn _ goesOn := goesOn

/-- Operations stay thorough as they go on. -/
theorem habit_thorough : Habit machine manners Thorough where
  keeps {program next server} decorous goesOn thorough := by
    cases goesOn with
    | look choose => exact thorough server
    | update change => exact thorough.2
    | call procedure next =>
        rcases decorous.1 with ⟨-, rfl⟩ | ⟨_, _, impossible, -⟩
        · intro server
          dsimp only
          split
          · next oldest rest _ _ =>
              exact ⟨.inr ⟨oldest, .call .evict next, rfl, rfl, fun _ _ _ reached gone _ => thorough.1 oldest reached gone⟩,
                (composes_thorough oldest).close thorough⟩
          · exact thorough.2
        · cases impossible
    | spawn => exact thorough
    | cancel => exact thorough
    | settled => exact thorough
    | settles => exact thorough

theorem thorough_conclude (id : SessionId) (wait : Bool) : Thorough (conclude id wait) := by
  cases wait with
  | false => exact fun _ => trivial
  | true => exact (composes_thorough id).settle fun _ => trivial

theorem thorough_ask {α : Type} {question : Storage → Except Storage.Fault α} {next : α → Plan}
    (goesOn : ∀ value, Thorough (next value)) : Thorough (ask question next) := by
  intro server
  dsimp only
  split
  · exact goesOn _
  · trivial

theorem thorough_readScene (name : String) : Thorough (readScene name) := by
  refine thorough_ask fun found => ?_
  split <;> trivial

theorem thorough_withSession (name : String) {next : SessionId → Plan}
    (goesOn : ∀ id, Thorough (next id)) : Thorough (withSession name next) := by
  intro server
  dsimp only
  split
  · trivial
  · next id _ =>
      refine ⟨.inl fun server other inside => ?_, goesOn id⟩
      by_cases same : other = id <;> simp [touch, same, inside]

/-- Every request is thorough. -/
theorem Request.thorough (request : Request) : Thorough request.program := by
  unfold Request.program
  split
  next call asked =>
    cases call with
    | health => trivial
    | readSettings => exact thorough_ask fun _ => trivial
    | changeSettings fields =>
        intro server
        dsimp only
        split
        · exact ⟨.inl fun _ _ inside => inside, trivial⟩
        · split <;> trivial
    | listScenes => exact thorough_ask fun _ => trivial
    | readScene name => exact thorough_readScene name
    | create wait =>
        refine thorough_ask fun _ => thorough_ask fun _ => thorough_ask fun _ => thorough_ask fun _ =>
          ⟨fun id => (admits_sparing id).makes wait, fun server => ?_⟩
        dsimp only
        split
        · trivial
        · exact ⟨.inl fun _ _ inside => List.mem_append_left _ inside,
            (composes_thorough _).begin (thorough_conclude _ wait)⟩
    | observe name wait => exact thorough_withSession name fun id => thorough_conclude id wait
    | select name option wait =>
        exact thorough_withSession name fun id =>
          (composes_thorough id).select option trivial (thorough_conclude id wait)
    | leave name wait =>
        exact thorough_withSession name fun id =>
          (composes_thorough id).triggerTransition trivial (thorough_conclude id wait)
    | enter name wait =>
        exact thorough_withSession name fun id =>
          (composes_thorough id).beginEncounter trivial (thorough_conclude id wait)
    | restart name wait =>
        exact thorough_withSession name fun id => thorough_ask fun preferences =>
          (composes_thorough id).restart _ ((composes_thorough id).begin (thorough_conclude id wait))
    | remove name =>
        intro server
        dsimp only
        split
        · trivial
        · next id _ =>
            exact ⟨.inr ⟨id, respond .removed, rfl, rfl, (admits_sparing id).done _⟩,
              (composes_thorough id).close trivial⟩
  next => trivial

/-! ## From the registry to the last driver -/

variable {storage : Storage} {limit : Nat} {world after : Setting} {task : TaskId}

theorem habitual_of_moves (habitual : world.Habitual Thorough)
    (obliged : world.Obliged manners (sharing limit Any)) (moves : Moves world after) :
    after.Habitual Thorough := by
  cases moves with
  | begin request noTurn => exact habitual.begin request.thorough
  | step => exact habitual.step habit_thorough machine_decorous obliged
  | release position noTurn wait => exact habitual.release? obliged.balanced wait
  | edit storage noTurn => exact habitual.restore _

/-- Whatever goes on in a server is thorough. -/
theorem Reachable.habitual (reachable : Reachable storage limit world) : world.Habitual Thorough := by
  induction reachable with
  | refl =>
      intro id program asks
      have inside := asks.inside
      simp [World.initial] at inside
  | tail before moves inductionHypothesis =>
      exact habitual_of_moves inductionHypothesis (Reachable.obliged before) moves

/-- Nothing that is reached is out of order. -/
theorem Reachable.inOrder (reachable : Reachable storage limit world) : world.InOrder := by
  induction reachable with
  | refl => exact .initial _
  | tail before moves inductionHypothesis =>
      have obliged := Reachable.obliged before
      cases moves with
      | begin request noTurn => exact inductionHypothesis.begin noTurn
      | step =>
          have advances := obliged.decorous.advances machine_decorous obliged.balanced
          exact inductionHypothesis.of_advances obliged.balanced obliged.decorous advances
            (obliged.balanced.step machine)
      | release position noTurn wait => exact inductionHypothesis.release? obliged.balanced wait
      | edit storage noTurn => exact inductionHypothesis.of_same rfl rfl rfl rfl

/-- Takes the tasks from some drivers of a play-through, one after the other. -/
def closing (id : SessionId) (todo : List Role) (rest : Plan) : Plan :=
  todo.foldr (fun role next => .cancel (id, role) next) rest

/-- A play-through is being closed by a request that still has some drivers to stop, or none of its drivers
has a task. -/
inductive Retires (id : SessionId) (task : TaskId) (world : Setting) : Prop where
  | closes (todo : List Role) (rest : Plan) (suffix : todo <:+ Role.all)
      (asks : world.Asks task (closing id todo rest))
      (vacant : ∀ role, role ∉ todo → world.Vacant (id, role))
  | closed (vacant : ∀ role, world.Vacant (id, role))

/-- A play-through is gone, no request gives it anything to play, and its drivers are being stopped. -/
structure Retiring (id : SessionId) (task : TaskId) (world : Setting) : Prop where
  obliged : world.Obliged manners (sparing id)
  inOrder : world.InOrder
  retires : Retires id task world

/-- The encounter comes before the epilogue that it could start. -/
theorem encounter_first {todo : List Role} (suffix : todo <:+ Role.all) (done : Role.epilogue ∉ todo) :
    Role.encounter ∉ todo := by
  have cases : todo = Role.all ∨ todo = [.encounter, .epilogue] ∨ todo = [.epilogue] ∨ todo = [] := by
    simpa [Role.all, List.suffix_cons_iff] using suffix
  rcases cases with rfl | rfl | rfl | rfl <;> simp_all [Role.all]

/-- Nobody gives a stopped driver a task: requests leave it alone, and the task of the encounter, which could,
was taken from it first. -/
theorem Retiring.vacant_step (retiring : Retiring id task world) {todo : List Role}
    (suffix : todo <:+ Role.all) (vacant : ∀ role, role ∉ todo → world.Vacant (id, role)) {role : Role}
    (done : role ∉ todo) : (world.step machine).Vacant (id, role) := by
  have obliged := retiring.obliged
  have advances := obliged.decorous.advances machine_decorous obliged.balanced
  cases turn : world.running with
  | none =>
      rcases advances.leads.slots _ (vacant role done) with stays | ⟨_, _, acts, -⟩
      · exact stays
      · rw [turn] at acts
        cases acts
  | some acting =>
      have orderly : world.Orderly (some acting) := turn ▸ obliged.balanced
      obtain ⟨acts, found, -⟩ := orderly.acts
      have own := World.owner_of_found found
      cases owner : acts.owner with
      | none =>
          rw [owner] at own
          obtain ⟨program, asks, upholds, -⟩ :=
            obliged.commits acting own (obliged.balanced.unended_of_turn turn)
          exact asks.vacant_step obliged.decorous (upholds turn) turn (fun lends => lends rfl)
            (vacant role done)
      | some driver =>
          rw [owner] at own
          refine World.vacant_of_driver obliged.balanced obliged.decorous retiring.inOrder machine_decorous
            turn own (fun hands => ?_) (vacant role done)
          rcases hands with impossible | ⟨_, same, given⟩
          · cases impossible
          · cases same
            cases given
            exact vacant .encounter (encounter_first suffix done)

/-- The request that closes a play-through goes on with it. -/
theorem Retiring.retires_step (retiring : Retiring id task world) :
    Retires id task (world.step machine) := by
  have obliged := retiring.obliged
  have leads := (obliged.decorous.advances machine_decorous obliged.balanced).leads
  cases retiring.retires with
  | closed vacant =>
      exact .closed fun role => retiring.vacant_step (List.nil_suffix) (fun role _ => vacant role)
        List.not_mem_nil
  | closes todo rest suffix asks vacant =>
      have stays {role : Role} (done : role ∉ todo) : (world.step machine).Vacant (id, role) :=
        retiring.vacant_step suffix vacant done
      by_cases turn : world.running = some task
      · cases todo with
        | nil => exact .closed fun role => stays List.not_mem_nil
        | cons role more =>
            obtain ⟨program, asked, upholds, -⟩ :=
              obliged.commits task asks.own (obliged.balanced.unended_of_turn turn)
            cases asks.unique asked
            rcases asks.goes_on obliged.decorous (upholds turn) turn with
              ⟨answer, last, -⟩ | ⟨next, goesOn, asksNext⟩
            · cases last
            · cases goesOn with
              | cancel =>
                  refine .closes more rest ((List.suffix_cons _ _).trans suffix) asksNext fun other done => ?_
                  by_cases same : other = role
                  · rw [same]
                    exact asks.vacant_cancel obliged.decorous turn
                  · exact stays (by simp [same, done])
      · exact .closes todo rest suffix (asks.of_leads obliged.decorous leads turn) fun _ => stays

/-- No move gives a play-through that is being closed anything to play. -/
theorem Retiring.of_moves (retiring : Retiring id task world) (moves : Moves world after) :
    Retiring id task after := by
  have obliged := (admits_sparing id).obliged_of_moves retiring.obliged moves
  have balanced := retiring.obliged.balanced
  cases moves with
  | begin request noTurn =>
      refine ⟨obliged, retiring.inOrder.begin noTurn, ?_⟩
      cases retiring.retires with
      | closed vacant => exact .closed vacant
      | closes todo rest suffix asks vacant => exact .closes todo rest suffix (asks.beside _) vacant
  | step =>
      exact ⟨obliged, retiring.inOrder.of_advances balanced retiring.obliged.decorous
        (retiring.obliged.decorous.advances machine_decorous balanced) obliged.balanced, retiring.retires_step⟩
  | release position noTurn wait =>
      refine ⟨obliged, retiring.inOrder.release? balanced wait, ?_⟩
      have unended := @World.isUnended_release? _ _ _ _ _ task _ _ balanced wait
      have bare := congrArg (fun tasks => tasks[task]?) (World.bare_release? wait)
      obtain ⟨held, -, rfl⟩ := World.release?_eq_some.mp wait
      cases retiring.retires with
      | closed vacant => exact .closed vacant
      | closes todo rest suffix asks vacant =>
          exact .closes todo rest suffix (asks.of_same bare unended) vacant
  | edit storage noTurn =>
      refine ⟨obliged, retiring.inOrder.of_same rfl rfl rfl rfl, ?_⟩
      cases retiring.retires with
      | closed vacant => exact .closed vacant
      | closes todo rest suffix asks vacant =>
          exact .closes todo rest suffix (asks.of_same rfl rfl) vacant

/-- Nor do any moves. -/
theorem Retiring.of_later (retiring : Retiring id task world)
    (later : Relation.ReflTransGen Moves world after) : Retiring id task after := by
  induction later with
  | refl => exact retiring
  | tail _ moves inductionHypothesis => exact inductionHypothesis.of_moves moves

/-- When the request that closes it has ended and nothing moves, all of its drivers are cleared. -/
theorem Retiring.cleared (retiring : Retiring id task world)
    (ended : world.owners[task]? = some none → world.isUnended task = false) (idle : world.isIdle = true)
    (role : Role) : world.Cleared (id, role) := by
  have vacant : world.Vacant (id, role) := by
    cases retiring.retires with
    | closed vacant => exact vacant role
    | closes _ _ _ asks => exact absurd asks.goesOn (by simp [ended asks.own])
  exact ⟨vacant, fun other own => World.ended_of_vacant retiring.inOrder idle vacant own⟩

theorem retiring_of_unregister {rest : Plan} (reachable : Reachable storage limit world)
    (turn : world.running = some task) (asks : world.Asks task (.update (unregister id) ((seat id).close rest)))
    (leavesAlone : LeavesAlone id rest) (registered : id ∈ world.store.registry)
    (spared : ∀ other program, world.Asks other program → world.running ≠ some other → LeavesAlone id program) :
    Retiring id task (world.step machine) := by
  have obliged := reachable.obliged
  have advances := obliged.decorous.advances machine_decorous obliged.balanced
  have balanced := obliged.balanced.step machine
  have numbered := admits_numbering.obliged_of_reachable (fun _ inside => nomatch inside) reachable
  have stepped := asks.step_update machine turn
  have asksNext : (world.step machine).Asks task ((seat id).close rest) := by
    rw [stepped]
    exact asks.proceed { world with store := world.store.unregister id } rfl
  have gone : Gone id (world.step machine).store := by
    rw [stepped]
    exact ⟨numbered.sane id registered, not_mem_registry_unregister id world.store⟩
  refine ⟨⟨balanced, obliged.decorous.of_advances advances, gone, fun other own goesOn => ?_⟩,
    reachable.inOrder.of_advances obliged.balanced obliged.decorous advances balanced,
    .closes Role.all rest List.suffix_rfl asksNext fun role missing => ?_⟩
  · have before := advances.leads.outside_before own
    by_cases acts : world.running = some other
    · cases turn.symm.trans acts
      have stillActs : (world.step machine).running = some task := by rw [stepped]; exact turn
      exact ⟨_, asksNext, fun _ => Admits.close id leavesAlone _ gone, fun idle => absurd stillActs idle⟩
    · have inside : other < world.tasks.length := by
        rw [← World.length_owners]
        exact (List.getElem?_eq_some_iff.mp before).1
      obtain ⟨program, asksOther, -⟩ :=
        obliged.commits other before ((advances.leads.unended other inside acts).symm.trans goesOn)
      have leaves := spared other program asksOther acts
      exact ⟨program, asksOther.of_leads obliged.decorous advances.leads acts, fun _ => leaves _ gone,
        fun _ => leaves⟩
  · cases role <;> simp [Role.all] at missing

/-- Whoever takes a play-through out of the registry begins to close it. -/
theorem retiring_of_removal (reachable : Reachable storage limit world) (moves : Moves world after)
    (registered : id ∈ world.store.registry) (removed : id ∉ after.store.registry)
    (spared : ∀ other program, world.Asks other program → world.running ≠ some other → LeavesAlone id program) :
    ∃ task, Retiring id task after := by
  have stays : after.store.registry ≠ world.store.registry := fun same => removed (same ▸ registered)
  have obliged := reachable.obliged
  cases moves with
  | begin | edit => exact absurd rfl stays
  | release position noTurn wait =>
      obtain ⟨_, -, rfl⟩ := World.release?_eq_some.mp wait
      exact absurd rfl stays
  | step =>
      have advances := obliged.decorous.advances machine_decorous obliged.balanced
      have leads := advances.leads
      rcases leads.store with same | ⟨acting, owner, change, turn, own, writes, changed⟩
      · exact absurd (congrArg registry same) stays
      cases owner with
      | some driver =>
          have same := writes driver rfl world.store
          rw [← changed] at same
          exact absurd same.registry stays
      | none =>
          obtain ⟨program, asks, upholds, -⟩ :=
            obliged.commits acting own (obliged.balanced.unended_of_turn turn)
          have thorough := reachable.habitual acting program asks
          rcases asks.store_step obliged.decorous (upholds turn) turn with same | ⟨change, next, rfl, changed⟩
          · exact absurd (congrArg registry same) stays
          rcases thorough.1 with keeps | ⟨other, rest, rfl, rfl, leavesAlone⟩
          · rw [changed] at removed
            exact absurd (keeps _ _ registered) removed
          have same : other = id := by
            by_contra different
            refine removed ?_
            rw [changed]
            exact List.mem_filter.mpr ⟨registered, by simpa using Ne.symm different⟩
          subst same
          exact ⟨acting, retiring_of_unregister reachable turn asks leavesAlone registered spared⟩

/-- Whatever overlaps: once a play-through has left the registry, all requests have returned and nothing
moves any more, none of its drivers is active and no wait of it is pending, unless some other request was at
work on it when it left that still had something for it to play. -/
theorem stopped_unless_revived {removing returned : Setting} (reachable : Reachable storage limit world)
    (moves : Moves world removing) (registered : id ∈ world.store.registry)
    (removed : id ∉ removing.store.registry)
    (spared : ∀ other program, world.Asks other program → world.running ≠ some other → LeavesAlone id program)
    (later : Relation.ReflTransGen Moves removing returned)
    (ended : ∀ task, returned.owners[task]? = some none → returned.isUnended task = false)
    (idle : returned.isIdle = true) (role : Role) :
    returned.isActive (id, role) = false
      ∧ ∀ wait ∈ returned.waits, returned.owners[wait.task]? ≠ some (some (id, role)) := by
  obtain ⟨task, retiring⟩ := retiring_of_removal reachable moves registered removed spared
  have retired := retiring.of_later later
  have cleared := retired.cleared (ended task) idle role
  exact ⟨cleared.notActive, fun wait held => cleared.noWait retired.obliged.balanced held⟩

/-! ## Requests that overlap a removal -/

/-- The name of the first play-through. -/
def firstName : String := "00000000000000000000000000000000"

/-- A storage that holds nothing but the wish to play fast. -/
def hasty : Storage :=
  { files := [("data", .folder [("config.json", .file (.text "\x7b\"pacing\": \"fast\"\x7d"))])]
    data := some ["data"]
    presets := some (.folder ["presets"]) }

/-- A request to leave the text scene of the first play-through. -/
def departure : Request :=
  { method := "POST", target := "/api/sessions/00000000000000000000000000000000/transition", body := "" }

/-- A request to remove the first play-through. -/
def removal : Request :=
  { method := "DELETE", target := "/api/sessions/00000000000000000000000000000000", body := "" }

/-- A request to look at the first play-through when it has settled. -/
def visit : Request :=
  { method := "GET", target := "/api/sessions/00000000000000000000000000000000?wait=true", body := "" }

theorem program_departure : departure.program = program (.leave firstName false) := by
  have asked : departure.call = .ok (.leave firstName false) := by cbv
  rw [Request.program, asked]

theorem program_removal : removal.program = remove firstName := by
  have asked : removal.call = .ok (.remove firstName) := by cbv
  rw [Request.program, asked]
  rfl

theorem program_visit : visit.program = program (.observe firstName true) := by
  have asked : visit.call = .ok (.observe firstName true) := by cbv
  rw [Request.program, asked]

/-- How a play-through is made once everything was read, of no scenes and to be played fast. -/
def making : Plan :=
  .call .evict
    (.look fun server =>
      if server.isFull then failWith .noRoom
      else
        .update (register (.initial none none { language := .english, pacing := .fast }))
          ((seat server.sessions.length).begin (conclude server.sessions.length false)))

theorem settings_hasty :
    hasty.settings = .ok { Settings.standard with pacing := .fast } := by
  cbv

theorem chosen_hasty :
    hasty.textScene "text_scene_01" = .ok { value := none, warned := true }
      ∧ hasty.encounterScene "encounter_01" = .ok { value := none, warned := true } := by
  constructor <;> cbv

/-- A server on that storage. -/
def opened : Setting := World.initial (initial hasty 1)

theorem drain_creation :
    World.drain machine 4 (opened.begin (create false)).2 = (opened.begin making).2 := by
  have settings : opened.store.storage.settings = _ := settings_hasty
  have text : opened.store.storage.chosen opened.store.storage.textScene Settings.standard.textScene =
      _ := chosen_hasty.1
  have encounter : opened.store.storage.chosen opened.store.storage.encounterScene
      Settings.standard.encounter = _ := chosen_hasty.2
  have preferences : opened.store.storage.preferences = .ok { language := .english, pacing := .fast } := by
    rw [Storage.preferences, settings]
    rfl
  rw [create, drain_ask_of_ok settings, drain_ask_of_ok text, drain_ask_of_ok encounter,
    drain_ask_of_ok preferences]
  rfl

/-- A server whose only play-through has come to the end of a text scene without nodes. -/
def ready : Setting := (opened.begin making).2.drain machine 30

theorem reachable_ready : Reachable hasty 1 ready := by
  have asked : (Request.mk "POST" "/api/sessions" "").program = create false := by
    have asked : (Request.mk "POST" "/api/sessions" "").call = .ok (.create false) := by cbv
    rw [Request.program, asked]
    rfl
  have begun : Moves opened _ := .begin (Request.mk "POST" "/api/sessions" "") rfl
  rw [asked] at begun
  have read := moves_drain 4 (opened.begin (create false)).2
  rw [drain_creation] at read
  exact (Relation.ReflTransGen.head begun read).trans (moves_drain 30 _)

/-- The request to leave the text scene waits for its driver. -/
def leaving : Setting := (ready.begin (program (.leave firstName false))).2.drain machine 4

theorem reachable_leaving : Reachable hasty 1 leaving := by
  have noTurn : ready.running = none := by cbv
  have arrives := Moves.begin departure noTurn
  rw [program_departure] at arrives
  exact (reachable_ready.tail arrives).trans (moves_drain 4 _)

/-- The play-through is removed while a request to leave its text scene waits, and everything goes on until
nothing moves. -/
def revived : Setting := (leaving.begin (remove firstName)).2.drain machine 60

theorem reachable_revived : Reachable hasty 1 revived := by
  have noTurn : leaving.running = none := by cbv
  have arrives := Moves.begin removal noTurn
  rw [program_removal] at arrives
  exact (reachable_leaving.tail arrives).trans (moves_drain 60 _)

/-- What there is to see of a world. -/
structure Overview where
  idle : Bool
  /-- Whose tasks there are. -/
  owners : List (Option DriverId)
  /-- Which of them go on. -/
  unended : List Bool
  made : Nat
  registered : List SessionId
  /-- Whose tasks wait for the clock. -/
  waiting : List (Option DriverId)
deriving DecidableEq

/-- Looks at a world. -/
def overview (world : Setting) : Overview :=
  { idle := world.isIdle
    owners := world.owners
    unended := (List.range world.tasks.length).map world.isUnended
    made := world.store.sessions.length
    registered := world.store.registry
    waiting := world.waits.filterMap fun wait => world.owners[wait.task]? }

/-- Every operation has ended. -/
def Overview.isAnswered (overview : Overview) : Bool :=
  (overview.owners.zip overview.unended).all fun task => task.1.isSome || !task.2

theorem ended_of_isAnswered (answered : (overview world).isAnswered = true)
    (own : world.owners[task]? = some none) : world.isUnended task = false := by
  have inside : task < world.tasks.length := by
    rw [← World.length_owners]
    exact (List.getElem?_eq_some_iff.mp own).1
  have goesOn : (overview world).unended[task]? = some (world.isUnended task) := by
    simp [overview, List.getElem?_map, List.getElem?_range inside]
  have there : (none, world.isUnended task) ∈ (overview world).owners.zip (overview world).unended :=
    List.mem_of_getElem? (List.getElem?_zip_eq_some.mpr ⟨own, goesOn⟩)
  simpa using List.all_eq_true.mp answered _ there

theorem overview_revived :
    overview revived =
      { idle := true
        owners := [none, some (0, .text), none, none, some (0, .encounter)]
        unended := [false, false, false, false, true]
        made := 1
        registered := []
        waiting := [some (0, .encounter)] } := by cbv

/-- A play-through may go on after it was removed: a request to leave its text scene had found it before. -/
theorem not_stopped_at_departure :
    ¬∀ (storage : Storage) (limit : Nat) (world : Setting) (id : SessionId) (role : Role),
      Reachable storage limit world → world.isIdle = true →
      (∀ task, world.owners[task]? = some none → world.isUnended task = false) →
      id < world.store.sessions.length → id ∉ world.store.registry →
      world.isActive (id, role) = false
        ∧ ∀ wait ∈ world.waits, world.owners[wait.task]? ≠ some (some (id, role)) := by
  intro stopped
  have answered : (overview revived).isAnswered = true := by rw [overview_revived]; rfl
  have seen := overview_revived
  simp only [overview, Overview.mk.injEq] at seen
  obtain ⟨idle, -, -, made, registered, waiting⟩ := seen
  obtain ⟨-, noWait⟩ := stopped hasty 1 revived 0 .encounter reachable_revived idle
    (fun _ => ended_of_isAnswered answered) (by simp [made]) (by simp [registered])
  have waits := List.mem_singleton_self (some ((0, .encounter) : DriverId))
  rw [← waiting] at waits
  obtain ⟨wait, held, own⟩ := List.mem_filterMap.mp waits
  exact noWait wait held own

/-- The first play-through plays its encounter, and a request waits until it has settled. -/
def visited : Setting :=
  ((leaving.drain machine 60).begin (program (.observe firstName true))).2.drain machine 20

theorem reachable_visited : Reachable hasty 1 visited := by
  have noTurn : (leaving.drain machine 60).running = none := by cbv
  have arrives := Moves.begin visit noTurn
  rw [program_visit] at arrives
  exact ((reachable_leaving.trans (moves_drain 60 _)).tail arrives).trans (moves_drain 20 _)

/-- A request to remove it has found it. -/
def removing : Setting := (visited.begin (remove firstName)).2.step machine

theorem reachable_removing : Reachable hasty 1 removing := by
  have noTurn : visited.running = none := by cbv
  have arrives := Moves.begin removal noTurn
  rw [program_removal] at arrives
  exact (reachable_visited.tail arrives).tail .step

theorem overview_removing :
    overview removing =
      { idle := false
        owners := [none, some (0, .text), none, some (0, .encounter), none, none]
        unended := [false, false, false, true, true, true]
        made := 1
        registered := [0]
        waiting := [some (0, .encounter)] } := by cbv

/-- The request that waits only looks at the play-through afterwards. -/
theorem bare_removing :
    removing.running = some 5
      ∧ removing.bare[4]? =
        some (.fresh none (.settle (seat 0).drivers [(0, .encounter), (0, .epilogue)] (showSession 0))) := by
  constructor <;> cbv

/-- Nobody else is at work than the request that waits. -/
theorem leavesAlone_removing {other : TaskId} {program : Plan} (asks : removing.Asks other program)
    (waits : removing.running ≠ some other) : LeavesAlone 0 program := by
  obtain ⟨running, waiting⟩ := bare_removing
  have seen := overview_removing
  simp only [overview, Overview.mk.injEq] at seen
  obtain ⟨-, owners, unended, -⟩ := seen
  have inside := asks.inside
  have own := asks.own
  have goesOn : ((List.range removing.tasks.length).map removing.isUnended)[other]? = some true := by
    rw [List.getElem?_map, List.getElem?_range inside, Option.map_some, asks.goesOn]
  rw [unended] at goesOn
  rw [owners] at own
  have same : other = 4 := by
    have few : other < 6 := (List.getElem?_eq_some_iff.mp own).1
    rw [running] at waits
    interval_cases other <;> simp at own goesOn waits ⊢
  subst same
  have settling := asks.program.symm.trans waiting
  simp only [Option.some.injEq, Task.fresh, Task.mk.injEq, Control.run.injEq, true_and, and_true] at settling
  rw [settling]
  exact leavesAlone_settling _ _ _

theorem overview_removed :
    overview ((removing.step machine).drain machine 60) =
      { idle := true
        owners := [none, some (0, .text), none, some (0, .encounter), none, none]
        unended := [false, false, false, false, false, false]
        made := 1
        registered := []
        waiting := [] } := by cbv

theorem registered_removed : (removing.step machine).store.registry = [] := by cbv

/-- The encounter stops when the play-through is removed, although a request waits for it. -/
theorem stopped_at_removal :
    let returned := (removing.step machine).drain machine 60
    ∀ role, returned.isActive (0, role) = false
      ∧ ∀ wait ∈ returned.waits, returned.owners[wait.task]? ≠ some (some (0, role)) := by
  intro returned role
  have answered : (overview ((removing.step machine).drain machine 60)).isAnswered = true := by
    rw [overview_removed]
    rfl
  have before := overview_removing
  have after := overview_removed
  simp only [overview, Overview.mk.injEq] at before after
  exact stopped_unless_revived reachable_removing .step (by simp [before]) (by simp [registered_removed])
    (fun _ _ => leavesAlone_removing) (moves_drain 60 _) (fun _ => ended_of_isAnswered answered) after.1 role

end Playthrough.Server
