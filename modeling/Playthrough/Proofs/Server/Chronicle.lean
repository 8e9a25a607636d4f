import Playthrough.Proofs.Server.Creation
import Playthrough.Proofs.Server.Upkeep

/-!
Contract: the registry over a whole history of requests.

Owns: histories in which every request ends before the next one arrives (`Server.Chronicle`), and what holds
in all of them: the order of the registry, who is evicted, and that whoever has left it is stopped for good.

Does not own: requests that overlap, of which only the bound on their number is said here.

Between the requests and during them steps are made, waits end and files are edited in any order. While a
request goes on its world is described by the terms on which it acts; when it has ended these say what it
has done.
-/

namespace Playthrough.Server

/-- What was done to the registry, the request that goes on, and the world that has come of it. -/
inductive Chronicle (storage : Storage) (limit : Nat) :
    List Deed → Option (TaskId × Request) → Setting → Prop where
  | opens : Chronicle storage limit [] none (World.initial (initial storage limit))
  | arrives {deeds : List Deed} {world : Setting} (earlier : Chronicle storage limit deeds none world)
      (noTurn : world.running = none) (request : Request) :
      Chronicle storage limit deeds (some (world.tasks.length, request)) (world.begin request.program).2
  | steps {deeds : List Deed} {flight : Option (TaskId × Request)} {world : Setting}
      (earlier : Chronicle storage limit deeds flight world) :
      Chronicle storage limit deeds flight (world.step machine)
  | releases {deeds : List Deed} {flight : Option (TaskId × Request)} {world released : Setting}
      (earlier : Chronicle storage limit deeds flight world) (noTurn : world.running = none) (position : Nat)
      (wait : world.release? position = some released) : Chronicle storage limit deeds flight released
  | edits {deeds : List Deed} {flight : Option (TaskId × Request)} {world : Setting}
      (earlier : Chronicle storage limit deeds flight world) (noTurn : world.running = none)
      (edited : Storage) :
      Chronicle storage limit deeds flight { world with store := world.store.setStorage edited }
  | answers {deeds : List Deed} {id : TaskId} {request : Request} {outcome : Outcome Reply} {world : Setting}
      (earlier : Chronicle storage limit deeds (some (id, request)) world)
      (isOver : world.outcome? id = some outcome) :
      Chronicle storage limit (deeds ++ deedsOf limit (byLastUse deeds) request outcome) none world

namespace Chronicle

variable {storage : Storage} {limit : Nat} {deeds : List Deed} {flight : Option (TaskId × Request)}
variable {world : Setting}

/-- A history is made of the moves of a server. -/
theorem reachable (chronicle : Chronicle storage limit deeds flight world) :
    Reachable storage limit world := by
  induction chronicle with
  | opens => exact .refl
  | arrives _ noTurn request inductionHypothesis => exact inductionHypothesis.tail (.begin request noTurn)
  | steps _ inductionHypothesis => exact inductionHypothesis.tail .step
  | releases _ noTurn position wait inductionHypothesis =>
      exact inductionHypothesis.tail (.release position noTurn wait)
  | edits _ noTurn edited inductionHypothesis => exact inductionHypothesis.tail (.edit edited noTurn)
  | answers _ _ inductionHypothesis => exact inductionHypothesis

theorem drain (chronicle : Chronicle storage limit deeds flight world) (fuel : Nat) :
    Chronicle storage limit deeds flight (world.drain machine fuel) := by
  induction fuel generalizing world with
  | zero => exact chronicle
  | succ fuel inductionHypothesis =>
      rw [World.drain]
      split
      · exact chronicle
      · exact inductionHypothesis chronicle.steps

end Chronicle

/-! ## What is kept -/

/-- Between requests the registry is in the order of last use, and whoever is not in it is cleared; a
request that goes on keeps to its terms. -/
inductive Recorded (limit : Nat) (deeds : List Deed) : Option (TaskId × Request) → Setting → Prop where
  | rests {world : Setting} (attended : world.Attended manners none) (tidy : Tidy limit world.store)
      (registered : world.store.registry = byLastUse deeds)
      (made : ∀ deed ∈ deeds, deed.id < world.store.sessions.length)
      (cleared : ∀ driver : DriverId, driver.1 ∉ byLastUse deeds → world.Cleared driver) :
      Recorded limit deeds none world
  | serves {world : Setting} {id : TaskId} {request : Request} (attended : world.Attended manners (some id))
      (tidy : Tidy limit world.store) (few : (byLastUse deeds).length ≤ limit) (count : Nat)
      (made : ∀ deed ∈ deeds, deed.id < count)
      (fulfils : world.Fulfils manners (keeping limit (byLastUse deeds) count request) id) :
      Recorded limit deeds (some (id, request)) world

section Records

variable {limit : Nat} {deeds : List Deed} {flight : Option (TaskId × Request)} {world after : Setting}

/-- Nobody but a play-through itself makes tasks for its drivers. -/
theorem closed_outside (order : List SessionId) : manners.Closed fun driver => driver.1 ∉ order := by
  intro driver other outside hands
  rw [(encounter_of_hands hands).1]
  exact outside

namespace Recorded

theorem initial (storage : Storage) (limit : Nat) :
    Recorded limit [] none (World.initial (.initial storage limit)) :=
  .rests (.initial _) (.initial storage limit) rfl nofun fun _ _ => .initial _ _

theorem arrives (recorded : Recorded limit deeds none world) (noTurn : world.running = none)
    (request : Request) :
    Recorded limit deeds (some (world.tasks.length, request)) (world.begin request.program).2 := by
  cases recorded with
  | rests attended tidy registered made cleared =>
      have upholds := request.keeps ⟨tidy, registered, rfl, fun _ absent => absent⟩
      have few : (byLastUse deeds).length ≤ limit := registered ▸ tidy.room
      refine .serves (attended.begin noTurn request.decorous) tidy few _ made (.begin ⟨?_, ?_, cleared⟩ upholds)
      · exact closed_outside _
      · exact fun driver spared inside => spared (.inl inside)

/-- Between requests drivers do not touch the registry. -/
theorem of_leads (recorded : Recorded limit deeds none world) (leads : world.Leads manners after)
    (attendedAfter : after.Attended manners none) : Recorded limit deeds none after := by
  cases recorded with
  | rests attended tidy registered made cleared =>
      have idle : world.running.isSome → world.running ≠ none := fun some none => by simp [none] at some
      obtain ⟨alike, tidyAfter⟩ := World.Fulfils.drifts_of_leads (@clears_keeping limit 0 [] default) attended
        leads idle tidy
      refine .rests attendedAfter tidyAfter (alike.registry.trans registered) ?_ fun driver absent => ?_
      · rw [alike.count]
        exact made
      · refine (cleared driver absent).of_leads attended leads idle fun other hands => cleared other ?_
        exact closed_outside _ driver other absent hands

theorem steps (recorded : Recorded limit deeds flight world) :
    Recorded limit deeds flight (world.step machine) := by
  cases recorded with
  | rests attended tidy registered made cleared =>
      exact of_leads (.rests attended tidy registered made cleared) (attended.leads machine_decorous)
        (attended.step machine_decorous)
  | serves attended tidy few count made fulfils =>
      obtain ⟨tidyAfter, onward⟩ := fulfils.step clears_keeping attended machine_decorous honours_keeping tidy
      exact .serves (attended.step machine_decorous) tidyAfter few count made onward

theorem releases {released : Setting} {position : Nat} (recorded : Recorded limit deeds flight world)
    (noTurn : world.running = none) (wait : world.release? position = some released) :
    Recorded limit deeds flight released := by
  cases recorded with
  | rests attended tidy registered made cleared =>
      exact of_leads (.rests attended tidy registered made cleared)
        (World.leads_of_release attended.balanced wait) (attended.release? wait)
  | serves attended tidy few count made fulfils =>
      obtain ⟨tidyAfter, onward⟩ := fulfils.release? clears_keeping attended noTurn wait tidy
      exact .serves (attended.release? wait) tidyAfter few count made onward

theorem edits (recorded : Recorded limit deeds flight world) (noTurn : world.running = none)
    (edited : Storage) :
    Recorded limit deeds flight { world with store := world.store.setStorage edited } := by
  have alike : Alike world.store (world.store.setStorage edited) := ⟨rfl, rfl⟩
  cases recorded with
  | rests attended tidy registered made cleared =>
      refine .rests (attended.restore _) (tidy.of_alike alike rfl) registered made fun driver absent => ?_
      exact (cleared driver absent).of_same rfl rfl fun _ _ => rfl
  | serves attended tidy few count made fulfils =>
      exact .serves (attended.restore _) (tidy.of_alike alike rfl) few count made
        (fulfils.restore clears_keeping noTurn alike)

/-- Whatever a request has done can follow what was done before, and is about play-throughs that were made. -/
theorem follow_of_settled {count : Nat} {request : Request} {answer : Option Reply} {known : DriverId → Prop}
    {server : Server} (made : ∀ deed ∈ deeds, deed.id < count)
    (settled : Settled limit (byLastUse deeds) count request answer known server) :
    FollowAll deeds (deedsOf limit (byLastUse deeds) request (.finished answer))
      ∧ ∀ deed ∈ deedsOf limit (byLastUse deeds) request (.finished answer),
        deed.id < server.sessions.length := by
  have there : ∀ id ∈ byLastUse deeds, id < server.sessions.length := by
    intro id inside
    obtain ⟨deed, earlier, rfl⟩ := id_of_mem_byLastUse inside
    exact Nat.lt_of_lt_of_le (made deed earlier) settled.grows
  obtain none | ⟨id, inside, used | left⟩ | ⟨wait, id, snapshot, asked, same, making⟩ :=
    deedsOf_cases limit (byLastUse deeds) request (.finished answer)
  · rw [none]
    exact ⟨trivial, nofun⟩
  · rw [used]
    refine ⟨⟨(mem_byLastUse.mp inside).2, trivial⟩, ?_⟩
    simpa [Deed.id] using there id inside
  · rw [left]
    refine ⟨⟨trivial, trivial⟩, ?_⟩
    simpa [Deed.id] using there id inside
  · cases same
    obtain ⟨fresh, _, same⟩ := settled.made wait _ asked rfl
    cases same
    rw [making]
    refine ⟨followAll_deedsOfMaking fun deed earlier => Nat.ne_of_lt (made deed earlier), ?_⟩
    intro deed inside
    rcases id_of_mem_deedsOfMaking inside with before | now
    · exact there _ before
    · rw [now]
      exact fresh

/-- A request that has ended has done what follows from its answer. -/
theorem settled {id : TaskId} {request : Request} {outcome : Outcome Reply}
    (recorded : Recorded limit deeds (some (id, request)) world) (isOver : world.outcome? id = some outcome) :
    ∃ answer known count, outcome = .finished answer ∧ (byLastUse deeds).length ≤ limit
      ∧ (∀ deed ∈ deeds, deed.id < count) ∧ (∀ driver, known driver → world.Cleared driver)
      ∧ Settled limit (byLastUse deeds) count request answer known world.store := by
  cases recorded with
  | serves attended tidy few count made fulfils =>
      cases fulfils with
      | acts known program turn asks => exact absurd isOver (by simp [asks.no_outcome])
      | waits known awaited program idle asks => exact absurd isOver (by simp [asks.no_outcome])
      | ended known answer ended knows settled =>
          cases isOver.symm.trans ended
          exact ⟨answer, known, count, rfl, few, made, knows.cleared, settled⟩

theorem answers {id : TaskId} {request : Request} {outcome : Outcome Reply}
    (recorded : Recorded limit deeds (some (id, request)) world) (isOver : world.outcome? id = some outcome) :
    Recorded limit (deeds ++ deedsOf limit (byLastUse deeds) request outcome) none world := by
  obtain ⟨answer, known, count, rfl, -, made, cleared, settled⟩ := recorded.settled isOver
  obtain ⟨follow, new⟩ := follow_of_settled made settled
  have registered := settled.registry.trans (byLastUse_append follow).symm
  cases recorded with
  | serves attended tidy =>
      refine .rests (attended.complete isOver) tidy registered ?_ fun driver absent => ?_
      · intro deed inside
        rcases List.mem_append.mp inside with before | now
        · exact Nat.lt_of_lt_of_le (made deed before) settled.grows
        · exact new deed now
      · rw [← registered] at absent
        exact cleared driver (settled.stopped driver absent)

/-- Whoever has left is cleared. -/
theorem cleared_of_left {id : SessionId} (recorded : Recorded limit deeds flight world)
    (left : .left id ∈ deeds) (role : Role) : world.Cleared (id, role) := by
  have outside : id ∉ byLastUse deeds := fun inside => (mem_byLastUse.mp inside).2 left
  cases recorded with
  | rests attended tidy registered made cleared => exact cleared (id, role) outside
  | serves attended tidy few count made fulfils =>
      refine fulfils.cleared fun lends => ?_
      rcases lends with inside | new
      · exact outside inside
      · exact absurd (made _ left) (Nat.not_lt_of_le new)

theorem balanced (recorded : Recorded limit deeds flight world) : world.Balanced := by
  cases recorded with
  | rests attended => exact attended.balanced
  | serves attended => exact attended.balanced

end Recorded

theorem recorded_of_chronicle {storage : Storage} (chronicle : Chronicle storage limit deeds flight world) :
    Recorded limit deeds flight world := by
  induction chronicle with
  | opens => exact .initial storage limit
  | arrives _ noTurn request inductionHypothesis => exact inductionHypothesis.arrives noTurn request
  | steps _ inductionHypothesis => exact inductionHypothesis.steps
  | releases _ noTurn position wait inductionHypothesis => exact inductionHypothesis.releases noTurn wait
  | edits _ noTurn edited inductionHypothesis => exact inductionHypothesis.edits noTurn edited
  | answers _ isOver inductionHypothesis => exact inductionHypothesis.answers isOver

end Records

/-! ## Every history -/

/-- What holds of the registry of a server that begins with the given storage. -/
structure RegistersByLastUse (storage : Storage) (limit : Nat) : Prop where
  /-- Between requests the registry holds the play-throughs that were used and have not left, the least
  recently used first. -/
  order : ∀ deeds world, Chronicle storage limit deeds none world → world.store.registry = byLastUse deeds
  /-- A request that finds a play-through uses it or takes it out, whatever the answer. -/
  found : ∀ deeds task request world outcome call name id,
    Chronicle storage limit deeds (some (task, request)) world → world.outcome? task = some outcome →
    request.call = .ok call → call.subject? = some name →
    ((byLastUse deeds).find? fun id => idText id == name) = some id →
    world.store.registry = (call.deed id).change (byLastUse deeds)
  /-- A request that is answered with nothing found or as out of order does not touch the registry. -/
  refused : ∀ deeds task request world response, Chronicle storage limit deeds (some (task, request)) world →
    world.outcome? task = some (.finished (some (.ok response))) →
    response.status = 404 ∨ response.status = 422 → world.store.registry = byLastUse deeds
  /-- A new play-through comes last. Where there is no room the least recently used one leaves for it, and no
  other. -/
  making : ∀ deeds task request world response wait,
    Chronicle storage limit deeds (some (task, request)) world →
    world.outcome? task = some (.finished (some (.ok response))) → request.call = .ok (.create wait) →
    ∃ id snapshot, response = .session id snapshot ∧ (∀ deed ∈ deeds, deed.id ≠ id)
      ∧ world.store.registry =
        (if limit ≤ (byLastUse deeds).length then (byLastUse deeds).tail else byLastUse deeds) ++ [id]
  /-- Whoever has left has no active driver and no pending wait any more, also while requests go on. -/
  stopped : ∀ deeds flight world id, Chronicle storage limit deeds flight world → .left id ∈ deeds →
    ∀ role, world.isActive (id, role) = false
      ∧ ∀ wait ∈ world.waits, world.owners[wait.task]? ≠ some (some (id, role))
  /-- There are never more than there may be, also where requests overlap. -/
  bounded : ∀ world, Reachable storage limit world → world.store.registry.length ≤ limit

theorem registers_by_last_use (storage : Storage) (limit : Nat) : RegistersByLastUse storage limit where
  order deeds world chronicle := by
    cases recorded_of_chronicle chronicle with
    | rests attended tidy registered => exact registered
  found deeds task request world outcome call name id chronicle isOver asked subject found := by
    obtain ⟨answer, known, count, rfl, -, -, -, settled⟩ := (recorded_of_chronicle chronicle).settled isOver
    rw [settled.registry, deedsOf_of_subject asked subject, found]
    rfl
  refused deeds task request world response chronicle isOver status := by
    obtain ⟨answer, known, count, same, -, -, -, settled⟩ := (recorded_of_chronicle chronicle).settled isOver
    cases same
    rw [settled.registry, settled.refused response rfl status]
    rfl
  making deeds task request world response wait chronicle isOver asked := by
    obtain ⟨answer, known, count, same, few, made, -, settled⟩ := (recorded_of_chronicle chronicle).settled isOver
    cases same
    obtain ⟨-, snapshot, rfl⟩ := settled.made wait response asked rfl
    refine ⟨count, snapshot, rfl, fun deed earlier => Nat.ne_of_lt (made deed earlier), ?_⟩
    have making : deedsOf limit (byLastUse deeds) request (.finished (some (.ok (.session count snapshot)))) =
        deedsOfMaking limit (byLastUse deeds) count := by simp only [deedsOf, asked]
    rw [settled.registry, making, foldl_deedsOfMaking few (nodup_byLastUse deeds)]
    split
    · have one : (byLastUse deeds).length + 1 - limit = 1 := by omega
      rw [one, List.drop_one]
    · have none : (byLastUse deeds).length + 1 - limit = 0 := by omega
      rw [none, List.drop_zero]
  stopped deeds flight world id chronicle left role := by
    have recorded := recorded_of_chronicle chronicle
    have cleared := recorded.cleared_of_left left role
    exact ⟨cleared.notActive, fun wait held => cleared.noWait recorded.balanced held⟩
  bounded world reachable := reachable.length_registry_le

/-- A request to make a play-through. -/
def creation : Request := { method := "POST", target := "/api/sessions", body := "" }

theorem call_creation : creation.call = .ok (.create false) := by cbv

theorem program_creation : creation.program = create false := by
  rw [Request.program, call_creation]
  rfl

/-- A server for one play-through after so many were made, each to its end. -/
def renewed : Nat → Setting
  | 0 => World.initial (initial .cutShort 1)
  | count + 1 => ((renewed count).begin (create false)).2.drain machine 40

theorem idle_renewed : (renewed 1).running = none ∧ (renewed 1).tasks.length = 2 := by
  constructor <;> cbv

theorem deeds_renewed : ((renewed 1).outcome? 0).map (deedsOf 1 [] creation) = some [.made 0] := by cbv

theorem deeds_renewed_again :
    ((renewed 2).outcome? 2).map (deedsOf 1 [0] creation) = some [.left 0, .made 1] := by cbv

theorem chronicle_renewed : Chronicle .cutShort 1 [.made 0] none (renewed 1) := by
  obtain ⟨outcome, isOver, deeds⟩ := Option.map_eq_some_iff.mp deeds_renewed
  have arrived := @Chronicle.arrives .cutShort 1 _ _ .opens rfl creation
  rw [program_creation] at arrived
  have answered := (arrived.drain 40).answers isOver
  have order : byLastUse [] = [] := rfl
  rwa [order, deeds] at answered

theorem chronicle_renewed_again :
    Chronicle .cutShort 1 [.made 0, .left 0, .made 1] none (renewed 2) := by
  obtain ⟨outcome, isOver, deeds⟩ := Option.map_eq_some_iff.mp deeds_renewed_again
  have arrived := chronicle_renewed.arrives idle_renewed.1 creation
  rw [program_creation, idle_renewed.2] at arrived
  have answered := (arrived.drain 40).answers isOver
  have order : byLastUse [.made 0] = [0] := by decide
  rwa [order, deeds] at answered

/-- Where a play-through is made for which there is no room, the one before it is stopped. -/
theorem registers_by_last_use_after_eviction :
    (renewed 2).store.registry = [1] ∧ ∀ role, (renewed 2).isActive (0, role) = false :=
  ⟨(registers_by_last_use .cutShort 1).order _ _ chronicle_renewed_again,
    fun role => ((registers_by_last_use .cutShort 1).stopped _ _ _ 0 chronicle_renewed_again (by simp) role).1⟩

end Playthrough.Server
