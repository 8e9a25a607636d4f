import Playthrough.Proofs.Server.Capacity
import Playthrough.Proofs.Server.Retirement
import Playthrough.Proofs.Server.Seclusion

/-!
Contract: a play-through among the others of a server.

Owns: which tasks are about a play-through (`Server.Concerns`), that the play-through lives among the others as
it would by itself (`Server.Hosts`), and what each move of the server is for it.

Does not own: histories of moves.

Whatever is done by tasks that are about the play-through is done in its own world as well. Whatever is done by
others is nothing there. All of this holds before it is made, too: then its world is empty.
-/

namespace Playthrough.Server

variable {id : SessionId} {requests : List TaskId} {world after : Setting} {inner : Guest.Setting}
variable {task : TaskId} {driver : DriverId} {limit : Nat}

/-! ## Tasks that are about a play-through -/

/-- The play-through that a task plays. -/
def played? (world : Setting) (task : TaskId) : Option SessionId :=
  world.owners[task]?.join.map Prod.fst

/-- A task plays the play-through, or is one of the requests about it. -/
def Concerns (id : SessionId) (requests : List TaskId) (world : Setting) (task : TaskId) : Prop :=
  task ∈ requests ∨ played? world task = some id

instance : DecidablePred (Concerns id requests world) := fun _ => inferInstanceAs (Decidable (_ ∨ _))

theorem played?_of_owner (own : world.owners[task]? = some (some driver)) : played? world task = some driver.1 := by
  rw [played?, own]
  rfl

theorem played?_of_operation (own : world.owners[task]? = some none) : played? world task = none := by
  rw [played?, own]
  rfl

theorem owner_of_played? (plays : played? world task = some id) :
    ∃ role, world.owners[task]? = some (some (id, role)) := by
  simp only [played?, Option.map_eq_some_iff, Option.join_eq_some_iff] at plays
  obtain ⟨⟨_, role⟩, own, rfl⟩ := plays
  exact ⟨role, own⟩

/-- Tasks that were there are about the same as before. -/
theorem concerns_iff (owners : world.owners <+: after.owners) (inside : task < world.tasks.length) :
    Concerns id requests after task ↔ Concerns id requests world task := by
  rw [← World.length_owners] at inside
  have same : after.owners[task]? = world.owners[task]? := by
    rw [List.getElem?_eq_getElem inside]
    exact List.prefix_iff_getElem?.mp owners task inside
  simp only [Concerns, played?, same]

theorem concerns_after (owners : world.owners <+: after.owners) (concerns : Concerns id requests world task) :
    Concerns id requests after task := by
  rcases concerns with member | plays
  · exact .inl member
  · obtain ⟨role, own⟩ := owner_of_played? plays
    obtain ⟨inside, here⟩ := List.getElem?_eq_some_iff.mp own
    have owned : after.owners[task]? = some (some (id, role)) := by
      rw [← here]
      exact List.prefix_iff_getElem?.mp owners task inside
    exact .inr (played?_of_owner owned)

theorem prefix_of_leads (leads : world.Leads manners after) : world.owners <+: after.owners := by
  rcases leads.owners with same | ⟨driver, -, added⟩
  · rw [same]
  · rw [added]
    exact List.prefix_append _ _

theorem prefix_step (obliged : world.Obliged manners (sharing limit Any)) :
    world.owners <+: (world.step machine).owners :=
  prefix_of_leads (obliged.decorous.advances machine_decorous obliged.balanced).leads

theorem prefix_begin (world : Setting) (operation : Plan) : world.owners <+: (world.begin operation).2.owners :=
  ⟨[none], by simp [World.owners, World.bare, World.begin, Task.fresh, Task.bare]⟩

theorem prefix_release {position : Nat} (ends : world.release? position = some after) :
    world.owners <+: after.owners :=
  World.owners_of_bare (World.bare_release? ends) ▸ List.prefix_rfl

/-- Whoever knows which tasks are about a play-through knew it before. -/
theorem agrees_before {mine : TaskId → Prop} (owners : world.owners <+: after.owners)
    (agrees : ∀ task < after.tasks.length, mine task ↔ Concerns id requests after task) :
    ∀ task < world.tasks.length, mine task ↔ Concerns id requests world task := by
  have grows : world.tasks.length ≤ after.tasks.length := by
    rw [← World.length_owners, ← World.length_owners]
    exact owners.length_le
  exact fun task inside => (agrees task (Nat.lt_of_lt_of_le inside grows)).trans (concerns_iff owners inside)

/-- A play-through lives among the others of a server as it would by itself. -/
structure Hosts (id : SessionId) (requests : List TaskId) (world : Setting) (inner : Guest.Setting) : Prop where
  dwells : ∀ (mine : TaskId → Prop) [DecidablePred mine],
    (∀ task < world.tasks.length, mine task ↔ Concerns id requests world task) →
      World.Dwells (lodging id) mine world inner
  shunned : world.Shunned (lodging id) (tenancy id) (Concerns id requests world)
  stands : (tenancy id).stands world.store
  asked : ∀ task ∈ requests, world.owners[task]? = some none

namespace Hosts

/-- A task that is made is none of the requests so far. -/
theorem length_not_mem (hosts : Hosts id requests world inner) : world.tasks.length ∉ requests := by
  intro member
  have inside := (List.getElem?_eq_some_iff.mp (hosts.asked _ member)).1
  rw [World.length_owners] at inside
  exact Nat.lt_irrefl _ inside

theorem dwells_before (hosts : Hosts id requests world inner) {mine : TaskId → Prop} [DecidablePred mine]
    (owners : world.owners <+: after.owners)
    (agrees : ∀ task < after.tasks.length, mine task ↔ Concerns id requests after task) :
    World.Dwells (lodging id) mine world inner :=
  hosts.dwells mine (agrees_before owners agrees)

theorem asked_after (hosts : Hosts id requests world inner) (owners : world.owners <+: after.owners) :
    ∀ task ∈ requests, after.owners[task]? = some none := by
  intro task member
  have own := hosts.asked task member
  obtain ⟨inside, here⟩ := List.getElem?_eq_some_iff.mp own
  rw [← here]
  exact List.prefix_iff_getElem?.mp owners task inside

/-! ## Steps -/

/-- Others make tasks for others only. -/
theorem added_beside (hosts : Hosts id requests world inner) (obliged : world.Obliged manners (sharing limit Any))
    (foreign : ∀ task, world.actor? = some task → ¬Concerns id requests world task)
    (added : (world.step machine).owners = world.owners ++ [some driver]) : driver.1 ≠ id := by
  have leads := (obliged.decorous.advances machine_decorous obliged.balanced).leads
  have grown : (world.step machine).owners ≠ world.owners := by simp [added]
  rcases leads.owners with same | ⟨given, ⟨acting, owner, turn, own, allowed⟩, appended⟩
  · exact absurd same grown
  obtain rfl : given = driver := by simpa using appended.symm.trans added
  have apart := foreign acting (World.actor?_of_turn turn)
  cases owner with
  | some above =>
      rcases allowed with impossible | ⟨number, ⟨rfl⟩, rfl⟩
      · cases impossible
      · rintro rfl
        exact apart (.inr (by rw [played?_of_owner own]))
  | none =>
      obtain ⟨program, asks, -⟩ := obliged.commits acting own (obliged.balanced.unended_of_turn turn)
      have shuns := (hosts.shunned acting program apart asks).1 turn
      obtain ⟨task, -, stepped⟩ := asks.step machine turn
      rw [stepped] at added grown
      rcases World.owners_execute task program with same | ⟨spawned, body, next, rfl, spawns⟩
      · exact absurd same grown
      · obtain rfl : spawned = given := by simpa using spawns.symm.trans added
        rintro rfl
        exact shuns.1 spawned.2 rfl

/-- So the new one is none of the play-through's. -/
theorem new_beside (hosts : Hosts id requests world inner) (obliged : world.Obliged manners (sharing limit Any))
    (foreign : ∀ task, world.actor? = some task → ¬Concerns id requests world task)
    (grown : (world.step machine).tasks.length ≠ world.tasks.length) :
    ¬Concerns id requests (world.step machine) world.tasks.length := by
  have leads := (obliged.decorous.advances machine_decorous obliged.balanced).leads
  rcases leads.owners with same | ⟨driver, -, added⟩
  · rw [← World.length_owners, ← World.length_owners, same] at grown
    exact absurd rfl grown
  · rintro (member | plays)
    · exact hosts.length_not_mem member
    · obtain ⟨role, own⟩ := owner_of_played? plays
      rw [added, ← World.length_owners, List.getElem?_concat_length] at own
      exact hosts.added_beside obliged foreign added (congrArg Prod.fst (Option.some.inj (Option.some.inj own)))

/-- What others do is nothing in the world of the play-through. -/
theorem step_beside (hosts : Hosts id requests world inner) (obliged : world.Obliged manners (sharing limit Any))
    (foreign : ∀ task, world.actor? = some task → ¬Concerns id requests world task)
    (stays : (tenancy id).stays world.store (world.step machine).store) :
    Hosts id requests (world.step machine) inner := by
  have leads := (obliged.decorous.advances machine_decorous obliged.balanced).leads
  have owners := prefix_of_leads leads
  refine ⟨fun mine _ agrees => .home ?_, ?_, stays.1, hosts.asked_after owners⟩
  · have grows : world.tasks.length ≤ (world.step machine).tasks.length := by
      rw [← World.length_owners, ← World.length_owners]
      exact owners.length_le
    have notMine : ∀ task, world.actor? = some task → ¬mine task := by
      intro task acts own
      have inside := World.inside_of_actor? obliged.balanced acts
      have concerns := (agrees task (Nat.lt_of_lt_of_le inside grows)).mp own
      exact foreign task acts ((concerns_iff owners inside).mp concerns)
    have lodges := (hosts.dwells_before owners agrees).at_home fun task turn =>
      notMine task (World.actor?_of_turn turn)
    have added : (world.step machine).tasks.length ≠ world.tasks.length → ¬mine world.tasks.length := by
      intro grown own
      have inside := Nat.lt_of_le_of_ne grows (Ne.symm grown)
      exact hosts.new_beside obliged foreign grown ((agrees _ inside).mp own)
    cases turn : world.running with
    | some task =>
        have different := notMine task (World.actor?_of_turn turn)
        have apart := foreign task (World.actor?_of_turn turn)
        have inside := World.inside_of_actor? obliged.balanced (World.actor?_of_turn turn)
        rw [← World.length_owners] at inside
        obtain ⟨owner, own⟩ : ∃ owner, world.owners[task]? = some owner :=
          ⟨_, List.getElem?_eq_getElem inside⟩
        cases owner with
        | some driver =>
            have elsewhere : driver.1 ≠ id := fun same => apart (.inr (same ▸ played?_of_owner own))
            refine lodges.step_driver obliged.balanced obliged.decorous machine_decorous different turn own
              ?_ ?_ added
            · exact fun change writes => (writes driver rfl world.store).others id elsewhere.symm
            · rintro other (impossible | ⟨number, ⟨rfl⟩, rfl⟩)
              · cases impossible
              · exact door_ne elsewhere
        | none =>
            obtain ⟨program, asks, -⟩ := obliged.commits task own (obliged.balanced.unended_of_turn turn)
            exact lodges.step_operation obliged.decorous different turn asks
              ((hosts.shunned task program apart asks).1 turn) stays added
    | none =>
        cases queued : world.queue with
        | nil =>
            rw [World.step_of_isIdle machine (by simp [World.isIdle, turn, queued])]
            exact lodges
        | cons next queue =>
            refine lodges.step_turn_beside turn queued (Turn.placed?_of_not_mine (notMine _ ?_))
            simp [World.actor?, turn, queued]
  · exact hosts.shunned.step obliged machine_decorous (respects_lodging id)
      (fun _ => concerns_after owners) stays.1 fun _ _ _ => stays

/-- What the tasks of a play-through do they do in its own world. -/
theorem step_own (hosts : Hosts id requests world inner) (obliged : world.Obliged manners (sharing limit Any))
    (acts : world.actor? = some task) (own : Concerns id requests world task)
    (made : id < world.store.sessions.length) (stands : (tenancy id).stands (world.step machine).store) :
    Hosts id requests (world.step machine) (inner.step Guest.machine) := by
  have leads := (obliged.decorous.advances machine_decorous obliged.balanced).leads
  have owners := prefix_of_leads leads
  have inside := World.inside_of_actor? obliged.balanced acts
  refine ⟨fun mine _ agrees => ?_, ?_, stands, hosts.asked_after owners⟩
  · have grows : world.tasks.length ≤ (world.step machine).tasks.length := by
      rw [← World.length_owners, ← World.length_owners]
      exact owners.length_le
    have dwells := hosts.dwells_before owners agrees
    have mineActs : mine task := (agrees task (Nat.lt_of_lt_of_le inside grows)).mpr (concerns_after owners own)
    refine dwells.step_of_actor (carries_lodging id) (door_injective id) (lawful_lodging id)
      (fun change => session_modifySession change made) mineActs acts fun grown => ?_
    refine (agrees _ (Nat.lt_of_le_of_ne grows (Ne.symm grown))).mpr (.inr ?_)
    cases turn : world.running with
    | none =>
        rcases leads.owners with same | ⟨driver, ⟨_, _, impossible, -⟩, -⟩
        · rw [← World.length_owners, ← World.length_owners, same] at grown
          exact absurd rfl grown
        · rw [turn] at impossible
          cases impossible
    | some acting =>
        cases (World.actor?_of_turn turn).symm.trans acts
        rcases dwells.owners_step machine mineActs turn with same | ⟨role, added⟩
        · rw [← World.length_owners, ← World.length_owners, same] at grown
          exact absurd rfl grown
        · have own : (world.step machine).owners[world.tasks.length]? = some (some (id, role)) := by
            rw [added, ← World.length_owners, List.getElem?_concat_length]
            rfl
          exact played?_of_owner own
  · refine hosts.shunned.step obliged machine_decorous (respects_lodging id) (fun _ => concerns_after owners)
      stands fun acting turn foreign => ?_
    cases (World.actor?_of_turn turn).symm.trans acts
    exact absurd (concerns_after owners own) foreign

/-! ## Other moves -/

/-- Before a request arrived that is about the play-through, the others were about the same. -/
theorem agrees_begin {operation : Plan} {mine : TaskId → Prop}
    (agrees : ∀ task < (world.begin operation).2.tasks.length,
      mine task ↔ Concerns id (world.tasks.length :: requests) (world.begin operation).2 task) :
    ∀ task < world.tasks.length, mine task ↔ Concerns id requests world task := by
  intro task inside
  have among : task < (world.begin operation).2.tasks.length := by
    simp only [World.begin, List.length_append, List.length_singleton]
    exact Nat.lt_succ_of_lt inside
  have different : task ≠ world.tasks.length := Nat.ne_of_lt inside
  rw [agrees task among, Concerns, List.mem_cons]
  simp only [different, false_or]
  exact concerns_iff (prefix_begin world operation) inside

/-- A request arrives that is about somebody else. -/
theorem begin_beside (hosts : Hosts id requests world inner) (noTurn : world.running = none) {operation : Plan}
    (shuns : operation.Shuns (lodging id) (tenancy id) world.store) :
    Hosts id requests (world.begin operation).2 inner := by
  have owners := prefix_begin world operation
  refine ⟨fun mine _ agrees => .home ?_, ?_, hosts.stands, hosts.asked_after owners⟩
  · have lodges := (hosts.dwells_before owners agrees).at_home fun task turn => by
      rw [noTurn] at turn
      cases turn
    refine lodges.begin_beside (fun own => ?_) noTurn operation
    rcases (agrees world.tasks.length (by simp [World.begin])).mp own with member | plays
    · exact hosts.length_not_mem member
    · rw [played?_of_operation (World.Asks.begin world operation).own] at plays
      cases plays
  · have before := hosts.shunned.mono fun _ => concerns_after owners
    exact before.begin noTurn fun _ => shuns

/-- A request arrives that is about the play-through. -/
theorem begin_own (hosts : Hosts id requests world inner) (noTurn : world.running = none) {operation : Plan}
    {work : Guest.Plan} (enters : operation.Enters (lodging id) world.store work) :
    Hosts id (world.tasks.length :: requests) (world.begin operation).2 (inner.begin work).2 := by
  have owners := prefix_begin world operation
  have more : ∀ task, Concerns id requests world task →
      Concerns id (world.tasks.length :: requests) (world.begin operation).2 task := by
    intro task own
    rcases concerns_after owners own with member | plays
    · exact .inl (List.mem_cons_of_mem _ member)
    · exact .inr plays
  have own : Concerns id (world.tasks.length :: requests) (world.begin operation).2 world.tasks.length :=
    .inl List.mem_cons_self
  refine ⟨fun mine _ agrees => ?_, ?_, hosts.stands, ?_⟩
  · have lodges := (hosts.dwells mine (agrees_begin agrees)).at_home fun task turn => by
      rw [noTurn] at turn
      cases turn
    exact .begin lodges ((agrees _ (by simp [World.begin])).mpr own) enters
  · exact (hosts.shunned.mono more).begin noTurn fun foreign => absurd own foreign
  · intro task member
    rcases List.mem_cons.mp member with rfl | earlier
    · exact (World.Asks.begin world operation).own
    · exact hosts.asked_after owners task earlier

/-- A wait ends. -/
theorem of_release (hosts : Hosts id requests world inner) (balanced : world.Balanced)
    (noTurn : world.running = none) {position : Nat} (ends : world.release? position = some after)
    {innerAfter : Guest.Setting}
    (dwells : ∀ (mine : TaskId → Prop) [DecidablePred mine],
      (∀ task < world.tasks.length, mine task ↔ Concerns id requests world task) →
        World.Dwells (lodging id) mine after innerAfter) : Hosts id requests after innerAfter := by
  have same : after.owners = world.owners := World.owners_of_bare (World.bare_release? ends)
  have owners : world.owners <+: after.owners := same ▸ List.prefix_rfl
  have length : after.tasks.length = world.tasks.length := by
    rw [← World.length_owners, ← World.length_owners, same]
  have store : after.store = world.store := by
    obtain ⟨_, -, rfl⟩ := World.release?_eq_some.mp ends
    rfl
  refine ⟨fun mine _ agrees => dwells mine fun task inside => ?_, ?_, store ▸ hosts.stands,
    hosts.asked_after owners⟩
  · exact (agrees task (length ▸ inside)).trans (concerns_iff owners inside)
  · exact (hosts.shunned.mono fun _ => concerns_after owners).release? balanced noTurn ends

/-- A wait of somebody else ends. -/
theorem release_beside (hosts : Hosts id requests world inner) (balanced : world.Balanced)
    (noTurn : world.running = none) {position : Nat} {wait : Wait} (found : world.waits[position]? = some wait)
    (foreign : ¬Concerns id requests world wait.task) (ends : world.release? position = some after) :
    Hosts id requests after inner := by
  obtain ⟨_, sleeper, -⟩ := balanced.sleeping_of_wait (List.mem_of_getElem? found)
  have inside := (List.getElem?_eq_some_iff.mp sleeper).1
  refine hosts.of_release balanced noTurn ends fun mine _ agrees => .home ?_
  have lodges := (hosts.dwells mine agrees).at_home fun task turn => by
    rw [noTurn] at turn
    cases turn
  exact lodges.release?_beside balanced found (fun own => foreign ((agrees _ inside).mp own)) ends

/-- A wait of the play-through ends, as the one that it is among its own. -/
theorem release_own (hosts : Hosts id requests world inner) (balanced : world.Balanced)
    (noTurn : world.running = none) {position : Nat} {wait : Wait} (found : world.waits[position]? = some wait)
    (own : Concerns id requests world wait.task) (ends : world.release? position = some after) :
    ∃ innerAfter, inner.release? ((world.waits.take position).countP fun wait =>
        Concerns id requests world wait.task) = some innerAfter ∧ Hosts id requests after innerAfter := by
  have placed : ∀ (mine : TaskId → Prop) [DecidablePred mine],
      (∀ task < world.tasks.length, mine task ↔ Concerns id requests world task) →
        ∃ innerAfter, inner.release? ((world.waits.take position).countP fun wait =>
          Concerns id requests world wait.task) = some innerAfter
            ∧ World.Lodges (lodging id) mine after innerAfter := by
    intro mine _ agrees
    have lodges := (hosts.dwells mine agrees).at_home fun task turn => by
      rw [noTurn] at turn
      cases turn
    have inside : ∀ wait ∈ world.waits, wait.task < world.tasks.length := by
      intro wait member
      obtain ⟨_, sleeper, -⟩ := balanced.sleeping_of_wait member
      exact (List.getElem?_eq_some_iff.mp sleeper).1
    have mineWait := (agrees _ (inside wait (List.mem_of_getElem? found))).mpr own
    obtain ⟨innerAfter, released, lodgesAfter⟩ := lodges.release? found mineWait ends
    refine ⟨innerAfter, ?_, lodgesAfter⟩
    rw [← released, List.length_filterMap_eq_countP]
    congr 1
    refine List.countP_congr fun other member => ?_
    have agree := agrees _ (inside other (List.mem_of_mem_take member))
    simp [Wait.placed?, place?, ← agree]
  obtain ⟨innerAfter, released, -⟩ := placed (Concerns id requests world) fun _ _ => Iff.rfl
  refine ⟨innerAfter, released, hosts.of_release balanced noTurn ends fun mine _ agrees => .home ?_⟩
  obtain ⟨other, same, lodges⟩ := placed mine agrees
  rw [Option.some.inj (released.symm.trans same)]
  exact lodges

/-- The files are changed from outside. -/
theorem edit (hosts : Hosts id requests world inner) (noTurn : world.running = none) (storage : Storage) :
    Hosts id requests { world with store := world.store.setStorage storage } inner := by
  refine ⟨fun mine _ agrees => .home ?_, hosts.shunned.restore noTurn _, hosts.stands, hosts.asked⟩
  have lodges := (hosts.dwells mine agrees).at_home fun task turn => by
    rw [noTurn] at turn
    cases turn
  exact lodges.withStore_beside rfl

/-! ## From the beginning -/

theorem timed_of_reachable {storage : Storage} (reachable : Reachable storage limit world) : world.Timed := by
  induction reachable with
  | refl => exact .initial _
  | tail earlier moves inductionHypothesis =>
      have obliged := Reachable.obliged earlier
      cases moves with
      | begin request => exact inductionHypothesis.begin _
      | step => exact inductionHypothesis.step obliged.balanced obliged.decorous machine_decorous
      | release position _ ends => exact inductionHypothesis.release? ends
      | edit => exact inductionHypothesis

/-- The play-through that is found where none was made. -/
def unmade : Session := .initial none none .standard

theorem initial (id : SessionId) (storage : Storage) (limit : Nat) :
    Hosts id [] (World.initial (.initial storage limit)) (World.initial unmade) where
  dwells mine _ _ := .home (World.Lodges.initial (lodging id) mine (.initial storage limit))
  shunned _ _ _ asks := absurd asks.inside (Nat.not_lt_zero _)
  stands := ⟨fun member => absurd member List.not_mem_nil, fun made => absurd made (Nat.not_lt_zero _)⟩
  asked _ member := absurd member List.not_mem_nil

/-- As long as a play-through is not made no task is about it. -/
theorem nobody (hosts : Hosts id [] world (World.initial unmade)) (task : TaskId) : ¬Concerns id [] world task := by
  rintro (member | plays)
  · exact absurd member List.not_mem_nil
  · obtain ⟨role, own⟩ := owner_of_played? plays
    have inside := (List.getElem?_eq_some_iff.mp own).1
    rw [World.length_owners] at inside
    have count : Nat.count (Concerns id [] world) world.tasks.length = 0 :=
      (hosts.dwells (Concerns id [] world) fun _ _ => Iff.rfl).length_eq
    have own : Concerns id [] world task := .inr plays
    have more : Nat.count (Concerns id [] world) task < Nat.count (Concerns id [] world) world.tasks.length :=
      Nat.count_strict_mono own inside
    rw [count] at more
    exact Nat.not_lt_zero _ more

/-- The number of play-throughs does not fall while nobody has the next number. -/
theorem count_le (hosts : Hosts id [] world (World.initial unmade))
    (obliged : world.Obliged manners (sharing limit Any)) :
    world.store.sessions.length ≤ (world.step machine).store.sessions.length := by
  have leads := (obliged.decorous.advances machine_decorous obliged.balanced).leads
  rcases leads.store with same | ⟨acting, owner, change, turn, own, writes, changed⟩
  · rw [same]
  · cases owner with
    | some driver =>
        rw [changed]
        exact Nat.le_of_eq (writes driver rfl world.store).count.symm
    | none =>
        rcases hosts.shunned.leaves_step machine obliged turn own (hosts.nobody acting) with same | leaves
        · rw [same]
        · exact leaves

/-- Until a play-through is made nothing happens in its world. -/
theorem of_unmade {storage : Storage} (reachable : Reachable storage limit world)
    (unmade : world.store.sessions.length ≤ id) : Hosts id [] world (World.initial Hosts.unmade) := by
  induction reachable generalizing id with
  | refl => exact .initial id storage limit
  | @tail before after earlier moves inductionHypothesis =>
      have obliged := Reachable.obliged earlier
      have registered : ∀ {world : Setting}, Reachable storage limit world →
          world.store.sessions.length ≤ id → (tenancy id).stands world.store := by
        intro world reachable unmade
        have sane : numbering.sane world.store :=
          (admits_numbering.obliged_of_reachable (fun _ member => absurd member List.not_mem_nil) reachable).sane
        exact ⟨sane id, fun made => absurd made (Nat.not_lt_of_le unmade)⟩
      have stands := registered (.tail earlier moves) unmade
      cases moves with
      | begin request noTurn =>
          have hosts := inductionHypothesis unmade
          refine hosts.begin_beside noTurn (Request.shuns hosts.stands fun name wish _ found => ?_)
          have made := hosts.stands.mp (List.mem_of_find?_eq_some found)
          exact Nat.not_lt_of_le unmade made
      | step =>
          have grows := (inductionHypothesis (Nat.le_refl _)).count_le obliged
          have before := Nat.le_trans grows unmade
          have hosts := inductionHypothesis before
          refine hosts.step_beside obliged (fun task _ => hosts.nobody task) ⟨stands, ?_⟩
          exact ⟨fun made => absurd made (Nat.not_lt_of_le before), fun made => absurd made (Nat.not_lt_of_le unmade)⟩
      | release position noTurn ends =>
          have store : after.store = before.store := by
            obtain ⟨_, -, rfl⟩ := World.release?_eq_some.mp ends
            rfl
          have hosts := inductionHypothesis (store ▸ unmade)
          obtain ⟨wait, found, -⟩ := World.release?_eq_some.mp ends
          exact hosts.release_beside obliged.balanced noTurn found (hosts.nobody _) ends
      | edit storage noTurn => exact (inductionHypothesis unmade).edit noTurn storage

/-- At first only the request that makes a play-through is about it. -/
theorem only_maker {other : TaskId} (hosts : Hosts id [] world (World.initial unmade))
    (owners : after.owners = world.owners) : Concerns id [task] after other ↔ other = task := by
  refine ⟨?_, fun same => .inl (List.mem_singleton.mpr same)⟩
  rintro (member | plays)
  · exact List.mem_singleton.mp member
  · rw [played?, owners] at plays
    exact absurd (.inr plays) (hosts.nobody other)

/-- When a play-through is made its world begins with the request that makes it. -/
theorem moves_in {storage : Storage} {session : Session} {wait : Bool} (reachable : Reachable storage limit world)
    (turn : world.running = some task)
    (asks : world.Asks task (.update (register session)
      ((seat world.store.sessions.length).begin (conclude world.store.sessions.length wait)))) :
    Hosts world.store.sessions.length [task] (world.step machine)
      ((World.initial session : Guest.Setting).begin (Guest.opening wait)).2 := by
  have obliged := Reachable.obliged reachable
  have hosts := of_unmade reachable (Nat.le_refl _)
  have stepped := asks.step_update machine turn
  have balanced := obliged.balanced.step machine
  have timed := (timed_of_reachable reachable).step obliged.balanced obliged.decorous machine_decorous
  have decorous := obliged.decorous.of_advances
    (obliged.decorous.advances machine_decorous obliged.balanced)
  have asksNext : (world.step machine).Asks task
      ((Guest.opening wait).lodged (lodging world.store.sessions.length)) := by
    rw [stepped, lodged_opening]
    exact asks.proceed { world with store := world.store.register session } rfl
  have owners : (world.step machine).owners = world.owners := by
    rw [stepped]
    exact (World.owners_proceed _ _).trans rfl
  have same : (world.step machine).store = world.store.register session := by rw [stepped]; rfl
  have session_eq : (world.step machine).store.session world.store.sessions.length = session := by
    simp [same, Server.session, register, List.getD_eq_getElem?_getD]
  have own : Concerns world.store.sessions.length [task] (world.step machine) task := .inl List.mem_cons_self
  have stands : (tenancy world.store.sessions.length).stands (world.step machine).store := by
    rw [same]
    simp [tenancy, register]
  have home := (hosts.dwells (Concerns world.store.sessions.length [] world) fun _ _ => Iff.rfl).at_home
    fun acting _ => hosts.nobody acting
  refine ⟨fun mine _ agrees => .home ?_, ?_, stands, ?_⟩
  · refine .moves_in balanced decorous timed (fun role => ?_) ?_ asksNext session_eq
      fun other inside => (agrees other inside).trans (hosts.only_maker owners)
    · rw [World.Vacant, stepped]
      exact home.vacant rfl
    · rw [stepped]
      exact turn
  · refine hosts.shunned.step obliged machine_decorous (respects_lodging _) (fun other concerns =>
      absurd concerns (hosts.nobody other)) stands fun acting acts foreign => ?_
    cases turn.symm.trans acts
    exact absurd own foreign
  · intro other member
    rw [List.mem_singleton.mp member, owners]
    exact asks.own

end Hosts

end Playthrough.Server
