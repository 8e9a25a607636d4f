import Playthrough.Proofs.Server.Capacity
import Playthrough.Proofs.Server.Creation
import Playthrough.Proofs.Storage.Keeping
import Playthrough.Proofs.Task.Clearance

/-!
Contract: requests that fail leave a server as it was.

Owns: what a request may have changed when it fails (`Server.Spares`), that a request fails only in its first
turn, before it has changed more (`Server.Modest`), and what is the same in the whole world after a failure
(`Server.Spared`).

Does not own: what requests do that succeed.

Everything that can go wrong is found out before the first wait: from then on a request only ever succeeds,
whatever others do meanwhile. There is one exception. The answer to a change of settings is written after
the settings were stored, and a stored name that is no text cannot be written.
-/

namespace Playthrough.Server

variable {limit : Nat} {request : Request} {before server : Server} {id : SessionId}

/-! ## The first turn -/

/-- At most the play-through that a request names was used. -/
inductive Spares (request : Request) (before : Server) : Server → Prop where
  | same : Spares request before before
  | used {name : String} {id : SessionId} (names : request.subject? = some name)
      (found : before.find? name = some id) : Spares request before (before.touch id)

/-- A change of settings was stored, but the answer holds a string that is no text. -/
structure Unwritten (request : Request) (before : Server) (answer : Option Reply) (after : Server) : Prop where
  answer : answer = some (.error .unwritableText)
  stored : ∃ fields settings storage, request.call = .ok (.changeSettings fields)
    ∧ before.storage.change fields = (.ok settings, storage)
    ∧ holdsUnwritableText settings.encode = true ∧ after = before.setStorage storage

/-- A request that ends with an answer has changed nothing that it must not have changed. -/
def Blameless (request : Request) (before : Server) (answer : Option Reply) (after : Server) : Prop :=
  Served answer ∨ Spares request before after ∨ Unwritten request before answer after

/-- A request in its first turn either ends blameless in that turn or from then on only ever succeeds. -/
inductive Modest (limit : Nat) (request : Request) (before : Server) : Plan → Server → Prop where
  | ends {answer : Option Reply} {server : Server} (blameless : Blameless request before answer server) :
      Modest limit request before (.done answer) server
  | look {choose : Server → Plan} {server : Server}
      (rest : Modest limit request before (choose server) server) :
      Modest limit request before (.look choose) server
  | update {change : Server → Server} {next : Plan} {server : Server}
      (rest : Modest limit request before next (change server)) :
      Modest limit request before (.update change next) server
  /-- There is no room, and nobody who could be evicted. -/
  | crowded {next : Plan} {server : Server} (full : server.isFull = true) (empty : server.registry = [])
      (rest : Modest limit request before next server) :
      Modest limit request before (.call .evict next) server
  | serves {program : Plan} {server : Server}
      (upholds : program.Upholds (sharing limit Served) () server) :
      Modest limit request before program server

namespace Modest

theorem refuses {response : Response} (spares : Spares request before server) :
    Modest limit request before (respond response) server :=
  .ends (.inr (.inl spares))

theorem fails {fault : Fault} (spares : Spares request before server) :
    Modest limit request before (failWith fault) server :=
  .ends (.inr (.inl spares))

theorem ask {α : Type} {question : Storage → Except Storage.Fault α} {next : α → Plan}
    (spares : Spares request before server)
    (rest : ∀ value, Modest limit request before (next value) server) :
    Modest limit request before (Server.ask question next) server := by
  refine .look ?_
  split
  · exact rest _
  · exact fails spares

/-- Whoever is not found is not used. -/
theorem withSession {name : String} {next : SessionId → Plan}
    (rest : ∀ id, before.find? name = some id → Modest limit request before (next id) (before.touch id)) :
    Modest limit request before (Server.withSession name next) before := by
  refine .look ?_
  split
  · exact refuses .same
  · next found => exact .update (rest _ found)

section Serving

variable {refused accepted : Plan} (sane : (sharing limit Served).sane server)
variable (declines : Modest limit request before refused server)
variable (goesOn : ∀ server, (sharing limit Served).sane server →
  accepted.Upholds (sharing limit Served) () server)
include sane declines goesOn

theorem select (option : String) :
    Modest limit request before ((seat id).select option refused accepted) server := by
  refine .look ?_
  dsimp only
  split
  · exact declines
  · split
    · refine .look ?_
      dsimp only
      split
      · exact .serves ((composes_sharing id).claimOffer _ _ _ _ goesOn _ sane)
      · exact .update declines
    · exact .update declines

theorem triggerTransition :
    Modest limit request before ((seat id).triggerTransition refused accepted) server := by
  refine .look ?_
  dsimp only
  split
  · exact .serves ((composes_sharing id).leaveText goesOn _ sane)
  · exact .update declines

theorem beginEncounter :
    Modest limit request before ((seat id).beginEncounter refused accepted) server := by
  refine .look ?_
  dsimp only
  split
  · exact .serves ((composes_sharing id).enterEncounter goesOn _ sane)
  · exact .update declines

end Serving

end Modest

/-! ## Requests -/

theorem serves_response (response : Response) (low : response.status < 400) : Served (some (.ok response)) :=
  ⟨response, rfl, low⟩

/-- No settings hold a number. -/
theorem writable_settings (settings : Settings) : holdsUnwritableNumber settings.encode = false := by
  obtain ⟨language, pacing, textScene, encounter⟩ := settings
  cases textScene <;> cases encounter <;> rfl

/-- Settings are answered unless they hold a name that is no text. -/
theorem served_settings {settings : Settings} (writable : holdsUnwritableText settings.encode = false) :
    Served (some (Reply.ofDocument settings.encode)) := by
  refine ⟨.document settings.encode, ?_, show 200 < 400 by decide⟩
  simp [Reply.ofDocument, writable_settings, writable]

theorem modest_changeSettings {fields : Json.Fields} (asked : request.call = .ok (.changeSettings fields)) :
    Modest limit request before (changeSettings fields) before := by
  refine .look ?_
  split
  · next settings storage changed =>
      refine .update (.ends ?_)
      cases writable : holdsUnwritableText settings.encode with
      | false => exact .inl (served_settings writable)
      | true =>
          refine .inr (.inr ⟨?_, fields, settings, storage, asked, changed, writable, rfl⟩)
          simp [Reply.ofDocument, writable_settings, writable]
  · split
    · exact .refuses .same
    · exact .fails .same

theorem modest_readScene (name : String) : Modest limit request before (readScene name) before := by
  refine .ask .same fun found => ?_
  split
  · exact .refuses .same
  · exact .refuses .same
  · exact .ends (.inr (.inl .same))

/-- Everything that a play-through is made of is read before anybody is evicted. -/
theorem modest_create (sane : (sharing limit Served).sane before) (wait : Bool) :
    Modest limit request before (create wait) before := by
  refine .ask .same fun settings => .ask .same fun textScene => .ask .same fun encounterScene =>
    .ask .same fun preferences => ?_
  cases limit with
  | zero =>
      have empty : before.registry = [] := List.eq_nil_of_length_eq_zero (Nat.le_zero.mp sane.2)
      have full : before.isFull = true := by simp [isFull, empty, sane.1]
      refine .crowded full empty (.look ?_)
      rw [if_pos full]
      exact .fails .same
  | succ limit =>
      refine .serves fun _ reached sane room => ?_
      have spare : reached.isFull = false := by
        by_contra full
        have empty := room (by simpa using full)
        simp [isFull, empty, sane.1] at full
      show Program.Upholds _ (if reached.isFull then _ else _) _ _
      rw [if_neg (by simp [spare])]
      exact upholds_register serves_response _ wait spare sane

theorem modest_remove {name : String} (sane : (sharing limit Served).sane before) :
    Modest limit request before (remove name) before := by
  refine .look ?_
  split
  · exact .refuses .same
  · exact .serves ⟨sane_unregister _ sane, upholds_close serves_response (sane_unregister _ sane)⟩

theorem modest_program {call : Call} (asked : request.call = .ok call)
    (sane : (sharing limit Served).sane before) : Modest limit request before (program call) before := by
  have names : request.subject? = call.subject? := by simp only [Request.subject?, asked]
  have used : ∀ {name : String} {id : SessionId}, call.subject? = some name → before.find? name = some id →
      Spares request before (before.touch id) := fun subject found => .used (names.trans subject) found
  have stays : ∀ {name : String} {id : SessionId}, before.find? name = some id →
      (sharing limit Served).sane (before.touch id) := fun found => sane_touch found sane
  have concludes : ∀ (id : SessionId) (wait : Bool) (server : Server), (sharing limit Served).sane server →
      (conclude id wait).Upholds (sharing limit Served) () server :=
    fun id wait server sane => upholds_conclude serves_response wait sane
  cases call with
  | health => exact .refuses .same
  | readSettings => exact .ask .same fun settings => .ends (.inr (.inl .same))
  | changeSettings fields => exact modest_changeSettings asked
  | listScenes => exact .ask .same fun names => .refuses .same
  | readScene name => exact modest_readScene name
  | create wait => exact modest_create sane wait
  | observe name wait =>
      exact .withSession fun id found => .serves (concludes id wait _ (stays found))
  | select name option wait =>
      exact .withSession fun id found =>
        .select (stays found) (.refuses (used rfl found)) (concludes id wait) option
  | leave name wait =>
      exact .withSession fun id found =>
        .triggerTransition (stays found) (.refuses (used rfl found)) (concludes id wait)
  | enter name wait =>
      exact .withSession fun id found =>
        .beginEncounter (stays found) (.refuses (used rfl found)) (concludes id wait)
  | restart name wait =>
      exact .withSession fun id found => .ask (used rfl found) fun preferences =>
        .serves (upholds_restart serves_response preferences wait (stays found))
  | remove name => exact modest_remove sane

/-- Every request is modest. -/
theorem Request.modest (request : Request) (sane : (sharing limit Served).sane before) :
    Modest limit request before request.program before := by
  unfold Request.program
  split
  · next call asked => exact modest_program asked sane
  · exact .refuses .same

/-! ## The whole world -/

/-- A request has failed: it ended otherwise than with what was asked for. -/
def Failed (outcome : Outcome Reply) : Prop :=
  ∀ answer, outcome = .finished answer → ¬Served answer

/-- The same play-throughs are registered, and at most the one that a request names was used; every
play-through, every pending wait and every driver is as it was, and the storage is as given. -/
structure Spared (request : Request) (storage : Storage) (before after : Setting) : Prop where
  registered : ∀ id, id ∈ after.store.registry ↔ id ∈ before.store.registry
  recency : after.store.registry = before.store.registry
    ∨ ∃ name id, request.subject? = some name ∧ before.store.find? name = some id
      ∧ after.store.registry = (before.store.touch id).registry
  sessions : after.store.sessions = before.store.sessions
  waits : after.waits = before.waits
  active : ∀ driver, after.isActive driver = before.isActive driver
  storage : after.store.storage = storage

namespace Spared

variable {storage : Storage} {world after : Setting}

theorem of_store (waits : after.waits = world.waits)
    (active : ∀ driver, after.isActive driver = world.isActive driver)
    (spares : Spares request world.store after.store) :
    Spared request world.store.storage world after := by
  generalize reached : after.store = server at spares
  cases spares with
  | same =>
      exact ⟨fun id => by rw [reached], .inl (by rw [reached]), by rw [reached], waits, active,
        by rw [reached]⟩
  | @used name id names found =>
      have inside : id ∈ world.store.registry := List.mem_of_find?_eq_some found
      refine ⟨fun other => ?_, .inr ⟨name, id, names, found, by rw [reached]⟩, by rw [reached]; rfl, waits,
        active, by rw [reached]; rfl⟩
      rw [reached]
      exact mem_registry_touch inside

end Spared

section Worlds

variable {world reached after : Setting}

/-- What has become of a request that has not ended. -/
inductive Receives (limit : Nat) (request : Request) (world : Setting) (reached : Setting) : Prop where
  /-- It is in its first turn, and has touched nothing but the store. -/
  | considers (program : Plan) (server : Server)
      (same : reached = (({ world with store := server } : Setting).begin program).2)
      (modest : Modest limit request world.store program server)
  /-- It will only succeed. -/
  | serves (commits : reached.Commits (sharing limit Served) world.tasks.length)

/-- When a request fails everything is spared, but for the settings that were changed without an answer. -/
def Acceptable (request : Request) (world : Setting) (outcome : Outcome Reply) (after : Setting) : Prop :=
  Failed outcome →
    Spared request world.store.storage world after
    ∨ ∃ fields settings storage, request.call = .ok (.changeSettings fields)
      ∧ world.store.storage.change fields = (.ok settings, storage)
      ∧ holdsUnwritableText settings.encode = true
      ∧ outcome = .finished (some (.error .unwritableText)) ∧ Spared request storage world after

/-- A request goes on, or has ended acceptably. -/
def Turns (limit : Nat) (request : Request) (world after : Setting) : Prop :=
  Receives limit request world after ∧ after.outcome? world.tasks.length = none
    ∨ ∃ outcome, after.outcome? world.tasks.length = some outcome ∧ Acceptable request world outcome after

end Worlds

/-! ## Two requests that fail -/

end Playthrough.Server
