import Playthrough.Proofs.Session.Courtesy
import Playthrough.Proofs.Task.Undertaking
import Playthrough.Server.Operations
import Mathlib.Logic.Relation

/-!
Contract: what drivers and requests may do to a server.

Owns: what the drivers of a play-through leave of a server (`Server.SameBut`), the manners of a server's world,
that all of its programs keep to them, which play-through a request is about (`Request.subject?`), and the
moves of such a world (`Server.Moves`).

Does not own: which requests succeed.

A driver changes nothing but its own play-through. Requests may change everything, but only while it is their
turn; they arrive between turns, and between turns the files can be changed from outside.
-/

namespace Playthrough.Server

/-! ## What drivers leave alone -/

/-- Everything but one play-through is the same. -/
structure SameBut (id : SessionId) (before after : Server) : Prop where
  storage : after.storage = before.storage
  limit : after.limit = before.limit
  registry : after.registry = before.registry
  count : after.sessions.length = before.sessions.length
  others : ∀ other, other ≠ id → after.session other = before.session other

namespace SameBut

variable {id : SessionId} {server before after : Server}

theorem refl (server : Server) : SameBut id server server := ⟨rfl, rfl, rfl, rfl, fun _ _ => rfl⟩

theorem trans {between : Server} (former : SameBut id before between) (latter : SameBut id between after) :
    SameBut id before after :=
  ⟨latter.storage.trans former.storage, latter.limit.trans former.limit,
    latter.registry.trans former.registry, latter.count.trans former.count,
    fun other different => (latter.others other different).trans (former.others other different)⟩

theorem modifySession (change : Session → Session) (server : Server) :
    SameBut id server (server.modifySession id change) := by
  refine ⟨rfl, rfl, rfl, List.length_modify _ _ _, fun other different => ?_⟩
  simp [session, Server.modifySession, List.getD_eq_getElem?_getD, different.symm]

/-- The programs of a play-through change only that. -/
theorem of_alters {owner : Option Role} (alters : (seat id).Alters owner before after) :
    SameBut id before after := by
  induction alters with
  | refl => exact .refl _
  | modify _ _ inductionHypothesis => exact inductionHypothesis.trans (.modifySession _ _)
  | deliver _ _ _ inductionHypothesis => exact inductionHypothesis
  | warn _ _ inductionHypothesis => exact inductionHypothesis

end SameBut

/-! ## Manners -/

/-- What drivers and requests may do. -/
def manners : Etiquette Server DriverId Procedure where
  writes owner change := ∀ driver, owner = some driver → ∀ server, SameBut driver.1 server (change server)
  calls owner procedure := owner = none ∧ procedure = .evict
    ∨ ∃ id kind, owner = some (id, Session.roleOf kind) ∧ procedure = .walk id kind
  hands owner driver := owner = none ∨ ∃ id, owner = some (id, .encounter) ∧ driver = (id, .epilogue)
  hands_other driver allowed := by
    rcases allowed with impossible | ⟨id, same, rfl⟩
    · cases impossible
    · cases same

/-- They admit every play-through. -/
theorem courteous (id : SessionId) : (seat id).Courteous manners where
  writes alters driver own server := by
    obtain ⟨role, -, rfl⟩ := Option.map_eq_some_iff.mp own
    exact .of_alters (alters server)
  walks kind := .inr ⟨id, kind, rfl, rfl⟩
  hands _ := .inl rfl
  handsOver := .inr ⟨id, rfl, rfl⟩

theorem decorous_evictProgram : evictProgram.Decorous manners none := by
  intro server
  dsimp only
  split
  · exact ⟨nofun, (courteous _).composes_decorous.close ⟨.inl ⟨rfl, rfl⟩, trivial⟩⟩
  · trivial

theorem machine_decorous : machine.Decorous manners := by
  rintro owner procedure (⟨rfl, rfl⟩ | ⟨id, kind, rfl, rfl⟩)
  · exact decorous_evictProgram
  · exact (courteous id).decorous_walk kind

/-! ## Requests -/

/-- The name of the play-through that is asked for. -/
def Call.subject? : Call → Option String
  | .observe name _ => some name
  | .select name _ _ => some name
  | .leave name _ => some name
  | .enter name _ => some name
  | .restart name _ => some name
  | .remove name => some name
  | _ => none

/-- The name of the play-through that a request in order asks for. -/
def Request.subject? (request : Request) : Option String :=
  match request.call with
  | .ok call => call.subject?
  | .error _ => none

theorem decorous_ask {α : Type} (question : Storage → Except Storage.Fault α) {next : α → Plan}
    (goesOn : ∀ value, (next value).Decorous manners none) : (ask question next).Decorous manners none := by
  intro server
  dsimp only
  split
  · exact goesOn _
  · trivial

theorem decorous_withSession (name : String) {next : SessionId → Plan}
    (goesOn : ∀ id, (next id).Decorous manners none) : (withSession name next).Decorous manners none := by
  intro server
  dsimp only
  split
  · trivial
  · exact ⟨nofun, goesOn _⟩

theorem decorous_conclude (id : SessionId) (wait : Bool) : (conclude id wait).Decorous manners none := by
  cases wait with
  | false => exact fun _ => trivial
  | true => exact (courteous id).composes_decorous.settle fun _ => trivial

theorem decorous_create (wait : Bool) : (create wait).Decorous manners none := by
  refine decorous_ask _ fun settings => decorous_ask _ fun textScene => decorous_ask _ fun encounterScene =>
    decorous_ask _ fun preferences => ⟨.inl ⟨rfl, rfl⟩, fun server => ?_⟩
  dsimp only
  split
  · trivial
  · exact ⟨nofun, (courteous _).composes_decorous.begin (decorous_conclude _ wait)⟩

theorem decorous_remove (name : String) : (remove name).Decorous manners none := by
  intro server
  dsimp only
  split
  · trivial
  · exact ⟨nofun, (courteous _).composes_decorous.close trivial⟩

theorem decorous_changeSettings (fields : Json.Fields) : (changeSettings fields).Decorous manners none := by
  intro server
  dsimp only
  split
  · exact ⟨nofun, trivial⟩
  · split <;> trivial

theorem decorous_readScene (name : String) : (readScene name).Decorous manners none := by
  refine decorous_ask _ fun found => ?_
  split <;> trivial

theorem decorous_program (call : Call) : (program call).Decorous manners none := by
  cases call with
  | health => trivial
  | readSettings => exact decorous_ask _ fun _ => trivial
  | changeSettings fields => exact decorous_changeSettings fields
  | listScenes => exact decorous_ask _ fun _ => trivial
  | readScene name => exact decorous_readScene name
  | create wait => exact decorous_create wait
  | observe name wait => exact decorous_withSession name fun id => decorous_conclude id wait
  | select name option wait =>
      exact decorous_withSession name fun id =>
        (courteous id).composes_decorous.select option trivial (decorous_conclude id wait)
  | leave name wait =>
      exact decorous_withSession name fun id =>
        (courteous id).composes_decorous.triggerTransition trivial (decorous_conclude id wait)
  | enter name wait =>
      exact decorous_withSession name fun id =>
        (courteous id).composes_decorous.beginEncounter trivial (decorous_conclude id wait)
  | restart name wait =>
      refine decorous_withSession name fun id => decorous_ask _ fun preferences => ?_
      have composes := @Session.Seat.Courteous.composes_decorous _ _ _ Reply _ _ (courteous id)
      exact composes.restart _ (composes.begin (decorous_conclude id wait))
  | remove name => exact decorous_remove name

/-- Every request keeps to the manners of a server. -/
theorem Request.decorous (request : Request) : request.program.Decorous manners none := by
  unfold Request.program
  split
  · exact decorous_program _
  · trivial

/-! ## What the parts of a request uphold -/

section Parts

variable {Knowledge : Type} {pact : Pact Server DriverId Procedure Reply Knowledge} {known : Knowledge}
variable {server : Server}

/-- Making room closes the least recently used play-through, or there is nothing to do for it. -/
theorem upholds_evictProgram {next : Plan}
    (evicts : ∀ oldest rest, server.isFull = true → server.registry = oldest :: rest →
      pact.sane (server.unregister oldest) ∧
        ((seat oldest).close (.call .evict next)).Upholds pact known (server.unregister oldest))
    (rests : (server.isFull = true → server.registry = []) → next.Upholds pact known server) :
    (evictProgram.andThen next).Upholds pact known server := by
  simp only [evictProgram, Program.andThen, Program.Upholds]
  split
  · next oldest rest full registered => exact evicts oldest rest full registered
  · next roomy =>
      refine rests fun full => ?_
      cases registered : server.registry with
      | nil => rfl
      | cons oldest rest => exact absurd registered (roomy oldest rest full)

theorem upholds_ask {α : Type} {question : Storage → Except Storage.Fault α} {next : α → Plan}
    (fails : ∀ fault, (failWith fault).Upholds pact known server)
    (goesOn : ∀ value, (next value).Upholds pact known server) :
    (ask question next).Upholds pact known server := by
  simp only [ask, Program.Upholds]
  split
  · exact goesOn _
  · exact fails _

theorem upholds_withSession {name : String} {next : SessionId → Plan}
    (missing : server.find? name = none → (respond .sessionNotFound).Upholds pact known server)
    (goesOn : ∀ id, server.find? name = some id →
      pact.sane (server.touch id) ∧ (next id).Upholds pact known (server.touch id)) :
    (withSession name next).Upholds pact known server := by
  simp only [withSession, Program.Upholds]
  split
  · next absent => exact missing absent
  · next id found => exact goesOn id found

theorem upholds_remove {name : String}
    (missing : server.find? name = none → (respond .sessionNotFound).Upholds pact known server)
    (goesOn : ∀ id, server.find? name = some id → pact.sane (server.unregister id) ∧
      ((seat id).close (respond .removed)).Upholds pact known (server.unregister id)) :
    (remove name).Upholds pact known server := by
  simp only [remove, Program.Upholds]
  split
  · next absent => exact missing absent
  · next id found => exact goesOn id found

theorem upholds_changeSettings {fields : Json.Fields}
    (changes : ∀ settings storage, server.storage.change fields = (.ok settings, storage) →
      pact.sane (server.setStorage storage) ∧
        pact.good (some (Reply.ofDocument settings.encode)) known (server.setStorage storage))
    (refuses : ∀ answer, pact.good answer known server) :
    (changeSettings fields).Upholds pact known server := by
  simp only [changeSettings, Program.Upholds]
  split
  · next settings storage changed => exact changes settings storage changed
  · split <;> exact refuses _

end Parts

/-! ## Moves -/

/-- What can happen to a server: a request arrives, a step is made, a wait ends, or somebody changes the
files. -/
inductive Moves (world : Setting) : Setting → Prop where
  | begin (request : Request) (noTurn : world.running = none) :
      Moves world (world.begin request.program).2
  | step : Moves world (world.step machine)
  | release {released : Setting} (position : Nat) (noTurn : world.running = none)
      (wait : world.release? position = some released) : Moves world released
  | edit (storage : Storage) (noTurn : world.running = none) :
      Moves world { world with store := world.store.setStorage storage }

/-- The worlds of a server that began with the given storage. -/
def Reachable (storage : Storage) (limit : Nat) (world : Setting) : Prop :=
  Relation.ReflTransGen Moves (World.initial (initial storage limit)) world

/-- Letting everything run is a series of moves. -/
theorem moves_drain (fuel : Nat) (world : Setting) :
    Relation.ReflTransGen Moves world (World.drain machine fuel world) := by
  induction fuel generalizing world with
  | zero => exact .refl
  | succ fuel inductionHypothesis =>
      rw [World.drain]
      split
      · exact .refl
      · exact .head .step (inductionHypothesis _)

end Playthrough.Server
