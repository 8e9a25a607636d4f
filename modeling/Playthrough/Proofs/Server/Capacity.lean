import Playthrough.Proofs.Server.Manners

/-!
Contract: requests that overlap in any way.

Owns: the terms on which requests act beside each other (`Server.sharing`), that all of them uphold these
terms, and that a server never registers more play-throughs than it is to.

Does not own: which play-throughs are registered.

A play-through is registered in the same turn in which there was seen to be room for it. Between two turns
of a request that makes room other requests may take that room again; it looks again before it goes on.
-/

namespace Playthrough.Server

variable {limit : Nat} {good : Option Reply → Prop} {server : Server} {id : SessionId}

/-- A request was given what it asked for. -/
def Served (answer : Option Reply) : Prop :=
  ∃ response, answer = some (.ok response) ∧ response.status < 400

/-- The terms on which requests with good answers act beside each other. -/
def sharing (limit : Nat) (good : Option Reply → Prop) : Pact Server DriverId Procedure Reply Unit where
  sane server := server.limit = limit ∧ server.registry.length ≤ limit
  drift _ _ := True
  calls _ _ _ _ reached := reached.isFull = true → reached.registry = []
  lends _ := True
  spawned _ _ := ()
  cancelled _ _ := ()
  good answer _ _ := good answer

theorem sane_unregister (id : SessionId) (sane : (sharing limit good).sane server) :
    (sharing limit good).sane (server.unregister id) :=
  ⟨sane.1, Nat.le_trans (List.length_filter_le _ _) sane.2⟩

/-- Using a play-through again registers no more. -/
theorem length_registry_touch_le (inside : id ∈ server.registry) :
    (server.touch id).registry.length ≤ server.registry.length := by
  have fewer : (server.registry.filter fun other => other != id).length < server.registry.length := by
    refine List.length_filter_lt_length_iff_exists.mpr ⟨id, inside, ?_⟩
    simp
  simp only [touch, List.length_append, List.length_singleton]
  omega

theorem sane_touch {name : String} (found : server.find? name = some id)
    (sane : (sharing limit good).sane server) : (sharing limit good).sane (server.touch id) :=
  ⟨sane.1, Nat.le_trans (length_registry_touch_le (List.mem_of_find?_eq_some found)) sane.2⟩

theorem sane_register (session : Session) (room : server.isFull = false)
    (sane : (sharing limit good).sane server) : (sharing limit good).sane (server.register session) := by
  refine ⟨sane.1, ?_⟩
  have spare : ¬server.limit ≤ server.registry.length := by simpa [isFull] using room
  rw [sane.1] at spare
  simp only [registry_register, List.length_append, List.length_singleton]
  omega

/-- Making room does what these terms say of it. -/
theorem honours_sharing : machine.Honours manners (sharing limit good) := by
  rintro procedure (⟨-, rfl⟩ | ⟨_, _, impossible, -⟩) next known server sane goesOn
  · refine upholds_evictProgram (fun oldest rest full registered => ?_) (goesOn () server sane)
    exact ⟨sane_unregister _ sane, fun _ _ _ _ _ _ _ _ _ => goesOn⟩
  · cases impossible

/-- So does everything that is done to a play-through. -/
theorem composes_sharing (id : SessionId) :
    (seat id).Composes fun program : Plan => ∀ server, (sharing limit good).sane server →
      program.Upholds (sharing limit good) () server where
  look _ goesOn server sane := goesOn server server sane
  update _ _ alters goesOn server sane := by
    have same := SameBut.of_alters (alters server)
    have stays : (sharing limit good).sane _ := ⟨same.limit.trans sane.1, by rw [same.registry]; exact sane.2⟩
    exact ⟨stays, goesOn _ stays⟩
  cancel _ _ goesOn _ _ reached sane _ := goesOn reached sane
  settle goesOn _ _ reached sane _ := goesOn reached sane
  spawn _ goesOn server sane := ⟨trivial, goesOn server sane⟩

/-! ## Requests -/

section Requests

variable (accepts : ∀ response : Response, response.status < 400 → good (some (.ok response)))
include accepts

theorem upholds_conclude (wait : Bool) (sane : (sharing limit good).sane server) :
    (conclude id wait).Upholds (sharing limit good) () server := by
  cases wait with
  | false => exact accepts _ (show 200 < 400 by decide)
  | true =>
      refine @(composes_sharing id).settle _ ?_ server sane
      exact fun _ _ => accepts _ (show 200 < 400 by decide)

/-- A play-through that there is room for is made and started. -/
theorem upholds_register (session : Session) (wait : Bool) (room : server.isFull = false)
    (sane : (sharing limit good).sane server) :
    (Program.update (register session)
      ((seat server.sessions.length).begin (conclude server.sessions.length wait))).Upholds
        (sharing limit good) () server :=
  ⟨sane_register session room sane,
    (composes_sharing _).begin (fun _ => upholds_conclude accepts wait) _ (sane_register session room sane)⟩

theorem upholds_restart (preferences : Preferences) (wait : Bool)
    (sane : (sharing limit good).sane server) :
    ((seat id).restart (some preferences) ((seat id).begin (conclude id wait))).Upholds
      (sharing limit good) () server :=
  (composes_sharing id).restart _ ((composes_sharing id).begin fun _ => upholds_conclude accepts wait) _ sane

theorem upholds_close (sane : (sharing limit good).sane server) :
    ((seat id).close (respond .removed)).Upholds (sharing limit good) () server := by
  have ends : ∀ server, (sharing limit good).sane server →
      (respond .removed).Upholds (sharing limit good) () server :=
    fun _ _ => accepts _ (show 200 < 400 by decide)
  exact (composes_sharing id).close ends _ sane

end Requests

/-- Any answer will do. -/
abbrev Any (_ : Option Reply) : Prop := True

theorem fails_sharing (fault : Fault) : (failWith fault).Upholds (sharing limit Any) () server := trivial

theorem upholds_using (name : String) {next : SessionId → Plan} (sane : (sharing limit Any).sane server)
    (goesOn : ∀ id server, (sharing limit Any).sane server → (next id).Upholds (sharing limit Any) () server) :
    (withSession name next).Upholds (sharing limit Any) () server :=
  upholds_withSession (fun _ => trivial) fun id found =>
    ⟨sane_touch found sane, goesOn id _ (sane_touch found sane)⟩

theorem upholds_create (wait : Bool) : (create wait).Upholds (sharing limit Any) () server := by
  refine upholds_ask fails_sharing fun settings => upholds_ask fails_sharing fun textScene =>
    upholds_ask fails_sharing fun encounterScene => upholds_ask fails_sharing fun preferences => ?_
  intro _ reached sane _
  show Program.Upholds _ (if reached.isFull then _ else _) _ _
  split
  · trivial
  · next room => exact upholds_register (fun _ _ => trivial) _ wait (by simpa using room) sane

theorem upholds_readScene (name : String) : (readScene name).Upholds (sharing limit Any) () server := by
  refine upholds_ask fails_sharing fun found => ?_
  split <;> trivial

theorem upholds_program (call : Call) (sane : (sharing limit Any).sane server) :
    (program call).Upholds (sharing limit Any) () server := by
  have concludes : ∀ (id : SessionId) (wait : Bool) (server : Server), (sharing limit Any).sane server →
      (conclude id wait).Upholds (sharing limit Any) () server :=
    fun id wait server sane => upholds_conclude (fun _ _ => trivial) wait sane
  cases call with
  | health => trivial
  | readSettings => exact upholds_ask fails_sharing fun _ => trivial
  | changeSettings fields => exact upholds_changeSettings (fun _ _ _ => ⟨sane, trivial⟩) fun _ => trivial
  | listScenes => exact upholds_ask fails_sharing fun _ => trivial
  | readScene name => exact upholds_readScene name
  | create wait => exact upholds_create wait
  | observe name wait => exact upholds_using name sane fun id => concludes id wait
  | select name option wait =>
      exact upholds_using name sane fun id =>
        (composes_sharing id).select option (fun _ _ => trivial) (concludes id wait)
  | leave name wait =>
      exact upholds_using name sane fun id =>
        (composes_sharing id).triggerTransition (fun _ _ => trivial) (concludes id wait)
  | enter name wait =>
      exact upholds_using name sane fun id =>
        (composes_sharing id).beginEncounter (fun _ _ => trivial) (concludes id wait)
  | restart name wait =>
      exact upholds_using name sane fun id server sane => upholds_ask fails_sharing fun preferences =>
        upholds_restart (fun _ _ => trivial) preferences wait sane
  | remove name =>
      exact upholds_remove (fun _ => trivial) fun id _ =>
        ⟨sane_unregister id sane, upholds_close (fun _ _ => trivial) (sane_unregister id sane)⟩

/-- Every request upholds these terms. -/
theorem Request.upholds (request : Request) (sane : (sharing limit Any).sane server) :
    request.program.Upholds (sharing limit Any) () server := by
  unfold Request.program
  split
  · exact upholds_program _ sane
  · trivial

/-! ## Every world of a server -/

variable {storage : Storage} {world after : Setting}

/-- Every move keeps what requests have undertaken. -/
theorem obliged_of_moves (obliged : world.Obliged manners (sharing limit Any)) (moves : Moves world after) :
    after.Obliged manners (sharing limit Any) := by
  cases moves with
  | begin request noTurn => exact obliged.begin noTurn request.decorous (request.upholds obliged.sane)
  | step =>
      refine obliged.step machine_decorous honours_sharing (fun _ _ => trivial) ?_
      intro driver change writes server sane
      have same := writes driver rfl server
      exact ⟨same.limit.trans sane.1, by rw [same.registry]; exact sane.2⟩
  | release position noTurn wait => exact obliged.release? noTurn wait
  | edit storage noTurn => exact obliged.restore noTurn obliged.sane

theorem Reachable.obliged (reachable : Reachable storage limit world) :
    world.Obliged manners (sharing limit Any) := by
  induction reachable with
  | refl => exact .initial ⟨rfl, Nat.zero_le _⟩
  | tail _ moves inductionHypothesis => exact obliged_of_moves inductionHypothesis moves

/-- A server never registers more play-throughs than it is to, however requests overlap. -/
theorem Reachable.length_registry_le (reachable : Reachable storage limit world) :
    world.store.registry.length ≤ limit :=
  reachable.obliged.sane.2

end Playthrough.Server
