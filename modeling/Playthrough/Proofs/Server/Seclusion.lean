import Playthrough.Proofs.Server.Quarters
import Playthrough.Proofs.Server.Terms

/-!
Contract: requests that leave a play-through alone.

Owns: for how long a play-through stays in a server (`Server.tenancy`), and that every request that is not about
it leaves it alone for as long, whatever it finds after it has waited (`Server.Request.shuns`).

Does not own: the worlds in which requests act.

Whatever a request does to another play-through it does by way of that one's drivers and its number. Where room
is made for a new play-through the registry decides whose turn it is to leave; a play-through that is registered
is not the one. Nor does a new one have its number.
-/

namespace Playthrough.Server

variable {id other : SessionId} {server : Server}

/-- A play-through stays as long as it is registered. Before it is made there is room for it. -/
def tenancy (id : SessionId) : Tenancy Server where
  stands server := id ∈ server.registry ↔ id < server.sessions.length
  stays before after := (id ∈ after.registry ↔ id < after.sessions.length)
    ∧ (id < before.sessions.length ↔ id < after.sessions.length)
  leaves before after := before.sessions.length ≤ after.sessions.length

/-- A program leaves a play-through alone, whenever it goes on. -/
abbrev Shunning (id : SessionId) (program : Plan) : Prop :=
  ∀ server, (tenancy id).stands server → program.Shuns (lodging id) (tenancy id) server

theorem door_ne {driver : DriverId} (different : driver.1 ≠ id) (role : Role) :
    (lodging id).door role ≠ driver :=
  fun same => different (same ▸ rfl)

/-! ## What is done to others -/

/-- A change that leaves the play-throughs and their number alone. -/
theorem shuns_update {change : Server → Server} {next : Plan}
    (sessions : (change server).sessions = server.sessions)
    (goesOn : (tenancy id).stands (change server) → next.Shuns (lodging id) (tenancy id) (change server)) :
    (Program.update change next).Shuns (lodging id) (tenancy id) server := by
  refine ⟨Nat.le_of_eq (congrArg List.length sessions.symm), fun stays => ⟨?_, goesOn stays.1⟩⟩
  show (change server).session id = server.session id
  rw [session, session, sessions]

/-- Whatever is done to another play-through leaves this one alone. -/
theorem composes_shunning (different : other ≠ id) :
    (seat other).Composes fun program : Plan => Shunning id program where
  look _ goesOn server stands := goesOn server server stands
  update change _ alters goesOn server _ := by
    have same : SameBut other server (change server) := .of_alters (alters server)
    exact ⟨Nat.le_of_eq same.count.symm, fun stays => ⟨same.others id different.symm, goesOn _ stays.1⟩⟩
  cancel _ _ goesOn _ _ := ⟨door_ne different, goesOn⟩
  settle goesOn _ _ := by
    refine ⟨fun driver member => door_ne ?_, goesOn⟩
    rw [List.append_nil] at member
    obtain ⟨role, -, rfl⟩ := List.mem_map.mp member
    exact different
  spawn _ goesOn server stands := ⟨door_ne different, goesOn server stands⟩

theorem shunning_conclude (different : other ≠ id) (wait : Bool) : Shunning id (conclude other wait) := by
  cases wait with
  | false => exact fun _ _ => trivial
  | true => exact (composes_shunning different).settle fun _ _ => trivial

/-- A new play-through is another one. -/
theorem shunning_makes {textScene : Option TextScene} {encounterScene : Option EncounterScene}
    {preferences : Preferences} (wait : Bool) :
    Shunning id (.look fun server =>
      if server.isFull then failWith .noRoom
      else .update (register (.initial textScene encounterScene preferences))
        ((seat server.sessions.length).begin (conclude server.sessions.length wait))) := by
  intro server stands
  dsimp only [Program.Shuns]
  split
  · trivial
  refine ⟨by simp [tenancy, register], fun stays => ?_⟩
  have made : (id < server.sessions.length ↔ id < server.sessions.length + 1) := by
    simpa [tenancy, register] using stays.2
  have different : server.sessions.length ≠ id := by
    rintro rfl
    exact Nat.lt_irrefl _ (made.mpr (Nat.lt_succ_self _))
  refine ⟨?_, (composes_shunning different).begin (shunning_conclude different wait) _ stays.1⟩
  show (server.register _).session id = server.session id
  rcases Nat.lt_or_ge id server.sessions.length with before | after
  · simp [session, register, List.getD_eq_getElem?_getD, List.getElem?_append_left before]
  · have outside : (server.sessions ++ [Session.initial textScene encounterScene preferences]).length ≤ id := by
      rw [List.length_append, List.length_singleton]
      omega
    simp only [session, register, List.getD_eq_getElem?_getD, List.getElem?_eq_none after,
      List.getElem?_eq_none outside]

/-- Making room leaves alone whoever stays. -/
theorem respects_lodging (id : SessionId) : machine.Respects manners (lodging id) (tenancy id) := by
  rintro procedure (⟨-, rfl⟩ | ⟨_, _, impossible, -⟩) next server stands goesOn
  · simp only [machine, evictProgram, Program.andThen, Program.Shuns]
    split
    · next oldest rest full registered =>
        refine ⟨Nat.le_refl _, fun stays => ⟨rfl, ?_⟩⟩
        have different : oldest ≠ id := by
          rintro rfl
          have made : oldest < server.sessions.length := stands.mp (registered ▸ List.mem_cons_self)
          exact not_mem_registry_unregister oldest server (stays.1.mpr made)
        have goes : Shunning id (.call .evict next) := fun _ _ => goesOn
        exact (composes_shunning different).close goes _ stays.1
    · exact goesOn server stands
  · cases impossible

/-! ## Requests -/

theorem shuns_ask {α : Type} {question : Storage → Except Storage.Fault α} {next : α → Plan}
    (goesOn : ∀ value, (next value).Shuns (lodging id) (tenancy id) server) :
    (ask question next).Shuns (lodging id) (tenancy id) server := by
  simp only [ask, Program.Shuns]
  split
  · exact goesOn _
  · trivial

/-- A request that finds another play-through works on that one. -/
theorem shuns_withSession {name : String} {next : SessionId → Plan}
    (elsewhere : server.find? name ≠ some id) (goesOn : ∀ other, other ≠ id → Shunning id (next other)) :
    (withSession name next).Shuns (lodging id) (tenancy id) server := by
  simp only [withSession, Program.Shuns]
  split
  · trivial
  · next other found =>
      refine shuns_update rfl fun stands => goesOn other ?_ _ stands
      rintro rfl
      exact elsewhere found

/-- Whoever stays is not removed. -/
theorem shuns_remove (name : String) (stands : (tenancy id).stands server) :
    (remove name).Shuns (lodging id) (tenancy id) server := by
  simp only [remove, Program.Shuns]
  split
  · trivial
  · next other found =>
      refine ⟨Nat.le_refl _, fun stays => ⟨rfl, ?_⟩⟩
      have different : other ≠ id := by
        rintro rfl
        have made : other < server.sessions.length := stands.mp (List.mem_of_find?_eq_some found)
        exact not_mem_registry_unregister other server (stays.1.mpr made)
      have ends : Shunning id (respond .removed) := fun _ _ => trivial
      exact (composes_shunning different).close ends _ stays.1

theorem shuns_program {call : Call} (stands : (tenancy id).stands server)
    (elsewhere : ∀ name wish, call = Wish.call name wish → server.find? name ≠ some id) :
    (program call).Shuns (lodging id) (tenancy id) server := by
  cases call with
  | health => trivial
  | readSettings => exact shuns_ask fun _ => trivial
  | changeSettings fields =>
      simp only [program, changeSettings, Program.Shuns]
      split
      · exact shuns_update rfl fun _ => trivial
      · split <;> trivial
  | listScenes => exact shuns_ask fun _ => trivial
  | readScene name =>
      simp only [program, readScene]
      refine shuns_ask fun found => ?_
      split <;> trivial
  | create wait =>
      exact shuns_ask fun _ => shuns_ask fun _ => shuns_ask fun _ => shuns_ask fun _ => shunning_makes wait
  | observe name wait =>
      exact shuns_withSession (elsewhere name (.observe wait) rfl) fun _ different =>
        shunning_conclude different wait
  | select name option wait =>
      exact shuns_withSession (elsewhere name (.select option wait) rfl) fun _ different =>
        (composes_shunning different).select option (fun _ _ => trivial) (shunning_conclude different wait)
  | leave name wait =>
      exact shuns_withSession (elsewhere name (.leave wait) rfl) fun _ different =>
        (composes_shunning different).triggerTransition (fun _ _ => trivial) (shunning_conclude different wait)
  | enter name wait =>
      exact shuns_withSession (elsewhere name (.enter wait) rfl) fun _ different =>
        (composes_shunning different).beginEncounter (fun _ _ => trivial) (shunning_conclude different wait)
  | restart name wait =>
      refine shuns_withSession (elsewhere name (.restart (.error .unusable) wait) rfl) fun other different => ?_
      have composes := composes_shunning different
      exact fun server stands => shuns_ask fun preferences =>
        composes.restart _ (composes.begin (shunning_conclude different wait)) server stands
  | remove name => exact shuns_remove name stands

/-- A request that wishes nothing of a play-through leaves it alone as long as that stays. -/
theorem Request.shuns {request : Request} (stands : (tenancy id).stands server)
    (elsewhere : ∀ name wish, request.call = .ok (Wish.call name wish) → server.find? name ≠ some id) :
    request.program.Shuns (lodging id) (tenancy id) server := by
  unfold Request.program
  split
  · next call asked =>
      exact shuns_program stands fun name wish same => elsewhere name wish (same ▸ asked)
  · trivial

end Playthrough.Server
