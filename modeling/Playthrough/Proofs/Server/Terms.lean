import Playthrough.Proofs.Server.Manners

/-!
Contract: simple terms that all requests uphold.

Owns: terms that speak of nothing but the store and of who is given something to play (`Server.Admits`), that
every request upholds them whenever it goes on (`Server.Upheld`), and that so does everything in a world of a
server that began on such terms.

Does not own: which terms there are.

A request changes the registry in three ways: it uses a play-through that it found, takes one out, or registers
a new one. Terms that are kept by these, and by what is done to a play-through, are kept by all requests.
-/

namespace Playthrough.Server

variable {pact : Pact Server DriverId Procedure Reply Unit} {id : SessionId}

/-- Whenever a program goes on it upholds some terms. -/
def Upheld (pact : Pact Server DriverId Procedure Reply Unit) (program : Plan) : Prop :=
  ∀ server, pact.sane server → program.Upholds pact () server

/-- Terms that are kept by whatever requests do. -/
structure Admits (pact : Pact Server DriverId Procedure Reply Unit) : Prop where
  free : ∀ before after, pact.drift before after
  called : ∀ procedure before after, pact.calls procedure () before () after
  good : ∀ answer server, pact.good answer () server
  sameBut : ∀ {id before after}, pact.sane before → SameBut id before after → pact.sane after
  setStorage : ∀ {server} storage, pact.sane server → pact.sane (server.setStorage storage)
  unregister : ∀ {server} id, pact.sane server → pact.sane (server.unregister id)
  touch : ∀ {server name id}, pact.sane server → server.find? name = some id →
    pact.sane (server.touch id) ∧ ∀ role, pact.lends (id, role)
  register : ∀ {server} session, pact.sane server → server.isFull = false →
    pact.sane (server.register session) ∧ ∀ role, pact.lends (server.sessions.length, role)

namespace Admits

theorem honours (admits : Admits pact) : machine.Honours manners pact := by
  rintro procedure (⟨-, rfl⟩ | ⟨_, _, impossible, -⟩) next ⟨⟩ server sane goesOn
  · refine upholds_evictProgram (fun oldest rest _ _ => ?_) fun _ => goesOn () server sane
      (admits.called _ _ _)
    exact ⟨admits.unregister oldest sane, fun _ _ _ _ _ _ _ _ _ later reached sane _ =>
      goesOn later reached sane (admits.called _ _ _)⟩
  · cases impossible

/-- What is done to a play-through whose drivers may be given tasks. -/
theorem composes (admits : Admits pact) (lends : ∀ role, pact.lends (id, role)) :
    (seat id).Composes fun program : Plan => Upheld pact program where
  look _ goesOn server sane := goesOn server server sane
  update _ _ alters goesOn server sane := by
    have stays := admits.sameBut sane (.of_alters (alters server))
    exact ⟨stays, goesOn _ stays⟩
  cancel _ _ goesOn _ _ reached sane _ := goesOn reached sane
  settle goesOn _ _ reached sane _ := goesOn reached sane
  spawn {role _ _} _ goesOn server sane := ⟨lends role, goesOn server sane⟩

/-- Stopping drivers gives nobody a task. -/
theorem close (id : SessionId) {next : Plan} (goesOn : Upheld pact next) :
    Upheld pact ((seat id).close next) :=
  fun _ _ _ _ _ _ _ _ reached sane _ => goesOn reached sane

theorem done (admits : Admits pact) (answer : Option Reply) : Upheld pact (.done answer) :=
  fun server _ => admits.good answer server

theorem conclude (admits : Admits pact) (id : SessionId) (wait : Bool) :
    Upheld pact (Server.conclude id wait) := by
  cases wait with
  | false => exact fun _ _ => admits.good _ _
  | true => exact fun _ _ reached _ _ => admits.good _ reached

theorem ask (admits : Admits pact) {α : Type} {question : Storage → Except Storage.Fault α}
    {next : α → Plan} (goesOn : ∀ value, Upheld pact (next value)) :
    Upheld pact (Server.ask question next) :=
  fun server sane => upholds_ask (fun _ => admits.good _ _) fun value => goesOn value server sane

theorem withSession (admits : Admits pact) {name : String} {next : SessionId → Plan}
    (goesOn : ∀ id, (∀ role, pact.lends (id, role)) → Upheld pact (next id)) :
    Upheld pact (Server.withSession name next) :=
  fun _ sane => upholds_withSession (fun _ => admits.good _ _) fun id found =>
    have used := admits.touch sane found
    ⟨used.1, goesOn id used.2 _ used.1⟩

/-- After room was made a play-through is registered and begun. -/
theorem makes (admits : Admits pact) {textScene : Option TextScene}
    {encounterScene : Option EncounterScene} {preferences : Preferences} (wait : Bool) :
    Upheld pact (.look fun server =>
      if server.isFull then failWith .noRoom
      else .update (Server.register (.initial textScene encounterScene preferences))
        ((seat server.sessions.length).begin (Server.conclude server.sessions.length wait))) := by
  intro server sane
  dsimp only [Program.Upholds]
  split
  · exact admits.good _ _
  next room =>
    have made := admits.register (.initial textScene encounterScene preferences) sane (by simpa using room)
    exact ⟨made.1, (admits.composes made.2).begin (admits.conclude _ wait) _ made.1⟩

theorem readScene (admits : Admits pact) (name : String) : Upheld pact (Server.readScene name) := by
  refine admits.ask fun found => ?_
  split <;> exact admits.done _

theorem program (admits : Admits pact) (call : Call) : Upheld pact (Server.program call) := by
  cases call with
  | health => exact admits.done _
  | readSettings => exact admits.ask fun _ => admits.done _
  | changeSettings fields =>
      exact fun _ sane => upholds_changeSettings
        (fun _ storage _ => ⟨admits.setStorage storage sane, admits.good _ _⟩) fun _ => admits.good _ _
  | listScenes => exact admits.ask fun _ => admits.done _
  | readScene name => exact admits.readScene name
  | create wait =>
      exact admits.ask fun _ => admits.ask fun _ => admits.ask fun _ => admits.ask fun _ =>
        fun _ _ _ reached sane _ => admits.makes wait reached sane
  | observe name wait => exact admits.withSession fun id _ => admits.conclude id wait
  | select name option wait =>
      exact admits.withSession fun id lends =>
        (admits.composes lends).select option (admits.done _) (admits.conclude id wait)
  | leave name wait =>
      exact admits.withSession fun id lends =>
        (admits.composes lends).triggerTransition (admits.done _) (admits.conclude id wait)
  | enter name wait =>
      exact admits.withSession fun id lends =>
        (admits.composes lends).beginEncounter (admits.done _) (admits.conclude id wait)
  | restart name wait =>
      exact admits.withSession fun id lends => admits.ask fun preferences =>
        (admits.composes lends).restart _ ((admits.composes lends).begin (admits.conclude id wait))
  | remove name =>
      exact fun _ sane => upholds_remove (fun _ => admits.good _ _) fun id _ =>
        have stays := admits.unregister id sane
        ⟨stays, close id (admits.done _) _ stays⟩

/-- Every request upholds the terms. -/
theorem request (admits : Admits pact) (request : Request) : Upheld pact request.program := by
  unfold Request.program
  split
  · exact admits.program _
  · exact admits.done _

/-- Every move keeps what requests have undertaken. -/
theorem obliged_of_moves (admits : Admits pact) {world after : Setting}
    (obliged : world.Obliged manners pact) (moves : Moves world after) : after.Obliged manners pact := by
  cases moves with
  | begin request noTurn =>
      exact obliged.begin noTurn request.decorous (admits.request request _ obliged.sane)
  | step =>
      refine obliged.step machine_decorous admits.honours admits.free ?_
      exact fun writes server sane => admits.sameBut sane (writes _ rfl server)
  | release position noTurn wait => exact obliged.release? noTurn wait
  | edit storage noTurn => exact obliged.restore noTurn (admits.setStorage storage obliged.sane)

/-- On terms that hold in the beginning everything is done. -/
theorem obliged_of_reachable (admits : Admits pact) {storage : Storage} {limit : Nat} {world : Setting}
    (sane : pact.sane (.initial storage limit)) (reachable : Reachable storage limit world) :
    world.Obliged manners pact := by
  induction reachable with
  | refl => exact .initial sane
  | tail _ moves inductionHypothesis => exact admits.obliged_of_moves inductionHypothesis moves

end Admits

end Playthrough.Server
