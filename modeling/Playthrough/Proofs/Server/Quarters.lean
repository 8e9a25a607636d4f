import Playthrough.Proofs.Task.Arrival
import Playthrough.Server.Operations

/-!
Contract: what a play-through of a server is by itself.

Owns: a world with nothing but one play-through (`Server.Guest`), its place in the world of a server
(`Server.lodging`), what can be wished of a play-through (`Server.Wish`), and that a request which finds it goes
on with what the wish is in the smaller world.

Does not own: what else there is in a server.

A request finds its play-through by name and makes it the one used last; a restart also reads the preferences.
All that the play-through learns of this are the preferences that were found.
-/

namespace Playthrough.Server

/-! ## A play-through by itself -/

namespace Guest

/-- The programs of a play-through. -/
abbrev Plan := Program Session Role SceneKind Reply

/-- A world with nothing but a play-through. -/
abbrev Setting := World Session Role SceneKind Reply

/-- Its seat there. -/
def seat : Session.Seat Session Role SceneKind :=
  { driver := fun role => role
    walk := fun kind => kind
    get := fun session => session
    modify := fun change => change
    deliver := fun _ _ session => session
    warn := fun _ session => session }

/-- The walks by name. -/
def machine : Machine Session Role SceneKind Reply :=
  { body := fun kind => (seat.interpreter kind).walkBody
    shown := fun _ => [] }

/-- Ends with a response. -/
def respond (response : Response) : Plan := .give (.ok response)

/-- Responds with the play-through as it is then, under the first of all numbers. -/
def showSession : Plan := .look fun session => respond (.session 0 session.snapshot)

/-- Responds with it, after it has settled if that was asked for. -/
def conclude (wait : Bool) : Plan :=
  if wait then seat.settle showSession else showSession

/-- What a play-through begins with. -/
def opening (wait : Bool) : Plan := seat.begin (conclude wait)

end Guest

/-! ## Its place in a server -/

/-- A response about a play-through of another number. -/
def Response.about (id : SessionId) : Response → Response
  | .session _ snapshot => .session id snapshot
  | response => response

/-- An answer about a play-through of another number. -/
def answerAbout (id : SessionId) (reply : Reply) : Reply := reply.map (Response.about id)

@[simp] theorem answerAbout_answerAbout (id other : SessionId) (reply : Reply) :
    answerAbout id (answerAbout other reply) = answerAbout id reply := by
  cases reply with
  | error fault => rfl
  | ok response => cases response <;> rfl

/-- Where a play-through lives in a server. -/
def lodging (id : SessionId) : Lodging Session Role SceneKind Reply Server DriverId Procedure Reply :=
  { view := fun server => server.session id
    amend := modifySession id
    door := fun role => (id, role)
    procedure := .walk id
    answer := answerAbout id }

section Lodging

variable {id other : SessionId} {server : Server}

theorem session_modifySession (change : Session → Session) (made : id < server.sessions.length) :
    (server.modifySession id change).session id = change (server.session id) := by
  simp [session, modifySession, List.getD_eq_getElem?_getD, List.getElem?_eq_getElem made]

/-- A play-through that was not made cannot be changed. -/
theorem modifySession_of_not_made (change : Session → Session) (unmade : server.sessions.length ≤ id) :
    server.modifySession id change = server := by
  simp only [modifySession, List.modify_eq_self unmade]

theorem lawful_lodging (id : SessionId) : (lodging id).Lawful where
  amend_same := by
    funext server
    have same : server.sessions.modify id (fun session => session) = server.sessions :=
      List.modify_id id server.sessions
    simp only [lodging, modifySession, same]
  amend_amend first second := by
    funext server
    simp only [lodging, modifySession, List.modify_modify_eq]
    rfl
  amend_view change server := by
    rcases Nat.lt_or_ge id server.sessions.length with made | unmade
    · have here : server.session id = server.sessions[id] := by simp [session, made]
      simp only [lodging, modifySession, List.modify_eq_set_getElem? , List.getElem?_eq_getElem made, here]
      rfl
    · simp only [lodging, modifySession_of_not_made _ unmade]

theorem door_injective (id : SessionId) : Function.Injective (lodging id).door :=
  fun _ _ same => (Prod.mk.inj same).2

theorem seat_eq_lodged (id : SessionId) : seat id = Guest.seat.lodged (lodging id) := by
  have same : (modifySession id fun session => session) = fun server => server :=
    (lawful_lodging id).amend_same
  simp only [seat, Guest.seat, Session.Seat.lodged, lodging, same]

theorem carries_lodging (id : SessionId) : machine.Carries (lodging id) Guest.machine where
  body kind := by
    show ((seat id).interpreter kind : Playthrough.Seat Server DriverId Procedure Reply).walkBody = _
    rw [seat_eq_lodged]
    exact (Session.Seat.lodged_walkBody (lawful_lodging id) Guest.seat kind).symm
  shown _ := rfl

theorem lodged_conclude (id : SessionId) (wait : Bool) :
    (Guest.conclude wait).lodged (lodging id) = conclude id wait := by
  cases wait with
  | false => rfl
  | true => rfl

theorem lodged_opening (id : SessionId) (wait : Bool) :
    (Guest.opening wait).lodged (lodging id) = (seat id).begin (conclude id wait) := by
  rw [Guest.opening, Session.Seat.lodged_begin (lawful_lodging id), lodged_conclude, seat_eq_lodged]

end Lodging

/-! ## Wishes -/

/-- What can be wished of a play-through. For a restart the preferences are given that are found then. -/
inductive Wish where
  | observe (wait : Bool)
  | select (option : String) (wait : Bool)
  | leave (wait : Bool)
  | enter (wait : Bool)
  | restart (found : Except Storage.Fault Preferences) (wait : Bool)

namespace Wish

/-- A wish of the play-through of a name. -/
def call (name : String) : Wish → Call
  | .observe wait => .observe name wait
  | .select option wait => .select name option wait
  | .leave wait => .leave name wait
  | .enter wait => .enter name wait
  | .restart _ wait => .restart name wait

/-- A storage in which is found what the wish says. -/
def Finds : Wish → Storage → Prop
  | .restart found _, storage => storage.preferences = found
  | _, _ => True

/-- What is done for a wish, after the play-through was found and used. -/
def work : Wish → Guest.Plan
  | .observe wait => Guest.conclude wait
  | .select option wait => Guest.seat.select option (Guest.respond .notOnOffer) (Guest.conclude wait)
  | .leave wait => Guest.seat.triggerTransition (Guest.respond .notReady) (Guest.conclude wait)
  | .enter wait => Guest.seat.beginEncounter (Guest.respond .noTransition) (Guest.conclude wait)
  | .restart (.ok preferences) wait =>
      .look fun _ => Guest.seat.restart (some preferences) (Guest.opening wait)
  | .restart (.error fault) _ => .look fun _ => .give (.error (.storage fault))

/-- What a wish is in the smaller world. -/
def plan (wish : Wish) : Guest.Plan := .look fun _ => .update (fun session => session) wish.work

variable {id : SessionId} {name : String} {server : Server}

/-- A request that finds the play-through goes on with what is wished. -/
theorem enters (wish : Wish) (found : server.find? name = some id) (finds : wish.Finds server.storage) :
    (program (wish.call name)).Enters (lodging id) server wish.plan := by
  have used : ∀ {next : SessionId → Plan} {work : Guest.Plan},
      (next id).Enters (lodging id) (server.touch id) work →
        (withSession name next).Enters (lodging id) server
          (.look fun _ => .update (fun session => session) work) := by
    intro next work rest
    refine .look ?_
    simp only [found]
    exact .update rfl rest
  have home : ∀ {program : Plan} {work : Guest.Plan}, work.lodged (lodging id) = program →
      program.Enters (lodging id) (server.touch id) work := by
    rintro program work rfl
    exact .home work _
  cases wish with
  | observe wait => exact used (home (lodged_conclude id wait))
  | select option wait =>
      refine used (home ?_)
      rw [work, Session.Seat.lodged_select (lawful_lodging id), lodged_conclude, seat_eq_lodged]
      rfl
  | leave wait =>
      refine used (home ?_)
      rw [work, Session.Seat.lodged_triggerTransition (lawful_lodging id), lodged_conclude, seat_eq_lodged]
      rfl
  | enter wait =>
      refine used (home ?_)
      rw [work, Session.Seat.lodged_beginEncounter (lawful_lodging id), lodged_conclude, seat_eq_lodged]
      rfl
  | restart found wait =>
      have asked : (server.touch id).storage.preferences = found := finds
      cases found with
      | error fault =>
          refine used (.look ?_)
          simp only [asked]
          exact home rfl
      | ok preferences =>
          refine used (.look ?_)
          simp only [asked]
          refine home ?_
          rw [Session.Seat.lodged_restart, lodged_opening, seat_eq_lodged]

end Wish

end Playthrough.Server
