import Playthrough.Proofs.Server.Chronicle
import Playthrough.Proofs.Server.Stays

/-!
Contract: play-throughs of a server do not interfere.

Owns: when play-throughs in two servers have become the same (`Server.Concur`, `Server.Coincide`), and that they
have when the same has happened to them (`Server.Stay.unaffected_by_others`).

Does not own: what can happen to a play-through.

The two servers need have nothing in common but the one play-through: neither files nor other play-throughs nor
requests about those, nor how many of them there may be.
-/

namespace Playthrough.Server

/-! ## Two histories -/

/-- Two play-throughs in two servers have become the same so far as each has got, but for their numbers. -/
structure Concur (id other : SessionId) (requests others : List TaskId) (world elsewhere : Setting) : Prop where
  count : others.length = requests.length
  /-- Whatever was answered in both is the same. -/
  answers : ∀ (position : Nat) (outcome answer : Outcome Reply),
    (answered requests world)[position]? = some (some outcome) →
      (answered others elsewhere)[position]? = some (some answer) → answer = outcome.told (answerAbout other)
  /-- No wait that one has begun is other than that of the other. -/
  begun : begunBy id requests world <+: begunBy other others elsewhere
    ∨ begunBy other others elsewhere <+: begunBy id requests world

/-- Two play-throughs in two servers have become the same, but for their numbers. -/
structure Coincide (id other : SessionId) (requests others : List TaskId) (world elsewhere : Setting) : Prop where
  answered : answered others elsewhere =
    (answered requests world).map (Option.map (Outcome.told (answerAbout other)))
  begun : begunBy other others elsewhere = begunBy id requests world
  session : elsewhere.store.session other = world.store.session id

theorem told_told (id other : SessionId) (outcome : Outcome Reply) :
    (outcome.told (answerAbout id)).told (answerAbout other) = outcome.told (answerAbout other) := by
  cases outcome with
  | finished word => cases word <;> simp [Outcome.told]
  | cancelled => rfl
  | failed fault => rfl

section Runs

variable {storage elsewhereStorage : Storage} {limit elsewhereLimit : Nat} {id other : SessionId} {making : Making}
variable {occurrences : List (Pace × Occurrence)} {steps others : Nat} {requests twins : List TaskId}
variable {world elsewhere : Setting}

/-- Play-throughs do not interfere: in two servers with different files, other play-throughs and other requests,
a play-through to which the same happens becomes the same. -/
theorem Stay.unaffected_by_others (stay : Stay storage limit id making occurrences steps requests world)
    (again : Stay elsewhereStorage elsewhereLimit other making occurrences others twins elsewhere) :
    Concur id other requests twins world elsewhere
      ∧ (steps = others ∨ Resting id requests world ∧ Resting other twins elsewhere →
        Coincide id other requests twins world elsewhere) := by
  obtain ⟨places, inner, tracks⟩ := stay.tracks
  obtain ⟨places, inner, tracksAgain⟩ := again.tracks
  obtain ⟨rfl, rfl⟩ := tracks.replays.unique tracksAgain.replays
  refine ⟨⟨?_, ?_, ?_⟩, fun pace => ?_⟩
  · rw [tracks.length_eq, tracksAgain.length_eq]
  · intro position outcome answer isOver alsoOver
    obtain ⟨place, told, here, ended, rfl⟩ := tracks.outcome_of_answered isOver
    obtain ⟨place, toldAgain, alsoHere, alsoEnded, rfl⟩ := tracksAgain.outcome_of_answered alsoOver
    obtain rfl := Option.some.inj (here.symm.trans alsoHere)
    rw [tracks.sound.outcome?_unique ended alsoEnded, told_told]
  · rw [tracks.begunBy_eq, tracksAgain.begunBy_eq]
    exact (Guest.begun_goOn_or inner steps others).imp (·.map _) (·.map _)
  · have reached : Guest.goOn steps inner = Guest.goOn others inner := by
      rcases pace with rfl | ⟨resting, restingAgain⟩
      · rfl
      · exact Guest.goOn_eq_of_isIdle ((Tracks.resting_iff tracks.hosts).mp resting)
          ((Tracks.resting_iff tracksAgain.hosts).mp restingAgain)
    refine ⟨?_, ?_, ?_⟩
    · rw [tracks.answered_eq, tracksAgain.answered_eq, reached, List.map_map]
      refine List.map_congr_left fun place _ => ?_
      simp only [Function.comp_apply, Option.map_map]
      cases (Guest.goOn others inner).outcome? place with
      | none => rfl
      | some outcome => simp [told_told]
    · rw [tracks.begunBy_eq, tracksAgain.begunBy_eq, reached]
    · rw [tracks.session_eq, tracksAgain.session_eq, reached]

end Runs

/-! ## In company -/

/-- What a play-through is made of where nothing but haste was chosen. -/
def hastily : Making := ⟨none, none, { language := .english, pacing := .fast }, false⟩

theorem Stay.opens_hastily {storage : Storage} {limit : Nat} {world : Setting}
    (reachable : Reachable storage limit world) (noTurn : world.running = none)
    (room : world.store.isFull = false) (files : world.store.storage = hasty) :
    Stay storage limit world.store.sessions.length hastily [] 0 [world.tasks.length]
      ((world.begin (hastily.establish world.store.sessions.length)).2.step machine) := by
  have preferred : hasty.preferences = .ok { language := .english, pacing := .fast } := by
    rw [Storage.preferences, settings_hasty]
    rfl
  exact .opens reachable noTurn room call_creation (files ▸ settings_hasty) (files ▸ chosen_hasty.1)
    (files ▸ chosen_hasty.2) (files ▸ preferred)

/-- A request to leave the text scene of the second play-through. -/
def secondDeparture : Request :=
  { method := "POST", target := "/api/sessions/00000000000000000000000000000001/transition", body := "" }

theorem call_departure : departure.call = .ok ((Wish.leave false).call firstName) := by cbv

theorem call_secondDeparture : secondDeparture.call = .ok ((Wish.leave false).call (idText 1)) := by cbv

/-- A play-through has just been made in a server. -/
def opens (world : Setting) : Setting :=
  (world.begin (hastily.establish world.store.sessions.length)).2.step machine

/-- A play-through has just been asked to leave its text scene. -/
def leaves (id : SessionId) (world : Setting) : Setting :=
  (world.begin (program (.leave (idText id) false))).2

/-- A server that has played one play-through to the end of its text scene. -/
def lonely : Setting := (opens (World.initial (initial hasty 1))).drain machine 30

/-- A server that has done so with one of two. -/
def begun : Setting := (opens (World.initial (initial hasty 2))).drain machine 30

/-- A server that has done so with two. -/
def crowded : Setting := (opens begun).drain machine 30

/-- Its files have changed and the first play-through has left its text scene. -/
def changed : Setting :=
  (leaves 0 { crowded with store := crowded.store.setStorage .cutShort }).drain machine 40

theorem stays_lonely :
    stays 0 30 (opens (World.initial (initial hasty 1))) = true ∧ stays 0 40 (leaves 0 lonely) = true := by
  constructor <;> cbv

theorem overview_lonely :
    overview lonely =
      { idle := true
        owners := [none, some (0, .text)]
        unended := [false, false]
        made := 1
        registered := [0]
        waiting := [] } := by cbv

theorem overview_begun :
    overview begun =
      { idle := true
        owners := [none, some (0, .text)]
        unended := [false, false]
        made := 1
        registered := [0]
        waiting := [] } := by cbv

theorem room_begun : begun.store.isFull = false ∧ begun.store.storage = hasty := by
  constructor <;> cbv

theorem stays_crowded :
    stays 1 30 (opens begun) = true
      ∧ stays 1 40 (leaves 0 { crowded with store := crowded.store.setStorage .cutShort }) = true
      ∧ stays 1 40 (leaves 1 changed) = true := by
  refine ⟨?_, ?_, ?_⟩ <;> cbv

theorem overview_crowded :
    overview crowded =
      { idle := true
        owners := [none, some (0, .text), none, some (1, .text)]
        unended := [false, false, false, false]
        made := 2
        registered := [0, 1]
        waiting := [] } := by cbv

theorem overview_changed :
    overview changed =
      { idle := true
        owners := [none, some (0, .text), none, some (1, .text), none, some (0, .encounter)]
        unended := [false, false, false, false, false, true]
        made := 2
        registered := [1, 0]
        waiting := [some (0, .encounter)] } := by cbv

theorem overview_left :
    (overview ((leaves 0 lonely).drain machine 40)).idle = true
      ∧ (overview ((leaves 1 changed).drain machine 40)).idle = true := by
  constructor <;> cbv

/-- A play-through that is at rest is asked to leave its text scene, and everything runs. -/
theorem Stay.left {storage : Storage} {limit : Nat} {id : SessionId} {making : Making}
    {occurrences : List (Pace × Occurrence)} {steps : Nat} {requests : List TaskId} {world : Setting}
    (stay : Stay storage limit id making occurrences steps requests world) (idle : world.isIdle = true)
    {request : Request} (wishes : request.call = .ok ((Wish.leave false).call (idText id)))
    (found : world.store.find? (idText id) = some id) (lasts : stays id 40 (leaves id world) = true)
    {place : TaskId} (count : world.tasks.length = place) :
    ∃ more, Stay storage limit id making ((.atRest, .asked (.leave false)) :: occurrences) more
      (place :: requests) ((leaves id world).drain machine 40) :=
  stay.asked_at_rest idle wishes found trivial lasts count

theorem stay_lonely : ∃ steps, Stay hasty 1 0 hastily [(.atRest, .asked (.leave false))] steps [2, 0]
    ((leaves 0 lonely).drain machine 40) := by
  have made : Stay hasty 1 0 hastily [] 0 [0] (opens (World.initial (initial hasty 1))) :=
    .opens_hastily .refl rfl (by decide) rfl
  obtain ⟨_, ran⟩ := made.drain stays_lonely.1
  have seen := overview_lonely
  simp only [overview, Overview.mk.injEq] at seen
  obtain ⟨idle, owners, -, -, registered, -⟩ := seen
  have count : lonely.tasks.length = 2 := by rw [← World.length_owners, owners]; rfl
  have found : lonely.store.find? (idText 0) = some 0 := by
    rw [find?, registered]
    decide
  exact ran.left idle call_departure found stays_lonely.2 count

theorem stay_crowded : ∃ steps, Stay hasty 2 1 hastily [(.atRest, .asked (.leave false))] steps [6, 2]
    ((leaves 1 changed).drain machine 40) := by
  have first : Stay hasty 2 0 hastily [] 0 [0] (opens (World.initial (initial hasty 2))) :=
    .opens_hastily .refl rfl (by decide) rfl
  have seen := overview_begun
  simp only [overview, Overview.mk.injEq] at seen
  obtain ⟨idle, owners, -, made, -⟩ := seen
  have reachable : Reachable hasty 2 begun := first.reachable.trans (moves_drain 30 _)
  have second := Stay.opens_hastily reachable (World.noTurn_of_isIdle idle) room_begun.1 room_begun.2
  have count : begun.tasks.length = 2 := by
    rw [← World.length_owners, owners]
    rfl
  rw [made, count] at second
  obtain ⟨_, ran⟩ := second.drain stays_crowded.1
  have seen := overview_crowded
  simp only [overview, Overview.mk.injEq] at seen
  obtain ⟨idle, -, -, -, registered, -⟩ := seen
  have noTurn : crowded.running = none := World.noTurn_of_isIdle idle
  have elsewhere : ∀ name wish, departure.call = .ok (Wish.call name wish) →
      (crowded.store.setStorage .cutShort).find? name ≠ some 1 := by
    intro name wish wishes
    have named : name = firstName := by
      rw [call_departure] at wishes
      cases wish <;> cases wishes
      rfl
    rw [named, find?, setStorage, registered]
    decide
  have other := (ran.edits noTurn .cutShort).asks noTurn departure elsewhere
  rw [program_departure] at other
  obtain ⟨_, ran⟩ := other.drain stays_crowded.2.1
  have seen := overview_changed
  simp only [overview, Overview.mk.injEq] at seen
  obtain ⟨idle, owners, -, -, registered, -⟩ := seen
  have count : changed.tasks.length = 6 := by
    rw [← World.length_owners, owners]
    rfl
  have found : changed.store.find? (idText 1) = some 1 := by
    rw [find?, registered]
    decide
  exact ran.left idle call_secondDeparture found stays_crowded.2.2 count

/-- A play-through that leaves its text scene in company does so as it does by itself. -/
theorem coincide_in_company :
    ∃ steps others,
      Stay hasty 1 0 hastily [(.atRest, .asked (.leave false))] steps [2, 0] ((leaves 0 lonely).drain machine 40)
        ∧ Stay hasty 2 1 hastily [(.atRest, .asked (.leave false))] others [6, 2]
          ((leaves 1 changed).drain machine 40)
        ∧ Concur 0 1 [2, 0] [6, 2] ((leaves 0 lonely).drain machine 40) ((leaves 1 changed).drain machine 40)
        ∧ Coincide 0 1 [2, 0] [6, 2] ((leaves 0 lonely).drain machine 40)
          ((leaves 1 changed).drain machine 40) := by
  obtain ⟨steps, stay⟩ := stay_lonely
  obtain ⟨others, again⟩ := stay_crowded
  obtain ⟨concur, coincide⟩ := stay.unaffected_by_others again
  exact ⟨steps, others, stay, again, concur,
    coincide (.inr ⟨resting_of_isIdle overview_left.1, resting_of_isIdle overview_left.2⟩)⟩

end Playthrough.Server
