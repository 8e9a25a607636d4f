import Playthrough.Proofs.Server.Independence
import Playthrough.Proofs.Server.Renewal

/-!
Contract: a play-through of a server that is restarted, beside one that is made instead.

Owns: what a request to make a play-through reads (`Server.Making.read`), when a play-through that was restarted
has become the same as one that was made (`Server.Succeeds`, `Server.Renewed`), that it has when the same happened
to both and the scenes are still those that it was made of (`Server.Stay.renewed_unless_rewritten`), and that it
keeps its own scenes when others would be read (`Server.not_renewed_when_rewritten`).

Does not own: how a restart clears a play-through.

A restart reads the preferences again, but not the scenes.
-/

namespace Playthrough.Server

/-- What a request to make a play-through makes one of, when it reads everything from a storage. -/
def Making.read (storage : Storage) (wait : Bool) : Except Storage.Fault Making := do
  let settings ← storage.settings
  let textScene ← storage.chosen storage.textScene settings.textScene
  let encounterScene ← storage.chosen storage.encounterScene settings.encounter
  let preferences ← storage.preferences
  return ⟨textScene.value, encounterScene.value, preferences, wait⟩

/-- Everything was read. -/
theorem Making.of_read {storage : Storage} {wait : Bool} {now : Making} (read : Making.read storage wait = .ok now) :
    ∃ settings textScene encounterScene, storage.settings = .ok settings
      ∧ storage.chosen storage.textScene settings.textScene = .ok textScene
      ∧ storage.chosen storage.encounterScene settings.encounter = .ok encounterScene
      ∧ storage.preferences = .ok now.preferences
      ∧ now = ⟨textScene.value, encounterScene.value, now.preferences, wait⟩ := by
  simp only [Making.read, bind, Except.bind, pure, Except.pure] at read
  cases settings : storage.settings with
  | error fault => simp [settings] at read
  | ok known =>
      simp only [settings] at read
      cases text : storage.chosen storage.textScene known.textScene with
      | error fault => simp [text] at read
      | ok textScene =>
          simp only [text] at read
          cases encounter : storage.chosen storage.encounterScene known.encounter with
          | error fault => simp [encounter] at read
          | ok encounterScene =>
              simp only [encounter] at read
              cases preferred : storage.preferences with
              | error fault => simp [preferred] at read
              | ok preferences =>
                  simp only [preferred, Except.ok.injEq] at read
                  subst read
                  exact ⟨known, textScene, encounterScene, rfl, text, encounter, rfl, rfl⟩

theorem Making.wait_of_read {storage : Storage} {wait : Bool} {now : Making}
    (read : Making.read storage wait = .ok now) : now.wait = wait := by
  obtain ⟨settings, textScene, encounterScene, -, -, -, -, made⟩ := Making.of_read read
  rw [made]

theorem Making.preferences_of_read {storage : Storage} {wait : Bool} {now : Making}
    (read : Making.read storage wait = .ok now) : storage.preferences = .ok now.preferences := by
  obtain ⟨settings, textScene, encounterScene, -, -, -, preferred, -⟩ := Making.of_read read
  exact preferred

/-- Where there is room a request makes a play-through of what is read then. -/
theorem Stay.opens_as_read {storage : Storage} {limit : Nat} {world : Setting}
    (reachable : Reachable storage limit world) (noTurn : world.running = none) (room : world.store.isFull = false)
    {request : Request} {wait : Bool} (asks : request.call = .ok (.create wait)) {now : Making}
    (read : Making.read world.store.storage wait = .ok now) :
    Stay storage limit world.store.sessions.length now [] 0 [world.tasks.length]
      ((world.begin (now.establish world.store.sessions.length)).2.step machine) := by
  obtain ⟨settings, textScene, encounterScene, known, text, encounter, preferred, made⟩ := Making.of_read read
  rw [made]
  exact .opens reachable noTurn room asks known text encounter preferred

/-- So far as two play-throughs in two servers have got, the one answers as the other, but for their numbers. Only
the latest requests about the first one are compared, as many as there are about the second. -/
structure Succeeds (id other : SessionId) (requests others : List TaskId) (world elsewhere : Setting) : Prop where
  count : others.length ≤ requests.length
  /-- Whatever was answered in both is the same. -/
  answers : ∀ (position : Nat) (outcome answer : Outcome Reply),
    (answered requests world)[position]? = some (some outcome) →
      (answered others elsewhere)[position]? = some (some answer) → answer = outcome.told (answerAbout other)

/-- Two play-throughs in two servers show the same, and have answered the same to the latest requests, as many as
there are about the second. -/
structure Renewed (id other : SessionId) (requests others : List TaskId) (world elsewhere : Setting) : Prop where
  answered : answered others elsewhere =
    ((answered requests world).take others.length).map (Option.map (Outcome.told (answerAbout other)))
  snapshot : (elsewhere.store.session other).snapshot = (world.store.session id).snapshot

namespace Guest.Replays

/-- What has happened had a beginning. -/
theorem earlier {start world : Setting} {later occurrences : List (Pace × Occurrence)} {places : List TaskId}
    (replays : Replays start (later ++ occurrences) places world) :
    ∃ before reached, Replays start occurrences before reached := by
  induction later generalizing places world with
  | nil => exact ⟨places, world, replays⟩
  | cons item later inductionHypothesis =>
      cases replays with
      | asked earlier => exact inductionHypothesis earlier
      | released earlier => exact inductionHypothesis earlier

end Guest.Replays

section Runs

variable {storage : Storage} {limit : Nat} {id other : SessionId}
variable {making now : Making} {earlier happened occurrences : List (Pace × Occurrence)} {pace : Pace} {wait : Bool}
variable {steps more lead : Nat} {requests others twins : List TaskId} {world after elsewhere : Setting}
variable {task since : TaskId} {places later : List TaskId} {inner fresh : Guest.Setting} {outcome : Outcome Reply}

/-- A play-through of a server whose world goes on as a new one. -/
theorem Tracks.succeeds (tracks : Tracks id making earlier steps requests world (later ++ task :: places) inner)
    (again : Tracks other now occurrences more twins elsewhere
      ((later ++ [task]).map (Nat.count (Since task since))) fresh)
    (renews : Guest.Renews task since (Guest.goOn lead inner) fresh) (late : ∀ place ∈ later, since ≤ place) :
    Succeeds id other requests twins world elsewhere
      ∧ (steps = lead + more ∨ Resting id requests world ∧ Resting other twins elsewhere →
        Renewed id other requests twins world elsewhere) := by
  have both : Guest.Renews task since (Guest.goOn (more + lead) inner) (Guest.goOn more fresh) := by
    rw [Guest.goOn_add]
    exact renews.goOn (tracks.sound.goOn lead) more
  have own : ∀ place ∈ later ++ [task], Since task since place := by
    intro place member
    rcases List.mem_append.mp member with among | last
    · exact .inr (late place among)
    · exact .inl (List.mem_singleton.mp last)
  have split : later ++ task :: places = (later ++ [task]) ++ places := by simp
  refine ⟨⟨?_, ?_⟩, fun pace => ?_⟩
  · rw [tracks.length_eq, again.length_eq]
    simp
  · intro position outcome answer isOver alsoOver
    obtain ⟨place, told, here, ended, rfl⟩ := tracks.outcome_of_answered isOver
    obtain ⟨twin, toldAgain, alsoHere, alsoEnded, rfl⟩ := again.outcome_of_answered alsoOver
    obtain ⟨original, among, rfl⟩ := List.getElem?_map.symm.trans alsoHere |> Option.map_eq_some_iff.mp
    have inside := (List.getElem?_eq_some_iff.mp among).1
    rw [split, List.getElem?_append_left inside, among] at here
    obtain rfl := Option.some.inj here
    rw [← both.outcome?_eq (own _ (List.mem_of_getElem? among))] at alsoEnded
    rw [tracks.sound.outcome?_unique ended alsoEnded, told_told]
  · have reached : Guest.goOn steps inner = Guest.goOn (more + lead) inner := by
      rcases pace with rfl | ⟨resting, restingAgain⟩
      · rw [Nat.add_comm]
      · refine Guest.goOn_eq_of_isIdle ((Tracks.resting_iff tracks.hosts).mp resting) ?_
        rw [both.isIdle_eq (tracks.sound.goOn _).balanced]
        exact (Tracks.resting_iff again.hosts).mp restingAgain
    refine ⟨?_, ?_⟩
    · rw [tracks.answered_eq, again.answered_eq, again.length_eq, List.length_map, ← List.map_take, split,
        List.take_left, List.map_map, List.map_map]
      refine List.map_congr_left fun place member => ?_
      simp only [Function.comp_apply, Option.map_map, reached, both.outcome?_eq (own place member)]
      cases (Guest.goOn more fresh).outcome? (Nat.count (Since task since) place) with
      | none => rfl
      | some outcome => simp [told_told]
    · rw [tracks.session_eq, again.session_eq, reached, both.snapshot_eq]

/-- Where every request was answered, every one has ended. -/
theorem Tracks.ended_of_answered (tracks : Tracks id making earlier steps requests world places inner)
    (settled : ∀ answer ∈ answered requests world, answer.isSome = true) :
    ∀ place ∈ places, (Guest.goOn steps inner).isUnended place = false := by
  intro place member
  have known := settled _ (tracks.answered_eq ▸ List.mem_map_of_mem member)
  obtain ⟨answer, told⟩ := Option.isSome_iff_exists.mp known
  obtain ⟨outcome, isOver, -⟩ := Option.map_eq_some_iff.mp told
  exact World.isUnended_of_outcome isOver

/-- A play-through that is restarted becomes what a play-through becomes that is made instead, as long as the
scenes that would be read are those that it was made of.

All requests about it have been answered when the request to restart arrives (`settled`), and since then only
waits have ended until that was answered, too (`releases`, `responded`). Of these waits, those in `before` are from
before the restart; the others, and everything that happens later, happen to the new play-through as well. The
first of all this happens `lead` steps later to the restarted one, which has to be cleared first. -/
theorem Stay.renewed_unless_rewritten (stay : Stay storage limit id making earlier steps requests world)
    (settled : ∀ answer ∈ answered requests world, answer.isSome = true)
    (kept : pace.Kept steps (Resting id requests world))
    (read : Making.read world.store.storage wait = .ok now)
    (unwritten : now.textScene = making.textScene ∧ now.encounterScene = making.encounterScene)
    (releases : ∀ item ∈ happened, ∃ position, item.2 = .released position)
    (restarted : Stay storage limit id making
      (happened ++ (pace, .asked (.restart (.ok now.preferences) wait)) :: earlier) more (task :: others) after)
    (responded : after.outcome? task = some outcome) :
    ∃ lead since before, happened = delayed lead since ++ before
      ∧ ∀ (occurrences : List (Pace × Occurrence)) {elsewhereStorage : Storage} {elsewhereLimit : Nat}
          {other : SessionId} {steps alsoSteps : Nat} {requests twins : List TaskId}
          {world elsewhere : Setting},
        Stay storage limit id making
            (delayed lead (occurrences ++ since)
              ++ (before ++ (pace, .asked (.restart (.ok now.preferences) wait)) :: earlier))
            steps requests world →
          Stay elsewhereStorage elsewhereLimit other now (occurrences ++ since) alsoSteps twins elsewhere →
            Succeeds id other requests twins world elsewhere
              ∧ (steps = due lead (occurrences ++ since) + alsoSteps
                  ∨ Resting id requests world ∧ Resting other twins elsewhere →
                Renewed id other requests twins world elsewhere) := by
  obtain ⟨places, inner, tracks⟩ := stay.tracks
  obtain ⟨placesAfter, innerAfter, tracksAfter⟩ := restarted.tracks
  have start := Guest.Regular.start making.session making.wait
  have regular := (start.replays tracks.replays).goOn steps
  -- the world at the time at which the request to restart arrives
  obtain ⟨arrivedPlaces, first, arrived⟩ := tracksAfter.replays.earlier
  obtain ⟨noTurn, rfl, rfl⟩ : (Guest.goOn steps inner).running = none
      ∧ arrivedPlaces = (Guest.goOn steps inner).tasks.length :: places
      ∧ first = ((Guest.goOn steps inner).begin (Wish.restart (.ok now.preferences) wait).plan).2 := by
    cases arrived with
    | asked before noTurn alsoKept =>
        obtain ⟨rfl, rfl⟩ := before.unique tracks.replays
        rw [Guest.goOn_eq_of_kept alsoKept ((Tracks.kept_iff tracks.hosts).mp kept)] at noTurn ⊢
        exact ⟨noTurn, rfl, rfl⟩
  have attended := (regular.attended (tracks.ended_of_answered settled)).begin noTurn
    (Guest.decorous_plan (.restart (.ok now.preferences) wait))
  have restarts := Guest.Restarts.begins now.preferences wait (Guest.goOn steps inner)
  -- nothing is left of what was before it when it has answered
  obtain ⟨rfl, -⟩ := restarts.stages attended arrived releases tracksAfter.replays
  have response : (answered (task :: others) after)[0]? = some (some outcome) := by simpa [answered] using responded
  obtain ⟨place, told, here, isOver, -⟩ := tracksAfter.outcome_of_answered response
  obtain rfl := Option.some.inj here
  obtain ⟨lead, since, before, middle, cut⟩ :=
    restarts.cleared_of_answered attended arrived releases tracksAfter.replays isOver
  refine ⟨lead, since, before, cut.split, ?_⟩
  intro occurrences elsewhereStorage elsewhereLimit other steps alsoSteps requests twins world elsewhere run new
  obtain ⟨runPlaces, runInner, runTracks⟩ := run.tracks
  obtain ⟨newPlaces, newInner, newTracks⟩ := new.tracks
  have renews := cut.cleared.renews cut.attended ((start.replays cut.replays).goOn lead)
  have same : now.start = ((World.initial (.initial making.textScene making.encounterScene now.preferences)).begin
      (Guest.opening wait)).2 := by
    rw [Making.start, Making.session, unwritten.1, unwritten.2, Making.wait_of_read read]
  rw [← same] at renews
  obtain ⟨both, later, rfl, late, rfl⟩ := Guest.Replays.renews start.sound cut.replays cut.cleared.asks.inside renews
    runTracks.replays newTracks.replays
  exact runTracks.succeeds newTracks both late

end Runs

/-! ## In a server whose files have changed -/

/-- A request to restart the first play-through, and to wait until it has settled. -/
def renewal : Request :=
  { method := "POST", target := "/api/sessions/00000000000000000000000000000000/restart?wait=true", body := "" }

/-- A request to make a play-through, and to wait until it has settled. -/
def settledCreation : Request := { method := "POST", target := "/api/sessions?wait=true", body := "" }

theorem call_renewal (found : Except Storage.Fault Preferences) :
    renewal.call = .ok ((Wish.restart found true).call (idText 0)) := by cbv

theorem call_settledCreation : settledCreation.call = .ok (.create true) := by cbv

/-- A server that has played a play-through to the end of its text scene, and of which the files have changed. -/
def revised (storage : Storage) : Setting := { begun with store := begun.store.setStorage storage }

/-- The play-through was restarted. -/
def restartedWith (storage : Storage) : Setting :=
  ((revised storage).begin (program (.restart (idText 0) true))).2.drain machine 60

/-- Another one was made instead. -/
def madeWith (storage : Storage) (now : Making) : Setting :=
  (((revised storage).begin (now.establish 1)).2.step machine).drain machine 60

section Revised

variable {storage : Storage} {now : Making}

theorem stays_begun : stays 0 30 (opens (World.initial (initial hasty 2))) = true := by cbv

theorem answered_begun : (begun.outcome? 0).isSome = true := by cbv

theorem isIdle_revised : (revised storage).isIdle = true := congrArg Overview.idle overview_begun

theorem length_revised : (revised storage).tasks.length = 2 := by
  have owners : begun.owners = [none, some (0, .text)] := congrArg Overview.owners overview_begun
  show begun.tasks.length = 2
  rw [← World.length_owners, owners]
  rfl

theorem stay_revised (storage : Storage) : ∃ steps, Stay hasty 2 0 hastily [] steps [0] (revised storage) := by
  have made : Stay hasty 2 0 hastily [] 0 [0] (opens (World.initial (initial hasty 2))) :=
    .opens_hastily .refl rfl (by decide) rfl
  obtain ⟨more, ran⟩ := made.drain stays_begun
  exact ⟨_, ran.edits (World.noTurn_of_isIdle (congrArg Overview.idle overview_begun)) storage⟩

theorem stay_restarted (finds : storage.preferences = .ok now.preferences)
    (lasts : stays 0 60 ((revised storage).begin (program (.restart (idText 0) true))).2 = true) :
    ∃ more, Stay hasty 2 0 hastily [(.atRest, .asked (.restart (.ok now.preferences) true))] more [2, 0]
      (restartedWith storage) := by
  obtain ⟨steps, stay⟩ := stay_revised storage
  have registered : begun.store.registry = [0] := congrArg Overview.registered overview_begun
  have found : (revised storage).store.find? (idText 0) = some 0 := by
    show (begun.store.setStorage storage).find? (idText 0) = some 0
    rw [find?, setStorage, registered]
    decide
  exact stay.asked_at_rest isIdle_revised (call_renewal _) found finds lasts length_revised

theorem stay_made (read : Making.read storage true = .ok now)
    (lasts : stays 1 60 (((revised storage).begin (now.establish 1)).2.step machine) = true) :
    ∃ more, Stay hasty 2 1 now [] more [2] (madeWith storage now) := by
  obtain ⟨steps, stay⟩ := stay_revised storage
  have count : (revised storage).store.sessions.length = 1 := congrArg Overview.made overview_begun
  have made := Stay.opens_as_read stay.reachable (World.noTurn_of_isIdle isIdle_revised) room_begun.1
    call_settledCreation read
  rw [count, length_revised] at made
  obtain ⟨more, ran⟩ := made.drain lasts
  exact ⟨_, ran⟩

end Revised

/-- The storage when Italian was chosen as well. -/
def italian : Storage :=
  { hasty with
    files := [("data", .folder [("config.json", .file (.text
      "\x7b\"pacing\": \"fast\", \"language\": \"it\"\x7d"))])] }

/-- What is made of it. -/
def inItalian : Making := ⟨none, none, { language := .italian, pacing := .fast }, true⟩

theorem read_italian : Making.read italian true = .ok inItalian := by cbv

theorem lasts_italian :
    stays 0 60 ((revised italian).begin (program (.restart (idText 0) true))).2 = true
      ∧ stays 1 60 (((revised italian).begin (inItalian.establish 1)).2.step machine) = true := by
  constructor <;> cbv

theorem overview_restartedWith_italian :
    overview (restartedWith italian) =
      { idle := true
        owners := [none, some (0, .text), none, some (0, .text)]
        unended := [false, false, false, false]
        made := 1
        registered := [0]
        waiting := [] } := by cbv

theorem overview_madeWith_italian :
    overview (madeWith italian inItalian) =
      { idle := true
        owners := [none, some (0, .text), none, some (1, .text)]
        unended := [false, false, false, false]
        made := 2
        registered := [0, 1]
        waiting := [] } := by cbv

theorem answered_restartedWith_italian : ((restartedWith italian).outcome? 2).isSome = true := by cbv

theorem leaves_italian :
    stays 0 40 (leaves 0 (restartedWith italian)) = true
      ∧ stays 1 40 (leaves 1 (madeWith italian inItalian)) = true
      ∧ ((leaves 0 (restartedWith italian)).drain machine 40).isIdle = true
      ∧ ((leaves 1 (madeWith italian inItalian)).drain machine 40).isIdle = true := by
  refine ⟨?_, ?_, ?_, ?_⟩ <;> cbv

theorem stay_restarted_italian :
    ∃ more, Stay hasty 2 0 hastily
      [(.atRest, .asked (.leave false)), (.atRest, .asked (.restart (.ok inItalian.preferences) true))] more [4, 2, 0]
      ((leaves 0 (restartedWith italian)).drain machine 40) := by
  obtain ⟨steps, stay⟩ := stay_restarted (Making.preferences_of_read read_italian) lasts_italian.1
  have seen := overview_restartedWith_italian
  simp only [overview, Overview.mk.injEq] at seen
  obtain ⟨idle, owners, -, -, registered, -⟩ := seen
  have count : (restartedWith italian).tasks.length = 4 := by rw [← World.length_owners, owners]; rfl
  have found : (restartedWith italian).store.find? (idText 0) = some 0 := by
    rw [find?, registered]
    decide
  exact stay.left idle call_departure found leaves_italian.1 count

theorem stay_made_italian :
    ∃ more, Stay hasty 2 1 inItalian [(.atRest, .asked (.leave false))] more [4, 2]
      ((leaves 1 (madeWith italian inItalian)).drain machine 40) := by
  obtain ⟨steps, stay⟩ := stay_made read_italian lasts_italian.2
  have seen := overview_madeWith_italian
  simp only [overview, Overview.mk.injEq] at seen
  obtain ⟨idle, owners, -, -, registered, -⟩ := seen
  have count : (madeWith italian inItalian).tasks.length = 4 := by rw [← World.length_owners, owners]; rfl
  have found : (madeWith italian inItalian).store.find? (idText 1) = some 1 := by
    rw [find?, registered]
    decide
  exact stay.left idle call_secondDeparture found leaves_italian.2.1 count

/-- A play-through that is restarted after Italian was chosen leaves its text scene as one does that was made
instead. -/
theorem renewed_in_italian :
    ∃ steps answering lasting others,
      Stay hasty 2 0 hastily [] steps [0] (revised italian)
        ∧ (∀ answer ∈ answered [0] (revised italian), answer.isSome = true)
        ∧ Making.read (revised italian).store.storage true = .ok inItalian
        ∧ Stay hasty 2 0 hastily [(.atRest, .asked (.restart (.ok inItalian.preferences) true))] answering [2, 0]
          (restartedWith italian)
        ∧ ((restartedWith italian).outcome? 2).isSome = true
        ∧ Stay hasty 2 0 hastily
          [(.atRest, .asked (.leave false)), (.atRest, .asked (.restart (.ok inItalian.preferences) true))] lasting
          [4, 2, 0] ((leaves 0 (restartedWith italian)).drain machine 40)
        ∧ Stay hasty 2 1 inItalian [(.atRest, .asked (.leave false))] others [4, 2]
          ((leaves 1 (madeWith italian inItalian)).drain machine 40)
        ∧ Succeeds 0 1 [4, 2, 0] [4, 2] ((leaves 0 (restartedWith italian)).drain machine 40)
          ((leaves 1 (madeWith italian inItalian)).drain machine 40)
        ∧ Renewed 0 1 [4, 2, 0] [4, 2] ((leaves 0 (restartedWith italian)).drain machine 40)
          ((leaves 1 (madeWith italian inItalian)).drain machine 40) := by
  obtain ⟨steps, stay⟩ := stay_revised italian
  obtain ⟨answering, restarted⟩ := stay_restarted (Making.preferences_of_read read_italian) lasts_italian.1
  obtain ⟨lasting, run⟩ := stay_restarted_italian
  obtain ⟨others, new⟩ := stay_made_italian
  have settled : ∀ answer ∈ answered [0] (revised italian), answer.isSome = true := by
    intro answer member
    rw [List.mem_singleton.mp member]
    exact answered_begun
  obtain ⟨outcome, responded⟩ := Option.isSome_iff_exists.mp answered_restartedWith_italian
  have kept : Pace.atRest.Kept steps (Resting 0 [0] (revised italian)) := resting_of_isIdle isIdle_revised
  have nothing : ∀ item ∈ ([] : List (Pace × Occurrence)), ∃ position, item.2 = .released position :=
    fun _ member => absurd member List.not_mem_nil
  obtain ⟨lead, since, before, split, later⟩ :=
    stay.renewed_unless_rewritten settled kept read_italian ⟨rfl, rfl⟩ nothing restarted responded
  obtain ⟨noneSince, rfl⟩ := List.append_eq_nil_iff.mp split.symm
  cases since with
  | cons item since => cases noneSince
  | nil =>
      obtain ⟨succeeds, same⟩ := later [(.atRest, .asked (.leave false))] run new
      exact ⟨steps, answering, lasting, others, stay, settled, read_italian, restarted, answered_restartedWith_italian,
        run, new, succeeds,
        same (.inr ⟨resting_of_isIdle leaves_italian.2.2.1, resting_of_isIdle leaves_italian.2.2.2⟩)⟩

/-- The storage when a text scene with a node of no known kind was written. -/
def rewritten : Storage :=
  { hasty with
    files := [("data", .folder
      [("config.json", .file (.text "\x7b\"pacing\": \"fast\"\x7d")),
        ("scenes", .folder [("text_scene_01.json", .file (.text
          "\x7b\"chapter\": 1, \"scene_id\": \"q\", \"scene_type\": \"t\", \"nodes\": [\x7b\"type\": \"x\"\x7d]\x7d"))])])] }

/-- What is made of it. -/
def inHaste : Making :=
  ⟨some ⟨1, "q", "t", [], [.foreign ⟨"", "x", []⟩]⟩, none, { language := .english, pacing := .fast }, true⟩

theorem read_rewritten : Making.read rewritten true = .ok inHaste := by cbv

theorem lasts_rewritten :
    stays 0 60 ((revised rewritten).begin (program (.restart (idText 0) true))).2 = true
      ∧ stays 1 60 (((revised rewritten).begin (inHaste.establish 1)).2.step machine) = true := by
  constructor <;> cbv

/-- The place in the text scene that a request was answered. -/
def textPlace? (world : Setting) (task : TaskId) : Option Int :=
  match world.outcome? task with
  | some (.finished (some (.ok (.session _ snapshot)))) => some snapshot.text.nodeIndex
  | _ => none

/-- Whoever answers as another one answers the same place. -/
theorem Succeeds.textPlace_eq {id other : SessionId} {requests others : List TaskId} {world elsewhere : Setting}
    {task twin : TaskId} (succeeds : Succeeds id other (task :: requests) (twin :: others) world elsewhere)
    {place also : Int} (told : textPlace? world task = some place) (alsoTold : textPlace? elsewhere twin = some also) :
    also = place := by
  have shown : ∀ {world : Setting} {task : TaskId} {place : Int}, textPlace? world task = some place →
      ∃ id snapshot, world.outcome? task = some (.finished (some (.ok (.session id snapshot))))
        ∧ snapshot.text.nodeIndex = place := by
    intro world task place told
    unfold textPlace? at told
    split at told
    · next id snapshot isOver => exact ⟨id, snapshot, isOver, Option.some.inj told⟩
    · cases told
  obtain ⟨_, snapshot, isOver, rfl⟩ := shown told
  obtain ⟨_, alsoSnapshot, alsoOver, rfl⟩ := shown alsoTold
  have same := succeeds.answers 0 _ _ (congrArg some isOver) (congrArg some alsoOver)
  cases same
  rfl

theorem textPlace_rewritten :
    textPlace? (restartedWith rewritten) 2 = some 0 ∧ textPlace? (madeWith rewritten inHaste) 2 = some 1 := by
  constructor <;> cbv

/-- Where another text scene would be read, a play-through that is restarted answers otherwise than one that is
made instead. -/
theorem not_renewed_when_rewritten :
    ∃ steps more others,
      Stay hasty 2 0 hastily [] steps [0] (revised rewritten) ∧ (revised rewritten).isIdle = true
        ∧ Making.read (revised rewritten).store.storage true = .ok inHaste
        ∧ Stay hasty 2 0 hastily [(.atRest, .asked (.restart (.ok inHaste.preferences) true))] more [2, 0]
          (restartedWith rewritten)
        ∧ Stay hasty 2 1 inHaste [] others [2] (madeWith rewritten inHaste)
        ∧ ¬Succeeds 0 1 [2, 0] [2] (restartedWith rewritten) (madeWith rewritten inHaste) := by
  obtain ⟨steps, stay⟩ := stay_revised rewritten
  obtain ⟨more, restarted⟩ := stay_restarted (Making.preferences_of_read read_rewritten) lasts_rewritten.1
  obtain ⟨others, made⟩ := stay_made read_rewritten lasts_rewritten.2
  refine ⟨steps, more, others, stay, isIdle_revised, read_rewritten, restarted, made, fun succeeds => ?_⟩
  have same := succeeds.textPlace_eq textPlace_rewritten.1 textPlace_rewritten.2
  cases same

end Playthrough.Server
