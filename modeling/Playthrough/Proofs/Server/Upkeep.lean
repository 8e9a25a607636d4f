import Playthrough.Proofs.Server.Capacity
import Playthrough.Proofs.Server.Recency
import Playthrough.Proofs.Task.Clearance

/-!
Contract: what a request that nobody overlaps makes of the registry.

Owns: servers in order (`Server.Tidy`), the terms on which such a request acts (`Server.keeping`), and that
every request upholds them.

Does not own: what follows for a whole history of requests.

A request does to the registry what follows from its outcome. Drivers leave the registry alone, so that it
is after a wait as it was before. Whoever is taken out of the registry is closed at once: all three of its
drivers are cleared before the request ends, and no other play-through is given anything to play.
-/

namespace Playthrough.Server

/-! ## Servers in order -/

/-- Every registered play-through was made, is registered once, and there are no more than there may be. -/
structure Tidy (limit : Nat) (server : Server) : Prop where
  bound : server.limit = limit
  distinct : server.registry.Nodup
  made : ∀ id ∈ server.registry, id < server.sessions.length
  room : server.registry.length ≤ limit

/-- The same play-throughs are there, and the same ones are registered. -/
structure Alike (before after : Server) : Prop where
  registry : after.registry = before.registry
  count : after.sessions.length = before.sessions.length

section Orders

variable {limit : Nat} {server before between after : Server} {id : SessionId}

theorem Alike.refl (server : Server) : Alike server server := ⟨rfl, rfl⟩

theorem Alike.trans (former : Alike before between) (latter : Alike between after) : Alike before after :=
  ⟨latter.registry.trans former.registry, latter.count.trans former.count⟩

theorem SameBut.alike (same : SameBut id before after) : Alike before after := ⟨same.registry, same.count⟩

namespace Tidy

theorem initial (storage : Storage) (limit : Nat) : Tidy limit (.initial storage limit) :=
  ⟨rfl, .nil, nofun, Nat.zero_le _⟩

theorem of_alike (tidy : Tidy limit before) (alike : Alike before after) (same : after.limit = before.limit) :
    Tidy limit after where
  bound := same.trans tidy.bound
  distinct := alike.registry ▸ tidy.distinct
  made id inside := by
    rw [alike.registry] at inside
    rw [alike.count]
    exact tidy.made id inside
  room := alike.registry ▸ tidy.room

theorem of_sameBut (tidy : Tidy limit before) (same : SameBut id before after) : Tidy limit after :=
  tidy.of_alike same.alike same.limit

theorem unregister (tidy : Tidy limit server) (id : SessionId) : Tidy limit (server.unregister id) where
  bound := tidy.bound
  distinct := tidy.distinct.filter _
  made other inside := tidy.made other (List.mem_of_mem_filter inside)
  room := Nat.le_trans (List.length_filter_le _ _) tidy.room

theorem touch (tidy : Tidy limit server) (inside : id ∈ server.registry) : Tidy limit (server.touch id) where
  bound := tidy.bound
  distinct := by
    refine (tidy.distinct.filter _).append (List.nodup_singleton id) ?_
    simp [List.disjoint_singleton]
  made other there := tidy.made other ((mem_registry_touch inside).mp there)
  room := Nat.le_trans (length_registry_touch_le inside) tidy.room

theorem register (tidy : Tidy limit server) (session : Session) (room : server.registry.length < limit) :
    Tidy limit (server.register session) where
  bound := tidy.bound
  distinct := by
    refine tidy.distinct.append (List.nodup_singleton _) ?_
    rw [List.disjoint_singleton]
    exact fun inside => absurd (tidy.made _ inside) (Nat.lt_irrefl _)
  made id inside := by
    simp only [registry_register, List.mem_append, List.mem_singleton] at inside
    simp only [Server.register, List.length_append, List.length_singleton]
    rcases inside with there | rfl
    · exact Nat.lt_succ_of_lt (tidy.made id there)
    · exact Nat.lt_succ_self _
  room := by
    rw [registry_register, List.length_append, List.length_singleton]
    exact room

end Tidy

end Orders

/-! ## Terms -/

/-- Making room drops the least recently used play-throughs, and stops them. -/
structure Evicts (limit : Nat) (known : DriverId → Prop) (before : Server) (later : DriverId → Prop)
    (after : Server) : Prop where
  registry : after.registry = before.registry.drop (before.registry.length + 1 - limit)
  count : after.sessions.length = before.sessions.length
  knows : ∀ driver, known driver → later driver
  stopped : ∀ driver, driver.1 ∈ before.registry → driver.1 ∉ after.registry → later driver

/-- A request that found the play-throughs in the given order, when so many had been made, has ended: what
it did to the registry is what follows from its answer, and whoever is not registered is known to be
cleared. -/
structure Settled (limit : Nat) (order : List SessionId) (count : Nat) (request : Request)
    (answer : Option Reply) (known : DriverId → Prop) (server : Server) : Prop where
  registry : server.registry =
    (deedsOf limit order request (.finished answer)).foldl (fun order deed => deed.change order) order
  grows : count ≤ server.sessions.length
  stopped : ∀ driver, driver.1 ∉ server.registry → known driver
  refused : ∀ response, answer = some (.ok response) → response.status = 404 ∨ response.status = 422 →
    deedsOf limit order request (.finished answer) = []
  made : ∀ wait response, request.call = .ok (.create wait) → answer = some (.ok response) →
    count < server.sessions.length ∧ ∃ snapshot, response = .session count snapshot

/-- The terms of a request: tasks are given to the registered play-throughs and to new ones only. -/
def keeping (limit : Nat) (order : List SessionId) (count : Nat) (request : Request) :
    Pact Server DriverId Procedure Reply (DriverId → Prop) where
  sane := Tidy limit
  drift := Alike
  calls _ := Evicts limit
  lends driver := driver.1 ∈ order ∨ count ≤ driver.1
  spawned driver known other := known other ∧ other.1 ≠ driver.1
  cancelled driver known other :=
    known other ∨ other = driver ∧ (driver.2 = .epilogue → known (driver.1, .encounter))
  good := Settled limit order count request

/-- An epilogue is handed over to by the encounter of its play-through. -/
theorem encounter_of_hands {above driver : DriverId} (hands : manners.hands (some above) driver) :
    above = (driver.1, .encounter) ∧ driver.2 = .epilogue := by
  rcases hands with impossible | ⟨id, same, rfl⟩
  · cases impossible
  · cases same
    exact ⟨rfl, rfl⟩

section Terms

variable {limit count : Nat} {order : List SessionId} {request : Request}

theorem Settled.of_alike {answer : Option Reply} {known : DriverId → Prop} {before after : Server}
    (settled : Settled limit order count request answer known before) (alike : Alike before after) :
    Settled limit order count request answer known after := by
  obtain ⟨registry, grows, stopped, refused, made⟩ := settled
  refine ⟨alike.registry.trans registry, alike.count ▸ grows, ?_, refused, ?_⟩
  · rw [alike.registry]
    exact stopped
  · rw [alike.count]
    exact made

theorem clears_keeping : (keeping limit order count request).Clears manners where
  rests := Alike.refl
  trans := Alike.trans
  writes writes server tidy := ⟨(writes _ rfl server).alike, tidy.of_sameBut (writes _ rfl server)⟩
  lasts := Settled.of_alike
  spawned := fun ⟨known, different⟩ => ⟨known, fun same => different (congrArg Prod.fst same)⟩
  spawned_keeps := fun lends spared known =>
    ⟨known, fun same => spared (by simpa only [keeping, same] using lends)⟩
  spawned_closed driver known closed other above := by
    rintro ⟨there, different⟩ hands
    refine ⟨closed other above there hands, ?_⟩
    rw [(encounter_of_hands hands).1]
    exact different
  cancelled := fun cancelled => cancelled.imp id And.left
  cancelled_keeps _ _ _ known := .inl known
  cancelled_above driver known other above closed cancelled hands := by
    rcases cancelled with there | ⟨rfl, knows⟩
    · exact closed other above there hands
    · obtain ⟨rfl, last⟩ := encounter_of_hands hands
      exact knows last
  cancelled_closed driver known closed other above := by
    rintro (there | ⟨rfl, knows⟩) hands
    · exact .inl (closed other above there hands)
    · obtain ⟨rfl, last⟩ := encounter_of_hands hands
      exact .inl (knows last)

end Terms

/-! ## Work on one play-through -/

/-- While a request works on a play-through the registry is as it has left it. -/
structure Intact (limit : Nat) (registry : List SessionId) (number : Nat) (known : DriverId → Prop)
    (server : Server) : Prop where
  tidy : Tidy limit server
  registered : server.registry = registry
  made : server.sessions.length = number
  stopped : ∀ driver, driver.1 ∉ registry → known driver

section Work

variable {limit count number : Nat} {order registry : List SessionId} {request : Request} {id : SessionId}
variable {known : DriverId → Prop} {server reached : Server} {answer : Option Reply}

theorem Intact.of_alike (intact : Intact limit registry number known server) (alike : Alike server reached)
    (tidy : Tidy limit reached) : Intact limit registry number known reached :=
  ⟨tidy, alike.registry.trans intact.registered, alike.count.trans intact.made, intact.stopped⟩

/-- Whatever is done to a registered play-through leaves the registry alone. -/
theorem composes_keeping (inside : id ∈ registry) (lends : id ∈ order ∨ count ≤ id) :
    (seat id).Composes fun program : Plan => ∀ known server, Intact limit registry number known server →
      program.Upholds (keeping limit order count request) known server where
  look _ goesOn known server intact := goesOn server known server intact
  update _ _ alters goesOn known server intact := by
    have same := SameBut.of_alters (alters server)
    have tidy := intact.tidy.of_sameBut same
    exact ⟨tidy, goesOn _ _ (intact.of_alike same.alike tidy)⟩
  cancel _ _ goesOn known server intact reached tidy alike := by
    refine goesOn _ _ { intact.of_alike alike tidy with stopped := fun driver absent => ?_ }
    exact .inl (intact.stopped driver absent)
  settle goesOn known server intact reached tidy alike := goesOn _ _ (intact.of_alike alike tidy)
  spawn _ goesOn known server intact := by
    refine ⟨lends, goesOn _ _ { intact with stopped := fun driver absent => ?_ }⟩
    exact ⟨intact.stopped driver absent, ne_of_mem_of_not_mem inside absent |>.symm⟩

/-- After a play-through was closed all of its drivers are known to be cleared. -/
theorem upholds_closing {next : Plan}
    (goesOn : ∀ later reached, Tidy limit reached → Alike server reached →
      (∀ driver, known driver → later driver) → (∀ role, later (id, role)) →
      next.Upholds (keeping limit order count request) later reached) :
    ((seat id).close next).Upholds (keeping limit order count request) known server := by
  intro textClosed _ former encounterClosed _ latter closed tidy last
  refine goesOn _ closed tidy ((former.trans latter).trans last) ?_ ?_
  · exact fun _ before => .inl (.inl (.inl before))
  · intro role
    cases role with
    | text => exact .inl (.inl (.inr ⟨rfl, nofun⟩))
    | encounter => exact .inl (.inr ⟨rfl, nofun⟩)
    | epilogue => exact .inr ⟨rfl, fun _ => .inr ⟨rfl, nofun⟩⟩

end Work

/-! ## Making room -/

section Room

variable {limit count : Nat} {order : List SessionId} {request : Request} {id : SessionId}

/-- After the least recently used play-through the others make room. -/
theorem Evicts.after {oldest : SessionId} {rest : List SessionId} {known later last : DriverId → Prop}
    {server reached final : Server} (registered : server.registry = oldest :: rest)
    (tidy : Tidy limit server) (full : server.isFull = true) (alike : Alike (server.unregister oldest) reached)
    (knows : ∀ driver, known driver → later driver) (closed : ∀ role, later (oldest, role))
    (evicts : Evicts limit later reached last final) : Evicts limit known server last final := by
  have distinct : (oldest :: rest).Nodup := registered ▸ tidy.distinct
  have others : reached.registry = rest := by
    rw [alike.registry]
    show server.registry.filter _ = rest
    rw [registered]
    exact Deed.change_left_head distinct
  have enough : limit ≤ rest.length + 1 := by
    have full : server.limit ≤ server.registry.length := by simpa [isFull] using full
    rwa [tidy.bound, registered] at full
  have remains := evicts.registry
  rw [others] at remains
  refine ⟨?_, evicts.count.trans alike.count, fun driver before => evicts.knows _ (knows _ before), ?_⟩
  · have counts : rest.length + 1 + 1 - limit = rest.length + 1 - limit + 1 := by omega
    rw [remains, registered, List.length_cons, counts, List.drop_succ_cons]
  · rintro ⟨other, role⟩ inside absent
    rw [registered] at inside
    rcases List.mem_cons.mp inside with rfl | inside
    · exact evicts.knows _ (closed role)
    · exact evicts.stopped _ (by rwa [others]) absent

/-- Where there is room, or nobody, nobody is evicted. -/
theorem Evicts.none {known : DriverId → Prop} {server : Server} (tidy : Tidy limit server)
    (roomy : server.isFull = true → server.registry = []) : Evicts limit known server known server := by
  have remains : server.registry.drop (server.registry.length + 1 - limit) = server.registry := by
    cases full : server.isFull with
    | true => simp [roomy full]
    | false =>
        have spare : server.registry.length < limit := by
          rw [← tidy.bound]
          simpa [isFull] using full
        rw [Nat.sub_eq_zero_of_le spare, List.drop_zero]
  exact ⟨remains.symm, rfl, fun _ before => before, fun driver inside absent => absurd inside absent⟩

/-- Making room does what these terms say of it. -/
theorem honours_keeping : machine.Honours manners (keeping limit order count request) := by
  rintro procedure (⟨-, rfl⟩ | ⟨_, _, impossible, -⟩) next known server tidy goesOn
  · refine upholds_evictProgram (fun oldest rest full registered => ?_) fun roomy =>
      goesOn known server tidy (.none tidy roomy)
    refine ⟨tidy.unregister oldest, upholds_closing fun later reached tidyReached alike knows closed => ?_⟩
    intro last final tidyFinal evicts
    exact goesOn last final tidyFinal (evicts.after registered tidy full alike knows closed)
  · cases impossible

end Room

/-! ## Ends of requests -/

/-- Neither was something missing nor was the request out of order. -/
def Fair (answer : Option Reply) : Prop :=
  ∀ response, answer = some (.ok response) → response.status ≠ 404 ∧ response.status ≠ 422

theorem fair_response {response : Response} (other : response.status ≠ 404 ∧ response.status ≠ 422) :
    Fair (some (.ok response)) := by
  rintro _ ⟨⟩
  exact other

theorem fair_error (fault : Fault) : Fair (some (.error fault)) := by
  rintro response ⟨⟩

section Requests

variable {limit count : Nat} {order : List SessionId} {request : Request} {id : SessionId}
variable {known : DriverId → Prop} {server : Server} {answer : Option Reply} {call : Call} {name : String}

/-- A request that does nothing has ended. -/
theorem settled_idle (idle : deedsOf limit order request (.finished answer) = [])
    (makes : ∀ wait response, request.call = .ok (.create wait) → answer ≠ some (.ok response))
    (intact : Intact limit order count known server) :
    Settled limit order count request answer known server where
  registry := by
    rw [idle]
    exact intact.registered
  grows := Nat.le_of_eq intact.made.symm
  stopped := by
    rw [intact.registered]
    exact intact.stopped
  refused _ _ _ := idle
  made wait response asked answered := absurd answered (makes wait response asked)

/-- A request that found a play-through has ended. -/
theorem settled_found (asked : request.call = .ok call) (subject : call.subject? = some name)
    (found : (order.find? fun id => idText id == name) = some id) (fair : Fair answer)
    (intact : Intact limit ((call.deed id).change order) count known server) :
    Settled limit order count request answer known server where
  registry := by
    rw [deedsOf_of_subject asked subject, found]
    exact intact.registered
  grows := Nat.le_of_eq intact.made.symm
  stopped := by
    rw [intact.registered]
    exact intact.stopped
  refused response answered bad := by
    obtain ⟨there, inOrder⟩ := fair response answered
    exact absurd bad (not_or.mpr ⟨there, inOrder⟩)
  made wait response making := by
    cases asked.symm.trans making
    cases subject

/-- Whoever works on a play-through that is registered ends with it. -/
theorem keeps_conclude {registry : List SessionId} {number : Nat} (inside : id ∈ registry)
    (lends : id ∈ order ∨ count ≤ id)
    (settles : ∀ snapshot known server, Intact limit registry number known server →
      Settled limit order count request (some (.ok (.session id snapshot))) known server)
    (wait : Bool) (known : DriverId → Prop) (server : Server)
    (intact : Intact limit registry number known server) :
    (conclude id wait).Upholds (keeping limit order count request) known server := by
  cases wait with
  | false => exact settles _ _ _ intact
  | true =>
      refine @(composes_keeping inside lends).settle _ ?_ known server intact
      exact fun _ _ intact => settles _ _ _ intact

/-- The order after a play-through was used. -/
abbrev refreshed (order : List SessionId) (id : SessionId) : List SessionId := (Deed.used id).change order

/-- What a request may rely on that has found a play-through and does not take it away. -/
structure Found (limit : Nat) (order : List SessionId) (count : Nat) (request : Request) (id : SessionId) :
    Prop where
  settles : ∀ {answer} known server, Fair answer → Intact limit (refreshed order id) count known server →
    Settled limit order count request answer known server
  composes : (seat id).Composes fun program : Plan => ∀ known server,
    Intact limit (refreshed order id) count known server →
      program.Upholds (keeping limit order count request) known server
  concludes : ∀ wait known server, Intact limit (refreshed order id) count known server →
    (conclude id wait).Upholds (keeping limit order count request) known server

theorem found_of_find? (asked : request.call = .ok call) (subject : call.subject? = some name)
    (uses : ∀ id, call.deed id = .used id) (found : (order.find? fun id => idText id == name) = some id) :
    Found limit order count request id := by
  have inside : id ∈ order := List.mem_of_find?_eq_some found
  have used : id ∈ refreshed order id := by simp [Deed.change]
  have settles : ∀ {answer} known server, Fair answer → Intact limit (refreshed order id) count known server →
      Settled limit order count request answer known server := by
    intro answer known server fair intact
    exact settled_found asked subject found fair (by rwa [uses])
  refine ⟨settles, composes_keeping used (.inl inside), keeps_conclude used (.inl inside) ?_⟩
  exact fun snapshot known server => settles known server (fair_response
    ⟨show 200 ≠ 404 by decide, show 200 ≠ 422 by decide⟩)

/-- Using a registered play-through keeps everything in order. -/
theorem intact_touch (intact : Intact limit order count known server) (inside : id ∈ order) :
    Intact limit (refreshed order id) count known (server.touch id) := by
  have there : id ∈ server.registry := by rwa [intact.registered]
  refine ⟨intact.tidy.touch there, ?_, intact.made, fun driver absent => ?_⟩
  · show server.registry.filter _ ++ [id] = _
    rw [intact.registered]
    rfl
  · refine intact.stopped driver fun registered => absent ?_
    by_cases same : driver.1 = id <;> simp [Deed.change, same, registered]

/-- A request whose play-through is not found has ended. -/
theorem settled_missing (asked : request.call = .ok call) (subject : call.subject? = some name)
    (missing : (order.find? fun id => idText id == name) = none)
    (intact : Intact limit order count known server) :
    Settled limit order count request answer known server := by
  refine settled_idle ?_ ?_ intact
  · rw [deedsOf_of_subject asked subject, missing]
    rfl
  · intro wait response making
    cases asked.symm.trans making
    cases subject

theorem keeps_withSession {next : SessionId → Plan} (asked : request.call = .ok call)
    (subject : call.subject? = some name) (uses : ∀ id, call.deed id = .used id)
    (intact : Intact limit order count known server)
    (goesOn : ∀ id, Found limit order count request id → ∀ known server,
      Intact limit (refreshed order id) count known server →
        (next id).Upholds (keeping limit order count request) known server) :
    (withSession name next).Upholds (keeping limit order count request) known server := by
  refine upholds_withSession (fun missing => ?_) fun id found => ?_
  · rw [find?, intact.registered] at missing
    exact settled_missing asked subject missing intact
  · rw [find?, intact.registered] at found
    have touched := intact_touch intact (List.mem_of_find?_eq_some found)
    exact ⟨touched.tidy, goesOn id (found_of_find? asked subject uses found) known _ touched⟩

/-! ## Requests -/

/-- A play-through is taken out of the registry, and closed. -/
theorem keeps_remove (asked : request.call = .ok (.remove name))
    (intact : Intact limit order count known server) :
    (remove name).Upholds (keeping limit order count request) known server := by
  refine upholds_remove (fun missing => ?_) fun id found => ?_
  · rw [find?, intact.registered] at missing
    exact settled_missing asked rfl missing intact
  · rw [find?, intact.registered] at found
    have tidy := intact.tidy.unregister id
    refine ⟨tidy, upholds_closing fun later reached tidyReached alike knows closed => ?_⟩
    refine settled_found asked rfl found (fair_response ⟨by decide, by decide⟩) ⟨tidyReached, ?_, ?_, ?_⟩
    · rw [alike.registry]
      show server.registry.filter _ = _
      rw [intact.registered]
      rfl
    · exact alike.count.trans intact.made
    · rintro ⟨other, role⟩ absent
      by_cases same : other = id
      · rw [same]
        exact closed role
      · refine knows _ (intact.stopped _ fun inside => absent ?_)
        simpa [Call.deed, Deed.change, same] using inside

/-- A play-through is made where there is room. -/
theorem keeps_register {textScene : Option TextScene} {encounterScene : Option EncounterScene}
    {preferences : Preferences} {wait : Bool} (asked : request.call = .ok (.create wait))
    (tidy : Tidy limit server) (room : server.registry.length < limit) (kept : server.registry = order.drop (order.length + 1 - limit))
    (made : server.sessions.length = count) (few : order.length ≤ limit) (distinct : order.Nodup)
    (stopped : ∀ driver, driver.1 ∉ server.registry → known driver) :
    (Program.update (register (.initial textScene encounterScene preferences))
      ((seat server.sessions.length).begin (conclude server.sessions.length wait))).Upholds
        (keeping limit order count request) known server := by
  have registered := tidy.register (.initial textScene encounterScene preferences) room
  have inside : count ∈ order.drop (order.length + 1 - limit) ++ [count] := by simp
  have settles : ∀ snapshot known server,
      Intact limit (order.drop (order.length + 1 - limit) ++ [count]) (count + 1) known server →
        Settled limit order count request (some (.ok (.session count snapshot))) known server := by
    intro snapshot known server intact
    have deeds : deedsOf limit order request (.finished (some (.ok (.session count snapshot)))) =
        deedsOfMaking limit order count := by simp only [deedsOf, asked]
    refine ⟨?_, ?_, ?_, ?_, ?_⟩
    · rw [deeds, foldl_deedsOfMaking few distinct]
      exact intact.registered
    · rw [intact.made]
      exact Nat.le_succ count
    · rw [intact.registered]
      exact intact.stopped
    · rintro response ⟨⟩ bad
      rcases bad with bad | bad <;> cases bad
    · rintro wait response - ⟨⟩
      exact ⟨by rw [intact.made]; exact Nat.lt_succ_self count, snapshot, rfl⟩
  have intact : Intact limit (order.drop (order.length + 1 - limit) ++ [count]) (count + 1) known
      (server.register (.initial textScene encounterScene preferences)) := by
    refine ⟨registered, ?_, ?_, fun driver absent => stopped driver fun there => absent ?_⟩
    · rw [registry_register, kept, made]
    · simp [register, made]
    · rw [← kept]
      exact List.mem_append_left _ there
  rw [made]
  have composes :=
    @composes_keeping limit count (count + 1) order _ request count inside (.inr (Nat.le_refl count))
  exact ⟨registered, composes.begin (keeps_conclude inside (.inr (Nat.le_refl count)) settles wait) _ _ intact⟩

/-- Making a play-through ends with it, or with nothing done. -/
theorem keeps_create {wait : Bool} (asked : request.call = .ok (.create wait))
    (intact : Intact limit order count known server) :
    (create wait).Upholds (keeping limit order count request) known server := by
  have idle : ∀ fault, deedsOf limit order request (.finished (some (.error fault))) = [] :=
    fun fault => by simp only [deedsOf, asked]
  have fails : ∀ fault, Settled limit order count request (some (.error fault)) known server :=
    fun fault => settled_idle (idle fault) (fun _ _ _ same => by cases same) intact
  refine upholds_ask fails fun settings => upholds_ask fails fun textScene =>
    upholds_ask fails fun encounterScene => upholds_ask fails fun preferences => ?_
  intro later reached tidy evicts
  have few : order.length ≤ limit := intact.registered ▸ intact.tidy.room
  have distinct : order.Nodup := intact.registered ▸ intact.tidy.distinct
  have kept := evicts.registry
  rw [intact.registered] at kept
  show Program.Upholds _ (if reached.isFull then _ else _) _ _
  split
  · next full =>
      -- only where there may be nobody at all
      have full : reached.limit ≤ reached.registry.length := by simpa [isFull] using full
      have empty : order = [] := by
        rw [tidy.bound, kept, List.length_drop] at full
        exact List.eq_nil_of_length_eq_zero (by omega)
      refine settled_idle (idle _) (fun _ _ _ same => by cases same) ⟨tidy, ?_, ?_, ?_⟩
      · rw [kept, empty, List.drop_nil]
      · exact evicts.count.trans intact.made
      · exact fun driver absent => evicts.knows driver (intact.stopped driver absent)
  · next room =>
      have spare : reached.registry.length < limit := by
        rw [← tidy.bound]
        simpa [isFull] using room
      refine keeps_register asked tidy spare kept (evicts.count.trans intact.made) few distinct ?_
      intro driver absent
      by_cases before : driver.1 ∈ order
      · exact evicts.stopped driver (by rwa [intact.registered]) absent
      · exact evicts.knows driver (intact.stopped driver before)

theorem keeps_readScene (asked : request.call = .ok (.readScene name))
    (intact : Intact limit order count known server) :
    (readScene name).Upholds (keeping limit order count request) known server := by
  have settles : ∀ answer, Settled limit order count request answer known server := by
    refine fun answer => settled_idle (deedsOf_of_none asked rfl nofun) ?_ intact
    intro wait response making
    cases asked.symm.trans making
  refine upholds_ask (fun _ => settles _) fun found => ?_
  split <;> exact settles _

theorem keeps_changeSettings {fields : Json.Fields} (asked : request.call = .ok (.changeSettings fields))
    (intact : Intact limit order count known server) :
    (changeSettings fields).Upholds (keeping limit order count request) known server := by
  have settles : ∀ answer server, Intact limit order count known server →
      Settled limit order count request answer known server := by
    refine fun answer server intact => settled_idle (deedsOf_of_none asked rfl nofun) ?_ intact
    intro wait response making
    cases asked.symm.trans making
  refine upholds_changeSettings (fun settings storage _ => ?_) fun answer => settles answer server intact
  have alike : Alike server (server.setStorage storage) := ⟨rfl, rfl⟩
  have tidy := intact.tidy.of_alike alike rfl
  exact ⟨tidy, settles _ _ (intact.of_alike alike tidy)⟩

theorem keeps_program (asked : request.call = .ok call) (intact : Intact limit order count known server) :
    (program call).Upholds (keeping limit order count request) known server := by
  have idles : call.subject? = none → (∀ wait, call ≠ .create wait) →
      ∀ answer, Settled limit order count request answer known server := by
    intro nobody makes answer
    refine settled_idle (deedsOf_of_none asked nobody makes) ?_ intact
    intro wait response making
    cases asked.symm.trans making
    exact absurd rfl (makes wait)
  have refused : ∀ {id : SessionId} {response : Response}, Found limit order count request id →
      response.status = 409 → ∀ known server, Intact limit (refreshed order id) count known server →
        (respond response).Upholds (keeping limit order count request) known server := by
    intro id response found conflict known server intact
    refine found.settles known server (fair_response ?_) intact
    rw [conflict]
    exact ⟨by decide, by decide⟩
  cases call with
  | health => exact idles rfl nofun _
  | readSettings => exact upholds_ask (fun _ => idles rfl nofun _) fun settings => idles rfl nofun _
  | changeSettings fields => exact keeps_changeSettings asked intact
  | listScenes => exact upholds_ask (fun _ => idles rfl nofun _) fun names => idles rfl nofun _
  | readScene name => exact keeps_readScene asked intact
  | create wait => exact keeps_create asked intact
  | observe name wait =>
      exact keeps_withSession asked rfl (fun _ => rfl) intact fun id found => found.concludes wait
  | select name option wait =>
      exact keeps_withSession asked rfl (fun _ => rfl) intact fun id found =>
        found.composes.select option (refused found rfl) (found.concludes wait)
  | leave name wait =>
      exact keeps_withSession asked rfl (fun _ => rfl) intact fun id found =>
        found.composes.triggerTransition (refused found rfl) (found.concludes wait)
  | enter name wait =>
      exact keeps_withSession asked rfl (fun _ => rfl) intact fun id found =>
        found.composes.beginEncounter (refused found rfl) (found.concludes wait)
  | restart name wait =>
      refine keeps_withSession asked rfl (fun _ => rfl) intact fun id found known server touched => ?_
      refine upholds_ask (fun _ => found.settles _ _ (fair_error _) touched) fun preferences => ?_
      exact found.composes.restart _ (found.composes.begin (found.concludes wait)) _ _ touched
  | remove name => exact keeps_remove asked intact

/-- Every request upholds these terms, whatever it asks for. -/
theorem Request.keeps (request : Request) (intact : Intact limit order count known server) :
    request.program.Upholds (keeping limit order count request) known server := by
  unfold Request.program
  split
  · next call asked => exact keeps_program asked intact
  · next response asked =>
      refine settled_idle ?_ ?_ intact
      · simp only [deedsOf, asked]
      · intro wait other making
        cases asked.symm.trans making

end Requests

end Playthrough.Server
