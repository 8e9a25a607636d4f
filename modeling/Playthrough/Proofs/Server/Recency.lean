import Mathlib.Data.List.Dedup
import Playthrough.Proofs.Server.Manners

/-!
Contract: the order of last use.

Owns: what requests do to the registry (`Deed`), the play-throughs that are there after some deeds, in the
order of their last use (`byLastUse`), and the deeds of a request, as they follow from its outcome
(`deedsOf`).

Does not own: that a server keeps this order.

The order is read off the whole history: of every play-through its last use counts, and those that have left
are left out. Each deed changes this order in one simple way.
-/

namespace Playthrough.Server

/-- What is done to the registry. -/
inductive Deed where
  | made (id : SessionId)
  | used (id : SessionId)
  | left (id : SessionId)
deriving DecidableEq, Repr

namespace Deed

/-- The play-through in question. -/
def id : Deed → SessionId
  | made id => id
  | used id => id
  | left id => id

/-- The play-through that is used. -/
def use? : Deed → Option SessionId
  | made id => some id
  | used id => some id
  | left _ => none

/-- What a deed makes of an order. -/
def change : Deed → List SessionId → List SessionId
  | made id, order => order ++ [id]
  | used id, order => (order.filter fun other => other != id) ++ [id]
  | left id, order => order.filter fun other => other != id

/-- A deed can follow others: nothing is made twice, and nothing is used that has left. -/
def Follows : Deed → List Deed → Prop
  | made id, deeds => ∀ deed ∈ deeds, deed.id ≠ id
  | used id, deeds => left id ∉ deeds
  | left _, _ => True

/-- The first one leaves the others. -/
theorem change_left_head {oldest : SessionId} {rest : List SessionId} (distinct : (oldest :: rest).Nodup) :
    (left oldest).change (oldest :: rest) = rest := by
  rw [change, List.filter_cons_of_neg (by simp), List.filter_eq_self]
  intro other inside
  simpa using ne_of_mem_of_not_mem inside (List.nodup_cons.mp distinct).1

theorem id_of_use? {deed : Deed} {id : SessionId} (uses : deed.use? = some id) : deed.id = id := by
  cases deed <;> cases uses <;> rfl

end Deed

/-! ## The order -/

/-- The play-throughs that were used and have not left, the least recently used first. -/
def byLastUse (deeds : List Deed) : List SessionId :=
  (deeds.filterMap Deed.use?).dedup.filter fun id => Deed.left id ∉ deeds

section Order

variable {deeds : List Deed} {deed : Deed} {id : SessionId}

theorem mem_byLastUse : id ∈ byLastUse deeds ↔ (∃ deed ∈ deeds, deed.use? = some id) ∧ .left id ∉ deeds := by
  simp [byLastUse]

theorem nodup_byLastUse (deeds : List Deed) : (byLastUse deeds).Nodup :=
  (List.nodup_dedup _).filter _

/-- Of the occurrences of a value the last one counts. -/
theorem dedup_concat {α : Type} [DecidableEq α] (values : List α) (value : α) :
    (values ++ [value]).dedup = values.dedup.filter (fun other => other != value) ++ [value] := by
  induction values with
  | nil => rfl
  | cons first rest inductionHypothesis =>
      by_cases same : first = value
      · rw [List.cons_append, List.dedup_cons_of_mem (by simp [same]), inductionHypothesis]
        by_cases again : first ∈ rest
        · rw [List.dedup_cons_of_mem again]
        · rw [List.dedup_cons_of_notMem again, List.filter_cons_of_neg (by simp [same])]
      · by_cases again : first ∈ rest
        · rw [List.cons_append, List.dedup_cons_of_mem (by simp [again]), inductionHypothesis,
            List.dedup_cons_of_mem again]
        · rw [List.cons_append, List.dedup_cons_of_notMem (by simp [again, same]), inductionHypothesis,
            List.dedup_cons_of_notMem again, List.filter_cons_of_pos (by simp [same])]
          rfl

/-- Whoever is used comes last. -/
theorem byLastUse_of_use (uses : deed.use? = some id) (stays : .left id ∉ deeds) :
    byLastUse (deeds ++ [deed]) = (byLastUse deeds).filter (fun other => other != id) ++ [id] := by
  have nobody : ∀ other, deed ≠ .left other := by
    rintro other rfl
    cases uses
  have same : ∀ other, Deed.left other ∈ deeds ++ [deed] ↔ Deed.left other ∈ deeds := by
    intro other
    simp [(nobody other).symm]
  have used : (deeds ++ [deed]).filterMap Deed.use? = deeds.filterMap Deed.use? ++ [id] := by
    simp [uses]
  unfold byLastUse
  simp only [used, dedup_concat, same, List.filter_append, List.filter_filter]
  rw [List.filter_cons_of_pos (by simpa using stays), List.filter_nil]
  simp only [Bool.and_comm]

theorem byLastUse_of_left (deeds : List Deed) (id : SessionId) :
    byLastUse (deeds ++ [.left id]) = (byLastUse deeds).filter fun other => other != id := by
  have used : (deeds ++ [Deed.left id]).filterMap Deed.use? = deeds.filterMap Deed.use? := by
    simp [Deed.use?]
  unfold byLastUse
  rw [used, List.filter_filter]
  refine List.filter_congr fun other _ => ?_
  by_cases same : other = id <;> simp [same]

/-- What a deed makes of a history is what it makes of the order. -/
theorem byLastUse_concat (follows : deed.Follows deeds) :
    byLastUse (deeds ++ [deed]) = deed.change (byLastUse deeds) := by
  cases deed with
  | made id =>
      have stays : Deed.left id ∉ deeds := fun left => follows _ left rfl
      have absent : id ∉ byLastUse deeds := by
        intro inside
        obtain ⟨⟨deed, earlier, uses⟩, -⟩ := mem_byLastUse.mp inside
        exact follows deed earlier (Deed.id_of_use? uses)
      rw [byLastUse_of_use rfl stays, List.filter_eq_self.mpr]
      · rfl
      · intro other inside
        simpa using ne_of_mem_of_not_mem inside absent
  | used id => exact byLastUse_of_use rfl follows
  | left id => exact byLastUse_of_left deeds id

/-- Deeds can follow others one after the other. -/
def FollowAll : List Deed → List Deed → Prop
  | _, [] => True
  | deeds, deed :: rest => deed.Follows deeds ∧ FollowAll (deeds ++ [deed]) rest

theorem byLastUse_append {later : List Deed} (follow : FollowAll deeds later) :
    byLastUse (deeds ++ later) = later.foldl (fun order deed => deed.change order) (byLastUse deeds) := by
  induction later generalizing deeds with
  | nil => rw [List.append_nil, List.foldl_nil]
  | cons deed rest inductionHypothesis =>
      obtain ⟨first, others⟩ := follow
      rw [List.append_cons, inductionHypothesis others, byLastUse_concat first, List.foldl_cons]

/-- Only what was made is in the order. -/
theorem id_of_mem_byLastUse (inside : id ∈ byLastUse deeds) : ∃ deed ∈ deeds, deed.id = id := by
  obtain ⟨⟨deed, earlier, uses⟩, -⟩ := mem_byLastUse.mp inside
  exact ⟨deed, earlier, Deed.id_of_use? uses⟩

end Order

/-! ## Requests -/

/-- What a call does to the play-through that it finds. -/
def Call.deed : Call → SessionId → Deed
  | .remove _, id => .left id
  | _, id => .used id

/-- What is done when a play-through is made: where there are as many as there may be, the least recently
used one leaves. -/
def deedsOfMaking (limit : Nat) (order : List SessionId) (id : SessionId) : List Deed :=
  (if limit ≤ order.length then (order.head?.map Deed.left).toList else []) ++ [.made id]

/-- What a request has done with an outcome, when it found the play-throughs in the given order. -/
def deedsOf (limit : Nat) (order : List SessionId) (request : Request) (outcome : Outcome Reply) : List Deed :=
  match request.call with
  | .error _ => []
  | .ok (.create _) =>
      match outcome with
      | .finished (some (.ok (.session id _))) => deedsOfMaking limit order id
      | _ => []
  | .ok call =>
      match call.subject? with
      | some name => ((order.find? fun id => idText id == name).map call.deed).toList
      | none => []

section Requests

variable {limit : Nat} {order : List SessionId} {request : Request} {outcome : Outcome Reply}

/-- Whatever asks for no play-through and makes none does nothing. -/
theorem deedsOf_of_none {call : Call} (asked : request.call = .ok call) (nobody : call.subject? = none)
    (makes : ∀ wait, call ≠ .create wait) : deedsOf limit order request outcome = [] := by
  cases call with
  | create wait => exact absurd rfl (makes wait)
  | _ => simp only [deedsOf, asked, nobody]

theorem deedsOf_of_subject {call : Call} {name : String} (asked : request.call = .ok call)
    (subject : call.subject? = some name) :
    deedsOf limit order request outcome =
      ((order.find? fun id => idText id == name).map call.deed).toList := by
  cases call with
  | create wait => cases subject
  | _ => simp only [deedsOf, asked, subject]

/-- A request does nothing, does something to one play-through that is there, or makes one. -/
theorem deedsOf_cases (limit : Nat) (order : List SessionId) (request : Request) (outcome : Outcome Reply) :
    deedsOf limit order request outcome = []
      ∨ (∃ id ∈ order, deedsOf limit order request outcome = [.used id]
        ∨ deedsOf limit order request outcome = [.left id])
      ∨ ∃ wait id snapshot, request.call = .ok (.create wait)
        ∧ outcome = .finished (some (.ok (.session id snapshot)))
        ∧ deedsOf limit order request outcome = deedsOfMaking limit order id := by
  unfold deedsOf
  split
  · exact .inl rfl
  · next wait asked =>
      split
      · exact .inr (.inr ⟨wait, _, _, asked, rfl, rfl⟩)
      · exact .inl rfl
  · next call makes asked =>
      split
      · next name subject =>
          cases found : order.find? fun id => idText id == name with
          | none => exact .inl rfl
          | some id =>
              refine .inr (.inl ⟨id, List.mem_of_find?_eq_some found, ?_⟩)
              cases call <;> first | exact .inl rfl | exact .inr rfl
      · exact .inl rfl

/-- Where a play-through is made the least recently used one leaves if there is no room, and no other. -/
theorem foldl_deedsOfMaking {id : SessionId} (room : order.length ≤ limit) (distinct : order.Nodup) :
    (deedsOfMaking limit order id).foldl (fun order deed => deed.change order) order =
      order.drop (order.length + 1 - limit) ++ [id] := by
  unfold deedsOfMaking
  split
  · next full =>
      have one : order.length + 1 - limit = 1 := by omega
      rw [one]
      cases order with
      | nil => rfl
      | cons oldest rest =>
          simp only [List.head?_cons, Option.map_some, Option.toList_some, List.foldl_append, List.foldl_cons,
            List.foldl_nil, Deed.change_left_head distinct]
          rfl
  · next spare =>
      have none : order.length + 1 - limit = 0 := by omega
      rw [none]
      rfl

/-- Whoever leaves for a new play-through was there before. -/
theorem id_of_mem_deedsOfMaking {deed : Deed} {id : SessionId} (inside : deed ∈ deedsOfMaking limit order id) :
    deed.id ∈ order ∨ deed.id = id := by
  unfold deedsOfMaking at inside
  rcases List.mem_append.mp inside with leaving | making
  · split at leaving
    · cases order with
      | nil => cases leaving
      | cons oldest rest =>
          rw [List.mem_singleton.mp leaving]
          exact .inl List.mem_cons_self
    · cases leaving
  · rw [List.mem_singleton.mp making]
    exact .inr rfl

/-- A new play-through can be made after whatever was done. -/
theorem followAll_deedsOfMaking {deeds : List Deed} {id : SessionId} (new : ∀ deed ∈ deeds, deed.id ≠ id) :
    FollowAll deeds (deedsOfMaking limit (byLastUse deeds) id) := by
  unfold deedsOfMaking
  split
  · cases order : byLastUse deeds with
    | nil => exact ⟨new, trivial⟩
    | cons oldest rest =>
        have there : oldest ∈ byLastUse deeds := by simp [order]
        obtain ⟨deed, earlier, rfl⟩ := id_of_mem_byLastUse there
        refine ⟨trivial, ?_, trivial⟩
        intro other inside
        rcases List.mem_append.mp inside with before | last
        · exact new other before
        · rw [List.mem_singleton.mp last]
          exact new deed earlier
  · exact ⟨new, trivial⟩

end Requests

end Playthrough.Server
