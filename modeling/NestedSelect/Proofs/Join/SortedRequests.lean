import NestedSelect.Join.Requests
/-!
Requested joins as a map. They are kept in strictly ascending order of their paths, and they are
determined by what is found at each path.
-/

namespace NestedSelect.JoinRequests

/-- The paths ascend, so there is at most one request for each. -/
def Ascending (requests : JoinRequests) : Prop :=
  requests.Pairwise fun first second => first.1 < second.1

-----------------------------------------------------------------------------------------
-- What is found
-----------------------------------------------------------------------------------------

theorem find?_cons (path first : String) (spec : JoinSpec) (rest : JoinRequests)
    : find? ((first, spec) :: rest) path
        = if path = first then some spec else find? rest path := by
  rw [find?, List.lookup_cons]
  by_cases same : path = first
  · simp [same]
  · simp [same, beq_false_of_ne same, find?]

/-- Nothing is found at the paths without a request. -/
theorem find?_eq_none_iff {requests : JoinRequests} {path : String}
    : find? requests path = none ↔ ∀ request ∈ requests, request.1 ≠ path := by
  simp [find?, List.lookup_eq_none_iff, @eq_comm _ path]

/-- A request changes what is found at its own path and nowhere else. -/
theorem find?_set (path asked : String) (spec : JoinSpec) (requests : JoinRequests)
    : find? (requests.set path spec) asked
        = if asked = path then some spec else find? requests asked := by
  induction requests with
  | nil => exact find?_cons asked path spec []
  | cons request rest ih =>
      obtain ⟨first, held⟩ := request
      rw [set]
      by_cases before : path < first
      · rw [if_pos before, find?_cons]
      · by_cases same : path = first
        · subst same
          rw [if_neg before, if_pos rfl, find?_cons, find?_cons]
          by_cases here : asked = path <;> simp [here]
        · rw [if_neg before, if_neg same, find?_cons, find?_cons, ih]
          by_cases here : asked = first
          · have other : asked ≠ path := fun h => same (h.symm.trans here)
            rw [if_pos here, if_neg other, if_pos here]
          · rw [if_neg here, if_neg here]

/-- Below the first of some ascending paths nothing is found. -/
theorem find?_eq_none_of_lt {path : String} {requests : JoinRequests}
    (below : ∀ request ∈ requests, path < request.1)
    : find? requests path = none := by
  induction requests with
  | nil => rfl
  | cons request rest ih =>
      have different : path ≠ request.1 := by
        intro same
        exact String.lt_irrefl _ (same ▸ below request (by simp))
      rw [find?_cons, if_neg different]
      exact ih fun other member => below other (List.mem_cons_of_mem _ member)

-----------------------------------------------------------------------------------------
-- Order
-----------------------------------------------------------------------------------------

theorem mem_set {path : String} {spec : JoinSpec} {requests : JoinRequests}
    {request : String × JoinSpec} (member : request ∈ requests.set path spec)
    : request = (path, spec) ∨ request ∈ requests := by
  induction requests with
  | nil => exact .inl (List.mem_singleton.mp member)
  | cons first rest ih =>
      rw [set] at member
      split at member
      · exact List.mem_cons.mp member
      · split at member
        · rcases List.mem_cons.mp member with new | behind
          · exact .inl new
          · exact .inr (List.mem_cons_of_mem _ behind)
        · rcases List.mem_cons.mp member with kept | behind
          · exact .inr (by simp [kept])
          · exact (ih behind).imp_right (List.mem_cons_of_mem _)

/-- A request is put in its place, so the paths stay in order. -/
theorem Ascending.set {requests : JoinRequests} (ascending : requests.Ascending) (path : String)
    (spec : JoinSpec)
    : Ascending (requests.set path spec) := by
  induction requests with
  | nil => exact List.pairwise_singleton _ _
  | cons request rest ih =>
      obtain ⟨first, held⟩ := request
      obtain ⟨head, tail⟩ := List.pairwise_cons.mp ascending
      rw [JoinRequests.set]
      by_cases before : path < first
      · rw [if_pos before]
        refine List.pairwise_cons.mpr ⟨?_, ascending⟩
        intro other member
        rcases List.mem_cons.mp member with rfl | behind
        · exact before
        · exact String.lt_trans before (head other behind)
      · by_cases same : path = first
        · rw [if_neg before, if_pos same]
          exact List.pairwise_cons.mpr ⟨same ▸ head, tail⟩
        · have after : first < path := by
            rcases Std.lt_trichotomy path first with less | equal | greater
            · exact absurd less before
            · exact absurd equal same
            · exact greater
          rw [if_neg before, if_neg same]
          refine List.pairwise_cons.mpr ⟨?_, ih tail⟩
          intro other member
          rcases mem_set member with rfl | inside
          · exact after
          · exact head other inside

/-- Nothing is found in front of the first path. -/
theorem Ascending.find?_eq_none {path first : String} {spec : JoinSpec} {rest : JoinRequests}
    (ascending : Ascending ((first, spec) :: rest)) (before : path < first)
    : find? ((first, spec) :: rest) path = none := by
  refine find?_eq_none_of_lt fun request member => ?_
  rcases List.mem_cons.mp member with rfl | behind
  · exact before
  · exact String.lt_trans before ((List.pairwise_cons.mp ascending).1 request behind)

/-- What is found in requests in order has no other request for its path behind it. -/
theorem Ascending.split {requests : JoinRequests} (ascending : requests.Ascending)
    {path : String} {spec : JoinSpec} (found : requests.find? path = some spec)
    : ∃ before after,
        requests = before ++ (path, spec) :: after ∧ ∀ later ∈ after, later.1 ≠ path := by
  induction requests with
  | nil => contradiction
  | cons request rest ih =>
      obtain ⟨first, held⟩ := request
      obtain ⟨head, tail⟩ := List.pairwise_cons.mp ascending
      rw [find?_cons] at found
      by_cases here : path = first
      · subst here
        rw [if_pos rfl, Option.some.injEq] at found
        subst found
        refine ⟨[], rest, rfl, fun later member same => ?_⟩
        exact String.lt_irrefl _ (same ▸ head later member)
      · rw [if_neg here] at found
        obtain ⟨before, after, rfl, last⟩ := ih tail found
        exact ⟨(first, held) :: before, after, rfl, last⟩

/-- Requests in order are equal if the same is found in both at every path. -/
theorem Ascending.ext {left right : JoinRequests} (leftOrder : left.Ascending)
    (rightOrder : right.Ascending) (same : ∀ path, find? left path = find? right path)
    : left = right := by
  induction left generalizing right with
  | nil =>
      cases right with
      | nil => rfl
      | cons request rest =>
          have found := same request.1
          rw [find?_cons, if_pos rfl] at found
          contradiction
  | cons request rest ih =>
      obtain ⟨first, held⟩ := request
      cases right with
      | nil =>
          have found := same first
          rw [find?_cons, if_pos rfl] at found
          contradiction
      | cons request others =>
          obtain ⟨second, kept⟩ := request
          have paths : first = second := by
            rcases Std.lt_trichotomy first second with less | equal | greater
            · have found := same first
              rw [rightOrder.find?_eq_none less, find?_cons, if_pos rfl] at found
              contradiction
            · exact equal
            · have found := same second
              rw [leftOrder.find?_eq_none greater, find?_cons, if_pos rfl] at found
              contradiction
          subst paths
          have specs := same first
          rw [find?_cons, find?_cons, if_pos rfl, if_pos rfl, Option.some.injEq] at specs
          obtain ⟨leftHead, leftTail⟩ := List.pairwise_cons.mp leftOrder
          obtain ⟨rightHead, rightTail⟩ := List.pairwise_cons.mp rightOrder
          have behind (path : String) : find? rest path = find? others path := by
            by_cases here : path = first
            · rw [here, find?_eq_none_of_lt leftHead, find?_eq_none_of_lt rightHead]
            · have found := same path
              rwa [find?_cons, find?_cons, if_neg here, if_neg here] at found
          rw [specs, ih leftTail rightTail behind]

end NestedSelect.JoinRequests
