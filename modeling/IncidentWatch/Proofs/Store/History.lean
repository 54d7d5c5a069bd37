import IncidentWatch.Proofs.Store.Growth
import Mathlib.Data.List.Induction

/-!
# The history of a store

A store is made by the calls that wrote to it. Two things can be read off these calls alone,
without a store: which ids were created, in which order (`createdIds`), and what was last
written under an id since then (`lastRecord`). The store holds just that: the last records of
the created ids, in the order of their creation (`incidents_ofHistory`). Updates have no part
in the order, so no incident is ever moved.

A listing shows a part of it. As long as no update changes whether a record is accepted, what
it shows is only ever extended at the end (`prefix_ids_matching_write`).
-/

set_option autoImplicit false

namespace IncidentWatch

/-- A call that writes to the store. -/
inductive Write where
  | create (i : Incident)
  | update (i : Incident)

/-- The id that a call is to create. -/
def Write.newId? : Write → Option String
  | .create i => some i.id
  | .update _ => none

/-! ## What calls say -/

/-- The ids that were created, in the order of their creation. -/
def createdIds (history : List Write) : List String :=
  (history.filterMap Write.newId?).eraseDups

/-- The record under an id after a call: it is there once the id was created, and each update
replaces it. -/
def recordAfter (id : String) : Option Incident → Write → Option Incident
  | none, .create i => if i.id = id then some i else none
  | some old, .update i => some (if i.id = id then i else old)
  | known, _ => known

/-- The record that was written last under an id since it was created. -/
def lastRecord (history : List Write) (id : String) : Option Incident :=
  history.foldl (recordAfter id) none

/-- The last records of the created ids, in the order of their creation. -/
def lastRecords (history : List Write) : List Incident :=
  (createdIds history).filterMap (lastRecord history)

theorem lastRecord_concat (history : List Write) (w : Write) (id : String) :
    lastRecord (history ++ [w]) id = recordAfter id (lastRecord history id) w := by
  simp [lastRecord]

theorem createdIds_update (history : List Write) (i : Incident) :
    createdIds (history ++ [.update i]) = createdIds history := by
  have nothing : [Write.update i].filterMap Write.newId? = [] := rfl
  rw [createdIds, List.filterMap_append, nothing, List.append_nil, createdIds]

/-- An id is created once. -/
theorem createdIds_create (history : List Write) (i : Incident) :
    createdIds (history ++ [.create i]) =
      if i.id ∈ createdIds history then createdIds history else createdIds history ++ [i.id] := by
  have one : [Write.create i].filterMap Write.newId? = [i.id] := rfl
  unfold createdIds
  rw [List.filterMap_append, one, List.eraseDups_append]
  simp only [List.mem_eraseDups]
  generalize history.filterMap Write.newId? = ids
  split
  · rename_i taken
    have again : [i.id].removeAll ids = [] := by
      simp [List.removeAll, taken]
    rw [again, List.eraseDups_nil, List.append_nil]
  · rename_i free
    have new : [i.id].removeAll ids = [i.id] := by
      simp [List.removeAll, free]
    rw [new, List.eraseDups_cons]
    rfl

namespace Store

variable {s s' : Store} {i : Incident} {id : String} {f : IncidentFilter} {w : Write}

/-! ## What calls do -/

/-- The store after a call; one that is refused changes nothing. -/
def write (s : Store) : Write → Store
  | .create i => (s.create i).toOption.getD s
  | .update i => (s.update i).toOption.getD s

/-- The store that a history of calls makes. -/
def ofHistory (history : List Write) : Store :=
  history.foldl write .empty

theorem ofHistory_concat (history : List Write) (w : Write) :
    ofHistory (history ++ [w]) = (ofHistory history).write w := by
  simp [ofHistory]

/-- What a call does: an id that is taken is not created again, and one that is not there is not
updated. -/
inductive Writes (s : Store) : Write → Store → Prop
  | created {i : Incident} {s' : Store} (made : s.create i = .ok s') : Writes s (.create i) s'
  | taken {i old : Incident} (there : s.get? i.id = some old) : Writes s (.create i) s
  | updated {i old : Incident} {s' : Store} (there : s.get? i.id = some old)
      (made : s.update i = .ok s') : Writes s (.update i) s'
  | absent {i : Incident} (free : s.get? i.id = none) : Writes s (.update i) s

theorem get?_isSome_iff : (s.get? id).isSome = true ↔ id ∈ s.incidents.map (·.id) := by
  unfold get?
  simp [List.find?_isSome]

theorem there_of_update (updated : s.update i = .ok s') : ∃ old, s.get? i.id = some old := by
  rw [← Option.isSome_iff_exists, get?_isSome_iff, ← ids_of_update updated]
  exact List.mem_map_of_mem (mem_of_update updated)

/-- A store refuses to update an incident only when its id is not there. -/
theorem absent_of_refused {error : StoreError} (refused : s.update i = .error error) :
    error = .notFound i.id ∧ s.get? i.id = none := by
  have named : error = .notFound i.id := by
    unfold update at refused
    split at refused
    · cases refused
    · cases refused
      rfl
  refine ⟨named, ?_⟩
  cases there : s.get? i.id with
  | none => rfl
  | some old =>
      obtain ⟨member, same⟩ := get?_eq_some_iff.1 there
      obtain ⟨s', updated⟩ := exists_update (get?_of_mem member) same.symm
      rw [refused] at updated
      cases updated

theorem writes_write (s : Store) (w : Write) : Writes s w (s.write w) := by
  cases w with
  | create i =>
      cases made : s.create i with
      | ok s' =>
          rw [show s.write (.create i) = s' by simp [write, made, Except.toOption]]
          exact .created made
      | error error =>
          obtain ⟨-, old, there⟩ := taken_of_create made
          rw [show s.write (.create i) = s by simp [write, made, Except.toOption]]
          exact .taken there
  | update i =>
      cases made : s.update i with
      | ok s' =>
          obtain ⟨old, there⟩ := there_of_update made
          rw [show s.write (.update i) = s' by simp [write, made, Except.toOption]]
          exact .updated there made
      | error error =>
          rw [show s.write (.update i) = s by simp [write, made, Except.toOption]]
          exact .absent (absent_of_refused made).2

/-! ## A store is what its history says -/

theorem ids_ofHistory (history : List Write) :
    (ofHistory history).incidents.map (·.id) = createdIds history := by
  induction history using List.reverseRecOn with
  | nil => rfl
  | append_singleton earlier w inductionHypothesis =>
      rw [ofHistory_concat]
      have writes := writes_write (ofHistory earlier) w
      generalize (ofHistory earlier).write w = after at writes
      cases writes with
      | @created i _ made =>
          have free : i.id ∉ createdIds earlier := by
            rw [← inductionHypothesis, ← get?_isSome_iff, get?_of_create made]
            simp
          rw [createdIds_create, if_neg free, incidents_of_create made, List.map_append,
            inductionHypothesis]
          rfl
      | @taken i old there =>
          have known : i.id ∈ createdIds earlier := by
            rw [← inductionHypothesis, ← get?_isSome_iff, there]
            rfl
          rw [createdIds_create, if_pos known]
          exact inductionHypothesis
      | updated there made =>
          rw [createdIds_update, ids_of_update made]
          exact inductionHypothesis
      | absent free =>
          rw [createdIds_update]
          exact inductionHypothesis

/-- A call changes what is stored under an id as it changes what is known of it. -/
theorem get?_write (s : Store) (w : Write) (id : String) :
    (s.write w).get? id = recordAfter id (s.get? id) w := by
  have writes := writes_write s w
  generalize s.write w = after at writes
  -- A call for another id changes nothing here; one for this id is refused or not by what is there.
  cases writes with
  | @created i _ made =>
      rw [get?_create made]
      by_cases same : id = i.id
      · rw [if_pos same, same, get?_of_create made, recordAfter, if_pos rfl]
      · rw [if_neg same]
        cases s.get? id with
        | none => rw [recordAfter, if_neg (Ne.symm same)]
        | some old => rfl
  | @taken i old there =>
      cases known : s.get? id with
      | none =>
          have other : i.id ≠ id := by
            rintro rfl
            rw [known] at there
            cases there
          rw [recordAfter, if_neg other]
      | some old => rfl
  | @updated i old _ there made =>
      rw [get?_update made]
      by_cases same : id = i.id
      · rw [if_pos same, same, there, recordAfter, if_pos rfl]
      · rw [if_neg same]
        cases s.get? id with
        | none => rfl
        | some old => rw [recordAfter, if_neg (Ne.symm same)]
  | @absent i free =>
      cases known : s.get? id with
      | none => rfl
      | some old =>
          have other : i.id ≠ id := by
            rintro rfl
            rw [known] at free
            cases free
          rw [recordAfter, if_neg other]

/-- The store has under an id what was last written under it. -/
theorem get?_ofHistory (history : List Write) (id : String) :
    (ofHistory history).get? id = lastRecord history id := by
  induction history using List.reverseRecOn with
  | nil => rfl
  | append_singleton earlier w inductionHypothesis =>
      rw [ofHistory_concat, lastRecord_concat, get?_write, inductionHypothesis]

theorem incidents_eq_filterMap_get? (s : Store) :
    s.incidents = (s.incidents.map (·.id)).filterMap s.get? := by
  have here : ∀ i ∈ s.incidents, (s.get? ∘ (·.id)) i = some i := fun i member => get?_of_mem member
  rw [List.filterMap_map, List.filterMap_congr here, List.filterMap_some]

/-- The store holds the last records of the created ids, in the order of their creation. -/
theorem incidents_ofHistory (history : List Write) :
    (ofHistory history).incidents = lastRecords history := by
  rw [incidents_eq_filterMap_get?, ids_ofHistory, funext (get?_ofHistory history)]
  rfl

/-! ## What a call does to a listing -/

theorem size_le_write (s : Store) (w : Write) : s.size ≤ (s.write w).size := by
  have writes := writes_write s w
  generalize s.write w = after at writes
  cases writes with
  | created made =>
      rw [size_of_create made]
      exact Nat.le_succ _
  | updated there made => exact Nat.le_of_eq (size_of_ids_eq (ids_of_update made)).symm
  | taken there => exact Nat.le_refl _
  | absent free => exact Nat.le_refl _

theorem nodup_ids_matching (s : Store) (f : IncidentFilter) :
    ((s.matching f).map (·.id)).Nodup :=
  s.distinct.sublist (List.filter_sublist.map _)

/-- An update after which a record is accepted as before leaves the listing in its order. -/
theorem ids_matching_update {old : Incident} (updated : s.update i = .ok s')
    (stored : s.get? i.id = some old) (same : f.accepts i = f.accepts old) :
    (s'.matching f).map (·.id) = (s.matching f).map (·.id) := by
  obtain ⟨memberOld, sameId⟩ := get?_eq_some_iff.1 stored
  have accepted : ∀ j ∈ s.incidents,
      (f.accepts ∘ fun old => if old.id = i.id then i else old) j = f.accepts j := by
    intro j member
    by_cases identical : j.id = i.id
    · rw [Function.comp, if_pos identical, same,
        eq_of_id_eq member memberOld (identical.trans sameId.symm)]
    · rw [Function.comp, if_neg identical]
  have named : ∀ j : Incident, (if j.id = i.id then i else j).id = j.id := by
    intro j
    split
    · rename_i identical
      exact identical.symm
    · rfl
  unfold matching
  rw [incidents_of_update updated, replace, List.filter_map, List.filter_congr accepted,
    List.map_map]
  exact List.map_congr_left fun j _ => named j

/-- A call after which every record is accepted as before extends the listing at its end only. -/
theorem prefix_ids_matching_write
    (same : ∀ i old, w = .update i → s.get? i.id = some old → f.accepts i = f.accepts old) :
    (s.matching f).map (·.id) <+: ((s.write w).matching f).map (·.id) := by
  have writes := writes_write s w
  generalize s.write w = after at writes
  cases writes with
  | created made =>
      rw [matching, matching, incidents_of_create made, List.filter_append, List.map_append]
      exact List.prefix_append _ _
  | @updated i old _ there made =>
      have kept := ids_matching_update made there (same i old rfl there)
      exact kept ▸ List.prefix_rfl
  | taken there => exact List.prefix_rfl
  | absent free => exact List.prefix_rfl

end Store

end IncidentWatch
