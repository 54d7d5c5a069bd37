import IncidentWatch.Store.Filter
import IncidentWatch.Store.Page

/-!
# The store of incidents

A store keeps incidents in the order of their creation, no two of one id.
Creating appends, updating replaces the incident of the same id in its place, and
nothing is ever removed, so an incident keeps its place in every listing. A table
whose incidents are numbered as they are created answers the same
(`NumberedStore.answers_ofHistory`).
-/

set_option autoImplicit false

namespace IncidentWatch

/-- Why a store did not do what was asked. -/
inductive StoreError where
  | notFound (id : String)
  | backend (text : String)
  deriving DecidableEq, Repr

def StoreError.message : StoreError → String
  | .notFound id => "incident " ++ id ++ " not found"
  | .backend text => "store backend: " ++ text

/-- Incidents with pairwise distinct ids, in creation order. -/
structure Store where
  incidents : List Incident
  distinct : (incidents.map (·.id)).Nodup

namespace Store

/-- The store of nothing. -/
def empty : Store := ⟨[], List.nodup_nil⟩

instance : Inhabited Store := ⟨empty⟩

/-- How many incidents were created. -/
def size (s : Store) : Nat :=
  s.incidents.length

/-- The incident of an id. -/
def get? (s : Store) (id : String) : Option Incident :=
  s.incidents.find? (·.id = id)

/-- The incidents that a filter accepts, in creation order. -/
def matching (s : Store) (f : IncidentFilter) : List Incident :=
  s.incidents.filter f.accepts

/-- Puts an incident in the place of the one of its id. -/
def replace (i : Incident) (incidents : List Incident) : List Incident :=
  incidents.map fun old => if old.id = i.id then i else old

theorem ids_replace (i : Incident) (incidents : List Incident) :
    (replace i incidents).map (·.id) = incidents.map (·.id) := by
  unfold replace
  rw [List.map_map]
  apply List.map_congr_left
  intro old _
  simp only [Function.comp]
  split
  · rename_i h
    exact h.symm
  · rfl

theorem nodup_ids_append {i : Incident} {incidents : List Incident}
    (hdistinct : (incidents.map (·.id)).Nodup) (hnew : ¬ incidents.any (·.id = i.id)) :
    ((incidents ++ [i]).map (·.id)).Nodup := by
  simp only [List.any_eq_true, decide_eq_true_eq, not_exists, not_and] at hnew
  rw [List.map_append, List.nodup_append]
  refine ⟨hdistinct, by simp, ?_⟩
  intro a ha b hb
  simp only [List.map_cons, List.map_nil, List.mem_singleton] at hb
  subst hb
  obtain ⟨old, hold, rfl⟩ := List.mem_map.1 ha
  exact hnew old hold

/-- Appends an incident of a new id. -/
def create (s : Store) (i : Incident) : Except StoreError Store :=
  if h : s.incidents.any (·.id = i.id) then
    .error (.backend ("incident " ++ i.id ++ " already exists"))
  else .ok ⟨s.incidents ++ [i], nodup_ids_append s.distinct h⟩

/-- Replaces the incident of the same id. -/
def update (s : Store) (i : Incident) : Except StoreError Store :=
  if s.incidents.any (·.id = i.id) then
    .ok ⟨replace i s.incidents, (ids_replace i s.incidents).symm ▸ s.distinct⟩
  else .error (.notFound i.id)

/-- The incident of an id, which must be there. -/
def read (s : Store) (id : String) : Except StoreError Incident :=
  match s.get? id with
  | some i => .ok i
  | none => .error (.notFound id)

/-- The page of the incidents that a filter accepts. -/
def list (s : Store) (f : IncidentFilter) (p : Pagination) : Except Fault (Page Incident) :=
  Page.ofList (s.matching f) p

/-- Creating appends. -/
theorem incidents_of_create {s s' : Store} {i : Incident} (h : s.create i = .ok s') :
    s'.incidents = s.incidents ++ [i] := by
  unfold create at h
  split at h
  · cases h
  · cases h
    rfl

/-- Updating replaces in place. -/
theorem incidents_of_update {s s' : Store} {i : Incident} (h : s.update i = .ok s') :
    s'.incidents = replace i s.incidents := by
  unfold update at h
  split at h
  · cases h
    rfl
  · cases h

end Store

end IncidentWatch
