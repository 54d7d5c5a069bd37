import IncidentWatch.Proofs.Incident.Evolution
import IncidentWatch.Store.Basic

/-!
# How a store grows

A store is read through its ids, which are distinct, and through its shelves: the
incidents of one release, in the order of their creation. Creating an incident and
replacing one by a later record of it leave every record in its place
(`Store.Evolves`), and touch the shelf of that release only (`shelf_create`,
`shelf_update`). They also keep apart the causes of the active incidents of a release
(`Deduplicated.create`, `Deduplicated.update`).
-/

set_option autoImplicit false

namespace IncidentWatch.Store

variable {s s' s'' : Store} {i : Incident} {id : String} {release : ReleaseKey}

/-! ## Reading by id -/

theorem eq_of_id_eq {j : Incident} (memberI : i ∈ s.incidents) (memberJ : j ∈ s.incidents)
    (same : i.id = j.id) : i = j :=
  List.inj_on_of_nodup_map s.distinct memberI memberJ same

/-- Among elements of distinct keys, a search for a key finds the element that has it. -/
theorem find?_eq_some_iff_of_nodup {α κ : Type} [DecidableEq κ] {key : α → κ} {l : List α}
    (distinct : (l.map key).Nodup) {k : κ} {a : α} :
    l.find? (key · = k) = some a ↔ a ∈ l ∧ key a = k := by
  constructor
  · intro found
    exact ⟨List.mem_of_find?_eq_some found, by simpa using List.find?_some found⟩
  · rintro ⟨member, rfl⟩
    obtain ⟨b, found⟩ : ∃ b, l.find? (key · = key a) = some b := by
      rw [← Option.isSome_iff_exists, List.find?_isSome]
      exact ⟨a, member, by simp⟩
    have same : key b = key a := by simpa using List.find?_some found
    rw [found, List.inj_on_of_nodup_map distinct (List.mem_of_find?_eq_some found) member same]

theorem get?_eq_some_iff : s.get? id = some i ↔ i ∈ s.incidents ∧ i.id = id :=
  find?_eq_some_iff_of_nodup s.distinct

theorem get?_of_mem (member : i ∈ s.incidents) : s.get? i.id = some i :=
  get?_eq_some_iff.2 ⟨member, rfl⟩

theorem read_eq_ok_iff : s.read id = .ok i ↔ s.get? id = some i := by
  unfold read
  cases s.get? id with
  | none => simp
  | some j => simp

/-! ## Writing -/

theorem mem_of_create (created : s.create i = .ok s') : i ∈ s'.incidents := by
  rw [incidents_of_create created]
  exact List.mem_append_right _ List.mem_cons_self

theorem mem_of_update (updated : s.update i = .ok s') : i ∈ s'.incidents := by
  have present : s.incidents.any (·.id = i.id) := by
    unfold update at updated
    split at updated
    · assumption
    · cases updated
  obtain ⟨old, member, same⟩ := List.any_eq_true.1 present
  rw [incidents_of_update updated, replace, List.mem_map]
  exact ⟨old, member, by rw [if_pos (by simpa using same)]⟩

/-- What stands in the store after an update is the new record or was there before. -/
theorem mem_update {j : Incident} (updated : s.update i = .ok s') (member : j ∈ s'.incidents) :
    j = i ∨ j ∈ s.incidents := by
  rw [incidents_of_update updated, replace, List.mem_map] at member
  obtain ⟨old, memberOld, same⟩ := member
  split at same
  · exact Or.inl same.symm
  · exact Or.inr (same ▸ memberOld)

theorem mem_create {j : Incident} (created : s.create i = .ok s') (member : j ∈ s'.incidents) :
    j = i ∨ j ∈ s.incidents := by
  rw [incidents_of_create created, List.mem_append, List.mem_singleton] at member
  exact member.symm

/-- What holds of the new record and held of all others holds of all after an update. -/
theorem forall_update {P : Incident → Prop} (updated : s.update i = .ok s') (new : P i)
    (others : ∀ j ∈ s.incidents, j.id ≠ i.id → P j) : ∀ j ∈ s'.incidents, P j := by
  intro j member
  by_cases same : j.id = i.id
  · rw [eq_of_id_eq member (mem_of_update updated) same]
    exact new
  · rcases mem_update updated member with rfl | unchanged
    · exact absurd rfl same
    · exact others j unchanged same

theorem forall_create {P : Incident → Prop} (created : s.create i = .ok s') (new : P i)
    (others : ∀ j ∈ s.incidents, P j) : ∀ j ∈ s'.incidents, P j := by
  intro j member
  rcases mem_create created member with rfl | unchanged
  · exact new
  · exact others j unchanged

/-- An incident is created under an id that nothing is stored under. -/
theorem get?_of_create (created : s.create i = .ok s') : s.get? i.id = none := by
  unfold create at created
  split at created
  · cases created
  · rename_i free
    unfold get?
    rw [List.find?_eq_none]
    intro j member same
    exact free (List.any_eq_true.2 ⟨j, member, same⟩)

theorem id_ne_of_create {j : Incident} (created : s.create i = .ok s')
    (member : j ∈ s.incidents) : j.id ≠ i.id := by
  intro same
  have absent := get?_of_create created
  rw [← same, get?_of_mem member] at absent
  cases absent

theorem get?_update (updated : s.update i = .ok s') :
    s'.get? id = if id = i.id then some i else s.get? id := by
  split
  · rename_i same
    exact get?_eq_some_iff.2 ⟨mem_of_update updated, same.symm⟩
  · rename_i other
    apply Option.ext
    intro j
    rw [get?_eq_some_iff, get?_eq_some_iff]
    constructor
    · rintro ⟨member, rfl⟩
      rcases mem_update updated member with rfl | unchanged
      · exact absurd rfl other
      · exact ⟨unchanged, rfl⟩
    · rintro ⟨member, rfl⟩
      rw [incidents_of_update updated, replace, List.mem_map]
      exact ⟨⟨j, member, if_neg other⟩, rfl⟩

theorem get?_create (created : s.create i = .ok s') :
    s'.get? id = if id = i.id then some i else s.get? id := by
  split
  · rename_i same
    exact get?_eq_some_iff.2 ⟨mem_of_create created, same.symm⟩
  · rename_i other
    apply Option.ext
    intro j
    rw [get?_eq_some_iff, get?_eq_some_iff, incidents_of_create created, List.mem_append,
      List.mem_singleton]
    constructor
    · rintro ⟨member | rfl, rfl⟩
      · exact ⟨member, rfl⟩
      · exact absurd rfl other
    · rintro ⟨member, same⟩
      exact ⟨Or.inl member, same⟩

/-- What is not stored afterwards was not stored before. -/
theorem absent_of_create (created : s.create i = .ok s') (absent : s'.get? id = none) :
    s.get? id = none := by
  rw [get?_create created] at absent
  split at absent
  · cases absent
  · exact absent

theorem absent_of_update (updated : s.update i = .ok s') (absent : s'.get? id = none) :
    s.get? id = none ∧ id ≠ i.id := by
  rw [get?_update updated] at absent
  split at absent
  · cases absent
  · rename_i other
    exact ⟨absent, other⟩

theorem exists_update {j : Incident} (stored : s.get? i.id = some i) (same : j.id = i.id) :
    ∃ s', s.update j = .ok s' := by
  have present : s.incidents.any (·.id = j.id) = true :=
    List.any_eq_true.2 ⟨i, (get?_eq_some_iff.1 stored).1, by simp [same]⟩
  unfold update
  rw [if_pos present]
  exact ⟨_, rfl⟩

theorem size_of_create (created : s.create i = .ok s') : s'.size = s.size + 1 := by
  unfold size
  rw [incidents_of_create created, List.length_append, List.length_singleton]

theorem ids_of_update (updated : s.update i = .ok s') :
    s'.incidents.map (·.id) = s.incidents.map (·.id) := by
  rw [incidents_of_update updated]
  exact ids_replace i s.incidents

theorem size_of_ids_eq (same : s'.incidents.map (·.id) = s.incidents.map (·.id)) :
    s'.size = s.size := by
  have sizes := congrArg List.length same
  rw [List.length_map, List.length_map] at sizes
  exact sizes

/-- A store refuses to create an incident only when its id is taken. -/
theorem taken_of_create {error : StoreError} (refused : s.create i = .error error) :
    error = .backend ("incident " ++ i.id ++ " already exists") ∧
      ∃ old, s.get? i.id = some old := by
  unfold create at refused
  split at refused
  · rename_i taken
    obtain ⟨old, member, same⟩ := List.any_eq_true.1 taken
    cases refused
    exact ⟨rfl, old, get?_eq_some_iff.2 ⟨member, by simpa using same⟩⟩
  · cases refused

/-! ## Shelves -/

/-- The incidents of one release, in the order of their creation. -/
def shelf (s : Store) (release : ReleaseKey) : List Incident :=
  s.incidents.filter (·.releaseKey = release)

theorem mem_shelf : i ∈ s.shelf release ↔ i ∈ s.incidents ∧ i.releaseKey = release := by
  simp [shelf]

/-- The listing of the active incidents of a release is read off its shelf. -/
theorem matching_activeFor (s : Store) (release : ReleaseKey) :
    s.matching (.activeFor release) = (s.shelf release).filter (·.isActive) := by
  unfold matching shelf
  rw [List.filter_filter]
  apply List.filter_congr
  intro i _
  rw [Bool.eq_iff_iff, IncidentFilter.accepts_activeFor]
  simp

/-- Stores with the same shelf of a release have the same records of that release. -/
theorem get?_of_shelf_eq (same : s'.shelf release = s.shelf release)
    (stored : s.get? id = some i) (here : i.releaseKey = release) : s'.get? id = some i := by
  obtain ⟨member, rfl⟩ := get?_eq_some_iff.1 stored
  have onShelf : i ∈ s'.shelf release := same ▸ mem_shelf.2 ⟨member, here⟩
  exact get?_of_mem (mem_shelf.1 onShelf).1

theorem shelf_create (created : s.create i = .ok s') (other : i.releaseKey ≠ release) :
    s'.shelf release = s.shelf release := by
  unfold shelf
  rw [incidents_of_create created, List.filter_append]
  simp [other]

theorem shelf_update {old : Incident} (updated : s.update i = .ok s')
    (stored : s.get? i.id = some old) (same : i.releaseKey = old.releaseKey)
    (other : old.releaseKey ≠ release) : s'.shelf release = s.shelf release := by
  obtain ⟨memberOld, sameId⟩ := get?_eq_some_iff.1 stored
  have away : ∀ j ∈ s.incidents, j.id = i.id → j.releaseKey ≠ release := by
    intro j member identical
    rw [eq_of_id_eq member memberOld (identical.trans sameId.symm)]
    exact other
  unfold shelf
  rw [incidents_of_update updated]
  revert away
  generalize s.incidents = incidents
  intro away
  induction incidents with
  | nil => rfl
  | cons j rest inductionHypothesis =>
      have tail := inductionHypothesis fun k member => away k (List.mem_cons_of_mem j member)
      by_cases identical : j.id = i.id
      · have gone : j.releaseKey ≠ release := away j List.mem_cons_self identical
        simp only [replace, List.map_cons, identical, if_true] at tail ⊢
        rw [List.filter_cons_of_neg (by simpa [same] using other),
          List.filter_cons_of_neg (by simpa using gone)]
        exact tail
      · simp only [replace, List.map_cons, identical, if_false, List.filter_cons] at tail ⊢
        rw [tail]

/-! ## Growth -/

/-- A later store: each record is in its place, evolved. -/
def Evolves (s s' : Store) : Prop :=
  ∀ (n : Nat) (i : Incident), s.incidents[n]? = some i →
    ∃ j, s'.incidents[n]? = some j ∧ i.Evolves j

namespace Evolves

theorem refl (s : Store) : s.Evolves s :=
  fun _ i here => ⟨i, here, .refl i⟩

theorem trans (first : s.Evolves s') (second : s'.Evolves s'') : s.Evolves s'' := by
  intro n i here
  obtain ⟨j, middle, evolves⟩ := first n i here
  obtain ⟨k, last, further⟩ := second n j middle
  exact ⟨k, last, evolves.trans further⟩

/-- An incident is found under its id ever after. -/
theorem get? (grows : s.Evolves s') (stored : s.get? id = some i) :
    ∃ j, s'.get? id = some j ∧ i.Evolves j := by
  obtain ⟨member, rfl⟩ := get?_eq_some_iff.1 stored
  obtain ⟨n, here⟩ := List.mem_iff_getElem?.1 member
  obtain ⟨j, later, evolves⟩ := grows n i here
  exact ⟨j, get?_eq_some_iff.2 ⟨List.mem_of_getElem? later, evolves.id⟩, evolves⟩

end Evolves

theorem evolves_create (created : s.create i = .ok s') : s.Evolves s' := by
  intro n j here
  refine ⟨j, ?_, .refl j⟩
  rw [incidents_of_create created, List.getElem?_append_left]
  · exact here
  · exact (List.getElem?_eq_some_iff.1 here).1

theorem evolves_update {old : Incident} (updated : s.update i = .ok s')
    (stored : s.get? i.id = some old) (evolves : old.Evolves i) : s.Evolves s' := by
  intro n j here
  obtain ⟨memberOld, sameId⟩ := get?_eq_some_iff.1 stored
  refine ⟨if j.id = i.id then i else j, ?_, ?_⟩
  · rw [incidents_of_update updated, replace, List.getElem?_map, here]
    rfl
  · split
    · rename_i identical
      rw [eq_of_id_eq (List.mem_of_getElem? here) memberOld (identical.trans sameId.symm)]
      exact evolves
    · exact .refl j

/-! ## What is kept of an incident -/

/-- The store holds the record of an incident or a later one. -/
def Carries (s : Store) (i : Incident) : Prop :=
  ∃ j, s.get? i.id = some j ∧ i.Evolves j

/-- The store holds an incident of an id whose occurrences have the keys. -/
def Keeps (s : Store) (id : String) (keys : List EventKey) : Prop :=
  ∃ i, s.get? id = some i ∧ ∀ k ∈ keys, k ∈ i.keys

theorem carries_of_get? (stored : s.get? i.id = some i) : s.Carries i :=
  ⟨i, stored, .refl i⟩

theorem Carries.of_evolves (carries : s.Carries i) (grows : s.Evolves s') : s'.Carries i := by
  obtain ⟨j, stored, evolves⟩ := carries
  obtain ⟨k, later, further⟩ := grows.get? stored
  exact ⟨k, later, evolves.trans further⟩

theorem Keeps.of_evolves {keys : List EventKey} (keeps : s.Keeps id keys)
    (grows : s.Evolves s') : s'.Keeps id keys := by
  obtain ⟨i, stored, present⟩ := keeps
  obtain ⟨j, later, evolves⟩ := grows.get? stored
  exact ⟨j, later, fun k member => evolves.keys.subset (present k member)⟩

/-! ## One active incident for each cause -/

/-- Of the active incidents of one release, no two have the same first primary cause. -/
def Deduplicated (s : Store) : Prop :=
  ∀ i ∈ s.incidents, ∀ j ∈ s.incidents, i ≠ j → i.status = .active → j.status = .active →
    i.releaseKey = j.releaseKey → ∀ cause, i.primaryCause = some cause →
      j.primaryCause ≠ some cause

/-- No active incident of the release has the first primary cause of the given one. -/
def Lacks (s : Store) (i : Incident) : Prop :=
  ∀ j ∈ s.shelf i.releaseKey, j.status = .active → ∀ cause, j.primaryCause = some cause →
    i.primaryCause ≠ some cause

theorem Deduplicated.create (deduplicated : s.Deduplicated) (created : s.create i = .ok s')
    (lacks : s.Lacks i) : s'.Deduplicated := by
  have new : ∀ j ∈ s.incidents, j.status = .active → j.releaseKey = i.releaseKey →
      ∀ cause, j.primaryCause = some cause → i.primaryCause ≠ some cause :=
    fun j member active same => lacks j (mem_shelf.2 ⟨member, same⟩) active
  intro a memberA b memberB apart activeA activeB same cause causeA
  rcases mem_create created memberA with rfl | oldA
  · rcases mem_create created memberB with rfl | oldB
    · exact absurd rfl apart
    · exact fun causeB => new b oldB activeB same.symm cause causeB causeA
  · rcases mem_create created memberB with rfl | oldB
    · exact new a oldA activeA same cause causeA
    · exact deduplicated a oldA b oldB apart activeA activeB same cause causeA

theorem Deduplicated.update {old : Incident} (deduplicated : s.Deduplicated)
    (updated : s.update i = .ok s') (stored : s.get? i.id = some old) (evolves : old.Evolves i) :
    s'.Deduplicated := by
  obtain ⟨memberOld, -⟩ := get?_eq_some_iff.1 stored
  have before : ∀ a ∈ s'.incidents, ∃ b ∈ s.incidents, b.Evolves a := by
    intro a member
    rcases mem_update updated member with rfl | unchanged
    · exact ⟨old, memberOld, evolves⟩
    · exact ⟨a, unchanged, .refl a⟩
  intro a memberA b memberB apart activeA activeB same cause causeA causeB
  obtain ⟨a', memberA', evolvesA⟩ := before a memberA
  obtain ⟨b', memberB', evolvesB⟩ := before b memberB
  refine deduplicated a' memberA' b' memberB' ?_ (evolvesA.active activeA)
    (evolvesB.active activeB) ?_ cause (evolvesA.primaryCause.symm.trans causeA)
    (evolvesB.primaryCause.symm.trans causeB)
  · rintro rfl
    exact apart (eq_of_id_eq memberA memberB (evolvesA.id.trans evolvesB.id.symm))
  · exact evolvesA.releaseKey.symm.trans (same.trans evolvesB.releaseKey)

end IncidentWatch.Store
