import IncidentWatch.Proofs.Store.History
import IncidentWatch.Store.Numbered

/-!
# The numbers are the places

A numbered store stands for a store when the table has under each id the record that the store
has there, and its number is its place in the store (`StandsFor`). Creating and updating keep
this, and are refused together (`StandsFor.create`, `StandsFor.update`), so it holds after every
history of calls (`standsFor_ofHistory`).

Numbers are words and places are not. While the places fit into a word, the numbers ascend along
the store, and sorting by them gives back the order of the store from whatever order the table
gave its records in (`inOrder_of_perm`). So the two stores answer all calls alike
(`answers_ofHistory`).
-/

set_option autoImplicit false

namespace IncidentWatch

namespace ByName

variable {α : Type} {t : ByName α} {name : String} {a : α}

theorem nodup_names (t : ByName α) : (t.entries.map (·.1)).Nodup :=
  t.ascending.imp fun lt => Std.ne_of_lt lt

theorem get?_eq_some_iff : t.get? name = some a ↔ (name, a) ∈ t.entries := by
  unfold get?
  constructor
  · intro found
    obtain ⟨before, after, split, -⟩ := List.lookup_eq_some_iff.1 found
    rw [split]
    exact List.mem_append_right _ List.mem_cons_self
  · intro member
    obtain ⟨before, after, split⟩ := List.append_of_mem member
    refine List.lookup_eq_some_iff.2 ⟨before, after, split, fun entry earlier => ?_⟩
    have names := t.nodup_names
    rw [split, List.map_append, List.nodup_append] at names
    have apart := names.2.2 entry.1 (List.mem_map_of_mem earlier) name (by simp)
    simpa using apart.symm

end ByName

namespace Store

variable {s s' : Store} {i : Incident} {id : String}

/-! ## The records of a store -/

/-- The incidents of a store, each with its place. -/
def numbered (s : Store) : List Numbered :=
  s.incidents.zipIdx.map fun (i, place) => ⟨UInt64.ofNat place, i⟩

@[simp]
theorem map_incident_numbered (s : Store) : s.numbered.map (·.incident) = s.incidents := by
  rw [numbered, List.map_map]
  exact List.zipIdx_map_fst 0 s.incidents

theorem map_number_numbered (s : Store) :
    s.numbered.map (·.number) = (List.range s.size).map UInt64.ofNat := by
  rw [numbered, List.map_map, size, List.range_eq_range', ← List.zipIdx_map_snd, List.map_map]
  rfl

theorem nodup_ids_numbered (s : Store) : (s.numbered.map (·.incident.id)).Nodup := by
  have ids : s.numbered.map (·.incident.id) = s.incidents.map (·.id) := by
    rw [← s.map_incident_numbered, List.map_map]
    rfl
  rw [ids]
  exact s.distinct

theorem numbered_create (created : s.create i = .ok s') :
    s'.numbered = s.numbered ++ [⟨UInt64.ofNat s.size, i⟩] := by
  simp [numbered, incidents_of_create created, List.zipIdx_append, size]

theorem numbered_update (updated : s.update i = .ok s') :
    s'.numbered =
      s.numbered.map fun x => if x.incident.id = i.id then { x with incident := i } else x := by
  rw [numbered, incidents_of_update updated, replace, List.zipIdx_map, List.map_map, numbered,
    List.map_map]
  apply List.map_congr_left
  rintro ⟨old, place⟩ -
  by_cases same : old.id = i.id
  · simp [same]
  · simp [same]

/-- The numbered record of an id. -/
def numbered? (s : Store) (id : String) : Option Numbered :=
  s.numbered.find? (·.incident.id = id)

theorem map_incident_numbered? (s : Store) (id : String) :
    (s.numbered? id).map (·.incident) = s.get? id := by
  rw [get?, ← s.map_incident_numbered, List.find?_map]
  rfl

theorem numbered?_eq_none_iff : s.numbered? id = none ↔ s.get? id = none := by
  rw [← map_incident_numbered?, Option.map_eq_none_iff]

theorem exists_numbered? (there : s.get? id = some i) : ∃ x, s.numbered? id = some x := by
  rw [← map_incident_numbered?, Option.map_eq_some_iff] at there
  obtain ⟨x, found, -⟩ := there
  exact ⟨x, found⟩

theorem numbered?_eq_some_iff {x : Numbered} :
    s.numbered? id = some x ↔ x ∈ s.numbered ∧ x.incident.id = id :=
  find?_eq_some_iff_of_nodup s.nodup_ids_numbered

theorem numbered?_create (created : s.create i = .ok s') :
    s'.numbered? id = if id = i.id then some ⟨UInt64.ofNat s.size, i⟩ else s.numbered? id := by
  rw [numbered?, numbered_create created, List.find?_append, ← numbered?]
  by_cases same : id = i.id
  · rw [if_pos same, same, numbered?_eq_none_iff.2 (get?_of_create created), Option.none_or]
    simp
  · have other : i.id ≠ id := Ne.symm same
    simp [same, other]

theorem numbered?_update {old : Numbered} (updated : s.update i = .ok s')
    (there : s.numbered? i.id = some old) :
    s'.numbered? id = if id = i.id then some { old with incident := i } else s.numbered? id := by
  have named : ((fun x : Numbered => decide (x.incident.id = id)) ∘
      fun x => if x.incident.id = i.id then { x with incident := i } else x) =
        fun x => decide (x.incident.id = id) := by
    funext x
    by_cases same : x.incident.id = i.id
    · simp [same]
    · simp [same]
  rw [numbered?, numbered_update updated, List.find?_map, named, ← numbered?]
  by_cases same : id = i.id
  · have here : old.incident.id = i.id := (numbered?_eq_some_iff.1 there).2
    rw [if_pos same, same, there, Option.map_some, if_pos here]
  · rw [if_neg same]
    cases found : s.numbered? id with
    | none => rfl
    | some x =>
        have other : x.incident.id ≠ i.id := (numbered?_eq_some_iff.1 found).2 ▸ same
        rw [Option.map_some, if_neg other]

/-! ## Sorting by number -/

/-- While the places fit into a word, the numbers ascend. -/
theorem ascending_numbered (room : s.size ≤ UInt64.size) :
    (s.numbered.map (·.number)).Pairwise (· < ·) := by
  rw [map_number_numbered, List.pairwise_map]
  refine List.pairwise_lt_range.imp_of_mem fun {a b} memberA memberB lt => ?_
  have below : b < UInt64.size := Nat.lt_of_lt_of_le (List.mem_range.1 memberB) room
  rw [UInt64.lt_iff_toNat_lt, UInt64.toNat_ofNat_of_lt' below,
    UInt64.toNat_ofNat_of_lt' (Nat.lt_trans lt below)]
  exact lt

end Store

namespace NumberedStore

variable {n : NumberedStore} {s : Store} {records given : List Numbered}

/-- Records of ascending numbers are put in order, however they are given. -/
theorem inOrder_of_perm (ascending : (records.map (·.number)).Pairwise (· < ·))
    (perm : given.Perm records) : inOrder given = records.map (·.incident) := by
  have apart : (records.map (·.number)).Nodup := ascending.imp fun lt => Std.ne_of_lt lt
  have perm' := (List.mergeSort_perm given fun x y => x.number ≤ y.number).trans perm
  have sorted : (given.mergeSort fun x y => x.number ≤ y.number).Pairwise
      fun x y => x.number ≤ y.number :=
    (List.pairwise_mergeSort (fun x y z => by simpa using UInt64.le_trans)
      (fun x y => by simpa using UInt64.le_total _ _) given).imp of_decide_eq_true
  have ascending' : records.Pairwise fun x y => x.number ≤ y.number :=
    (List.pairwise_map.1 ascending).imp fun lt => UInt64.le_of_lt lt
  have same : given.mergeSort (fun x y => x.number ≤ y.number) = records := by
    refine perm'.eq_of_pairwise (fun x y memberX memberY le ge => ?_) sorted ascending'
    exact List.inj_on_of_nodup_map apart (perm'.subset memberX) memberY (UInt64.le_antisymm le ge)
  rw [inOrder, same]

/-! ## Standing for a store -/

/-- The table has the records of the store, each under its id, and the next number is the next
place. -/
structure StandsFor (n : NumberedStore) (s : Store) : Prop where
  next : n.next = UInt64.ofNat s.size
  records : ∀ id, n.table.get? id = s.numbered? id

/-- Two calls are refused alike, or both are done and leave stores of which the one stands for the
other. -/
inductive Alike : Except StoreError NumberedStore → Except StoreError Store → Prop
  | done {n : NumberedStore} {s : Store} (stands : n.StandsFor s) : Alike (.ok n) (.ok s)
  | refused (error : StoreError) : Alike (.error error) (.error error)

namespace StandsFor

theorem empty : NumberedStore.empty.StandsFor .empty :=
  ⟨rfl, fun _ => rfl⟩

theorem create (stands : n.StandsFor s) (i : Incident) : Alike (n.create i) (s.create i) := by
  cases made : s.create i with
  | ok s' =>
      have free := Store.numbered?_eq_none_iff.2 (Store.get?_of_create made)
      rw [NumberedStore.create, stands.records, free]
      refine .done ⟨?_, fun id => ?_⟩
      · rw [Store.size_of_create made, stands.next, UInt64.ofNat_add]
        rfl
      · rw [ByName.get?_insert, Store.numbered?_create made, stands.records, stands.next]
  | error error =>
      obtain ⟨rfl, old, there⟩ := Store.taken_of_create made
      obtain ⟨x, there⟩ := Store.exists_numbered? there
      rw [NumberedStore.create, stands.records, there]
      exact .refused _

theorem update (stands : n.StandsFor s) (i : Incident) : Alike (n.update i) (s.update i) := by
  cases made : s.update i with
  | ok s' =>
      obtain ⟨old, there⟩ := Store.there_of_update made
      obtain ⟨x, there⟩ := Store.exists_numbered? there
      rw [NumberedStore.update, stands.records, there]
      refine .done ⟨?_, fun id => ?_⟩
      · rw [Store.size_of_ids_eq (Store.ids_of_update made)]
        exact stands.next
      · rw [ByName.get?_insert, Store.numbered?_update made there, stands.records]
  | error error =>
      obtain ⟨rfl, absent⟩ := Store.absent_of_refused made
      rw [NumberedStore.update, stands.records, Store.numbered?_eq_none_iff.2 absent]
      exact .refused _

theorem read (stands : n.StandsFor s) (id : String) : n.read id = s.read id := by
  rw [NumberedStore.read, stands.records, Store.read, ← Store.map_incident_numbered?]
  cases s.numbered? id with
  | none => rfl
  | some x => rfl

theorem mem_entries_iff (stands : n.StandsFor s) {id : String} {x : Numbered} :
    (id, x) ∈ n.table.entries ↔ x ∈ s.numbered ∧ x.incident.id = id := by
  rw [← ByName.get?_eq_some_iff, stands.records, Store.numbered?_eq_some_iff]

/-- The records of the table are those of the store. -/
theorem perm_numbered (stands : n.StandsFor s) :
    (n.table.entries.map (·.2)).Perm s.numbered := by
  have ids : (n.table.entries.map (·.2)).map (·.incident.id) = n.table.entries.map (·.1) := by
    rw [List.map_map]
    exact List.map_congr_left fun entry member => (stands.mem_entries_iff.1 member).2
  have nodup : (n.table.entries.map (·.2)).Nodup :=
    List.Nodup.of_map (·.incident.id) (ids ▸ n.table.nodup_names)
  rw [List.perm_ext_iff_of_nodup nodup (List.Nodup.of_map _ s.nodup_ids_numbered)]
  intro x
  rw [List.mem_map]
  constructor
  · rintro ⟨entry, member, rfl⟩
    exact (stands.mem_entries_iff.1 member).1
  · intro member
    exact ⟨(x.incident.id, x), stands.mem_entries_iff.2 ⟨member, rfl⟩, rfl⟩

/-- What the table gave of the accepted incidents is put in the order of the store. -/
theorem inOrder_filter (stands : n.StandsFor s) (room : s.size ≤ UInt64.size)
    (gives : n.Gives given) (accepts : Incident → Bool) :
    inOrder (given.filter (accepts ·.incident)) = s.incidents.filter accepts := by
  have perm := (gives.trans stands.perm_numbered).filter (accepts ·.incident)
  have sublist : (s.numbered.filter (accepts ·.incident)).Sublist s.numbered := List.filter_sublist
  rw [inOrder_of_perm ((Store.ascending_numbered room).sublist (sublist.map _)) perm,
    ← s.map_incident_numbered, List.filter_map]
  rfl

theorem list (stands : n.StandsFor s) (room : s.size ≤ UInt64.size) (gives : n.Gives given)
    (f : IncidentFilter) (p : Pagination) : NumberedStore.list given f p = s.list f p := by
  rw [NumberedStore.list, stands.inOrder_filter room gives, Store.list, Store.matching]

theorem snapshot (stands : n.StandsFor s) (room : s.size ≤ UInt64.size)
    (gives : n.Gives given) : NumberedStore.snapshot given = s.incidents := by
  have perm := gives.trans stands.perm_numbered
  rw [NumberedStore.snapshot, inOrder_of_perm (Store.ascending_numbered room) perm,
    Store.map_incident_numbered]

end StandsFor

/-! ## After a history of calls -/

/-- The store after a call; one that is refused changes nothing. -/
def write (n : NumberedStore) : Write → NumberedStore
  | .create i => (n.create i).toOption.getD n
  | .update i => (n.update i).toOption.getD n

/-- The store that a history of calls makes. -/
def ofHistory (history : List Write) : NumberedStore :=
  history.foldl write empty

theorem Alike.toOption {left : Except StoreError NumberedStore} {right : Except StoreError Store}
    (alike : Alike left right) (stands : n.StandsFor s) :
    (left.toOption.getD n).StandsFor (right.toOption.getD s) := by
  cases alike with
  | done after => exact after
  | refused error => exact stands

theorem StandsFor.write (stands : n.StandsFor s) (w : Write) : (n.write w).StandsFor (s.write w) := by
  cases w with
  | create i => exact (stands.create i).toOption stands
  | update i => exact (stands.update i).toOption stands

theorem standsFor_ofHistory (history : List Write) :
    (ofHistory history).StandsFor (Store.ofHistory history) := by
  induction history using List.reverseRecOn with
  | nil => exact .empty
  | append_singleton earlier w inductionHypothesis =>
      rw [Store.ofHistory_concat, ofHistory, List.foldl_append]
      exact inductionHypothesis.write w

/-- After any history that created no more incidents than a word can number, the numbered store
does and answers what the store does and answers, in whatever order its table is gone through. -/
theorem answers_ofHistory (history : List Write)
    (room : (Store.ofHistory history).size ≤ UInt64.size) :
    (∀ i, Alike ((ofHistory history).create i) ((Store.ofHistory history).create i)) ∧
      (∀ i, Alike ((ofHistory history).update i) ((Store.ofHistory history).update i)) ∧
      (∀ id, (ofHistory history).read id = (Store.ofHistory history).read id) ∧
      ∀ given, (ofHistory history).Gives given →
        snapshot given = (Store.ofHistory history).incidents ∧
          ∀ f p, list given f p = (Store.ofHistory history).list f p := by
  have stands := standsFor_ofHistory history
  exact ⟨stands.create, stands.update, stands.read, fun given gives =>
    ⟨stands.snapshot room gives, stands.list room gives⟩⟩

end NumberedStore

end IncidentWatch
