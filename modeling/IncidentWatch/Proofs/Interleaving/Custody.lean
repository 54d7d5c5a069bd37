import IncidentWatch.Proofs.Interleaving.Steady
import IncidentWatch.Proofs.Store.Growth

/-!
# Incidents in custody

Whoever holds the lock of a release has its incidents in custody: until the lock is
given back nobody else creates or changes an incident of that release. In return an
incident is only created under the lock of its release and when no active one has its
cause, and only updated under that lock, from the record last read or written there.
Alerts are delivered while no lock is held.

`custody` puts this down as a discipline. The situation is then always `Consistent`:
every record is sound, causes are not duplicated, and whatever a finished batch was
filed under still has all its keys.
-/

set_option autoImplicit false

namespace IncidentWatch.Interleaving

variable {e : Engine} {t u : Nat} {s s' s'' : Situation} {i : Incident} {release : ReleaseKey}

/-! ## Between two answers -/

/-- What can happen while an operation waits for an answer: nothing to what it holds and has seen,
and nothing to the incidents in its custody. -/
structure Meanwhile (t : Nat) (s s' : Situation) : Prop where
  held : held t s'.history = held t s.history
  seen : seen t s'.history = seen t s.history
  grows : s.store.Evolves s'.store
  shelf : ∀ release, Interleaving.held t s.history = some release →
    s'.store.shelf release = s.store.shelf release

namespace Meanwhile

theorem refl (t : Nat) (s : Situation) : Meanwhile t s s :=
  ⟨rfl, rfl, .refl s.store, fun _ _ => rfl⟩

theorem trans (first : Meanwhile t s s') (second : Meanwhile t s' s'') : Meanwhile t s s'' where
  held := second.held.trans first.held
  seen := second.seen.trans first.seen
  grows := first.grows.trans second.grows
  shelf := fun release here =>
    (second.shelf release (first.held.trans here)).trans (first.shelf release here)

/-- Incidents in custody are read as before. -/
theorem get? {id : String} (meanwhile : Meanwhile t s s')
    (locked : Interleaving.held t s.history = some i.releaseKey)
    (stored : s.store.get? id = some i) : s'.store.get? id = some i :=
  Store.get?_of_shelf_eq (meanwhile.shelf _ locked) stored rfl

end Meanwhile

/-! ## What may be asked for -/

/-- An incident may be created under the lock of its release, when no active one has its cause. -/
structure MayCreate (t : Nat) (s : Situation) (i : Incident) : Prop where
  locked : held t s.history = some i.releaseKey
  sound : i.Sound
  lacks : s.store.Lacks i

/-- An incident may be updated from its stored record, which was last read or written under the lock
of its release. -/
structure MayUpdate (t : Nat) (s : Situation) (i old : Incident) : Prop where
  locked : held t s.history = some old.releaseKey
  known : lastKnown t i.id s.history = some old
  stored : s.store.get? i.id = some old
  evolves : old.Evolves i
  sound : i.Sound

/-- What an operation may ask for. -/
def Allowed (t : Nat) (s : Situation) : Request → Prop
  | .lock _ => held t s.history = none
  | .unlock release => held t s.history = some release
  | .create i => MayCreate t s i
  | .update i => ∃ old, MayUpdate t s i old
  | .deliver _ _ => held t s.history = none
  | _ => True

/-! ## What always holds -/

/-- The id of the incident that a batch was filed under. -/
def filedUnder : BatchOutcome → Option String
  | .created id => some id
  | .merged id => some id
  | .skipped _ => none

/-- The incident that a batch was filed under has the keys. -/
def KeptUnder (outcome : BatchOutcome) (keys : List EventKey) (store : Store) : Prop :=
  ∀ id, filedUnder outcome = some id → store.Keeps id keys

theorem KeptUnder.of_evolves {outcome : BatchOutcome} {keys : List EventKey} {store store' : Store}
    (kept : KeptUnder outcome keys store) (grows : store.Evolves store') :
    KeptUnder outcome keys store' :=
  fun id filed => (kept id filed).of_evolves grows

/-- What an operation that has ended leaves in the store: the keys of a batch are with the incident
that it was filed under. -/
def Filed (e : Engine) : Operation → Outcome → Store → Prop
  | .batch events _, .batch (.ok outcome), store =>
      KeptUnder outcome ((e.classified (Engine.counting events)).map (·.key)) store
  | _, _, _ => True

theorem Filed.of_evolves {op : Operation} {outcome : Outcome} {store store' : Store}
    (filed : Filed e op outcome store) (grows : store.Evolves store') :
    Filed e op outcome store' := by
  unfold Filed at filed ⊢
  split
  · exact filed.of_evolves grows
  · trivial

/-- What holds of every situation. -/
structure Consistent (e : Engine) (s : Situation) : Prop where
  sound : ∀ i ∈ s.store.incidents, i.Sound
  deduplicated : s.store.Deduplicated
  filed : ∀ t op outcome, (⟨t, .ended op outcome⟩ : Entry) ∈ s.history → Filed e op outcome s.store

/-! ## What a request does to the store -/

/-- A request leaves the store as it is, creates an incident or updates one. -/
theorem serve_cases {c : Collaborators} {before after : Store} {r : Request} {a : r.Answer}
    (served : serve c before r = some (a, after)) :
    after = before ∨ (∃ i, r = .create i ∧ before.create i = .ok after) ∨
      ∃ i, r = .update i ∧ before.update i = .ok after := by
  unfold serve at served
  split at served
  · rename_i i
    split at served
    · cases served
      exact Or.inl rfl
    · split at served
      · rename_i created
        cases served
        exact Or.inr (Or.inl ⟨i, rfl, created⟩)
      · cases served
        exact Or.inl rfl
  · rename_i i
    split at served
    · cases served
      exact Or.inl rfl
    · split at served
      · rename_i updated
        cases served
        exact Or.inr (Or.inr ⟨i, rfl, updated⟩)
      · cases served
        exact Or.inl rfl
  · split at served
    · cases served
      exact Or.inl rfl
    · cases served
      exact Or.inl rfl
  · split at served
    · cases served
      exact Or.inl rfl
    · split at served
      · cases served
        exact Or.inl rfl
      · cases served
  · cases served
    exact Or.inl rfl

section Answered

variable {c : Collaborators} {r : Request} {a : r.Answer} {store : Store}
  (allowed : Allowed t s r) (served : serve c s.store r = some (a, store))
include allowed served

theorem grows_of_allowed : s.store.Evolves store := by
  rcases serve_cases served with rfl | ⟨i, rfl, created⟩ | ⟨i, rfl, updated⟩
  · exact .refl s.store
  · exact Store.evolves_create created
  · obtain ⟨old, may⟩ := allowed
    exact Store.evolves_update updated may.stored may.evolves

/-- Only the incidents in the custody of an operation are touched by it. -/
theorem shelf_of_allowed (apart : ∀ k, held t s.history = some k → k ≠ release) :
    store.shelf release = s.store.shelf release := by
  rcases serve_cases served with rfl | ⟨i, rfl, created⟩ | ⟨i, rfl, updated⟩
  · rfl
  · exact Store.shelf_create created (apart _ allowed.locked)
  · obtain ⟨old, may⟩ := allowed
    exact Store.shelf_update updated may.stored may.evolves.releaseKey (apart _ may.locked)

theorem consistent_answered (consistent : Consistent e s) :
    Consistent e (s.answered t r a store) := by
  have grows := grows_of_allowed allowed served
  refine ⟨?_, ?_, ?_⟩
  · show ∀ i ∈ store.incidents, i.Sound
    rcases serve_cases served with rfl | ⟨i, rfl, created⟩ | ⟨i, rfl, updated⟩
    · exact consistent.sound
    · intro j member
      rcases Store.mem_create created member with rfl | old
      · exact allowed.sound
      · exact consistent.sound j old
    · intro j member
      obtain ⟨old, may⟩ := allowed
      rcases Store.mem_update updated member with rfl | unchanged
      · exact may.sound
      · exact consistent.sound j unchanged
  · show store.Deduplicated
    rcases serve_cases served with rfl | ⟨i, rfl, created⟩ | ⟨i, rfl, updated⟩
    · exact consistent.deduplicated
    · exact consistent.deduplicated.create created allowed.lacks
    · obtain ⟨old, may⟩ := allowed
      exact consistent.deduplicated.update updated may.stored may.evolves
  · intro u op outcome member
    rcases List.mem_cons.1 member with same | earlier
    · cases same
    · exact (consistent.filed u op outcome earlier).of_evolves grows

theorem meanwhile_answered (apart : u ≠ t)
    (exclusive : ∀ k, held t s.history = some k → held u s.history ≠ some k) :
    Meanwhile u s (s.answered t r a store) where
  held := held_of_other apart
  seen := seen_of_other apart
  grows := grows_of_allowed allowed served
  shelf := by
    intro release here
    refine shelf_of_allowed allowed served fun k holds => ?_
    rintro rfl
    exact exclusive k holds here

end Answered

theorem consistent_note {what : Happening} (consistent : Consistent e s)
    (promised : ∀ op outcome, what = .ended op outcome → Filed e op outcome s.store) :
    Consistent e (s.note t what) := by
  refine ⟨consistent.sound, consistent.deduplicated, fun u op outcome member => ?_⟩
  rcases List.mem_cons.1 member with same | earlier
  · cases same
    exact promised op outcome rfl
  · exact consistent.filed u op outcome earlier

/-! ## The discipline -/

/-- Incidents are created and changed in custody. -/
def custody (e : Engine) : Discipline where
  inv := Consistent e
  rely := Meanwhile
  allowed := Allowed
  final := fun op outcome s => Filed e op outcome s.store
  rely_refl := Meanwhile.refl
  rely_trans := Meanwhile.trans
  final_of_rely := fun meanwhile filed => filed.of_evolves meanwhile.grows
  start :=
    { sound := fun _ member => nomatch member
      deduplicated := fun _ member => nomatch member
      filed := fun _ _ _ member => nomatch member }
  lock_alone := fun allowed => allowed
  inv_answered := fun consistent allowed served => consistent_answered allowed served consistent
  inv_note := fun consistent promised => consistent_note consistent promised
  rely_answered := fun apart _ allowed exclusive served =>
    meanwhile_answered allowed served apart exclusive
  rely_note := fun apart =>
    ⟨held_of_other apart, seen_of_other apart, .refl _, fun _ _ => rfl⟩

end IncidentWatch.Interleaving
