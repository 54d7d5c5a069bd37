import IncidentWatch.Proofs.Interleaving.Sample
import IncidentWatch.Proofs.Store.History
import IncidentWatch.Proofs.Store.Paging

/-!
# Listing a store that grows

A listing fetches its pages one by one, and between two pages the store may be written to.
A page is found by how many items stand before it, so a listing is right only if what it
has seen stays where it was. It does: incidents are created at the end, and a merge leaves
the status and the release of the record that it updates, so what a filter accepts is only
ever extended at its end.

That gives the invariant (`Reached`): after so many pages, the listing has the ids of the
first places, in their order, however many were added since. Each page but the last has
been full and something stands after it, so the pages run out once they could hold all that
there is.
-/

set_option autoImplicit false

namespace IncidentWatch

/-! ## What is left of a listing -/

namespace Work

/-- The incidents that are found put after those that were found before. -/
def gathering (found : List Incident) (work : Work (List Incident)) :
    Program (Except EngineError (List Incident)) :=
  work.run.andThen fun result => .done (result.map (found ++ ·))

theorem gathering_nil (work : Work (List Incident)) : gathering [] work = work.run := by
  have same : (fun result : Except EngineError (List Incident) =>
      Program.done (result.map ([] ++ ·))) = .done := by
    funext result
    cases result <;> rfl
  rw [gathering, same, Program.andThen_done]

/-- What follows the answer to a request for a page. -/
def afterPage (f : IncidentFilter) (p : Pagination) :
    Except StoreError (Page Incident) → Program (Except EngineError (List Incident))
  | .error error => .done (.error (.persistence error))
  | .ok page =>
    match nextPage? page p with
    | none => .done (.ok page.items)
    | some (.error fault) => .halt fault
    | some (.ok q) => gathering page.items (listFrom f q)

theorem run_listFrom (f : IncidentFilter) (p : Pagination) :
    (listFrom f p).run = .ask (.list f p) (afterPage f p) := by
  rw [listFrom]
  show Program.ask _ _ = _
  congr 1
  funext answer
  cases answer with
  | error error => rfl
  | ok page =>
      unfold afterPage
      dsimp only
      -- The match of the definition keeps its equation, and stands behind what binds the answer.
      show ExceptT.run _ = _
      unfold ExceptT.bindCont
      dsimp only
      split
      · rename_i last
        rw [last]
        rfl
      · rename_i fault goesOn
        rw [goesOn]
        rfl
      · rename_i q goesOn
        rw [goesOn]
        dsimp only
        unfold gathering
        show (listFrom f q).run.andThen _ = _
        congr 1
        funext result
        cases result <;> rfl

theorem gathering_gathering (found items : List Incident) (work : Work (List Incident)) :
    (gathering items work).andThen (fun result => .done (result.map (found ++ ·))) =
      gathering (found ++ items) work := by
  unfold gathering
  rw [Program.andThen_assoc]
  congr 1
  funext result
  cases result with
  | error error => rfl
  | ok rest =>
      show Program.done _ = Program.done _
      simp [Except.map]

end Work

/-! ## A listing and the calls around it -/

/-- A listing under way: the store, and what is left of the listing. -/
structure Listing where
  store : Store
  rest : Program (Except EngineError (List Incident))

/-- What happens next: the listing fetches a page, or another call writes to the store. -/
inductive Listing.Turn where
  | fetch
  | write (w : Write)

/-- The calls that a listing runs beside: incidents are created, and updated as a merge does it,
which leaves the status and the release as they are stored. -/
def Write.Merges (s : Store) : Write → Prop
  | .create _ => True
  | .update i => ∀ old, s.get? i.id = some old →
      i.status = old.status ∧ i.releaseKey = old.releaseKey

theorem IncidentFilter.accepts_congr (f : IncidentFilter) {i j : Incident}
    (status : i.status = j.status) (release : i.releaseKey = j.releaseKey) :
    f.accepts i = f.accepts j := by
  obtain ⟨name, namespaceName⟩ := ReleaseKey.mk.inj release
  rw [accepts, accepts, status, name, namespaceName]

namespace Listing

variable {l : Listing} {s : Store} {f : IncidentFilter} {w : Write} {size fetched : Nat}

/-- A listing of a store that begins. -/
def start (f : IncidentFilter) (pageSize : UInt64) (s : Store) : Listing :=
  ⟨s, (Work.listAll f pageSize).run⟩

/-- The store answers the next request of the listing. -/
def fetch (l : Listing) : Listing :=
  match l.rest with
  | .ask (.list f p) next =>
    match l.store.list f p with
    | .ok page => { l with rest := next (.ok page) }
    | .error fault => { l with rest := .halt fault }
  | _ => l

def step (l : Listing) : Turn → Listing
  | .fetch => l.fetch
  | .write w => { l with store := l.store.write w }

def after (l : Listing) (turns : List Turn) : Listing :=
  turns.foldl step l

/-- How many pages a schedule fetches. -/
def fetches : List Turn → Nat
  | [] => 0
  | .fetch :: turns => fetches turns + 1
  | .write _ :: turns => fetches turns

/-- A schedule that a listing runs in: its calls create, and update as a merge does it. -/
def Admits : Listing → List Turn → Prop
  | _, [] => True
  | l, .fetch :: turns => Admits l.fetch turns
  | l, .write w :: turns => w.Merges l.store ∧ Admits (l.step (.write w)) turns

/-! ## How far a listing has come -/

/-- The ids of the incidents that a filter accepts, in the order of their creation. -/
def ids (f : IncidentFilter) (s : Store) : List String :=
  (s.matching f).map (·.id)

theorem prefix_ids_write (merges : w.Merges s) : ids f s <+: ids f (s.write w) := by
  refine Store.prefix_ids_matching_write ?_
  rintro i old rfl stored
  obtain ⟨status, release⟩ := merges old stored
  exact f.accepts_congr status release

theorem store_fetch (l : Listing) : l.fetch.store = l.store := by
  unfold fetch
  split
  · split <;> rfl
  · rfl

theorem size_le_after (l : Listing) (turns : List Turn) :
    l.store.size ≤ (l.after turns).store.size := by
  induction turns generalizing l with
  | nil => exact Nat.le_refl _
  | cons turn turns inductionHypothesis =>
      refine Nat.le_trans ?_ (inductionHypothesis (l.step turn))
      cases turn with
      | fetch => exact Nat.le_of_eq (congrArg Store.size l.store_fetch).symm
      | write w => exact l.store.size_le_write w

/-- A listing of the store after so many pages: either it goes on, and what it found are the first
places, after which something stands; or it has ended with what was there at its last page. -/
inductive Reached (first : Store) (f : IncidentFilter) (size fetched : Nat) (l : Listing) : Prop
  | underway (p : Pagination) (found : List Incident)
      (rest : l.rest = Work.gathering found (Work.listFrom f p))
      (number : p.page.toNat = fetched + 1) (sized : p.pageSize.toNat = size)
      (grown : ids f first <+: ids f l.store)
      (places : found.map (·.id) = (ids f l.store).take (fetched * size))
      (behind : fetched = 0 ∨ fetched * size < (ids f l.store).length)
      (accepted : ∀ i ∈ found, f.accepts i = true)
  | ended (found : List Incident) (rest : l.rest = .done (.ok found))
      (covers : ids f first <+: found.map (·.id)) (places : found.map (·.id) <+: ids f l.store)
      (accepted : ∀ i ∈ found, f.accepts i = true)

variable {first : Store} {p : Pagination} {page : Page Incident} {found : List Incident}

/-- The places before the next page are places of the store. -/
theorem place_le_of_behind {places : Nat} (behind : fetched = 0 ∨ fetched * size < places) :
    fetched * size ≤ places := by
  rcases behind with rfl | behind
  · rw [Nat.zero_mul]
    exact Nat.zero_le _
  · exact Nat.le_of_lt behind

theorem reached_start (f : IncidentFilter) (pageSize : UInt64) (s : Store) :
    Reached s f (max pageSize.toNat 1) 0 (start f pageSize s) := by
  refine .underway (.first pageSize) [] (Work.gathering_nil _).symm ?_
    (Pagination.toNat_max_one pageSize) List.prefix_rfl ?_ (Or.inl rfl)
    (fun _ member => nomatch member)
  · exact (Pagination.toNat_max_one 1).trans rfl
  · rw [Nat.zero_mul]
    rfl

/-- A write adds places at the end only, so the first ones stay as they were found. -/
theorem Reached.write (reached : Reached first f size fetched l) (merges : w.Merges l.store) :
    Reached first f size fetched (l.step (.write w)) := by
  have longer : ids f l.store <+: ids f (l.store.write w) := prefix_ids_write merges
  cases reached with
  | underway p found rest number sized grown places behind accepted =>
      refine .underway p found rest number sized (grown.trans longer) ?_ ?_ accepted
      · obtain ⟨added, same⟩ := longer
        rw [places]
        show _ = (ids f (l.store.write w)).take (fetched * size)
        rw [← same, List.take_append_of_le_length (place_le_of_behind behind)]
      · exact behind.imp_right fun more => Nat.lt_of_lt_of_le more longer.length_le
  | ended found rest covers places accepted =>
      exact .ended found rest covers (places.trans longer) accepted

/-- A listing that goes on is answered its page, and goes on with what follows the answer. -/
theorem fetch_gathering (rest : l.rest = Work.gathering found (Work.listFrom f p))
    (answer : l.store.list f p = .ok page) :
    l.fetch = ⟨l.store, (Work.afterPage f p (.ok page)).andThen fun result =>
      .done (result.map (found ++ ·))⟩ := by
  rw [Work.gathering, Work.run_listFrom] at rest
  unfold fetch
  rw [rest]
  simp only [Program.andThen, answer]

/-- A page adds the places of its own to those before it. -/
theorem places_of_page (places : found.map (·.id) = (ids f s).take p.place)
    (answer : s.list f p = .ok page) :
    (found ++ page.items).map (·.id) = (ids f s).take (p.place + p.pageSize.toNat) := by
  obtain ⟨-, shown, -⟩ := Page.of_ofList_eq_ok answer
  rw [List.map_append, places, shown, List.take_add, ids, List.map_take, List.map_drop]

/-- The last page adds all places that are left. -/
theorem places_of_last_page (places : found.map (·.id) = (ids f s).take p.place)
    (answer : s.list f p = .ok page) (sized : 0 < p.pageSize.toNat)
    (last : Work.nextPage? page p = none) : (found ++ page.items).map (·.id) = ids f s := by
  rw [List.map_append, places, ← Work.drop_place_of_last answer sized last, List.map_drop]
  exact List.take_append_drop _ _

theorem accepted_of_page (accepted : ∀ i ∈ found, f.accepts i = true)
    (answer : s.list f p = .ok page) : ∀ i ∈ found ++ page.items, f.accepts i = true := by
  intro i member
  rcases List.mem_append.1 member with earlier | new
  · exact accepted i earlier
  · exact (List.mem_filter.1 (Page.mem_of_mem_ofList answer new)).2

theorem Reached.fetch (reached : Reached first f size fetched l) (positive : 0 < size)
    (room : l.store.size < UInt64.size) : Reached first f size (fetched + 1) l.fetch := by
  cases reached with
  | ended found rest covers places accepted =>
      have same : l.fetch = l := by
        unfold Listing.fetch
        rw [rest]
      rw [same]
      exact .ended found rest covers places accepted
  | underway p found rest number sized grown places behind accepted =>
      have few : (l.store.matching f).length < UInt64.size :=
        Nat.lt_of_le_of_lt (List.length_filter_le _ _) room
      have place : p.place = fetched * size := by
        rw [Pagination.place, number, sized, Nat.add_sub_cancel]
      have within : p.place ≤ (l.store.matching f).length := by
        rw [ids, List.length_map] at behind
        rw [place]
        exact place_le_of_behind behind
      have positive' : 0 < p.pageSize.toNat := sized ▸ positive
      rw [← place] at places
      obtain ⟨page, answer⟩ : ∃ page, l.store.list f p = .ok page :=
        Page.exists_ofList (by omega) (Nat.lt_of_le_of_lt within few) few
      have accepted' := accepted_of_page accepted answer
      have fetches := fetch_gathering rest answer
      unfold Work.afterPage at fetches
      dsimp only at fetches
      -- The listing ends with the last page, cannot run out of numbers, or turns the page.
      split at fetches
      · rename_i last
        have all := places_of_last_page places answer positive' last
        rw [fetches]
        exact .ended (found ++ page.items) rfl (all.symm ▸ grown) (all ▸ List.prefix_rfl) accepted'
      · rename_i fault goesOn
        obtain ⟨q, same, -⟩ := Work.next_within answer positive' few goesOn
        cases same
      · rename_i q goesOn
        obtain ⟨next, -, beyond⟩ := Work.of_nextPage_eq_some answer goesOn
        have ending : p.place + p.pageSize.toNat = (fetched + 1) * size := by
          rw [place, sized, Nat.succ_mul]
        rw [Work.gathering_gathering] at fetches
        rw [fetches]
        refine .underway q (found ++ page.items) rfl ?_ ?_ grown ?_ (Or.inr ?_) accepted'
        · rw [Pagination.page_of_next next, number]
        · rw [Pagination.pageSize_of_next next, sized]
        · rw [← ending]
          exact places_of_page places answer
        · rw [ids, List.length_map, ← ending]
          exact beyond

/-- What a listing has reached after a schedule: each turn adds to it or leaves it. -/
theorem reached_after {turns : List Turn} (reached : Reached first f size fetched l)
    (positive : 0 < size) (admits : l.Admits turns)
    (room : (l.after turns).store.size < UInt64.size) :
    Reached first f size (fetched + fetches turns) (l.after turns) := by
  induction turns generalizing l fetched with
  | nil => exact reached
  | cons turn turns inductionHypothesis =>
      have room' : l.store.size < UInt64.size :=
        Nat.lt_of_le_of_lt (l.size_le_after (turn :: turns)) room
      cases turn with
      | fetch =>
          have later := inductionHypothesis (reached.fetch positive room') admits room
          rw [Nat.add_right_comm, Nat.add_assoc] at later
          exact later
      | write w =>
          obtain ⟨merges, admits'⟩ := admits
          exact inductionHypothesis (reached.write merges) admits' room

/-- A listing of the active incidents, over any store and with pages of any size, beside calls that
create incidents and updates as a merge does them. Once its pages could hold all active incidents it
has ended, however its pages and the calls take turns. It meets no fault and no error; it has found
each incident that was active when it began just once, and none twice; and it has them in the order
of their creation. -/
theorem listing_misses_nobody (s : Store) (pageSize : UInt64) (turns : List Turn)
    (admits : (start .active pageSize s).Admits turns)
    (room : ((start .active pageSize s).after turns).store.size < UInt64.size) :
    (1 ≤ fetches turns →
      (((start .active pageSize s).after turns).store.matching .active).length ≤
        fetches turns * max pageSize.toNat 1 →
      ∃ found, ((start .active pageSize s).after turns).rest = .done (.ok found)) ∧
    (∀ fault, ((start .active pageSize s).after turns).rest ≠ .halt fault) ∧
    ∀ result, ((start .active pageSize s).after turns).rest = .done result →
      ∃ found, result = .ok found ∧
        (∀ i ∈ s.incidents, i.status = .active → (found.map (·.id)).count i.id = 1) ∧
        (found.map (·.id)).Nodup ∧ (∀ i ∈ found, i.status = .active) ∧
        ids .active s <+: found.map (·.id) ∧
        found.map (·.id) <+: ids .active ((start .active pageSize s).after turns).store := by
  have reached := reached_after (reached_start .active pageSize s)
    (Nat.lt_of_lt_of_le Nat.one_pos (Nat.le_max_right _ _)) admits room
  rw [Nat.zero_add] at reached
  generalize (start .active pageSize s).after turns = last at reached
  cases reached with
  | underway p found rest number sized grown places behind accepted =>
      rw [Work.gathering, Work.run_listFrom] at rest
      refine ⟨?_, ?_, ?_⟩
      · intro some' enough
        rcases behind with none' | more
        · omega
        · rw [ids, List.length_map] at more
          omega
      · intro fault halted
        rw [rest] at halted
        cases halted
      · intro result done
        rw [rest] at done
        cases done
  | ended found rest covers places accepted =>
      refine ⟨fun _ _ => ⟨found, rest⟩, ?_, ?_⟩
      · intro fault halted
        rw [rest] at halted
        cases halted
      · intro result done
        rw [rest] at done
        cases done
        have distinct : (found.map (·.id)).Nodup :=
          (last.store.nodup_ids_matching .active).sublist places.sublist
        refine ⟨found, rfl, ?_, distinct, ?_, covers, places⟩
        · intro i member active
          have listed : i.id ∈ ids .active s :=
            List.mem_map_of_mem (List.mem_filter.2 ⟨member, IncidentFilter.accepts_active.2 active⟩)
          exact List.count_eq_one_of_mem distinct (covers.subset listed)
        · intro i member
          exact IncidentFilter.accepts_active.1 (accepted i member)

open Interleaving.Sample

/-- Two incidents, both active. -/
def twoCreated : Store :=
  .ofHistory [.create (incident "a"), .create (incident "b")]

/-- After the first page of one incident, another incident is created, and the first one is merged
into; then two pages follow. -/
def growing : List Turn :=
  [.fetch, .write (.create (incident "c")),
    .write (.update { incident "a" with lastSeen := settled }), .fetch, .fetch]

theorem listing_misses_nobody_while_growing :
    (start .active 1 twoCreated).Admits growing ∧
    ((start .active 1 twoCreated).after growing).store.size < UInt64.size ∧
    ∃ found, ((start .active 1 twoCreated).after growing).rest = .done (.ok found) ∧
      ["a", "b"] <+: found.map (·.id) ∧ (found.map (·.id)).Nodup := by
  have admits : (start .active 1 twoCreated).Admits growing := by
    simp only [growing, Admits, step, store_fetch, Write.Merges, start, true_and, and_true]
    intro old stored
    cases stored
    exact ⟨rfl, rfl⟩
  have final : ((start .active 1 twoCreated).after growing).store =
      (twoCreated.write (.create (incident "c"))).write
        (.update { incident "a" with lastSeen := settled }) := by
    simp only [growing, after, List.foldl, step, store_fetch, start]
  have room : ((start .active 1 twoCreated).after growing).store.size < UInt64.size := by
    rw [final]
    decide
  obtain ⟨ends, -, right⟩ := listing_misses_nobody twoCreated 1 growing admits room
  obtain ⟨found, done⟩ := ends (by decide) (by rw [final]; decide)
  obtain ⟨_, same, -, distinct, -, covers, -⟩ := right _ done
  cases same
  exact ⟨admits, room, found, done, covers, distinct⟩

end Listing

end IncidentWatch
