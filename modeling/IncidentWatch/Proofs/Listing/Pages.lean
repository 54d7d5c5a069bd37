import IncidentWatch.Proofs.Interleaving.Sample
import IncidentWatch.Proofs.Sequential.Alone
import IncidentWatch.Proofs.Store.History

/-!
# The pages of a store

A listing is cut into pages, and every page is a slice of it: the items at the places of
its number, how many items there are in all, and whether more follow (`Slice`). A page
past the end is found as well, and shows nothing.

Turning the pages from the first on, as long as more follow, gives the listing once
(`flatMap_of_turned`), and there is a last page (`exists_turned`). So whoever goes through a
store by pages sees what the history of the store says, whatever the size of the pages.
-/

set_option autoImplicit false

namespace IncidentWatch

/-! ## One page -/

/-- A page of a number and a size, both at least one, shows the items at its places. -/
structure Slice (items : List Incident) (number size : Nat) (page : Page Incident) : Prop where
  shown : page.items = (items.drop ((number - 1) * size)).take size
  total : page.total.toNat = items.length
  more : page.hasMore = true ↔ number * size < items.length

namespace Slice

variable {items : List Incident} {number size : Nat} {page : Page Incident}

/-- What stands from the place of a page on is what it shows and what stands after it. -/
theorem drop_eq (slice : Slice items number size page) (counted : 1 ≤ number) :
    items.drop ((number - 1) * size) = page.items ++ items.drop (number * size) := by
  have ending : number * size = (number - 1) * size + size := by
    rw [← Nat.succ_mul, Nat.succ_eq_add_one, Nat.sub_add_cancel counted]
  rw [slice.shown, ending, ← List.drop_drop, List.take_append_drop]

theorem drop_eq_nil (slice : Slice items number size page) (ends : page.hasMore = false) :
    items.drop (number * size) = [] := by
  refine List.drop_eq_nil_of_le (Nat.le_of_not_lt fun beyond => ?_)
  have more := slice.more.2 beyond
  rw [ends] at more
  cases more

end Slice

namespace Store

variable {s : Store} {f : IncidentFilter} {number size : UInt64} {page : Page Incident}
  {pages : List (Page Incident)}

theorem place_ofPage (number size : UInt64) :
    (Pagination.ofPage number size).place = (max number.toNat 1 - 1) * max size.toNat 1 := by
  simp only [Pagination.place, Pagination.ofPage, Pagination.toNat_max_one]

theorem slice_of_list (room : (s.matching f).length < UInt64.size)
    (found : s.list f (.ofPage number size) = .ok page) :
    Slice (s.matching f) (max number.toNat 1) (max size.toNat 1) page := by
  obtain ⟨-, shown, more⟩ := Page.of_ofList_eq_ok found
  have sized : (Pagination.ofPage number size).pageSize.toNat = max size.toNat 1 :=
    Pagination.toNat_max_one size
  have ending : max number.toNat 1 * max size.toNat 1 =
      (max number.toNat 1 - 1) * max size.toNat 1 + max size.toNat 1 := by
    rw [← Nat.succ_mul, Nat.succ_eq_add_one, Nat.sub_add_cancel (Nat.le_max_right _ _)]
  rw [place_ofPage, sized] at shown
  refine ⟨shown, ?_, ?_⟩
  · rw [Page.total_ofList found, UInt64.toNat_ofNat_of_lt' room]
  · rw [more, decide_eq_true_eq, place_ofPage, ending, shown, List.length_take, List.length_drop]
    omega

theorem exists_list (room : (s.matching f).length < UInt64.size)
    (fits : (max number.toNat 1 - 1) * max size.toNat 1 < UInt64.size) :
    ∃ page, s.list f (.ofPage number size) = .ok page := by
  have counted : 1 ≤ (Pagination.ofPage number size).page.toNat := by
    simp only [Pagination.ofPage, Pagination.toNat_max_one]
    exact Nat.le_max_right _ _
  rw [← place_ofPage] at fits
  exact Page.exists_ofList counted fits room

/-! ## Turning the pages -/

/-- The pages of a listing from one number on, turned as long as more follow. -/
inductive Turned (s : Store) (f : IncidentFilter) (size : UInt64) :
    UInt64 → List (Page Incident) → Prop
  | last {number : UInt64} {page : Page Incident}
      (found : s.list f (.ofPage number size) = .ok page) (ends : page.hasMore = false) :
      Turned s f size number [page]
  | next {number following : UInt64} {page : Page Incident} {pages : List (Page Incident)}
      (found : s.list f (.ofPage number size) = .ok page) (more : page.hasMore = true)
      (succeeds : following.toNat = number.toNat + 1) (rest : Turned s f size following pages) :
      Turned s f size number (page :: pages)

/-- Together, the pages from a number on show what stands from its place on. -/
theorem flatMap_of_turned (turned : Turned s f size number pages)
    (room : (s.matching f).length < UInt64.size) (counted : 1 ≤ number.toNat) :
    pages.flatMap (·.items) =
      (s.matching f).drop ((number.toNat - 1) * max size.toNat 1) := by
  induction turned with
  | @last number page found ends =>
      have slice := slice_of_list room found
      rw [Nat.max_eq_left counted] at slice
      rw [slice.drop_eq counted, slice.drop_eq_nil ends, List.flatMap_cons, List.flatMap_nil]
  | @next number following page pages found more succeeds rest inductionHypothesis =>
      have slice := slice_of_list room found
      rw [Nat.max_eq_left counted] at slice
      have later := inductionHypothesis (by omega)
      rw [succeeds, Nat.add_sub_cancel] at later
      rw [slice.drop_eq counted, List.flatMap_cons, later]

/-- The pages come to an end: each full page has left fewer items to show. -/
theorem exists_turned (f : IncidentFilter) (size : UInt64)
    (room : (s.matching f).length < UInt64.size) (number : UInt64) (counted : 1 ≤ number.toNat)
    (within : (number.toNat - 1) * max size.toNat 1 ≤ (s.matching f).length) :
    ∃ pages, Turned s f size number pages := by
  have fits : (max number.toNat 1 - 1) * max size.toNat 1 < UInt64.size := by
    rw [Nat.max_eq_left counted]
    exact Nat.lt_of_le_of_lt within room
  obtain ⟨page, found⟩ := exists_list room fits
  cases more : page.hasMore with
  | false => exact ⟨[page], .last found more⟩
  | true =>
      have slice := slice_of_list room found
      rw [Nat.max_eq_left counted] at slice
      have beyond := slice.more.1 more
      have numbered : number.toNat ≤ number.toNat * max size.toNat 1 :=
        Nat.le_mul_of_pos_right _ (Nat.le_max_right _ _)
      have succeeds : (UInt64.ofNat (number.toNat + 1)).toNat = number.toNat + 1 :=
        UInt64.toNat_ofNat_of_lt' (by omega)
      obtain ⟨pages, rest⟩ := exists_turned f size room (UInt64.ofNat (number.toNat + 1))
        (by omega) (by
          rw [succeeds, Nat.add_sub_cancel]
          exact Nat.le_of_lt beyond)
      exact ⟨page :: pages, .next found more succeeds rest⟩
termination_by UInt64.size - number.toNat
decreasing_by
  omega

/-! ## What pages show -/

/-- The last records that a filter accepts, in the order of their creation. -/
def matchingRecords (history : List Write) (f : IncidentFilter) : List Incident :=
  (lastRecords history).filter f.accepts

theorem matching_ofHistory (history : List Write) (f : IncidentFilter) :
    (ofHistory history).matching f = matchingRecords history f := by
  rw [matching, incidents_ofHistory, matchingRecords]

theorem size_ofHistory (history : List Write) :
    (ofHistory history).size = (createdIds history).length := by
  rw [← ids_ofHistory, List.length_map, size]

open IncidentWatch.Sequential

/-- In a store that a history of calls has made, of fewer incidents than a word can count, paging is
exact. An update moves nothing. A page whose offset is a word is found, and is the slice of the
matching records of the history. The pages from the first on come to an end, and together they show
each of these records once. Going through all pages gives the same list, of whatever size they are;
and what saving a candidate comes to does not depend on it. -/
theorem pages_show_the_history (history : List Write) (f : IncidentFilter)
    (room : (createdIds history).length < UInt64.size) :
    (∀ i, (ofHistory (history ++ [.update i])).incidents.map (·.id) =
      (ofHistory history).incidents.map (·.id)) ∧
    (∀ number size : UInt64, (max number.toNat 1 - 1) * max size.toNat 1 < UInt64.size →
      ∃ page, (ofHistory history).list f (.ofPage number size) = .ok page ∧
        Slice (matchingRecords history f) (max number.toNat 1) (max size.toNat 1) page) ∧
    (∀ size, (∃ pages, Turned (ofHistory history) f size 1 pages) ∧
      ∀ pages, Turned (ofHistory history) f size 1 pages →
        pages.flatMap (·.items) = matchingRecords history f) ∧
    ((matchingRecords history f).map (·.id)).Nodup ∧
    (∀ cluster ids size n, ∃ n', alone cluster ids (Work.listAll f size).run n
      (ofHistory history) = some (.ok (matchingRecords history f), n', ofHistory history)) ∧
    (∀ cluster ids node size candidate owner now n, ∃ n', alone cluster ids
      (Saving.save node size candidate owner now).run n (ofHistory history) =
        some ((saved candidate owner now (ofHistory history)).1, n',
          (saved candidate owner now (ofHistory history)).2)) := by
  have room' : (ofHistory history).size < UInt64.size := by rwa [size_ofHistory]
  have few : ((ofHistory history).matching f).length < UInt64.size :=
    Nat.lt_of_le_of_lt (List.length_filter_le _ _) room'
  have same := matching_ofHistory history f
  rw [← same]
  refine ⟨?_, ?_, ?_, nodup_ids_matching _ f, ?_, ?_⟩
  · intro i
    rw [ids_ofHistory, ids_ofHistory, createdIds_update]
  · intro number size fits
    obtain ⟨page, found⟩ := exists_list few fits
    exact ⟨page, found, slice_of_list few found⟩
  · intro size
    have start : ((1 : UInt64).toNat - 1) * max size.toNat 1 = 0 := Nat.zero_mul _
    refine ⟨exists_turned f size few 1 (Nat.le_refl 1) (by rw [start]; exact Nat.zero_le _), ?_⟩
    intro pages turned
    rw [flatMap_of_turned turned few (Nat.le_refl 1), start, List.drop_zero]
  · intro cluster ids size n
    exact alone_listAll cluster ids f size n room'
  · intro cluster ids node size candidate owner now n
    exact alone_save cluster ids node size candidate owner now n room'

/-- Three incidents, of which the first is updated at last. -/
def threeCreated : List Write :=
  let incident := Interleaving.Sample.incident
  [.create (incident "a"), .create (incident "b"), .create (incident "c"),
    .update { incident "a" with lastSeen := Interleaving.Sample.settled }]

/-- The second page of two shows the last of three incidents, and a page past the end nothing. -/
theorem pages_show_the_history_of_three :
    (createdIds threeCreated).length < UInt64.size ∧
    (∃ page, (ofHistory threeCreated).list .active (.ofPage 2 2) = .ok page ∧
      page.items.map (·.id) = ["c"] ∧ page.total.toNat = 3 ∧ ¬ page.hasMore = true) ∧
    (∃ page, (ofHistory threeCreated).list .active (.ofPage 9 0) = .ok page ∧
      page.items = []) := by
  have room : (createdIds threeCreated).length < UInt64.size := by decide
  obtain ⟨-, slices, -⟩ := pages_show_the_history threeCreated .active room
  obtain ⟨second, found, slice⟩ := slices 2 2 (by decide)
  obtain ⟨beyond, found', slice'⟩ := slices 9 0 (by decide)
  refine ⟨room, ⟨second, found, ?_, ?_, ?_⟩, beyond, found', ?_⟩
  · rw [slice.shown]
    decide
  · rw [slice.total]
    decide
  · rw [slice.more]
    decide
  · rw [slice'.shown]
    decide

end Store

end IncidentWatch
