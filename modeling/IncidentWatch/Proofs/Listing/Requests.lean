import IncidentWatch.Proofs.Health.Streaks
import IncidentWatch.Proofs.Listing.Pages
import IncidentWatch.Proofs.Sequential.Conversation

/-!
# Requests for a listing

Whoever asks for a listing names the page and its size. The size is kept within bounds, and
the page is kept from being the zeroth, so nothing is subtracted from zero. But no bound is
set to the number of the page, and where the page starts is a product: that is the one place
where arithmetic has no result (`Pagination.offset_of_counted`).

So a request for a listing is answered with its page unless as many items as there are words
stand before it (`listing_is_answered_iff`). Such a request gets no answer at all, though
the page that it asks for is empty (`farPage_is_not_answered`).
-/

set_option autoImplicit false

namespace IncidentWatch

/-! ## Where a page starts -/

namespace Pagination

theorem offset_eq_multiplyOverflow {p : Pagination} (counted : 1 ≤ p.page.toNat)
    (beyond : UInt64.size ≤ p.place) : p.offset = .error .multiplyOverflow := by
  have size : UInt64.size = 18446744073709551616 := rfl
  rw [offset_of_counted counted, Word.uint64, if_neg]
  omega

end Pagination

namespace Store

/-- A page that starts outside the words is not found. -/
theorem list_eq_multiplyOverflow {s : Store} {f : IncidentFilter} {p : Pagination}
    (counted : 1 ≤ p.page.toNat) (beyond : UInt64.size ≤ p.place) :
    s.list f p = .error .multiplyOverflow := by
  unfold list Page.ofList
  rw [Pagination.offset_eq_multiplyOverflow counted beyond]
  rfl

end Store

/-- A page past the end is empty, and nothing follows it. -/
theorem Slice.past_the_end {items : List Incident} {number size : Nat} {page : Page Incident}
    (slice : Slice items number size page) (past : items.length ≤ (number - 1) * size) :
    page.items = [] ∧ page.hasMore = false := by
  refine ⟨?_, Bool.eq_false_iff.2 fun more => ?_⟩
  · rw [slice.shown, List.drop_eq_nil_of_le past, List.take_nil]
  · have within := slice.more.1 more
    have ending : (number - 1) * size ≤ number * size :=
      Nat.mul_le_mul_right size (Nat.sub_le number 1)
    omega

namespace Api

open IncidentWatch.Interleaving IncidentWatch.Sequential

namespace IncidentQuery

/-- No page is the zeroth. -/
theorem counted_pagination (q : IncidentQuery) : 1 ≤ q.pagination.page.toNat := by
  unfold pagination Pagination.ofPage
  rw [Pagination.toNat_max_one]
  exact Nat.le_max_right _ _

/-- A page has at least one place, and not more than the largest one. -/
theorem sized_pagination (q : IncidentQuery) :
    1 ≤ q.pagination.pageSize.toNat ∧ q.pagination.pageSize.toNat ≤ maxPageSize.toNat := by
  unfold pagination Pagination.ofPage
  rw [Pagination.toNat_max_one]
  generalize q.pageSize.getD Pagination.defaultSize = asked
  have bounded : (min asked maxPageSize).toNat ≤ maxPageSize.toNat := by
    rw [show min asked maxPageSize = if asked ≤ maxPageSize then asked else maxPageSize from rfl]
    split
    · rename_i small
      exact UInt64.le_iff_toNat_le.1 small
    · exact Nat.le_refl _
  exact ⟨Nat.le_max_right _ _, Nat.max_le.2 ⟨bounded, by decide⟩⟩

end IncidentQuery

/-! ## The answer to a request -/

/-- The answer that shows a page. -/
def Response.ofPage (page : Page Incident) : Response :=
  .json 200 (page.encode fun i => i.view.encode)

section Request

variable {e : Engine} {r : HttpRequest} {now : Instant} {q : IncidentQuery}
  {c : Nat → Collaborators} {n : Nat} {s : Store}

theorem handle_listing (getting : r.method = "GET")
    (addressed : (splitTarget r.target).1 = "/v1/incidents")
    (decoded : IncidentQuery.ofPairs? (readPairs (splitTarget r.target).2) = some q) :
    handle e r now = (listIncidents q >>= fun response =>
      pure { response with isWithheld := false }) := by
  have known : Route.named.lookup "/v1/incidents" = some .incidents := rfl
  rw [handle_get getting addressed known nofun, serve, decoded]

/-- Who asks for a page that is found is shown it. -/
theorem converse_listing {page : Page Incident} (willing : (c n).refusal = none)
    (found : s.list q.filter q.pagination = .ok page) :
    converse c (listIncidents q >>= fun response =>
        pure { response with isWithheld := false }) n s =
      ⟨[⟨.list q.filter q.pagination, .ok page⟩, ⟨.succeeded .repository, (c (n + 1)).answer _⟩],
        some (.ofPage page), s⟩ := by
  have served : Interleaving.serve (c n) s (.list q.filter q.pagination) = some (.ok page, s) := by
    simp only [Interleaving.serve, willing, found]
  show converse c (.ask (.list q.filter q.pagination) _) n s = _
  rw [converse, served]
  rfl

/-- Who asks for a page that meets a fault gets no answer. -/
theorem converse_listing_of_fault {fault : Fault} (willing : (c n).refusal = none)
    (faulty : s.list q.filter q.pagination = .error fault) :
    converse c (listIncidents q >>= fun response =>
        pure { response with isWithheld := false }) n s = ⟨[], none, s⟩ := by
  have served : Interleaving.serve (c n) s (.list q.filter q.pagination) = none := by
    simp only [Interleaving.serve, willing, faulty]
  show converse c (.ask (.list q.filter q.pagination) _) n s = _
  rw [converse, served]

end Request

/-- Whoever asks a store that refuses nothing for a listing, with a query that can be read, is shown
the page of its number, unless as many items as there are words stand before that page: then the
product of the earlier pages and their size overflows, which no other step does, and there is no
answer. A page past the end is shown as well; it is empty, and has no more after it. -/
theorem listing_is_answered_unless_far (e : Engine) (r : HttpRequest) (now : Instant)
    (q : IncidentQuery) (c : Nat → Collaborators) (n : Nat) (s : Store) (getting : r.method = "GET")
    (addressed : (splitTarget r.target).1 = "/v1/incidents")
    (decoded : IncidentQuery.ofPairs? (readPairs (splitTarget r.target).2) = some q)
    (willing : ∀ k, (c k).refusal = none) (room : s.size < UInt64.size) :
    (1 ≤ q.pagination.page.toNat ∧ 1 ≤ q.pagination.pageSize.toNat ∧
      q.pagination.pageSize.toNat ≤ IncidentQuery.maxPageSize.toNat) ∧
    (UInt64.size ≤ (q.pagination.page.toNat - 1) * q.pagination.pageSize.toNat →
      s.list q.filter q.pagination = .error .multiplyOverflow ∧
      converse c (handle e r now) n s = ⟨[], none, s⟩) ∧
    ((q.pagination.page.toNat - 1) * q.pagination.pageSize.toNat < UInt64.size →
      ∃ page, s.list q.filter q.pagination = .ok page ∧
        Slice (s.matching q.filter) q.pagination.page.toNat q.pagination.pageSize.toNat page ∧
        ((s.matching q.filter).length ≤
            (q.pagination.page.toNat - 1) * q.pagination.pageSize.toNat →
          page.items = [] ∧ page.hasMore = false) ∧
        (converse c (handle e r now) n s).result = some (.ofPage page) ∧
        (converse c (handle e r now) n s).store = s) := by
  have counted := q.counted_pagination
  rw [handle_listing getting addressed decoded]
  refine ⟨⟨counted, q.sized_pagination⟩, fun beyond => ?_, fun fits => ?_⟩
  · have faulty := Store.list_eq_multiplyOverflow (s := s) (f := q.filter) counted beyond
    exact ⟨faulty, converse_listing_of_fault (willing n) faulty⟩
  · have few : (s.matching q.filter).length < UInt64.size :=
      Nat.lt_of_le_of_lt (List.length_filter_le _ _) room
    obtain ⟨page, found⟩ := Page.exists_ofList counted fits few
    have slice : Slice (s.matching q.filter) q.pagination.page.toNat
        q.pagination.pageSize.toNat page := by
      unfold IncidentQuery.pagination Pagination.ofPage
      rw [Pagination.toNat_max_one, Pagination.toNat_max_one]
      exact Store.slice_of_list few found
    rw [converse_listing (willing n) found]
    exact ⟨page, found, slice, slice.past_the_end, rfl, rfl⟩

/-- A request for the active incidents, by pages of two. -/
def pageOfTwo (number : String) : HttpRequest :=
  ⟨"GET", "/v1/incidents?status=active&page_size=2&page=" ++ number, none, ""⟩

/-- Three incidents fill two pages of two: the second shows the last of them, and the ninth
nothing. -/
theorem listing_is_answered_unless_far_of_two :
    let s := Store.ofHistory Store.threeCreated
    let talk := fun number => converse (fun _ => Sample.willing "")
      (handle Sample.engine (pageOfTwo number) .epoch) 0 s
    (∃ page, (talk "2").result = some (.ofPage page) ∧ page.items.map (·.id) = ["c"] ∧
      page.hasMore = false) ∧
    ∃ page, (talk "9").result = some (.ofPage page) ∧ page.items = [] ∧ page.hasMore = false := by
  have room : (Store.ofHistory Store.threeCreated).size < UInt64.size := by decide +kernel
  have decoded : ∀ number ∈ ["2", "9"], IncidentQuery.ofPairs?
      (readPairs (splitTarget (pageOfTwo number).target).2) = some
        { status := some .active, page := some (if number = "2" then 2 else 9),
          pageSize := some 2 } := by decide +kernel
  have answered := fun number member addressed => listing_is_answered_unless_far Sample.engine
    (pageOfTwo number) .epoch _ (fun _ => Sample.willing "") 0 (Store.ofHistory Store.threeCreated)
    rfl addressed (decoded number member) (fun _ => rfl) room
  obtain ⟨-, -, shown⟩ := answered "2" (by simp) (by decide +kernel)
  obtain ⟨second, -, slice, -, told, -⟩ := shown (by decide +kernel)
  obtain ⟨-, -, shown'⟩ := answered "9" (by simp) (by decide +kernel)
  obtain ⟨ninth, -, -, past, told', -⟩ := shown' (by decide +kernel)
  refine ⟨⟨second, told, ?_, ?_⟩, ninth, told', past (by decide +kernel)⟩
  · rw [slice.shown]
    decide +kernel
  · rw [Bool.eq_false_iff, ne_eq, slice.more]
    decide +kernel

/-- A request for the last page that a word can number. -/
def farPage : HttpRequest :=
  ⟨"GET", "/v1/incidents?page=18446744073709551615", none, ""⟩

/-- The last page that a word can number lies far past the end of a store of nothing. The query can
be read, but whoever asks for that page gets no answer. -/
theorem farPage_is_not_answered :
    IncidentQuery.ofPairs? (readPairs (splitTarget farPage.target).2) =
        some { page := some 18446744073709551615 } ∧
      (converse (fun _ => Sample.willing "") (handle Sample.engine farPage .epoch) 0
        Store.empty).result.isNone = true := by
  decide +kernel

end Api

end IncidentWatch
