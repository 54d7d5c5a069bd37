import IncidentWatch.Engine.Program

/-!
# Going through pages

The pages of a list, from any place on, are consecutive pieces of it: the items of
a page followed by those from the next page on are the items from this page on
(`drop_place_of_next`), and after the last page nothing is left
(`drop_place_of_last`).
-/

set_option autoImplicit false

namespace IncidentWatch

/-- Arithmetic in two steps has a value when both steps have one. -/
theorem Fault.bind_eq_ok_iff {α β : Type} {x : Except Fault α} {f : α → Except Fault β} {b : β} :
    x >>= f = .ok b ↔ ∃ a, x = .ok a ∧ f a = .ok b := by
  cases x with
  | error fault => simp [bind, Except.bind]
  | ok a => simp [bind, Except.bind]

namespace Pagination

/-- How many items stand before a page. -/
def place (p : Pagination) : Nat :=
  (p.page.toNat - 1) * p.pageSize.toNat

/-- A page that has an offset has it at its place, and is numbered from one. -/
theorem place_of_offset {p : Pagination} {start : UInt64} (found : p.offset = .ok start) :
    start.toNat = p.place ∧ 1 ≤ p.page.toNat := by
  unfold offset at found
  obtain ⟨w, before, product⟩ := Fault.bind_eq_ok_iff.1 found
  have earlier := Word.toNat_of_uint64 before
  have value := Word.toNat_of_uint64 product
  have count : w.toNat = p.page.toNat - 1 := by omega
  rw [count] at value
  exact ⟨Int.ofNat_inj.1 value, by omega⟩

/-- Of a page that is not the zeroth, only the product may lie outside the words. -/
theorem offset_of_counted {p : Pagination} (counted : 1 ≤ p.page.toNat) :
    p.offset = Word.uint64 .multiplyOverflow (p.place : Nat) := by
  have small : p.page.toNat < 18446744073709551616 := p.page.toNat_lt
  obtain ⟨w, before⟩ : ∃ w, Word.uint64 .subtractOverflow ((p.page.toNat : Int) - 1) = .ok w :=
    ⟨_, Word.uint64_eq_ok_iff.2 ⟨by omega, rfl⟩⟩
  have count : w.toNat = p.page.toNat - 1 := by
    have := Word.toNat_of_uint64 before
    omega
  have product : p.offset =
      Word.uint64 .multiplyOverflow ((w.toNat * p.pageSize.toNat : Nat) : Int) := by
    simp only [offset, before, bind, Except.bind]
  rw [product, count, place]

theorem pageSize_of_next {p q : Pagination} (next : p.next = .ok q) : q.pageSize = p.pageSize := by
  rw [next_eq] at next
  cases number : Word.uint64 .addOverflow (p.page.toNat + 1) with
  | error fault =>
      rw [number] at next
      cases next
  | ok w =>
      rw [number] at next
      cases next
      rfl

/-- The next page starts where this one ends. -/
theorem place_of_next {p q : Pagination} (next : p.next = .ok q) (counted : 1 ≤ p.page.toNat) :
    q.place = p.place + p.pageSize.toNat := by
  have number : q.page.toNat - 1 = p.page.toNat - 1 + 1 := by
    have := page_of_next next
    omega
  unfold place
  rw [pageSize_of_next next, number, Nat.succ_mul]

theorem toNat_max_one (w : UInt64) : (max w 1).toNat = max w.toNat 1 := by
  rw [show max w 1 = if w ≤ 1 then 1 else w from rfl]
  by_cases small : w ≤ 1
  · have bound : w.toNat ≤ 1 := UInt64.le_iff_toNat_le.1 small
    rw [if_pos small, Nat.max_eq_right bound]
    rfl
  · have bound : ¬ w.toNat ≤ 1 := fun le => small (UInt64.le_iff_toNat_le.2 le)
    rw [if_neg small, Nat.max_eq_left (by omega)]

theorem place_first (pageSize : UInt64) : (first pageSize).place = 0 := by
  simp [place, first, ofPage, toNat_max_one]

theorem pageSize_first_pos (pageSize : UInt64) : 0 < (first pageSize).pageSize.toNat := by
  simp only [first, ofPage, toNat_max_one]
  omega

end Pagination

namespace Page

variable {α : Type}

/-- A page holds the items of its place, and more follow when the list goes on. -/
theorem of_ofList_eq_ok {items : List α} {p : Pagination} {page : Page α}
    (found : ofList items p = .ok page) :
    1 ≤ p.page.toNat ∧ page.items = (items.drop p.place).take p.pageSize.toNat ∧
      page.hasMore = decide (p.place + page.items.length < items.length) := by
  unfold ofList at found
  obtain ⟨w, start, rest⟩ := Fault.bind_eq_ok_iff.1 found
  obtain ⟨last, stop, made⟩ := Fault.bind_eq_ok_iff.1 rest
  obtain ⟨value, counted⟩ := Pagination.place_of_offset start
  have ending : last.toNat = w.toNat +
      ((items.drop w.toNat).take p.pageSize.toNat).length := by
    have := Word.toNat_of_uint64 stop
    omega
  cases made
  dsimp only
  rw [ending, value]
  exact ⟨counted, rfl, rfl⟩

/-- A page tells how many items there are in all. -/
theorem total_ofList {items : List α} {p : Pagination} {page : Page α}
    (found : ofList items p = .ok page) : page.total = UInt64.ofNat items.length := by
  unfold ofList at found
  obtain ⟨w, -, rest⟩ := Fault.bind_eq_ok_iff.1 found
  obtain ⟨last, -, made⟩ := Fault.bind_eq_ok_iff.1 rest
  cases made
  rfl

/-- A page whose place is a word is found in a list of fewer items than a word can count, be it
past the end. -/
theorem exists_ofList {items : List α} {p : Pagination} (counted : 1 ≤ p.page.toNat)
    (fits : p.place < UInt64.size) (room : items.length < UInt64.size) :
    ∃ page, ofList items p = .ok page := by
  have size : UInt64.size = 18446744073709551616 := rfl
  obtain ⟨start, product⟩ : ∃ start, Word.uint64 .multiplyOverflow (p.place : Nat) = .ok start :=
    ⟨_, Word.uint64_eq_ok_iff.2 ⟨by omega, rfl⟩⟩
  have offset : p.offset = .ok start := (Pagination.offset_of_counted counted).trans product
  obtain ⟨stop, ending⟩ : ∃ stop, Word.uint64 .addOverflow ((start.toNat +
      ((items.drop start.toNat).take p.pageSize.toNat).length : Nat) : Int) = .ok stop := by
    refine ⟨_, Word.uint64_eq_ok_iff.2 ⟨?_, rfl⟩⟩
    have place := (Pagination.place_of_offset offset).1
    rw [List.length_take, List.length_drop]
    omega
  exact ⟨_, Fault.bind_eq_ok_iff.2 ⟨start, offset, Fault.bind_eq_ok_iff.2 ⟨stop, ending, rfl⟩⟩⟩

/-- The items of a page are items of the list. -/
theorem mem_of_mem_ofList {items : List α} {p : Pagination} {page : Page α} {a : α}
    (found : ofList items p = .ok page) (member : a ∈ page.items) : a ∈ items := by
  obtain ⟨-, shown, -⟩ := of_ofList_eq_ok found
  rw [shown] at member
  exact List.mem_of_mem_drop (List.mem_of_mem_take member)

end Page

namespace Work

variable {items : List Incident} {p q : Pagination} {page : Page Incident}

/-- Only a full page that the list goes on after has a next one. -/
theorem of_nextPage_eq_some {next : Except Fault Pagination}
    (found : Page.ofList items p = .ok page) (goesOn : nextPage? page p = some next) :
    p.next = next ∧ page.items = (items.drop p.place).take p.pageSize.toNat ∧
      p.place + p.pageSize.toNat < items.length := by
  obtain ⟨-, shown, more⟩ := Page.of_ofList_eq_ok found
  unfold nextPage? at goesOn
  split at goesOn
  · rename_i both
    rw [Bool.and_eq_true] at both
    have beyond : p.place + page.items.length < items.length := by simpa [more] using both.1
    rw [shown, List.length_take, List.length_drop] at beyond
    exact ⟨Option.some.inj goesOn, shown, by omega⟩
  · cases goesOn

theorem pageSize_of_nextPage (found : Page.ofList items p = .ok page)
    (goesOn : nextPage? page p = some (.ok q)) : q.pageSize = p.pageSize :=
  Pagination.pageSize_of_next (of_nextPage_eq_some found goesOn).1

/-- With a next page, the items from this one on are its own and those from the next one on. -/
theorem drop_place_of_next (found : Page.ofList items p = .ok page)
    (goesOn : nextPage? page p = some (.ok q)) :
    items.drop p.place = page.items ++ items.drop q.place := by
  obtain ⟨counted, -, -⟩ := Page.of_ofList_eq_ok found
  obtain ⟨next, shown, -⟩ := of_nextPage_eq_some found goesOn
  rw [Pagination.place_of_next next counted, ← List.drop_drop, shown, List.take_append_drop]

/-- In a list of fewer items than a word can count, the next page has a number, and starts within
the list. -/
theorem next_within (found : Page.ofList items p = .ok page) (sized : 0 < p.pageSize.toNat)
    (room : items.length < UInt64.size) {next : Except Fault Pagination}
    (goesOn : nextPage? page p = some next) :
    ∃ q, next = .ok q ∧ 1 ≤ q.page.toNat ∧ q.place ≤ items.length := by
  have size : UInt64.size = 18446744073709551616 := rfl
  obtain ⟨counted, -, -⟩ := Page.of_ofList_eq_ok found
  obtain ⟨rfl, -, beyond⟩ := of_nextPage_eq_some found goesOn
  have numbered : p.page.toNat - 1 ≤ p.place := Nat.le_mul_of_pos_right _ sized
  obtain ⟨w, number⟩ : ∃ w, Word.uint64 .addOverflow (p.page.toNat + 1) = .ok w :=
    ⟨_, Word.uint64_eq_ok_iff.2 ⟨by omega, rfl⟩⟩
  have next : p.next = .ok { p with page := w } := by
    rw [Pagination.next_eq, number]
    rfl
  refine ⟨_, next, ?_, ?_⟩
  · rw [Pagination.page_of_next next]
    omega
  · rw [Pagination.place_of_next next counted]
    omega

/-- Without a next page, the items from this one on are its own. -/
theorem drop_place_of_last (found : Page.ofList items p = .ok page)
    (sized : 0 < p.pageSize.toNat) (last : nextPage? page p = none) :
    items.drop p.place = page.items := by
  obtain ⟨-, shown, more⟩ := Page.of_ofList_eq_ok found
  unfold nextPage? at last
  split at last
  · cases last
  · rename_i stops
    have reached : items.length ≤ p.place + p.pageSize.toNat := by
      refine Nat.le_of_not_lt fun beyond => ?_
      have full : page.items.length = p.pageSize.toNat := by
        rw [shown, List.length_take, List.length_drop]
        omega
      refine stops ?_
      rw [Bool.and_eq_true, more, decide_eq_true_eq, full]
      refine ⟨by omega, ?_⟩
      cases items' : page.items with
      | nil =>
          rw [items'] at full
          exact absurd full.symm (Nat.ne_of_gt sized)
      | cons i rest => rfl
    rw [shown, List.take_of_length_le]
    rw [List.length_drop]
    omega

end Work

end IncidentWatch
