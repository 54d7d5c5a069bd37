import IncidentWatch.Fault
import IncidentWatch.Owner.Codec

/-!
# Pages of a listing

A listing is asked for page by page. Pages are numbered from one and have a
size, and the place where a page starts is a product of machine words, which may
lie outside the words. The page that is answered carries, besides its items, how
many items there are in all and whether more follow.
-/

set_option autoImplicit false

namespace IncidentWatch

/-- Which page of a listing is asked for. -/
structure Pagination where
  page : UInt64
  pageSize : UInt64
  deriving DecidableEq, Repr

namespace Pagination

/-- The page size of a listing that does not name one. -/
def defaultSize : UInt64 := 100

/-- A page of a size, both at least one. -/
def ofPage (page pageSize : UInt64) : Pagination :=
  ⟨max page 1, max pageSize 1⟩

/-- The first page of a size. -/
def first (pageSize : UInt64) : Pagination :=
  ofPage 1 pageSize

/-- The page after this one. -/
def next (p : Pagination) : Except Fault Pagination := do
  return { p with page := ← Word.uint64 .addOverflow (p.page.toNat + 1) }

/-- How many items stand on the pages before this one. -/
def offset (p : Pagination) : Except Fault UInt64 := do
  let before ← Word.uint64 .subtractOverflow ((p.page.toNat : Int) - 1)
  Word.uint64 .multiplyOverflow ((before.toNat * p.pageSize.toNat : Nat) : Int)

theorem next_eq (p : Pagination) :
    p.next = (Word.uint64 .addOverflow (p.page.toNat + 1)).map fun w => { p with page := w } := by
  unfold next
  cases Word.uint64 .addOverflow (p.page.toNat + 1) <;> rfl

/-- The next page has the next number. -/
theorem page_of_next {p q : Pagination} (h : p.next = .ok q) :
    q.page.toNat = p.page.toNat + 1 := by
  rw [next_eq] at h
  cases hw : Word.uint64 .addOverflow (p.page.toNat + 1) with
  | error fault =>
    rw [hw] at h
    cases h
  | ok w =>
    have hvalue := Word.toNat_of_uint64 hw
    have hnext : w.toNat = p.page.toNat + 1 := by omega
    rw [hw] at h
    cases h
    exact hnext

/-- Page by page, the numbers that are left become fewer. -/
theorem size_sub_next_lt {p q : Pagination} (h : p.next = .ok q) :
    UInt64.size - q.page.toNat < UInt64.size - p.page.toNat := by
  have hnext := page_of_next h
  have hlt : q.page.toNat < UInt64.size := q.page.toNat_lt_size
  omega

open Decode

def encode (p : Pagination) : Json :=
  .object [("page", .int p.page.toNat), ("page_size", .int p.pageSize.toNat)]

def fields : Fields Pagination :=
  ((Fields.none Pagination.mk).required "page" size
    |>.required "page_size" size)

def decode : Decoder Pagination := fields.record "Pagination"

end Pagination

/-- One page of a listing. -/
structure Page (α : Type) where
  items : List α
  total : UInt64
  page : UInt64
  pageSize : UInt64
  hasMore : Bool
  deriving DecidableEq

namespace Page

variable {α : Type}

/-- The page of a list. -/
def ofList (items : List α) (p : Pagination) : Except Fault (Page α) := do
  let start ← p.offset
  let shown := (items.drop start.toNat).take p.pageSize.toNat
  let stop ← Word.uint64 .addOverflow ((start.toNat + shown.length : Nat) : Int)
  return ⟨shown, UInt64.ofNat items.length, p.page, p.pageSize, stop.toNat < items.length⟩

open Decode

def encode (item : α → Json) (p : Page α) : Json :=
  .object [("items", .arr (p.items.map item)), ("total", .int p.total.toNat),
    ("page", .int p.page.toNat), ("page_size", .int p.pageSize.toNat),
    ("has_more", .bool p.hasMore)]

def fields (item : Decoder α) : Fields (Page α) :=
  ((Fields.none Page.mk).required "items" (list item)
    |>.required "total" size
    |>.required "page" size
    |>.required "page_size" size
    |>.required "has_more" bool)

def decode (item : Decoder α) : Decoder (Page α) := (fields item).record "Page"

end Page

end IncidentWatch
