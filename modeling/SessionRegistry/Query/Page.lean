import SessionRegistry.Error

/-!
# Pages

A listing is answered one page at a time. Pages are counted from one.

* `slice_append_drop`: the rows up to the end of a page, followed by the rest, are the listing.
-/

namespace SessionRegistry

/-- Which page of a listing is wanted. -/
structure PageRequest where
  /-- The number of the page, counted from one. -/
  number : UInt32 := 1
  /-- The number of rows on a page. -/
  size : UInt32 := 10
  deriving DecidableEq, Repr, Inhabited

/-- One page of a listing. -/
structure Page (α : Type) where
  rows : List α
  /-- The number of rows on all pages together. -/
  total : Nat
  number : UInt32
  size : UInt32
  deriving DecidableEq, Repr

/-- The number of pages of the given size that a number of rows fills. -/
def pageCount (total : Nat) (size : UInt32) : Nat :=
  if size = 0 then 0 else (total + (size.toNat - 1)) / size.toNat

namespace PageRequest

/-- The page number must be positive and the page size between one and the limit. -/
def validate (page : PageRequest) (limit : UInt32) : Except Error Unit :=
  if page.number < 1 then .error (.invalidPagination (.numberTooSmall page.number))
  else if page.size < 1 ∨ limit < page.size then
    .error (.invalidPagination (.sizeOutOfRange limit page.size))
  else .ok ()

/-- The number of rows on the pages before this one. -/
def offset (page : PageRequest) : Nat :=
  (page.number.toNat - 1) * page.size.toNat

/-- The rows of a listing that stand on the page. -/
def slice {α : Type} (page : PageRequest) (rows : List α) : List α :=
  (rows.drop page.offset).take page.size.toNat

/-- The page of a listing. -/
def of {α : Type} (page : PageRequest) (rows : List α) : Page α where
  rows := page.slice rows
  total := rows.length
  number := page.number
  size := page.size

/-- The rows before a page, the rows on it and the rows after it are the listing. -/
theorem slice_append_drop {α : Type} (page : PageRequest) (rows : List α) :
    rows.take page.offset ++ (page.slice rows ++ rows.drop (page.offset + page.size.toNat)) =
      rows := by
  rw [slice, ← List.drop_drop, List.take_append_drop, List.take_append_drop]

end PageRequest

/-- The number of pages of the listing that a page belongs to. -/
def Page.pages {α : Type} (page : Page α) : Nat :=
  pageCount page.total page.size

/-- The page with every row replaced by its image. -/
def Page.map {α β : Type} (f : α → β) (page : Page α) : Page β :=
  { page with rows := page.rows.map f }

end SessionRegistry
