/-!
# Paging

A page of a result is a window on it: how many entities are passed over, and how many are taken. The
wanted page size is kept within bounds, and pages are counted from one. The bounds themselves are
mended: there is no empty page, and an upper bound below the lower one does not count.
-/

namespace KeyedFilter

/-- A part of a result: `limit` entities after the first `offset`. -/
structure Window where
  offset : UInt64
  limit : UInt64
  deriving DecidableEq, Repr, Inhabited

/-- The entities in the window. -/
def Window.cut {α : Type} (window : Window) (entities : List α) : List α :=
  (entities.drop window.offset.toNat).take window.limit.toNat

/-- The page size where none is asked for, and its bounds. -/
structure Paging where
  perPage : UInt64 := 20
  minPerPage : UInt64 := 1
  maxPerPage : UInt64 := 100
  deriving DecidableEq, Repr

namespace Paging

instance : Inhabited Paging := ⟨{}⟩

/-- The least page size that is given. -/
def least (paging : Paging) : Nat :=
  max paging.minPerPage.toNat 1

/-- The greatest page size that is given. -/
def greatest (paging : Paging) : Nat :=
  max paging.maxPerPage.toNat paging.least

/-- The page size for a wanted one. -/
def limit (paging : Paging) (perPage : Option UInt64) : Nat :=
  max paging.least (min (perPage.getD paging.perPage).toNat paging.greatest)

/-- The number of a page; there is no page zero. -/
def pageNumber (page : Option UInt64) : Nat :=
  max (page.getD 1).toNat 1

/-- How many entities stand before a page. What a word cannot hold is its greatest value. -/
def offset (paging : Paging) (page perPage : Option UInt64) : Nat :=
  min ((pageNumber page - 1) * paging.limit perPage) (UInt64.size - 1)

/-- The window of a page. -/
def window (paging : Paging) (page perPage : Option UInt64) : Window :=
  ⟨UInt64.ofNat (paging.offset page perPage), UInt64.ofNat (paging.limit perPage)⟩

end Paging

end KeyedFilter
