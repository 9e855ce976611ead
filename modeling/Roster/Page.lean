/-!
# Pages

A list is answered page by page. Pages are counted from one, and a page never holds more than `Page.maxSize` items, whatever size is asked for. Page numbers and sizes have 32 bits, offsets and totals 64.
-/

namespace Roster

structure Page where
  number : UInt32
  size : UInt32
deriving DecidableEq, Repr

namespace Page

def defaultNumber : UInt32 := 1

def defaultSize : UInt32 := 10

/-- The most items that a page holds. -/
def maxSize : UInt32 := 50000

/-- The page asked for, where nothing said means the first page of the default size. -/
def ofRequest (number size : Option UInt32) : Page := ⟨number.getD defaultNumber, size.getD defaultSize⟩

/-- The page with its size brought down to `maximum`. -/
def clamped (maximum : UInt32) (page : Page) : Page := { page with size := min page.size maximum }

/-- The most items that this page holds. -/
def limit (page : Page) : UInt32 := min page.size maxSize

/-- The number of items before the page. -/
def offset (page : Page) : UInt64 :=
  (if page.number = 0 then 0 else page.number - 1).toUInt64 * page.limit.toUInt64

inductive Fault
  | number
  | size
deriving DecidableEq, Repr

/-- What is wrong with the page asked for. -/
def faults (page : Page) : List Fault :=
  (if page.number < 1 then [.number] else []) ++ (if page.size = 0 then [.size] else [])

/-- The account of a page that goes with its items. -/
structure Meta where
  pageNumber : UInt32
  pageSize : UInt32
  totalItems : UInt64
  totalPages : UInt64
deriving DecidableEq, Repr

/-- The quotient rounded up. -/
def ceilDiv (a b : UInt64) : UInt64 := if a % b = 0 then a / b else a / b + 1

/-- The account of a page of a list with `total` items. -/
def account (page : Page) (total : UInt64) : Meta where
  pageNumber := page.number
  pageSize := page.limit
  totalItems := total
  totalPages := ceilDiv total (max page.limit 1).toUInt64

end Page

end Roster
