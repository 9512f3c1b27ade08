/-!
# Pages

Windows into an ordered collection, and the number of pages that a collection fills. Main
statements: a window's offset is what its numbers say, without overflow.
-/

namespace ItemCatalog

/-- The largest page size that a request may ask for. -/
def maxRequestedPageSize : Int32 := 1000

/-- The largest page size that storage is asked for. -/
def maxPageSize : Int32 := 100

/-- A window that storage may be asked for: pages count from one. -/
structure Window where
  startPage : UInt32
  pageSize : UInt32
  startPage_pos : 0 < startPage.toNat
  startPage_le : startPage.toNat ≤ 2147483647
  pageSize_pos : 0 < pageSize.toNat
  pageSize_le : pageSize.toNat ≤ 100
deriving DecidableEq

namespace Window

/-- A positive 32-bit number without its sign. -/
theorem toNat_toUInt32_of_pos {a : Int32} (h : 0 < a.toInt) :
    (a.toUInt32.toNat : Int) = a.toInt := by
  have hb : a.toBitVec.toInt = a.toInt := rfl
  have hn : a.toUInt32.toNat = a.toBitVec.toNat := rfl
  rw [hn, ← hb]
  have := BitVec.toInt_eq_toNat_cond a.toBitVec
  rw [hb] at this
  rw [hb, this]
  split at this
  · rw [if_pos ‹_›]
  · have := a.toBitVec.isLt
    omega

/-- The larger of a number and a lower bound, or the smaller of it and an upper one. -/
def clampInt (low high a : Int32) : Int32 :=
  if a.toInt < low.toInt then low else if high.toInt < a.toInt then high else a

theorem le_clampInt {low high : Int32} (h : low.toInt ≤ high.toInt) (a : Int32) :
    low.toInt ≤ (clampInt low high a).toInt ∧ (clampInt low high a).toInt ≤ high.toInt := by
  unfold clampInt
  split
  · omega
  · split <;> omega

/-- The largest 32-bit number. -/
def maxInt : Int32 := 2147483647

/-- The window nearest to the given numbers. -/
def clamp (startPage pageSize : Int32) : Window :=
  have hs := @le_clampInt 1 maxInt (by decide) startPage
  have hp := @le_clampInt 1 maxPageSize (by decide) pageSize
  have h1 : (1 : Int32).toInt = 1 := by decide
  have hm : maxInt.toInt = 2147483647 := by decide
  have hx : maxPageSize.toInt = 100 := by decide
  have hs' := @toNat_toUInt32_of_pos (clampInt 1 maxInt startPage) (by omega)
  have hp' := @toNat_toUInt32_of_pos (clampInt 1 maxPageSize pageSize) (by omega)
  { startPage := (clampInt 1 maxInt startPage).toUInt32
    pageSize := (clampInt 1 maxPageSize pageSize).toUInt32
    startPage_pos := by omega
    startPage_le := by omega
    pageSize_pos := by omega
    pageSize_le := by omega }

/-- How many elements stand before a window. -/
def offset (w : Window) : UInt64 := (w.startPage.toUInt64 - 1) * w.pageSize.toUInt64

/-- The offset is exact: nothing in its computation wraps around. -/
theorem toNat_offset (w : Window) :
    w.offset.toNat = (w.startPage.toNat - 1) * w.pageSize.toNat := by
  have h1 := w.startPage_pos
  have h2 := w.startPage_le
  have h4 := w.pageSize_le
  have hs : (w.startPage.toUInt64 - 1).toNat = w.startPage.toNat - 1 := by
    rw [UInt64.toNat_sub_of_le _ _ (by
      rw [UInt64.le_iff_toNat_le, UInt32.toNat_toUInt64]; exact h1), UInt32.toNat_toUInt64]
    rfl
  have hb : (w.startPage.toNat - 1) * w.pageSize.toNat < UInt64.size :=
    Nat.lt_of_le_of_lt (Nat.mul_le_mul (by omega : _ ≤ 2147483647) h4) (by decide)
  rw [offset, UInt64.toNat_mul, hs, UInt32.toNat_toUInt64, Nat.mod_eq_of_lt hb]

/-- The elements of a list that a window shows. -/
def slice {α : Type} (w : Window) (l : List α) : List α :=
  (l.drop w.offset.toNat).take w.pageSize.toNat

end Window

/-- A window of elements, and how many elements there are in all. -/
structure Page (α : Type) where
  items : List α
  total : Nat
deriving DecidableEq

/-- How many pages of a given size a number of elements fills; none if pages have no size. -/
def pageCount (total pageSize : Nat) : Nat :=
  if pageSize = 0 then 0 else (total + (pageSize - 1)) / pageSize

end ItemCatalog
