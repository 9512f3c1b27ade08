import ItemCatalog.Message.Basic
import ItemCatalog.Proofs.Page
import Mathlib.Order.Bounds.Defs

/-!
# The numbers of a page

What is asked for and what is answered are stated in words of several widths, with and without a
sign. Main statement: `page_numbers_exact`, by which none of the numbers wraps around on its way:
they are what they are as integers, cut off where the narrower word ends.
-/

namespace ItemCatalog
variable {size : Nat} {page page' : Page Item} {w : Window}

/-- The pages that are counted are as few as hold all elements. -/
theorem isLeast_pageCount (hsize : 0 < size) (total : Nat) :
    IsLeast {n | total ≤ n * size} (pageCount total size) :=
  ⟨le_pageCount_mul hsize, fun _ h => (pageCount_le_iff hsize).2 h⟩

namespace PageReply

theorem toInt_totalElements (page : Page Item) (w : Window) :
    (ofPage page w).totalElements.toInt = min (page.total : Int) 9223372036854775807 := by
  have hkept : (ofPage page w).totalElements.toInt = (min page.total maxTotal : Nat) := by
    refine Int64.toInt_ofNat_of_lt ?_
    rw [maxTotal]
    omega
  rw [hkept, maxTotal]
  omega

theorem toInt_totalPages (page : Page Item) (w : Window) :
    (ofPage page w).totalPages.toInt =
      min (pageCount page.total w.pageSize.toNat : Int) 2147483647 := by
  have hkept : (ofPage page w).totalPages.toInt =
      (min (pageCount page.total w.pageSize.toNat) maxPages : Nat) := by
    refine Int32.toInt_ofNat_of_lt ?_
    rw [maxPages]
    omega
  rw [hkept, maxPages]
  omega

/-- More elements do not make a reply state fewer of them. -/
theorem totalElements_mono (h : page.total ≤ page'.total) (w : Window) :
    (ofPage page w).totalElements.toInt ≤ (ofPage page' w).totalElements.toInt := by
  rw [toInt_totalElements, toInt_totalElements]
  omega

/-- More elements do not make a reply state fewer pages. -/
theorem totalPages_mono (h : page.total ≤ page'.total) (w : Window) :
    (ofPage page w).totalPages.toInt ≤ (ofPage page' w).totalPages.toInt := by
  have hcount := pageCount_mono h w.pageSize.toNat
  rw [toInt_totalPages, toInt_totalPages]
  omega

end PageReply

namespace Window
open PageReply

/-- Clamping any two numbers gives a page number of at least one and a page size from one to a
hundred, keeps numbers that are so already, and changes nothing when it is done again. The offset of
a window is the number of elements on the pages before it: the subtraction and the product stay
within the word, and the offset is the same with a sign, and in any word of at least thirty-eight
bits. The number of pages is the least that holds all elements, so a window begins among the
elements just if its page is counted. A reply states the number of elements and that of the pages,
cut off at the largest that it can state: neither is negative, nor less where there are more
elements. -/
theorem page_numbers_exact :
    (∀ p size : Int32,
      1 ≤ (clamp p size).startPage.toNat ∧ (clamp p size).startPage.toNat ≤ 2147483647 ∧
      1 ≤ (clamp p size).pageSize.toNat ∧ (clamp p size).pageSize.toNat ≤ 100 ∧
      (1 ≤ p.toInt → ((clamp p size).startPage.toNat : Int) = p.toInt) ∧
      (1 ≤ size.toInt → size.toInt ≤ 100 →
        ((clamp p size).pageSize.toNat : Int) = size.toInt) ∧
      clamp (clamp p size).startPage.toInt32 (clamp p size).pageSize.toInt32 = clamp p size) ∧
    (∀ w : Window,
      1 ≤ w.startPage.toUInt64.toNat ∧
      (w.startPage.toUInt64.toNat - 1) * w.pageSize.toUInt64.toNat < 18446744073709551616 ∧
      (w.offset.toNat : Int) = ((w.startPage.toNat : Int) - 1) * w.pageSize.toNat ∧
      w.offset.toInt64.toInt = w.offset.toNat ∧
      ∀ bits, 38 ≤ bits → (w.offset.toBitVec.setWidth bits).toNat = w.offset.toNat) ∧
    (∀ total size, 1 ≤ size → IsLeast {n | total ≤ n * size} (pageCount total size) ∧
      pageCount total size ≤ total) ∧
    (∀ (w : Window) (total : Nat),
      w.offset.toNat < total ↔ w.startPage.toNat ≤ pageCount total w.pageSize.toNat) ∧
    ∀ (w : Window) (page : Page Item),
      (ofPage page w).totalElements.toInt = min (page.total : Int) 9223372036854775807 ∧
      (ofPage page w).totalPages.toInt =
        min (pageCount page.total w.pageSize.toNat : Int) 2147483647 ∧
      0 ≤ (ofPage page w).totalElements.toInt ∧ 0 ≤ (ofPage page w).totalPages.toInt ∧
      ∀ page' : Page Item, page.total ≤ page'.total →
        (ofPage page w).totalElements.toInt ≤ (ofPage page' w).totalElements.toInt ∧
        (ofPage page w).totalPages.toInt ≤ (ofPage page' w).totalPages.toInt := by
  refine ⟨?clamped, ?offset, ?pages, offset_lt_iff, ?reply⟩
  case clamped =>
    intro p size
    refine ⟨(clamp p size).startPage_pos, (clamp p size).startPage_le, (clamp p size).pageSize_pos,
      (clamp p size).pageSize_le, startPage_clamp, ?_, clamp_self _⟩
    intro hpos hle
    rw [pageSize_clamp hpos, Int.min_eq_left hle]
  case offset =>
    intro w
    have hstart := w.startPage_pos
    have hbound := w.toNat_offset_le
    rw [toNat_offset] at hbound
    have hexact : (w.offset.toNat : Int) = ((w.startPage.toNat : Int) - 1) * w.pageSize.toNat := by
      rw [toNat_offset, Int.natCast_mul, Int.natCast_sub hstart]
      rfl
    simp only [UInt32.toNat_toUInt64]
    exact ⟨hstart, by omega, hexact, w.toInt_offset, fun _ => w.toNat_setWidth_offset⟩
  case pages =>
    intro total size hsize
    exact ⟨isLeast_pageCount hsize total, pageCount_le total size⟩
  case reply =>
    intro w page
    have helements := toInt_totalElements page w
    have hpages := toInt_totalPages page w
    refine ⟨helements, hpages, by omega, by omega, fun page' h => ?_⟩
    exact ⟨totalElements_mono h w, totalPages_mono h w⟩

/-- The last page there can be, of more elements than a reply can state. -/
theorem last_page_exact :
    (clamp 2147483647 100).offset.toInt64.toInt = 214748364600 ∧
      ((clamp 2147483647 100).offset.toBitVec.setWidth 64).toNat = 214748364600 ∧
      (clamp 2147483647 100).startPage.toNat ≤ pageCount 214748364601 100 ∧
      pageCount 214748364601 100 ≤ 2147483647 ∧
      ∀ items : List Item,
        (ofPage ⟨items, 18446744073709551614⟩ (clamp 2147483647 100)).totalElements.toInt ≤
          (ofPage ⟨items, 18446744073709551615⟩ (clamp 2147483647 100)).totalElements.toInt ∧
        (ofPage ⟨items, 18446744073709551615⟩ (clamp 2147483647 100)).totalPages.toInt =
          2147483647 := by
  obtain ⟨hclamped, hoffset, hpages, hcounted, hreply⟩ := page_numbers_exact
  obtain ⟨-, -, -, -, hstart, hsize, -⟩ := hclamped 2147483647 100
  have hstart := hstart (by decide)
  have hsize := hsize (by decide) (by decide)
  have hsizeNat : (clamp 2147483647 100).pageSize.toNat = 100 := by
    have hvalue : (100 : Int32).toInt = 100 := by decide
    omega
  obtain ⟨-, -, hexact, hsigned, hword⟩ := hoffset (clamp 2147483647 100)
  have hword := hword 64 (by decide)
  rw [hstart, hsize] at hexact
  have hvalue : ((2147483647 : Int32).toInt - 1) * (100 : Int32).toInt = 214748364600 := by decide
  obtain ⟨hleast, -⟩ := hpages 214748364601 100 (by decide)
  have hholds : 214748364601 ≤ 2147483647 * 100 := by decide
  have hmany : 2147483647 ≤ pageCount 18446744073709551615 100 := by decide
  refine ⟨by omega, by omega, ?_, hleast.2 hholds, fun items => ⟨?_, ?_⟩⟩
  · rw [← hsizeNat]
    exact (hcounted _ _).1 (by omega)
  · obtain ⟨-, -, -, -, hmono⟩ := hreply (clamp 2147483647 100) ⟨items, 18446744073709551614⟩
    exact (hmono ⟨items, 18446744073709551615⟩ (Nat.le_succ _)).1
  · obtain ⟨-, htotal, -⟩ := hreply (clamp 2147483647 100) ⟨items, 18446744073709551615⟩
    rw [htotal, hsizeNat]
    exact Int.min_eq_right (Int.ofNat_le.2 hmany)

end Window
end ItemCatalog
