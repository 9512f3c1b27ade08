import ItemCatalog.Proofs.Message.Check
import ItemCatalog.Proofs.Message.Page
import ItemCatalog.Proofs.Service.Course
import ItemCatalog.Proofs.Storage.Listing
import ItemCatalog.Sql.Statement
import Mathlib.Data.List.Basic

/-!
# The pages of the catalogue

What callers see who go through the pages one after another. Main statement: `pages_partition`, by
which the pages of one size, put together, are all stored items in their order, each of them once.

## Main definitions

* `ItemMessage.Before`: the strict order of items as callers see it.
-/

namespace ItemCatalog

/-! ## The order as callers see it -/

/-- Whether a point in time inside a message is strictly before another. -/
def Timestamp.Before (a b : Timestamp) : Prop :=
  a.seconds.toInt < b.seconds.toInt ∨
    a.seconds.toInt = b.seconds.toInt ∧ a.nanos.toInt < b.nanos.toInt

/-- Whether an item inside a message is strictly before another: by the seconds and nanoseconds of
its creation, then by the text of its identifier. -/
def ItemMessage.Before (a b : ItemMessage) : Prop :=
  ∃ s u, a.createdAt = some s ∧ b.createdAt = some u ∧ (s.Before u ∨ s = u ∧ a.id < b.id)

theorem Timestamp.before_ofInstant {a b : Instant} (h : a.Before b) :
    (ofInstant a).Before (ofInstant b) := by
  have hnanos (n : Fin 2000000000) : (Int32.ofNat n.val).toInt = n.val :=
    Int32.toInt_ofNat_of_lt (by omega)
  rcases h with h | ⟨hseconds, h⟩
  · exact Or.inl h
  · refine Or.inr ⟨hseconds, ?_⟩
    change (Int32.ofNat a.nanos.val).toInt < (Int32.ofNat b.nanos.val).toInt
    rw [hnanos, hnanos]
    omega

/-- Callers see the order in which items are listed. -/
theorem ItemMessage.before_ofItem {a b : Item} (h : a.Before b) : (ofItem a).Before (ofItem b) := by
  refine ⟨_, _, rfl, rfl, ?_⟩
  rcases h with h | ⟨hcreated, h⟩
  · exact Or.inl (Timestamp.before_ofInstant h)
  · exact Or.inr ⟨congrArg Timestamp.ofInstant hcreated, Identifier.text_lt_text h⟩

namespace Service
open Storage (Table)

/-! ## One page -/

/-- What a page query comes to over a table. -/
theorem run_getPage (w : Surroundings Table) (call : Call) {query : PageQuery}
    (h : query.check = .ok ()) :
    (w.run Table.backend (getPage call query)).1 =
        .ok (.ofPage (w.store.page query.window) query.window) ∧
      (w.run Table.backend (getPage call query)).2.store = w.store := by
  have hfollows : (getPage call query).Follows (pageCourse query).plan :=
    follows_handle .getItems call query
  obtain ⟨hreply, halike⟩ := Surroundings.run_of_follows hfollows Table.backend
    (Surroundings.Alike.refl w)
  rw [hreply, halike.store, pageCourse, h]
  exact ⟨rfl, rfl⟩

/-- The size of the pages that a query for pages of some size gets. -/
def shownSize (size : Int32) : Nat := (min size.toInt 100).toNat

theorem shownSize_pos {size : Int32} (h : 1 ≤ size.toInt) : 0 < shownSize size := by
  rw [shownSize]
  omega

theorem shownSize_le (size : Int32) : shownSize size ≤ 100 := by
  rw [shownSize]
  omega

/-- A page of a table as it is shown. -/
def pageReply (t : Table) (size p : Int32) : PageReply :=
  .ofPage (t.page (.clamp p size)) (.clamp p size)

variable {t : Table} {size p : Int32}

theorem pageSize_clamp_eq (h : 1 ≤ size.toInt) :
    (Window.clamp p size).pageSize.toNat = shownSize size := by
  have := Window.pageSize_clamp (p := p) h
  rw [shownSize]
  omega

/-- The items on a page are those of one page of the listing. -/
theorem items_pageReply (hsize : 1 ≤ size.toInt) (hp : 1 ≤ p.toInt) :
    (pageReply t size p).items =
      (pageOf (shownSize size) (p.toInt.toNat - 1) t.listed).map .ofItem := by
  have hstart := @Window.startPage_clamp p size hp
  have hnumber : (Window.clamp p size).startPage.toNat = p.toInt.toNat := by omega
  change ((Window.clamp p size).slice t.listed).map ItemMessage.ofItem = _
  rw [Window.slice_eq, pageSize_clamp_eq hsize, hnumber]

theorem totalPages_pageReply (hsize : 1 ≤ size.toInt)
    (hfits : pageCount t.size (shownSize size) ≤ 2147483647) :
    (pageReply t size p).totalPages.toInt = pageCount t.size (shownSize size) := by
  rw [pageReply, PageReply.toInt_totalPages, pageSize_clamp_eq hsize]
  exact Int.min_eq_left (Int.ofNat_le.2 hfits)

/-- The number of items can be stated if that of the pages can. -/
theorem totalElements_pageReply (hsize : 1 ≤ size.toInt)
    (hfits : pageCount t.size (shownSize size) ≤ 2147483647) :
    (pageReply t size p).totalElements.toInt = t.size := by
  have htotal := (pageCount_le_iff (shownSize_pos hsize)).1 hfits
  have hbound : t.size ≤ 2147483647 * 100 :=
    Nat.le_trans htotal (Nat.mul_le_mul_left _ (shownSize_le size))
  have hsmall : (t.size : Int) ≤ 9223372036854775807 := by omega
  rw [pageReply, PageReply.toInt_totalElements]
  exact Int.min_eq_left hsmall

/-! ## All pages -/

/-- The pages of a table, put together, are its listing. -/
theorem flatMap_pageReply (hsize : 1 ≤ size.toInt)
    (hfits : pageCount t.size (shownSize size) ≤ 2147483647) :
    ((List.range (pageCount t.size (shownSize size))).flatMap fun i =>
        (pageReply t size (Int32.ofNat (i + 1))).items) = t.listed.map .ofItem := by
  have hpages : ∀ i ∈ List.range (pageCount t.size (shownSize size)),
      (pageReply t size (Int32.ofNat (i + 1))).items =
        (pageOf (shownSize size) i t.listed).map .ofItem := by
    intro i hi
    rw [List.mem_range] at hi
    have hnumber : (Int32.ofNat (i + 1)).toInt = i + 1 :=
      Int32.toInt_ofNat_of_lt (by omega)
    rw [items_pageReply hsize (by omega), hnumber]
    rfl
  rw [List.flatMap_congr hpages, ← List.map_flatMap, ← Table.length_listed,
    flatMap_pageOf (shownSize_pos hsize)]

/-- For every table whose items are stored under their own identifiers, whatever the order of its
entries, and every accepted page size that leaves a number of pages which can be stated: the pages
from the first to the last, put together, are all stored items and nothing else, strictly ascending
by creation time and identifier, and so as callers see them. Every page before the last has the
size that was asked for, or a hundred items if that is less; the last page has from one item up to
that many; every later page is empty; and every page states how many items and pages there are. -/
theorem pages_partition (hk : t.IsKeyed) (hsize : 1 ≤ size.toInt) (hmax : size.toInt ≤ 1000)
    (hfits : pageCount t.size (shownSize size) ≤ 2147483647) :
    let n := pageCount t.size (shownSize size)
    ∃ (reply : Int32 → PageReply) (items : List Item),
      (∀ (w : Surroundings Table) (call : Call) (p : Int32), w.store = t → 1 ≤ p.toInt →
        (w.run Table.backend (getPage call ⟨p, size⟩)).1 = .ok (reply p) ∧
          (w.run Table.backend (getPage call ⟨p, size⟩)).2.store = t) ∧
      ((List.range n).flatMap fun i => (reply (Int32.ofNat (i + 1))).items) =
        items.map .ofItem ∧
      (∀ y, y ∈ items ↔ t.get? y.id = some y) ∧
      items.Pairwise Item.Before ∧ (items.map ItemMessage.ofItem).Pairwise ItemMessage.Before ∧
      ∀ p : Int32, 1 ≤ p.toInt →
        (p.toInt < n → (reply p).items.length = shownSize size) ∧
        (p.toInt = n → 1 ≤ (reply p).items.length ∧ (reply p).items.length ≤ shownSize size) ∧
        (n < p.toInt → (reply p).items = []) ∧
        (reply p).totalElements.toInt = t.size ∧ (reply p).totalPages.toInt = n := by
  intro n
  have hpos := shownSize_pos hsize
  have hn : n = pageCount t.listed.length (shownSize size) := by
    rw [Table.length_listed]
  refine ⟨pageReply t size, t.listed, ?replies, flatMap_pageReply hsize hfits,
    fun y => Table.mem_listed hk, Table.pairwise_listed hk, ?order, ?lengths⟩
  case replies =>
    rintro w call p rfl hp
    exact run_getPage w call (PageQuery.check_eq_ok_iff.2 ⟨hp, hsize, hmax⟩)
  case order =>
    rw [List.pairwise_map]
    exact (Table.pairwise_listed hk).imp ItemMessage.before_ofItem
  case lengths =>
    intro p hp
    rw [items_pageReply hsize hp, List.length_map]
    refine ⟨?full, ?last, ?beyond, totalElements_pageReply hsize hfits,
      totalPages_pageReply hsize hfits⟩
    case full =>
      intro h
      exact length_pageOf_of_lt hpos (by omega)
    case last =>
      intro h
      exact ⟨length_pageOf_pos hpos (by omega), length_pageOf_le _ _ _⟩
    case beyond =>
      intro h
      rw [pageOf_eq_nil hpos (by omega), List.map_nil]

/-- Two items of one time and an earlier one that was stored after them. -/
def shelf : Table :=
  ((Table.empty.commit (.ofMicros 5)
    [.insert (.ofRandom 2) "b", .insert (.ofRandom 1) "a"]).2.commit
    (.ofMicros 3) [.insert (.ofRandom 3) "c"]).2

/-- The earliest item and one of the others are on the first of two pages. -/
theorem shelf_has_two_pages :
    ∃ reply : Int32 → PageReply,
      (∀ (w : Surroundings Table) (call : Call) (p : Int32), w.store = shelf → 1 ≤ p.toInt →
        (w.run Table.backend (getPage call ⟨p, 2⟩)).1 = .ok (reply p)) ∧
      (reply 1).items.length = 2 ∧ 1 ≤ (reply 2).items.length ∧ (reply 3).items = [] ∧
      (reply 3).totalElements.toInt = 3 ∧ (reply 3).totalPages.toInt = 2 := by
  have hkeyed : shelf.IsKeyed := Table.isKeyed_empty.commit.commit
  have hcount : pageCount shelf.size (shownSize 2) = 2 := by decide +kernel
  have hsize : shownSize 2 = 2 := by decide
  have hitems : (shelf.size : Int) = 3 := by decide +kernel
  obtain ⟨reply, _, hreply, _, _, _, _, hpages⟩ :=
    @pages_partition shelf 2 hkeyed (by decide) (by decide) (by omega)
  rw [hcount, hsize, hitems] at hpages
  have hfirst := (hpages 1 (by decide)).1 (by decide)
  have hlast := (hpages 2 (by decide)).2.1 (by decide)
  obtain ⟨_, _, hbeyond, htotal, hpageCount⟩ := hpages 3 (by decide)
  exact ⟨reply, fun w call p hw hp => (hreply w call p hw hp).1, hfirst, hlast.1,
    hbeyond (by decide), htotal, hpageCount⟩

end Service
end ItemCatalog
