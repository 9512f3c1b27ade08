import ItemCatalog.Page

/-!
# Pages of a list

A list cut into pages of one size. Main statements: the pages, put together, are the list
(`flatMap_pageOf`), and each of them is as long as it should be (`length_pageOf_of_lt` and its
neighbours), the number of pages being the least that holds all elements (`lt_pageCount_iff`). One
more element at the end of the list is on the last page and on no other (`pageOf_concat`). Clamping keeps
the numbers of a window (`Window.clamp_self`), and its offset fits the words that it is stated in
(`Window.toInt_offset`, `Window.toNat_setWidth_offset`).
-/

namespace ItemCatalog
variable {α : Type} {size total n i : Nat}

/-! ## The number of pages -/

/-- A page is one of those that are counted just when elements are left for it. -/
theorem lt_pageCount_iff (hsize : 0 < size) : i < pageCount total size ↔ i * size < total := by
  rw [pageCount, if_neg (by omega), Nat.lt_iff_add_one_le, Nat.le_div_iff_mul_le hsize,
    Nat.add_mul]
  omega

theorem pageCount_le_iff (hsize : 0 < size) : pageCount total size ≤ n ↔ total ≤ n * size := by
  rw [← Nat.not_lt, ← Nat.not_lt, lt_pageCount_iff hsize]

/-- The pages that are counted hold all elements. -/
theorem le_pageCount_mul (hsize : 0 < size) : total ≤ pageCount total size * size :=
  (pageCount_le_iff hsize).1 (Nat.le_refl _)

/-- There are at most as many pages as elements. -/
theorem pageCount_le (total size : Nat) : pageCount total size ≤ total := by
  rcases Nat.eq_zero_or_pos size with rfl | hsize
  · exact Nat.zero_le _
  · exact (pageCount_le_iff hsize).2 (Nat.le_mul_of_pos_right _ hsize)

theorem pageCount_mono {total' : Nat} (h : total ≤ total') (size : Nat) :
    pageCount total size ≤ pageCount total' size := by
  rcases Nat.eq_zero_or_pos size with rfl | hsize
  · exact Nat.le_refl _
  · exact (pageCount_le_iff hsize).2 (Nat.le_trans h (le_pageCount_mul hsize))

/-- The last page of a list with one more element. -/
theorem pageCount_succ (hsize : 0 < size) : pageCount (total + 1) size = total / size + 1 := by
  have hsum : total + 1 + (size - 1) = total + size := by omega
  rw [pageCount, if_neg (by omega), hsum, Nat.add_div_right _ hsize]

/-! ## The pages -/

/-- The elements of a list on a page, pages being counted from zero. -/
def pageOf (size i : Nat) (l : List α) : List α := (l.drop (i * size)).take size

/-- The first pages, put together, are the front of the list. -/
theorem flatMap_pageOf_take (size n : Nat) (l : List α) :
    ((List.range n).flatMap fun i => pageOf size i l) = l.take (n * size) := by
  induction n with
  | zero => simp
  | succ n ih =>
    rw [List.range_succ, List.flatMap_append, ih, Nat.succ_mul, List.take_add]
    simp [pageOf]

/-- All pages, put together, are the list. -/
theorem flatMap_pageOf (hsize : 0 < size) (l : List α) :
    ((List.range (pageCount l.length size)).flatMap fun i => pageOf size i l) = l := by
  rw [flatMap_pageOf_take, List.take_of_length_le (le_pageCount_mul hsize)]

theorem length_pageOf (size i : Nat) (l : List α) :
    (pageOf size i l).length = min size (l.length - i * size) := by
  rw [pageOf, List.length_take, List.length_drop]

/-- A page before the last is full. -/
theorem length_pageOf_of_lt (hsize : 0 < size) {l : List α}
    (h : i + 1 < pageCount l.length size) : (pageOf size i l).length = size := by
  rw [lt_pageCount_iff hsize, Nat.succ_mul] at h
  rw [length_pageOf]
  omega

/-- No page that is counted is empty. -/
theorem length_pageOf_pos (hsize : 0 < size) {l : List α} (h : i < pageCount l.length size) :
    0 < (pageOf size i l).length := by
  rw [lt_pageCount_iff hsize] at h
  rw [length_pageOf]
  omega

theorem length_pageOf_le (size i : Nat) (l : List α) : (pageOf size i l).length ≤ size := by
  rw [length_pageOf]
  exact Nat.min_le_left _ _

/-- A page beyond the last is empty. -/
theorem pageOf_eq_nil (hsize : 0 < size) {l : List α} (h : pageCount l.length size ≤ i) :
    pageOf size i l = [] := by
  rw [pageCount_le_iff hsize] at h
  rw [pageOf, List.drop_eq_nil_of_le h, List.take_nil]

/-- One more element at the end of a list is on the last page and on no other. -/
theorem pageOf_concat (hsize : 0 < size) (i : Nat) (l : List α) (x : α) :
    pageOf size i (l ++ [x]) =
      if i = l.length / size then pageOf size i l ++ [x] else pageOf size i l := by
  have hdiv : i = l.length / size ↔ i * size ≤ l.length ∧ l.length < (i + 1) * size := by
    rw [eq_comm, Nat.div_eq_iff hsize, Nat.succ_mul]
    omega
  rw [pageOf, pageOf, List.drop_append, List.take_append, List.length_drop]
  by_cases hbefore : i * size ≤ l.length
  · rw [Nat.sub_eq_zero_of_le hbefore, List.drop_zero]
    by_cases hlast : l.length < (i + 1) * size
    · rw [if_pos (hdiv.2 ⟨hbefore, hlast⟩), List.take_of_length_le (l := [x])]
      rw [Nat.succ_mul] at hlast
      simp only [List.length_singleton]
      omega
    · have hfull : size - (l.length - i * size) = 0 := by
        rw [Nat.succ_mul] at hlast
        omega
      rw [if_neg fun h => hlast (hdiv.1 h).2, hfull, List.take_zero, List.append_nil]
  · have hbeyond : [x].drop (i * size - l.length) = [] :=
      List.drop_eq_nil_of_le (by simp only [List.length_singleton]; omega)
    rw [if_neg fun h => hbefore (hdiv.1 h).1, hbeyond, List.take_nil, List.append_nil]

/-! ## Windows -/

namespace Window

/-- What a window shows of a list is a page of it. -/
theorem slice_eq (w : Window) (l : List α) :
    w.slice l = pageOf w.pageSize.toNat (w.startPage.toNat - 1) l := by
  rw [slice, toNat_offset, pageOf]

theorem map_slice {β : Type} (w : Window) (f : α → β) (l : List α) :
    (w.slice l).map f = w.slice (l.map f) := by
  rw [slice, slice, List.map_take, List.map_drop]

/-- The elements in a window are those of the list from the offset on. -/
theorem getElem?_slice (w : Window) (l : List α) {j : Nat} (hj : j < w.pageSize.toNat) :
    (w.slice l)[j]? = l[(w.startPage.toNat - 1) * w.pageSize.toNat + j]? := by
  rw [slice, List.getElem?_take, if_pos hj, List.getElem?_drop, toNat_offset]

/-- Lists that agree up to the end of a window show the same in it. -/
theorem slice_congr (w : Window) {l l' : List α}
    (h : ∀ i < w.startPage.toNat * w.pageSize.toNat, l[i]? = l'[i]?) : w.slice l = w.slice l' := by
  have hstart := w.startPage_pos
  have hend : w.startPage.toNat * w.pageSize.toNat =
      (w.startPage.toNat - 1) * w.pageSize.toNat + w.pageSize.toNat := by
    rw [← Nat.succ_mul, Nat.succ_eq_add_one, Nat.sub_add_cancel hstart]
  refine List.ext_getElem? fun j => ?_
  by_cases hj : j < w.pageSize.toNat
  · rw [w.getElem?_slice l hj, w.getElem?_slice l' hj, h _ (by omega)]
  · have hnone {m : List α} : (w.slice m)[j]? = none := by
      rw [slice, List.getElem?_take, if_neg hj]
    rw [hnone, hnone]

/-! ## The numbers of a window -/

theorem eq_of_toNat {w w' : Window} (hstart : w.startPage.toNat = w'.startPage.toNat)
    (hsize : w.pageSize.toNat = w'.pageSize.toNat) : w = w' := by
  cases w
  cases w'
  simp only [mk.injEq, ← UInt32.toNat_inj]
  exact ⟨hstart, hsize⟩

theorem toInt_clampInt {low high : Int32} (h : low.toInt ≤ high.toInt) (a : Int32) :
    (clampInt low high a).toInt = max low.toInt (min a.toInt high.toInt) := by
  rw [clampInt]
  split
  · omega
  · split <;> omega

/-- A page number below one counts as one. -/
theorem startPage_clamp_eq_max (p size : Int32) :
    ((clamp p size).startPage.toNat : Int) = max 1 p.toInt := by
  have hone : (1 : Int32).toInt = 1 := by decide
  have hmax : maxInt.toInt = 2147483647 := by decide
  have hvalue : (clampInt 1 maxInt p).toInt = max 1 p.toInt := by
    have hbound := p.toInt_lt
    rw [toInt_clampInt (by omega)]
    omega
  rw [← hvalue]
  exact toNat_toUInt32_of_pos (a := clampInt 1 maxInt p) (by omega)

/-- A page size below one counts as one, and one above a hundred as a hundred. -/
theorem pageSize_clamp_eq_max (p size : Int32) :
    ((clamp p size).pageSize.toNat : Int) = max 1 (min size.toInt 100) := by
  have hone : (1 : Int32).toInt = 1 := by decide
  have hmax : maxPageSize.toInt = 100 := by decide
  have hvalue : (clampInt 1 maxPageSize size).toInt = max 1 (min size.toInt 100) := by
    rw [toInt_clampInt (by omega), hone, hmax]
  rw [← hvalue]
  exact toNat_toUInt32_of_pos (a := clampInt 1 maxPageSize size) (by omega)

/-- A page number from one up is kept. -/
theorem startPage_clamp {p size : Int32} (h : 1 ≤ p.toInt) :
    ((clamp p size).startPage.toNat : Int) = p.toInt := by
  rw [startPage_clamp_eq_max, Int.max_eq_right h]

/-- A page size from one up is cut down to a hundred. -/
theorem pageSize_clamp {p size : Int32} (h : 1 ≤ size.toInt) :
    ((clamp p size).pageSize.toNat : Int) = min size.toInt 100 := by
  rw [pageSize_clamp_eq_max]
  omega

theorem toInt_toInt32 {n : UInt32} (h : n.toNat < 2147483648) :
    n.toInt32.toInt = (n.toNat : Int) := by
  have hn : n.toInt32 = Int32.ofNat n.toNat := by
    rw [← UInt32.toInt32_ofNat', UInt32.ofNat_toNat]
  rw [hn]
  exact Int32.toInt_ofNat_of_lt h

/-- The numbers of a window are kept, so clamping twice is clamping once. -/
theorem clamp_self (w : Window) : clamp w.startPage.toInt32 w.pageSize.toInt32 = w := by
  have hstart := w.startPage_le
  have hsize := w.pageSize_le
  have hpos := w.startPage_pos
  have hsizePos := w.pageSize_pos
  have hstart' : w.startPage.toInt32.toInt = w.startPage.toNat := toInt_toInt32 (by omega)
  have hsize' : w.pageSize.toInt32.toInt = w.pageSize.toNat := toInt_toInt32 (by omega)
  apply eq_of_toNat
  · have := startPage_clamp_eq_max w.startPage.toInt32 w.pageSize.toInt32
    omega
  · have := pageSize_clamp_eq_max w.startPage.toInt32 w.pageSize.toInt32
    omega

/-! ## The offset -/

theorem toNat_offset_le (w : Window) : w.offset.toNat ≤ 214748364600 := by
  have hstart := w.startPage_le
  rw [toNat_offset]
  calc (w.startPage.toNat - 1) * w.pageSize.toNat
      ≤ 2147483646 * 100 := Nat.mul_le_mul (by omega) w.pageSize_le
    _ = 214748364600 := by decide

theorem toInt_toInt64 {n : UInt64} (h : n.toNat < 9223372036854775808) :
    n.toInt64.toInt = (n.toNat : Int) := by
  have hn : n.toInt64 = Int64.ofNat n.toNat := by
    rw [← UInt64.toInt64_ofNat', UInt64.ofNat_toNat]
  rw [hn]
  exact Int64.toInt_ofNat_of_lt h

/-- An offset is the same with a sign. -/
theorem toInt_offset (w : Window) : w.offset.toInt64.toInt = (w.offset.toNat : Int) := by
  have hbound := w.toNat_offset_le
  exact toInt_toInt64 (by omega)

theorem toInt_pageSize (w : Window) :
    w.pageSize.toUInt64.toInt64.toInt = (w.pageSize.toNat : Int) := by
  have hsize := w.pageSize_le
  have hnat : w.pageSize.toUInt64.toNat = w.pageSize.toNat := UInt32.toNat_toUInt64 _
  rw [toInt_toInt64 (by omega), hnat]

/-- An offset fits a word of thirty-eight bits. -/
theorem toNat_setWidth_offset (w : Window) {bits : Nat} (h : 38 ≤ bits) :
    (w.offset.toBitVec.setWidth bits).toNat = w.offset.toNat := by
  have hbound : w.offset.toNat < 2 ^ bits :=
    calc w.offset.toNat ≤ 214748364600 := w.toNat_offset_le
      _ < 2 ^ 38 := by decide
      _ ≤ 2 ^ bits := Nat.pow_le_pow_right (by decide) h
  rw [BitVec.toNat_setWidth, UInt64.toNat_toBitVec, Nat.mod_eq_of_lt hbound]

/-- The elements of a window are among those there are just if its page is counted. -/
theorem offset_lt_iff (w : Window) (total : Nat) :
    w.offset.toNat < total ↔ w.startPage.toNat ≤ pageCount total w.pageSize.toNat := by
  have hstart := w.startPage_pos
  rw [toNat_offset, ← lt_pageCount_iff w.pageSize_pos]
  omega

end Window
end ItemCatalog
