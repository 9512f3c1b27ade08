import ItemCatalog.Proofs.Page
import ItemCatalog.Proofs.Storage.Listing

/-!
# Pages before and after a write

How a write moves the items on the pages of a table. Main statement: `pages_after_write`. A rename
moves nothing, a creation after all other items only adds to the last page, and a deletion moves
the items behind it up by one place.

## Main definitions

* `Table.IsOrder`: a list is the items of a table in their order.
-/

namespace ItemCatalog.Storage.Table
variable {t u : Table} {l : List Item} {now : Instant}

/-- Whether a list is the items of a table, ascending by creation time and identifier. -/
structure IsOrder (t : Table) (l : List Item) : Prop where
  ascending : l.Pairwise Item.Before
  mem_iff : ∀ y, y ∈ l ↔ t.get? y.id = some y

/-- The listing of a table is its order. -/
theorem isOrder_listed (hk : t.IsKeyed) : t.IsOrder t.listed :=
  ⟨pairwise_listed hk, fun _ => mem_listed hk⟩

theorem IsKeyed.congr (hk : t.IsKeyed) (hu : ∀ k, u.get? k = t.get? k) : u.IsKeyed := by
  intro k y hy
  exact hk k y (hu k ▸ hy)

theorem IsOrder.congr (hl : t.IsOrder l) (hu : ∀ k, u.get? k = t.get? k) : u.IsOrder l :=
  ⟨hl.ascending, fun y => by rw [hu, hl.mem_iff]⟩

/-- No two items of an order are equal. -/
theorem IsOrder.nodup (hl : t.IsOrder l) : l.Nodup := by
  refine hl.ascending.imp ?_
  rintro a _ hab rfl
  exact Item.Before.irrefl a hab

/-- The pages of a table are cut from its order, whatever the order of its entries. -/
theorem IsOrder.page_eq (hl : t.IsOrder l) (hk : t.IsKeyed) (window : Window) :
    t.page window = ⟨window.slice l, l.length⟩ := by
  have hlisted : l = t.listed :=
    Item.eq_of_ascending hl.ascending (isOrder_listed hk).ascending fun y => by
      rw [hl.mem_iff, (isOrder_listed hk).mem_iff]
  rw [page, ← length_listed, ← hlisted]

/-! ## The order after a write -/

/-- What an update makes of an item: nothing, unless it is of that item. -/
def overwritten (x : Item) (now : Instant) (y : Item) : Item :=
  if y.id = x.id then x.updated now else y

theorem id_overwritten (x : Item) (now : Instant) (y : Item) : (overwritten x now y).id = y.id := by
  rw [overwritten]
  split
  · next hid => exact hid.symm
  · rfl

/-- A renamed item keeps its place. -/
theorem IsOrder.rename (hl : t.IsOrder l) {x r : Item} (hr : t.get? x.id = some r)
    (hx : x.IsRenaming r) :
    (t.apply now (.update x)).IsOrder (l.map (overwritten x now)) := by
  have hread : ∀ y ∈ l, y.id = x.id → y = r := by
    intro y hy hid
    rw [hl.mem_iff, hid, hr, Option.some.injEq] at hy
    exact hy.symm
  have hcreated : ∀ y ∈ l, (overwritten x now y).createdAt = y.createdAt := by
    intro y hy
    rw [overwritten]
    split
    · next hid =>
      rw [hread y hy hid, hx]
      rfl
    · rfl
  constructor
  · rw [List.pairwise_map]
    refine hl.ascending.imp_of_mem ?_
    intro a b ha hb hab
    rw [Item.Before, hcreated a ha, hcreated b hb, id_overwritten, id_overwritten]
    exact hab
  · intro y
    rw [get?_apply, List.mem_map]
    change _ ↔ (if y.id = x.id then some (x.updated now) else t.get? y.id) = some y
    constructor
    · rintro ⟨z, hz, rfl⟩
      rw [id_overwritten, overwritten]
      split
      · rfl
      · exact (hl.mem_iff z).1 hz
    · intro hy
      split at hy
      · have hmem : r ∈ l := by
          rw [hl.mem_iff, ← hx.id_eq]
          exact hr
        refine ⟨r, hmem, ?_⟩
        rw [overwritten, if_pos hx.id_eq.symm]
        exact Option.some.inj hy
      · next hid => exact ⟨y, (hl.mem_iff y).2 hy, if_neg hid⟩

/-- An item that comes after all others stands at the end. -/
theorem IsOrder.create (hl : t.IsOrder l) {id : Identifier} {name : String}
    (hfree : t.get? id = none) (hlast : ∀ y ∈ l, y.Before (.created id name now)) :
    (t.apply now (.insert id name)).IsOrder (l ++ [.created id name now]) := by
  constructor
  · rw [List.pairwise_append]
    refine ⟨hl.ascending, List.pairwise_singleton _ _, ?_⟩
    intro y hy z hz
    rw [List.mem_singleton.1 hz]
    exact hlast y hy
  · intro y
    rw [get?_apply, List.mem_append, List.mem_singleton, hl.mem_iff]
    change _ ↔ (if y.id = id then some (Item.created id name now) else t.get? y.id) = some y
    constructor
    · rintro (hy | rfl)
      · have hid : y.id ≠ id := by
          intro hid
          rw [hid, hfree] at hy
          cases hy
        rw [if_neg hid]
        exact hy
      · exact if_pos rfl
    · intro hy
      split at hy
      · exact Or.inr (Option.some.inj hy).symm
      · exact Or.inl hy

/-- The items behind a deleted one move up by one place. -/
theorem IsOrder.delete (hl : t.IsOrder l) {k : Nat} {x : Item} (hx : l[k]? = some x) :
    (t.apply now (.delete x)).IsOrder (l.eraseIdx k) := by
  refine ⟨hl.ascending.eraseIdx k, ?_⟩
  have hstored : t.get? x.id = some x := (hl.mem_iff x).1 (List.mem_of_getElem? hx)
  intro y
  rw [get?_apply, List.mem_eraseIdx_iff_getElem?]
  change _ ↔ (if y.id = x.id then none else t.get? y.id) = some y
  constructor
  · rintro ⟨i, hik, hy⟩
    have hmem := (hl.mem_iff y).1 (List.mem_of_getElem? hy)
    have hid : y.id ≠ x.id := by
      intro hid
      rw [hid, hstored, Option.some.injEq] at hmem
      obtain ⟨hi, _⟩ := List.getElem?_eq_some_iff.1 hy
      exact hik ((List.getElem?_inj hi hl.nodup).1 (by rw [hy, hx, hmem]))
    rw [if_neg hid]
    exact hmem
  · intro hy
    split at hy
    · cases hy
    · next hid =>
      obtain ⟨i, hi⟩ := List.mem_iff_getElem?.1 ((hl.mem_iff y).2 hy)
      refine ⟨i, ?_, hi⟩
      rintro rfl
      rw [hx, Option.some.injEq] at hi
      exact hid (congrArg Item.id hi.symm)

/-! ## The pages after a write -/

/-- What a window shows after a change has been applied, whatever the order of the entries has
become. -/
theorem page_of_commit (hk : t.IsKeyed) {c : Change} (hc : (t.commit now [c]).2 = t.apply now c)
    (hl : (t.apply now c).IsOrder l) (hu : ∀ k, u.get? k = (t.commit now [c]).2.get? k)
    (window : Window) : u.page window = ⟨window.slice l, l.length⟩ := by
  have hkeyed : u.IsKeyed := hk.commit.congr hu
  rw [hc] at hu
  exact (hl.congr hu).page_eq hkeyed window

/-- A page is the last one just when it holds the place behind all elements but one. -/
theorem startPage_eq_pageCount_iff (window : Window) (n : Nat) :
    window.startPage.toNat = pageCount (n + 1) window.pageSize.toNat ↔
      window.startPage.toNat - 1 = n / window.pageSize.toNat := by
  have hstart := window.startPage_pos
  rw [pageCount_succ window.pageSize_pos]
  omega

/-- For every table whose items are stored under their own identifiers, every window, and every
table `u` that holds what a commit leaves, whatever the order of its entries:

* a rename leaves the identifiers on the page and the total as they are;
* a creation after all other items leaves every full page as it is, raises the total by one, and
  adds the item at the end of the page that is now the last, which was empty if it is a new one;
* the deletion of the item at place `k` leaves a page that ends before it as it is, lowers the total
  by one, and moves what was behind it up by one place. -/
theorem pages_after_write (hk : t.IsKeyed) (hl : t.IsOrder l) (now : Instant) :
    (∀ x r, t.get? x.id = some r → x.IsRenaming r →
      (t.commit now [.update x]).1 = .ok [x.updated now] ∧
      ∀ u : Table, (∀ k, u.get? k = (t.commit now [.update x]).2.get? k) → ∀ window,
        (u.page window).items.map Item.id = (t.page window).items.map Item.id ∧
        (u.page window).total = (t.page window).total) ∧
    (∀ id name, t.get? id = none → (∀ y ∈ l, y.Before (.created id name now)) →
      (t.commit now [.insert id name]).1 = .ok [.created id name now] ∧
      ∀ u : Table, (∀ k, u.get? k = (t.commit now [.insert id name]).2.get? k) → ∀ window,
        let last := pageCount (u.page window).total window.pageSize.toNat
        (u.page window).total = (t.page window).total + 1 ∧
        ((t.page window).items.length = window.pageSize.toNat →
          (u.page window).items = (t.page window).items) ∧
        (window.startPage.toNat = last →
          (u.page window).items = (t.page window).items ++ [.created id name now]) ∧
        (window.startPage.toNat ≠ last → (u.page window).items = (t.page window).items) ∧
        (pageCount (t.page window).total window.pageSize.toNat < window.startPage.toNat →
          (t.page window).items = [])) ∧
    ∀ k x, l[k]? = some x →
      (t.commit now [.delete x]).1 = .ok [] ∧
      ∀ u : Table, (∀ k, u.get? k = (t.commit now [.delete x]).2.get? k) → ∀ window,
        (u.page window).total + 1 = (t.page window).total ∧
        (window.startPage.toNat * window.pageSize.toNat ≤ k →
          (u.page window).items = (t.page window).items) ∧
        ∀ j < window.pageSize.toNat,
          let place := (window.startPage.toNat - 1) * window.pageSize.toNat + j
          (t.page window).items[j]? = l[place]? ∧
          (u.page window).items[j]? = if place < k then l[place]? else l[place + 1]? := by
  have hpage := hl.page_eq hk
  refine ⟨?rename, ?creation, ?deletion⟩
  case rename =>
    intro x r hr hx
    have hcommit : t.commit now [.update x] = _ := commit_update hr hx.version_eq.symm
    refine ⟨congrArg Prod.fst hcommit, ?_⟩
    intro u hu window
    rw [hpage, page_of_commit hk (congrArg Prod.snd hcommit) (hl.rename hr hx) hu]
    refine ⟨?_, List.length_map _⟩
    have hids : (l.map (overwritten x now)).map Item.id = l.map Item.id := by
      rw [List.map_map]
      exact List.map_congr_left fun y _ => id_overwritten x now y
    rw [window.map_slice, window.map_slice, hids]
  case creation =>
    intro id name hfree hlast
    have hcommit : t.commit now [.insert id name] = _ := commit_insert hfree name
    refine ⟨congrArg Prod.fst hcommit, ?_⟩
    intro u hu window
    rw [hpage, page_of_commit hk (congrArg Prod.snd hcommit) (hl.create hfree hlast) hu]
    simp only [List.length_append, List.length_singleton, window.slice_eq, ne_eq,
      pageOf_concat window.pageSize_pos, startPage_eq_pageCount_iff]
    refine ⟨trivial, ?full, fun h => if_pos h, fun h => if_neg h, ?beyond⟩
    case full =>
      intro hfull
      refine if_neg fun hlast => ?_
      have hsize := window.pageSize_pos
      have hrest := Nat.lt_div_mul_add (a := l.length) window.pageSize_pos
      rw [length_pageOf, hlast] at hfull
      omega
    case beyond =>
      intro h
      exact pageOf_eq_nil window.pageSize_pos (by omega)
  case deletion =>
    intro k x hx
    have hstored : t.get? x.id = some x := (hl.mem_iff x).1 (List.mem_of_getElem? hx)
    have hcommit : t.commit now [.delete x] = _ := commit_delete hstored
    refine ⟨congrArg Prod.fst hcommit, ?_⟩
    intro u hu window
    obtain ⟨hk', _⟩ := List.getElem?_eq_some_iff.1 hx
    rw [hpage, page_of_commit hk (congrArg Prod.snd hcommit) (hl.delete hx) hu]
    refine ⟨?total, ?before, ?behind⟩
    case total =>
      rw [List.length_eraseIdx_of_lt hk']
      exact Nat.sub_add_cancel (Nat.zero_lt_of_lt hk')
    case before =>
      intro hend
      refine window.slice_congr fun i hi => ?_
      rw [List.getElem?_eraseIdx, if_pos (by omega)]
    case behind =>
      intro j hj place
      exact ⟨window.getElem?_slice l hj,
        (window.getElem?_slice _ hj).trans List.getElem?_eraseIdx⟩

/-! ### Two items of one time -/

/-- The item that is listed first. -/
private def elder : Item := .created ⟨1⟩ "a" ⟨5, 0⟩

/-- The item that is listed second, since its identifier is the greater one. -/
private def younger : Item := .created ⟨2⟩ "b" ⟨5, 0⟩

/-- A table that has the second item before the first. -/
def twins : Table := (Assoc.empty.insert ⟨2⟩ younger).insert ⟨1⟩ elder

theorem isKeyed_twins : twins.IsKeyed := by
  intro k y hy
  simp only [twins, Assoc.get?_insert, Assoc.get?_empty] at hy
  split at hy
  · next h => rw [h, ← Option.some.inj hy]; rfl
  · split at hy
    · next h => rw [h, ← Option.some.inj hy]; rfl
    · cases hy

theorem isOrder_twins : twins.IsOrder [elder, younger] where
  ascending := List.pairwise_pair.2 (Or.inr ⟨rfl, by decide⟩)
  mem_iff y := by
    have hvalues : twins.values = [younger, elder] := rfl
    rw [← isKeyed_twins.mem_values, hvalues]
    simp [or_comm]

/-- On pages of two items: a rename keeps both where they are, a creation starts a second page, and
the deletion of the first item moves the second to its place. -/
theorem twins_move :
    let first := Window.clamp 1 2
    let second := Window.clamp 2 2
    let renamed := (twins.commit ⟨6, 0⟩ [.update { elder with name := "z" }]).2
    let longer := (twins.commit ⟨6, 0⟩ [.insert ⟨3⟩ "c"]).2
    let shorter := (twins.commit ⟨6, 0⟩ [.delete elder]).2
    (renamed.page first).items.map Item.id = (twins.page first).items.map Item.id ∧
      (longer.page first).items = (twins.page first).items ∧
      (longer.page second).items = [.created ⟨3⟩ "c" ⟨6, 0⟩] ∧
      (shorter.page first).items[0]? = some younger := by
  intro first second renamed longer shorter
  obtain ⟨hrename, hcreate, hdelete⟩ := pages_after_write isKeyed_twins isOrder_twins ⟨6, 0⟩
  have hlater : ∀ y ∈ [elder, younger], y.Before (.created ⟨3⟩ "c" ⟨6, 0⟩) := by
    simp only [List.forall_mem_cons, List.not_mem_nil, false_imp_iff, implies_true, and_true]
    exact ⟨Or.inl (Or.inl (by decide)), Or.inl (Or.inl (by decide))⟩
  obtain ⟨hids, _⟩ := (hrename { elder with name := "z" } elder rfl rfl).2 renamed (fun _ => rfl)
    first
  obtain ⟨_, hlonger⟩ := hcreate ⟨3⟩ "c" rfl hlater
  obtain ⟨_, _, _, hfirst, _⟩ := hlonger longer (fun _ => rfl) first
  obtain ⟨_, _, hsecond, _, hempty⟩ := hlonger longer (fun _ => rfl) second
  obtain ⟨_, _, hshift⟩ := (hdelete 0 elder rfl).2 shorter (fun _ => rfl) first
  refine ⟨hids, hfirst (by decide +kernel), ?_, (hshift 0 (by decide)).2⟩
  rw [hsecond (by decide +kernel), hempty (by decide +kernel)]
  rfl

end ItemCatalog.Storage.Table
