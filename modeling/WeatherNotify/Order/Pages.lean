import Mathlib.Algebra.Order.Floor.Div
import Mathlib.Data.List.Nodup
import Mathlib.Data.List.Sort

/-!
# Pages of items ranked by a key

A query ranks the items by a key, the greatest first, and returns one window of
the ranking.  Items with the same key may come in any order, and in another one
in the next query.  An item then has a first and a last place it can take, and
the windows of a page size show together every item once, whatever the orders
of their queries, exactly when no item has its two places on different pages.
-/

namespace WeatherNotify.Order

universe u v

variable {Item : Type u} {Key : Type v} [LinearOrder Key]

section Definitions

variable (key : Item → Key) (items : List Item)

/-- One order in which a query may return the items. -/
structure Ranking where
  rows : List Item
  perm : rows.Perm items
  descending : rows.Pairwise fun left right => key right ≤ key left

/-- The items in front of this one in every ranking. -/
def firstPlace (item : Item) : Nat :=
  items.countP fun other => key item < key other

/-- The items that can stand in front of this one. -/
def lastPlace (item : Item) : Nat :=
  (items.countP fun other => key item ≤ key other) - 1

/-- No item can stand on either side of the boundary. -/
def Parted (boundary : Nat) : Prop :=
  ∀ item ∈ items,
    lastPlace key items item < boundary ∨ boundary ≤ firstPlace key items item

/-- The places an item can take lie on one page. -/
def TiesShareAPage (limit : Nat) : Prop :=
  ∀ item ∈ items,
    firstPlace key items item / limit = lastPlace key items item / limit

instance (limit : Nat) : Decidable (TiesShareAPage key items limit) :=
  inferInstanceAs (Decidable (∀ item ∈ items,
    firstPlace key items item / limit = lastPlace key items item / limit))

end Definitions

/-- Page `page` of the rows; the first one is page zero. -/
def window (limit page : Nat) (rows : List Item) : List Item :=
  (rows.drop (page * limit)).take limit

variable {key : Item → Key} {items : List Item} {item : Item}
  {before after : List Item} {limit boundary : Nat}

/-! ## Places -/

theorem lastPlace_add_one (key : Item → Key) (member : item ∈ items) :
    lastPlace key items item + 1 =
      items.countP fun other => key item ≤ key other := by
  have positive : 0 < items.countP fun other => key item ≤ key other :=
    List.countP_pos_iff.mpr ⟨item, member, by simp⟩
  rw [lastPlace]
  omega

theorem lastPlace_lt_length (key : Item → Key) (member : item ∈ items) :
    lastPlace key items item < items.length := by
  have counted : (items.countP fun other => key item ≤ key other) ≤
      items.length := List.countP_le_length
  have itself := lastPlace_add_one key member
  omega

/-- One of the rankings; there is no other when all keys are different. -/
def someRanking (key : Item → Key) (items : List Item) : Ranking key items where
  rows := items.insertionSort fun left right => key right ≤ key left
  perm := List.perm_insertionSort _ items
  descending := by
    have total : Std.Total fun left right : Item => key right ≤ key left :=
      ⟨fun left right => le_total (key right) (key left)⟩
    have transitive :
        IsTrans Item fun left right : Item => key right ≤ key left :=
      ⟨fun _ _ _ first second => le_trans second first⟩
    exact List.pairwise_insertionSort _ items

namespace Ranking

variable (ranking : Ranking key items)

theorem countP_rows (passes : Item → Bool) :
    ranking.rows.countP passes = items.countP passes :=
  ranking.perm.countP_eq passes

/-- The keys in front of an item and behind it. -/
theorem around (split : ranking.rows = before ++ item :: after) :
    (∀ earlier ∈ before, key item ≤ key earlier) ∧
      ∀ later ∈ item :: after, key later ≤ key item := by
  have sorted := ranking.descending
  rw [split] at sorted
  rcases List.pairwise_append.mp sorted with ⟨_, tail, across⟩
  constructor
  · intro earlier member
    exact across earlier member item List.mem_cons_self
  · intro later member
    rcases List.mem_cons.mp member with rfl | behind
    · exact le_refl _
    · exact (List.pairwise_cons.mp tail).1 later behind

/-- An item of a ranking stands between its two places. -/
theorem place_bounds (split : ranking.rows = before ++ item :: after) :
    firstPlace key items item ≤ before.length ∧
      before.length ≤ lastPlace key items item := by
  have member : item ∈ items := by
    rw [← ranking.perm.mem_iff, split]
    exact List.mem_append_right _ List.mem_cons_self
  rcases ranking.around split with ⟨front, behind⟩
  constructor
  · have none : (item :: after).countP (fun other => key item < key other) =
        0 := by
      rw [List.countP_eq_zero]
      intro other later
      simp only [decide_eq_true_eq, not_lt]
      exact behind other later
    rw [firstPlace, ← ranking.countP_rows, split, List.countP_append, none]
    exact List.countP_le_length
  · have all : before.countP (fun other => key item ≤ key other) =
        before.length := by
      rw [List.countP_eq_length]
      intro other earlier
      simp only [decide_eq_true_eq]
      exact front other earlier
    have counted := lastPlace_add_one key member
    rw [← ranking.countP_rows, split, List.countP_append, all,
      List.countP_cons] at counted
    simp only [le_refl, decide_true, if_true] at counted
    omega

/-- Between the two places of an item there are only items with its key. -/
theorem key_eq_of_between {other : Item} (member : item ∈ items)
    (split : ranking.rows = before ++ other :: after)
    (first : firstPlace key items item ≤ before.length)
    (last : before.length ≤ lastPlace key items item) :
    key other = key item := by
  rcases ranking.around split with ⟨front, behind⟩
  apply le_antisymm
  · by_contra above
    have all : before.countP (fun another => key item < key another) =
        before.length := by
      rw [List.countP_eq_length]
      intro another earlier
      simp only [decide_eq_true_eq]
      exact lt_of_lt_of_le (not_le.mp above) (front another earlier)
    rw [firstPlace, ← ranking.countP_rows, split, List.countP_append, all,
      List.countP_cons] at first
    simp only [not_le.mp above, decide_true, if_true] at first
    omega
  · by_contra below
    have none : (other :: after).countP
        (fun another => key item ≤ key another) = 0 := by
      rw [List.countP_eq_zero]
      intro another later
      simp only [decide_eq_true_eq, not_le]
      exact lt_of_le_of_lt (behind another later) (not_le.mp below)
    have counted := lastPlace_add_one key member
    have fewer : (before.countP fun another => key item ≤ key another) ≤
        before.length := List.countP_le_length
    rw [← ranking.countP_rows, split, List.countP_append, none] at counted
    omega

end Ranking

theorem firstPlace_le_lastPlace (key : Item → Key) (member : item ∈ items) :
    firstPlace key items item ≤ lastPlace key items item := by
  rw [← (someRanking key items).perm.mem_iff] at member
  rcases List.mem_iff_append.mp member with ⟨before, after, split⟩
  rcases (someRanking key items).place_bounds split with ⟨first, last⟩
  exact le_trans first last

/-! ## Windows that show every item -/

namespace Ranking

variable (ranking : Ranking key items)


/-- What a parted boundary cuts off does not depend on the ranking. -/
theorem take_eq_filter (parted : Parted key items boundary) :
    ranking.rows.take boundary =
      ranking.rows.filter fun item => lastPlace key items item < boundary := by
  have taken : (ranking.rows.take boundary).filter
      (fun item => lastPlace key items item < boundary) =
        ranking.rows.take boundary := by
    rw [List.filter_eq_self]
    intro item member
    rcases List.mem_iff_append.mp member with ⟨before, after, split⟩
    have whole : ranking.rows =
        before ++ item :: (after ++ ranking.rows.drop boundary) := by
      rw [← List.cons_append, ← List.append_assoc, ← split,
        List.take_append_drop]
    have short : before.length < boundary := by
      have lengths := congrArg List.length split
      simp only [List.length_take, List.length_append, List.length_cons] at lengths
      omega
    have bounds := ranking.place_bounds whole
    -- it can stand in front of the boundary, so it never stands behind
    rcases parted item (ranking.perm.mem_iff.mp (List.mem_of_mem_take member))
      with inside | outside
    · exact decide_eq_true inside
    · omega
  have dropped : (ranking.rows.drop boundary).filter
      (fun item => lastPlace key items item < boundary) = [] := by
    rw [List.filter_eq_nil_iff]
    intro item member
    rcases List.mem_iff_append.mp member with ⟨before, after, split⟩
    have whole : ranking.rows =
        (ranking.rows.take boundary ++ before) ++ item :: after := by
      rw [List.append_assoc, ← split, List.take_append_drop]
    have long : boundary ≤ (ranking.rows.take boundary ++ before).length := by
      have lengths := congrArg List.length split
      simp only [List.length_drop, List.length_append, List.length_cons,
        List.length_take] at lengths ⊢
      omega
    have bounds := ranking.place_bounds whole
    simp only [decide_eq_true_eq, not_lt]
    omega
  conv_rhs => rw [← List.take_append_drop boundary ranking.rows]
  rw [List.filter_append, taken, dropped, List.append_nil]

theorem take_perm (other : Ranking key items)
    (parted : Parted key items boundary) :
    (ranking.rows.take boundary).Perm (other.rows.take boundary) := by
  rw [ranking.take_eq_filter parted, other.take_eq_filter parted]
  exact (ranking.perm.trans other.perm.symm).filter _

end Ranking

theorem TiesShareAPage.parted (share : TiesShareAPage key items limit)
    (positive : 0 < limit) (page : Nat) :
    Parted key items (page * limit) := by
  intro item member
  have same := share item member
  rcases Nat.lt_or_ge (lastPlace key items item) (page * limit) with
    inside | outside
  · exact Or.inl inside
  · right
    have reached : page ≤ lastPlace key items item / limit :=
      (Nat.le_div_iff_mul_le positive).mpr outside
    rw [← same] at reached
    exact (Nat.le_div_iff_mul_le positive).mp reached

/-- The first pages show what any one ranking has in front. -/
theorem windows_perm_take (share : TiesShareAPage key items limit)
    (positive : 0 < limit) (rankings : Nat → Ranking key items)
    (ranking : Ranking key items) (pages : Nat) :
    ((List.range pages).flatMap fun page =>
      window limit page (rankings page).rows).Perm
        (ranking.rows.take (pages * limit)) := by
  induction pages generalizing ranking with
  | zero => simp
  | succ pages induction =>
      have next : ((rankings pages).rows.take ((pages + 1) * limit)).Perm
          (ranking.rows.take ((pages + 1) * limit)) :=
        (rankings pages).take_perm ranking (share.parted positive _)
      rw [List.range_succ, List.flatMap_append, List.flatMap_singleton]
      refine ((induction (rankings pages)).append_right _).trans ?_
      rw [window, ← List.take_add, ← Nat.succ_mul]
      exact next

/-- Whatever the orders of the queries, the pages show every item once. -/
theorem windows_perm (share : TiesShareAPage key items limit)
    (positive : 0 < limit) (rankings : Nat → Ranking key items) :
    ((List.range (items.length ⌈/⌉ limit)).flatMap fun page =>
      window limit page (rankings page).rows).Perm items := by
  have shown := windows_perm_take share positive rankings (rankings 0)
    (items.length ⌈/⌉ limit)
  have enough : (rankings 0).rows.length ≤
      (items.length ⌈/⌉ limit) * limit := by
    rw [(rankings 0).perm.length_eq, mul_comm]
    exact le_smul_ceilDiv positive
  rw [List.take_of_length_le enough] at shown
  exact shown.trans (rankings 0).perm

/-! ## Windows that show an item twice -/

theorem mem_window {rows : List Item} {page : Nat}
    (split : rows = before ++ item :: after)
    (first : page * limit ≤ before.length)
    (last : before.length < (page + 1) * limit) :
    item ∈ window limit page rows := by
  rw [Nat.succ_mul] at last
  have inside : before.length - page * limit < limit := by omega
  have place : page * limit + (before.length - page * limit) =
      before.length := by omega
  have found :
      (window limit page rows)[before.length - page * limit]? = some item := by
    rw [window, List.getElem?_take_of_lt inside, List.getElem?_drop, place,
      split, List.getElem?_append_right (le_refl _), Nat.sub_self,
      List.getElem?_cons_zero]
  exact List.mem_of_getElem? found

/-- Two neighbours with the same key change places. -/
def Ranking.swap {left right : Item} (ranking : Ranking key items)
    (split : ranking.rows = before ++ left :: right :: after)
    (same : key left = key right) : Ranking key items where
  rows := before ++ right :: left :: after
  perm := by
    refine List.Perm.trans ?_ ranking.perm
    rw [split]
    exact (List.Perm.swap left right after).append_left before
  descending := by
    have sorted := ranking.descending
    rw [split] at sorted
    simp only [List.pairwise_append, List.pairwise_cons, List.mem_cons,
      forall_eq_or_imp] at sorted ⊢
    grind

theorem exists_neighbours {rows : List Item} {place : Nat}
    (inside : place + 1 < rows.length) :
    ∃ before left right after,
      rows = before ++ left :: right :: after ∧ before.length = place := by
  refine ⟨rows.take place, rows[place], rows[place + 1],
    rows.drop (place + 2), ?_, ?_⟩
  · rw [← List.drop_eq_getElem_cons inside,
      ← List.drop_eq_getElem_cons (Nat.lt_of_succ_lt inside),
      List.take_append_drop]
  · rw [List.length_take]
    omega

/-- Between its two places an item leaves room for neighbours that are tied. -/
theorem Ranking.exists_tie (ranking : Ranking key items) {place : Nat}
    (member : item ∈ items) (first : firstPlace key items item ≤ place)
    (last : place < lastPlace key items item) :
    ∃ before left right after,
      ranking.rows = before ++ left :: right :: after ∧
        before.length = place ∧ key left = key right := by
  have inside : place + 1 < ranking.rows.length := by
    have bound := lastPlace_lt_length key member
    rw [ranking.perm.length_eq]
    omega
  rcases exists_neighbours inside with
    ⟨before, left, right, after, split, length⟩
  refine ⟨before, left, right, after, split, length, ?_⟩
  have leftKey : key left = key item :=
    ranking.key_eq_of_between member split (by omega) (by omega)
  have next : ranking.rows = (before ++ [left]) ++ right :: after := by
    rw [List.append_assoc]
    exact split
  have nextLength : (before ++ [left]).length = place + 1 := by
    rw [List.length_append, length, List.length_singleton]
  have rightKey : key right = key item :=
    ranking.key_eq_of_between member next (by omega) (by omega)
  exact leftKey.trans rightKey.symm

/-- An item whose places lie on two pages can stand across the end of one. -/
theorem exists_parting_page (member : item ∈ items)
    (parts : firstPlace key items item / limit ≠
      lastPlace key items item / limit) (positive : 0 < limit) :
    ∃ page, firstPlace key items item < (page + 1) * limit ∧
      (page + 1) * limit ≤ lastPlace key items item := by
  have ordered := firstPlace_le_lastPlace key member
  have below : firstPlace key items item / limit <
      lastPlace key items item / limit :=
    lt_of_le_of_ne (Nat.div_le_div_right ordered) parts
  rcases Nat.exists_eq_succ_of_ne_zero (Nat.ne_zero_of_lt below) with
    ⟨page, next⟩
  refine ⟨page, ?_, ?_⟩
  · exact (Nat.div_lt_iff_lt_mul positive).mp (lt_of_lt_of_eq below next)
  · exact (Nat.le_div_iff_mul_le positive).mp (le_of_eq next.symm)

/-- Two queries show one item on a page and on the next one. -/
theorem exists_shown_twice {page : Nat} (member : item ∈ items)
    (positive : 0 < limit)
    (first : firstPlace key items item < (page + 1) * limit)
    (last : (page + 1) * limit ≤ lastPlace key items item) :
    ∃ shown, ∃ one other : Ranking key items,
      shown ∈ window limit page one.rows ∧
        shown ∈ window limit (page + 1) other.rows := by
  have start : (page + 1) * limit = page * limit + limit := Nat.succ_mul _ _
  have finish : (page + 1 + 1) * limit = (page + 1) * limit + limit :=
    Nat.succ_mul _ _
  have beforeEnd : firstPlace key items item ≤ (page + 1) * limit - 1 := by
    omega
  have pastEnd : (page + 1) * limit - 1 < lastPlace key items item := by
    omega
  rcases (someRanking key items).exists_tie member beforeEnd pastEnd with
    ⟨before, left, right, after, split, length, same⟩
  refine ⟨left, someRanking key items,
    (someRanking key items).swap split same, ?_, ?_⟩
  · exact mem_window split (by omega) (by omega)
  · -- the swap moves it from the last place of the page to the next page
    have swapped : ((someRanking key items).swap split same).rows =
        (before ++ [right]) ++ left :: after := by
      rw [List.append_assoc]
      rfl
    have moved : (before ++ [right]).length = (page + 1) * limit := by
      rw [List.length_append, length, List.length_singleton]
      omega
    exact mem_window swapped (by omega) (by omega)

/-- Where an item has its places on two pages, some queries repeat one. -/
theorem exists_repeated (member : item ∈ items)
    (parts : firstPlace key items item / limit ≠
      lastPlace key items item / limit) (positive : 0 < limit) :
    ∃ rankings : Nat → Ranking key items,
      ¬ ((List.range (items.length ⌈/⌉ limit)).flatMap fun page =>
        window limit page (rankings page).rows).Nodup := by
  rcases exists_parting_page member parts positive with ⟨page, first, last⟩
  rcases exists_shown_twice member positive first last with
    ⟨shown, one, other, onPage, onNext⟩
  refine ⟨fun queried => if queried = page then one else other, ?_⟩
  intro once
  have counted : page + 1 < items.length ⌈/⌉ limit := by
    have inside := lastPlace_lt_length key member
    rw [← not_le, ceilDiv_le_iff_le_mul positive, mul_comm]
    omega
  have upper : page + 1 < (List.range (items.length ⌈/⌉ limit)).length := by
    rw [List.length_range]
    exact counted
  have disjoint := List.pairwise_iff_getElem.mp
    (List.nodup_flatMap.mp once).2 page (page + 1)
    (Nat.lt_of_succ_lt upper) upper (Nat.lt_succ_self page)
  simp only [List.getElem_range, Function.onFun, if_true, Nat.succ_ne_self,
    if_false] at disjoint
  exact disjoint onPage onNext

end WeatherNotify.Order
