/-
Module: XinimTooling.Python.Sorted
Purpose: `sorted(items, key=..., reverse=...)` with an integer key, as CPython computes it,
  and the three facts a caller needs: it permutes, it orders, and it keeps the order of
  items with equal keys.
Trusted boundary: CPython's list sort is stable, also with `reverse=True`
Main exports: pySorted, pySorted_perm, pySorted_descending, filter_pySorted_descending,
  pySorted_congr
-/
import Mathlib.Data.List.Sort

namespace XinimTooling

/-!
CPython sorts with `reverse=True` by reversing the list, sorting it stably in ascending key
order and reversing the result, which is how equal keys keep their original order.  A
stable sort's result is determined by its input and comparison, so insertion sort, which
recurses structurally and evaluates by `decide`, stands for Timsort.
-/

variable {α : Type}

/-- `sorted(items, key=key, reverse=reverse)`. -/
def pySorted (key : α → Nat) (reverse : Bool) (items : List α) : List α :=
  if reverse then
    (items.reverse.insertionSort fun first second => key first ≤ key second).reverse
  else items.insertionSort fun first second => key first ≤ key second

theorem pySorted_perm (key : α → Nat) (reverse : Bool) (items : List α) :
    (pySorted key reverse items).Perm items := by
  unfold pySorted
  split
  · exact (List.reverse_perm _).trans ((List.perm_insertionSort _ _).trans (List.reverse_perm _))
  · exact List.perm_insertionSort _ _

theorem orderedInsert_congr {key key' : α → Nat} (item : α) :
    ∀ {items : List α}, (∀ other ∈ item :: items, key other = key' other) →
      items.orderedInsert (fun first second => key first ≤ key second) item =
        items.orderedInsert (fun first second => key' first ≤ key' second) item
  | [], _ => rfl
  | other :: items, same => by
      have rest : ∀ each ∈ item :: items, key each = key' each := fun each mem =>
        (List.mem_cons.mp mem).elim (fun first => same each (first ▸ List.mem_cons_self _ _))
          fun later => same each (List.mem_cons_of_mem _ (List.mem_cons_of_mem _ later))
      simp only [List.orderedInsert, same item (List.mem_cons_self _ _),
        same other (List.mem_cons_of_mem _ (List.mem_cons_self _ _)), orderedInsert_congr item rest]

theorem insertionSort_congr {key key' : α → Nat} :
    ∀ {items : List α}, (∀ item ∈ items, key item = key' item) →
      items.insertionSort (fun first second => key first ≤ key second) =
        items.insertionSort fun first second => key' first ≤ key' second
  | [], _ => rfl
  | item :: items, same => by
      rw [List.insertionSort, List.insertionSort,
        insertionSort_congr fun other mem => same other (List.mem_cons_of_mem _ mem)]
      refine orderedInsert_congr item fun other mem => ?_
      rcases List.mem_cons.mp mem with rfl | sorted
      · exact same other (List.mem_cons_self _ _)
      · exact same other (List.mem_cons_of_mem _ ((List.perm_insertionSort _ items).subset sorted))

/-- The result depends on the keys of the items only. -/
theorem pySorted_congr {key key' : α → Nat} (reverse : Bool) {items : List α}
    (same : ∀ item ∈ items, key item = key' item) :
    pySorted key reverse items = pySorted key' reverse items := by
  unfold pySorted
  split
  · rw [insertionSort_congr fun item mem => same item (List.mem_reverse.mp mem)]
  · rw [insertionSort_congr same]

/-- With `reverse=True` the keys do not increase. -/
theorem pySorted_descending (key : α → Nat) (items : List α) :
    (pySorted key true items).Sorted fun first second => key second ≤ key first := by
  have total : IsTotal α fun first second => key first ≤ key second :=
    ⟨fun first second => le_total (key first) (key second)⟩
  have trans : IsTrans α fun first second => key first ≤ key second :=
    ⟨fun _ _ _ => le_trans⟩
  simp only [pySorted, if_true, List.Sorted, List.pairwise_reverse]
  exact List.sorted_insertionSort _ _

/-- Stability: with `reverse=True`, the items of any one key come out in their input
order. -/
theorem filter_pySorted_descending (key : α → Nat) (items : List α) (level : Nat) :
    (pySorted key true items).filter (fun item => key item = level) =
      items.filter fun item => key item = level := by
  set sorted := items.reverse.insertionSort fun first second => key first ≤ key second
  set atLevel := items.reverse.filter fun item => key item = level
  have pairwise : atLevel.Pairwise fun first second => key first ≤ key second :=
    List.pairwise_of_forall_mem_list fun first memFirst second memSecond => by
      rw [(List.mem_filter.mp memFirst).2 |> of_decide_eq_true,
        (List.mem_filter.mp memSecond).2 |> of_decide_eq_true]
  have kept : List.Sublist atLevel (sorted.filter fun item => key item = level) := by
    have sub := (List.sublist_insertionSort pairwise (List.filter_sublist _)).filter
      (fun item => decide (key item = level))
    rwa [List.filter_eq_self.mpr fun item mem => (List.mem_filter.mp mem).2] at sub
  have same : atLevel = sorted.filter fun item => key item = level :=
    kept.eq_of_length ((List.perm_insertionSort _ _).filter _).length_eq.symm
  simp only [pySorted, if_true, List.filter_reverse]
  rw [← same]
  simp only [atLevel, List.filter_reverse, List.reverse_reverse]

end XinimTooling
