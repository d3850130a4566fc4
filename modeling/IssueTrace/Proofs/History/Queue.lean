import IssueTrace.History.Queue
import Mathlib.Data.List.Perm.Basic

/-!
# What a priority queue gives back

Whatever the order, a queue gives back the entries that were put into it, each as often as it was put
there: entries are moved by exchanges only.
-/

namespace IssueTrace.History.Queue

open scoped List

variable {α : Type} (precedes : α → α → Bool)

theorem exchange_perm (queue : Array α) (i k : Nat) :
    (exchange queue i k).toList.Perm queue.toList := by
  unfold exchange
  rw [Array.swapIfInBounds_def]
  split
  · split
    · rename_i hi hk
      exact (Array.swap_perm hi hk).toList
    · exact .refl _
  · exact .refl _

theorem siftUp_perm (queue : Array α) (i : Nat) :
    (siftUp precedes queue i).toList.Perm queue.toList := by
  induction queue, i using siftUp.induct precedes with
  | case1 queue =>
      unfold siftUp
      exact .refl _
  | case2 queue i hi hstay =>
      unfold siftUp
      rw [dif_neg hi, if_pos hstay]
  | case3 queue i hi hstay ih =>
      unfold siftUp
      rw [dif_neg hi, if_neg hstay]
      exact ih.trans (exchange_perm queue _ _)

theorem siftDown_perm (depth : Nat) :
    ∀ (queue : Array α) (i : Nat),
      (siftDown precedes depth queue i).toList.Perm queue.toList := by
  induction depth with
  | zero =>
      intro queue i
      exact .refl _
  | succ depth ih =>
      intro queue i
      unfold siftDown
      dsimp only
      split
      · exact .refl _
      · exact (ih _ _).trans (exchange_perm queue _ _)

theorem push_perm (queue : Array α) (x : α) :
    (push precedes queue x).toList.Perm (x :: queue.toList) := by
  have hback : (queue.push x).toList.Perm (x :: queue.toList) := by
    rw [Array.toList_push]
    exact List.perm_append_singleton x queue.toList
  exact (siftUp_perm precedes (queue.push x) queue.size).trans hback

theorem foldl_push_perm (xs : List α) :
    ∀ queue : Array α, (xs.foldl (push precedes) queue).toList.Perm (xs ++ queue.toList) := by
  induction xs with
  | nil =>
      intro queue
      exact .refl _
  | cons x xs ih =>
      intro queue
      rw [List.foldl_cons]
      calc (xs.foldl (push precedes) (push precedes queue x)).toList
        _ ~ xs ++ (push precedes queue x).toList := ih _
        _ ~ xs ++ x :: queue.toList := (push_perm precedes queue x).append_left xs
        _ ~ x :: (xs ++ queue.toList) := List.perm_middle

theorem perm_cons_tail {queue : Array α} {x : α} (h : queue[0]? = some x) :
    queue.toList.Perm (x :: (tail precedes queue).toList) := by
  obtain ⟨hsize, hfirst⟩ := Array.getElem?_eq_some_iff.mp h
  have hlast : (exchange queue 0 (queue.size - 1)).toList.getLast? = some x := by
    unfold exchange
    rw [List.getLast?_eq_getElem?, Array.swapIfInBounds_def, dif_pos hsize,
      dif_pos (by omega), Array.toList_swap, List.length_set, List.length_set, Array.length_toList,
      hfirst]
    exact List.getElem?_set_self (by simp; omega)
  obtain ⟨others, hothers⟩ := List.getLast?_eq_some_iff.mp hlast
  have hpop : (exchange queue 0 (queue.size - 1)).pop.toList = others := by
    rw [Array.toList_pop, hothers, List.dropLast_concat]
  have hkept : (tail precedes queue).toList.Perm others := by
    rw [← hpop]
    exact siftDown_perm precedes queue.size _ 0
  calc queue.toList
    _ ~ (exchange queue 0 (queue.size - 1)).toList := (exchange_perm queue _ _).symm
    _ ~ x :: others := by
        rw [hothers]
        exact List.perm_append_singleton x others
    _ ~ x :: (tail precedes queue).toList := hkept.symm.cons x

theorem takeOut_perm (count : Nat) :
    ∀ queue : Array α, queue.size = count →
      (takeOut precedes count queue).Perm queue.toList := by
  induction count with
  | zero =>
      intro queue hsize
      rw [Array.eq_empty_of_size_eq_zero hsize]
      exact .refl _
  | succ count ih =>
      intro queue hsize
      have hfirst : queue[0]? = some queue[0] := Array.getElem?_eq_getElem (by omega)
      have htail := perm_cons_tail precedes hfirst
      have hrest : (tail precedes queue).size = count := by
        have hlength := htail.length_eq
        simp only [Array.length_toList, List.length_cons] at hlength
        omega
      unfold takeOut
      rw [hfirst]
      exact ((ih _ hrest).cons _).trans htail.symm

/-- A queue gives back what was put into it. -/
theorem drain_perm (xs : List α) : (drain precedes xs).Perm xs := by
  have hpushed := foldl_push_perm precedes xs #[]
  rw [Array.toList_empty, List.append_nil] at hpushed
  have hsize : (xs.foldl (push precedes) #[]).size = xs.length := by
    rw [← Array.length_toList]
    exact hpushed.length_eq
  exact (takeOut_perm precedes xs.length _ hsize).trans hpushed

end IssueTrace.History.Queue
