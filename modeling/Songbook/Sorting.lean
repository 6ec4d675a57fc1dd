/-!
# Stable sorting

Merge sort whose recursion follows the lists themselves, so that the sorting of a given list can be
computed inside a proof. By a relation that is total and transitive on the items every stable sort
gives the same list. By any other relation this one still gives a list, where another may give the
items in another order or give up. Main statement: it is the merge sort of the standard library.
-/

namespace Songbook.Sorting

universe u

variable {α : Type u}

def mergeInto (le : α → α → Bool) (x : α) (xs : List α) (mergeTail : List α → List α) :
    List α → List α
  | [] => x :: xs
  | y :: ys => if le x y then x :: mergeTail (y :: ys) else y :: mergeInto le x xs mergeTail ys

def merge (le : α → α → Bool) : List α → List α → List α
  | [], ys => ys
  | x :: xs, ys => mergeInto le x xs (merge le xs) ys

def sortTo (le : α → α → Bool) : Nat → List α → List α
  | 0, xs => xs
  | _ + 1, [] => []
  | _ + 1, [x] => [x]
  | depth + 1, xs =>
    let half := (xs.length + 1) / 2
    merge le (sortTo le depth (xs.take half)) (sortTo le depth (xs.drop half))

def stableSort (le : α → α → Bool) (xs : List α) : List α :=
  sortTo le xs.length xs

theorem merge_eq (le : α → α → Bool) (xs ys : List α) : merge le xs ys = xs.merge ys le := by
  induction xs generalizing ys with
  | nil => simp [merge]
  | cons x xs ih =>
    induction ys with
    | nil => simp [merge, mergeInto]
    | cons y ys ihy =>
      simp only [merge] at ihy
      rw [merge, mergeInto, List.cons_merge_cons, ih, ihy]

theorem sortTo_eq (le : α → α → Bool) {depth : Nat} {xs : List α} (h : xs.length ≤ depth) :
    sortTo le depth xs = xs.mergeSort le := by
  induction depth generalizing xs with
  | zero => simp [List.length_eq_zero_iff.1 (Nat.le_zero.1 h), sortTo]
  | succ depth ih =>
    match xs with
    | [] => simp [sortTo]
    | [x] => simp [sortTo]
    | x :: y :: xs =>
      simp only [List.length_cons] at h
      have htake : ((x :: y :: xs).take ((xs.length + 2 + 1) / 2)).length ≤ depth := by
        simp only [List.length_take, List.length_cons]; omega
      have hdrop : ((x :: y :: xs).drop ((xs.length + 2 + 1) / 2)).length ≤ depth := by
        simp only [List.length_drop, List.length_cons]; omega
      rw [sortTo, List.mergeSort]
      · simp only [List.length_cons, List.MergeSort.Internal.splitInTwo_fst,
          List.MergeSort.Internal.splitInTwo_snd, merge_eq]
        rw [ih htake, ih hdrop]
      all_goals simp

theorem stableSort_eq (le : α → α → Bool) (xs : List α) :
    stableSort le xs = xs.mergeSort le :=
  sortTo_eq le (Nat.le_refl _)

end Songbook.Sorting
