import Songbook.Store.Basic

/-!
# Runs of pipelines

A pipeline made of two parts runs the second on what the first leaves. Main statements: the stages
that only select and the stages that only cut a window out never fail, and what they leave.
-/

namespace Songbook

theorem window_none_none {α : Type} (items : List α) : window none none items = items := by
  simp [window]

namespace Stage

variable (collation : Collation)

theorem runAll_nil (docs : List Document) : runAll collation [] docs = .ok docs := rfl

theorem runAll_append (stages more : List Stage) (docs : List Document) :
    runAll collation (stages ++ more) docs =
      runAll collation stages docs >>= runAll collation more := by
  unfold runAll
  exact List.foldlM_append

/-- The stages of an optional condition leave what a search with that filter selects. -/
theorem runAll_select (filter : Option Condition) (docs : List Document) :
    runAll collation (filter.map select).toList docs =
      .ok (docs.filter fun doc => filter.all (·.holds collation doc)) := by
  cases filter with
  | none =>
    have hall : docs.filter (fun doc => (none : Option Condition).all (·.holds collation doc)) =
        docs := List.filter_eq_self.2 fun _ _ => rfl
    rw [hall]
    exact runAll_nil collation docs
  | some condition => rfl

theorem runAll_window (skipped kept : Option UInt64) (docs : List Document) :
    runAll collation ((skipped.map skip).toList ++ (kept.map limit).toList) docs =
      .ok (window skipped kept docs) := by
  cases skipped with
  | none =>
    cases kept with
    | none => exact congrArg Except.ok (window_none_none docs).symm
    | some n => rfl
  | some m =>
    cases kept with
    | none => rfl
    | some n =>
      have hrun : runAll collation [skip m, limit n] docs =
          .ok (window none (some n) (window (some m) none docs)) := rfl
      refine hrun.trans (congrArg Except.ok ?_)
      simp [window]

end Stage

end Songbook
