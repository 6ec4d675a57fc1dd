import Songbook.Proofs.Store.Pipelines
import Songbook.Proofs.Store.Stability

/-!
# Sorts that may give up

A stable sort owes its order only to comparisons that are preorders. By any other comparison it may
leave the items in any order, or give up. Main statements: a run with merge sort is the run of the
store, and a run with any stable sort is so too if the keys of its sorts order what they sort.
-/

namespace Songbook

universe u

namespace Sorting

variable {α : Type u}

/-- A procedure that sorts by a comparison, or gives up. -/
abbrev Procedure (α : Type u) := (α → α → Ordering) → List α → Option (List α)

/-- What a stable sort promises: never to lose or double an item, and to return the items stably
sorted if the comparison is a preorder on them. -/
structure Procedure.IsStable (sort : Procedure α) : Prop where
  perm : ∀ cmp xs ys, sort cmp xs = some ys → ys.Perm xs
  sorted : ∀ cmp xs, Preordered cmp xs → ∃ ys, sort cmp xs = some ys ∧ StablySorted cmp xs ys

def merging : Procedure α :=
  fun cmp xs => some (stableSort (fun a b => (cmp a b).isLE) xs)

theorem isStable_merging : (merging (α := α)).IsStable where
  perm := by
    rintro cmp xs ys ⟨⟩
    exact stableSort_perm _ xs
  sorted _ _ h := ⟨_, rfl, h.stablySorted⟩

/-- A stable sort that gives up whenever it may. -/
def cautious : Procedure α :=
  fun cmp xs => if Preordered cmp xs then merging cmp xs else none

theorem isStable_cautious : (cautious (α := α)).IsStable where
  perm cmp xs ys h := isStable_merging.perm cmp xs ys (Option.ite_none_right_eq_some.1 h).2
  sorted cmp xs h := by
    rw [cautious, if_pos h]
    exact isStable_merging.sorted cmp xs h

/-- By a preorder all stable sorts do the same. -/
theorem Procedure.IsStable.eq_stableSort {sort : Procedure α} (hsort : sort.IsStable)
    {cmp : α → α → Ordering} {xs : List α} (h : Preordered cmp xs) :
    sort cmp xs = some (stableSort (fun a b => (cmp a b).isLE) xs) := by
  obtain ⟨ys, hys, hsorted⟩ := hsort.sorted cmp xs h
  rw [hys, hsorted.eq_stableSort h]

end Sorting

/-- How a run ends that may fail, and that gives up where one of its sorts does. -/
inductive Ending (ε α : Type) where
  | answer (a : α)
  | fault (e : ε)
  | gaveUp

namespace Ending

variable {ε φ α β : Type}

protected def bind : Ending ε α → (α → Ending ε β) → Ending ε β
  | answer a, f => f a
  | fault e, _ => fault e
  | gaveUp, _ => gaveUp

instance : Monad (Ending ε) where
  pure := answer
  bind := Ending.bind

instance : LawfulMonad (Ending ε) :=
  LawfulMonad.mk' _ (fun x => by cases x <;> rfl) (fun _ _ => rfl) (fun x _ _ => by cases x <;> rfl)

def ofExcept : Except ε α → Ending ε α
  | .ok a => answer a
  | .error e => fault e

def ofSort : Option α → Ending ε α
  | some a => answer a
  | none => gaveUp

def mapFault (f : ε → φ) : Ending ε α → Ending φ α
  | answer a => answer a
  | fault e => fault (f e)
  | gaveUp => gaveUp

@[simp] theorem answer_bind (a : α) (f : α → Ending ε β) : (answer a >>= f) = f a := rfl

@[simp] theorem fault_bind (e : ε) (f : α → Ending ε β) : (fault e >>= f) = fault e := rfl

@[simp] theorem gaveUp_bind (f : α → Ending ε β) : (gaveUp >>= f) = gaveUp := rfl

theorem ofExcept_injective {x y : Except ε α} (h : ofExcept x = ofExcept y) : x = y := by
  cases x <;> cases y <;> cases h <;> rfl

theorem ofExcept_bind (x : Except ε α) (f : α → Except ε β) :
    ofExcept (x >>= f) = ofExcept x >>= fun a => ofExcept (f a) := by
  cases x <;> rfl

theorem mapFault_bind (g : ε → φ) (x : Ending ε α) (f : α → Ending ε β) :
    (x >>= f).mapFault g = x.mapFault g >>= fun a => (f a).mapFault g := by
  cases x <;> rfl

theorem mapFault_ofSort (g : ε → φ) (x : Option α) :
    (ofSort x : Ending ε α).mapFault g = ofSort x := by
  cases x <;> rfl

theorem ofSort_eq_answer_iff {x : Option α} {a : α} :
    (ofSort x : Ending ε α) = answer a ↔ x = some a := by
  cases x <;> simp [ofSort]

theorem ofSort_ne_fault {x : Option α} {e : ε} : (ofSort x : Ending ε α) ≠ fault e := by
  cases x <;> simp [ofSort]

theorem bind_eq_answer_iff {x : Ending ε α} {f : α → Ending ε β} {b : β} :
    (x >>= f) = answer b ↔ ∃ a, x = answer a ∧ f a = answer b := by
  cases x <;> simp

/-- A sort adds no faults to those that come before it. -/
theorem bind_ofSort_eq_fault_iff {x : Ending ε α} {f : α → Option β} {e : ε} :
    (x >>= fun a => ofSort (f a)) = fault e ↔ x = fault e := by
  cases x <;> simp [ofSort_ne_fault]

end Ending

structure SortCall where
  keys : List SortKey
  docs : List Document

namespace SortCall

def IsOrdered (collation : Collation) (call : SortCall) : Prop :=
  ∀ key ∈ call.keys, key.Orders collation call.docs

instance (collation : Collation) (call : SortCall) : Decidable (call.IsOrdered collation) :=
  inferInstanceAs (Decidable (∀ key ∈ call.keys,
    Sorting.Preordered (Value.sortCompareFound collation) (call.docs.map (·.find? key.field))))

def Merges (sort : Sorting.Procedure Document) (collation : Collation) (call : SortCall) : Prop :=
  sort (SortKey.compareBy collation call.keys) call.docs =
    some (sortDocuments collation call.keys call.docs)

theorem merges_merging (collation : Collation) (call : SortCall) :
    call.Merges Sorting.merging collation := rfl

theorem IsOrdered.merges {sort : Sorting.Procedure Document} (hsort : sort.IsStable)
    {collation : Collation} {call : SortCall} (h : call.IsOrdered collation) :
    call.Merges sort collation :=
  hsort.eq_stableSort (SortKey.preordered_compareBy fun key hkey => (h key hkey).preordered)

-- A symbol is level with every text, though the texts are not level with one another.
example : ¬ IsOrdered .caseInsensitive ⟨[.asc "song"], [[("song", .string "Style")],
    [("song", .symbol "Wonderland")], [("song", .string "Clean")]]⟩ := by
  decide

end SortCall

section Runs

variable (sort : Sorting.Procedure Document) (collation : Collation)

def sortDocumentsBy (keys : List SortKey) (docs : List Document) : Option (List Document) :=
  sort (SortKey.compareBy collation keys) docs

namespace Search

def selected (search : Search) (docs : List Document) : List Document :=
  docs.filter fun doc => search.filter.all (·.holds collation doc)

def runBy (search : Search) (docs : List Document) : Option (List Document) :=
  (sortDocumentsBy sort collation search.sort (search.selected collation docs)).map
    (window search.skip search.limit)

def sorts (search : Search) (docs : List Document) : List SortCall :=
  [⟨search.sort, search.selected collation docs⟩]

end Search

namespace Stage

def runBy (docs : List Document) : Stage → Ending StoreError (List Document)
  | .sort keys => .ofSort (sortDocumentsBy sort collation keys docs)
  | stage => .ofExcept (stage.run collation docs)

def runAllBy (stages : List Stage) (docs : List Document) : Ending StoreError (List Document) :=
  stages.foldlM (runBy sort collation) docs

def sorts (docs : List Document) : Stage → List SortCall
  | .sort keys => [⟨keys, docs⟩]
  | _ => []

/-- The sorts of a run, each with what merge sort would have left of the stages before it. -/
def allSorts : List Stage → List Document → List SortCall
  | [], _ => []
  | stage :: rest, docs => stage.sorts docs ++ match stage.run collation docs with
    | .ok left => allSorts rest left
    | .error _ => []

end Stage

namespace Store

def findBy (name : String) (search : Search) (store : Store) :
    Ending StoreError (List Document) := do
  let docs ← .ofExcept (store.collection name)
  .ofSort (search.runBy sort collation docs)

def aggregateBy (name : String) (stages : List Stage) (store : Store) :
    Ending StoreError (List Document) := do
  let docs ← .ofExcept (store.collection name)
  Stage.runAllBy sort collation stages docs

end Store

variable {sort : Sorting.Procedure Document} {collation : Collation} {docs : List Document}

theorem sortDocumentsBy_perm (hsort : sort.IsStable) {keys : List SortKey}
    {sorted : List Document} (h : sortDocumentsBy sort collation keys docs = some sorted) :
    sorted.Perm docs :=
  hsort.perm _ docs sorted h

theorem sortDocumentsBy_nil (hsort : sort.IsStable) (docs : List Document) :
    sortDocumentsBy sort collation [] docs = some docs := by
  have hordered : SortCall.IsOrdered collation ⟨[], docs⟩ := by simp [SortCall.IsOrdered]
  have hmerges := hordered.merges hsort
  rw [SortCall.Merges, sortDocuments_nil] at hmerges
  exact hmerges

theorem Search.runBy_eq {search : Search}
    (h : ∀ call ∈ search.sorts collation docs, call.Merges sort collation) :
    search.runBy sort collation docs = some (search.run collation docs) := by
  have hcall := h _ List.mem_cons_self
  rw [runBy, sortDocumentsBy, hcall]
  rfl

namespace Stage

variable {stage : Stage} {stages : List Stage}

theorem runBy_eq (h : ∀ call ∈ stage.sorts docs, call.Merges sort collation) :
    stage.runBy sort collation docs = .ofExcept (stage.run collation docs) := by
  cases stage with
  | sort keys =>
    have hcall := h _ List.mem_cons_self
    rw [runBy, sortDocumentsBy, hcall]
    rfl
  | _ => rfl

theorem runAllBy_append (sort : Sorting.Procedure Document) (stages more : List Stage)
    (docs : List Document) :
    runAllBy sort collation (stages ++ more) docs =
      runAllBy sort collation stages docs >>= runAllBy sort collation more := by
  unfold runAllBy
  exact List.foldlM_append

/-- Where all its sorts do what merge sort does, a run is the run of the store. -/
theorem runAllBy_eq (h : ∀ call ∈ allSorts collation stages docs, call.Merges sort collation) :
    runAllBy sort collation stages docs = .ofExcept (runAll collation stages docs) := by
  induction stages generalizing docs with
  | nil => rfl
  | cons stage rest ih =>
    have hstage := runBy_eq fun call hcall => h call (List.mem_append_left _ hcall)
    have hrun : runAll collation (stage :: rest) docs =
        stage.run collation docs >>= runAll collation rest := List.foldlM_cons
    have hrunBy : runAllBy sort collation (stage :: rest) docs =
        stage.runBy sort collation docs >>= runAllBy sort collation rest := List.foldlM_cons
    rw [hrunBy, hstage, hrun]
    cases hleft : stage.run collation docs with
    | error e => rfl
    | ok left =>
      apply ih
      intro call hcall
      apply h call
      rw [allSorts, hleft]
      exact List.mem_append_right _ hcall

theorem allSorts_eq_nil (h : ∀ stage ∈ stages, ∀ docs, stage.sorts docs = []) :
    allSorts collation stages docs = [] := by
  induction stages generalizing docs with
  | nil => rfl
  | cons stage rest ih =>
    have hrest : ∀ left, allSorts collation rest left = [] := fun left =>
      ih fun other hother => h other (List.mem_cons_of_mem stage hother)
    rw [allSorts, h stage List.mem_cons_self]
    cases stage.run collation docs with
    | error e => rfl
    | ok left => exact hrest left

/-- Without a sort among the stages there is nothing to give up. -/
theorem runAllBy_of_sortless (h : ∀ stage ∈ stages, ∀ docs, stage.sorts docs = []) :
    runAllBy sort collation stages docs = .ofExcept (runAll collation stages docs) := by
  apply runAllBy_eq
  rw [allSorts_eq_nil h]
  simp

theorem sorts_eq_nil_of_mem {α : Type} {given : Option α} {make : α → Stage}
    (hmake : ∀ a docs, (make a).sorts docs = []) :
    ∀ stage ∈ (given.map make).toList, ∀ docs, stage.sorts docs = [] := by
  intro stage hstage docs
  obtain ⟨a, -, rfl⟩ := Option.map_eq_some_iff.1 (Option.mem_toList.1 hstage)
  exact hmake a docs

theorem runAllBy_select (filter : Option Condition) (docs : List Document) :
    runAllBy sort collation (filter.map select).toList docs =
      .answer (docs.filter fun doc => filter.all (·.holds collation doc)) := by
  rw [runAllBy_of_sortless (sorts_eq_nil_of_mem fun _ _ => rfl), runAll_select]
  rfl

theorem runAllBy_window (skipped kept : Option UInt64) (docs : List Document) :
    runAllBy sort collation ((skipped.map skip).toList ++ (kept.map limit).toList) docs =
      .answer (window skipped kept docs) := by
  have hsortless : ∀ stage ∈ (skipped.map skip).toList ++ (kept.map limit).toList,
      ∀ docs, stage.sorts docs = [] := by
    intro stage hstage
    rcases List.mem_append.1 hstage with hstage | hstage
    · exact sorts_eq_nil_of_mem (fun _ _ => rfl) stage hstage
    · exact sorts_eq_nil_of_mem (fun _ _ => rfl) stage hstage
  rw [runAllBy_of_sortless hsortless, runAll_window]
  rfl

end Stage

namespace Store

variable {store : Store} {name : String}

theorem findBy_eq {search : Search}
    (h : ∀ docs, store.collection name = .ok docs →
      ∀ call ∈ search.sorts collation docs, call.Merges sort collation) :
    store.findBy sort collation name search = .ofExcept (store.find name search collation) := by
  unfold findBy find
  cases hdocs : store.collection name with
  | error e => rfl
  | ok docs =>
    change Ending.ofSort (search.runBy sort collation docs) = _
    rw [Search.runBy_eq (h docs hdocs)]
    rfl

theorem aggregateBy_eq {stages : List Stage}
    (h : ∀ docs, store.collection name = .ok docs →
      ∀ call ∈ Stage.allSorts collation stages docs, call.Merges sort collation) :
    store.aggregateBy sort collation name stages =
      .ofExcept (store.aggregate name stages collation) := by
  unfold aggregateBy aggregate
  cases hdocs : store.collection name with
  | error e => rfl
  | ok docs => exact Stage.runAllBy_eq (h docs hdocs)

end Store

end Runs

end Songbook
