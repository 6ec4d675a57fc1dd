import Mathlib.Data.List.Forall2

/-!
# Steps that may fail

A chain of steps and a pass over a list, both of which stop at the first fault. Where steps commute,
a chain of them goes through in any order or in none.
-/

namespace Songbook.Sequencing

universe u v w

variable {ε : Type u} {α : Type v} {β : Type w}

theorem mapM_eq_ok_iff {f : α → Except ε β} {xs : List α} {ys : List β} :
    xs.mapM f = .ok ys ↔ xs.map f = ys.map .ok := by
  induction xs generalizing ys with
  | nil => cases ys <;> simp [pure, Except.pure]
  | cons x xs ih =>
    rw [List.mapM_cons, List.map_cons]
    cases hx : f x with
    | error e => cases ys <;> simp [bind, Except.bind]
    | ok y =>
      cases hxs : xs.mapM f with
      | error e =>
        have hne : ∀ ys : List β, xs.map f ≠ ys.map .ok := by
          intro ys h
          rw [ih.2 h] at hxs
          cases hxs
        cases ys with
        | nil => simp [bind, Except.bind]
        | cons z ys => simp [bind, Except.bind, hne ys]
      | ok zs =>
        have hzs := ih.1 hxs
        cases ys with
        | nil => simp [bind, Except.bind, pure, Except.pure]
        | cons z ys =>
          simp only [bind, Except.bind, pure, Except.pure, Except.ok.injEq, List.cons.injEq,
            List.map_cons, hzs]
          refine and_congr_right fun _ => ⟨fun h => by rw [h], fun h => ?_⟩
          exact (List.map_inj_right fun a b hab => Except.ok.inj hab).1 h

variable {f : α → Except ε β} {xs : List α} {ys : List β}

/-- Every item of a finished pass has its result. -/
theorem exists_result (h : xs.mapM f = .ok ys) : ∀ x ∈ xs, ∃ y ∈ ys, f x = .ok y := by
  intro x hx
  have hmem : f x ∈ ys.map .ok := mapM_eq_ok_iff.1 h ▸ List.mem_map_of_mem hx
  obtain ⟨y, hy, hfx⟩ := List.mem_map.1 hmem
  exact ⟨y, hy, hfx.symm⟩

/-- Every result of a finished pass comes from an item. -/
theorem exists_item (h : xs.mapM f = .ok ys) : ∀ y ∈ ys, ∃ x ∈ xs, f x = .ok y := by
  intro y hy
  have hmem : .ok y ∈ xs.map f := mapM_eq_ok_iff.1 h ▸ List.mem_map_of_mem hy
  exact List.mem_map.1 hmem

/-- A pass that fails does so at the first item with a fault. -/
theorem exists_first_fault {e : ε} (h : xs.mapM f = .error e) :
    ∃ before x after, xs = before ++ x :: after ∧ (∀ a ∈ before, ∃ b, f a = .ok b) ∧
      f x = .error e := by
  induction xs with
  | nil => cases h
  | cons x xs ih =>
    rw [List.mapM_cons] at h
    cases hx : f x with
    | error e' =>
      rw [hx] at h
      obtain rfl : e' = e := Except.error.inj h
      exact ⟨[], x, xs, rfl, by simp, hx⟩
    | ok y =>
      cases hxs : xs.mapM f with
      | ok zs =>
        rw [hx, hxs] at h
        cases h
      | error e' =>
        rw [hx, hxs] at h
        obtain rfl : e' = e := Except.error.inj h
        obtain ⟨before, z, after, hsplit, hbefore, hz⟩ := ih hxs
        refine ⟨x :: before, z, after, by rw [hsplit]; rfl, ?_, hz⟩
        intro a ha
        rcases List.mem_cons.1 ha with rfl | ha
        · exact ⟨y, hx⟩
        · exact hbefore a ha

/-- A fault at any item makes the pass fail. -/
theorem exists_error {x : α} {e : ε} (hx : x ∈ xs) (h : f x = .error e) :
    ∃ e', xs.mapM f = .error e' := by
  cases hxs : xs.mapM f with
  | error e' => exact ⟨e', rfl⟩
  | ok ys =>
    obtain ⟨y, -, hy⟩ := exists_result hxs x hx
    rw [h] at hy
    cases hy

/-- Where every item has a result of some kind, the pass finishes with such results. -/
theorem exists_mapM_ok {R : α → β → Prop} (h : ∀ x ∈ xs, ∃ y, f x = .ok y ∧ R x y) :
    ∃ ys, xs.mapM f = .ok ys ∧ List.Forall₂ R xs ys := by
  induction xs with
  | nil => exact ⟨[], rfl, .nil⟩
  | cons x xs ih =>
    obtain ⟨y, hy, hxy⟩ := h x List.mem_cons_self
    obtain ⟨ys, hys, hrest⟩ := ih fun z hz => h z (List.mem_cons_of_mem x hz)
    refine ⟨y :: ys, ?_, .cons hxy hrest⟩
    rw [List.mapM_cons, hy, hys]
    rfl

/-- What reads every item back from its written form reads the list back. -/
theorem mapM_map_eq_some {γ : Type u} {write : α → γ} {read : γ → Option β} {g : α → β}
    (h : ∀ x ∈ xs, read (write x) = some (g x)) : (xs.map write).mapM read = some (xs.map g) := by
  induction xs with
  | nil => rfl
  | cons x xs ih =>
    have hrest := ih fun y hy => h y (List.mem_cons_of_mem x hy)
    rw [List.map_cons, List.mapM_cons, h x List.mem_cons_self, hrest]
    rfl

section Chains

variable {σ : Type w} {g : σ → α → Except ε σ} {s t : σ}

theorem bind_eq_ok_iff {γ : Type w} {x : Except ε σ} {k : σ → Except ε γ} {c : γ} :
    x >>= k = .ok c ↔ ∃ b, x = .ok b ∧ k b = .ok c := by
  cases x with
  | error e => simp [bind, Except.bind]
  | ok b => simp [bind, Except.bind]

theorem bind_eq_error_iff {γ : Type w} {x : Except ε σ} {k : σ → Except ε γ} {e : ε} :
    x >>= k = .error e ↔ x = .error e ∨ ∃ b, x = .ok b ∧ k b = .error e := by
  cases x with
  | error e' => simp [bind, Except.bind]
  | ok b => simp [bind, Except.bind]

theorem foldlM_cons_eq_ok_iff {x : α} :
    (x :: xs).foldlM g s = .ok t ↔ ∃ m, g s x = .ok m ∧ xs.foldlM g m = .ok t := by
  rw [List.foldlM_cons, bind_eq_ok_iff]

/-- Two steps that go through one after the other do so the other way round, to the same end. -/
def Commutes (g : σ → α → Except ε σ) : Prop :=
  ∀ s m t x y, g s x = .ok m → g m y = .ok t → ∃ n, g s y = .ok n ∧ g n x = .ok t

theorem foldlM_ok_of_perm (hg : Commutes g) {more : List α} (hperm : xs.Perm more)
    (h : xs.foldlM g s = .ok t) : more.foldlM g s = .ok t := by
  induction hperm generalizing s with
  | nil => exact h
  | cons x _ ih =>
    obtain ⟨m, hx, hrest⟩ := foldlM_cons_eq_ok_iff.1 h
    exact foldlM_cons_eq_ok_iff.2 ⟨m, hx, ih hrest⟩
  | swap x y zs =>
    obtain ⟨m, hy, hrest⟩ := foldlM_cons_eq_ok_iff.1 h
    obtain ⟨last, hx, hrest⟩ := foldlM_cons_eq_ok_iff.1 hrest
    obtain ⟨n, hx', hy'⟩ := hg s m last y x hy hx
    exact foldlM_cons_eq_ok_iff.2 ⟨n, hx', foldlM_cons_eq_ok_iff.2 ⟨last, hy', hrest⟩⟩
  | trans _ _ ih ih' => exact ih' (ih h)

section Invariants

variable {P : σ → Prop} (hkeep : ∀ s x t, g s x = .ok t → P s → P t)

include hkeep

theorem foldlM_keeps (h : xs.foldlM g s = .ok t) (hs : P s) : P t := by
  induction xs generalizing s with
  | nil => exact Except.ok.inj h ▸ hs
  | cons x xs ih =>
    obtain ⟨m, hx, hrest⟩ := foldlM_cons_eq_ok_iff.1 h
    exact ih hrest (hkeep s x m hx hs)

/-- What one step brings about and every step keeps holds at the end of the chain. -/
theorem foldlM_reaches {x : α} (hx : x ∈ xs) (hreach : ∀ s t, g s x = .ok t → P t)
    (h : xs.foldlM g s = .ok t) : P t := by
  induction xs generalizing s with
  | nil => cases hx
  | cons y xs ih =>
    obtain ⟨m, hy, hrest⟩ := foldlM_cons_eq_ok_iff.1 h
    rcases List.mem_cons.1 hx with rfl | hx
    · exact foldlM_keeps hkeep hrest (hreach s m hy)
    · exact ih hx hrest

end Invariants

/-- A chain that fails does so at one of its steps. -/
theorem exists_failing_step {e : ε} (h : xs.foldlM g s = .error e) :
    ∃ m, ∃ x ∈ xs, g m x = .error e := by
  induction xs generalizing s with
  | nil => cases h
  | cons x xs ih =>
    rw [List.foldlM_cons] at h
    cases hx : g s x with
    | error e' =>
      rw [hx] at h
      obtain rfl : e' = e := Except.error.inj h
      exact ⟨s, x, List.mem_cons_self, hx⟩
    | ok m =>
      rw [hx] at h
      obtain ⟨n, y, hy, hfault⟩ := ih h
      exact ⟨n, y, List.mem_cons_of_mem x hy, hfault⟩

end Chains

section Pairs

universe u' v' w'

variable {γ : Type w'} {R : β → γ → Prop}

/-- Two runs with the same fault, or with results that a relation holds of. -/
inductive Alike (R : β → γ → Prop) : Except ε β → Except ε γ → Prop
  | ok {b : β} {c : γ} (h : R b c) : Alike R (.ok b) (.ok c)
  | error (e : ε) : Alike R (.error e) (.error e)

theorem Alike.refl {R : β → β → Prop} (h : ∀ b, R b b) : (x : Except ε β) → Alike R x x
  | .ok b => .ok (h b)
  | .error e => .error e

theorem Alike.bind {β' : Type w} {γ' : Type w'} {S : β' → γ' → Prop} {x : Except ε β}
    {y : Except ε γ} {k : β → Except ε β'} {l : γ → Except ε γ'} (h : Alike R x y)
    (hnext : ∀ b c, R b c → Alike S (k b) (l c)) : Alike S (x >>= k) (y >>= l) := by
  cases h with
  | ok h => exact hnext _ _ h
  | error e => exact .error e

theorem Alike.mapM {α' : Type v'} {g : α' → Except ε γ} {move : α → α'}
    (h : ∀ x ∈ xs, Alike R (f x) (g (move x))) :
    Alike (List.Forall₂ R) (xs.mapM f) ((xs.map move).mapM g) := by
  induction xs with
  | nil => exact .ok .nil
  | cons x xs ih =>
    rw [List.map_cons, List.mapM_cons, List.mapM_cons]
    refine (h x List.mem_cons_self).bind fun b c hbc => ?_
    refine (ih fun y hy => h y (List.mem_cons_of_mem x hy)).bind fun bs cs hbcs => ?_
    exact .ok (.cons hbc hbcs)

end Pairs

end Songbook.Sequencing
