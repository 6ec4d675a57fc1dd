import Mathlib.Data.List.Induction
import Mathlib.Data.List.Nodup
import Songbook.Entries

/-!
# Entries under distinct keys

When no key comes twice, entries are determined by what is found under the keys, up to their order.
-/

namespace Songbook.Entries

universe u

variable {α : Type u} {entries other : Entries α} {key : String} {a : α}

theorem mem_of_get? (h : entries.get? key = some a) : (key, a) ∈ entries := by
  induction entries with
  | nil => cases h
  | cons entry rest ih =>
    obtain ⟨k, b⟩ := entry
    rw [get?_cons] at h
    by_cases hk : k = key
    · rw [if_pos hk, Option.some.injEq] at h
      rw [hk, h]
      exact List.mem_cons_self
    · rw [if_neg hk] at h
      exact List.mem_cons_of_mem _ (ih h)

theorem get?_of_mem (hkeys : entries.keys.Nodup) (h : (key, a) ∈ entries) :
    entries.get? key = some a := by
  induction entries with
  | nil => cases h
  | cons entry rest ih =>
    obtain ⟨k, b⟩ := entry
    rw [keys, List.map_cons, List.nodup_cons] at hkeys
    rw [get?_cons]
    rcases List.mem_cons.1 h with heq | hrest
    · obtain ⟨rfl, rfl⟩ := Prod.mk.inj heq
      exact if_pos rfl
    · have hk : k ≠ key := by
        rintro rfl
        exact hkeys.1 (List.mem_map.2 ⟨(k, a), hrest, rfl⟩)
      rw [if_neg hk]
      exact ih hkeys.2 hrest

theorem mem_iff_get? (hkeys : entries.keys.Nodup) :
    (key, a) ∈ entries ↔ entries.get? key = some a :=
  ⟨get?_of_mem hkeys, mem_of_get?⟩

theorem get?_eq_none_iff : entries.get? key = none ↔ key ∉ entries.keys := by
  induction entries with
  | nil => simp [keys]
  | cons entry rest ih =>
    obtain ⟨k, a⟩ := entry
    rw [get?_cons, keys, List.map_cons, List.mem_cons, not_or]
    by_cases hk : k = key
    · simp [hk]
    · rw [if_neg hk, ih, keys]
      exact (and_iff_right (Ne.symm hk)).symm

/-- Entries under which the same is found are the same up to their order. -/
theorem perm_of_get? (hkeys : entries.keys.Nodup) (hother : other.keys.Nodup)
    (h : ∀ key, entries.get? key = other.get? key) : entries.Perm other := by
  apply (List.perm_ext_iff_of_nodup hkeys.of_map hother.of_map).2
  rintro ⟨key, a⟩
  rw [mem_iff_get? hkeys, mem_iff_get? hother, h]

theorem nodup_keys_alter (hkeys : entries.keys.Nodup) (key : String) (f : Option α → α) :
    (entries.alter key f).keys.Nodup := by
  rw [keys_alter]
  by_cases hmem : key ∈ entries.keys
  · rwa [if_pos hmem]
  · rw [if_neg hmem, ← List.concat_eq_append]
    exact hkeys.concat hmem

/-- An alteration that keeps what it finds keeps the entries. -/
theorem alter_of_get? {f : Option α → α} (h : entries.get? key = some a) (hf : f (some a) = a) :
    entries.alter key f = entries := by
  induction entries with
  | nil => cases h
  | cons entry rest ih =>
    obtain ⟨k, b⟩ := entry
    rw [get?_cons] at h
    rw [alter]
    by_cases hk : k = key
    · rw [if_pos hk, Option.some.injEq] at h
      rw [if_pos hk, h, hf]
    · rw [if_neg hk] at h
      rw [if_neg hk, ih h]

/-- Entries without the key are passed over. -/
theorem alter_append_of_notMem (h : key ∉ entries.keys) (f : Option α → α) (rest : Entries α) :
    Entries.alter key f (entries ++ rest) = entries ++ rest.alter key f := by
  induction entries with
  | nil => rfl
  | cons entry entries ih =>
    obtain ⟨k, a⟩ := entry
    rw [keys, List.map_cons, List.mem_cons, not_or] at h
    rw [List.cons_append, alter, if_neg (Ne.symm h.1), ih h.2, List.cons_append]

theorem alter_of_notMem (h : key ∉ entries.keys) (f : Option α → α) :
    entries.alter key f = entries ++ [(key, f none)] := by
  have halter := alter_append_of_notMem h f []
  rwa [List.append_nil] at halter

theorem ofList_concat (pairs : List (String × α)) (pair : String × α) :
    ofList (pairs ++ [pair]) = (ofList pairs).insert pair.1 pair.2 := by
  rw [ofList, List.foldl_append, ofList]
  rfl

theorem nodup_keys_ofList (pairs : List (String × α)) : (ofList pairs).keys.Nodup := by
  induction pairs using List.reverseRecOn with
  | nil => exact List.nodup_nil
  | append_singleton pairs pair ih =>
    rw [ofList_concat]
    exact nodup_keys_alter ih _ _

theorem mem_keys_ofList {pairs : List (String × α)} :
    key ∈ (ofList pairs).keys ↔ key ∈ pairs.map Prod.fst := by
  induction pairs using List.reverseRecOn with
  | nil => exact Iff.rfl
  | append_singleton pairs pair ih =>
    rw [ofList_concat, insert, keys_alter, List.map_append, List.mem_append, ← ih]
    by_cases hpair : pair.1 ∈ (ofList pairs).keys
    · rw [if_pos hpair, List.map_singleton, List.mem_singleton]
      exact ⟨.inl, fun h => h.elim id fun heq => heq ▸ hpair⟩
    · rw [if_neg hpair, List.mem_append, List.map_singleton]

/-- An item such that all later ones pass is the last of all, or the last passes and it is one of
those before. -/
theorem exists_latest_concat_iff {β : Type*} {items : List β} {last : β} {wanted passed : β → Prop} :
    (∃ before item after, items ++ [last] = before ++ item :: after ∧ wanted item ∧
        ∀ later ∈ after, passed later) ↔
      wanted last ∨ passed last ∧ ∃ before item after, items = before ++ item :: after ∧
        wanted item ∧ ∀ later ∈ after, passed later := by
  constructor
  · rintro ⟨before, item, after, hsplit, hitem, hafter⟩
    rcases List.eq_nil_or_concat' after with rfl | ⟨after, final, rfl⟩
    · obtain ⟨-, hlast⟩ := List.append_inj' hsplit rfl
      obtain rfl := List.singleton_inj.1 hlast
      exact .inl hitem
    · have hsplit' : items ++ [last] = (before ++ item :: after) ++ [final] := by simpa using hsplit
      obtain ⟨hinit, hlast⟩ := List.append_inj' hsplit' rfl
      obtain rfl := List.singleton_inj.1 hlast
      exact .inr ⟨hafter last (by simp), before, item, after, hinit, hitem,
        fun later hlater => hafter later (List.mem_append_left _ hlater)⟩
  · rintro (hlast | ⟨hlast, before, item, after, rfl, hitem, hafter⟩)
    · exact ⟨items, last, [], rfl, hlast, by simp⟩
    · refine ⟨before, item, after ++ [last], by simp, hitem, fun later hlater => ?_⟩
      rcases List.mem_append.1 hlater with hlater | hlater
      · exact hafter later hlater
      · rwa [List.mem_singleton.1 hlater]

/-- Under a key is found the value of the last item of that name. -/
theorem get?_ofList_map_eq_some_iff {β : Type*} {items : List β} {name : β → String}
    {value : β → α} :
    (ofList (items.map fun item => (name item, value item))).get? key = some a ↔
      ∃ before item after, items = before ++ item :: after ∧ (name item = key ∧ value item = a) ∧
        ∀ later ∈ after, name later ≠ key := by
  induction items using List.reverseRecOn with
  | nil => simp [ofList]
  | append_singleton items last ih =>
    rw [List.map_append, List.map_singleton, ofList_concat, insert, exists_latest_concat_iff, ← ih]
    by_cases hname : name last = key
    · subst hname
      simp [get?_alter_self]
    · simp [get?_alter_of_ne hname, hname]

/-- Keys stand in the order in which they first came. -/
theorem pairwise_keys_ofList (pairs : List (String × α)) :
    (ofList pairs).keys.Pairwise fun first second =>
      (pairs.map Prod.fst).idxOf first < (pairs.map Prod.fst).idxOf second := by
  induction pairs using List.reverseRecOn with
  | nil => exact .nil
  | append_singleton pairs pair ih =>
    have hearlier : ∀ key ∈ (ofList pairs).keys,
        ((pairs ++ [pair]).map Prod.fst).idxOf key = (pairs.map Prod.fst).idxOf key := by
      intro key hkey
      rw [List.map_append]
      exact List.idxOf_append_of_mem (mem_keys_ofList.1 hkey)
    have hkept : (ofList pairs).keys.Pairwise fun first second =>
        ((pairs ++ [pair]).map Prod.fst).idxOf first <
          ((pairs ++ [pair]).map Prod.fst).idxOf second := by
      refine ih.imp_of_mem fun {first second} hfirst hsecond hlt => ?_
      rwa [hearlier first hfirst, hearlier second hsecond]
    rw [ofList_concat, insert, keys_alter]
    split
    · exact hkept
    · next hnew =>
      rw [mem_keys_ofList] at hnew
      refine List.pairwise_append.2 ⟨hkept, List.pairwise_singleton _ _, fun first hfirst => ?_⟩
      intro last hlast
      obtain rfl := List.mem_singleton.1 hlast
      rw [hearlier first hfirst, List.map_append, List.idxOf_append_of_notMem hnew]
      exact Nat.lt_of_lt_of_le (List.idxOf_lt_length_of_mem (mem_keys_ofList.1 hfirst))
        (Nat.le_add_right _ _)

theorem get?_filter (keep : String → Bool) (key : String) (entries : Entries α) :
    Entries.get? key (entries.filter fun entry => keep entry.1) =
      if keep key then entries.get? key else none := by
  induction entries with
  | nil => simp
  | cons entry rest ih =>
    obtain ⟨k, a⟩ := entry
    by_cases hkey : k = key
    · subst hkey
      cases hkeep : keep k with
      | true => simp [hkeep, get?_cons]
      | false => simpa [hkeep] using ih
    · cases hkeep : keep k with
      | true => simpa [hkeep, get?_cons, hkey] using ih
      | false => simpa [hkeep, get?_cons, hkey] using ih

/-- An alteration is seen through a filter by keys if its key is. -/
theorem filter_alter (keep : String → Bool) (key : String) (f : Option α → α)
    (entries : Entries α) :
    (entries.alter key f).filter (fun entry => keep entry.1) =
      if keep key then Entries.alter key f (entries.filter fun entry => keep entry.1)
      else entries.filter fun entry => keep entry.1 := by
  induction entries with
  | nil => cases hkeep : keep key <;> simp [alter, hkeep]
  | cons entry rest ih =>
    obtain ⟨k, a⟩ := entry
    by_cases hkey : k = key
    · subst hkey
      cases hkeep : keep k <;> simp [alter, hkeep]
    · cases hk : keep k <;> cases hkeep : keep key <;> simp_all [alter]

end Songbook.Entries
