import Songbook.Proofs.Request.WellFormed
import Songbook.Proofs.Text.Lowering

/-!
# Collected parameters

Parameters keep the values of one key together. Main statement: they hold the pairs of a request
blind to letter case, each key where it first came and each value in the order of arrival, and
nothing is lost or added, so that the pairs they hold give the same parameters again.
-/

namespace Songbook.Params

def folded (pair : String × String) : String × String :=
  (foldKey pair.1, Text.lower pair.2)

def lowered (pair : String × String) : String × String :=
  (Text.lower pair.1, Text.lower pair.2)

def keysOf (pairs : List (String × String)) : List String :=
  pairs.map fun pair => foldKey pair.1

def spread (params : Params) : List (String × String) :=
  params.entries.flatMap fun entry => entry.2.map fun value => (entry.1, value)

/-- How parameters come from the pairs of a request: each folded key once, where it first came, with
its values in the order in which they came. -/
structure Collects (pairs : List (String × String)) (params : Params) : Prop where
  once : params.entries.keys.Nodup
  same : ∀ key, key ∈ params.entries.keys ↔ key ∈ keysOf pairs
  first : params.entries.keys.Pairwise fun a b => (keysOf pairs).idxOf a < (keysOf pairs).idxOf b
  values : ∀ entry ∈ params.entries, entry.2 = valuesOf entry.1 pairs

variable {pairs : List (String × String)} {params other : Params}

section Determined

/-- Keys stand as in entries that keep one value of each. -/
theorem keys_ofPairs (pairs : List (String × String)) :
    (ofPairs pairs).entries.keys = (Entries.ofList (pairs.map folded)).keys := by
  induction pairs using List.reverseRecOn with
  | nil => rfl
  | append_singleton pairs pair ih =>
    rw [ofPairs_concat, insert, Entries.keys_alter, List.map_append, List.map_singleton,
      Entries.ofList_concat, Entries.insert, Entries.keys_alter, ih]
    rfl

theorem get?_ofPairs_eq_some_iff {key : String} {values : List String} :
    (ofPairs pairs).get? key = some values ↔
      key ∈ keysOf pairs ∧ values = valuesOf key pairs := by
  have hnil : valuesOf key pairs = [] ↔ key ∉ keysOf pairs := by
    simp [valuesOf, keysOf]
  rw [get?_ofPairs]
  by_cases hkey : key ∈ keysOf pairs
  · rw [if_neg (fun h => hnil.1 h hkey), Option.some.injEq, eq_comm]
    exact (and_iff_right hkey).symm
  · rw [if_pos (hnil.2 hkey)]
    exact iff_of_false (by simp) fun h => hkey h.1

theorem collects_ofPairs (pairs : List (String × String)) : Collects pairs (ofPairs pairs) := by
  have hkeys : (pairs.map folded).map Prod.fst = keysOf pairs := List.map_map
  constructor
  · exact nodup_keys_ofPairs pairs
  · intro key
    rw [keys_ofPairs, Entries.mem_keys_ofList, hkeys]
  · have hordered := Entries.pairwise_keys_ofList (pairs.map folded)
    rwa [hkeys, ← keys_ofPairs] at hordered
  · rintro ⟨key, values⟩ hentry
    have hget := Entries.get?_of_mem (nodup_keys_ofPairs pairs) hentry
    exact (get?_ofPairs_eq_some_iff.1 hget).2

namespace Collects

theorem entries_eq (h : Collects pairs params) :
    params.entries = params.entries.keys.map fun key => (key, valuesOf key pairs) := by
  rw [Entries.keys, List.map_map]
  conv_lhs => rw [← List.map_id params.entries]
  apply List.map_congr_left
  intro entry hentry
  rw [id, Function.comp_apply, ← h.values entry hentry]

theorem keys_eq (h : Collects pairs params) (hother : Collects pairs other) :
    params.entries.keys = other.entries.keys := by
  have hperm : params.entries.keys.Perm other.entries.keys :=
    (List.perm_ext_iff_of_nodup h.once hother.once).2 fun key =>
      (h.same key).trans (hother.same key).symm
  apply List.Perm.eq_of_pairwise _ h.first hother.first hperm
  intro a b _ _ hab hba
  exact absurd (hab.trans hba) (Nat.lt_irrefl _)

/-- The pairs determine the parameters. -/
theorem unique (h : Collects pairs params) (hother : Collects pairs other) : params = other := by
  have hentries : params.entries = other.entries := by
    rw [h.entries_eq, hother.entries_eq, h.keys_eq hother]
  cases params
  cases other
  cases hentries
  rfl

end Collects

theorem ofPairs_eq_iff : ofPairs pairs = params ↔ Collects pairs params :=
  ⟨fun h => h ▸ collects_ofPairs pairs, (collects_ofPairs pairs).unique⟩

end Determined

section Caseless

theorem insert_lower (key value : String) (params : Params) :
    params.insert (Text.lower key) (Text.lower value) = params.insert key value := by
  have hkey : foldKey (Text.lower key) = foldKey key := by
    rw [foldKey, foldKey, ← Text.lower_trim, Text.lower_lower]
  rw [insert, hkey, Text.lower_lower, insert]

theorem ofPairs_lowered (pairs : List (String × String)) :
    ofPairs (pairs.map lowered) = ofPairs pairs := by
  induction pairs using List.reverseRecOn with
  | nil => rfl
  | append_singleton pairs pair ih =>
    rw [List.map_append, List.map_singleton, ofPairs_concat, ih, lowered, insert_lower,
      ofPairs_concat]

end Caseless

section Spread

/-- A pair that is stored is held besides all others. -/
theorem spread_insert (pair : String × String) (params : Params) :
    (params.insert pair.1 pair.2).spread.Perm (params.spread ++ [folded pair]) := by
  obtain ⟨entries⟩ := params
  induction entries with
  | nil => exact .refl _
  | cons entry rest ih =>
    obtain ⟨key, values⟩ := entry
    simp only [insert, spread, Entries.alter, List.flatMap_cons] at ih ⊢
    by_cases hkey : key = foldKey pair.1
    · subst hkey
      rw [if_pos rfl, List.flatMap_cons, Option.getD_some, List.map_append, List.append_assoc,
        List.append_assoc]
      exact List.perm_append_comm.append_left _
    · rw [if_neg hkey, List.flatMap_cons, List.append_assoc]
      exact ih.append_left _

theorem spread_ofPairs (pairs : List (String × String)) :
    (ofPairs pairs).spread.Perm (pairs.map folded) := by
  induction pairs using List.reverseRecOn with
  | nil => exact .refl _
  | append_singleton pairs pair ih =>
    rw [ofPairs_concat, List.map_append, List.map_singleton]
    exact (spread_insert pair (ofPairs pairs)).trans (ih.append_right _)

structure Settled (params : Params) : Prop where
  once : params.entries.keys.Nodup
  key : ∀ entry ∈ params.entries, foldKey entry.1 = entry.1
  values : ∀ entry ∈ params.entries, entry.2 ≠ [] ∧ ∀ value ∈ entry.2, Text.lower value = value

theorem settled_ofPairs (pairs : List (String × String)) : (ofPairs pairs).Settled := by
  have hcollects := collects_ofPairs pairs
  constructor
  · exact hcollects.once
  · intro entry hentry
    obtain ⟨pair, -, hkey⟩ := mem_keys_ofPairs.1 (List.mem_map_of_mem (f := Prod.fst) hentry)
    rw [← hkey, foldKey, trim_foldKey, foldKey, Text.lower_lower]
  · intro entry hentry
    have hkey := (hcollects.same entry.1).1 (List.mem_map_of_mem hentry)
    rw [hcollects.values entry hentry]
    constructor
    · simpa [valuesOf, keysOf] using hkey
    · intro value hvalue
      obtain ⟨pair, -, rfl⟩ := List.mem_map.1 hvalue
      exact Text.lower_lower pair.2

/-- A new key is stored after all others, and further values of it with the first. -/
theorem ofPairs_append_values {key : String} {values : List String}
    (hpairs : ofPairs pairs = params) (hnew : key ∉ params.entries.keys)
    (hkey : foldKey key = key) (hlower : ∀ value ∈ values, Text.lower value = value)
    (hne : values ≠ []) :
    ofPairs (pairs ++ values.map fun value => (key, value)) =
      ⟨params.entries ++ [(key, values)]⟩ := by
  induction values using List.reverseRecOn with
  | nil => exact absurd rfl hne
  | append_singleton values value ih =>
    have hvalue := hlower value (by simp)
    rw [List.map_append, List.map_singleton, ← List.append_assoc, ofPairs_concat]
    by_cases hfirst : values = []
    · subst hfirst
      rw [List.map_nil, List.append_nil, hpairs, insert, hkey, hvalue,
        Entries.alter_of_notMem hnew]
      rfl
    · have hrest := ih (fun value hmem => hlower value (List.mem_append_left _ hmem)) hfirst
      rw [hrest, insert, hkey, hvalue, Entries.alter_append_of_notMem hnew]
      simp [Entries.alter]

theorem Settled.ofPairs_spread (h : params.Settled) : ofPairs params.spread = params := by
  obtain ⟨entries⟩ := params
  induction entries using List.reverseRecOn with
  | nil => rfl
  | append_singleton entries entry ih =>
    obtain ⟨key, values⟩ := entry
    have hkeys := h.once
    simp only [Entries.keys, List.map_append, List.map_singleton] at hkeys
    have hbefore : Settled ⟨entries⟩ := by
      constructor
      · exact (List.nodup_append.1 hkeys).1
      · exact fun entry hentry => h.key entry (List.mem_append_left _ hentry)
      · exact fun entry hentry => h.values entry (List.mem_append_left _ hentry)
    have hlast := h.values (key, values) (by simp)
    have hspread : spread ⟨entries ++ [(key, values)]⟩ =
        spread ⟨entries⟩ ++ values.map fun value => (key, value) := by
      simp [spread]
    rw [hspread]
    apply ofPairs_append_values (ih hbefore) _ (h.key (key, values) (by simp)) hlast.2 hlast.1
    intro hmem
    exact (List.nodup_append.1 hkeys).2.2 key hmem key (by simp) rfl

end Spread

/-- The parameters of a request are the only ones that collect its pairs. They hold as many values
as there are pairs, and each of them; a key that is stored gives its values, and any other text
nothing. Letter case has no part in them, and the pairs that they hold give them again. -/
theorem ofPairs_faithful (pairs : List (String × String)) :
    (∀ other, ofPairs pairs = other ↔ Collects pairs other) ∧
    (ofPairs pairs).spread.Perm (pairs.map folded) ∧
    (ofPairs pairs).spread.length = pairs.length ∧
    (∀ key values, (ofPairs pairs).get? key = some values ↔
      key ∈ keysOf pairs ∧ values = valuesOf key pairs) ∧
    (∀ other, other.map lowered = pairs.map lowered → ofPairs other = ofPairs pairs) ∧
    ofPairs (ofPairs pairs).spread = ofPairs pairs := by
  have hspread := spread_ofPairs pairs
  refine ⟨fun other => ofPairs_eq_iff, hspread, ?_, fun key values => get?_ofPairs_eq_some_iff,
    fun other h => ?_, (settled_ofPairs pairs).ofPairs_spread⟩
  · rw [hspread.length_eq, List.length_map]
  · rw [← ofPairs_lowered other, h, ofPairs_lowered]

def sigmaTwice : List (String × String) :=
  [("\u2003ΣΑΣ ", "ΑΣ"), ("sort", "-Year"), ("σας", "Song")]

theorem ofPairs_faithful_sigmaTwice :
    let other := [("\u2003σας ", "ας"), ("SORT", "-YEAR"), ("Σας", "song")]
    other.map lowered = sigmaTwice.map lowered ∧ ofPairs other = ofPairs sigmaTwice ∧
      (ofPairs sigmaTwice).get? "σας" = some ["ας", "song"] := by
  intro other
  have hlowered : other.map lowered = sigmaTwice.map lowered := by
    decide +kernel
  obtain ⟨-, -, -, hget, hcaseless, -⟩ := ofPairs_faithful sigmaTwice
  have hkey : "σας" ∈ keysOf sigmaTwice ∧ ["ας", "song"] = valuesOf "σας" sigmaTwice := by
    decide +kernel
  exact ⟨hlowered, hcaseless other hlowered, (hget _ _).2 hkey⟩

end Songbook.Params
