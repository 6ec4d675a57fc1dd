import Songbook.Proofs.Request.WellFormed

/-!
# Tokens of an order

The values of an order are cut into tokens, of which each spells a key. Main statement: the order
that is read from a request is that of its tokens, with each field at its first place and in its
last direction, and nothing else about the values has a part in it.
-/

namespace Songbook

namespace SortKey

def tokens (values : List String) : List String :=
  ((values.flatMap (Text.pieces ',')).map Text.trim).filter fun token => token ≠ "" ∧ token ≠ "-"

/-- The key that a token spells. Of several minuses the first alone is no part of the field. -/
def spelled (token : String) : SortKey :=
  match token.toList with
  | '-' :: field => desc (String.ofList field)
  | _ => asc token

theorem spelled_minus (field : List Char) :
    spelled (String.ofList ('-' :: field)) = desc (String.ofList field) := by
  rw [spelled, String.toList_ofList]
  rfl

theorem spelled_plain {cs : List Char} (h : ∀ field, cs ≠ '-' :: field) :
    spelled (String.ofList cs) = asc (String.ofList cs) := by
  rw [spelled, String.toList_ofList]
  split
  · next field => exact absurd rfl (h field)
  · rfl

theorem ofToken?_eq (token : String) : ofToken? token =
    if Text.trim token ≠ "" ∧ Text.trim token ≠ "-" then some (spelled (Text.trim token))
    else none := by
  have htext (cs ds : List Char) : String.ofList cs = String.ofList ds ↔ cs = ds :=
    String.ofList_inj
  rw [ofToken?, Text.trim]
  generalize Text.trimChars token.toList = cs
  split
  · simp
  · simp
  · next field hfield =>
    have hminus : String.ofList ('-' :: field) ≠ "-" := by
      intro h
      exact hfield (List.cons.inj ((htext _ ['-']).1 h)).2
    rw [if_pos ⟨by simp, hminus⟩, spelled_minus]
  · next hempty hminus hplain =>
    have hnames : String.ofList cs ≠ "" ∧ String.ofList cs ≠ "-" :=
      ⟨fun h => hempty ((htext _ []).1 h), fun h => hminus ((htext _ ['-']).1 h)⟩
    rw [if_pos hnames, spelled_plain hplain]

theorem filterMap_ofToken? (values : List String) :
    (values.flatMap (Text.pieces ',')).filterMap ofToken? = (tokens values).map spelled := by
  rw [tokens]
  induction values.flatMap (Text.pieces ',') with
  | nil => rfl
  | cons token rest ih =>
    rw [List.filterMap_cons, ofToken?_eq, List.map_cons, List.filter_cons]
    by_cases hnames : Text.trim token ≠ "" ∧ Text.trim token ≠ "-"
    · rw [if_pos hnames, if_pos (decide_eq_true hnames), List.map_cons, ih]
    · rw [if_neg hnames, if_neg (by simpa using hnames), ih]

/-- How an order comes from the keys that are spelled: each of their fields once, where it is first
spelled and in the direction in which it is last spelled. -/
structure Folds (keys order : List SortKey) : Prop where
  once : (order.map field).Nodup
  same : ∀ name, name ∈ order.map field ↔ name ∈ keys.map field
  first : order.Pairwise fun a b => (keys.map field).idxOf a.field < (keys.map field).idxOf b.field
  last : ∀ key ∈ order, ∃ before after, keys = before ++ key :: after ∧
    ∀ later ∈ after, later.field ≠ key.field

variable {keys order other : List SortKey} {key : SortKey}

theorem eq_of_parts {found : SortKey} (hfield : found.field = key.field)
    (hdirection : found.direction = key.direction) : found = key := by
  cases found
  cases key
  cases hfield
  cases hdirection
  rfl

theorem mem_combine : key ∈ combine keys ↔
    (Entries.ofList (keys.map fun key => (key.field, key.direction))).get? key.field =
      some key.direction := by
  rw [← Entries.mem_iff_get? (Entries.nodup_keys_ofList _), combine, List.mem_map]
  constructor
  · rintro ⟨entry, hentry, rfl⟩
    exact hentry
  · exact fun hentry => ⟨_, hentry, rfl⟩

theorem get?_direction_eq_some_iff :
    (Entries.ofList (keys.map fun key => (key.field, key.direction))).get? key.field =
        some key.direction ↔
      ∃ before after, keys = before ++ key :: after ∧
        ∀ later ∈ after, later.field ≠ key.field := by
  rw [Entries.get?_ofList_map_eq_some_iff]
  constructor
  · rintro ⟨before, item, after, hsplit, ⟨hfield, hdirection⟩, hafter⟩
    obtain rfl := eq_of_parts hfield hdirection
    exact ⟨before, after, hsplit, hafter⟩
  · rintro ⟨before, after, hsplit, hafter⟩
    exact ⟨before, key, after, hsplit, ⟨rfl, rfl⟩, hafter⟩

theorem folds_combine (keys : List SortKey) : Folds keys (combine keys) := by
  have hfields : (keys.map fun key => (key.field, key.direction)).map Prod.fst =
      keys.map field := List.map_map
  constructor
  · rw [fields_combine]
    exact Entries.nodup_keys_ofList _
  · intro name
    rw [fields_combine, Entries.mem_keys_ofList, hfields]
  · have hordered := Entries.pairwise_keys_ofList
      (keys.map fun key => (key.field, key.direction))
    rw [hfields, ← fields_combine] at hordered
    exact (List.pairwise_map (f := field)).1 hordered
  · intro key hkey
    exact get?_direction_eq_some_iff.1 (mem_combine.1 hkey)

namespace Folds

theorem mem_of_mem (h : Folds keys order) (hother : Folds keys other) (hkey : key ∈ order) :
    key ∈ other := by
  have hfield : key.field ∈ other.map field :=
    (hother.same _).2 ((h.same _).1 (List.mem_map_of_mem hkey))
  obtain ⟨found, hfound, hsame⟩ := List.mem_map.1 hfield
  have hlast := get?_direction_eq_some_iff.2 (h.last key hkey)
  have hlast' := get?_direction_eq_some_iff.2 (hother.last found hfound)
  rw [hsame, hlast] at hlast'
  obtain rfl := eq_of_parts hsame (Option.some.inj hlast').symm
  exact hfound

/-- The keys that are spelled determine the order. -/
theorem unique (h : Folds keys order) (hother : Folds keys other) : order = other := by
  have hperm : order.Perm other :=
    (List.perm_ext_iff_of_nodup h.once.of_map hother.once.of_map).2 fun _ =>
      ⟨h.mem_of_mem hother, hother.mem_of_mem h⟩
  apply List.Perm.eq_of_pairwise _ h.first hother.first hperm
  intro a b _ _ hab hba
  exact absurd (hab.trans hba) (Nat.lt_irrefl _)

end Folds

theorem combine_eq_iff : combine keys = order ↔ Folds keys order :=
  ⟨fun h => h ▸ folds_combine keys, (folds_combine keys).unique⟩

theorem combine_eq_nil_iff : combine keys = [] ↔ keys = [] := by
  constructor
  · intro h
    have hsame := (combine_eq_iff.1 h).same
    exact List.eq_nil_iff_forall_not_mem.2 fun key hkey =>
      nomatch (hsame key.field).2 (List.mem_map_of_mem hkey)
  · rintro rfl
    rfl

theorem ofValues_eq (values : List String) :
    ofValues values = combine ((tokens values).map spelled) := by
  rw [ofValues, filterMap_ofToken?]

end SortKey

namespace Descriptor

variable (pairs : List (String × String))

theorem ofValues_ofPairs : SortKey.ofValues (((Params.ofPairs pairs).get? "sort").getD []) =
    SortKey.combine ((SortKey.tokens (Params.valuesOf "sort" pairs)).map SortKey.spelled) := by
  have hvalues : ((Params.ofPairs pairs).get? "sort").getD [] = Params.valuesOf "sort" pairs := by
    rw [Params.get?_ofPairs]
    split
    · next hnone => exact hnone.symm
    · rfl
  rw [hvalues, SortKey.ofValues_eq]

theorem sortOf_of_tokens {other : List (String × String)}
    (h : SortKey.tokens (Params.valuesOf "sort" other) =
      SortKey.tokens (Params.valuesOf "sort" pairs)) :
    sortOf (.ofPairs other) = sortOf (.ofPairs pairs) := by
  rw [sortOf, ofValues_ofPairs, h, ← ofValues_ofPairs, sortOf]

/-- The order of a request comes from its tokens alone, however they are spread over values. It has
no part in what else is read. -/
theorem sort_of_tokens (types : FieldTypes) :
    let tokens := SortKey.tokens (Params.valuesOf "sort" pairs)
    let sort := sortOf (.ofPairs pairs)
    ofParams types (.ofPairs pairs) =
        (ofParams types (.ofPairs (Params.withoutKey "sort" pairs))).map
          (fun rest => { rest with sort }) ∧
      (sort = none ↔ tokens = []) ∧
      (∀ order, sort = some order ↔
        tokens ≠ [] ∧ SortKey.Folds (tokens.map SortKey.spelled) order) ∧
      ∀ other, SortKey.tokens (Params.valuesOf "sort" other) = tokens →
        sortOf (.ofPairs other) = sort := by
  intro tokens sort
  have hnil : SortKey.combine (tokens.map SortKey.spelled) = [] ↔ tokens = [] := by
    rw [SortKey.combine_eq_nil_iff, List.map_eq_nil_iff]
  refine ⟨ofParams_sort_apart types pairs, ?_, fun order => ?_, fun other => sortOf_of_tokens pairs⟩
  · rw [sortOf_eq_none_iff, ofValues_ofPairs, hnil]
  · rw [sortOf_eq_some_iff, ofValues_ofPairs, ne_eq, hnil, SortKey.combine_eq_iff]

def yearThenSong : List (String × String) :=
  [("Sort", "year,, -Song"), ("album", "Red"), ("SORT", " -, -Year,--x")]

theorem sort_of_tokens_yearThenSong :
    let other := [("sort", "year"), ("sort", "-song,-year"), ("sort", "--x")]
    let order := [.desc "year", .desc "song", .desc "-x"]
    sortOf (.ofPairs yearThenSong) = some order ∧
      SortKey.tokens (Params.valuesOf "sort" other) =
        SortKey.tokens (Params.valuesOf "sort" yearThenSong) ∧
      sortOf (.ofPairs other) = some order := by
  intro other order
  have htokens : SortKey.tokens (Params.valuesOf "sort" other) =
      SortKey.tokens (Params.valuesOf "sort" yearThenSong) := by
    decide +kernel
  have horder : sortOf (.ofPairs yearThenSong) = some order := by
    decide +kernel
  obtain ⟨-, -, -, hspread⟩ := sort_of_tokens yearThenSong []
  exact ⟨horder, htokens, (hspread other htokens).trans horder⟩

end Descriptor

end Songbook
