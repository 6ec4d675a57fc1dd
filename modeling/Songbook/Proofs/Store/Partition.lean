import Mathlib.Algebra.BigOperators.Ring.Finset
import Songbook.Proofs.Store.Placement
import Songbook.Proofs.Value.Discrete
import Songbook.Store.Stage

/-!
# Grouping as a partition

Not every key equals itself. Main statement: each document goes to one row, the first whose key
equals its own; where its key does not even equal itself, and no row has taken the document before,
it founds a row. Rows count their documents. Discrete keys, all of which equal themselves, are
grouped into the classes of equal keys, which therefore do not depend on the order of the documents.
-/

namespace Songbook

namespace Grouping

variable {collation : Collation} {grouping : Grouping} {field : String} {docs : List Document}
  {groups : List DocumentGroup} {group : DocumentGroup} {places : List Nat}

section Rows

def columns (grouping : Grouping) : List String :=
  grouping.key :: grouping.tallies.map Prod.fst

def keyIn (grouping : Grouping) (row : Document) : Value :=
  (row.get? grouping.key).getD .null

theorem get?_foldl_insert_of_notMem {α : Type} {f : Tally → α} {name : String}
    {tallies : List (String × Tally)} (h : name ∉ tallies.map Prod.fst) (row : Entries α) :
    (tallies.foldl (fun row tally => row.insert tally.1 (f tally.2)) row).get? name =
      row.get? name := by
  induction tallies generalizing row with
  | nil => rfl
  | cons tally tallies ih =>
    rw [List.map_cons, List.mem_cons, not_or] at h
    rw [List.foldl_cons, ih h.2]
    exact Entries.get?_alter_of_ne (Ne.symm h.1) _ row

theorem get?_row_key (hcolumns : grouping.columns.Nodup) (group : DocumentGroup) :
    (grouping.row group).get? grouping.key = some group.key := by
  rw [row, get?_foldl_insert_of_notMem (List.nodup_cons.1 hcolumns).1]
  exact if_pos rfl

theorem keyIn_row (hcolumns : grouping.columns.Nodup) (group : DocumentGroup) :
    grouping.keyIn (grouping.row group) = group.key := by
  rw [keyIn, get?_row_key hcolumns]
  rfl

/-- Of several tallies under one name the last is shown, also in place of the key. -/
theorem get?_row_of_last {name : String} {tally : Tally} {earlier later : List (String × Tally)}
    (htallies : grouping.tallies = earlier ++ (name, tally) :: later)
    (hlater : name ∉ later.map Prod.fst) (group : DocumentGroup) :
    (grouping.row group).get? name = some (tally.of group.docs) := by
  rw [row, htallies, List.foldl_append, List.foldl_cons, get?_foldl_insert_of_notMem hlater]
  exact Entries.get?_alter_self _ _ _

theorem get?_row_tally (hcolumns : grouping.columns.Nodup) {name : String} {tally : Tally}
    (h : (name, tally) ∈ grouping.tallies) (group : DocumentGroup) :
    (grouping.row group).get? name = some (tally.of group.docs) := by
  obtain ⟨earlier, later, htallies⟩ := List.append_of_mem h
  have hnames : (grouping.tallies.map Prod.fst).Nodup := (List.nodup_cons.1 hcolumns).2
  rw [htallies, List.map_append, List.map_cons] at hnames
  exact get?_row_of_last htallies (List.nodup_cons.1 hnames.of_append_right).1 group

end Rows

/-- Rows as a partition of documents, given the places of the rows that the documents go to. -/
structure Partition (collation : Collation) (grouping : Grouping) (docs rows : List Document)
    (places : List Nat) : Prop where
  /-- Each document goes to one row. -/
  length_eq : places.length = docs.length
  /-- Read without repetitions, the places number the rows in the order of their first documents. -/
  order : places.eraseDups = List.range rows.length
  /-- A row has the key of its first document, and this equals the keys of the others. -/
  first : ∀ place row, rows[place]? = some row → ∃ first rest,
    membersAt places docs place = first :: rest ∧
      row.get? grouping.key = some (keyOf grouping.key first) ∧
      ∀ doc ∈ rest,
        (keyOf grouping.key first).equal collation (keyOf grouping.key doc) = true
  /-- No row before the one that a document goes to has a key equal to the document's. -/
  passed : ∀ entry ∈ docs.zip places, ∀ row ∈ rows.take entry.2,
    (grouping.keyIn row).equal collation (keyOf grouping.key entry.1) = false
  apart : rows.Pairwise fun earlier later =>
    (grouping.keyIn earlier).equal collation (grouping.keyIn later) = false
  /-- A count is the number of the documents of its row. -/
  counts : ∀ name, (name, Tally.count) ∈ grouping.tallies → rows.map (·.get? name) =
    (List.range rows.length).map fun place =>
      some (.int64 (Int64.ofNat (membersAt places docs place).length))
  total : ((List.range rows.length).map fun place =>
    (membersAt places docs place).length).sum = docs.length

theorem Placed.map_membersAt (h : Placed collation field docs groups places) :
    (List.range groups.length).map (membersAt places docs) = groups.map DocumentGroup.docs := by
  apply List.ext_getElem?
  intro place
  rw [List.getElem?_map, List.getElem?_map]
  by_cases hplace : place < groups.length
  · rw [List.getElem?_range hplace, List.getElem?_eq_getElem hplace]
    exact congrArg some (h.members place _ (List.getElem?_eq_getElem hplace))
  · have hrange : (List.range groups.length).length ≤ place := by simpa using hplace
    rw [List.getElem?_eq_none hrange, List.getElem?_eq_none (Nat.le_of_not_lt hplace)]
    rfl

theorem partition_of_placed (hcolumns : grouping.columns.Nodup)
    (h : Placed collation grouping.key docs (Grouping.groups collation grouping.key docs) places) :
    Partition collation grouping docs (grouping.run collation docs) places := by
  have hlength : (grouping.run collation docs).length =
      (Grouping.groups collation grouping.key docs).length := List.length_map _
  constructor
  · exact h.length_eq
  · rw [h.order, hlength]
  · intro place row hrow
    rw [run, List.getElem?_map] at hrow
    obtain ⟨group, hgroup, rfl⟩ := Option.map_eq_some_iff.1 hrow
    obtain ⟨first, rest, hdocs, hkey, hrest⟩ :=
      groups_formed collation grouping.key docs group (List.mem_of_getElem? hgroup)
    refine ⟨first, rest, (h.members place group hgroup).trans hdocs, ?_, ?_⟩
    · rw [get?_row_key hcolumns, hkey]
    · rw [← hkey]
      exact hrest
  · intro entry hentry row hrow
    rw [run, ← List.map_take] at hrow
    obtain ⟨group, hgroup, rfl⟩ := List.mem_map.1 hrow
    rw [keyIn_row hcolumns]
    apply h.passed entry hentry
    rw [← List.map_take]
    exact List.mem_map_of_mem hgroup
  · rw [run, List.pairwise_map]
    simp only [keyIn_row hcolumns]
    have hapart := groups_apart collation grouping.key docs
    rwa [Apart, List.pairwise_map] at hapart
  · intro name hname
    have hcounts : (grouping.run collation docs).map (·.get? name) =
        ((Grouping.groups collation grouping.key docs).map DocumentGroup.docs).map
          fun members => some (.int64 (Int64.ofNat members.length)) := by
      rw [run, List.map_map, List.map_map]
      apply List.map_congr_left
      intro group _
      exact get?_row_tally hcolumns hname group
    rw [hcounts, ← h.map_membersAt, List.map_map, hlength]
    rfl
  · have hlengths : (List.range (grouping.run collation docs).length).map
        (fun place => (membersAt places docs place).length) =
          (Grouping.groups collation grouping.key docs).map (·.docs.length) := by
      rw [hlength, ← Function.comp_def List.length, ← List.map_map, h.map_membersAt,
        List.map_map]
      rfl
    rw [hlengths, ← List.length_flatMap]
    exact (groups_docs_perm collation grouping.key docs).length_eq

theorem length_membersAt_le (places : List Nat) (docs : List Document) (place : Nat) :
    (membersAt places docs place).length ≤ docs.length := by
  rw [membersAt, List.length_map]
  calc
    _ ≤ (docs.zip places).length := List.length_filter_le _ _
    _ ≤ docs.length := by rw [List.length_zip]; exact Nat.min_le_left _ _

theorem mem_membersAt {entry : Document × Nat} (hentry : entry ∈ docs.zip places) :
    entry.1 ∈ membersAt places docs entry.2 :=
  List.mem_map.2 ⟨entry, List.mem_filter.2 ⟨hentry, decide_eq_true rfl⟩, rfl⟩

namespace Partition

variable {rows : List Document}

theorem lt_length (h : Partition collation grouping docs rows places) {entry : Document × Nat}
    (hentry : entry ∈ docs.zip places) : entry.2 < rows.length := by
  rw [← List.mem_range, ← h.order, List.mem_eraseDups]
  exact (List.of_mem_zip hentry).2

/-- The key of the document does not equal even itself, and the row that the document goes to has
this key and begins with the document. -/
structure Founds (collation : Collation) (grouping : Grouping) (docs rows : List Document)
    (places : List Nat) (doc : Document) (place : Nat) : Prop where
  self : (keyOf grouping.key doc).equal collation (keyOf grouping.key doc) = false
  first : ∃ rest, membersAt places docs place = doc :: rest
  named : ∃ row, rows[place]? = some row ∧ row.get? grouping.key = some (keyOf grouping.key doc)

/-- A document goes to the first row whose key equals its own. There is one unless the key does not
even equal itself. -/
theorem joins_or_founds (h : Partition collation grouping docs rows places)
    {entry : Document × Nat} (hentry : entry ∈ docs.zip places) :
    rows.findIdx? (fun row =>
        (grouping.keyIn row).equal collation (keyOf grouping.key entry.1)) = some entry.2 ∨
      Founds collation grouping docs rows places entry.1 entry.2 := by
  have hlt := h.lt_length hentry
  have hrow := List.getElem?_eq_getElem hlt
  obtain ⟨first, rest, hmembers, hkey, hrest⟩ := h.first entry.2 rows[entry.2] hrow
  have hjoins : (grouping.keyIn rows[entry.2]).equal collation (keyOf grouping.key entry.1) =
      true → rows.findIdx? (fun row =>
        (grouping.keyIn row).equal collation (keyOf grouping.key entry.1)) = some entry.2 := by
    intro hequal
    refine List.findIdx?_eq_some_iff_getElem.2 ⟨hlt, hequal, ?_⟩
    intro place hplace
    rw [h.passed entry hentry _ (List.mem_take_iff_getElem.2 ⟨place, by omega, rfl⟩)]
    exact Bool.false_ne_true
  have hname : grouping.keyIn rows[entry.2] = keyOf grouping.key first := by
    rw [keyIn, hkey]
    rfl
  have hmem := mem_membersAt hentry
  rw [hmembers] at hmem
  rcases List.mem_cons.1 hmem with hfirst | hmem
  · subst hfirst
    cases hself : (keyOf grouping.key entry.1).equal collation (keyOf grouping.key entry.1) with
    | true => exact .inl (hjoins (hname ▸ hself))
    | false =>
      exact .inr ⟨hself, ⟨rest, hmembers⟩, ⟨_, hrow, hkey⟩⟩
  · exact .inl (hjoins (hname ▸ hrest entry.1 hmem))

/-- Counts that 64 bits hold add up to the number of the documents. -/
theorem sum_counts (h : Partition collation grouping docs rows places)
    {name : String} (hname : (name, Tally.count) ∈ grouping.tallies)
    (hfits : (docs.length : Int) ≤ Int64.maxValue.toInt) :
    (rows.map fun row => ((row.get? name).bind Value.integer?).getD 0).sum = docs.length := by
  have hmax : Int64.maxValue.toInt = 2 ^ 63 - 1 := by decide
  have hcolumn : (rows.map fun row => ((row.get? name).bind Value.integer?).getD 0) =
      ((List.range rows.length).map fun place =>
        (membersAt places docs place).length).map fun n : Nat => (n : Int) := by
    have hvalues := congrArg (List.map fun value : Option Value =>
      (value.bind Value.integer?).getD 0) (h.counts name hname)
    rw [List.map_map, List.map_map] at hvalues
    refine hvalues.trans ?_
    rw [List.map_map]
    apply List.map_congr_left
    intro place _
    have hplace := length_membersAt_le places docs place
    exact Int64.toInt_ofNat_of_lt (by omega)
  rw [hcolumn, ← Nat.cast_list_sum, h.total]

end Partition

def classes (places : List Nat) (docs : List Document) (count : Nat) :
    List (Multiset Document) :=
  (List.range count).map fun place => (membersAt places docs place : Multiset Document)

/-- Each row with its count. -/
theorem Partition.zip_classes {rows : List Document}
    (h : Partition collation grouping docs rows places) {name : String}
    (hname : (name, Tally.count) ∈ grouping.tallies) :
    (classes places docs rows.length).zip (rows.map (·.get? name)) =
      (classes places docs rows.length).map fun members =>
        (members, some (.int64 (Int64.ofNat members.card))) := by
  let count := fun members : Multiset Document =>
    some (Value.int64 (Int64.ofNat members.card))
  have hcounts : rows.map (·.get? name) = (classes places docs rows.length).map count := by
    rw [h.counts name hname, classes, List.map_map]
    rfl
  have hzip : ((classes places docs rows.length).map id).zip
      ((classes places docs rows.length).map count) = _ := List.zip_map'
  rw [hcounts]
  rwa [List.map_id] at hzip

theorem Placed.classes_eq (h : Placed collation field docs groups places) :
    classes places docs groups.length =
      groups.map fun group => (group.docs : Multiset Document) := by
  have hlists : classes places docs groups.length =
      ((List.range groups.length).map (membersAt places docs)).map Multiset.ofList := by
    rw [List.map_map]
    rfl
  rw [hlists, h.map_membersAt, List.map_map]
  rfl

section Discrete

def rankOf (collation : Collation) (field : String) (doc : Document) : Option Value.Discrete :=
  (keyOf field doc).discrete? collation

def ranks (collation : Collation) (groups : List DocumentGroup) : List (Option Value.Discrete) :=
  groups.map fun group => group.key.discrete? collation

theorem getElem?_ranks {place : Nat} (h : groups[place]? = some group) :
    (ranks collation groups)[place]? = some (group.key.discrete? collation) := by
  rw [ranks, List.getElem?_map, h]
  rfl

def rankClass (collation : Collation) (field : String) (docs : List Document)
    (rank : Option Value.Discrete) : Multiset Document :=
  (docs.filter fun doc => rankOf collation field doc = rank : List Document)

theorem rankClass_perm {shuffled : List Document} (hperm : shuffled.Perm docs) :
    rankClass collation field shuffled = rankClass collation field docs := by
  funext rank
  exact Multiset.coe_eq_coe.2 (hperm.filter _)

variable (hdiscrete : ∀ doc ∈ docs, (keyOf field doc).isDiscrete = true)

include hdiscrete

theorem rankedBy_rankOf : RankedBy collation field (rankOf collation field) docs :=
  fun a ha b hb => Value.equal_iff_of_isDiscrete (hdiscrete a ha) (hdiscrete b hb)

theorem isDiscrete_key (hgroup : group ∈ Grouping.groups collation field docs) :
    group.key.isDiscrete = true := by
  obtain ⟨first, hfirst, hkey⟩ := exists_first hgroup
  rw [hkey]
  exact hdiscrete first hfirst

theorem docs_eq_filter (hgroup : group ∈ Grouping.groups collation field docs) :
    group.docs =
      docs.filter fun doc => rankOf collation field doc = group.key.discrete? collation := by
  rw [docs_eq_classOf (rankedBy_rankOf hdiscrete) group hgroup]
  apply List.filter_congr
  intro doc hdoc
  rw [Bool.eq_iff_iff, decide_eq_true_iff,
    Value.equal_iff_of_isDiscrete (isDiscrete_key hdiscrete hgroup) (hdiscrete doc hdoc)]
  exact eq_comm

/-- Different groups have different keys. -/
theorem nodup_ranks : (ranks collation (Grouping.groups collation field docs)).Nodup := by
  have hapart := groups_apart collation field docs
  rw [Apart, List.pairwise_map] at hapart
  rw [ranks, List.Nodup, List.pairwise_map]
  refine hapart.imp_of_mem ?_
  intro a b ha hb hdiffer hsame
  have hdiscretea := isDiscrete_key hdiscrete ha
  have hdiscreteb := isDiscrete_key hdiscrete hb
  rw [(Value.equal_iff_of_isDiscrete hdiscretea hdiscreteb).2 hsame] at hdiffer
  cases hdiffer

theorem mem_ranks_iff {rank : Option Value.Discrete} :
    rank ∈ ranks collation (Grouping.groups collation field docs) ↔
      ∃ doc ∈ docs, rankOf collation field doc = rank := by
  rw [ranks, List.mem_map]
  constructor
  · rintro ⟨group, hgroup, rfl⟩
    obtain ⟨first, hfirst, hkey⟩ := exists_first hgroup
    exact ⟨first, hfirst, by rw [hkey]; rfl⟩
  · rintro ⟨doc, hdoc, rfl⟩
    obtain ⟨group, hgroup, hmem⟩ := exists_group_of_mem collation field hdoc
    rw [docs_eq_filter hdiscrete hgroup, List.mem_filter] at hmem
    exact ⟨group, hgroup, (of_decide_eq_true hmem.2).symm⟩

theorem map_docs_eq :
    (Grouping.groups collation field docs).map (fun group => (group.docs : Multiset Document)) =
      (ranks collation (Grouping.groups collation field docs)).map
        (rankClass collation field docs) := by
  rw [ranks, List.map_map]
  apply List.map_congr_left
  intro group hgroup
  exact congrArg Multiset.ofList (docs_eq_filter hdiscrete hgroup)

/-- The documents of the groups, each group as a multiset, are the same after a shuffle. -/
theorem groups_shuffled {shuffled : List Document} (hperm : shuffled.Perm docs) :
    ((Grouping.groups collation field shuffled).map fun group =>
      (group.docs : Multiset Document)).Perm
        ((Grouping.groups collation field docs).map fun group =>
          (group.docs : Multiset Document)) := by
  have hshuffled : ∀ doc ∈ shuffled, (keyOf field doc).isDiscrete = true :=
    fun doc hdoc => hdiscrete doc (hperm.mem_iff.1 hdoc)
  have hranks : (ranks collation (Grouping.groups collation field shuffled)).Perm
      (ranks collation (Grouping.groups collation field docs)) := by
    apply (List.perm_ext_iff_of_nodup (nodup_ranks hshuffled) (nodup_ranks hdiscrete)).2
    intro rank
    rw [mem_ranks_iff hshuffled, mem_ranks_iff hdiscrete]
    simp only [hperm.mem_iff]
  rw [map_docs_eq hshuffled, map_docs_eq hdiscrete, rankClass_perm hperm]
  exact hranks.map _

/-- The key of the group that a document goes to is the same to equality as the document's. -/
theorem Placed.exists_group
    (h : Placed collation field docs (Grouping.groups collation field docs) places)
    {entry : Document × Nat} (hentry : entry ∈ docs.zip places) :
    ∃ group, (Grouping.groups collation field docs)[entry.2]? = some group ∧
      group.key.discrete? collation = rankOf collation field entry.1 := by
  have hplace := h.mem_iff.1 (List.of_mem_zip hentry).2
  have hgroup := List.getElem?_eq_getElem hplace
  refine ⟨_, hgroup, ?_⟩
  have hmember := mem_membersAt hentry
  rw [h.members _ _ hgroup, docs_eq_filter hdiscrete (List.getElem_mem hplace), List.mem_filter]
    at hmember
  exact (of_decide_eq_true hmember.2).symm

/-- Documents go to one place exactly if their keys are equal. -/
theorem Placed.place_eq_iff
    (h : Placed collation field docs (Grouping.groups collation field docs) places)
    {entry other : Document × Nat} (hentry : entry ∈ docs.zip places)
    (hother : other ∈ docs.zip places) :
    entry.2 = other.2 ↔
      (keyOf field entry.1).equal collation (keyOf field other.1) = true := by
  obtain ⟨group, hgroup, hrank⟩ := h.exists_group hdiscrete hentry
  obtain ⟨group', hgroup', hrank'⟩ := h.exists_group hdiscrete hother
  rw [Value.equal_iff_of_isDiscrete (hdiscrete _ (List.of_mem_zip hentry).1)
    (hdiscrete _ (List.of_mem_zip hother).1)]
  constructor
  · intro hplace
    rw [hplace, hgroup'] at hgroup
    obtain rfl := Option.some.inj hgroup
    exact hrank.symm.trans hrank'
  · intro hsame
    -- The ranks of the groups at both places are one, and no two groups share a rank.
    have hlength : entry.2 <
        (ranks collation (Grouping.groups collation field docs)).length := by
      rw [ranks, List.length_map]
      exact h.mem_iff.1 (List.of_mem_zip hentry).2
    apply (List.getElem?_inj hlength (nodup_ranks hdiscrete)).1
    rw [getElem?_ranks hgroup, getElem?_ranks hgroup', hrank, hrank']
    exact congrArg some hsame

end Discrete

/-- Grouping puts each document into one row, the first whose key equals the document's, or, where
the document's key does not equal itself and no earlier row has an equal one, into a row that it
founds. The counts of the rows add up to the number of the documents. Where all keys are discrete,
the rows are the classes of equal keys, whatever the order of the documents is. -/
theorem group_partitions (collation : Collation) (grouping : Grouping) (docs : List Document)
    (hcolumns : grouping.columns.Nodup) :
    ∃ rows places, Stage.run collation docs (.group grouping) = .ok rows ∧
      Partition collation grouping docs rows places ∧
      (∀ entry ∈ docs.zip places,
        rows.findIdx? (fun row =>
            (grouping.keyIn row).equal collation (keyOf grouping.key entry.1)) = some entry.2 ∨
          Partition.Founds collation grouping docs rows places entry.1 entry.2) ∧
      (∀ name, (name, Tally.count) ∈ grouping.tallies →
        (docs.length : Int) ≤ Int64.maxValue.toInt →
          (rows.map fun row => ((row.get? name).bind Value.integer?).getD 0).sum = docs.length) ∧
      ((∀ doc ∈ docs, (keyOf grouping.key doc).isDiscrete = true) →
        (∀ entry ∈ docs.zip places, ∀ other ∈ docs.zip places, entry.2 = other.2 ↔
          (keyOf grouping.key entry.1).equal collation (keyOf grouping.key other.1) = true) ∧
        ∀ shuffled, shuffled.Perm docs → ∃ rows' places',
          Stage.run collation shuffled (.group grouping) = .ok rows' ∧
            Partition collation grouping shuffled rows' places' ∧
            (classes places' shuffled rows'.length).Perm (classes places docs rows.length) ∧
            ∀ name, (name, Tally.count) ∈ grouping.tallies →
              ((classes places' shuffled rows'.length).zip (rows'.map (·.get? name))).Perm
                ((classes places docs rows.length).zip (rows.map (·.get? name)))) := by
  obtain ⟨places, hplaced⟩ := exists_placed collation grouping.key docs
  have hpartition := partition_of_placed hcolumns hplaced
  refine ⟨grouping.run collation docs, places, rfl, hpartition,
    fun entry hentry => hpartition.joins_or_founds hentry,
    fun name hname hfits => hpartition.sum_counts hname hfits, ?_⟩
  intro hdiscrete
  refine ⟨fun entry hentry other hother => hplaced.place_eq_iff hdiscrete hentry hother, ?_⟩
  intro shuffled hperm
  obtain ⟨places', hplaced'⟩ := exists_placed collation grouping.key shuffled
  have hpartition' := partition_of_placed hcolumns hplaced'
  have hclasses : (classes places' shuffled (grouping.run collation shuffled).length).Perm
      (classes places docs (grouping.run collation docs).length) := by
    rw [run, run, List.length_map, List.length_map, hplaced.classes_eq, hplaced'.classes_eq]
    exact groups_shuffled hdiscrete hperm
  refine ⟨grouping.run collation shuffled, places', rfl, hpartition', hclasses, ?_⟩
  intro name hname
  rw [hpartition.zip_classes hname, hpartition'.zip_classes hname]
  exact hclasses.map _

/-- Two spellings of one album, and two ways to have none. -/
def redAndNone : List Document := [
  [("album", .string "Red")], [("song", .string "Carolina")], [("album", .string "RED")],
  [("album", .null)]]

def albumCounts : Grouping := ⟨"album", [("songs", .count)]⟩

theorem group_partitions_red :
    albumCounts.columns.Nodup ∧
      (∀ doc ∈ redAndNone, (keyOf albumCounts.key doc).isDiscrete = true) ∧
      Partition .caseInsensitive albumCounts redAndNone
        [[("album", .string "Red"), ("songs", .int64 2)], [("album", .null), ("songs", .int64 2)]]
        [0, 1, 0, 1] ∧
      ∃ rows' places',
        Stage.run .caseInsensitive redAndNone.reverse (.group albumCounts) = .ok rows' ∧
          ((classes places' redAndNone.reverse rows'.length).zip
            (rows'.map (·.get? "songs"))).Perm [
              ({redAndNone[0], redAndNone[2]}, some (.int64 2)),
              ({redAndNone[1], redAndNone[3]}, some (.int64 2))] := by
  have hcolumns : albumCounts.columns.Nodup := by decide
  have hdiscrete : ∀ doc ∈ redAndNone, (keyOf albumCounts.key doc).isDiscrete = true := by
    decide
  obtain ⟨rows, places, hrun, hpartition, hfind, -, hclasses⟩ :=
    group_partitions .caseInsensitive albumCounts redAndNone hcolumns
  obtain rfl := (Except.ok.inj hrun).symm
  have hplaces : places = [0, 1, 0, 1] := by
    have hself : ∀ doc ∈ redAndNone, (keyOf albumCounts.key doc).equal .caseInsensitive
        (keyOf albumCounts.key doc) = true := by decide
    have hjoins : ∀ entry ∈ redAndNone.zip places,
        (run .caseInsensitive albumCounts redAndNone).findIdx? (fun row =>
          (albumCounts.keyIn row).equal .caseInsensitive (keyOf albumCounts.key entry.1)) =
            some entry.2 := by
      intro entry hentry
      refine (hfind entry hentry).resolve_right fun hfounds => ?_
      have hequal := hself entry.1 (List.of_mem_zip hentry).1
      rw [hfounds.self] at hequal
      cases hequal
    match places, hpartition.length_eq with
    | [first, second, third, fourth], _ =>
      have hfirst : some 0 = some first :=
        hjoins (redAndNone[0], first) (by simp [redAndNone])
      have hsecond : some 1 = some second :=
        hjoins (redAndNone[1], second) (by simp [redAndNone])
      have hthird : some 0 = some third :=
        hjoins (redAndNone[2], third) (by simp [redAndNone])
      have hfourth : some 1 = some fourth :=
        hjoins (redAndNone[3], fourth) (by simp [redAndNone])
      rw [← Option.some.inj hfirst, ← Option.some.inj hsecond, ← Option.some.inj hthird,
        ← Option.some.inj hfourth]
  subst hplaces
  refine ⟨hcolumns, hdiscrete, hpartition, ?_⟩
  obtain ⟨rows', places', hrun', -, -, hcounts⟩ :=
    (hclasses hdiscrete).2 redAndNone.reverse (List.reverse_perm _)
  exact ⟨rows', places', hrun', hcounts "songs" List.mem_cons_self⟩

/-- Two songs with one album, which is not a number. -/
def notNumbers : List Document := [[("album", .double .nan)], [("album", .double .nan)]]

/-- What does not equal itself is not brought together, and no row has a key equal to it. -/
theorem nan_founds_rows :
    albumCounts.columns.Nodup ∧
      ∃ rows, Stage.run .caseInsensitive notNumbers (.group albumCounts) = .ok rows ∧
        rows.map (·.get? "songs") = [some (.int64 1), some (.int64 1)] ∧
        ∀ doc ∈ notNumbers, rows.findIdx? (fun row =>
          (albumCounts.keyIn row).equal .caseInsensitive (keyOf albumCounts.key doc)) = none := by
  have hrun : Stage.run .caseInsensitive notNumbers (.group albumCounts) = .ok [
      [("album", .double .nan), ("songs", .int64 1)],
      [("album", .double .nan), ("songs", .int64 1)]] := rfl
  exact ⟨by decide, _, hrun, rfl, by decide⟩

end Grouping

end Songbook
