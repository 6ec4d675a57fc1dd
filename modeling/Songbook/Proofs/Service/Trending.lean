import Songbook.Proofs.Plan.Dispatch
import Songbook.Proofs.Sequencing
import Songbook.Proofs.Service.Answers
import Songbook.Proofs.Store.Formulas
import Songbook.Proofs.Store.Stability
import Songbook.Proofs.Value.Paths

/-!
# Songs by their growth

The question `trending` stores with each song how much its plays grew and puts the largest growth
first. Main statement: it fails exactly if the months of some song cannot be subtracted, and
otherwise it ranks all songs by their exact growth.
-/

namespace Songbook

namespace Document

def august (doc : Document) : Value := (doc.get? "plays-august").getD .null

def july (doc : Document) : Value := (doc.get? "plays-july").getD .null

/-- Where there are plays in both months, they are integers whose difference 64 bits hold. -/
def GrowsExactly (doc : Document) : Prop :=
  doc.august ≠ .null → doc.july ≠ .null → ∃ m n, doc.august.integer? = some m ∧
    doc.july.integer? = some n ∧ Number.Fits (m - n)

inductive Growth (doc : Document) : Value → Prop
  | known {m n : Int} {k : Int64} (haugust : doc.august.integer? = some m)
    (hjuly : doc.july.integer? = some n) (hk : k.toInt = m - n) : Growth doc (.int64 k)
  | unknown (h : doc.august = .null ∨ doc.july = .null) : Growth doc .null

def Grown (doc row : Document) : Prop :=
  ∃ growth, doc.Growth growth ∧ row = doc.insert "trend" growth

def trend (row : Document) : Option Int :=
  (row.get? "trend").bind Value.integer?

def grow (doc : Document) : Except StoreError Document :=
  (doc.august.minus doc.july).map (doc.insert "trend")

variable {doc row : Document}

theorem addFields_trend (doc : Document) :
    doc.addFields [("trend", .minus (.field "plays-august") (.field "plays-july"))] =
      doc.grow := by
  have haugust : doc.find? "plays-august" = doc.get? "plays-august" :=
    find?_of_not_mem (by decide) doc
  have hjuly : doc.find? "plays-july" = doc.get? "plays-july" := find?_of_not_mem (by decide) doc
  rw [addFields_singleton, Formula.eval_difference, haugust, hjuly]
  rfl

theorem grow_of_growsExactly (h : doc.GrowsExactly) :
    ∃ row, doc.grow = .ok row ∧ doc.Grown row := by
  by_cases hnull : doc.august = .null ∨ doc.july = .null
  · refine ⟨_, ?_, .null, .unknown hnull, rfl⟩
    rw [grow, Value.minus_of_null hnull]
    rfl
  · obtain ⟨haugust, hjuly⟩ := not_or.1 hnull
    obtain ⟨m, n, hm, hn, hfits⟩ := h haugust hjuly
    obtain ⟨k, hk, hto⟩ := Value.minus_integers hm hn hfits
    refine ⟨_, ?_, .int64 k, .known hm hn hto, rfl⟩
    rw [grow, hk]
    rfl

theorem grow_of_unsubtractable (h : Value.Unsubtractable doc.august doc.july) :
    doc.grow = .error (.invalidQuery
      s!"cannot subtract {doc.july.kindName} from {doc.august.kindName}") := by
  rw [grow, Value.minus_of_unsubtractable h]
  rfl

theorem exists_grow (h : ¬ Value.Unsubtractable doc.august doc.july) :
    ∃ row, doc.grow = .ok row := by
  obtain ⟨growth, hgrowth⟩ := Value.exists_minus h
  exact ⟨doc.insert "trend" growth, by rw [grow, hgrowth]; rfl⟩

def HoldsTrend (row : Document) : Prop :=
  row.get? "trend" = some .null ∨ ∃ k, row.get? "trend" = some (.int64 k)

theorem Grown.holdsTrend (h : doc.Grown row) : row.HoldsTrend := by
  obtain ⟨growth, hgrowth, rfl⟩ := h
  have hget : (doc.insert "trend" growth).get? "trend" = some growth :=
    Entries.get?_alter_self _ _ _
  rw [HoldsTrend, hget]
  cases hgrowth with
  | known => exact .inr ⟨_, rfl⟩
  | unknown => exact .inl rfl

end Document

/-- The second list has the songs of the first from the largest growth to the smallest, those of
unknown growth last. -/
structure Ranking (rows ranked : List Document) : Prop where
  perm : ranked.Perm rows
  ordered : ranked.Pairwise fun a b =>
    ∀ n, b.trend = some n → ∃ m, a.trend = some m ∧ n ≤ m
  /-- Songs of equal growth keep their order. -/
  stable : ∀ growth, ranked.filter (·.trend = growth) = rows.filter (·.trend = growth)

section Ranks

variable {collation : Collation} {a b : Document} {rows : List Document}

theorem compareBy_trend (ha : a.HoldsTrend) (hb : b.HoldsTrend) :
    SortKey.compareBy collation [.desc "trend"] a b = (compare a.trend b.trend).swap := by
  have hfound : Value.sortCompareFound collation (a.find? "trend") (b.find? "trend") =
      compare a.trend b.trend := by
    rw [Document.find?_of_not_mem (by decide), Document.find?_of_not_mem (by decide),
      Document.trend, Document.trend]
    rcases ha with ha | ⟨m, ha⟩ <;> rcases hb with hb | ⟨n, hb⟩ <;> rw [ha, hb] <;> rfl
  rw [SortKey.compareBy_singleton]
  exact congrArg Ordering.swap hfound

/-- No growth comes after a smaller one, and none after an unknown one. -/
theorem isLE_swap_compare_iff {g h : Option Int} :
    (compare g h).swap.isLE = true ↔ ∀ n, h = some n → ∃ m, g = some m ∧ n ≤ m := by
  cases g with
  | none =>
    cases h with
    | none => exact iff_of_true rfl fun n hn => nomatch hn
    | some n => exact iff_of_false Bool.false_ne_true fun h => nomatch (h n rfl).choose_spec.1
  | some m =>
    cases h with
    | none => exact iff_of_true rfl fun n hn => nomatch hn
    | some n =>
      change (compare m n).swap.isLE = true ↔ _
      rw [Ordering.isLE_swap, Std.isGE_compare]
      simp

theorem ranking_sortDocuments (collation : Collation)
    (h : ∀ row ∈ rows, row.HoldsTrend) :
    Ranking rows (sortDocuments collation [.desc "trend"] rows) := by
  have hcompare : ∀ a ∈ rows, ∀ b ∈ rows,
      SortKey.compareBy collation [.desc "trend"] a b = (compare a.trend b.trend).swap :=
    fun a ha b hb => compareBy_trend (h a ha) (h b hb)
  have hsorted : Sorting.StablySorted (SortKey.compareBy collation [.desc "trend"]) rows
      (sortDocuments collation [.desc "trend"] rows) :=
    ((Sorting.Preordered.of_rank Document.trend rows).reverse.congr hcompare).stablySorted
  refine ⟨hsorted.perm, ?_, ?_⟩
  · refine hsorted.ordered.imp_of_mem fun {a b} ha hb hle => ?_
    rw [hcompare a (hsorted.perm.subset ha) b (hsorted.perm.subset hb)] at hle
    exact isLE_swap_compare_iff.1 hle
  · apply hsorted.filter_rank_eq
    intro a ha b hb
    rw [hcompare a ha b hb, Ordering.swap_eq_eq, Std.compare_eq_iff_eq]

end Ranks

namespace Service

variable {service : Service} {stored : List Document} {question : Question}

/-- The songs with their growth, put in order. -/
theorem songs_of_trending (hcatalog : service.catalog = .builtin)
    (hstored : service.store.collections.get? service.settings.collection = some stored)
    (hquestion : question.WellFormed) (hname : Text.lower question.name = "trending") :
    service.songs (.ofPairs [("question", question.write)]) =
      liftStore ((stored.mapM Document.grow).map
        (sortDocuments collation [.desc "trend"])) := by
  have hdescribe : service.describe (.ofPairs [("question", question.write)]) =
      .ok { question := some question.lower } :=
    describe_eq_ok_iff.2 (hquestion.ofParams_write _)
  have hlookup : service.catalog.lookup question.lower.name question.lower.param =
      .ok (Catalog.trending question.lower.param) := by
    rw [hcatalog, Question.lower, hname]
    exact Catalog.lookup_trending _
  have hcollection : service.store.collection service.settings.collection = .ok stored := by
    rw [Store.collection, hstored]
  have hgrow :
      Document.addFields [("trend", .minus (.field "plays-august") (.field "plays-july"))] =
        Document.grow :=
    funext Document.addFields_trend
  rw [songs, hdescribe]
  change (Plan.forSongs service.catalog { question := some question.lower } >>=
    service.answerPlan) = _
  rw [Plan.forSongs_of_lookup hlookup]
  change liftStore (service.store.collection _ >>= Stage.runAll collation _) = _
  rw [hcollection]
  change liftStore (stored.mapM (Document.addFields _) >>= fun rows =>
    .ok (sortDocuments collation [.desc "trend"] rows)) = _
  rw [hgrow]
  cases stored.mapM Document.grow <;> rfl

/-- A failing request tells of the first song whose months cannot be subtracted. -/
theorem first_unsubtractable {e : QueryError}
    (h : liftStore ((stored.mapM Document.grow).map (sortDocuments collation [.desc "trend"])) =
      .error e) :
    ∃ earlier doc later, stored = earlier ++ doc :: later ∧
      (∀ other ∈ earlier, ¬ Value.Unsubtractable other.august other.july) ∧
      Value.Unsubtractable doc.august doc.july ∧ e = .store (.invalidQuery
        s!"cannot subtract {doc.july.kindName} from {doc.august.kindName}") := by
  cases hpass : stored.mapM Document.grow with
  | ok rows =>
    rw [hpass] at h
    cases h
  | error fault =>
    rw [hpass] at h
    obtain ⟨earlier, doc, later, hsplit, hearlier, hfault⟩ := Sequencing.exists_first_fault hpass
    have hdoc : Value.Unsubtractable doc.august doc.july := by
      by_contra hdoc
      obtain ⟨row, hrow⟩ := Document.exists_grow hdoc
      rw [hfault] at hrow
      cases hrow
    refine ⟨earlier, doc, later, hsplit, ?_, hdoc, ?_⟩
    · intro other hother hfault'
      obtain ⟨row, hrow⟩ := hearlier other hother
      rw [Document.grow_of_unsubtractable hfault'] at hrow
      cases hrow
    · rw [Document.grow_of_unsubtractable hdoc] at hfault
      rw [← Except.error.inj h, Except.error.inj hfault]

/-- The question fails exactly if some song has plays in both months that are not both numbers, and
tells of the first such song. Where all growth is exact, the answer has every stored song with its
growth, null where a month is missing or null, from the largest growth to the smallest and then the
unknown; songs of equal growth come as they are stored. -/
theorem trending_ranks_growth (service : Service) {stored : List Document} {question : Question}
    (hcatalog : service.catalog = .builtin)
    (hstored : service.store.collections.get? service.settings.collection = some stored)
    (hquestion : question.WellFormed) (hname : Text.lower question.name = "trending") :
    let answer := service.songs (.ofPairs [("question", question.write)])
    ((∃ e, answer = .error e) ↔ ∃ doc ∈ stored, Value.Unsubtractable doc.august doc.july) ∧
    (∀ e, answer = .error e → ∃ earlier doc later, stored = earlier ++ doc :: later ∧
      (∀ other ∈ earlier, ¬ Value.Unsubtractable other.august other.july) ∧
      Value.Unsubtractable doc.august doc.july ∧ e = .store (.invalidQuery
        s!"cannot subtract {doc.july.kindName} from {doc.august.kindName}")) ∧
    ((∀ doc ∈ stored, doc.GrowsExactly) → ∃ rows ranked,
      List.Forall₂ Document.Grown stored rows ∧ answer = .ok ranked ∧ Ranking rows ranked) := by
  intro answer
  have hanswer : answer = liftStore ((stored.mapM Document.grow).map
      (sortDocuments collation [.desc "trend"])) :=
    songs_of_trending hcatalog hstored hquestion hname
  rw [hanswer]
  refine ⟨⟨?_, ?_⟩, fun e => first_unsubtractable, ?_⟩
  · rintro ⟨e, he⟩
    obtain ⟨earlier, doc, later, hsplit, -, hdoc, -⟩ := first_unsubtractable he
    exact ⟨doc, by rw [hsplit]; exact List.mem_append_right _ List.mem_cons_self, hdoc⟩
  · rintro ⟨doc, hmem, hdoc⟩
    obtain ⟨fault, hfault⟩ :=
      Sequencing.exists_error hmem (Document.grow_of_unsubtractable hdoc)
    exact ⟨.store fault, by rw [hfault]; rfl⟩
  · intro hexact
    obtain ⟨rows, hrows, hgrown⟩ := Sequencing.exists_mapM_ok
      fun doc hdoc => Document.grow_of_growsExactly (hexact doc hdoc)
    have hheld : ∀ row ∈ rows, row.HoldsTrend := by
      intro row hrow
      obtain ⟨doc, hdoc, hgrow⟩ := Sequencing.exists_item hrows row hrow
      obtain ⟨row', hgrow', hdoc⟩ := Document.grow_of_growsExactly (hexact doc hdoc)
      obtain rfl := Except.ok.inj (hgrow.symm.trans hgrow')
      exact hdoc.holdsTrend
    refine ⟨rows, sortDocuments collation [.desc "trend"] rows, hgrown, ?_,
      ranking_sortDocuments collation hheld⟩
    rw [hrows]
    rfl

/-- Two songs of equal growth, one of which has a growth already, one song that fell and one that
is new. -/
def summerSongs : List Document := [
  [("song", .string "Lover"), ("plays-july", .int32 7), ("plays-august", .int32 3)],
  [("song", .string "August"), ("plays-august", .int64 9)],
  [("trend", .string "up"), ("plays-july", .int64 1), ("plays-august", .int32 6)],
  [("song", .string "Red"), ("plays-july", .int32 4), ("plays-august", .int64 9)]]

def summerService : Service := { store := ⟨[("taylorsongs", summerSongs)]⟩ }

theorem trending_ranks_growth_summer :
    (∀ doc ∈ summerSongs, doc.GrowsExactly) ∧ ∃ rows ranked,
      List.Forall₂ Document.Grown summerSongs rows ∧ Ranking rows ranked ∧
        ranked.map (·.get? "song") =
          [none, some (.string "Red"), some (.string "Lover"), some (.string "August")] := by
  have hexact : ∀ doc ∈ summerSongs, doc.GrowsExactly := by
    intro doc hdoc _ hjuly
    simp only [summerSongs, List.mem_cons, List.not_mem_nil, or_false] at hdoc
    rcases hdoc with rfl | rfl | rfl | rfl
    · exact ⟨3, 7, rfl, rfl, by decide⟩
    · exact absurd rfl hjuly
    · exact ⟨6, 1, rfl, rfl, by decide⟩
    · exact ⟨9, 4, rfl, rfl, by decide⟩
  have hquestion : Question.WellFormed ⟨"Trending", none⟩ :=
    ⟨by decide, by decide, by rintro param ⟨⟩⟩
  obtain ⟨-, -, hranked⟩ := trending_ranks_growth summerService rfl rfl hquestion (by decide)
  obtain ⟨rows, ranked, hrows, hanswer, hranking⟩ := hranked hexact
  refine ⟨hexact, rows, ranked, hrows, hranking, ?_⟩
  have hsongs : (summerService.songs (.ofPairs [("question", "Trending")])).map
      (List.map (·.get? "song")) =
        .ok [none, some (.string "Red"), some (.string "Lover"), some (.string "August")] := rfl
  have hranked := congrArg (Except.map (List.map (·.get? "song"))) hanswer
  exact Except.ok.inj (hranked.symm.trans hsongs)

end Service

end Songbook
