import Songbook.Proofs.Request.Parts
import Songbook.Proofs.Service.Answers

/-!
# Pages

The window of a request is cut out of the answer that the request would get without one. Main
statement: this holds of songs and of albums, whatever selects and orders them, and so consecutive
pages of one size join to the whole answer.
-/

namespace Songbook

/-- The items of a list from a position on, as long as the limit allows. -/
def IsWindow {α : Type} (skip limit : Option UInt64) (whole part : List α) : Prop :=
  ∀ i : Nat, part[i]? =
    if limit.all (i < ·.toNat) then whole[(skip.getD 0).toNat + i]? else none

theorem isWindow_window {α : Type} (skip limit : Option UInt64) (items : List α) :
    IsWindow skip limit items (window skip limit items) := by
  intro i
  cases limit with
  | none => simp [window, List.getElem?_drop]
  | some n => simp [window, List.getElem?_take, List.getElem?_drop]

/-- What becomes of an answer if the request has a window: a fault stays, of documents a part. -/
inductive Windowed (skip limit : Option UInt64) :
    Except QueryError (List Document) → Except QueryError (List Document) → Prop
  | fault (e : QueryError) : Windowed skip limit (.error e) (.error e)
  | documents {whole part : List Document} (h : IsWindow skip limit whole part) :
    Windowed skip limit (.ok whole) (.ok part)

theorem windowed_map (skip limit : Option UInt64) (whole : Except QueryError (List Document)) :
    Windowed skip limit whole (whole.map (window skip limit)) := by
  cases whole with
  | error e => exact .fault e
  | ok docs => exact .documents (isWindow_window skip limit docs)

def unpaged (pairs : List (String × String)) : List (String × String) :=
  Params.keepKeys (fun key => !(["skip", "limit"].contains key)) pairs

theorem Descriptor.ofParams_unpaged {types : FieldTypes} {descriptor : Descriptor}
    {pairs : List (String × String)} (h : ofParams types (.ofPairs pairs) = .ok descriptor) :
    ofParams types (.ofPairs (Songbook.unpaged pairs)) =
      .ok { descriptor with skip := none, limit := none } := by
  let keep := fun key => !(["skip", "limit"].contains key)
  have hkeep : ∀ key, key ∉ keywords → keep key = true := by
    intro key hkey
    simp only [keywords, List.mem_cons, List.not_mem_nil, or_false, not_or] at hkey
    simp [keep, hkey]
  obtain ⟨-, -, hfilter, hquestion, hsort⟩ := ofParams_eq_ok_iff.1 h
  apply ofParams_eq_ok_iff.2
  refine ⟨?_, ?_, ?_, ?_, ?_⟩
  · exact countOf_of_absent (Params.get?_keepKeys keep pairs "limit")
  · exact countOf_of_absent (Params.get?_keepKeys keep pairs "skip")
  · exact (filterOf_keepKeys keep pairs hkeep types).trans hfilter
  · exact (questionOf_keepKeys keep pairs rfl).trans hquestion
  · exact (sortOf_keepKeys keep pairs rfl).trans hsort

namespace Service

variable {service : Service} {descriptor : Descriptor} {pairs : List (String × String)}

theorem describe_unpaged (h : service.describe (.ofPairs pairs) = .ok descriptor) :
    service.describe (.ofPairs (unpaged pairs)) =
      .ok { descriptor with skip := none, limit := none } :=
  describe_eq_ok_iff.2 (Descriptor.ofParams_unpaged (describe_eq_ok_iff.1 h))

theorem songs_windowed (h : service.describe (.ofPairs pairs) = .ok descriptor) :
    service.songs (.ofPairs pairs) =
      (service.songs (.ofPairs (unpaged pairs))).map
        (window descriptor.skip descriptor.limit) := by
  rw [songs_of_describe h, songs_of_describe (describe_unpaged h)]
  have hselected : service.selected { descriptor with skip := none, limit := none } =
      service.selected descriptor := rfl
  have horder : service.songOrder { descriptor with skip := none, limit := none } =
      service.songOrder descriptor := rfl
  rw [hselected, horder]
  cases service.selected descriptor with
  | error e => rfl
  | ok docs => simp only [Except.map, window_none_none]

theorem albums_windowed (h : service.describe (.ofPairs pairs) = .ok descriptor) :
    service.albums (.ofPairs pairs) =
      (service.albums (.ofPairs (unpaged pairs))).map
        (window descriptor.skip descriptor.limit) := by
  have hwindow := Stage.runAll_window collation descriptor.skip descriptor.limit
  have hstages : Plan.songStages service.catalog { descriptor with skip := none, limit := none } =
      Plan.songStages service.catalog descriptor := rfl
  rw [albums, albums, h, describe_unpaged h]
  simp only [bind, Except.bind, Plan.forAlbums, hstages]
  cases Plan.songStages service.catalog descriptor with
  | error e => rfl
  | ok stages =>
    have hcut := service.answerPlan_append
      (stages ++ Plan.rollUpStages service.settings.albumSumField descriptor.sort) hwindow
    have hwhole : Plan.windowStages { descriptor with skip := none, limit := none } = [] := rfl
    simp only [pure, Except.pure, hwhole, List.append_nil]
    exact hcut

def answers (service : Service) : List (Params → Except QueryError (List Document)) :=
  [service.songs, service.albums]

theorem answer_windowed {answer : Params → Except QueryError (List Document)}
    (hanswer : answer ∈ service.answers)
    (h : service.describe (.ofPairs pairs) = .ok descriptor) :
    answer (.ofPairs pairs) =
      (answer (.ofPairs (unpaged pairs))).map (window descriptor.skip descriptor.limit) := by
  rcases List.mem_cons.1 hanswer with rfl | hanswer
  · exact songs_windowed h
  · obtain rfl := List.mem_singleton.1 hanswer
    exact albums_windowed h

/-- Requests for the first pages of one size, which differ in their windows alone. -/
def AskPages (service : Service) (size : UInt64) (pairs : List (String × String))
    (requests : List (List (String × String))) : Prop :=
  ∀ k request, requests[k]? = some request → unpaged request = pairs ∧
    ∃ descriptor, service.describe (.ofPairs request) = .ok descriptor ∧
      (descriptor.skip.getD 0).toNat = k * size.toNat ∧ descriptor.limit = some size

/-- Pages of one size join to the beginning that they cover. -/
theorem flatten_pages {α : Type} (items : List α) (size count : Nat) :
    ((List.range count).map fun k => (items.drop (k * size)).take size).flatten =
      items.take (count * size) := by
  induction count with
  | zero => simp
  | succ count ih =>
    rw [List.range_succ, List.map_append, List.flatten_append, ih, Nat.succ_mul, List.take_add]
    simp

theorem answer_page {answer : Params → Except QueryError (List Document)}
    (hanswer : answer ∈ service.answers) {size : UInt64} {whole : List Document} {k : Nat}
    (hskip : (descriptor.skip.getD 0).toNat = k * size.toNat)
    (hlimit : descriptor.limit = some size)
    (h : service.describe (.ofPairs pairs) = .ok descriptor)
    (hwhole : answer (.ofPairs (unpaged pairs)) = .ok whole) :
    answer (.ofPairs pairs) = .ok ((whole.drop (k * size.toNat)).take size.toNat) := by
  rw [answer_windowed hanswer h, hwhole, hlimit]
  simp only [Except.map, window, hskip]

/-- An answer is the window of what the request would get without one, or fails like it. So the
pages of one size, one after the other, are what they cover of the whole. -/
theorem paging_cuts_whole (service : Service)
    {answer : Params → Except QueryError (List Document)} (hanswer : answer ∈ service.answers) :
    (∀ pairs descriptor, service.describe (.ofPairs pairs) = .ok descriptor →
      Windowed descriptor.skip descriptor.limit (answer (.ofPairs (unpaged pairs)))
        (answer (.ofPairs pairs))) ∧
    ∀ size pairs requests whole, service.AskPages size pairs requests →
      answer (.ofPairs pairs) = .ok whole →
        ∃ pages, requests.mapM (fun request => answer (.ofPairs request)) = .ok pages ∧
          pages.flatten = whole.take (requests.length * size.toNat) := by
  constructor
  · intro pairs descriptor h
    rw [answer_windowed hanswer h]
    exact windowed_map _ _ _
  · intro size pairs requests whole hrequests hwhole
    let page := fun k => (whole.drop (k * size.toNat)).take size.toNat
    refine ⟨(List.range requests.length).map page, ?_, flatten_pages whole size.toNat _⟩
    rw [Sequencing.mapM_eq_ok_iff, List.map_map]
    apply List.ext_getElem?
    intro k
    rw [List.getElem?_map, List.getElem?_map]
    by_cases hk : k < requests.length
    · have hrequest := List.getElem?_eq_getElem hk
      obtain ⟨rfl, descriptor, hdescribe, hskip, hlimit⟩ := hrequests k _ hrequest
      have hpage := answer_page hanswer hskip hlimit hdescribe hwhole
      rw [hrequest, List.getElem?_range hk]
      exact congrArg some hpage
    · rw [List.getElem?_eq_none (by omega), List.getElem?_eq_none (by simpa using hk)]
      rfl

def threeSongs : Service where
  store := ⟨[("taylorsongs", [
    [("song", .string "Red"), ("plays", .int32 20)],
    [("song", .string "22"), ("plays", .int32 30)],
    [("song", .string "Mine"), ("plays", .int64 10)]])]⟩

def threeByPlays : List Document := [
  [("song", .string "Mine"), ("plays", .int64 10)],
  [("song", .string "Red"), ("plays", .int32 20)],
  [("song", .string "22"), ("plays", .int32 30)]]

def pageRequests : List (List (String × String)) := [
  [("sort", "plays"), ("limit", "2")],
  [("Skip", "2"), ("sort", "plays"), ("limit", "2")]]

theorem askPages_three : threeSongs.AskPages 2 [("sort", "plays")] pageRequests := by
  intro k request hrequest
  match k with
  | 0 =>
    obtain rfl := Option.some.inj hrequest
    refine ⟨rfl, { limit := some 2, sort := some [.asc "plays"] }, ?_, rfl, rfl⟩
    exact describe_eq_ok_iff.2 (Descriptor.ofParams_eq_ok_iff.2
      ⟨by decide +kernel, by decide +kernel, rfl, rfl, rfl⟩)
  | 1 =>
    obtain rfl := Option.some.inj hrequest
    refine ⟨rfl, { skip := some 2, limit := some 2, sort := some [.asc "plays"] }, ?_, rfl, rfl⟩
    exact describe_eq_ok_iff.2 (Descriptor.ofParams_eq_ok_iff.2
      ⟨by decide +kernel, by decide +kernel, rfl, rfl, rfl⟩)

theorem paging_cuts_whole_three :
    threeSongs.songs ∈ threeSongs.answers ∧
      threeSongs.songs (.ofPairs [("sort", "plays")]) = .ok threeByPlays ∧
      threeSongs.AskPages 2 [("sort", "plays")] pageRequests ∧
      ∃ pages,
        pageRequests.mapM (fun request => threeSongs.songs (.ofPairs request)) = .ok pages ∧
        pages.flatten = threeByPlays := by
  have hanswer : threeSongs.songs ∈ threeSongs.answers := List.mem_cons_self
  have hwhole : threeSongs.songs (.ofPairs [("sort", "plays")]) = .ok threeByPlays := rfl
  obtain ⟨-, hjoin⟩ := threeSongs.paging_cuts_whole hanswer
  have hpages := hjoin 2 _ pageRequests _ askPages_three hwhole
  exact ⟨hanswer, hwhole, askPages_three, hpages⟩

end Service

end Songbook
