import Songbook.Proofs.Catalog
import Songbook.Proofs.Plan.Translation
import Songbook.Proofs.Service.Answers
import Songbook.Web.Route

/-!
# Faults of the client and of the store

A request is planned before the store is looked at. Whatever makes it the client's fault is found
by then, and what a store may fail with afterwards is not told. Main statement: over two stores a
request is refused with the same response or with none, and every other failure is answered alike.
-/

namespace Songbook

inductive Unanswerable (catalog : Catalog) (types : FieldTypes) (params : Params) : Prop
  | unreadable {fault : RequestError} (h : Descriptor.ofParams types params = .error fault)
  | unknownQuestion {descriptor : Descriptor} {question : Question}
    (hread : Descriptor.ofParams types params = .ok descriptor)
    (hquestion : descriptor.question = some question) (hname : question.name ∉ catalog.names)
  | unknownOperator {descriptor : Descriptor} {filter : Filter} {field token : String}
    (hread : Descriptor.ofParams types params = .ok descriptor)
    (hquestion : descriptor.question = none) (hfilter : descriptor.filter = some filter)
    (hunknown : filter.HasUnknown field token)

namespace Plan

variable {catalog : Catalog} {descriptor : Descriptor} {e : QueryError}

/-- Songs cannot be selected by an operator that is none, or by a question of no such name. -/
theorem songStages_eq_error_iff : songStages catalog descriptor = .error e ↔
    (descriptor.question = none ∧ liftRequest (Filter.condition descriptor.filter) = .error e) ∨
    ∃ question, descriptor.question = some question ∧ question.name ∉ catalog.names ∧
      e = .unknownQuestion question.name := by
  cases hquestion : descriptor.question with
  | none =>
    simp only [songStages, hquestion]
    cases liftRequest (Filter.condition descriptor.filter) with
    | error e' => simp [bind, Except.bind]
    | ok filter => simp [bind, Except.bind, pure, Except.pure]
  | some question =>
    have hlookup := @Catalog.lookup_eq_error_iff catalog question.name question.param e
    simp only [songStages, hquestion]
    cases hrecipe : catalog.lookup question.name question.param with
    | error e' =>
      rw [hrecipe] at hlookup
      simpa [bind, Except.bind] using hlookup
    | ok recipe =>
      rw [hrecipe] at hlookup
      cases recipe <;> simpa [bind, Except.bind, pure, Except.pure] using hlookup

theorem forSongs_eq_error_iff :
    forSongs catalog descriptor = .error e ↔ songStages catalog descriptor = .error e := by
  unfold forSongs songStages
  cases descriptor.question with
  | none =>
    cases liftRequest (Filter.condition descriptor.filter) with
    | error e' => simp [bind, Except.bind]
    | ok filter => simp [bind, Except.bind, pure, Except.pure]
  | some question =>
    cases hlookup : catalog.lookup question.name question.param with
    | error e' => simp [bind, Except.bind, hlookup]
    | ok recipe => cases recipe <;> simp [bind, Except.bind, pure, Except.pure, hlookup]

theorem forAlbums_eq_error_iff {defaultField : String} :
    forAlbums catalog defaultField descriptor = .error e ↔
      songStages catalog descriptor = .error e := by
  unfold forAlbums
  cases songStages catalog descriptor with
  | error e' => simp [bind, Except.bind]
  | ok stages => simp [bind, Except.bind, pure, Except.pure]

end Plan

namespace Service

variable {e : QueryError}

theorem liftStore_fault {α : Type} {outcome : Except StoreError α}
    (h : liftStore outcome = .error e) : ∃ fault, e = .store fault := by
  cases outcome with
  | ok a => cases h
  | error fault => exact ⟨fault, (Except.error.inj h).symm⟩

theorem answerPlan_fault {service : Service} {plan : Plan}
    (h : service.answerPlan plan = .error e) : ∃ fault, e = .store fault :=
  liftStore_fault h

end Service

namespace Web

namespace Response

@[simp] theorem status_documents (docs : List Document) : (documents docs).status = 200 := rfl

@[simp] theorem status_fault (status : Nat) (message : String) :
    (fault status message).status = status := rfl

@[simp] theorem status_internal : internal.status = 500 := rfl

theorem internal_eq : internal =
    ⟨500, some "application/json", "\x7b\"error\":\"internal server error\"\x7d"⟩ := by
  decide

end Response

namespace Route

def planOf (catalog : Catalog) (settings : Settings) (descriptor : Descriptor) :
    Route → Except QueryError Plan
  | albums => do
    let stages ← Plan.forAlbums catalog settings.albumSumField descriptor
    return .pipeline stages
  | _ => Plan.forSongs catalog descriptor

/-- What a route asks of a store. No store has a part in it. -/
def plan (catalog : Catalog) (settings : Settings) (params : Params) (route : Route) :
    Except QueryError Plan := do
  let descriptor ← Plan.liftRequest (Descriptor.ofParams settings.fieldTypes params)
  route.planOf catalog settings descriptor

variable {route : Route} {catalog : Catalog} {settings : Settings} {params : Params}
variable {service : Service} {pairs : List (String × String)} {e : QueryError}

theorem get_eq_ofAnswer (hroute : route = songs ∨ route = albums) :
    route.get service pairs =
      .ofAnswer (route.plan service.catalog service.settings (.ofPairs pairs) >>=
        service.answerPlan) := by
  rcases hroute with rfl | rfl
  · rw [get, Service.songs, plan, bind_assoc]
    rfl
  · simp only [get, Service.albums, plan, planOf, bind_assoc, pure_bind]
    rfl

theorem planOf_eq_error_iff {descriptor : Descriptor} :
    route.planOf catalog settings descriptor = .error e ↔
      Plan.songStages catalog descriptor = .error e := by
  cases route with
  | albums =>
    rw [planOf, Sequencing.bind_eq_error_iff, Plan.forAlbums_eq_error_iff]
    simp [pure, Except.pure]
  | _ => exact Plan.forSongs_eq_error_iff

/-- A plan fails with the descriptor or with the selection of songs. -/
theorem plan_eq_error_iff : route.plan catalog settings params = .error e ↔
    (∃ fault, Descriptor.ofParams settings.fieldTypes params = .error fault ∧
      e = .request fault) ∨
    ∃ descriptor, Descriptor.ofParams settings.fieldTypes params = .ok descriptor ∧
      Plan.songStages catalog descriptor = .error e := by
  rw [plan, Sequencing.bind_eq_error_iff, Plan.liftRequest_eq_error_iff]
  simp only [Plan.liftRequest_eq_ok_iff, planOf_eq_error_iff]

theorem unanswerable_of_plan (h : route.plan catalog settings params = .error e) :
    Unanswerable catalog settings.fieldTypes params ∧ e.isClientError = true := by
  rcases plan_eq_error_iff.1 h with ⟨fault, hread, rfl⟩ | ⟨descriptor, hread, hstages⟩
  · exact ⟨.unreadable hread, rfl⟩
  · rcases Plan.songStages_eq_error_iff.1 hstages with
      ⟨hquestion, hcondition⟩ | ⟨question, hquestion, hname, rfl⟩
    · obtain ⟨fault, hfault, rfl⟩ := Plan.liftRequest_eq_error_iff.1 hcondition
      obtain ⟨filter, hfilter⟩ : ∃ filter, descriptor.filter = some filter := by
        cases hfilter : descriptor.filter with
        | none =>
          rw [hfilter] at hfault
          cases hfault
        | some filter => exact ⟨filter, rfl⟩
      rw [hfilter] at hfault
      obtain ⟨field, token, hunknown, -⟩ := Filter.least_unknown_of_error hfault
      exact ⟨.unknownOperator hread hquestion hfilter hunknown, rfl⟩
    · exact ⟨.unknownQuestion hread hquestion hname, rfl⟩

theorem exists_fault_of_unanswerable (route : Route)
    (h : Unanswerable catalog settings.fieldTypes params) :
    ∃ e, route.plan catalog settings params = .error e := by
  cases h with
  | @unreadable fault hread =>
    exact ⟨.request fault, plan_eq_error_iff.2 (.inl ⟨fault, hread, rfl⟩)⟩
  | @unknownQuestion descriptor question hread hquestion hname =>
    refine ⟨.unknownQuestion question.name, plan_eq_error_iff.2 (.inr ⟨descriptor, hread, ?_⟩)⟩
    exact Plan.songStages_eq_error_iff.2 (.inr ⟨question, hquestion, hname, rfl⟩)
  | @unknownOperator descriptor filter field token hread hquestion hfilter hunknown =>
    obtain ⟨fault, hfault⟩ := Filter.error_of_unknown hunknown
    rw [← hfilter] at hfault
    have hcondition := Plan.liftRequest_eq_error_iff.2 ⟨fault, hfault, rfl⟩
    refine ⟨.request fault, plan_eq_error_iff.2 (.inr ⟨descriptor, hread, ?_⟩)⟩
    exact Plan.songStages_eq_error_iff.2 (.inl ⟨hquestion, hcondition⟩)

theorem get_of_plan_error (hroute : route = songs ∨ route = albums)
    (h : route.plan service.catalog service.settings (.ofPairs pairs) = .error e) :
    route.get service pairs = .fault 400 e.message := by
  have hclient := (unanswerable_of_plan h).2
  rw [get_eq_ofAnswer hroute, h]
  exact if_pos hclient

/-- A planned request is answered with documents or with the fault that tells nothing. -/
theorem get_of_plan {plan : Plan} (hroute : route = songs ∨ route = albums)
    (h : route.plan service.catalog service.settings (.ofPairs pairs) = .ok plan) :
    (∃ docs, route.get service pairs = .documents docs) ∨
      route.get service pairs = .internal := by
  rw [get_eq_ofAnswer hroute, h]
  cases hanswer : service.answerPlan plan with
  | ok docs => exact .inl ⟨docs, congrArg Response.ofAnswer hanswer⟩
  | error e =>
    obtain ⟨fault, rfl⟩ := Service.answerPlan_fault hanswer
    exact .inr (congrArg Response.ofAnswer hanswer)

/-- Over another store, a request is refused with the same response, and it is refused exactly if
it cannot be planned. Whatever else fails is answered alike. -/
theorem faults_over_stores (hroute : route = songs ∨ route = albums) (service : Service)
    (store : Store) (pairs : List (String × String)) :
    ((route.get service pairs).status = 400 →
      route.get { service with store } pairs = route.get service pairs) ∧
    ((route.get service pairs).status ≠ 200 → (route.get service pairs).status ≠ 400 →
      route.get service pairs =
        ⟨500, some "application/json", "\x7b\"error\":\"internal server error\"\x7d"⟩) ∧
    ((route.get service pairs).status = 400 ↔
      Unanswerable service.catalog service.settings.fieldTypes (.ofPairs pairs)) := by
  cases hplan : route.plan service.catalog service.settings (.ofPairs pairs) with
  | error e =>
    have hfirst := get_of_plan_error hroute hplan
    have hsecond : route.get { service with store } pairs = .fault 400 e.message :=
      get_of_plan_error hroute hplan
    have hcause := (unanswerable_of_plan hplan).1
    simp [hfirst, hsecond, hcause]
  | ok plan =>
    -- what can still fail is the store, which is never the client's fault
    have hanswerable : ¬ Unanswerable service.catalog service.settings.fieldTypes
        (.ofPairs pairs) := by
      intro h
      obtain ⟨e, he⟩ := exists_fault_of_unanswerable route h
      rw [hplan] at he
      cases he
    rcases get_of_plan hroute hplan with ⟨docs, hfirst⟩ | hfirst
    · simp [hfirst, hanswerable]
    · simp [hfirst, hanswerable, Response.internal_eq]

def unfilled : Service := { store := {} }

def oneSong : Store := ⟨[("taylorsongs", [[("song", .string "Red")]])]⟩

theorem faults_over_stores_question :
    (albums.get unfilled [("question", "loudest")]).status = 400 ∧
      albums.get { unfilled with store := oneSong } [("question", "loudest")] =
        ⟨400, some "application/json", "\x7b\"error\":\"unknown question: loudest\"\x7d"⟩ ∧
      Unanswerable unfilled.catalog unfilled.settings.fieldTypes
        (.ofPairs [("question", "loudest")]) ∧
      albums.get unfilled [] =
        ⟨500, some "application/json", "\x7b\"error\":\"internal server error\"\x7d"⟩ := by
  have hrefused : (albums.get unfilled [("question", "loudest")]).status = 400 := rfl
  obtain ⟨hsame, -, hcause⟩ :=
    faults_over_stores (.inr rfl) unfilled oneSong [("question", "loudest")]
  obtain ⟨-, hinternal, -⟩ := faults_over_stores (.inr rfl) unfilled oneSong []
  refine ⟨hrefused, (hsame hrefused).trans ?_, hcause.1 hrefused, ?_⟩
  · decide +kernel
  · exact hinternal (by decide +kernel) (by decide +kernel)

end Route

end Web

end Songbook
