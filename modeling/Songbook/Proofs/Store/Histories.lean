import Songbook.Proofs.Entries
import Songbook.Proofs.Store.Pipelines
import Songbook.Proofs.Store.Sorted

/-!
# Histories of a store

All that a store holds was put there by the calls made to it. Main statement: whatever calls an
empty store has answered, each of its collections is the batches inserted under that very name, one
after the other, and every reply is told by the calls before it.
-/

namespace Songbook

namespace StoreCall

def makes (name : String) : StoreCall → Bool
  | create made | insert made _ => made = name
  | _ => false

def batch (name : String) : StoreCall → List Document
  | insert into docs => if into = name then docs else []
  | _ => []

def reads? : StoreCall → Option String
  | count name | find name _ _ | aggregate name _ _ => some name
  | _ => none

/-- A search for nothing and a pipeline without stages ask for the whole collection. -/
inductive ReadsAll (name : String) : StoreCall → Prop
  | find (collation : Collation) : ReadsAll name (.find name {} collation)
  | aggregate (collation : Collation) : ReadsAll name (.aggregate name [] collation)

end StoreCall

def Made (name : String) (history : List StoreCall) : Prop :=
  ∃ call ∈ history, call.makes name = true

instance (name : String) (history : List StoreCall) : Decidable (Made name history) :=
  inferInstanceAs (Decidable (∃ call ∈ history, _ = true))

def written (name : String) (history : List StoreCall) : List Document :=
  history.flatMap (·.batch name)

/-- The reply to a call as the calls before it tell it. -/
structure Answered (history : List StoreCall) (call : StoreCall) (reply : StoreReply) : Prop where
  created : ∀ name, call = .create name → reply = .created
  inserted : ∀ name docs, call = .insert name docs → reply = .inserted docs.length
  missing : ∀ name, call.reads? = some name → ¬ Made name history →
    reply = .failed (.collectionNotFound name)
  counted : ∀ name, call = .count name → Made name history →
    reply = .counted (written name history).length
  whole : ∀ name, call.ReadsAll name → Made name history → reply = .documents (written name history)

section Calls

variable {name : String} {call : StoreCall} {history : List StoreCall}

theorem made_concat :
    Made name (history ++ [call]) ↔ Made name history ∨ call.makes name = true := by
  simp [Made, or_and_right, exists_or]

theorem written_append (name : String) (history more : List StoreCall) :
    written name (history ++ more) = written name history ++ written name more :=
  List.flatMap_append

theorem written_concat (name : String) (history : List StoreCall) (call : StoreCall) :
    written name (history ++ [call]) = written name history ++ call.batch name := by
  simp [written]

theorem StoreCall.batch_of_not_makes (h : ¬ call.makes name = true) : call.batch name = [] := by
  cases call with
  | insert into docs => exact if_neg (by simpa [makes] using h)
  | _ => rfl

theorem written_of_not_made (h : ¬ Made name history) : written name history = [] := by
  apply List.flatMap_eq_nil_iff.2
  intro call hcall
  exact StoreCall.batch_of_not_makes fun hmakes => h ⟨call, hcall, hmakes⟩

theorem Made.append (h : Made name history) (more : List StoreCall) :
    Made name (history ++ more) := by
  obtain ⟨call, hcall, hmakes⟩ := h
  exact ⟨call, List.mem_append_left more hcall, hmakes⟩

end Calls

theorem Search.run_all (collation : Collation) (docs : List Document) :
    ({} : Search).run collation docs = docs := by
  have hselected : docs.filter (fun doc => ({} : Search).filter.all (·.holds collation doc)) =
      docs := List.filter_eq_self.2 fun _ _ => rfl
  rw [run, hselected, sortDocuments_nil, window_none_none]

namespace Store

variable {store : Store} {call : StoreCall} {history : List StoreCall}

/-- One call adds its batch to the collection it makes, and leaves all others alone. -/
theorem get?_step (store : Store) (call : StoreCall) (name : String) :
    (store.step call).1.collections.get? name =
      if call.makes name then some ((store.collections.get? name).getD [] ++ call.batch name)
      else store.collections.get? name := by
  cases call with
  | create made =>
    by_cases hname : made = name
    · subst hname
      simp [step, create, StoreCall.makes, StoreCall.batch, Entries.get?_alter_self]
    · simp [step, create, StoreCall.makes, hname, Entries.get?_alter_of_ne hname]
  | insert made docs =>
    by_cases hname : made = name
    · subst hname
      simp [step, insert, StoreCall.makes, StoreCall.batch, Entries.get?_alter_self]
    · simp [step, insert, StoreCall.makes, hname, Entries.get?_alter_of_ne hname]
  | _ => rfl

def Records (store : Store) (history : List StoreCall) : Prop :=
  ∀ name, store.collections.get? name =
    if Made name history then some (written name history) else none

theorem records_empty : ({} : Store).Records [] := by
  intro name
  simp [Made]

theorem Records.step (h : store.Records history) (call : StoreCall) :
    (store.step call).1.Records (history ++ [call]) := by
  intro name
  rw [get?_step, h name, written_concat]
  simp only [made_concat]
  by_cases hmakes : call.makes name = true
  · by_cases hmade : Made name history
    · simp [hmakes, hmade]
    · simp [hmakes, hmade, written_of_not_made hmade]
  · simp [hmakes, StoreCall.batch_of_not_makes hmakes]

theorem Records.collection (h : store.Records history) (name : String) :
    store.collection name =
      if Made name history then .ok (written name history)
      else .error (.collectionNotFound name) := by
  rw [Store.collection, h name]
  split
  · next heq =>
    split at heq
    · next hmade =>
      obtain rfl := Option.some.inj heq
      rw [if_pos hmade]
    · cases heq
  · next heq =>
    split at heq
    · cases heq
    · next hmade => rw [if_neg hmade]

/-- A store that records a history replies as the history tells. -/
theorem Records.answered (h : store.Records history) (call : StoreCall) :
    Answered history call (store.step call).2 where
  created := by
    rintro name rfl
    rfl
  inserted := by
    rintro name docs rfl
    rfl
  missing := by
    intro name hreads hmissing
    have hnone := h.collection name
    rw [if_neg hmissing] at hnone
    cases call with
    | create made => cases hreads
    | insert made docs => cases hreads
    | _ =>
      obtain rfl := Option.some.inj hreads
      simp only [Store.step, count, find, aggregate, hnone]
      rfl
  counted := by
    rintro name rfl hmade
    have hsome := h.collection name
    rw [if_pos hmade] at hsome
    simp only [Store.step, count, hsome]
    rfl
  whole := by
    intro name hreads hmade
    have hsome := h.collection name
    rw [if_pos hmade] at hsome
    cases hreads with
    | find collation =>
      simp only [Store.step, find, hsome, Except.map, Search.run_all]
      rfl
    | aggregate collation =>
      simp only [Store.step, aggregate, hsome]
      rfl

/-- A run after another goes on with the store that the first leaves. -/
theorem run_append (store : Store) (calls more : List StoreCall) :
    store.run (calls ++ more) =
      (((store.run calls).1.run more).1,
        (store.run calls).2 ++ ((store.run calls).1.run more).2) := by
  induction calls generalizing store with
  | nil => rfl
  | cons call calls ih => simp only [List.cons_append, run, ih]

theorem run_concat (store : Store) (calls : List StoreCall) (call : StoreCall) :
    (store.run (calls ++ [call])).1 = ((store.run calls).1.step call).1 := by
  rw [run_append]
  rfl

theorem Records.run (h : store.Records history) (calls : List StoreCall) :
    (store.run calls).1.Records (history ++ calls) := by
  induction calls generalizing store history with
  | nil => rwa [List.append_nil]
  | cons call calls ih =>
    have hnext := ih (h.step call)
    rwa [List.append_assoc] at hnext

theorem length_replies (store : Store) (calls : List StoreCall) :
    (store.run calls).2.length = calls.length := by
  induction calls generalizing store with
  | nil => rfl
  | cons call calls ih => exact congrArg Nat.succ (ih _)

/-- Each call of a run is answered as the calls before it tell. -/
theorem Records.replies (h : store.Records history) {calls : List StoreCall} {i : Nat}
    (hcall : calls[i]? = some call) :
    ∃ reply, (store.run calls).2[i]? = some reply ∧ Answered (history ++ calls.take i) call reply := by
  induction calls generalizing store history i with
  | nil => cases hcall
  | cons first calls ih =>
    cases i with
    | zero =>
      obtain rfl := Option.some.inj hcall
      refine ⟨_, rfl, ?_⟩
      rw [List.take_zero, List.append_nil]
      exact h.answered first
    | succ i =>
      obtain ⟨reply, hreply, hanswered⟩ := ih (h.step first) hcall
      refine ⟨reply, hreply, ?_⟩
      rwa [List.append_assoc] at hanswered

/-- The calls that change nothing: those that only read, those that fail, and those that create a
collection again. -/
inductive Changeless (store : Store) (history : List StoreCall) : StoreCall → Prop
  | reading {call : StoreCall} {name : String} (h : call.reads? = some name) :
    Changeless store history call
  | failing {call : StoreCall} {e : StoreError} (h : (store.step call).2 = .failed e) :
    Changeless store history call
  | remaking {name : String} (h : Made name history) : Changeless store history (.create name)

theorem step_of_reads {name : String} (h : call.reads? = some name) : (store.step call).1 = store := by
  cases call with
  | create made => cases h
  | insert made docs => cases h
  | _ => rfl

theorem Records.step_of_changeless (h : store.Records history)
    (hcall : Changeless store history call) : (store.step call).1 = store := by
  cases hcall with
  | reading hreads => exact step_of_reads hreads
  | failing hfailed =>
    cases call with
    | create made => cases hfailed
    | insert made docs => cases hfailed
    | _ => rfl
  | @remaking name hmade =>
    have hsome := h name
    rw [if_pos hmade] at hsome
    rw [Store.step, create, Entries.alter_of_get? hsome rfl]

/-- Two readings of a whole collection, the second of which comes later or is the first. -/
theorem Records.readings {calls : List StoreCall} (h : store.Records history) {name : String}
    {i j : Nat} (hij : i ≤ j) {first later : StoreCall} (hfirst : calls[i]? = some first)
    (hlater : calls[j]? = some later) (hfirstAll : first.ReadsAll name)
    (hlaterAll : later.ReadsAll name) {docs : List Document}
    (hdocs : (store.run calls).2[i]? = some (.documents docs)) :
    ∃ more, (store.run calls).2[j]? = some (.documents (docs ++ more)) := by
  obtain ⟨reply, hreply, hanswer⟩ := h.replies hfirst
  obtain ⟨reply', hreply', hanswer'⟩ := h.replies hlater
  obtain rfl : reply = .documents docs := Option.some.inj (hreply.symm.trans hdocs)
  have hreads : first.reads? = some name := by cases hfirstAll <;> rfl
  -- the first reading found the collection
  have hmade : Made name (history ++ calls.take i) := by
    by_contra hmissing
    cases hanswer.missing name hreads hmissing
  obtain rfl : docs = written name (history ++ calls.take i) := by
    simpa using hanswer.whole name hfirstAll hmade
  -- whatever was written by then is still there
  obtain ⟨between, hbetween⟩ := List.take_prefix_take_left (l := calls) hij
  rw [← hbetween, ← List.append_assoc] at hanswer'
  refine ⟨written name between, ?_⟩
  rw [hreply', hanswer'.whole name hlaterAll (hmade.append between), written_append]

/-- After any calls to an empty store, its collections are those that a call made, each the batches
inserted under its name. Every reply is told by the calls before it; what reads, fails or creates
again leaves the store as it is; and what was read of a collection begins all that is read later. -/
theorem run_tells_history (calls : List StoreCall) :
    (∀ name, (run {} calls).1.collections.get? name =
      if Made name calls then some (written name calls) else none) ∧
    ((run {} calls).2.length = calls.length ∧ ∀ i call, calls[i]? = some call →
      ∃ reply, (run {} calls).2[i]? = some reply ∧ Answered (calls.take i) call reply) ∧
    (∀ call, Changeless (run {} calls).1 calls call →
      (run {} (calls ++ [call])).1 = (run {} calls).1) ∧
    ∀ (name : String) (i j : Nat) (first later : StoreCall) (docs : List Document), i ≤ j →
      calls[i]? = some first → calls[j]? = some later → first.ReadsAll name →
        later.ReadsAll name → (run {} calls).2[i]? = some (.documents docs) →
          ∃ more, (run {} calls).2[j]? = some (.documents (docs ++ more)) := by
  have hrecords : (run {} calls).1.Records calls := records_empty.run calls
  refine ⟨hrecords, ⟨length_replies {} calls, ?_⟩, ?_, ?_⟩
  · intro i call hcall
    exact records_empty.replies hcall
  · intro call hcall
    rw [run_concat]
    exact hrecords.step_of_changeless hcall
  · intro name i j first later docs hij hfirst hlater hfirstAll hlaterAll hdocs
    exact records_empty.readings hij hfirst hlater hfirstAll hlaterAll hdocs

def twoCollections : List StoreCall :=
  [.create "red", .insert "fearless" [[("song", .string "Fifteen")]],
    .insert "red" [[("song", .string "Red")]], .find "red" {} .simple, .create "red",
    .insert "red" [[("song", .string "22")], []], .aggregate "red" [] .caseInsensitive,
    .count "lover"]

theorem run_tells_history_red :
    (run {} twoCollections).1.collections.get? "red" =
      some [[("song", .string "Red")], [("song", .string "22")], []] ∧
    (run {} (twoCollections ++ [.create "red"])).1 = (run {} twoCollections).1 ∧
    ∃ more, (run {} twoCollections).2[6]? =
      some (.documents ([[("song", .string "Red")]] ++ more)) := by
  have hmade : Made "red" twoCollections := by decide
  obtain ⟨hcontents, -, hsame, hreadings⟩ := run_tells_history twoCollections
  refine ⟨?_, hsame _ (.remaking hmade), ?_⟩
  · rw [hcontents "red", if_pos hmade]
    rfl
  · exact hreadings "red" 3 6 _ _ _ (by decide) rfl rfl (.find .simple)
      (.aggregate .caseInsensitive) rfl

end Store

end Songbook
