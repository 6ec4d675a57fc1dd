import Songbook.Store.Stage

/-!
# The store

Named collections of documents. Documents are only ever added, at the end of a collection.
-/

namespace Songbook

structure Search where
  filter : Option Condition := none
  sort : List SortKey := []
  skip : Option UInt64 := none
  limit : Option UInt64 := none

def Search.run (collation : Collation) (search : Search) (docs : List Document) : List Document :=
  let selected := docs.filter fun doc => search.filter.all (·.holds collation doc)
  window search.skip search.limit (sortDocuments collation search.sort selected)

structure Store where
  collections : Entries (List Document) := []

namespace Store

def collection (name : String) (store : Store) : Except StoreError (List Document) :=
  match store.collections.get? name with
  | some docs => .ok docs
  | none => .error (.collectionNotFound name)

/-- Makes a collection that holds nothing; one that is there stays as it is. -/
def create (name : String) (store : Store) : Store :=
  ⟨store.collections.alter name (·.getD [])⟩

def insert (name : String) (docs : List Document) (store : Store) : Store :=
  ⟨store.collections.alter name (·.getD [] ++ docs)⟩

def count (name : String) (store : Store) : Except StoreError Nat :=
  (store.collection name).map List.length

def find (name : String) (search : Search) (collation : Collation) (store : Store) :
    Except StoreError (List Document) :=
  (store.collection name).map (search.run collation)

def aggregate (name : String) (stages : List Stage) (collation : Collation) (store : Store) :
    Except StoreError (List Document) :=
  store.collection name >>= Stage.runAll collation stages

end Store

inductive StoreCall where
  | create (name : String)
  | insert (name : String) (docs : List Document)
  | count (name : String)
  | find (name : String) (search : Search) (collation : Collation)
  | aggregate (name : String) (stages : List Stage) (collation : Collation)

inductive StoreReply where
  | created
  | inserted (count : Nat)
  | counted (count : Nat)
  | documents (docs : List Document)
  | failed (error : StoreError)

namespace Store

def answer {α : Type} (reply : α → StoreReply) : Except StoreError α → StoreReply
  | .ok a => reply a
  | .error e => .failed e

def step (store : Store) : StoreCall → Store × StoreReply
  | .create name => (store.create name, .created)
  | .insert name docs => (store.insert name docs, .inserted docs.length)
  | .count name => (store, answer .counted (store.count name))
  | .find name search collation => (store, answer .documents (store.find name search collation))
  | .aggregate name stages collation =>
    (store, answer .documents (store.aggregate name stages collation))

def run (store : Store) : List StoreCall → Store × List StoreReply
  | [] => (store, [])
  | call :: calls =>
    let (next, reply) := store.step call
    let (last, replies) := run next calls
    (last, reply :: replies)

end Store

end Songbook
