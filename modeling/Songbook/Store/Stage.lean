import Songbook.Store.Condition
import Songbook.Store.Formula
import Songbook.Store.Grouping
import Songbook.Store.Ordering

/-!
# Pipelines

Documents pass through stages one after the other.
-/

namespace Songbook

inductive Stage where
  | select (condition : Condition)
  | addFields (fields : List (String × Formula))
  | group (grouping : Grouping)
  | sort (keys : List SortKey)
  | project (fields : List String)
  | skip (count : UInt64)
  | limit (count : UInt64)

/-- Stores computed fields; a formula sees the fields computed before it. -/
def Document.addFields (fields : List (String × Formula)) (doc : Document) :
    Except StoreError Document :=
  fields.foldlM (fun doc field => return doc.insert field.1 (← field.2.eval doc)) doc

def Document.project (fields : List String) (doc : Document) : Document :=
  Entries.ofList (fields.filterMap fun field => (doc.get? field).map (field, ·))

namespace Stage

def run (collation : Collation) (docs : List Document) : Stage → Except StoreError (List Document)
  | select condition => .ok (docs.filter (condition.holds collation))
  | addFields fields => docs.mapM (Document.addFields fields)
  | group grouping => .ok (grouping.run collation docs)
  | sort keys => .ok (sortDocuments collation keys docs)
  | project fields => .ok (docs.map (Document.project fields))
  | skip count => .ok (window (some count) none docs)
  | limit count => .ok (window none (some count) docs)

def runAll (collation : Collation) (stages : List Stage) (docs : List Document) :
    Except StoreError (List Document) :=
  stages.foldlM (run collation) docs

end Stage

end Songbook
