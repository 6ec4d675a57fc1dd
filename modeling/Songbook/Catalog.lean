import Songbook.QueryError
import Songbook.Sorting
import Songbook.Store.Basic
import Songbook.Text.Quoted

/-!
# Catalog of questions

Queries that a request asks for by name. A name is registered in its lower-cased form, as every
parameter of a request is.
-/

namespace Songbook

inductive Recipe where
  | search (filter : Option Condition) (sort : List SortKey)
  | pipeline (stages : List Stage)

structure Catalog where
  questions : Entries (Option String → Recipe) := []

namespace Catalog

def register (name : String) (question : Option String → Recipe) (catalog : Catalog) : Catalog :=
  ⟨catalog.questions.insert (Text.lower name) question⟩

def lookup (catalog : Catalog) (name : String) (param : Option String) :
    Except QueryError Recipe :=
  match catalog.questions.get? name with
  | some question => .ok (question param)
  | none => .error (.unknownQuestion name)

def names (catalog : Catalog) : List String :=
  Sorting.stableSort (fun a b => (compare a b).isLE) catalog.questions.keys

def describe (catalog : Catalog) : String :=
  let names := ", ".intercalate (catalog.names.map Text.quote)
  "QuestionCatalog \x7b questions: [" ++ names ++ "] \x7d"

def title (param : Option String) : Recipe :=
  .search (some (.startsWith "song" (param.getD ""))) []

def trending (_param : Option String) : Recipe :=
  .pipeline [.addFields [("trend", .minus (.field "plays-august") (.field "plays-july"))],
    .sort [.desc "trend"]]

def builtin : Catalog :=
  (({} : Catalog).register "title" title).register "trending" trending

end Catalog

end Songbook
