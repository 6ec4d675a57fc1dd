import Songbook.Request.Descriptor
import Songbook.Catalog

/-!
# Plans

How a descriptor is answered: by a search or a pipeline over songs, or by the roll-up of songs into
one row for each album.
-/

namespace Songbook

/-- A text for the field `song` that ends in a percent sign stands for all texts that begin with
what precedes the sign. -/
def startOf? (field : String) : Value → Option String
  | .string s =>
    if field = "song" ∧ s.toList.getLast? = some '%' then
      some (String.ofList s.toList.dropLast)
    else none
  | _ => none

def Predicate.condition (field : String) : Predicate → Except RequestError Condition
  | oneOf values => .ok (.oneOf field values)
  | noneOf values => .ok (.noneOf field values)
  | compare (.other token) _ => .error (.unsupportedOperator field token)
  | compare (.relation .eq) value => match startOf? field value with
    | some start => .ok (.startsWith field start)
    | none => .ok (.compare .eq field value)
  | compare (.relation r) value => .ok (.compare r field value)

def Filter.condition (filter : Option Filter) : Except RequestError (Option Condition) :=
  match filter with
  | none => .ok none
  | some filter => do
    let conditions ← filter.entries.mapM fun (field, predicate) => predicate.condition field
    return Condition.every conditions

inductive Plan where
  | search (search : Search)
  | pipeline (stages : List Stage)

namespace Plan

def liftRequest {α : Type} : Except RequestError α → Except QueryError α
  | .ok a => .ok a
  | .error e => .error (.request e)

def windowStages (descriptor : Descriptor) : List Stage :=
  (descriptor.skip.map Stage.skip).toList ++ (descriptor.limit.map Stage.limit).toList

/-- A question replaces the filter and the order of the descriptor, not its window. -/
def forSongs (catalog : Catalog) (descriptor : Descriptor) : Except QueryError Plan :=
  match descriptor.question with
  | none => do
    let filter ← liftRequest (Filter.condition descriptor.filter)
    return .search ⟨filter, descriptor.sort.getD [], descriptor.skip, descriptor.limit⟩
  | some question => do
    match ← catalog.lookup question.name question.param with
    | .search filter sort => return .search ⟨filter, sort, descriptor.skip, descriptor.limit⟩
    | .pipeline stages => return .pipeline (stages ++ windowStages descriptor)

def album : String := "album"

def songCount : String := "song-count"

def songStages (catalog : Catalog) (descriptor : Descriptor) : Except QueryError (List Stage) :=
  match descriptor.question with
  | none => do
    let filter ← liftRequest (Filter.condition descriptor.filter)
    return (filter.map Stage.select).toList
  | some question => do
    match ← catalog.lookup question.name question.param with
    | .search filter _ => return (filter.map Stage.select).toList
    | .pipeline stages => return stages

/-- The summed field of a roll-up and its order. The first sort key names both, unless it is a
column that every row has; without one the largest sums of the default field come first. -/
def rollUpOrder (defaultField : String) : Option (List SortKey) → String × List SortKey
  | some (first :: _) =>
    if first.field = album then (defaultField, [first])
    else if first.field = songCount then (defaultField, [first, .asc album])
    else (first.field, [first, .asc album])
  | _ => (defaultField, [.desc defaultField, .asc album])

def rollUpStages (defaultField : String) (sort : Option (List SortKey)) : List Stage :=
  let (field, order) := rollUpOrder defaultField sort
  [.group ⟨album, [(songCount, .count), (field, .sum field)]⟩, .sort order,
    .project [album, songCount, field]]

def forAlbums (catalog : Catalog) (defaultField : String) (descriptor : Descriptor) :
    Except QueryError (List Stage) := do
  let stages ← songStages catalog descriptor
  return stages ++ rollUpStages defaultField descriptor.sort ++ windowStages descriptor

end Plan

end Songbook
