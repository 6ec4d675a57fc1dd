import Songbook.Request.Clause
import Songbook.Request.Error
import Songbook.Request.FieldType
import Songbook.Text.Pieces

/-!
# Filters

What a request asks of the values under some fields. A filter is kept in increasing order of its
fields, so that the order of the request's parameters leaves no trace.
-/

namespace Songbook

inductive Predicate where
  | compare (operator : Operator) (value : Value)
  | oneOf (values : List Value)
  | noneOf (values : List Value)

/-- At most one predicate for each field. -/
structure Filter where
  entries : Entries Predicate
  sorted : entries.Pairwise fun a b => Ord.compare a.1 b.1 = .lt

namespace Filter

def empty : Filter := ⟨[], .nil⟩

def place (field : String) (predicate : Predicate) : Entries Predicate → Entries Predicate
  | [] => [(field, predicate)]
  | (f, p) :: rest => match Ord.compare field f with
    | .lt => (field, predicate) :: (f, p) :: rest
    | .eq => (field, predicate) :: rest
    | .gt => (f, p) :: place field predicate rest

theorem fst_eq_or_mem_of_mem_place {field : String} {predicate : Predicate}
    {entries : Entries Predicate} {e : String × Predicate} (h : e ∈ place field predicate entries) :
    e.1 = field ∨ e ∈ entries := by
  induction entries with
  | nil => simp [place] at h; simp [h]
  | cons entry rest ih =>
    simp only [place] at h
    split at h
    · rcases List.mem_cons.1 h with rfl | h
      · exact .inl rfl
      · exact .inr h
    · rcases List.mem_cons.1 h with rfl | h
      · exact .inl rfl
      · exact .inr (List.mem_cons_of_mem _ h)
    · rcases List.mem_cons.1 h with rfl | h
      · exact .inr List.mem_cons_self
      · exact (ih h).imp_right (List.mem_cons_of_mem _)

theorem sorted_place {field : String} {predicate : Predicate} {entries : Entries Predicate}
    (h : entries.Pairwise fun a b => Ord.compare a.1 b.1 = .lt) :
    (place field predicate entries).Pairwise fun a b => Ord.compare a.1 b.1 = .lt := by
  induction entries with
  | nil => simp [place]
  | cons entry rest ih =>
    obtain ⟨f, p⟩ := entry
    rw [List.pairwise_cons] at h
    simp only [place]
    split
    next hlt =>
      refine List.pairwise_cons.2 ⟨fun e he => ?_, List.pairwise_cons.2 h⟩
      rcases List.mem_cons.1 he with rfl | he
      · exact hlt
      · exact Std.TransCmp.lt_trans hlt (h.1 e he)
    next heq =>
      rw [Std.compare_eq_iff_eq] at heq
      exact List.pairwise_cons.2 ⟨fun e he => heq ▸ h.1 e he, h.2⟩
    next hgt =>
      refine List.pairwise_cons.2 ⟨fun e he => ?_, ih h.2⟩
      rcases fst_eq_or_mem_of_mem_place he with he | he
      · exact he ▸ Std.OrientedCmp.gt_iff_lt.1 hgt
      · exact h.1 e he

def insert (field : String) (predicate : Predicate) (filter : Filter) : Filter :=
  ⟨place field predicate filter.entries, sorted_place filter.sorted⟩

def get? (field : String) (filter : Filter) : Option Predicate :=
  filter.entries.get? field

def ofList (pairs : List (String × Predicate)) : Filter :=
  pairs.foldl (fun filter pair => filter.insert pair.1 pair.2) empty

end Filter

/-- A comma makes a list for equality and its negation; for the other operators it belongs to the
value. -/
def Clause.predicate (types : FieldTypes) (field : String) (clause : Clause) : Predicate :=
  let read := fun part => FieldType.read (types.get? field) (Text.trim part)
  let parts := Text.pieces ',' clause.value
  match clause.operator, parts with
  | .relation .eq, _ :: _ :: _ => .oneOf (parts.map read)
  | .relation .ne, _ :: _ :: _ => .noneOf (parts.map read)
  | operator, _ => .compare operator (read clause.value)

namespace Filter

/-- The clause that a parameter spells. Splitting the parameters took an equals sign away from it;
it is put back where there is a value. -/
def clauseText (key value : String) : String :=
  if value.isEmpty then key else key ++ "=" ++ value

def addParam (types : FieldTypes) (filter : Filter) (param : String × List String) :
    Except RequestError Filter :=
  match param with
  | (key, [value]) => match Clause.read? (clauseText key value) with
    | none => .ok filter
    | some clause =>
      let field := Text.trim clause.field
      match filter.get? field with
      | some _ => .error (.multipleValues field)
      | none => .ok (filter.insert field (clause.predicate types field))
  | (key, _) => .error (.multipleValues key)

def ofParams (types : FieldTypes) (params : Entries (List String)) : Except RequestError Filter :=
  params.foldlM (addParam types) empty

end Filter

end Songbook
