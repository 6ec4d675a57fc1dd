import Songbook.Request.Filter
import Songbook.Request.Params
import Songbook.Request.SortKey

/-!
# Descriptors

What a request asks for: a window, an order, a filter and a named question, each of which may be
absent.
-/

namespace Songbook

structure Question where
  name : String
  param : Option String
  deriving DecidableEq

namespace Question

/-- A name without an opening parenthesis; then nothing, or a parameter between parentheses that
holds no closing one. -/
def ofChars? (cs : List Char) : Option Question :=
  let name := cs.takeWhile (· != '(')
  if name.isEmpty then none
  else match cs.dropWhile (· != '(') with
    | [] => some ⟨String.ofList name, none⟩
    | _ :: inner =>
      let param := inner.takeWhile (· != ')')
      if inner.dropWhile (· != ')') = [')'] ∧ param ≠ [] then
        some ⟨String.ofList name, some (String.ofList param)⟩
      else none

def read? (s : String) : Option Question :=
  ofChars? s.toList

def write (q : Question) : String :=
  match q.param with
  | none => q.name
  | some param => q.name ++ "(" ++ param ++ ")"

end Question

structure Descriptor where
  skip : Option UInt64 := none
  limit : Option UInt64 := none
  sort : Option (List SortKey) := none
  filter : Option Filter := none
  question : Option Question := none

namespace Descriptor

def keywords : List String := ["sort", "skip", "limit", "question"]

def single (params : Params) (keyword : String) : Except RequestError (Option String) :=
  match params.get? keyword with
  | none => .ok none
  | some [value] => .ok (some value)
  | some _ => .error (.duplicated keyword)

/-- Reads a natural number of at most `2 ^ 64`, through the nearest double; zero is no count. -/
def readCount (keyword raw : String) : Except RequestError (Option UInt64) :=
  let cs := Text.trimChars raw.toList
  if cs.isEmpty then .ok none
  else match (Number.readDouble? cs).bind Double.toNat? with
    | none => .error (.notANumber keyword)
    | some n =>
      if n = 0 then .ok none
      else if n ≤ Number.wordLimit then
        .ok (some (UInt64.ofNat (min n (Number.wordLimit - 1))))
      else .error (.notANumber keyword)

def countOf (params : Params) (keyword : String) : Except RequestError (Option UInt64) := do
  match ← single params keyword with
  | none => return none
  | some raw => readCount keyword raw

def sortOf (params : Params) : Option (List SortKey) :=
  match SortKey.ofValues ((params.get? "sort").getD []) with
  | [] => none
  | keys => some keys

def filterOf (types : FieldTypes) (params : Params) : Except RequestError (Option Filter) :=
  match params.entries.filter fun entry => !keywords.contains entry.1 with
  | [] => .ok none
  | entries => (Filter.ofParams types entries).map some

def questionOf (params : Params) : Except RequestError (Option Question) := do
  match ← single params "question" with
  | none => return none
  | some raw =>
    if raw.isEmpty then return none
    else match Question.read? raw with
      | some question => return some question
      | none => throw (.malformedQuestion raw)

/-- Reads the parameters of a request. Of several faults the one of the limit is told first, then
those of skip, filter and question. -/
def ofParams (types : FieldTypes) (params : Params) : Except RequestError Descriptor := do
  let limit ← countOf params "limit"
  let skip ← countOf params "skip"
  let filter ← filterOf types params
  let question ← questionOf params
  return { skip, limit, sort := sortOf params, filter, question }

end Descriptor

end Songbook
