/-!
# Clauses

A clause is a field, an operator and a value written in one text. The field runs up to the first
operator character, the operator is the longest one found there, and the value is the rest of the
line.
-/

namespace Songbook

inductive Relation where
  | eq
  | ne
  | gt
  | ge
  | lt
  | le
  deriving DecidableEq

inductive Operator where
  | relation (r : Relation)
  | other (token : String)
  deriving DecidableEq

def Relation.token : Relation → String
  | eq => "="
  | ne => "!="
  | gt => ">"
  | ge => ">="
  | lt => "<"
  | le => "<="

def Relation.ofToken? : String → Option Relation
  | "=" => some eq
  | "!=" => some ne
  | ">" => some gt
  | ">=" => some ge
  | "<" => some lt
  | "<=" => some le
  | _ => none

namespace Operator

def ofToken (token : String) : Operator :=
  match Relation.ofToken? token with
  | some r => relation r
  | none => other token

def token : Operator → String
  | relation r => r.token
  | other token => token

end Operator

structure Clause where
  field : String
  operator : Operator
  value : String
  deriving DecidableEq

namespace Clause

def isOperatorChar (c : Char) : Bool :=
  c = '>' || c = '<' || c = '!' || c = '='

def takeOperator : List Char → List Char × List Char
  | '>' :: '=' :: rest => (['>', '='], rest)
  | '<' :: '=' :: rest => (['<', '='], rest)
  | '!' :: '=' :: rest => (['!', '='], rest)
  | '>' :: rest => (['>'], rest)
  | '<' :: rest => (['<'], rest)
  | '=' :: rest => (['='], rest)
  | rest => ([], rest)

/-- Splits a clause; none without a field or with a line feed in the value. -/
def ofChars? (cs : List Char) : Option Clause :=
  let field := cs.takeWhile (!isOperatorChar ·)
  let (token, value) := takeOperator (cs.dropWhile (!isOperatorChar ·))
  if field.isEmpty || value.contains '\n' then none
  else some ⟨String.ofList field, .ofToken (String.ofList token), String.ofList value⟩

def read? (s : String) : Option Clause :=
  ofChars? s.toList

end Clause

end Songbook
