/-!
# Faults of a request

What the request language cannot accept. The message of a fault is shown to the client.
-/

namespace Songbook

inductive RequestError where
  | duplicated (keyword : String)
  | notANumber (keyword : String)
  | multipleValues (field : String)
  | malformedQuestion (value : String)
  | unsupportedOperator (field operator : String)
  deriving DecidableEq

def RequestError.message : RequestError → String
  | duplicated keyword => s!"Duplicated value for {keyword}, please check your query"
  | notANumber keyword => s!"{keyword} value is not a number, please check your query"
  | multipleValues field => s!"{field} cannot have multiple value, please check your query"
  | malformedQuestion value => s!"question '{value}' is malformed, expected name or name(param)"
  | unsupportedOperator field operator =>
    s!"{field} has unsupported operator '{operator}', please check your query"

end Songbook
