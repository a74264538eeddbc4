import ApiCatalog.Field

/-!
# Rules and violations

A candidate is judged by twelve rules. Each rule it breaks is recorded as a
violation: the rule, the function, and what is wrong.
-/

namespace ApiCatalog

/-- The rules a candidate can break. -/
inductive Rule where
  | notForeignAbi
  | isConst
  | isAsync
  | isUnsafe
  | hasVariadic
  | hasTypeParam
  | hasLifetimeParam
  | hasConstParam
  | missingInlineMarker
  | missingNoPanicMarker
  | unsupportedReturnType
  | unsupportedArgType
deriving DecidableEq, Repr

namespace Rule

/-- The name of a rule. -/
def name : Rule → String
  | .notForeignAbi => "NotForeignAbi"
  | .isConst => "IsConst"
  | .isAsync => "IsAsync"
  | .isUnsafe => "IsUnsafe"
  | .hasVariadic => "HasVariadic"
  | .hasTypeParam => "HasGenericTypeParam"
  | .hasLifetimeParam => "HasLifetimeParam"
  | .hasConstParam => "HasConstParam"
  | .missingInlineMarker => "MissingInlineMarker"
  | .missingNoPanicMarker => "MissingNoPanicMarker"
  | .unsupportedReturnType => "UnsupportedReturnType"
  | .unsupportedArgType => "UnsupportedArgType"

/-- Every rule, in the order in which they are checked. -/
def all : List Rule :=
  [.notForeignAbi, .isConst, .isAsync, .isUnsafe, .hasVariadic, .hasTypeParam,
    .hasLifetimeParam, .hasConstParam, .missingInlineMarker,
    .missingNoPanicMarker, .unsupportedReturnType, .unsupportedArgType]

/-- Every rule with its name. -/
def names : List (String × Rule) :=
  all.map fun rule => (rule.name, rule)

end Rule

/-- One broken rule. -/
structure Violation where
  rule : Rule
  identifier : String
  message : String
deriving DecidableEq, Repr

namespace Violation

/-- The line that reports a violation. -/
def render (v : Violation) : String :=
  "[error]: Function \"" ++ v.identifier ++ "\" " ++ v.message

/-- Reads a violation from its fields. -/
def ofFields (fields : List (String × Value)) : Checked Violation :=
  Violation.mk
    <$> Field.required fields "kind" (Field.choice Rule.names)
    <*> Field.required fields "identifier" Field.text
    <*> Field.required fields "message" Field.text

end Violation
end ApiCatalog
