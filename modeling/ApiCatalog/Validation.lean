import ApiCatalog.Candidate
import ApiCatalog.Catalog
import ApiCatalog.Event
import ApiCatalog.Failure

/-!
# Validation

Every rule is checked for every candidate, so all that is wrong with a
declaration is reported at once. A candidate with a violation stays out of the
catalog; under the lenient policy being `unsafe` alone does not count.
-/

namespace ApiCatalog

/-- The attribute texts of a candidate with commas between them; markers are
searched in this text. -/
def Candidate.attrText (c : Candidate) : List Char :=
  Text.join [','] (c.attrs.map String.toList)

namespace Validation

/-- The violation of a rule with its message, if the rule is broken. -/
def violate (c : Candidate) (rule : Rule) (broken : Bool) (message : String) :
    List Violation :=
  if broken then [⟨rule, c.ident, message⟩] else []

/-- Violations of the rule on the ABI. -/
def checkAbi (s : Settings) (c : Candidate) : List Violation :=
  violate c .notForeignAbi (c.linkage != some s.foreignAbi)
    ("not `extern \"" ++ s.foreignAbi ++ "\"`")

/-- Violations of the rules on qualifiers. -/
def checkQualifiers (c : Candidate) : List Violation :=
  violate c .isConst c.qualifiers.isConst "is const" ++
    violate c .isAsync c.qualifiers.isAsync "is async" ++
    violate c .isUnsafe c.qualifiers.isUnsafe "is unsafe"

/-- Violations of the rule on variadic parameters. -/
def checkVariadic (c : Candidate) : List Violation :=
  match c.variadic with
  | none => []
  | some text =>
      violate c .hasVariadic true
        ("contains variadic arguments \"" ++ text ++ "\"")

/-- Violations of the rules on generic parameters. -/
def checkGenerics (c : Candidate) : List Violation :=
  let g := c.generics
  let contains := fun (sort : String) =>
    "contains " ++ sort ++ " parameters \"" ++ g.text ++ "\""
  violate c .hasTypeParam (g.typeParams != 0) (contains "generic") ++
    violate c .hasLifetimeParam (g.lifetimeParams != 0) (contains "lifetime") ++
    violate c .hasConstParam (g.constParams != 0) (contains "const")

/-- Violations of the rules on markers. A candidate without attributes has no
inline marker, whatever the marker is. -/
def checkMarkers (s : Settings) (c : Candidate) : List Violation :=
  let lacks := fun (marker : String) => !Text.occursIn marker.toList c.attrText
  let missing := fun (marker : String) =>
    "missing `#[" ++ marker ++ "]` attribute"
  violate c .missingInlineMarker (c.attrs.isEmpty || lacks s.inlineMarker)
      (missing s.inlineMarker) ++
    violate c .missingNoPanicMarker (lacks s.noPanicMarker)
      (missing s.noPanicMarker)

/-- Violations of the rule on the result type. -/
def checkReturn (c : Candidate) : List Violation :=
  match c.ret with
  | none => []
  | some t =>
      violate c .unsupportedReturnType (!t.isAdmitted)
        ("returns unsupported type -> " ++ t.text)

/-- Violations of the rule on argument types, one for every bad argument. -/
def checkParams (c : Candidate) : List Violation :=
  c.params.flatMap fun t =>
    violate c .unsupportedArgType (!t.isAdmitted)
      ("takes unsupported argument type " ++ t.text)

/-- All violations of a candidate. -/
def check (s : Settings) (c : Candidate) : List Violation :=
  checkAbi s c ++ checkQualifiers c ++ checkVariadic c ++ checkGenerics c ++
    checkMarkers s c ++ checkReturn c ++ checkParams c

/-- Whether violations keep a candidate out of the catalog. -/
def isExcluded (policy : UnsafePolicy) (violations : List Violation) : Bool :=
  match policy with
  | .warn => violations.any (·.rule != .isUnsafe)
  | .exclude => !violations.isEmpty

/-- The signature of a candidate with a name. -/
def signature? (c : Candidate) : Option Signature :=
  (apiKind? c.ident).map fun kind =>
    { ident := c.ident
      apiKind := kind
      argTypes := c.params.map (·.text)
      retType := c.ret.map (·.text) }

/-- Reports violations on the diagnostic stream. -/
def report (violations : List Violation) : Run Failure Unit :=
  ⟨violations.map fun v => .diagnostic v.render, .ok ()⟩

/-- Judges one candidate: its signature unless it is left out. -/
def judge (s : Settings) (reporting : Bool) (c : Candidate) :
    Run Failure (Option Signature) := do
  let violations := check s c
  if reporting then report violations
  if isExcluded s.unsafePolicy violations then
    Run.log .debug ("Excluded " ++ c.ident ++ ": " ++
      Text.quotedList (violations.map (·.rule.name)))
    return none
  else
    match signature? c with
    | none => Run.fail .emptyIdentifier
    | some signature => return some signature

/-- Judges candidates in order: the signatures and all violations. -/
def judgeAll (s : Settings) (reporting : Bool) :
    List Candidate → Run Failure (List Signature × List Violation)
  | [] => return ([], [])
  | c :: rest => do
      let signature ← judge s reporting c
      let (signatures, violations) ← judgeAll s reporting rest
      return (signature.toList ++ signatures, check s c ++ violations)

/-- The catalog of some candidates. Whether violations are reported can be said
apart from the settings. -/
def validate (s : Settings) (reporting : Option Bool) (source : String)
    (candidates : List Candidate) : Run Failure Catalog := do
  let (signatures, violations) ←
    judgeAll s (reporting.getD s.reportDiagnostics) candidates
  Run.log .info ("Validated " ++ toString signatures.length ++
    " signatures, " ++ toString violations.length ++ " errors recorded")
  return { source, signatures, violations }

end Validation
end ApiCatalog
