import ApiCatalog.Record
import ApiCatalog.Violation

/-!
# Catalogs

The functions that passed the rules, in the order in which they were found, with
every violation that was recorded on the way.
-/

namespace ApiCatalog

/-- The signatures of a source tree and the violations found in it. -/
structure Catalog where
  /-- The source root, as it is shown. -/
  source : String := ""
  signatures : List Signature := []
  violations : List Violation := []
deriving DecidableEq, Repr

namespace Catalog

/-- Whether no rule was broken. -/
def ok (c : Catalog) : Bool :=
  c.violations.isEmpty

/-- The names of the catalogued functions. -/
def identifiers (c : Catalog) : List String :=
  c.signatures.map (·.ident)

/-- The violations of one function. -/
def violationsFor (c : Catalog) (ident : String) : List Violation :=
  c.violations.filter (·.identifier == ident)

end Catalog
end ApiCatalog
