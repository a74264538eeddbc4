/-!
# Code point order

File paths, ignored names and the names in a strict-mode message are all shown
in the order of their code points. Sorting is by insertion, which is stable and
structural; a set of names is kept as its strictly increasing list, so two equal
sets are equal lists.
-/

namespace ApiCatalog.Text

/-- Whether the first text comes strictly before the second. -/
def before : List Char → List Char → Bool
  | [], [] => false
  | [], _ :: _ => true
  | _ :: _, [] => false
  | a :: as, b :: bs => a.toNat < b.toNat || (a == b && before as bs)

/-- Places an element in front of the first one whose key is not smaller. -/
def insertBy {α : Type} (key : α → String) (a : α) : List α → List α
  | [] => [a]
  | b :: bs =>
      if before (key b).toList (key a).toList then b :: insertBy key a bs
      else a :: b :: bs

/-- The elements in the order of their keys; equal keys keep their order. -/
def sortBy {α : Type} (key : α → String) (xs : List α) : List α :=
  xs.foldr (insertBy key) []

/-- Adds a name to a strictly increasing list unless it is there. -/
def insertName (a : String) : List String → List String
  | [] => [a]
  | b :: bs =>
      if a == b then b :: bs
      else if before a.toList b.toList then a :: b :: bs
      else b :: insertName a bs

/-- The different names of a list, strictly increasing. -/
def nameSet (xs : List String) : List String :=
  xs.foldr insertName []

end ApiCatalog.Text
