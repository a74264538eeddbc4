import ApiCatalog.Text.Blank

/-!
# Paths

A path is the list of its names, with how it is anchored. No name is empty, is
`.` or holds a slash: when a text is read, such pieces do not arise or are
dropped, so a path has one spelling. `..` stays, since only a file system knows
where it leads. Any other character may stand in a name, the null character too.
-/

namespace ApiCatalog

/-- Where a path starts: at the working directory, at the root, or at the second
root that a text with exactly two leading slashes means. -/
inductive Anchor where
  | here
  | root
  | secondRoot
deriving DecidableEq, Repr

/-- The spelling of an anchor. -/
def Anchor.text : Anchor → String
  | .here => ""
  | .root => "/"
  | .secondRoot => "//"

/-- A name that can be part of a path. -/
def Path.IsPart (name : String) : Prop :=
  name ≠ "" ∧ name ≠ "." ∧ '/' ∉ name.toList

instance (name : String) : Decidable (Path.IsPart name) :=
  inferInstanceAs (Decidable (_ ∧ _))

/-- Names that can all be parts of a path. -/
def Path.AreParts (names : List String) : Prop :=
  ∀ name ∈ names, IsPart name

instance (names : List String) : Decidable (Path.AreParts names) :=
  List.decidableBAll Path.IsPart names

/-- A path as its anchor and its names. -/
@[ext]
structure Path where
  anchor : Anchor
  parts : List String
  proper : Path.AreParts parts := by decide
deriving DecidableEq, Repr

namespace Path

/-- The working directory. -/
def current : Path := .mk .here []

/-- The anchor that a number of leading slashes means. -/
def anchorOf : Nat → Anchor
  | 0 => .here
  | 2 => .secondRoot
  | _ => .root

/-- The names in a text, which stand between slashes. -/
def namesIn (cs : List Char) : List String :=
  ((Text.splitAt '/' cs).map String.ofList).filter fun name => name != "" && name != "."

theorem areParts_namesIn (cs : List Char) : AreParts (namesIn cs) := by
  intro name h
  rw [namesIn, List.mem_filter, Bool.and_eq_true, bne_iff_ne, bne_iff_ne] at h
  obtain ⟨hmem, hempty, hdot⟩ := h
  obtain ⟨piece, hpiece, rfl⟩ := List.mem_map.mp hmem
  refine ⟨hempty, hdot, ?_⟩
  rw [String.toList_ofList]
  exact Text.not_mem_of_mem_splitAt hpiece

/-- Reads a path. -/
def parse (s : String) : Path where
  anchor := anchorOf (s.toList.takeWhile (· == '/')).length
  parts := namesIn s.toList
  proper := areParts_namesIn s.toList

/-- The one spelling of a path. -/
def text (p : Path) : String :=
  if p.anchor == .here && p.parts.isEmpty then "."
  else p.anchor.text ++ String.intercalate "/" p.parts

/-- Whether a path does not depend on the working directory. -/
def isAbsolute (p : Path) : Bool :=
  p.anchor != .here

/-- The path of the first names. -/
def front (p : Path) (count : Nat) : Path where
  anchor := p.anchor
  parts := p.parts.take count
  proper name h := p.proper name (List.mem_of_mem_take h)

/-- The path one name shorter; a path without names is its own parent. -/
def parent (p : Path) : Path where
  anchor := p.anchor
  parts := p.parts.dropLast
  proper name h := p.proper name (List.dropLast_subset _ h)

/-- The paths got by dropping one name, two names, and so on. -/
def parents (p : Path) : List Path :=
  (List.range p.parts.length).map fun n => p.front (p.parts.length - 1 - n)

/-- A path with the names of another one behind its own. -/
def append (p q : Path) : Path where
  anchor := p.anchor
  parts := p.parts ++ q.parts
  proper name h := (List.mem_append.mp h).elim (p.proper name) (q.proper name)

/-- A path below another; an absolute one stands alone. -/
def join (p q : Path) : Path :=
  if q.isAbsolute then q else p.append q

/-- The last name of a path. -/
def name (p : Path) : String :=
  p.parts.getLast?.getD ""

/-- The end of a name from its last dot on, provided that the dot is neither the
first nor the last character. -/
def suffixOf (name : String) : String :=
  let cs := name.toList
  let tail := (cs.reverse.takeWhile (· != '.')).reverse
  if tail.isEmpty || cs.length < tail.length + 2 then ""
  else String.ofList ('.' :: tail)

/-- The suffix of a path's last name. -/
def suffix (p : Path) : String :=
  suffixOf p.name

/-- The rest of a path below a base, if the base is a beginning of it. -/
def relativeTo? (p base : Path) : Option Path :=
  if p.anchor == base.anchor && base.parts.isPrefixOf p.parts then
    some
      { anchor := .here
        parts := p.parts.drop base.parts.length
        proper := fun name h => p.proper name (List.mem_of_mem_drop h) }
  else none

end Path
end ApiCatalog
