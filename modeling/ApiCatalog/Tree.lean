import ApiCatalog.Text.Blank
import ApiCatalog.Text.Utf8

/-!
# Syntax trees

A node covers a span of bytes of the source. Trees come from a parser, but
nothing here relies on that: the flags and spans of a tree are taken as they
are, so every statement holds of every tree.
-/

namespace ApiCatalog

/-- A node of a syntax tree. -/
structure Node where
  /-- The sort of the node, by the names of the grammar. -/
  kind : String
  /-- The place of its first byte. -/
  start : Nat
  /-- The place after its last byte. -/
  stop : Nat
  /-- The line it starts on, counted from zero. -/
  row : Nat := 0
  /-- Whether it is a sort of its own and not a mark or keyword. -/
  named : Bool := true
  /-- Whether the parser put it in for something missing. -/
  missing : Bool := false
  /-- Whether there is an error at or below it. -/
  hasError : Bool := false
  /-- The part it plays in its parent. -/
  field : Option String := none
  children : List Node := []
deriving Repr

namespace Node

/-- The bytes that a node covers; a span past the end is cut, and one whose ends
are crossed is empty. -/
def bytes (source : List UInt8) (n : Node) : List UInt8 :=
  (source.drop n.start).take (n.stop - n.start)

/-- The text of a node with runs of blanks collapsed. -/
def text (source : List UInt8) (n : Node) : Except Text.Utf8.Fault String :=
  (Text.Utf8.decode (n.bytes source)).map Text.collapse

/-- The first child that plays a part. -/
def child? (n : Node) (field : String) : Option Node :=
  n.children.find? (·.field == some field)

/-- The children with a sort of their own. -/
def namedChildren (n : Node) : List Node :=
  n.children.filter (·.named)

/-- Whether a node marks a place where the source makes no sense. -/
def isError (n : Node) : Bool :=
  n.kind == "ERROR" || n.missing

/-- Whether a node is a comment. -/
def isComment (n : Node) : Bool :=
  n.kind == "line_comment" || n.kind == "block_comment"

/-- Whether a node is an attribute in front of an item. -/
def isAttribute (n : Node) : Bool :=
  n.kind == "attribute_item"

mutual

/-- The first error at or below a node. Only children that are flagged are
searched. -/
def firstError? : Node → Option Node
  | ⟨kind, start, stop, row, named, missing, hasError, field, children⟩ =>
      if kind == "ERROR" || missing then
        some ⟨kind, start, stop, row, named, missing, hasError, field, children⟩
      else firstErrorAmong? children

/-- The first error at or below some siblings. -/
def firstErrorAmong? : List Node → Option Node
  | [] => none
  | n :: rest =>
      let found := if n.hasError then n.firstError? else none
      match found with
      | some bad => some bad
      | none => firstErrorAmong? rest

end

end Node
end ApiCatalog
