import ApiCatalog.Rust.Token
import ApiCatalog.Tree

/-!
# Reading tokens

A parser takes tokens from the front and either gives a result with the tokens
that are left, or stops at a token that makes no sense. Groups in brackets are
skipped as a whole wherever their contents do not matter; brackets have to match.
-/

namespace ApiCatalog.Rust

/-- The tokens that are left, and where the last one ended. -/
structure Cursor where
  tokens : List Token
  stop : Nat := 0

/-- The token at which reading stopped; none at the end of the source. -/
abbrev Refusal := Option Token

/-- A reader of tokens. -/
abbrev Parser := StateT Cursor (Except Refusal)

namespace Parser

/-- Stops at the token in front. -/
def refuse {α : Type} : Parser α :=
  fun c => .error c.tokens.head?

/-- The tokens that are left. -/
def ahead : Parser (List Token) :=
  fun c => .ok (c.tokens, c)

/-- The token in front; there has to be one. -/
def peek : Parser Token :=
  fun c =>
    match c.tokens with
    | [] => .error none
    | t :: _ => .ok (t, c)

/-- Takes the token in front. -/
def next : Parser Token :=
  fun c =>
    match c.tokens with
    | [] => .error none
    | t :: rest => .ok (t, ⟨rest, t.stop⟩)

/-- Takes the token in front if it passes a test. -/
def satisfy (test : Token → Bool) : Parser Token := do
  if test (← peek) then next else refuse

/-- Whether the token in front passes a test. -/
def at? (test : Token → Bool) : Parser Bool := do
  return ((← ahead).head?.map test).getD false

/-- Takes a mark. -/
def mark (text : String) : Parser Token :=
  satisfy (·.isMark text)

/-- Takes a certain word. -/
def keyword (text : String) : Parser Token :=
  satisfy (·.isWord text)

/-- Takes any word. -/
def word : Parser Token :=
  satisfy (·.kind == .word)

/-- Whether a mark is in front. -/
def atMark (text : String) : Parser Bool :=
  at? (·.isMark text)

/-- Whether a certain word is in front. -/
def atWord (text : String) : Parser Bool :=
  at? (·.isWord text)

/-- Takes a token if it passes a test, and says whether it did. -/
def accept (test : Token → Bool) : Parser Bool := do
  if ← at? test then
    let _ ← next
    return true
  else return false

/-- Takes a mark if it is in front. -/
def acceptMark (text : String) : Parser Bool :=
  accept (·.isMark text)

/-- Takes a certain word if it is in front. -/
def acceptWord (text : String) : Parser Bool :=
  accept (·.isWord text)

/-- The result of a reader if it succeeds; otherwise nothing is taken. -/
def attempt {α : Type} (p : Parser α) : Parser (Option α) :=
  fun c =>
    match p c with
    | .ok (a, c') => .ok (some a, c')
    | .error _ => .ok (none, c)

/-- Repeats a reader while a test holds of the token in front. Fuel is the number
of tokens. -/
def manyWhile {α : Type} (test : Token → Bool) (p : Parser α) :
    Nat → Parser (List α)
  | 0 => return []
  | fuel + 1 => do
      if ← at? test then
        let a ← p
        let rest ← manyWhile test p fuel
        return a :: rest
      else return []

/-- Items with commas between them and perhaps after the last one, up to and with
a closing mark. -/
def listUntil {α : Type} (closing : String) (p : Parser α) :
    Nat → Parser (List α)
  | 0 => refuse
  | fuel + 1 => do
      if ← acceptMark closing then return []
      else
        let a ← p
        if ← acceptMark "," then
          let rest ← listUntil closing p fuel
          return a :: rest
        else
          let _ ← mark closing
          return [a]

/-- The number of tokens that are left, and one more. -/
def fuel : Parser Nat := do
  return (← ahead).length + 1

/-! ## Groups -/

/-- The bracket that closes a token, if that opens a group. -/
def closingOf? (t : Token) : Option String :=
  if t.isMark "(" then some ")"
  else if t.isMark "[" then some "]"
  else if t.isMark "\x7b" then some "\x7d"
  else none

/-- Whether a token closes a group. -/
def isClosing (t : Token) : Bool :=
  t.isMark ")" || t.isMark "]" || t.isMark "\x7d"

/-- Skips tokens, with the brackets that have to close in `stack`, up to and with
the token that closes the last of them. -/
def closeGroups : List String → List Token → Except Refusal Cursor
  | _, [] => .error none
  | stack, t :: rest =>
      if t.kind == .invalid then .error (some t)
      else
        match closingOf? t with
        | some closing => closeGroups (closing :: stack) rest
        | none =>
            if isClosing t then
              match stack with
              | [] => .error (some t)
              | [closing] =>
                  if t.isMark closing then .ok ⟨rest, t.stop⟩
                  else .error (some t)
              | closing :: more =>
                  if t.isMark closing then closeGroups more rest
                  else .error (some t)
            else closeGroups stack rest

/-- Skips a group that a given bracket opens. -/
def group (opening : String) : Parser Unit :=
  fun c =>
    match c.tokens with
    | [] => .error none
    | t :: rest =>
        match closingOf? t with
        | some closing =>
            if t.isMark opening then
              (closeGroups [closing] rest).map fun c => ((), c)
            else .error (some t)
        | none => .error (some t)

/-- Whether a token opens a group. -/
def opensGroup (t : Token) : Bool :=
  (closingOf? t).isSome

/-- Skips one token, or a whole group. -/
def tokenTree : Parser Unit := do
  let t ← peek
  if opensGroup t then group t.text
  else if isClosing t || t.kind == .invalid then refuse
  else
    let _ ← next

/-- Skips token trees while a test holds of the token in front. -/
def skipWhile (test : Token → Bool) : Parser Unit := do
  let _ ← manyWhile test tokenTree (← fuel)

/-! ## Nodes -/

/-- The node of what a reader takes; the reader gives its kind and children. -/
def spanned (p : Parser (String × List Node)) : Parser Node := fun c =>
  match c.tokens with
  | [] => .error none
  | t :: _ =>
      match p c with
      | .error e => .error e
      | .ok ((kind, children), after) =>
          .ok ({ kind, start := t.start, stop := after.stop, row := t.row,
                 children }, after)

/-- The node of one token. -/
def leaf (kind : String) (t : Token) (named : Bool) : Node :=
  { kind, start := t.start, stop := t.stop, row := t.row, named }

/-- A node in a part of its parent. -/
def part (field : String) (n : Node) : Node :=
  { n with field := some field }

end Parser
end ApiCatalog.Rust
