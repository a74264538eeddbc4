import ApiCatalog.Text.Blank
import ApiCatalog.Value

/-!
# Checked fields

A structured value is read from a table field by field. Every field is looked at
even when an earlier one is wrong, and the errors come in the order of the
fields, each with the steps that lead to it. That is what the applicative
structure of `Checked` says: two checks side by side keep the errors of both.

The rules for single fields follow: which values count as a text, a truth value,
an integer, a list, one of a few words.
-/

namespace ApiCatalog

/-- One step into a value: a field of a table or an item of a list. -/
inductive FieldStep where
  | field (name : String)
  | item (index : Nat)
deriving DecidableEq, Repr

/-- Why a field was refused. -/
inductive FieldCause where
  | missing
  | notText
  | notBool
  | unknownBool
  | notInt
  | unknownInt
  | fraction
  | notList
  | notSet
  | notPath
  /-- A table was expected, for the structure of this name. -/
  | notTable (structureName : String)
  /-- One of these words was expected. -/
  | notChoice (choices : List String)
  /-- The list of source suffixes is empty. -/
  | noSuffix
deriving DecidableEq, Repr

/-- A refused field: where it is, why, and what was there. -/
structure FieldError where
  steps : List FieldStep
  cause : FieldCause
  input : Value
deriving Repr

namespace FieldCause

/-- The words `'a', 'b' or 'c'`. -/
def alternatives : List String → String
  | [] => ""
  | [a] => "'" ++ a ++ "'"
  | [a, b] => "'" ++ a ++ "' or '" ++ b ++ "'"
  | a :: rest => "'" ++ a ++ "', " ++ alternatives rest

/-- The short name of a cause. -/
def code : FieldCause → String
  | .missing => "missing"
  | .notText => "string_type"
  | .notBool => "bool_type"
  | .unknownBool => "bool_parsing"
  | .notInt => "int_type"
  | .unknownInt => "int_parsing"
  | .fraction => "int_from_float"
  | .notList => "list_type"
  | .notSet => "set_type"
  | .notPath => "path_type"
  | .notTable _ => "model_type"
  | .notChoice _ => "enum"
  | .noSuffix => "value_error"

/-- The wording of a cause. -/
def message : FieldCause → String
  | .missing => "Field required"
  | .notText => "Input should be a valid string"
  | .notBool => "Input should be a valid boolean"
  | .unknownBool =>
      "Input should be a valid boolean, unable to interpret input"
  | .notInt => "Input should be a valid integer"
  | .unknownInt =>
      "Input should be a valid integer, unable to parse string as an integer"
  | .fraction =>
      "Input should be a valid integer, got a number with a fractional part"
  | .notList => "Input should be a valid list"
  | .notSet => "Input should be a valid set"
  | .notPath => "Input is not a valid path for <class 'pathlib.Path'>"
  | .notTable name =>
      "Input should be a valid dictionary or instance of " ++ name
  | .notChoice choices => "Input should be " ++ alternatives choices
  | .noSuffix => "Value error, at least one source extension is required"

end FieldCause

/-- The result of a check: a value, or the errors that were found. -/
inductive Checked (α : Type) where
  | ok (a : α)
  | bad (errors : List FieldError)
deriving Repr

namespace Checked

/-- Applies a checked function; the errors of both sides are kept. -/
def seq {α β : Type} : Checked (α → β) → Checked α → Checked β
  | .ok f, .ok a => .ok (f a)
  | .ok _, .bad es => .bad es
  | .bad es, .ok _ => .bad es
  | .bad es, .bad es' => .bad (es ++ es')

instance : Applicative Checked where
  pure := .ok
  seq f a := seq f (a ())

/-- Puts a step in front of the place of every error. -/
def under {α : Type} (step : FieldStep) : Checked α → Checked α
  | .ok a => .ok a
  | .bad es => .bad (es.map fun e => { e with steps := step :: e.steps })

/-- Refuses a value for one cause. -/
def refuse {α : Type} (cause : FieldCause) (input : Value) : Checked α :=
  .bad [⟨[], cause, input⟩]

/-- The result as an exception. -/
def toExcept {α : Type} : Checked α → Except (List FieldError) α
  | .ok a => .ok a
  | .bad es => .error es

end Checked

namespace Field

/-- A field that has to be there. -/
def required {α : Type} (fields : List (String × Value)) (name : String)
    (check : Value → Checked α) : Checked α :=
  match fields.lookup name with
  | some v => (check v).under (.field name)
  | none => .bad [⟨[.field name], .missing, .table fields⟩]

/-- A field with a value for when it is not there. -/
def optional {α : Type} (fields : List (String × Value)) (name : String)
    (absent : α) (check : Value → Checked α) : Checked α :=
  match fields.lookup name with
  | some v => (check v).under (.field name)
  | none => .ok absent

/-- Lets `null` stand for no value. -/
def nullable {α : Type} (check : Value → Checked α) : Value → Checked (Option α)
  | .null => .ok none
  | v => some <$> check v

/-- Texts only. -/
def text : Value → Checked String
  | .text s => .ok s
  | v => .refuse .notText v

/-- The words that mean no, and those that mean yes. -/
def boolOfWord? (s : String) : Option Bool :=
  let word := String.ofList (s.toList.map Char.toLower)
  if ["0", "off", "f", "false", "n", "no"].contains word then some false
  else if ["1", "on", "t", "true", "y", "yes"].contains word then some true
  else none

/-- Whether an integer fits a signed word of 64 bits. -/
def fitsWord (n : Int) : Bool :=
  -0x8000000000000000 ≤ n && n < 0x8000000000000000

/-- Truth values, the numbers zero and one, and a few words in any case. -/
def bool : Value → Checked Bool
  | .bool b => .ok b
  | .int n =>
      if n == 0 then .ok false
      else if n == 1 then .ok true
      else if fitsWord n then .refuse .unknownBool (.int n)
      else .refuse .notBool (.int n)
  | .double x =>
      match x.toInt? with
      | some 0 => .ok false
      | some 1 => .ok true
      | _ => .refuse .notBool (.double x)
  | .text s =>
      match boolOfWord? s with
      | some b => .ok b
      | none => .refuse .unknownBool (.text s)
  | v => .refuse .notBool v

/-- Digits with single underscores between them, read from the left. -/
def digitsNumber? : Nat → List Char → Option Nat
  | n, [] => some n
  | n, '_' :: c :: rest =>
      if c.isDigit then digitsNumber? (10 * n + (c.toNat - 0x30)) rest else none
  | n, c :: rest =>
      if c.isDigit then digitsNumber? (10 * n + (c.toNat - 0x30)) rest else none

/-- A number without sign: digits, then perhaps a point and zeros. -/
def unsignedNumber? (cs : List Char) : Option Nat :=
  let whole := cs.takeWhile (· != '.')
  let part := cs.dropWhile (· != '.')
  match whole with
  | c :: rest =>
      if c.isDigit && part.tail.all (· == '0') then
        digitsNumber? (c.toNat - 0x30) rest
      else none
  | [] => none

/-- Blanks that may stand around a number: all but the four separators from
U+001C on. -/
def isMargin (c : Char) : Bool :=
  Text.isBlank c && !(0x1c ≤ c.toNat && c.toNat ≤ 0x1f)

/-- An integer written as a text, with blanks around it. -/
def intOfText? (s : String) : Option Int :=
  match Text.strip isMargin s.toList with
  | '+' :: rest => (unsignedNumber? rest).map Int.ofNat
  | '-' :: rest => (unsignedNumber? rest).map fun n => -(n : Int)
  | rest => (unsignedNumber? rest).map Int.ofNat

/-- Integers, truth values as one and zero, doubles without a fraction, and
integers written as texts. -/
def int : Value → Checked Int
  | .int n => .ok n
  | .bool b => .ok (if b then 1 else 0)
  | .double x =>
      match x.toInt? with
      | some n => .ok n
      | none => .refuse .fraction (.double x)
  | .text s =>
      match intOfText? s with
      | some n => .ok n
      | none => .refuse .unknownInt (.text s)
  | v => .refuse .notInt v

/-- Checks items from an index on. -/
def itemsFrom {α : Type} (check : Value → Checked α) :
    Nat → List Value → Checked (List α)
  | _, [] => .ok []
  | index, v :: rest =>
      List.cons <$> (check v).under (.item index) <*>
        itemsFrom check (index + 1) rest

/-- Lists whose items all pass a check. -/
def list {α : Type} (check : Value → Checked α) : Value → Checked (List α)
  | .list items => itemsFrom check 0 items
  | v => .refuse .notList v

/-- One of a few words, each with what it stands for. -/
def choice {α : Type} (choices : List (String × α)) (v : Value) : Checked α :=
  let refusal := .refuse (.notChoice (choices.map (·.1))) v
  match v with
  | .text s =>
      match choices.lookup s with
      | some a => .ok a
      | none => refusal
  | _ => refusal

/-- Tables, read as the structure of a given name. -/
def table {α : Type} (name : String)
    (check : List (String × Value) → Checked α) : Value → Checked α
  | .table fields => check fields
  | v => .refuse (.notTable name) v

end Field
end ApiCatalog
