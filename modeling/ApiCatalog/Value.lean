import ApiCatalog.Double
import ApiCatalog.Path
import ApiCatalog.Text.Quoted

/-!
# Plain values

What a settings file, a record file or a caller hands over before it is checked:
a value of one of a few kinds, with tables that keep the order of their keys.
-/

namespace ApiCatalog

/-- A day, a time of day, or both with an optional distance from UTC in
minutes. -/
inductive Moment where
  | date (year month day : Nat)
  | time (hour minute second micros : Nat)
  | dateTime (year month day hour minute second micros : Nat)
      (offset : Option Int)
deriving DecidableEq, Repr

/-- A plain value. -/
inductive Value where
  | null
  | bool (b : Bool)
  | int (n : Int)
  | double (x : Double)
  | text (s : String)
  | moment (m : Moment)
  | path (p : Path)
  | list (items : List Value)
  | table (fields : List (String × Value))
deriving Repr

namespace Moment

/-- The kind of a moment, as messages name it. -/
def kind : Moment → String
  | .date .. => "date"
  | .time .. => "time"
  | .dateTime .. => "datetime"

/-- Numbers with commas between them, without the zeros at the end of the last
two. -/
def numbers (front : List Nat) (second micros : Nat) : String :=
  let tail :=
    if micros != 0 then [second, micros]
    else if second != 0 then [second]
    else []
  String.intercalate ", " ((front ++ tail).map toString)

/-- A distance from UTC as messages show it; a negative one counts from the day
before. -/
def offsetText (minutes : Int) : String :=
  let seconds := minutes * 60
  let span :=
    if seconds < 0 then "days=-1, seconds=" ++ toString (seconds + 86400)
    else "seconds=" ++ toString seconds
  if minutes == 0 then "datetime.timezone.utc"
  else "datetime.timezone(datetime.timedelta(" ++ span ++ "))"

/-- A moment as messages show it. -/
def text : Moment → String
  | .date y mo d => "datetime.date(" ++ numbers [y, mo, d] 0 0 ++ ")"
  | .time h mi s us => "datetime.time(" ++ numbers [h, mi] s us ++ ")"
  | .dateTime y mo d h mi s us offset =>
      "datetime.datetime(" ++ numbers [y, mo, d, h, mi] s us ++
        (match offset with
          | none => ""
          | some minutes => ", tzinfo=" ++ offsetText minutes) ++ ")"

end Moment

namespace Value

/-- The kind of a value, as messages name it. -/
def kind : Value → String
  | .null => "NoneType"
  | .bool _ => "bool"
  | .int _ => "int"
  | .double _ => "float"
  | .text _ => "str"
  | .moment m => m.kind
  | .path _ => "PosixPath"
  | .list _ => "list"
  | .table _ => "dict"

/-- The kind of a value with the family that moments belong to. -/
def fullKind : Value → String
  | .moment m => "datetime." ++ m.kind
  | v => v.kind

mutual

/-- A value as messages show it. -/
def shown : Value → String
  | .null => "None"
  | .bool b => if b then "True" else "False"
  | .int n => toString n
  | .double x => x.text
  | .text s => Text.quoted s
  | .moment m => m.text
  | .path p => "PosixPath(" ++ Text.quoted p.text ++ ")"
  | .list items => "[" ++ String.intercalate ", " (shownItems items) ++ "]"
  | .table fields =>
      "\x7b" ++ String.intercalate ", " (shownFields fields) ++ "\x7d"

/-- The items of a list as messages show them. -/
def shownItems : List Value → List String
  | [] => []
  | v :: rest => v.shown :: shownItems rest

/-- The fields of a table as messages show them. -/
def shownFields : List (String × Value) → List String
  | [] => []
  | (key, v) :: rest =>
      (Text.quoted key ++ ": " ++ v.shown) :: shownFields rest

end

/-- The field of a table with a given key. -/
def field? (fields : List (String × Value)) (key : String) : Option Value :=
  fields.lookup key

end Value
end ApiCatalog
