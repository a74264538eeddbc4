import ApiCatalog.CommandLine.Options
import ApiCatalog.Text.Digit

/-!
# Reading command lines

First every word is sorted: after `--` all words are arguments, and before it a
word with a dash is an option, perhaps abbreviated, perhaps with a value behind
an equals sign, perhaps several short options in one. Then the words are read
from the left: an option takes its value, the first argument is the root, and
what is left over is not recognized.
-/

namespace ApiCatalog.CommandLine

/-- Why reading stops before the end. -/
inductive Halt where
  /-- Help was asked for. -/
  | help
  | usage (e : UsageError)
deriving DecidableEq, Repr

/-! ## Sorting words -/

/-- An option as it was written. -/
structure Occurrence where
  name : OptionName
  /-- Whether it was written with one dash. -/
  short : Bool
  /-- The value in the same word. -/
  value : Option String
  /-- Whether an equals sign stands in front of the value. -/
  equals : Bool
deriving DecidableEq, Repr

/-- What a word is. -/
inductive Word where
  | argument (text : String)
  /-- The word `--`. -/
  | separator
  /-- An option, or a word that looks like one. -/
  | option (text : String) (occurrence : Option Occurrence)
deriving DecidableEq, Repr

/-- The word as it was written. -/
def Word.text : Word → String
  | .argument text => text
  | .separator => "--"
  | .option text _ => text

/-- Whether a word is an option. -/
def Word.isOption : Word → Bool
  | .option .. => true
  | _ => false

/-- A word cut at its first equals sign. -/
def cutAtEquals (word : String) : String × Option String :=
  let cs := word.toList
  let front := String.ofList (cs.takeWhile (· != '='))
  match cs.dropWhile (· != '=') with
  | [] => (front, none)
  | _ :: value => (front, some (String.ofList value))

/-- Whether a spelling has one dash. -/
def isShort (spelling : String) : Bool :=
  !(['-', '-'].isPrefixOf spelling.toList)

/-- The spellings that a word with two dashes may be short for. -/
def abbreviated (word : String) : List (String × Occurrence) :=
  let (front, value) := cutAtEquals word
  (spellingTable.filter fun entry =>
      front.toList.isPrefixOf entry.1.toList).map fun (spelling, name) =>
    (spelling, ⟨name, isShort spelling, value, true⟩)

/-- The short option that a word with one dash starts with; the rest of the word
goes with it. -/
def clustered (word : String) : List (String × Occurrence) :=
  let front := String.ofList (word.toList.take 2)
  let value := String.ofList (word.toList.drop 2)
  (spellingTable.filter fun entry => entry.1 == front).map
    fun (spelling, name) => (spelling, ⟨name, true, some value, false⟩)

/-- Whether a word is a negative number, which is an argument. The digits may be
those of any script, and one line feed may follow them. -/
def isNegativeNumber (word : String) : Bool :=
  match word.toList with
  | '-' :: rest =>
      let number := if rest.getLast? == some '\n' then rest.dropLast else rest
      match number.dropWhile Text.isDecimal with
      | [] => !number.isEmpty
      | '.' :: part => !part.isEmpty && part.all Text.isDecimal
      | _ => false
  | _ => false

/-- What a word with a dash means that is no exact spelling. -/
def sortUnknown (word : String) : Except UsageError Word :=
  let matching := if isShort word then clustered word else abbreviated word
  match matching with
  | [(_, occurrence)] => .ok (.option word (some occurrence))
  | [] =>
      if isNegativeNumber word || word.toList.contains ' ' then
        .ok (.argument word)
      else .ok (.option word none)
  | several => .error (.ambiguous word (several.map (·.1)))

/-- What a word in front of `--` means. -/
def sortWord (word : String) : Except UsageError Word :=
  if word.toList.head? != some '-' then .ok (.argument word)
  else
    match spellingTable.lookup word with
    | some name => .ok (.option word (some ⟨name, isShort word, none, false⟩))
    | none =>
        if word == "-" then .ok (.argument word)
        else
          match cutAtEquals word with
          | (front, some value) =>
              match spellingTable.lookup front with
              | some name =>
                  let occurrence := ⟨name, isShort front, some value, true⟩
                  .ok (.option word (some occurrence))
              | none => sortUnknown word
          | (_, none) => sortUnknown word

/-- What the words of a command line mean. -/
def sortWords : List String → Except UsageError (List Word)
  | [] => .ok []
  | word :: rest =>
      if word == "--" then .ok (.separator :: rest.map .argument)
      else do
        let first ← sortWord word
        let more ← sortWords rest
        return first :: more

/-! ## Reading options -/

/-- What was read so far. -/
structure Draft where
  /-- The options, whose root does not count yet. -/
  options : Options := { root := .current }
  root : Option String := none
  /-- Words that belong to nothing. -/
  extras : List String := []

/-- Sets an option without a value. -/
def setFlag (o : Options) : OptionName → Except Halt Options
  | .help => .error .help
  | .noConfig => .ok { o with noConfig := true }
  | .report => .ok { o with report := true }
  | .strict => .ok { o with strict := true }
  | .allowUnsafe => .ok { o with allowUnsafe := true }
  | .verbose => .ok { o with verbose := true }
  | _ => .ok o

/-- Sets an option to a value; suffixes add up, of other values the last one
counts. -/
def setValue (o : Options) (value : String) : OptionName → Except Halt Options
  | .ignore => .ok { o with ignore := some value }
  | .ext =>
      .ok { o with extensions := some (o.extensions.getD [] ++ [value]) }
  | .config => .ok { o with config := some (.parse value) }
  | .output => .ok { o with output := some (.parse value) }
  | .format =>
      if value == "toml" then .ok { o with format := .toml }
      else if value == "json" then .ok { o with format := .json }
      else .error (.usage (.unknownFormat value))
  | _ => .ok o

/-- What one word with options says. -/
structure Cluster where
  /-- The options without a value, in order. -/
  flags : List OptionName := []
  /-- The option at the end that takes a value, with the value if that is in the
  word too. -/
  last : Option (OptionName × Option String) := none
  /-- The rest of the word that belongs to nothing. -/
  extra : Option String := none

/-- An option by itself. -/
def Cluster.single (name : OptionName) : Cluster :=
  if name.takesValue then { last := some (name, none) } else { flags := [name] }

/-- A word with one more option in front. -/
def Cluster.after (c : Cluster) (name : OptionName) : Cluster :=
  { c with flags := name :: c.flags }

/-- Takes apart an option with the characters behind it. A short option without
a value shares its word with others; an equals sign or a dash cannot follow it. -/
def cluster (name : OptionName) (short equals : Bool) (value : List Char) :
    Except UsageError Cluster :=
  let unexpected := Except.error (.unexpectedValue name (String.ofList value))
  if name.takesValue then
    .ok { last := some (name, some (String.ofList value)) }
  else
    match value with
    | [] => unexpected
    | c :: rest =>
        if !short || equals || c == '-' then unexpected
        else
          match spellingTable.lookup (String.ofList ['-', c]) with
          | none =>
              .ok { flags := [name], extra := some (String.ofList ('-' :: value)) }
          | some other =>
              match rest with
              | [] => .ok ((Cluster.single other).after name)
              | '=' :: rest => (cluster other true true rest).map (·.after name)
              | d :: rest =>
                  (cluster other true false (d :: rest)).map (·.after name)

/-- Takes apart an option. -/
def Occurrence.cluster (o : Occurrence) : Except UsageError Cluster :=
  match o.value with
  | some value => CommandLine.cluster o.name o.short o.equals value.toList
  | none => .ok (.single o.name)

/-- Reads an option; the words after it may start with its value. -/
def readOption (draft : Draft) (o : Occurrence) (rest : List Word) :
    Except Halt (Draft × List Word) := do
  let c ← o.cluster.mapError Halt.usage
  let (value, rest) ←
    match c.last, rest with
    | none, rest => pure (none, rest)
    | some (name, some value), rest => pure (some (name, value), rest)
    | some (name, none), .argument value :: rest =>
        pure (some (name, value), rest)
    | some (name, none), _ => throw (Halt.usage (.missingValue name))
  let options ← c.flags.foldlM setFlag draft.options
  let options ←
    match value with
    | none => pure options
    | some (name, value) => setValue options value name
  return ({ draft with options, extras := draft.extras ++ c.extra.toList }, rest)

/-- Reads an argument in front of an option: the first one is the root. -/
def readArgument (draft : Draft) (text : String) : Draft :=
  match draft.root with
  | none => { draft with root := some text }
  | some _ => { draft with extras := draft.extras ++ [text] }

/-- Reads the words after the last option. The root takes the separator that is
next to it. -/
def readTail (draft : Draft) (words : List Word) : Draft :=
  let leave := fun (draft : Draft) (words : List Word) =>
    { draft with extras := draft.extras ++ words.map Word.text }
  match draft.root, words with
  | none, .separator :: .argument text :: rest =>
      leave { draft with root := some text } rest
  | none, .argument text :: .separator :: rest =>
      leave { draft with root := some text } rest
  | none, .argument text :: rest => leave { draft with root := some text } rest
  | _, words => leave draft words

/-- Reads words from the left. An option takes at most the word after it, so the
number of words is fuel enough. -/
def readWords : Nat → Draft → List Word → Except Halt Draft
  | 0, draft, _ => .ok draft
  | fuel + 1, draft, words =>
      if words.any Word.isOption then
        match words with
        | .option _ (some o) :: rest => do
            let (draft, rest) ← readOption draft o rest
            readWords fuel draft rest
        | .option text none :: rest =>
            readWords fuel { draft with extras := draft.extras ++ [text] } rest
        | word :: rest => readWords fuel (readArgument draft word.text) rest
        | [] => .ok draft
      else .ok (readTail draft words)

/-- The options of a finished draft. -/
def Draft.finish (draft : Draft) : Except Halt Options :=
  match draft.root with
  | none => .error (.usage .missingRoot)
  | some root =>
      if draft.extras.isEmpty then
        .ok { draft.options with root := .parse root }
      else .error (.usage (.unrecognized draft.extras))

/-- Reads a command line. -/
def parse (words : List String) : Except Halt Options := do
  let sorted ← (sortWords words).mapError Halt.usage
  let draft ← readWords (sorted.length + 1) {} sorted
  draft.finish

end ApiCatalog.CommandLine
