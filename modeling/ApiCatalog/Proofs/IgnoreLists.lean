import ApiCatalog.Proofs.NormalSettings
import ApiCatalog.Proofs.Texts

/-!
# Names written with commas between them

A list of ignored names may be given as one text. It is cut at the commas, the blanks
around every piece are dropped, and pieces with nothing left are no names. A name can be
written so if it is not empty, has no comma, and neither starts nor ends with a blank
(`Listable`), and only such names are ever read.

What a text says is what its pieces say, so an order of the names, blanks around them,
empty pieces and repetitions do not matter: entries that spell some names in whatever way
(`Spells`) are read as the set of these names, and settings are built from them as from
the list of the names.
-/

namespace ApiCatalog

/-! ## Blanks at the ends -/

namespace Text

variable {cs core : List Char}

/-- A text that neither starts nor ends with a blank. -/
def Tight (cs : List Char) : Prop :=
  (∀ c, cs.head? = some c → isBlank c = false) ∧ ∀ c, cs.getLast? = some c → isBlank c = false

/-- A text with blanks in front and behind, or none. -/
def Padded (core cs : List Char) : Prop :=
  ∃ front back, cs = front ++ core ++ back ∧
    (∀ c ∈ front, isBlank c = true) ∧ ∀ c ∈ back, isBlank c = true

theorem isBlank_of_head?_dropWhile {c : Char} (h : (cs.dropWhile isBlank).head? = some c) :
    isBlank c = false := by
  have hnot := List.head?_dropWhile_not isBlank cs
  rw [h] at hnot
  exact hnot

theorem trim_of_padded (htight : Tight core) (h : Padded core cs) : trim cs = core := by
  obtain ⟨front, back, rfl, hfront, hback⟩ := h
  exact strip_append hfront hback htight.1 htight.2

theorem trim_spec (cs : List Char) : Tight (trim cs) ∧ Padded (trim cs) cs := by
  have hback : cs.dropWhile isBlank =
      trim cs ++ ((cs.dropWhile isBlank).reverse.takeWhile isBlank).reverse := by
    rw [trim, strip, ← List.reverse_append, List.takeWhile_append_dropWhile,
      List.reverse_reverse]
  refine ⟨⟨?_, ?_⟩, cs.takeWhile isBlank,
    ((cs.dropWhile isBlank).reverse.takeWhile isBlank).reverse, ?_, ?_, ?_⟩
  · intro c hc
    -- the first character that is left is the first after the blanks in front
    refine @isBlank_of_head?_dropWhile cs c ?_
    rw [hback, List.head?_append, hc]
    rfl
  · intro c hc
    rw [trim, strip, List.getLast?_reverse] at hc
    exact isBlank_of_head?_dropWhile hc
  · rw [List.append_assoc, ← hback, List.takeWhile_append_dropWhile]
  · intro c hc
    exact List.mem_takeWhile_imp hc
  · intro c hc
    exact List.mem_takeWhile_imp (List.mem_reverse.mp hc)

theorem trim_eq_iff : trim cs = core ↔ Tight core ∧ Padded core cs := by
  constructor
  · intro h
    rw [← h]
    exact trim_spec cs
  · intro ⟨htight, hpadded⟩
    exact trim_of_padded htight hpadded

theorem Padded.mem {c : Char} (h : Padded core cs) (hc : c ∈ core) : c ∈ cs := by
  obtain ⟨front, back, rfl, -, -⟩ := h
  simp [hc]

/-! ## Pieces -/

theorem splitAt_ne_nil (sep : Char) (cs : List Char) : splitAt sep cs ≠ [] := by
  cases cs with
  | nil => simp [splitAt]
  | cons c cs =>
      rw [splitAt]
      split
      · simp
      · split
        · simp
        · simp

/-- The pieces of two texts with a separator between them are those of the one and then
those of the other. -/
theorem splitAt_append_sep (sep : Char) (a b : List Char) :
    splitAt sep (a ++ sep :: b) = splitAt sep a ++ splitAt sep b := by
  induction a with
  | nil => simp [splitAt]
  | cons c a ih =>
      rw [List.cons_append, splitAt, ih, splitAt]
      split
      · simp
      · obtain ⟨w, ws, hsplit⟩ := List.exists_cons_of_ne_nil (splitAt_ne_nil sep a)
        simp [hsplit]

end Text

/-! ## The names in a text -/

/-- A name that can be written in a text with commas. -/
structure Listable (name : String) : Prop where
  ne_empty : name ≠ ""
  no_comma : ',' ∉ name.toList
  tight : Text.Tight name.toList

/-- Every entry is blank or one of the names with blanks around it, and every name is
there. -/
structure Spells (entries names : List String) : Prop where
  entry : ∀ e ∈ entries, (∀ c ∈ e.toList, Text.isBlank c = true) ∨
    ∃ name ∈ names, Text.Padded name.toList e.toList
  name : ∀ name ∈ names, ∃ e ∈ entries, Text.Padded name.toList e.toList

variable {text name : String} {entries names : List String}

theorem mem_ignoreList :
    name ∈ ignoreList text ↔
      name ≠ "" ∧ ∃ piece ∈ Text.splitAt ',' text.toList, Text.trim piece = name.toList := by
  rw [ignoreList, Text.mem_nameSet]
  simp only [List.mem_map, List.mem_filter, Bool.not_eq_true', List.isEmpty_eq_false_iff]
  constructor
  · intro ⟨cs, ⟨⟨piece, hpiece, htrim⟩, hne⟩, hname⟩
    subst hname
    refine ⟨fun hempty => hne (by simpa using hempty), piece, hpiece, ?_⟩
    rw [htrim, String.toList_ofList]
  · intro ⟨hne, piece, hpiece, htrim⟩
    refine ⟨name.toList, ⟨⟨piece, hpiece, htrim⟩, ?_⟩, String.ofList_toList⟩
    intro hnil
    exact hne (String.toList_eq_nil_iff.mp hnil)

theorem pairwise_ignoreList (text : String) : (ignoreList text).Pairwise (· < ·) :=
  Text.pairwise_nameSet _

theorem listable_of_mem_ignoreList (h : name ∈ ignoreList text) : Listable name := by
  obtain ⟨hne, piece, hpiece, htrim⟩ := mem_ignoreList.mp h
  obtain ⟨htight, hpadded⟩ := Text.trim_eq_iff.mp htrim
  refine ⟨hne, ?_, htight⟩
  intro hcomma
  exact Text.not_mem_of_mem_splitAt hpiece (hpadded.mem hcomma)

theorem mem_ignoreList_append {a b : String} :
    name ∈ ignoreList (a ++ "," ++ b) ↔ name ∈ ignoreList a ∨ name ∈ ignoreList b := by
  have hsplit : Text.splitAt ',' (a ++ "," ++ b).toList =
      Text.splitAt ',' a.toList ++ Text.splitAt ',' b.toList := by
    rw [← Text.splitAt_append_sep]
    simp
  simp only [mem_ignoreList, hsplit, List.mem_append, or_and_right, exists_or, and_or_left]

theorem mem_ignoreList_intercalate (h : ∀ e ∈ entries, ',' ∉ e.toList) :
    name ∈ ignoreList (",".intercalate entries) ↔
      name ≠ "" ∧ ∃ e ∈ entries, Text.trim e.toList = name.toList := by
  rw [mem_ignoreList]
  refine and_congr_right fun hne => ?_
  have htext : (",".intercalate entries).toList = [','].intercalate (entries.map String.toList) :=
    String.toList_intercalate
  cases entries with
  | nil =>
      -- nothing is joined to the empty text, whose one piece is no name
      simpa [Text.splitAt, Text.trim, Text.strip] using hne
  | cons e entries =>
      rw [htext, Text.splitAt_intercalate (by simp) (by simpa using h)]
      simp

theorem Spells.no_comma (h : Spells entries names) (hnames : ∀ name ∈ names, Listable name) :
    ∀ e ∈ entries, ',' ∉ e.toList := by
  have hblank : Text.isBlank ',' = false := by decide
  intro e he hcomma
  rcases h.entry e he with hall | ⟨name, hname, front, back, hsplit, hfront, hback⟩
  · simp [hall _ hcomma] at hblank
  · rw [hsplit, List.mem_append, List.mem_append] at hcomma
    rcases hcomma with (hcomma | hcomma) | hcomma
    · simp [hfront _ hcomma] at hblank
    · exact (hnames name hname).no_comma hcomma
    · simp [hback _ hcomma] at hblank

/-- Entries that spell some names are read as these names. -/
theorem Spells.mem_ignoreList (h : Spells entries names) (hnames : ∀ name ∈ names, Listable name) :
    name ∈ ignoreList (",".intercalate entries) ↔ name ∈ names := by
  rw [mem_ignoreList_intercalate (h.no_comma hnames)]
  constructor
  · intro ⟨hne, e, he, htrim⟩
    rcases h.entry e he with hall | ⟨written, hwritten, hpadded⟩
    · have hnil : Text.trim e.toList = [] :=
        Text.trim_of_padded (by simp [Text.Tight]) ⟨e.toList, [], by simp, hall, by simp⟩
      rw [hnil] at htrim
      exact absurd (String.toList_eq_nil_iff.mp htrim.symm) hne
    · rw [Text.trim_of_padded (hnames written hwritten).tight hpadded] at htrim
      rw [← String.toList_injective htrim]
      exact hwritten
  · intro hname
    obtain ⟨e, he, hpadded⟩ := h.name name hname
    exact ⟨(hnames name hname).ne_empty, e, he,
      Text.trim_of_padded (hnames name hname).tight hpadded⟩

/-! ## Settings from a text and from a list -/

namespace Settings

theorem names_intercalate (h : Spells entries names) (hnames : ∀ name ∈ names, Listable name) :
    Settings.names (.text (",".intercalate entries)) =
      Settings.names (.list (names.map .text)) := by
  rw [names_texts (pairwise_ignoreList _) fun name => (h.mem_ignoreList hnames).symm]
  rfl

theorem lookup_merge_ignored {name : String} (hne : name ≠ "ignored") (v : Value)
    (values overrides : List (String × Value)) :
    (merge (("ignored", v) :: values) overrides).lookup name =
      (merge values overrides).lookup name := by
  rw [lookup_merge, lookup_merge, List.lookup_cons, beq_eq_false_iff_ne.mpr hne]

/-- Of the entry for the ignored names only what it is read as counts. -/
theorem build_ignored_congr {v v' : Value} (h : Settings.names v = Settings.names v')
    (values overrides : List (String × Value)) :
    build (("ignored", v) :: values) overrides = build (("ignored", v') :: values) overrides := by
  have hignored : Field.optional (merge (("ignored", v) :: values) overrides) "ignored" []
        Settings.names =
      Field.optional (merge (("ignored", v') :: values) overrides) "ignored" []
        Settings.names := by
    unfold Field.optional
    rw [lookup_merge, lookup_merge, List.lookup_cons_self, List.lookup_cons_self]
    cases given? overrides "ignored" with
    | none => simp [h]
    | some w => rfl
  simp only [build, check_eq, hignored]
  simp (disch := decide) only [Field.optional, lookup_merge_ignored]

/-- A text of ignored names is never refused, and nothing else changes with it. -/
theorem ReadFrom.ignoring {values : List (String × Value)} {s : Settings}
    (h : ReadFrom (merge values []) s) (text : String) :
    ReadFrom (merge (("ignored", .text text) :: values) [])
      { s with ignored := ignoreList text } := by
  constructor
  case ignored => rfl
  all_goals simp (disch := decide) only [lookup_merge_ignored]
  case root => exact h.root
  case extensions => exact h.extensions
  case foreignAbi => exact h.foreignAbi
  case inlineMarker => exact h.inlineMarker
  case noPanicMarker => exact h.noPanicMarker
  case unsafePolicy => exact h.unsafePolicy
  case reportDiagnostics => exact h.reportDiagnostics
  case strict => exact h.strict

end Settings

namespace SettingsFile

/-- Settings are built from a text that spells some names as from the list of these
names. -/
theorem build_intercalate (h : Spells entries names) (hnames : ∀ name ∈ names, Listable name)
    (values overrides : List (String × Value)) :
    build (("ignored", .text (",".intercalate entries)) :: values) overrides =
      build (("ignored", .list (names.map .text)) :: values) overrides := by
  rw [build, build, Settings.build_ignored_congr (Settings.names_intercalate h hnames)]

theorem ignored_of_build {values : List (String × Value)} {s : Settings}
    (h : build (("ignored", .text text) :: values) [] = .ok s) : s.ignored = ignoreList text := by
  have hread := (build_eq_ok.mp h).ignored
  exact (Checked.ok.inj hread).symm

/-- A text that joins entries without commas is read as those of the entries that are left
when the blanks at their ends are dropped and empty ones do not count; two texts with a
comma between them are read as both together. What is read are names that can be written so,
and whatever entries spell the names that were read are read as the same set. Settings with
such a text in place of the list of the names are the same settings and ignore exactly these
names; they are built wherever they are without it. -/
theorem ignoreList_reads_names_written :
    (∀ entries : List String, (∀ e ∈ entries, ',' ∉ e.toList) → ∀ name,
      name ∈ ignoreList (",".intercalate entries) ↔
        name ≠ "" ∧ Text.Tight name.toList ∧
          ∃ e ∈ entries, Text.Padded name.toList e.toList) ∧
    (∀ a b name : String,
      name ∈ ignoreList (a ++ "," ++ b) ↔ name ∈ ignoreList a ∨ name ∈ ignoreList b) ∧
    (∀ text : String, (ignoreList text).Pairwise (· < ·) ∧
      ∀ name ∈ ignoreList text, Listable name) ∧
    (∀ (text : String) (entries : List String), Spells entries (ignoreList text) →
      ignoreList (",".intercalate entries) = ignoreList text) ∧
    ∀ entries names : List String, (∀ name ∈ names, Listable name) → Spells entries names →
      ∀ values, (∀ overrides,
        build (("ignored", .text (",".intercalate entries)) :: values) overrides =
          build (("ignored", .list (names.map .text)) :: values) overrides) ∧
        (∀ s, build (("ignored", .text (",".intercalate entries)) :: values) [] = .ok s →
          ∀ name, name ∈ s.ignored ↔ name ∈ names) ∧
        ∀ s, build values [] = .ok s →
          build (("ignored", .text (",".intercalate entries)) :: values) [] =
            .ok { s with ignored := ignoreList (",".intercalate entries) } := by
  refine ⟨?_, fun _ _ _ => mem_ignoreList_append, ?_, ?_, ?_⟩
  · intro entries hentries name
    rw [mem_ignoreList_intercalate hentries]
    simp only [Text.trim_eq_iff]
    constructor
    · intro ⟨hne, e, he, htight, hpadded⟩
      exact ⟨hne, htight, e, he, hpadded⟩
    · intro ⟨hne, htight, e, he, hpadded⟩
      exact ⟨hne, e, he, htight, hpadded⟩
  · intro text
    exact ⟨pairwise_ignoreList text, fun name => listable_of_mem_ignoreList⟩
  · intro text entries hspells
    refine Text.nameSet_eq_of_mem_iff (pairwise_ignoreList text) fun name => ?_
    rw [← Text.mem_nameSet]
    exact hspells.mem_ignoreList fun name => listable_of_mem_ignoreList
  · intro entries names hnames hspells values
    refine ⟨build_intercalate hspells hnames values, ?_, ?_⟩
    · intro s hs name
      rw [ignored_of_build hs, hspells.mem_ignoreList hnames]
    · intro s hs
      exact build_eq_ok.mpr ((build_eq_ok.mp hs).ignoring _)

/-- Two names, one of them twice, with blanks and a tab around them and an empty entry. -/
def looseEntries : List String :=
  [" jnf\t", "", "jn", "  jn "]

theorem spells_looseEntries : Spells looseEntries ["jn", "jnf"] := by
  have hjn : Text.Padded "jn".toList "jn".toList := ⟨[], [], by simp, by simp, by simp⟩
  have hjn' : Text.Padded "jn".toList "  jn ".toList :=
    ⟨[' ', ' '], [' '], by simp, by simp [Text.isBlank], by simp [Text.isBlank]⟩
  have hjnf : Text.Padded "jnf".toList " jnf\t".toList :=
    ⟨[' '], ['\t'], by simp, by simp [Text.isBlank], by simp [Text.isBlank]⟩
  constructor
  · intro e he
    simp only [looseEntries, List.mem_cons, List.not_mem_nil, or_false] at he
    rcases he with rfl | rfl | rfl | rfl
    · exact .inr ⟨"jnf", by simp, hjnf⟩
    · exact .inl (by simp)
    · exact .inr ⟨"jn", by simp, hjn⟩
    · exact .inr ⟨"jn", by simp, hjn'⟩
  · intro name hname
    simp only [List.mem_cons, List.not_mem_nil, or_false] at hname
    rcases hname with rfl | rfl
    · exact ⟨"jn", by simp [looseEntries], hjn⟩
    · exact ⟨" jnf\t", by simp [looseEntries], hjnf⟩

/-- The entries are read as the two names, and settings with them ignore these. -/
theorem ignoreList_reads_names_written_looseEntries :
    ignoreList "jnf,jn" = ["jn", "jnf"] ∧
      ignoreList (",".intercalate looseEntries) = ["jn", "jnf"] ∧
      (∀ name ∈ ["jn", "jnf"], Listable name) ∧
      build [("ignored", .text (",".intercalate looseEntries)), ("strict", .int 1)] [] =
        build [("ignored", .list [.text "jn", .text "jnf"]), ("strict", .int 1)] [] ∧
      build [("ignored", .text (",".intercalate looseEntries)), ("strict", .int 1)] [] =
        .ok { ignored := ["jn", "jnf"], strict := true } := by
  have hread : ignoreList "jnf,jn" = ["jn", "jnf"] := by decide +kernel
  obtain ⟨-, -, hlistable, hagain, hbuild⟩ := ignoreList_reads_names_written
  have hnames := (hlistable "jnf,jn").2
  rw [hread] at hnames
  have hspells := spells_looseEntries
  rw [← hread] at hspells
  refine ⟨hread, (hagain _ _ hspells).trans hread, hnames, ?_, by decide +kernel⟩
  exact (hbuild looseEntries _ hnames spells_looseEntries _).1 []

end SettingsFile
end ApiCatalog
