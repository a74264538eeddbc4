import ApiCatalog.Proofs.SettingsFields
import ApiCatalog.Proofs.TomlLines
import ApiCatalog.RecordFile
import ApiCatalog.Target

/-!
# Records are read back from a TOML catalog

The reader builds one table while it goes through the lines. Between the lines of
a catalog that table has a fixed form: the version, the source, and, once a first
table was opened, the array of the tables so far (`Holds`). A header adds an empty
table to the array, and a line adds a field to the last table, as nothing at or
above the array is closed: the values that are closed lie below it. A record is a
header with its lines, and a catalog is a list of records, so the whole document
follows by two inductions.
-/

namespace ApiCatalog.Toml

open Document (isFrozen isClosed)

/-! ## Opening a table and adding a field -/

theorem openArray_eq_ok {doc : Document} {k : Key} {table : Table}
    (hfrozen : isFrozen doc.frozen k = false)
    (halter : Table.alter true (Table.extend (k.getLastD "")) k.dropLast doc.table =
      .ok table) :
    doc.openArray k = .ok { doc with
      table := table
      header := k
      declared := k :: doc.declared.filter fun declared => !k.isPrefixOf declared
      frozen := doc.frozen.filter fun closed => !k.isPrefixOf closed } := by
  rw [Document.openArray, hfrozen]
  simp only [Bool.false_eq_true, if_false, halter]

theorem add_eq_ok {doc : Document} {name : String} {v : Value} {table : Table}
    (hfrozen : isFrozen doc.frozen doc.header = false)
    (halter : Table.alter true (Table.add name v) doc.header doc.table = .ok table) :
    doc.add [name] v = .ok { doc with
      table := table
      frozen := if isClosed v then (doc.header ++ [name]) :: doc.frozen
        else doc.frozen } := by
  have hparent : doc.header ++ [name].dropLast = doc.header := List.append_nil _
  have hname : [name].getLastD "" = name := rfl
  have hopened : Document.opened doc.header [name] = [] := rfl
  simp only [Document.add, hparent, hname, hopened, List.find?_nil, hfrozen, halter,
    Bool.false_eq_true, if_false, List.append_nil]

/-- In an array of tables it is the last one that changes. -/
theorem alter_last {name : String} {table inner inner' : Table} {items : List Value}
    {change : Table → Except Conflict Table}
    (hlookup : table.lookup name = some (.list (items ++ [.table inner])))
    (hchange : change inner = .ok inner') :
    Table.alter true change [name] table =
      .ok (Table.put name (.list (items ++ [.table inner'])) table) := by
  simp only [Table.alter, hlookup, List.getLast?_concat, List.dropLast_concat, hchange]
  rfl

/-! ## The table between two lines -/

/-- The field with the tables so far; there is none before the first. -/
def functionsField : List Table → Table
  | [] => []
  | tables => [("functions", .list (tables.map .table))]

/-- The document between two lines of a catalog. -/
structure Holds (source : String) (tables : List Table) (doc : Document) : Prop where
  table : doc.table =
    [("version", .text "1.0"), ("source", .text source)] ++ functionsField tables
  header : tables ≠ [] → doc.header = ["functions"]
  unfrozen : isFrozen doc.frozen ["functions"] = false

theorem functionsField_append (tables : List Table) (table : Table) :
    functionsField (tables ++ [table]) =
      [("functions", .list (tables.map .table ++ [.table table]))] := by
  cases tables with
  | nil => rfl
  | cons first tables => simp [functionsField]

theorem isFrozen_filter {frozen : List Key} {k : Key} (p : Key → Bool)
    (h : isFrozen frozen k = false) : isFrozen (frozen.filter p) k = false := by
  rw [isFrozen, List.any_eq_false] at h ⊢
  exact fun closed hclosed => h closed (List.mem_of_mem_filter hclosed)

theorem Holds.openArray {source : String} {tables : List Table} {doc : Document}
    (h : Holds source tables doc) :
    ∃ doc', doc.settle.openArray ["functions"] = .ok doc' ∧
      Holds source (tables ++ [[]]) doc' := by
  have hextend : Table.alter true (Table.extend "functions") [] doc.table =
      .ok ([("version", .text "1.0"), ("source", .text source)] ++
        functionsField (tables ++ [[]])) := by
    rw [h.table, functionsField_append]
    cases tables with
    | nil => rfl
    | cons first tables => rfl
  refine ⟨_, openArray_eq_ok h.unfrozen hextend, rfl, fun _ => rfl, ?_⟩
  exact isFrozen_filter _ h.unfrozen

theorem Holds.add {source : String} {done : List Table} {current : Table}
    {doc : Document} (h : Holds source (done ++ [current]) doc) {name : String}
    (hname : current.lookup name = none) (v : Value) :
    ∃ doc', doc.add [name] v = .ok doc' ∧
      Holds source (done ++ [current ++ [(name, v)]]) doc' := by
  have hheader : doc.header = ["functions"] := h.header (by simp)
  have halter : Table.alter true (Table.add name v) doc.header doc.table =
      .ok ([("version", .text "1.0"), ("source", .text source)] ++
        functionsField (done ++ [current ++ [(name, v)]])) := by
    have hadd : Table.add name v current = .ok (current ++ [(name, v)]) := by
      rw [Table.add, hname]
    have hlookup : doc.table.lookup "functions" =
        some (.list (done.map .table ++ [.table current])) := by
      rw [h.table, functionsField_append]
      rfl
    rw [hheader, alter_last hlookup hadd, h.table, functionsField_append,
      functionsField_append]
    rfl
  refine ⟨_, add_eq_ok (hheader ▸ h.unfrozen) halter, rfl, fun _ => hheader, ?_⟩
  rw [hheader]
  split
  · rw [isFrozen, List.any_cons, Bool.or_eq_false_iff]
    exact ⟨by simp, h.unfrozen⟩
  · exact h.unfrozen

/-! ## Records -/

/-- A field as it is written: its name, its value and the value's text. -/
structure Line where
  name : String
  value : Value
  chars : List Char

/-- The field that a line adds to the table. -/
def Line.field (line : Line) : String × Value :=
  (line.name, line.value)

/-- The characters of lines. -/
def linesChars (lines : List Line) : List Char :=
  lines.flatMap fun line => lineChars line.name line.chars

/-- What the lines of a table are read as, whatever comes after them. -/
theorem Holds.lines {source : String} {done : List Table} {current : Table}
    {doc : Document} (h : Holds source (done ++ [current]) doc) {lines : List Line}
    (hlines : ∀ line ∈ lines, Bare line.name ∧ Writes line.value line.chars)
    (hnames : (lines.map Line.name).Nodup)
    (hfree : ∀ line ∈ lines, current.lookup line.name = none) :
    ∃ doc', Holds source (done ++ [current ++ lines.map Line.field]) doc' ∧
      ∀ rest final, Reads doc' rest final →
        Reads doc (linesChars lines ++ rest) final := by
  induction lines generalizing current doc with
  | nil =>
      refine ⟨doc, ?_, fun rest final hrest => hrest⟩
      rw [List.map_nil, List.append_nil]
      exact h
  | cons line lines ih =>
      rw [List.forall_mem_cons] at hlines hfree
      rw [List.map_cons, List.nodup_cons] at hnames
      obtain ⟨next, hadd, hnext⟩ := h.add hfree.1 line.value
      have hstill : ∀ other ∈ lines,
          (current ++ [(line.name, line.value)]).lookup other.name = none := by
        intro other hother
        have hne : other.name ≠ line.name := by
          intro hname
          exact hnames.1 (hname ▸ List.mem_map_of_mem hother)
        rw [List.lookup_append, hfree.2 other hother, Option.none_or,
          List.lookup_cons, beq_eq_false_iff_ne.mpr hne]
        rfl
      obtain ⟨doc', hdoc', hreads⟩ := ih hnext hlines.2 hnames.2 hstill
      refine ⟨doc', ?_, fun rest final hrest => ?_⟩
      · rw [List.append_assoc] at hdoc'
        exact hdoc'
      · rw [linesChars, List.flatMap_cons, List.append_assoc]
        exact reads_line hlines.1.1 hlines.1.2 hadd (hreads rest final hrest)

/-- The lines of a record. -/
def recordLines (r : Record) : List Line :=
  [⟨"id", .text r.id, quotedChars r.id⟩,
    ⟨"api_kind", .text r.apiKind, quotedChars r.apiKind⟩,
    ⟨"arg_tys", .list (r.argTypes.map .text), listChars r.argTypes⟩,
    ⟨"arg_ids", .list (r.argNames.map .text), listChars r.argNames⟩] ++
  r.retType.toList.map fun type => ⟨"ret_ty", .text type, quotedChars type⟩

/-- The characters of a record: a header, its lines and an empty line. -/
def recordChars (r : Record) : List Char :=
  headerChars "functions" ++ linesChars (recordLines r) ++ ['\n']

/-- The texts that a record holds. -/
def texts (r : Record) : List String :=
  [r.id, r.apiKind] ++ r.argTypes ++ r.argNames ++ r.retType.toList

theorem textLine?_eq {name s : String} (h : Writable s) :
    textLine? name s = some (String.ofList (lineChars name (quotedChars s))) := by
  rw [textLine?, h.quote?_eq, Option.map_some]
  refine congrArg some (String.toList_inj.mp ?_)
  simp [lineChars]

theorem listLine?_eq {name : String} {items : List String}
    (h : ∀ s ∈ items, Writable s) :
    listLine? name items = some (String.ofList (lineChars name (listChars items))) := by
  rw [listLine?, quoteList?_eq h, Option.map_some]
  refine congrArg some (String.toList_inj.mp ?_)
  simp [lineChars]

theorem forall_mem_texts {r : Record} {p : String → Prop} (h : ∀ s ∈ texts r, p s) :
    p r.id ∧ p r.apiKind ∧ (∀ s ∈ r.argTypes, p s) ∧ (∀ s ∈ r.argNames, p s) ∧
      ∀ type ∈ r.retType, p type := by
  simp only [texts, List.mem_append, List.mem_pair, Option.mem_toList] at h
  refine ⟨h _ (by simp), h _ (by simp), fun s hs => h s (by simp [hs]),
    fun s hs => h s (by simp [hs]), fun s hs => h s (.inr hs)⟩

theorem recordTable?_eq {r : Record} (h : ∀ s ∈ texts r, Writable s) :
    recordTable? r = some (String.ofList (recordChars r)) := by
  obtain ⟨hid, hkind, htypes, hnames, hret⟩ := forall_mem_texts h
  have hretLine : retLine? r.retType = some (String.ofList
      (linesChars (r.retType.toList.map fun type =>
        ⟨"ret_ty", .text type, quotedChars type⟩))) := by
    cases htype : r.retType with
    | none => rfl
    | some type =>
        rw [retLine?, textLine?_eq (hret type htype)]
        simp [linesChars]
  rw [recordTable?, textLine?_eq hid, textLine?_eq hkind, listLine?_eq htypes,
    listLine?_eq hnames, hretLine]
  refine congrArg some (String.toList_inj.mp ?_)
  simp [recordChars, headerChars, recordLines, linesChars]

/-- A line of a record gives a plain name one of its texts, or a list of them. -/
theorem mem_recordLines {r : Record} {line : Line} (h : line ∈ recordLines r) :
    Bare line.name ∧
      ((∃ s ∈ texts r, line.value = .text s ∧ line.chars = quotedChars s) ∨
        ∃ items, (∀ s ∈ items, s ∈ texts r) ∧ line.value = .list (items.map .text) ∧
          line.chars = listChars items) := by
  have hbare : ∀ name ∈ ["id", "api_kind", "arg_tys", "arg_ids", "ret_ty"], Bare name := by
    decide
  simp only [recordLines, List.mem_append, List.mem_cons, List.not_mem_nil, or_false,
    List.mem_map, Option.mem_toList] at h
  rcases h with (rfl | rfl | rfl | rfl) | ⟨type, htype, rfl⟩
  · exact ⟨hbare _ (by simp), .inl ⟨r.id, by simp [texts], rfl, rfl⟩⟩
  · exact ⟨hbare _ (by simp), .inl ⟨r.apiKind, by simp [texts], rfl, rfl⟩⟩
  · exact ⟨hbare _ (by simp), .inr ⟨r.argTypes, by simp +contextual [texts], rfl, rfl⟩⟩
  · exact ⟨hbare _ (by simp), .inr ⟨r.argNames, by simp +contextual [texts], rfl, rfl⟩⟩
  · exact ⟨hbare _ (by simp), .inl ⟨type, by simp [texts, htype], rfl, rfl⟩⟩

/-- A record adds one table, whatever comes after it. -/
theorem Holds.record {source : String} {tables : List Table} {doc : Document}
    (h : Holds source tables doc) {r : Record} (hr : ∀ s ∈ texts r, Writable s) :
    ∃ doc', Holds source (tables ++ [(recordLines r).map Line.field]) doc' ∧
      ∀ rest final, Reads doc' rest final → Reads doc (recordChars r ++ rest) final := by
  have hlines : ∀ line ∈ recordLines r,
      Bare line.name ∧ Writes line.value line.chars := by
    intro line hline
    obtain ⟨hname, ⟨s, hs, hvalue, hchars⟩ | ⟨items, hitems, hvalue, hchars⟩⟩ :=
      mem_recordLines hline
    · rw [hvalue, hchars]
      exact ⟨hname, (hr s hs).writes⟩
    · rw [hvalue, hchars]
      exact ⟨hname, writes_listChars fun s hs => hr s (hitems s hs)⟩
  have hdistinct : ((recordLines r).map Line.name).Nodup := by
    cases htype : r.retType <;> simp [recordLines, htype]
  obtain ⟨next, hopen, hnext⟩ := h.openArray
  obtain ⟨doc', hdoc', hreads⟩ := hnext.lines hlines hdistinct fun _ _ => rfl
  refine ⟨doc', hdoc', fun rest final hrest => ?_⟩
  rw [recordChars, List.append_assoc, List.append_assoc]
  exact reads_header (by decide) hopen (hreads _ _ (reads_blank hrest))

theorem Holds.records {source : String} {tables : List Table} {doc : Document}
    (h : Holds source tables doc) {records : List Record}
    (hrecords : ∀ r ∈ records, ∀ s ∈ texts r, Writable s) :
    ∃ final, Holds source
        (tables ++ records.map fun r => (recordLines r).map Line.field) final ∧
      Reads doc (records.flatMap recordChars) final := by
  induction records generalizing tables doc with
  | nil =>
      refine ⟨doc, ?_, reads_nil doc⟩
      rw [List.map_nil, List.append_nil]
      exact h
  | cons r records ih =>
      rw [List.forall_mem_cons] at hrecords
      obtain ⟨next, hnext, hreads⟩ := h.record hrecords.1
      obtain ⟨final, hfinal, hrest⟩ := ih hnext hrecords.2
      refine ⟨final, ?_, hreads _ _ hrest⟩
      rw [List.append_assoc] at hfinal
      exact hfinal

/-! ## Catalogs -/

/-- The characters of a catalog. -/
def catalogChars (source : String) (records : List Record) : List Char :=
  lineChars "version" (quotedChars "1.0") ++ lineChars "source" (quotedChars source) ++
    if records = [] then lineChars "functions" (listChars [])
    else records.flatMap recordChars

theorem write?_eq {source : String} {records : List Record} (hsource : Writable source)
    (hrecords : ∀ r ∈ records, ∀ s ∈ texts r, Writable s) :
    write? source records = some (String.ofList (catalogChars source records)) := by
  rw [write?, textLine?_eq hsource,
    mapM_eq_some_map fun r hr => recordTable?_eq (hrecords r hr)]
  refine congrArg some (String.toList_inj.mp ?_)
  have hversion : "version = \"1.0\"\n".toList = lineChars "version" (quotedChars "1.0") := by
    decide
  have hnone : "functions = []\n".toList = lineChars "functions" (listChars []) := by
    decide
  cases records with
  | nil => simp [catalogChars, hversion, hnone]
  | cons r records => simp [catalogChars, hversion, List.flatMap_map]

/-- What a written catalog is read as. -/
theorem read_catalogChars {source : String} {records : List Record}
    (hsource : Writable source) (hrecords : ∀ r ∈ records, ∀ s ∈ texts r, Writable s) :
    read (catalogChars source records) = .ok
      [("version", .text "1.0"), ("source", .text source),
        ("functions", .list (records.map fun r =>
          .table ((recordLines r).map Line.field)))] := by
  have hversion : Writable "1.0" := by decide
  -- before the first header both lines belong to the outer table
  have hstart {rest : List Char} {final : Document}
      (h : Reads { table := [("version", .text "1.0"), ("source", .text source)] }
        rest final) :
      Reads {} (lineChars "version" (quotedChars "1.0") ++
        lineChars "source" (quotedChars source) ++ rest) final := by
    rw [List.append_assoc]
    exact reads_line (by decide) hversion.writes rfl
      (reads_line (by decide) hsource.writes rfl h)
  rw [catalogChars]
  split
  · next hnil =>
      rw [hnil]
      have hreads : Reads { table := [("version", .text "1.0"), ("source", .text source)] }
          (lineChars "functions" (listChars []) ++ []) _ :=
        reads_line (by decide) (writes_listChars (by simp)) rfl (reads_nil _)
      rw [List.append_nil] at hreads
      exact read_of_reads (hstart hreads)
  · next hcons =>
      have hholds : Holds source []
          { table := [("version", .text "1.0"), ("source", .text source)] } :=
        ⟨rfl, fun h => absurd rfl h, rfl⟩
      obtain ⟨final, hfinal, hreads⟩ := hholds.records hrecords
      rw [read_of_reads (hstart hreads), hfinal.table, List.nil_append]
      cases records with
      | nil => exact absurd rfl hcons
      | cons r records => simp [functionsField]

/-! ## The file -/

theorem not_mem_lineChars {name : String} {cs : List Char} (hname : Bare name)
    (hcs : '\r' ∉ cs) : '\r' ∉ lineChars name cs := by
  have hreturn : '\r' ∉ name.toList := fun h => absurd (hname.bare _ h) (by decide)
  simp [lineChars, hreturn, hcs]

theorem not_mem_quotedChars (s : String) : '\r' ∉ quotedChars s := by
  have hinside : '\r' ∉ s.toList.flatMap (Text.escape '"') := by
    intro hmem
    obtain ⟨c, -, hc⟩ := List.mem_flatMap.mp hmem
    by_cases hcr : c = '\r'
    · rw [hcr] at hc
      revert hc
      decide
    · exact not_mem_escape (Ne.symm hcr) (by decide) (by decide) hc
  simp [quotedChars, hinside]

theorem not_mem_listChars (items : List String) : '\r' ∉ listChars items := by
  have hitems : '\r' ∉ itemsChars items := by
    induction items with
    | nil => decide
    | cons s items ih =>
        have hs := not_mem_quotedChars s
        cases items with
        | nil => simp [itemsChars, hs]
        | cons t items => simp [itemsChars, hs, ih]
  cases items with
  | nil => decide
  | cons s items => simp [listChars, hitems]

theorem not_mem_recordChars (r : Record) : '\r' ∉ recordChars r := by
  have hline : ∀ line ∈ recordLines r, '\r' ∉ lineChars line.name line.chars := by
    intro line hline
    obtain ⟨hname, ⟨s, -, -, hchars⟩ | ⟨items, -, -, hchars⟩⟩ := mem_recordLines hline
    · rw [hchars]
      exact not_mem_lineChars hname (not_mem_quotedChars s)
    · rw [hchars]
      exact not_mem_lineChars hname (not_mem_listChars items)
  have hheader : '\r' ∉ headerChars "functions" := by decide
  simp only [recordChars, linesChars, List.mem_append, List.mem_flatMap, not_or,
    not_exists, not_and]
  exact ⟨⟨hheader, hline⟩, by decide⟩

/-- A written catalog has no carriage return, so its lines are not touched when
it is read as a text file. -/
theorem not_mem_catalogChars (source : String) (records : List Record) :
    '\r' ∉ catalogChars source records := by
  have hversion := not_mem_quotedChars "1.0"
  have hsource := not_mem_quotedChars source
  rw [catalogChars, List.mem_append, List.mem_append, not_or, not_or]
  refine ⟨⟨not_mem_lineChars (by decide) hversion,
    not_mem_lineChars (by decide) hsource⟩, ?_⟩
  split
  · exact not_mem_lineChars (by decide) (not_mem_listChars [])
  · rw [List.mem_flatMap]
    rintro ⟨r, -, hr⟩
    exact not_mem_recordChars r hr

end ApiCatalog.Toml

namespace ApiCatalog

/-! ## Fields of a record -/

theorem Record.ofFields_recordLines (r : Record) :
    Record.ofFields ((Toml.recordLines r).map Toml.Line.field) = .ok r := by
  let fields := (Toml.recordLines r).map Toml.Line.field
  have hid : Field.required fields "id" Field.text = .ok r.id := rfl
  have hkind : Field.required fields "api_kind" Field.text = .ok r.apiKind := rfl
  have htypes : Field.optional fields "arg_tys" [] (Field.list Field.text) =
      .ok r.argTypes := Field.optional_of_lookup rfl (Field.list_text r.argTypes)
  have hnames : Field.optional fields "arg_ids" [] (Field.list Field.text) =
      .ok r.argNames := Field.optional_of_lookup rfl (Field.list_text r.argNames)
  have hret : Field.optional fields "ret_ty" none (Field.nullable Field.text) =
      .ok r.retType := by
    obtain ⟨id, kind, types, names, ret⟩ := r
    cases ret <;> rfl
  rw [Record.ofFields, hid, hkind, htypes, hnames, hret]
  rfl

theorem parse_catalogChars {source : String} {records : List Record}
    (hsource : Toml.Writable source)
    (hrecords : ∀ r ∈ records, ∀ s ∈ Toml.texts r, Toml.Writable s) :
    RecordFile.parse (Toml.catalogChars source records) = .ok records := by
  rw [RecordFile.parse, Toml.read_catalogChars hsource hrecords]
  show List.mapM RecordFile.recordOf _ = _
  rw [mapM_eq_ok, List.forall₂_map_left_iff, List.forall₂_same]
  intro r _
  rw [RecordFile.recordOf, Record.ofFields_recordLines]
  rfl

/-- Whatever texts a catalog is written with, its file is read back as the same
records, as long as no text needs a backslash in front of an `x`. -/
theorem RecordFile.load_render {source : String} {records : List Record}
    (h : ∀ s ∈ source :: records.flatMap Toml.texts, Toml.Writable s)
    (target : Option Path) :
    ∃ text, Target.render ⟨.writer (some .toml) target source, records⟩ = .ok text ∧
      ∀ (fs : FileSystem) (path : Path),
        fs.read path = .ok (Text.Utf8.encode text.toList) →
          RecordFile.load fs path = .ok records := by
  rw [List.forall_mem_cons] at h
  have hrecords : ∀ r ∈ records, ∀ s ∈ Toml.texts r, Toml.Writable s :=
    fun r hr s hs => h.2 s (List.mem_flatMap.mpr ⟨r, hr, hs⟩)
  refine ⟨String.ofList (Toml.catalogChars source records), ?_, ?_⟩
  · show Target.renderAs source records .toml = _
    unfold Target.renderAs
    rw [Toml.write?_eq h.1 hrecords]
  · intro fs path hread
    rw [RecordFile.load, FileSystem.readText_encode hread, String.toList_ofList,
      Text.unifyLines_of_not_mem (Toml.not_mem_catalogChars source records)]
    simp only [Except.mapError, ok_bind]
    exact parse_catalogChars h.1 hrecords

/-- Records with both quotes, backslashes, line ends, hidden characters above
U+00FF, a character past U+FFFF, empty lists and a result type. -/
def markedRecords : List Record :=
  [{ id := "say \"it's\"", apiKind := "\\\\u\t\n\r", argTypes := ["\u2028", "𝜋", ""] },
    { id := "", apiKind := "'", argNames := ["x0"], retType := some "*const f64" }]

theorem RecordFile.load_render_markedRecords :
    (∀ s ∈ "\"\\" :: markedRecords.flatMap Toml.texts, Toml.Writable s) ∧
      ∃ text,
        Target.render ⟨.writer (some .toml) none "\"\\", markedRecords⟩ = .ok text ∧
          ∀ (fs : FileSystem) (path : Path),
            fs.read path = .ok (Text.Utf8.encode text.toList) →
              RecordFile.load fs path = .ok markedRecords :=
  have h : ∀ s ∈ "\"\\" :: markedRecords.flatMap Toml.texts, Toml.Writable s := by
    decide +kernel
  ⟨h, RecordFile.load_render h none⟩

end ApiCatalog
