import ApiCatalog.CommandLine.Execution
import ApiCatalog.Proofs.SettingsFields

/-!
# Where a setting comes from

A setting has three layers: the command line, the table of a settings file, and the
default. The first layer that has the setting wins (`Wins`), and nothing else counts: a
value further down is not even read, so it may be invalid. Not every option goes over
every setting: the root is always given, the ABI and the markers never are, and of a flag
only its presence counts.

A command line that was read has no empty list of suffixes, so suffixes that are given
are never refused. That is the one thing about reading command lines that is needed here,
and it is proved word by word.
-/

namespace ApiCatalog

variable {α : Type}

/-- The layer that a setting comes from: what is given, or else the entry of the table,
or else the default. -/
def Wins (given : Option α) (entry : Option Value) (Reads : Value → α → Prop)
    (absent a : α) : Prop :=
  match given with
  | some b => a = b
  | none => Takes entry Reads absent a

/-! ## Suffixes that are given -/

namespace CommandLine

/-- Suffixes that are given are not an empty list. -/
def Options.SomeSuffix (o : Options) : Prop :=
  o.extensions ≠ some []

theorem setFlag_someSuffix {o o' : Options} {name : OptionName}
    (h : setFlag o name = .ok o') (ho : o.SomeSuffix) : o'.SomeSuffix := by
  cases name <;> simp only [setFlag, Except.ok.injEq, reduceCtorEq] at h <;> subst h <;> exact ho

theorem setFlags_someSuffix {flags : List OptionName} {o o' : Options}
    (h : flags.foldlM setFlag o = .ok o') (ho : o.SomeSuffix) : o'.SomeSuffix := by
  induction flags generalizing o with
  | nil =>
      rw [List.foldlM_nil, pure_eq_ok] at h
      exact h ▸ ho
  | cons name flags ih =>
      rw [List.foldlM_cons] at h
      obtain ⟨next, hnext, h⟩ := bind_eq_ok.mp h
      exact ih h (setFlag_someSuffix hnext ho)

theorem setValue_someSuffix {o o' : Options} {value : String} {name : OptionName}
    (h : setValue o value name = .ok o') (ho : o.SomeSuffix) : o'.SomeSuffix := by
  cases name with
  | ext =>
      simp only [setValue, Except.ok.injEq] at h
      subst h
      simp [Options.SomeSuffix]
  | format =>
      simp only [setValue] at h
      split at h
      · cases h
        exact ho
      · split at h
        · cases h
          exact ho
        · cases h
  | _ =>
      simp only [setValue, Except.ok.injEq] at h
      subst h
      exact ho

/-- The value that goes with a word of options, which may be the next word. -/
def Cluster.takeValue (c : Cluster) (rest : List Word) :
    Except Halt (Option (OptionName × String) × List Word) :=
  match c.last, rest with
  | none, rest => .ok (none, rest)
  | some (name, some value), rest => .ok (some (name, value), rest)
  | some (name, none), .argument value :: rest => .ok (some (name, value), rest)
  | some (name, none), _ => .error (.usage (.missingValue name))

/-- Sets the last option of a word, if it takes a value. -/
def setLast (o : Options) : Option (OptionName × String) → Except Halt Options
  | none => .ok o
  | some (name, value) => setValue o value name

theorem readOption_eq (draft : Draft) (o : Occurrence) (rest : List Word) :
    readOption draft o rest = (do
      let c ← o.cluster.mapError Halt.usage
      let taken ← c.takeValue rest
      let flagged ← c.flags.foldlM setFlag draft.options
      let options ← setLast flagged taken.1
      return ({ draft with options, extras := draft.extras ++ c.extra.toList }, taken.2)) := by
  unfold readOption
  congr 1
  funext c
  -- the rest of the reading is joined to each way of finding the value, so they are gone
  -- through one by one
  obtain ⟨flags, last, extra⟩ := c
  rcases last with - | ⟨name, - | value⟩
  · rfl
  · rcases rest with - | ⟨text | - | -, rest⟩ <;> rfl
  · rfl

theorem readOption_someSuffix {draft draft' : Draft} {o : Occurrence} {rest rest' : List Word}
    (h : readOption draft o rest = .ok (draft', rest'))
    (hd : draft.options.SomeSuffix) : draft'.options.SomeSuffix := by
  rw [readOption_eq] at h
  obtain ⟨c, -, h⟩ := bind_eq_ok.mp h
  obtain ⟨⟨value, rest''⟩, -, h⟩ := bind_eq_ok.mp h
  obtain ⟨flagged, hflagged, h⟩ := bind_eq_ok.mp h
  obtain ⟨options, hoptions, h⟩ := bind_eq_ok.mp h
  cases pure_eq_ok.mp h
  have hflags := setFlags_someSuffix hflagged hd
  cases value with
  | none =>
      cases hoptions
      exact hflags
  | some given => exact setValue_someSuffix hoptions hflags

theorem options_readArgument (draft : Draft) (text : String) :
    (readArgument draft text).options = draft.options := by
  unfold readArgument
  split <;> rfl

theorem options_readTail (draft : Draft) (words : List Word) :
    (readTail draft words).options = draft.options := by
  unfold readTail
  split <;> rfl

theorem readWords_someSuffix {fuel : Nat} {draft draft' : Draft} {words : List Word}
    (h : readWords fuel draft words = .ok draft') (hd : draft.options.SomeSuffix) :
    draft'.options.SomeSuffix := by
  induction fuel generalizing draft words with
  | zero =>
      cases h
      exact hd
  | succ fuel ih =>
      unfold readWords at h
      split at h
      · split at h
        · obtain ⟨⟨next, rest⟩, hnext, h⟩ := bind_eq_ok.mp h
          exact ih h (readOption_someSuffix hnext hd)
        · exact ih h hd
        · refine ih h ?_
          rw [options_readArgument]
          exact hd
        · cases h
          exact hd
      · cases h
        rw [options_readTail]
        exact hd

theorem parse_someSuffix {words : List String} {o : Options} (h : parse words = .ok o) :
    o.SomeSuffix := by
  unfold parse at h
  obtain ⟨sorted, -, h⟩ := bind_eq_ok.mp h
  obtain ⟨draft, hdraft, h⟩ := bind_eq_ok.mp h
  have hd : draft.options.SomeSuffix := readWords_someSuffix hdraft (by simp [Options.SomeSuffix])
  unfold Draft.finish at h
  split at h
  · cases h
  · split at h
    · cases h
      exact hd
    · cases h

end CommandLine

/-! ## The table of a settings file -/

namespace SettingsFile

/-- The root of a table, if it has one, is a text. -/
def RootIsText (table : List (String × Value)) : Prop :=
  ∀ v ∈ table.lookup "root", ∃ s, v = .text s

instance decidableIsText : (v : Value) → Decidable (∃ s, v = .text s)
  | .text s => .isTrue ⟨s, rfl⟩
  | .null | .bool _ | .int _ | .double _ | .moment _ | .path _ | .list _ | .table _ =>
      .isFalse (by simp)

instance decidableRootIsText (table : List (String × Value)) : Decidable (RootIsText table) :=
  inferInstanceAs (Decidable (∀ v ∈ table.lookup "root", ∃ s, v = .text s))

theorem rootBelow_eq_ok {path : Path} {v : Value} (h : ∃ root, rootBelow path v = .ok root) :
    ∃ s, v = .text s := by
  obtain ⟨root, hroot⟩ := h
  cases v with
  | text s => exact ⟨s, rfl⟩
  | _ => cases hroot

/-- Only a root that is no text cannot be meant from somewhere. -/
theorem exists_locate_eq_ok {path : Path} {table : List (String × Value)} :
    (∃ values, locate path table = .ok values) ↔ RootIsText table := by
  unfold locate RootIsText
  cases table.lookup "root" with
  | none => simp
  | some v =>
      simp only [bind_eq_ok, Option.mem_def, Option.some.injEq, forall_eq']
      constructor
      · rintro ⟨values, root, hroot, -⟩
        exact rootBelow_eq_ok ⟨root, hroot⟩
      · rintro ⟨s, rfl⟩
        exact ⟨_, _, rfl, rfl⟩

/-- A table whose root is meant from somewhere is otherwise the same. -/
theorem lookup_locate {path : Path} {table values : List (String × Value)} {name : String}
    (h : locate path table = .ok values) (hname : name ≠ "root") :
    values.lookup name = table.lookup name := by
  unfold locate at h
  cases hroot : table.lookup "root" with
  | none =>
      simp only [hroot, Except.ok.injEq] at h
      rw [h]
  | some v =>
      simp only [hroot] at h
      obtain ⟨root, -, h⟩ := bind_eq_ok.mp h
      obtain rfl := pure_eq_ok.mp h
      rw [List.lookup_cons, beq_false_of_ne hname]

/-- The table of a settings file. -/
def tableOf (fs : FileSystem) (path : Path) : Except Failure (List (String × Value)) :=
  readDocument fs path >>= section? path

theorem refuseName_eq_error {operation name : String} {overrides : List (String × Value)}
    {f : Failure} :
    refuseName operation name overrides = .error f ↔
      (∃ v, overrides.lookup name = some v) ∧ f = .shape (.givenTwice operation name) := by
  unfold refuseName
  cases overrides.lookup name with
  | none => simp
  | some v => simp [eq_comm]

theorem refuseName_eq_ok {operation name : String} {overrides : List (String × Value)} :
    refuseName operation name overrides = .ok () ↔ overrides.lookup name = none := by
  unfold refuseName
  cases overrides.lookup name with
  | none => simp
  | some v => simp

theorem load_eq (fs : FileSystem) (path : Path) (overrides : List (String × Value)) :
    load fs path overrides =
      refuseName "load_config" "path" overrides >>= fun _ =>
        tableOf fs path >>= fun table => locate path table >>= fun values =>
          refuseName "build_config" "values" overrides >>= fun _ => build values overrides := by
  unfold load tableOf
  congr 1
  funext _
  cases readDocument fs path with
  | error e => rfl
  | ok document => simp only [ok_bind]

end SettingsFile

namespace CommandLine

/-- The settings file that a command line consults: one that is named, even where none is
to be found, and otherwise one that is found. -/
def consulted (fs : FileSystem) (o : Options) : Option Path :=
  o.config.or (if o.noConfig then none else SettingsFile.discover? fs o.root)

/-- The table that is consulted; without a file it is empty. -/
def Offers (fs : FileSystem) : Option Path → List (String × Value) → Prop
  | none, table => table = []
  | some path, table => SettingsFile.tableOf fs path = .ok table

theorem result_settingsPath (fs : FileSystem) (o : Options) :
    (settingsPath fs o).result = .ok (consulted fs o) := by
  unfold settingsPath consulted
  cases o.config with
  | some path => rfl
  | none =>
      rw [Option.none_or]
      cases o.noConfig with
      | true => rfl
      | false =>
          simp only [Bool.false_eq_true, if_false]
          cases SettingsFile.discover? fs o.root with
          | none => rfl
          | some path => rfl

/-- The settings that an option can go over. -/
def overridable : List String :=
  ["root", "ignored", "extensions", "report_diagnostics", "strict", "unsafe_policy"]

/-- No option goes over anything but settings, so none has a name that is refused. -/
theorem load_overrides (fs : FileSystem) (path : Path) (o : Options) :
    SettingsFile.load fs path o.overrides =
      SettingsFile.tableOf fs path >>= fun table =>
        SettingsFile.locate path table >>= fun values =>
          SettingsFile.build values o.overrides := by
  have hfree (operation name : String) (h : name ∉ overridable) :
      SettingsFile.refuseName operation name o.overrides = .ok () :=
    SettingsFile.refuseName_eq_ok.mpr (Settings.lookup_eq_none_of_notMem h)
  simp only [SettingsFile.load_eq, hfree _ "path" (by decide), hfree _ "values" (by decide),
    ok_bind]

/-- The settings are built over the table that is consulted. -/
theorem result_resolveSettings_of_offers {fs : FileSystem} {o : Options}
    {table : List (String × Value)} (htable : Offers fs (consulted fs o) table)
    (hroot : SettingsFile.RootIsText table) :
    ∃ values, (resolveSettings fs o).result = SettingsFile.build values o.overrides ∧
      ∀ name, name ≠ "root" → values.lookup name = table.lookup name := by
  simp only [resolveSettings, Run.result_bind, result_settingsPath, ok_bind]
  cases hpath : consulted fs o with
  | none =>
      rw [hpath] at htable
      exact ⟨[], rfl, fun name _ => by rw [htable]⟩
  | some path =>
      rw [hpath] at htable
      obtain ⟨values, hvalues⟩ := SettingsFile.exists_locate_eq_ok.mpr hroot
      refine ⟨values, ?_, fun name hname => SettingsFile.lookup_locate hvalues hname⟩
      show SettingsFile.load fs path o.overrides = _
      rw [load_overrides, htable, ok_bind, hvalues, ok_bind]

theorem exists_offers_of_resolveSettings {fs : FileSystem} {o : Options} {s : Settings}
    (h : (resolveSettings fs o).result = .ok s) :
    ∃ table, Offers fs (consulted fs o) table ∧ SettingsFile.RootIsText table := by
  simp only [resolveSettings, Run.result_bind, result_settingsPath, ok_bind] at h
  cases hpath : consulted fs o with
  | none => exact ⟨[], rfl, fun v hv => by cases hv⟩
  | some path =>
      simp only [hpath, Run.result_ofExcept, load_overrides] at h
      obtain ⟨table, htable, h⟩ := bind_eq_ok.mp h
      obtain ⟨values, hvalues, -⟩ := bind_eq_ok.mp h
      exact ⟨table, htable, SettingsFile.exists_locate_eq_ok.mp ⟨values, hvalues⟩⟩

/-! ## The values of a command line -/

/-- The settings that a command line gives itself. -/
inductive Options.Gives (o : Options) : String → Prop where
  | root : o.Gives "root"
  | ignored : o.ignore ≠ none → o.Gives "ignored"
  | extensions : o.extensions ≠ none → o.Gives "extensions"
  | report : o.report = true → o.Gives "report_diagnostics"
  | strict : o.strict = true → o.Gives "strict"
  | unsafePolicy : o.allowUnsafe = true → o.Gives "unsafe_policy"

theorem Options.Gives.mem_overridable {o : Options} {name : String} (h : o.Gives name) :
    name ∈ overridable := by
  cases h <;> decide

theorem overrides_nodup (o : Options) : (o.overrides.map Prod.fst).Nodup := by
  show overridable.Nodup
  decide

theorem of_isGiven_flagValue {name : String} {given : Bool} {v : Value}
    (h : Settings.isGiven (name, flagValue given v) = true) : given = true := by
  cases given with
  | true => rfl
  | false => cases h

section Given

variable (o : Options)

theorem given?_root : Settings.given? o.overrides "root" = some (.path o.root) := by
  rw [Settings.given?_of_nodup (overrides_nodup o)]
  rfl

theorem given?_ignored : Settings.given? o.overrides "ignored" = o.ignore.map .text := by
  rw [Settings.given?_of_nodup (overrides_nodup o)]
  show (some (Value.ofText? o.ignore)).filter _ = _
  cases o.ignore <;> rfl

theorem given?_extensions :
    Settings.given? o.overrides "extensions" =
      o.extensions.map fun names => .list (names.map .text) := by
  rw [Settings.given?_of_nodup (overrides_nodup o)]
  unfold Options.overrides
  cases o.extensions <;> rfl

theorem given?_report :
    Settings.given? o.overrides "report_diagnostics" =
      if o.report then some (.bool true) else none := by
  rw [Settings.given?_of_nodup (overrides_nodup o)]
  unfold Options.overrides
  cases o.report <;> rfl

theorem given?_strict :
    Settings.given? o.overrides "strict" =
      if o.strict then some (.bool true) else none := by
  rw [Settings.given?_of_nodup (overrides_nodup o)]
  unfold Options.overrides
  cases o.strict <;> rfl

theorem given?_unsafePolicy :
    Settings.given? o.overrides "unsafe_policy" =
      if o.allowUnsafe then some (.text UnsafePolicy.warn.name) else none := by
  rw [Settings.given?_of_nodup (overrides_nodup o)]
  unfold Options.overrides
  cases o.allowUnsafe <;> rfl

/-- What a command line gives is there, and nothing else. -/
theorem given?_eq_none_iff {name : String} :
    Settings.given? o.overrides name = none ↔ ¬ o.Gives name := by
  constructor
  · intro h hgives
    cases hgives with
    | root =>
        rw [given?_root] at h
        cases h
    | ignored hgiven =>
        rw [given?_ignored, Option.map_eq_none_iff] at h
        exact hgiven h
    | extensions hgiven =>
        rw [given?_extensions, Option.map_eq_none_iff] at h
        exact hgiven h
    | report hgiven =>
        rw [given?_report, if_pos hgiven] at h
        cases h
    | strict hgiven =>
        rw [given?_strict, if_pos hgiven] at h
        cases h
    | unsafePolicy hgiven =>
        rw [given?_unsafePolicy, if_pos hgiven] at h
        cases h
  · intro h
    rw [Settings.given?, List.lookup_eq_none_iff]
    intro entry hentry
    rw [bne_iff_ne]
    rintro rfl
    obtain ⟨hmem, hgiven⟩ := List.mem_filter.mp hentry
    simp only [Options.overrides, List.mem_cons, List.not_mem_nil, or_false] at hmem
    refine h ?_
    rcases hmem with rfl | rfl | rfl | rfl | rfl | rfl
    · exact .root
    · refine .ignored fun hnone => ?_
      rw [hnone] at hgiven
      cases hgiven
    · refine .extensions fun hnone => ?_
      simp only [hnone] at hgiven
      cases hgiven
    · exact .report (of_isGiven_flagValue hgiven)
    · exact .strict (of_isGiven_flagValue hgiven)
    · exact .unsafePolicy (of_isGiven_flagValue hgiven)

end Given

/-! ## The three layers -/

/-- Settings of which each one comes from its own layer. -/
structure Layers (o : Options) (table : List (String × Value)) (s : Settings) : Prop where
  root : s.root = o.root
  extensions : Wins (o.extensions.map (·.map Settings.dotted)) (table.lookup "extensions")
    Settings.ReadsSuffixes [".rs"] s.extensions
  ignored : Wins (o.ignore.map ignoreList) (table.lookup "ignored")
    (fun v a => Settings.names v = .ok a) [] s.ignored
  foreignAbi : Takes (table.lookup "foreign_abi") (fun v a => Field.text v = .ok a) "C"
    s.foreignAbi
  inlineMarker : Takes (table.lookup "inline_marker") (fun v a => Field.text v = .ok a)
    "inline" s.inlineMarker
  noPanicMarker : Takes (table.lookup "no_panic_marker") (fun v a => Field.text v = .ok a)
    "no_panic" s.noPanicMarker
  unsafePolicy : Wins (if o.allowUnsafe then some .warn else none)
    (table.lookup "unsafe_policy") (fun v a => Field.choice UnsafePolicy.names v = .ok a)
    .exclude s.unsafePolicy
  reportDiagnostics : Wins (if o.report then some true else none)
    (table.lookup "report_diagnostics") (fun v a => Field.bool v = .ok a) false
    s.reportDiagnostics
  strict : Wins (if o.strict then some true else none) (table.lookup "strict")
    (fun v a => Field.bool v = .ok a) false s.strict

/-- Suffixes of a command line are taken with their dots. -/
theorem readsSuffixes_texts {o : Options} (ho : o.SomeSuffix) {given names : List String}
    (hgiven : o.extensions = some given) :
    Settings.ReadsSuffixes (.list (given.map .text)) names ↔ names = given.map Settings.dotted := by
  have hne : given ≠ [] := by
    rintro rfl
    exact ho hgiven
  rw [Settings.ReadsSuffixes, Settings.suffixes_texts, Except.ok.injEq]
  constructor
  · rintro ⟨rfl, -⟩
    rfl
  · rintro rfl
    exact ⟨rfl, by simpa using hne⟩

theorem names_text {text : String} {names : List String} :
    Settings.names (.text text) = .ok names ↔ names = ignoreList text := by
  rw [Settings.names, Checked.ok.injEq, eq_comm]

section Layers

variable {o : Options} {table values : List (String × Value)} {name : String}
  (hvalues : ∀ name, name ≠ "root" → values.lookup name = table.lookup name)

include hvalues

/-- A setting that no option goes over comes from the table. -/
theorem lookup_merge_of_not_gives (h : ¬ o.Gives name) :
    (Settings.merge values o.overrides).lookup name = table.lookup name := by
  have hroot : name ≠ "root" := by
    rintro rfl
    exact h .root
  rw [Settings.lookup_merge, (given?_eq_none_iff o).mpr h, Option.none_or, hvalues name hroot]

/-- A setting that an option goes over comes from the option, if that is given. -/
theorem takes_merge_iff {β : Type} {given : Option β} {asValue : β → Value} {coerced : β → α}
    (Reads : Value → α → Prop) (absent a : α) (hname : name ≠ "root")
    (hgiven : Settings.given? o.overrides name = given.map asValue)
    (hreads : ∀ b, given = some b → (Reads (asValue b) a ↔ a = coerced b)) :
    Takes ((Settings.merge values o.overrides).lookup name) Reads absent a ↔
      Wins (given.map coerced) (table.lookup name) Reads absent a := by
  rw [Settings.lookup_merge, hgiven, hvalues name hname]
  cases given with
  | none => exact Iff.rfl
  | some b => exact hreads b rfl

/-- A setting that a flag goes over comes from the flag, if that is given. -/
theorem takes_merge_flag_iff {flag : Bool} {v : Value} {b : α}
    (Reads : Value → α → Prop) (absent a : α) (hname : name ≠ "root")
    (hgiven : Settings.given? o.overrides name = if flag then some v else none)
    (hreads : Reads v a ↔ a = b) :
    Takes ((Settings.merge values o.overrides).lookup name) Reads absent a ↔
      Wins (if flag then some b else none) (table.lookup name) Reads absent a := by
  rw [Settings.lookup_merge, hgiven, hvalues name hname]
  cases flag with
  | false => exact Iff.rfl
  | true => exact hreads

theorem readFrom_merge_iff {s : Settings} (ho : o.SomeSuffix) :
    Settings.ReadFrom (Settings.merge values o.overrides) s ↔ Layers o table s := by
  have hroot : Takes ((Settings.merge values o.overrides).lookup "root")
      (fun v a => Settings.path v = .ok a) .current s.root ↔ s.root = o.root := by
    rw [Settings.lookup_merge, given?_root]
    show Checked.ok o.root = .ok s.root ↔ _
    rw [Checked.ok.injEq, eq_comm]
  have hextensions := takes_merge_iff hvalues Settings.ReadsSuffixes [".rs"] s.extensions
    (by decide) (given?_extensions o) fun b hb => readsSuffixes_texts ho hb
  have hignored := takes_merge_iff hvalues (fun v a => Settings.names v = .ok a) [] s.ignored
    (by decide) (given?_ignored o) fun b _ => names_text
  have hpolicy := takes_merge_flag_iff hvalues
    (fun v a => Field.choice UnsafePolicy.names v = .ok a) .exclude s.unsafePolicy
    (by decide) (given?_unsafePolicy o) Settings.choice_policy
  have hreport := takes_merge_flag_iff hvalues (fun v a => Field.bool v = .ok a) false
    s.reportDiagnostics (by decide) (given?_report o) Field.bool_bool
  have hstrict := takes_merge_flag_iff hvalues (fun v a => Field.bool v = .ok a) false
    s.strict (by decide) (given?_strict o) Field.bool_bool
  have habi := @lookup_merge_of_not_gives o table values "foreign_abi" hvalues
    fun h => absurd h.mem_overridable (by decide)
  have hinline := @lookup_merge_of_not_gives o table values "inline_marker" hvalues
    fun h => absurd h.mem_overridable (by decide)
  have hnoPanic := @lookup_merge_of_not_gives o table values "no_panic_marker" hvalues
    fun h => absurd h.mem_overridable (by decide)
  constructor
  · intro h
    exact ⟨hroot.mp h.root, hextensions.mp h.extensions, hignored.mp h.ignored,
      habi ▸ h.foreignAbi, hinline ▸ h.inlineMarker, hnoPanic ▸ h.noPanicMarker,
      hpolicy.mp h.unsafePolicy, hreport.mp h.reportDiagnostics, hstrict.mp h.strict⟩
  · intro h
    exact ⟨hroot.mpr h.root, hextensions.mpr h.extensions, hignored.mpr h.ignored,
      habi ▸ h.foreignAbi, hinline ▸ h.inlineMarker, hnoPanic ▸ h.noPanicMarker,
      hpolicy.mpr h.unsafePolicy, hreport.mpr h.reportDiagnostics, hstrict.mpr h.strict⟩

/-- Tables that agree on what a command line does not give lead to the same settings, or
to the same errors. -/
theorem build_overrides_congr {table' values' : List (String × Value)}
    (hvalues' : ∀ name, name ≠ "root" → values'.lookup name = table'.lookup name)
    (h : ∀ name ∈ Settings.fieldNames, ¬ o.Gives name → table.lookup name = table'.lookup name) :
    SettingsFile.build values o.overrides = SettingsFile.build values' o.overrides := by
  refine SettingsFile.build_congr fun name hname => ?_
  -- a setting that is given hides the entries of both tables
  by_cases hgives : o.Gives name
  · obtain ⟨v, hv⟩ : ∃ v, Settings.given? o.overrides name = some v := by
      rw [← Option.ne_none_iff_exists']
      exact fun hnone => (given?_eq_none_iff o).mp hnone hgives
    rw [Settings.lookup_merge, Settings.lookup_merge, hv, Option.some_or, Option.some_or]
  · rw [lookup_merge_of_not_gives hvalues hgives, lookup_merge_of_not_gives hvalues' hgives,
      h name hname hgives]

end Layers

/-- The settings file that counts is the one that is named, or else the one that is found
unless that is not wanted. Settings that come out are those whose root is that of the
command line and whose other values come from the first layer that has them. And two
tables that agree on what the command line does not give itself lead to the same result,
whatever else they hold. -/
theorem resolveSettings_precedence {words : List String} {o : Options}
    (h : CommandLine.parse words = .ok o) (fs : FileSystem) :
    (settingsPath fs o).result =
        .ok (o.config.or (if o.noConfig then none else SettingsFile.discover? fs o.root)) ∧
      (∀ s, (resolveSettings fs o).result = .ok s ↔
        ∃ table, Offers fs (consulted fs o) table ∧ SettingsFile.RootIsText table ∧
          Layers o table s) ∧
      ∀ (fs' : FileSystem) (config : Option Path) (noConfig : Bool)
        (table table' : List (String × Value)),
        Offers fs (consulted fs o) table → SettingsFile.RootIsText table →
        Offers fs' (consulted fs' { o with config, noConfig }) table' →
        SettingsFile.RootIsText table' →
        (∀ name ∈ Settings.fieldNames, ¬ o.Gives name →
          table.lookup name = table'.lookup name) →
        (resolveSettings fs o).result =
          (resolveSettings fs' { o with config, noConfig }).result := by
  refine ⟨result_settingsPath fs o, fun s => ⟨fun hs => ?_, ?_⟩, ?_⟩
  · obtain ⟨table, htable, hroot⟩ := exists_offers_of_resolveSettings hs
    obtain ⟨values, hbuild, hvalues⟩ := result_resolveSettings_of_offers htable hroot
    rw [hbuild, SettingsFile.build_eq_ok, readFrom_merge_iff hvalues (parse_someSuffix h)] at hs
    exact ⟨table, htable, hroot, hs⟩
  · rintro ⟨table, htable, hroot, hs⟩
    obtain ⟨values, hbuild, hvalues⟩ := result_resolveSettings_of_offers htable hroot
    rw [hbuild, SettingsFile.build_eq_ok, readFrom_merge_iff hvalues (parse_someSuffix h)]
    exact hs
  · intro fs' config noConfig table table' htable hroot htable' hroot' hagree
    obtain ⟨values, hbuild, hvalues⟩ := result_resolveSettings_of_offers htable hroot
    obtain ⟨values', hbuild', hvalues'⟩ := result_resolveSettings_of_offers htable' hroot'
    rw [hbuild, hbuild']
    exact build_overrides_congr hvalues hvalues' hagree

/-- Two settings files; the ignored names in the first one are no names. -/
def twoTables : FileSystem :=
  ⟨[(["a.toml"], .file (Text.Utf8.encode "[analyze]\nroot = \"lib\"\nignored = 3\n".toList)),
    (["b.toml"], .file (Text.Utf8.encode "[analyze]\nignored = \"sin\"\n".toList))]⟩

/-- The options that name a settings file and give an empty text of ignored names. -/
def namingFile (file : String) : Options :=
  { root := .parse "src", ignore := some "", config := some (.parse file), noConfig := true }

theorem offers_only {path : Path} {keys : List String}
    (h : ∃ table, SettingsFile.tableOf twoTables path = .ok table ∧
      (SettingsFile.RootIsText table ∧ table.map Prod.fst = keys)) :
    ∃ table, Offers twoTables (some path) table ∧ SettingsFile.RootIsText table ∧
      ∀ name, name ∉ keys → table.lookup name = none := by
  obtain ⟨table, htable, hroot, rfl⟩ := h
  exact ⟨table, htable, hroot, fun name => Settings.lookup_eq_none_of_notMem⟩

/-- The empty text counts as given, so the two files give the same settings, although
without it one of them gives none. -/
theorem resolveSettings_precedence_twoTables :
    CommandLine.parse ["--ignore", "", "--config", "a.toml", "--no-config", "src"] =
        .ok (namingFile "a.toml") ∧
      (resolveSettings twoTables (namingFile "a.toml")).result =
        (resolveSettings twoTables (namingFile "b.toml")).result ∧
      (resolveSettings twoTables (namingFile "a.toml")).result =
        .ok { root := .parse "src" } ∧
      ∀ s, (resolveSettings twoTables { namingFile "a.toml" with ignore := none }).result ≠
        .ok s := by
  have hparse : CommandLine.parse ["--ignore", "", "--config", "a.toml", "--no-config", "src"] =
      .ok (namingFile "a.toml") := by decide +kernel
  obtain ⟨-, -, hsame⟩ := resolveSettings_precedence hparse twoTables
  obtain ⟨a, ha, hroot, hnone⟩ :=
    @offers_only (.parse "a.toml") ["root", "ignored"] (by decide +kernel)
  obtain ⟨b, hb, hroot', hnone'⟩ :=
    @offers_only (.parse "b.toml") ["ignored"] (by decide +kernel)
  have hagree : ∀ name ∈ Settings.fieldNames, ¬ (namingFile "a.toml").Gives name →
      a.lookup name = b.lookup name := by
    intro name _ hname
    have hne : name ≠ "root" := by
      rintro rfl
      exact hname .root
    have hne' : name ≠ "ignored" := by
      rintro rfl
      exact hname (.ignored (by decide))
    rw [hnone name (by simp [hne, hne']), hnone' name (by simp [hne'])]
  exact ⟨hparse, hsame twoTables _ true a b ha hroot hb hroot' hagree, by decide +kernel,
    by decide +kernel⟩

end CommandLine
end ApiCatalog
