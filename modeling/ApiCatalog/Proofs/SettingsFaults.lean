import ApiCatalog.Proofs.LongNumbers
import ApiCatalog.Proofs.Precedence

/-!
# What escapes the loading of settings

A settings file that cannot be read, that is no TOML document or that holds wrong values is
refused with a settings failure, and callers are ready for that. Other things stop the loading
with something else (`Escapes`). Of the file these are bytes that are not UTF-8, a whole number
with too many digits, a root that is no text, and suffixes that cannot be gone through one by
one. The first three are met before the values of a caller are looked at, so giving a root does
not help; the last is met only where the caller gives no suffixes. Of the caller it is a value
that has the name of the path or of the table.

The loading goes from one stage to the next, and each has its own ways to let something
through. The main statement is exact: every other failure is a settings failure.

Two limits of a machine have no part in this: values nest as deep as they are written, and a
path may hold the null character like any other.
-/

namespace ApiCatalog

namespace Settings

/-! ## Suffixes that cannot be gone through -/

/-- A value that suffixes cannot be read from, and the fault that is found: it has no items,
or it is a list and the first item that is no text cannot be a suffix. -/
inductive Shapeless : Value → ShapeFault → Prop where
  | noItems {v : Value} (text : ∀ s, v ≠ .text s) (list : ∀ items, v ≠ .list items)
      (table : ∀ fields, v ≠ .table fields) : Shapeless v (.notIterable v.fullKind)
  | item {texts : List String} {v : Value} {rest : List Value} (text : ∀ s, v ≠ .text s) :
      Shapeless (.list (texts.map .text ++ v :: rest)) (.notSuffix v.fullKind)

theorem suffixItem_eq_error {v : Value} {fault : ShapeFault} :
    suffixItem v = .error fault ↔ (∀ s, v ≠ .text s) ∧ fault = .notSuffix v.fullKind := by
  cases v <;> simp [suffixItem, eq_comm]

theorem exists_suffixItem_eq_ok {v : Value} :
    (∃ suffix, suffixItem v = .ok suffix) ↔ ∃ s, v = .text s := by
  cases v <;> simp [suffixItem]

theorem exists_map_text {items : List Value} (h : ∀ v ∈ items, ∃ s, v = .text s) :
    ∃ texts : List String, items = texts.map .text := by
  induction items with
  | nil => exact ⟨[], rfl⟩
  | cons v items ih =>
      obtain ⟨⟨s, rfl⟩, hitems⟩ := List.forall_mem_cons.mp h
      obtain ⟨texts, rfl⟩ := ih hitems
      exact ⟨s :: texts, rfl⟩

theorem suffixes_list_eq_error {items : List Value} {fault : ShapeFault} :
    suffixes (.list items) = .error fault ↔ Shapeless (.list items) fault := by
  show items.mapM suffixItem = .error fault ↔ _
  rw [mapM_eq_error]
  constructor
  · rintro ⟨before, v, after, rfl, hbefore, hv⟩
    obtain ⟨htext, rfl⟩ := suffixItem_eq_error.mp hv
    obtain ⟨texts, rfl⟩ := exists_map_text fun w hw =>
      exists_suffixItem_eq_ok.mp (hbefore w hw)
    exact .item htext
  · intro h
    generalize hw : Value.list items = w at h
    cases h with
    | noItems _ list _ => exact absurd hw.symm (list items)
    | @item texts v rest htext =>
        cases hw
        refine ⟨texts.map .text, v, rest, rfl, fun w hw => ?_, suffixItem_eq_error.mpr ⟨htext, rfl⟩⟩
        obtain ⟨s, -, rfl⟩ := List.mem_map.mp hw
        exact ⟨dotted s, rfl⟩

/-- A table stands for the list of its keys, and those are texts. -/
theorem suffixes_table (fields : List (String × Value)) :
    suffixes (.table fields) = .ok ((fields.map Prod.fst).map dotted) := by
  have hkeys : (fields.map fun field => Value.text field.1) = (fields.map Prod.fst).map .text := by
    rw [List.map_map]
    rfl
  rw [← suffixes_texts]
  show (fields.map fun field => Value.text field.1).mapM suffixItem = _
  rw [hkeys]
  rfl

theorem suffixes_eq_error {v : Value} {fault : ShapeFault} :
    suffixes v = .error fault ↔ Shapeless v fault := by
  cases v with
  | list items => exact suffixes_list_eq_error
  | text s =>
      constructor
      · intro h
        cases h
      · rintro (⟨text, -, -⟩)
        exact absurd rfl (text s)
  | table fields =>
      rw [suffixes_table]
      constructor
      · intro h
        cases h
      · rintro (⟨-, -, table⟩)
        exact absurd rfl (table fields)
  | _ =>
      constructor
      · intro h
        cases h
        exact .noItems (by simp) (by simp) (by simp)
      · rintro ⟨⟩
        rfl

/-- Suffixes are read before any setting is checked, and they alone can stop that. -/
theorem build_eq_error {values overrides : List (String × Value)} {fault : ShapeFault} :
    build values overrides = .error fault ↔
      ∃ v, (merge values overrides).lookup "extensions" = some v ∧ Shapeless v fault := by
  have hread : build values overrides = .error fault ↔
      ((merge values overrides).lookup "extensions").mapM suffixes = .error fault := by
    unfold build
    dsimp only
    rw [bind_eq_error]
    refine or_iff_left ?_
    rintro ⟨given, -, h⟩
    cases h
  rw [hread]
  cases (merge values overrides).lookup "extensions" with
  | none =>
      constructor
      · intro h
        cases h
      · rintro ⟨v, hv, -⟩
        cases hv
  | some v =>
      rw [show (some v).mapM suffixes = (suffixes v).map some from rfl, map_eq_error,
        suffixes_eq_error]
      simp

/-! ## Values of the right type -/

/-- A value of the type of its setting. `null` leaves the setting alone, and a value that
belongs to no setting is not looked at. -/
inductive WellTyped : String → Value → Prop where
  | null (name : String) : WellTyped name .null
  | root (p : Path) : WellTyped "root" (.path p)
  | rootText (s : String) : WellTyped "root" (.text s)
  | suffixes (texts : List String) : WellTyped "extensions" (.list (texts.map .text))
  | suffix (s : String) : WellTyped "extensions" (.text s)
  | names (texts : List String) : WellTyped "ignored" (.list (texts.map .text))
  | nameText (s : String) : WellTyped "ignored" (.text s)
  | text {name : String} (h : name ∈ ["foreign_abi", "inline_marker", "no_panic_marker"])
      (s : String) : WellTyped name (.text s)
  | policy (p : UnsafePolicy) : WellTyped "unsafe_policy" (.text p.name)
  | bool {name : String} (h : name ∈ ["report_diagnostics", "strict"]) (b : Bool) :
      WellTyped name (.bool b)
  | other {name : String} (h : name ∉ fieldNames) (v : Value) : WellTyped name v

/-- Suffixes of the right type can be gone through. -/
theorem WellTyped.not_shapeless {v : Value} {fault : ShapeFault}
    (h : WellTyped "extensions" v) (hgiven : isGiven ("extensions", v) = true) :
    ¬ Shapeless v fault := by
  rw [← suffixes_eq_error]
  generalize hname : "extensions" = name at h
  cases h with
  | null => cases hgiven
  | suffixes texts =>
      rw [suffixes_texts]
      intro h
      cases h
  | suffix s =>
      intro h
      cases h
  | root | rootText | names | nameText | policy => exact absurd hname (by decide)
  | text h | bool h =>
      subst hname
      exact absurd h (by decide)
  | other h =>
      subst hname
      exact absurd (show "extensions" ∈ fieldNames by decide) h

theorem wellTyped_of_given? {overrides : List (String × Value)} {name : String} {v : Value}
    (h : ∀ o ∈ overrides, WellTyped o.1 o.2) (hv : given? overrides name = some v) :
    WellTyped name v ∧ isGiven (name, v) = true := by
  obtain ⟨before, after, hsplit, -⟩ := List.lookup_eq_some_iff.mp hv
  have hmem : (name, v) ∈ overrides.filter isGiven := by
    rw [hsplit]
    exact List.mem_append_right _ List.mem_cons_self
  obtain ⟨hmem, hgiven⟩ := List.mem_filter.mp hmem
  exact ⟨h _ hmem, hgiven⟩

end Settings

namespace SettingsFile

variable {fs : FileSystem} {path : Path} {f : Failure}

/-! ## The stages -/

theorem readText_eq_encoding {fault : Text.Utf8.Fault} :
    fs.readText path = .error (.encoding fault) ↔
      ∃ bytes, fs.read path = .ok bytes ∧ Text.Utf8.decode bytes = .error fault := by
  unfold FileSystem.readText FileSystem.readDecoded
  cases fs.read path with
  | error e => simp [Except.map, Except.mapError]
  | ok bytes =>
      cases hdecode : Text.Utf8.decode bytes with
      | error fault' => simp [Except.map, Except.mapError, hdecode]
      | ok text => simp [Except.map, Except.mapError, hdecode]

/-- Of the table of a file the encoding escapes, and a number that is too long. -/
theorem tableOf_escapes_iff :
    (tableOf fs path = .error f ∧ ∀ g, f ≠ .settings g) ↔
      (∃ bytes fault, fs.read path = .ok bytes ∧ Text.Utf8.decode bytes = .error fault ∧
        f = .encoding fault) ∨
      ∃ text digits, fs.readText path = .ok text ∧
        Toml.read text = .error (.oversized digits) ∧ f = .oversized digits := by
  constructor
  · rintro ⟨h, hf⟩
    rcases bind_eq_error.mp h with h | ⟨document, -, h⟩
    · unfold readDocument at h
      split at h
      · cases h
        exact absurd rfl (hf _)
      · next fault htext =>
          cases h
          obtain ⟨bytes, hread, hdecode⟩ := readText_eq_encoding.mp htext
          exact .inl ⟨bytes, fault, hread, hdecode, rfl⟩
      · next text htext =>
          obtain ⟨refusal, hread, rfl⟩ := mapError_eq_error.mp h
          cases refusal with
          | malformed fault => exact absurd rfl (hf _)
          | oversized digits => exact .inr ⟨text, digits, htext, hread, rfl⟩
    · unfold section? at h
      split at h
      · cases h
      · cases h
      · cases h
        exact absurd rfl (hf _)
  · rintro (⟨bytes, fault, hread, hdecode, rfl⟩ | ⟨text, digits, htext, hread, rfl⟩)
    · have htext := readText_eq_encoding.mpr ⟨bytes, hread, hdecode⟩
      refine ⟨?_, by simp⟩
      rw [tableOf, readDocument, htext, error_bind]
    · refine ⟨?_, by simp⟩
      rw [tableOf, readDocument, htext]
      simp only [hread]
      rfl

/-- A root that is no text cannot be meant from somewhere. -/
theorem locate_eq_error {table : List (String × Value)} :
    locate path table = .error f ↔
      ∃ v, table.lookup "root" = some v ∧ (∀ s, v ≠ .text s) ∧
        f = .shape (.notPathLike v.kind) := by
  unfold locate
  cases table.lookup "root" with
  | none => simp
  | some v =>
      simp only [bind_eq_error, Option.some.injEq, exists_eq_left']
      constructor
      · rintro (h | ⟨root, -, h⟩)
        · cases v with
          | text s => cases h
          | _ =>
              cases h
              exact ⟨by simp, rfl⟩
        · cases h
      · rintro ⟨htext, rfl⟩
        refine .inl ?_
        cases v with
        | text s => exact absurd rfl (htext s)
        | _ => rfl

/-- Of the values only suffixes that cannot be gone through escape. -/
theorem build_escapes_iff {values overrides : List (String × Value)} :
    (build values overrides = .error f ∧ ∀ g, f ≠ .settings g) ↔
      ∃ v fault, (Settings.merge values overrides).lookup "extensions" = some v ∧
        Settings.Shapeless v fault ∧ f = .shape fault := by
  constructor
  · rintro ⟨h, hf⟩
    unfold build at h
    split at h
    · next fault hbuild =>
        cases h
        obtain ⟨v, hv, hshape⟩ := Settings.build_eq_error.mp hbuild
        exact ⟨v, fault, hv, hshape, rfl⟩
    · cases h
      exact absurd rfl (hf _)
    · cases h
  · rintro ⟨v, fault, hv, hshape, rfl⟩
    have hbuild := Settings.build_eq_error.mpr ⟨v, hv, hshape⟩
    refine ⟨?_, by simp⟩
    rw [build, hbuild]

/-! ## Loading -/

/-- What stops the loading of settings without being a settings failure. -/
inductive Escapes (fs : FileSystem) (path : Path) (overrides : List (String × Value)) :
    Failure → Prop where
  /-- A path is given again by name. -/
  | path {v : Value} (given : overrides.lookup "path" = some v) :
      Escapes fs path overrides (.shape (.givenTwice "load_config" "path"))
  /-- The bytes of the file are not UTF-8. -/
  | encoding {bytes : List UInt8} {fault : Text.Utf8.Fault}
      (free : overrides.lookup "path" = none) (read : fs.read path = .ok bytes)
      (decode : Text.Utf8.decode bytes = .error fault) : Escapes fs path overrides (.encoding fault)
  /-- A whole number in the file has too many digits. -/
  | oversized {text : List Char} {digits : Nat} (free : overrides.lookup "path" = none)
      (text_eq : fs.readText path = .ok text)
      (read : Toml.read text = .error (.oversized digits)) :
      Escapes fs path overrides (.oversized digits)
  /-- The file has a root that is no text. -/
  | root {table : List (String × Value)} {v : Value} (free : overrides.lookup "path" = none)
      (table_eq : tableOf fs path = .ok table) (root_eq : table.lookup "root" = some v)
      (text : ∀ s, v ≠ .text s) : Escapes fs path overrides (.shape (.notPathLike v.kind))
  /-- A table is given again by name. -/
  | values {table : List (String × Value)} {v : Value} (free : overrides.lookup "path" = none)
      (table_eq : tableOf fs path = .ok table) (root : RootIsText table)
      (given : overrides.lookup "values" = some v) :
      Escapes fs path overrides (.shape (.givenTwice "build_config" "values"))
  /-- The file has suffixes that cannot be gone through, and no others are given. -/
  | suffixes {table : List (String × Value)} {v : Value} {fault : ShapeFault}
      (free : overrides.lookup "path" = none) (table_eq : tableOf fs path = .ok table)
      (root : RootIsText table) (free' : overrides.lookup "values" = none)
      (given : Settings.given? overrides "extensions" = none)
      (suffixes_eq : table.lookup "extensions" = some v) (shape : Settings.Shapeless v fault) :
      Escapes fs path overrides (.shape fault)

theorem load_of_escapes {overrides : List (String × Value)} (h : Escapes fs path overrides f) :
    load fs path overrides = .error f ∧ ∀ g, f ≠ .settings g := by
  rw [load_eq]
  cases h with
  | path hgiven =>
      rw [refuseName_eq_error.mpr ⟨⟨_, hgiven⟩, rfl⟩, error_bind]
      exact ⟨rfl, by simp⟩
  | encoding hfree hread hdecode =>
      obtain ⟨htable, hf⟩ := tableOf_escapes_iff.mpr (.inl ⟨_, _, hread, hdecode, rfl⟩)
      rw [refuseName_eq_ok.mpr hfree, ok_bind, htable, error_bind]
      exact ⟨rfl, hf⟩
  | oversized hfree htext hread =>
      obtain ⟨htable, hf⟩ := tableOf_escapes_iff.mpr (.inr ⟨_, _, htext, hread, rfl⟩)
      rw [refuseName_eq_ok.mpr hfree, ok_bind, htable, error_bind]
      exact ⟨rfl, hf⟩
  | @root table v hfree htable hroot htext =>
      have hlocate : locate path table = .error _ := locate_eq_error.mpr ⟨v, hroot, htext, rfl⟩
      rw [refuseName_eq_ok.mpr hfree, ok_bind, htable, ok_bind, hlocate, error_bind]
      exact ⟨rfl, by simp⟩
  | @values table v hfree htable hroot hgiven =>
      obtain ⟨values, hvalues⟩ : ∃ values, locate path table = .ok values :=
        exists_locate_eq_ok.mpr hroot
      rw [refuseName_eq_ok.mpr hfree, ok_bind, htable, ok_bind, hvalues, ok_bind,
        refuseName_eq_error.mpr ⟨⟨v, hgiven⟩, rfl⟩, error_bind]
      exact ⟨rfl, by simp⟩
  | @suffixes table v fault hfree htable hroot hfree' hgiven hv hshape =>
      obtain ⟨values, hvalues⟩ : ∃ values, locate path table = .ok values :=
        exists_locate_eq_ok.mpr hroot
      have hmerged : (Settings.merge values overrides).lookup "extensions" = some v := by
        rw [Settings.lookup_merge, hgiven, Option.none_or, lookup_locate hvalues (by decide), hv]
      obtain ⟨hbuild, hf⟩ := build_escapes_iff.mpr ⟨v, fault, hmerged, hshape, rfl⟩
      rw [refuseName_eq_ok.mpr hfree, ok_bind, htable, ok_bind, hvalues, ok_bind,
        refuseName_eq_ok.mpr hfree', ok_bind, hbuild]
      exact ⟨rfl, hf⟩

theorem escapes_of_load {overrides : List (String × Value)}
    (hoverrides : ∀ o ∈ overrides, Settings.WellTyped o.1 o.2)
    (h : load fs path overrides = .error f) (hf : ∀ g, f ≠ .settings g) :
    Escapes fs path overrides f := by
  rw [load_eq] at h
  rcases bind_eq_error.mp h with h | ⟨_, hfree, h⟩
  · obtain ⟨⟨v, hgiven⟩, rfl⟩ := refuseName_eq_error.mp h
    exact .path hgiven
  replace hfree := refuseName_eq_ok.mp hfree
  rcases bind_eq_error.mp h with h | ⟨table, htable, h⟩
  · rcases tableOf_escapes_iff.mp ⟨h, hf⟩ with
      ⟨bytes, fault, hread, hdecode, rfl⟩ | ⟨text, digits, htext, hread, rfl⟩
    · exact .encoding hfree hread hdecode
    · exact .oversized hfree htext hread
  rcases bind_eq_error.mp h with h | ⟨values, hvalues, h⟩
  · obtain ⟨v, hroot, htext, rfl⟩ := locate_eq_error.mp h
    exact .root hfree htable hroot htext
  have hroot : RootIsText table := exists_locate_eq_ok.mp ⟨values, hvalues⟩
  rcases bind_eq_error.mp h with h | ⟨_, hfree', h⟩
  · obtain ⟨⟨v, hgiven⟩, rfl⟩ := refuseName_eq_error.mp h
    exact .values hfree htable hroot hgiven
  replace hfree' := refuseName_eq_ok.mp hfree'
  obtain ⟨v, fault, hv, hshape, rfl⟩ := build_escapes_iff.mp ⟨h, hf⟩
  rw [Settings.lookup_merge] at hv
  cases hgiven : Settings.given? overrides "extensions" with
  | some w =>
      rw [hgiven, Option.some_or] at hv
      cases hv
      obtain ⟨htyped, hw⟩ := Settings.wellTyped_of_given? hoverrides hgiven
      exact absurd hshape (htyped.not_shapeless hw)
  | none =>
      rw [hgiven, Option.none_or, lookup_locate hvalues (by decide)] at hv
      exact .suffixes hfree htable hroot hfree' hgiven hv hshape

/-- Loading with values of the right type over those of the file: what escapes is exactly
what `Escapes` says, with that failure, and where nothing does, there are settings or a
settings failure. What is called a number with too many digits is one in the text of the
file. -/
theorem load_escapes_iff (fs : FileSystem) (path : Path) (overrides : List (String × Value))
    (hoverrides : ∀ o ∈ overrides, Settings.WellTyped o.1 o.2) :
    (∀ f, (load fs path overrides = .error f ∧ ∀ g, f ≠ .settings g) ↔
      Escapes fs path overrides f) ∧
    ((∀ f, ¬ Escapes fs path overrides f) ↔
      (∃ s, load fs path overrides = .ok s) ∨ ∃ g, load fs path overrides = .error (.settings g)) ∧
    ∀ digits, Escapes fs path overrides (.oversized digits) →
      ∃ text, fs.readText path = .ok text ∧ Toml.HoldsLong digits text := by
  have hiff (f : Failure) : (load fs path overrides = .error f ∧ ∀ g, f ≠ .settings g) ↔
      Escapes fs path overrides f :=
    ⟨fun h => escapes_of_load hoverrides h.1 h.2, load_of_escapes⟩
  refine ⟨hiff, ?_, ?_⟩
  · simp only [← hiff]
    cases load fs path overrides with
    | ok s => simp
    | error f => simp
  · rintro digits (- | - | ⟨-, htext, hread⟩)
    exact ⟨_, htext, Toml.holdsLong_of_read hread⟩

/-- The text of a plain key with one digit more than are converted. -/
def longText : List Char :=
  "n".toList ++ ' ' :: '=' :: ' ' :: '1' :: List.replicate Toml.digitLimit '1'

/-- Four settings files: one byte that is no UTF-8, a number that is too long, a number as the
root, a number among the suffixes. -/
def faultyFiles : FileSystem :=
  ⟨[(["bytes.toml"], .file [0xff]),
    (["long.toml"], .file (Text.Utf8.encode longText)),
    (["root.toml"], .file (Text.Utf8.encode "[analyze]\nroot = 3\n".toList)),
    (["suffix.toml"],
      .file (Text.Utf8.encode "[analyze]\nextensions = [\".rs\", 3]\n".toList))]⟩

theorem readText_longText : faultyFiles.readText (.parse "long.toml") = .ok longText := by
  have hread : faultyFiles.read (.parse "long.toml") = .ok (Text.Utf8.encode longText) := rfl
  have hends : '\r' ∉ longText := by simp [longText, List.mem_replicate]
  rw [FileSystem.readText_encode hread, Text.unifyLines_of_not_mem hends]

theorem read_longText : Toml.read longText = .error (.oversized 4301) := by
  have hdigits : ∀ c ∈ '1' :: List.replicate Toml.digitLimit '1', c.isDigit = true := by
    intro c hc
    rcases List.mem_cons.mp hc with rfl | hc
    · rfl
    · rw [List.eq_of_mem_replicate hc]
      rfl
  have hcount : ('1' :: List.replicate Toml.digitLimit '1').length = 4301 := by
    rw [List.length_cons, List.length_replicate]
    rfl
  have hread := Toml.read_long (show Toml.Bare "n" by decide) (by decide) hdigits
    (by rw [hcount]; decide)
  rwa [hcount] at hread

/-- A root and a flag over the values of a file. -/
def givenRoot : List (String × Value) :=
  [("root", .path (.parse "src")), ("strict", .bool true)]

/-- None of the four files gives settings or a settings failure, although a root is given
over that of the third one. A name that is taken escapes from any file that is read. -/
theorem load_escapes_iff_faultyFiles :
    (∀ o ∈ givenRoot, Settings.WellTyped o.1 o.2) ∧
      (∃ fault, load faultyFiles (.parse "bytes.toml") givenRoot = .error (.encoding fault)) ∧
      load faultyFiles (.parse "long.toml") givenRoot = .error (.oversized 4301) ∧
      load faultyFiles (.parse "root.toml") givenRoot = .error (.shape (.notPathLike "int")) ∧
      load faultyFiles (.parse "suffix.toml") givenRoot = .error (.shape (.notSuffix "int")) ∧
      load faultyFiles (.parse "suffix.toml") (("values", .null) :: givenRoot) =
        .error (.shape (.givenTwice "build_config" "values")) := by
  have hgiven : ∀ o ∈ ("values", .null) :: givenRoot, Settings.WellTyped o.1 o.2 := by
    intro o ho
    simp only [givenRoot, List.mem_cons, List.not_mem_nil, or_false] at ho
    rcases ho with rfl | rfl | rfl
    · exact .null _
    · exact .root _
    · exact .bool (by decide) true
  have hgiven' := (List.forall_mem_cons.mp hgiven).2
  have hescapes (path : Path) (f : Failure) (h : Escapes faultyFiles path givenRoot f) :
      load faultyFiles path givenRoot = .error f :=
    (((load_escapes_iff faultyFiles path givenRoot hgiven').1 f).mpr h).1
  obtain ⟨fault, hdecode⟩ : ∃ fault, Text.Utf8.decode [0xff] = .error fault := ⟨_, rfl⟩
  obtain ⟨table, htable, v, hv, htext⟩ : ∃ table,
      tableOf faultyFiles (.parse "root.toml") = .ok table ∧
        ∃ v ∈ table.lookup "root", (¬ ∃ s, v = .text s) ∧ v.kind = "int" := by decide +kernel
  obtain ⟨table', htable', hroot', v', hv', hshape⟩ : ∃ table,
      tableOf faultyFiles (.parse "suffix.toml") = .ok table ∧ RootIsText table ∧
        ∃ v ∈ table.lookup "extensions", Settings.suffixes v = .error (.notSuffix "int") := by
    decide +kernel
  refine ⟨hgiven', ⟨fault, hescapes _ _ (.encoding rfl (by decide +kernel) hdecode)⟩,
    hescapes _ _ (.oversized rfl readText_longText read_longText), hescapes _ _ ?_,
    hescapes _ _ ?_, ?_⟩
  · rw [← htext.2]
    exact .root rfl htable hv fun s hs => htext.1 ⟨s, hs⟩
  · exact .suffixes rfl htable' hroot' rfl (by decide +kernel) hv'
      (Settings.suffixes_eq_error.mp hshape)
  · exact (((load_escapes_iff _ _ _ hgiven).1 _).mpr (.values rfl htable' hroot' rfl)).1

end SettingsFile
end ApiCatalog
