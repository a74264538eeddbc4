import ApiCatalog.SettingsFile
import ApiCatalog.Proofs.Runs

/-!
# Each setting is read from its own entry

Settings are checked field by field, and the check of a field sees one entry of the
table. So settings that were built are described by nine lookups (`ReadFrom`): an entry
that is there is read as the setting, and where there is none the setting has its
default. Everything else about a table is of no account, and two tables that agree on the
nine entries are built alike, down to the errors.

Values given over others are in front of them, so an entry of the merged table is the one
that is given, or else the one below it.
-/

namespace ApiCatalog

variable {α β : Type}

/-! ## Checks side by side -/

namespace Checked

theorem seq_eq_ok {f : Checked (α → β)} {x : Checked α} {b : β} :
    f <*> x = .ok b ↔ ∃ g, f = .ok g ∧ ∃ a, x = .ok a ∧ g a = b := by
  show seq f x = .ok b ↔ _
  cases f with
  | bad es => cases x <;> simp [seq]
  | ok g => cases x <;> simp [seq]

theorem map_eq_ok {f : α → β} {x : Checked α} {b : β} :
    f <$> x = .ok b ↔ ∃ a, x = .ok a ∧ f a = b := by
  show seq (.ok f) x = .ok b ↔ _
  cases x <;> simp [seq]

theorem under_eq_ok {step : FieldStep} {x : Checked α} {a : α} :
    x.under step = .ok a ↔ x = .ok a := by
  cases x <;> simp [under]

end Checked

/-- What a setting is read from: an entry, or the default where there is none. -/
def Takes (entry : Option Value) (Reads : Value → α → Prop) (absent a : α) : Prop :=
  match entry with
  | some v => Reads v a
  | none => a = absent

theorem Field.optional_eq_ok {fields : List (String × Value)} {name : String} {absent a : α}
    {check : Value → Checked α} :
    Field.optional fields name absent check = .ok a ↔
      Takes (fields.lookup name) (fun v a => check v = .ok a) absent a := by
  unfold Field.optional Takes
  cases fields.lookup name with
  | some v => exact Checked.under_eq_ok
  | none => rw [Checked.ok.injEq, eq_comm]

theorem Field.required_of_lookup {fields : List (String × Value)} {name : String}
    {check : Value → Checked α} {v : Value} {a : α} (hentry : fields.lookup name = some v)
    (h : check v = .ok a) : Field.required fields name check = .ok a := by
  rw [Field.required, hentry]
  exact Checked.under_eq_ok.mpr h

theorem Field.optional_of_lookup {fields : List (String × Value)} {name : String} {absent : α}
    {check : Value → Checked α} {v : Value} {a : α} (hentry : fields.lookup name = some v)
    (h : check v = .ok a) : Field.optional fields name absent check = .ok a := by
  rw [Field.optional_eq_ok, hentry]
  exact h

/-! ## Plain values are read as what they are -/

theorem Field.itemsFrom_map {check : Value → Checked α} {plain : α → Value}
    (h : ∀ a, check (plain a) = .ok a) (index : Nat) (items : List α) :
    Field.itemsFrom check index (items.map plain) = .ok items := by
  induction items generalizing index with
  | nil => rfl
  | cons a items ih =>
      rw [List.map_cons, Field.itemsFrom, h, ih]
      rfl

theorem Field.itemsFrom_text (index : Nat) (items : List String) :
    Field.itemsFrom Field.text index (items.map .text) = .ok items :=
  @Field.itemsFrom_map String Field.text Value.text (fun _ => rfl) index items

theorem Field.list_text (items : List String) :
    Field.list Field.text (.list (items.map .text)) = .ok items :=
  Field.itemsFrom_text 0 items

theorem Field.bool_bool {a b : Bool} : Field.bool (.bool b) = .ok a ↔ a = b := by
  rw [Field.bool, Checked.ok.injEq, eq_comm]

namespace Settings

theorem choice_policy {p q : UnsafePolicy} :
    Field.choice UnsafePolicy.names (.text p.name) = .ok q ↔ q = p := by
  have h : Field.choice UnsafePolicy.names (.text p.name) = .ok p := by
    cases p <;> rfl
  rw [h, Checked.ok.injEq, eq_comm]

theorem suffixes_texts (names : List String) :
    suffixes (.list (names.map .text)) = .ok (names.map dotted) := by
  show (names.map Value.text).mapM suffixItem = _
  rw [mapM_eq_ok, List.forall₂_map_left_iff, List.forall₂_map_right_iff, List.forall₂_same]
  intro name _
  rfl

/-! ## Settings as nine lookups -/

/-- The suffixes that an entry stands for; there has to be one. -/
def ReadsSuffixes (v : Value) (names : List String) : Prop :=
  suffixes v = .ok names ∧ names ≠ []

theorem someSuffix_eq_ok {names out : List String} :
    someSuffix names = .ok out ↔ names = out ∧ out ≠ [] := by
  cases names with
  | nil =>
      simp only [someSuffix, Checked.refuse, reduceCtorEq, false_iff, not_and]
      rintro rfl h
      exact h rfl
  | cons name rest =>
      simp only [someSuffix, Checked.ok.injEq, iff_self_and]
      rintro rfl
      exact List.cons_ne_nil _ _

/-- Settings that are read from the entries of a table. -/
structure ReadFrom (fields : List (String × Value)) (s : Settings) : Prop where
  root : Takes (fields.lookup "root") (fun v a => path v = .ok a) .current s.root
  extensions : Takes (fields.lookup "extensions") ReadsSuffixes [".rs"] s.extensions
  ignored : Takes (fields.lookup "ignored") (fun v a => names v = .ok a) [] s.ignored
  foreignAbi : Takes (fields.lookup "foreign_abi") (fun v a => Field.text v = .ok a) "C"
    s.foreignAbi
  inlineMarker : Takes (fields.lookup "inline_marker") (fun v a => Field.text v = .ok a)
    "inline" s.inlineMarker
  noPanicMarker : Takes (fields.lookup "no_panic_marker") (fun v a => Field.text v = .ok a)
    "no_panic" s.noPanicMarker
  unsafePolicy : Takes (fields.lookup "unsafe_policy")
    (fun v a => Field.choice UnsafePolicy.names v = .ok a) .exclude s.unsafePolicy
  reportDiagnostics : Takes (fields.lookup "report_diagnostics")
    (fun v a => Field.bool v = .ok a) false s.reportDiagnostics
  strict : Takes (fields.lookup "strict") (fun v a => Field.bool v = .ok a) false s.strict

/-- The names of the settings. -/
def fieldNames : List String :=
  ["root", "extensions", "ignored", "foreign_abi", "inline_marker", "no_panic_marker",
    "unsafe_policy", "report_diagnostics", "strict"]

/-! ## Checking a table -/

/-- The check of the suffixes, which have been read before. -/
def checkSuffixes : Option (List String) → Checked (List String)
  | none => .ok [".rs"]
  | some names => (someSuffix names).under (.field "extensions")

theorem check_eq (fields : List (String × Value)) (given : Option (List String)) :
    check fields given =
      (Settings.mk
        <$> Field.optional fields "root" .current path
        <*> checkSuffixes given
        <*> Field.optional fields "ignored" [] names
        <*> Field.optional fields "foreign_abi" "C" Field.text
        <*> Field.optional fields "inline_marker" "inline" Field.text
        <*> Field.optional fields "no_panic_marker" "no_panic" Field.text
        <*> Field.optional fields "unsafe_policy" .exclude (Field.choice UnsafePolicy.names)
        <*> Field.optional fields "report_diagnostics" false Field.bool
        <*> Field.optional fields "strict" false Field.bool) := by
  cases given <;> rfl

theorem checkSuffixes_eq_ok {entry : Option Value} {given : Option (List String)}
    {out : List String} (h : entry.mapM suffixes = .ok given) :
    checkSuffixes given = .ok out ↔ Takes entry ReadsSuffixes [".rs"] out := by
  cases entry with
  | none =>
      obtain rfl : none = given := pure_eq_ok.mp h
      show Checked.ok [".rs"] = .ok out ↔ out = [".rs"]
      rw [Checked.ok.injEq, eq_comm]
  | some v =>
      obtain ⟨names, hv, rfl⟩ : ∃ names, suffixes v = .ok names ∧ some names = given :=
        map_eq_ok.mp h
      show (someSuffix names).under _ = .ok out ↔ suffixes v = .ok out ∧ out ≠ []
      rw [Checked.under_eq_ok, someSuffix_eq_ok, hv, Except.ok.injEq]

theorem check_eq_ok {fields : List (String × Value)} {given : Option (List String)}
    {s : Settings} (h : (fields.lookup "extensions").mapM suffixes = .ok given) :
    check fields given = .ok s ↔ ReadFrom fields s := by
  simp only [check_eq, Checked.seq_eq_ok, Checked.map_eq_ok, Field.optional_eq_ok,
    checkSuffixes_eq_ok h]
  constructor
  · rintro ⟨_, ⟨_, ⟨_, ⟨_, ⟨_, ⟨_, ⟨_, ⟨_, ⟨root, hroot, rfl⟩, suffixes, hsuffixes, rfl⟩,
      ignored, hignored, rfl⟩, abi, habi, rfl⟩, inline, hinline, rfl⟩, noPanic, hnoPanic, rfl⟩,
      policy, hpolicy, rfl⟩, report, hreport, rfl⟩, strict, hstrict, rfl⟩
    exact ⟨hroot, hsuffixes, hignored, habi, hinline, hnoPanic, hpolicy, hreport, hstrict⟩
  · rintro ⟨hroot, hsuffixes, hignored, habi, hinline, hnoPanic, hpolicy, hreport, hstrict⟩
    exact ⟨_, ⟨_, ⟨_, ⟨_, ⟨_, ⟨_, ⟨_, ⟨_, ⟨_, hroot, rfl⟩, _, hsuffixes, rfl⟩, _, hignored, rfl⟩,
      _, habi, rfl⟩, _, hinline, rfl⟩, _, hnoPanic, rfl⟩, _, hpolicy, rfl⟩, _, hreport, rfl⟩,
      _, hstrict, rfl⟩

/-- Suffixes that settings are read from could be read before the check. -/
theorem ReadFrom.suffixes_read {fields : List (String × Value)} {s : Settings}
    (h : ReadFrom fields s) :
    ∃ given, (fields.lookup "extensions").mapM suffixes = .ok given := by
  have hext := h.extensions
  cases hentry : fields.lookup "extensions" with
  | none => exact ⟨none, rfl⟩
  | some v =>
      rw [hentry] at hext
      exact ⟨some s.extensions, map_eq_ok.mpr ⟨_, hext.1, rfl⟩⟩

/-! ## Building settings -/

theorem build_eq_ok {values overrides : List (String × Value)} {s : Settings} :
    build values overrides = .ok (.ok s) ↔ ReadFrom (merge values overrides) s := by
  unfold build
  constructor
  · intro h
    obtain ⟨given, hgiven, h⟩ := bind_eq_ok.mp h
    exact (check_eq_ok hgiven).mp (pure_eq_ok.mp h)
  · intro h
    obtain ⟨given, hgiven⟩ := h.suffixes_read
    exact bind_eq_ok.mpr ⟨given, hgiven, pure_eq_ok.mpr ((check_eq_ok hgiven).mpr h)⟩

/-- Only the nine entries count, for the errors too. -/
theorem build_congr {values values' overrides overrides' : List (String × Value)}
    (h : ∀ name ∈ fieldNames,
      (merge values overrides).lookup name = (merge values' overrides').lookup name) :
    build values overrides = build values' overrides' := by
  simp only [fieldNames, List.forall_mem_cons] at h
  obtain ⟨hroot, hsuffixes, hignored, habi, hinline, hnoPanic, hpolicy, hreport, hstrict, -⟩ := h
  simp only [build, check_eq, Field.optional, hroot, hsuffixes, hignored, habi, hinline,
    hnoPanic, hpolicy, hreport, hstrict]

/-- A value that is given, as one over others. -/
def given? (overrides : List (String × Value)) (name : String) : Option Value :=
  (overrides.filter isGiven).lookup name

theorem lookup_eq_none_of_notMem {fields : List (String × Value)} {name : String}
    (h : name ∉ fields.map Prod.fst) : fields.lookup name = none := by
  rw [List.lookup_eq_none_iff]
  intro entry hentry
  rw [bne_iff_ne]
  intro hname
  exact h (List.mem_map.mpr ⟨entry, hentry, hname.symm⟩)

/-- Where every name occurs once, a value is given unless it is `null`. -/
theorem given?_of_nodup {overrides : List (String × Value)}
    (h : (overrides.map Prod.fst).Nodup) (name : String) :
    given? overrides name = (overrides.lookup name).filter fun v => isGiven (name, v) := by
  unfold given?
  induction overrides with
  | nil => rfl
  | cons override rest ih =>
      obtain ⟨key, v⟩ := override
      rw [List.map_cons, List.nodup_cons] at h
      rw [List.lookup_cons]
      cases hkey : name == key with
      | true =>
          obtain rfl := eq_of_beq hkey
          cases hv : isGiven (name, v) with
          | true =>
              rw [List.filter_cons_of_pos hv, List.lookup_cons, hkey, Option.filter_some, hv]
              rfl
          | false =>
              rw [List.filter_cons_of_neg (by simp [hv]), ih h.2, lookup_eq_none_of_notMem h.1,
                Option.filter_some, hv]
              rfl
      | false =>
          rw [← ih h.2, List.filter_cons]
          split
          · rw [List.lookup_cons, hkey]
          · rfl

theorem lookup_merge (values overrides : List (String × Value)) (name : String) :
    (merge values overrides).lookup name =
      (given? overrides name).or (values.lookup name) :=
  List.lookup_append

end Settings

namespace SettingsFile

theorem build_eq_ok {values overrides : List (String × Value)} {s : Settings} :
    build values overrides = .ok s ↔ Settings.ReadFrom (Settings.merge values overrides) s := by
  rw [← Settings.build_eq_ok]
  unfold build
  split <;> rename_i h <;> simp [h]

theorem build_congr {values values' overrides overrides' : List (String × Value)}
    (h : ∀ name ∈ Settings.fieldNames,
      (Settings.merge values overrides).lookup name =
        (Settings.merge values' overrides').lookup name) :
    build values overrides = build values' overrides' := by
  rw [build, build, Settings.build_congr h]

end SettingsFile
end ApiCatalog
