import ApiCatalog.Proofs.Discovery
import ApiCatalog.Proofs.SettingsFields

/-!
# Settings are built again from their own values

Whatever form the values of settings were given in, settings that were built are in one
form (`Normal`): there is a suffix and every suffix has its dot, and the ignored names are
a strictly increasing list. The root is a path, and every path is read from its own text.
Settings in that form are read from their own plain values, one entry at a time. So
building is a projection: the plain values of what was built give the same settings once
more.
-/

namespace ApiCatalog

variable {α : Type}

/-- What is taken from an entry has a property that the default has and that every
reading gives. -/
theorem Takes.elim {entry : Option Value} {Reads : Value → α → Prop} {absent a : α}
    (h : Takes entry Reads absent a) (P : α → Prop) (habsent : P absent)
    (hreads : ∀ v, entry = some v → Reads v a → P a) : P a := by
  cases entry with
  | none =>
      obtain rfl : a = absent := h
      exact habsent
  | some v => exact hreads v rfl h

namespace Settings

/-! ## Suffixes -/

/-- A suffix with a dot in front. -/
def IsDotted (suffix : String) : Prop :=
  suffix.toList.head? = some '.'

instance {suffix : String} : Decidable (IsDotted suffix) :=
  inferInstanceAs (Decidable (_ = _))

theorem isDotted_dotted (suffix : String) : IsDotted (dotted suffix) := by
  unfold IsDotted dotted
  split
  · next h => exact eq_of_beq h
  · rw [String.toList_append]
    rfl

theorem dotted_of_isDotted {suffix : String} (h : IsDotted suffix) : dotted suffix = suffix :=
  if_pos (beq_iff_eq.mpr h)

theorem isDotted_of_suffixItem {v : Value} {suffix : String} (h : suffixItem v = .ok suffix) :
    IsDotted suffix := by
  cases v with
  | text s =>
      cases h
      exact isDotted_dotted s
  | _ => cases h

/-- Suffixes get their dots in whatever form they are given. -/
theorem isDotted_of_suffixes {v : Value} {names : List String} (h : suffixes v = .ok names) :
    ∀ suffix ∈ names, IsDotted suffix := by
  unfold suffixes at h
  split at h
  · next s =>
      cases h
      intro suffix hsuffix
      rw [List.mem_singleton.mp hsuffix]
      exact isDotted_dotted s
  · obtain ⟨items, -, h⟩ := bind_eq_ok.mp h
    intro suffix hsuffix
    obtain ⟨item, -, hitem⟩ := exists_mem_of_forall₂ (mapM_eq_ok.mp h) hsuffix
    exact isDotted_of_suffixItem hitem

theorem readsSuffixes_of_isDotted {names : List String} (hne : names ≠ [])
    (h : ∀ suffix ∈ names, IsDotted suffix) : ReadsSuffixes (.list (names.map .text)) names := by
  refine ⟨?_, hne⟩
  rw [suffixes_texts, List.map_congr_left fun suffix hs => dotted_of_isDotted (h suffix hs),
    List.map_id']

/-! ## Ignored names -/

theorem pairwise_of_names {v : Value} {set : List String} (h : names v = .ok set) :
    set.Pairwise (· < ·) := by
  cases v with
  | null =>
      cases h
      exact .nil
  | text s =>
      cases h
      exact Text.pairwise_nameSet _
  | list items =>
      obtain ⟨texts, -, rfl⟩ := Checked.map_eq_ok.mp h
      exact Text.pairwise_nameSet texts
  | _ => cases h

/-- A list of names is read as the set of its members; a comma in a name is part of the
name. -/
theorem names_texts {texts set : List String} (hset : set.Pairwise (· < ·))
    (h : ∀ name, name ∈ texts ↔ name ∈ set) : names (.list (texts.map .text)) = .ok set := by
  rw [names, Field.itemsFrom_text]
  exact congrArg Checked.ok (Text.nameSet_eq_of_mem_iff hset h)

/-! ## The form of settings that were built -/

/-- The form in which settings are kept. -/
structure Normal (s : Settings) : Prop where
  someSuffix : s.extensions ≠ []
  dotted : ∀ suffix ∈ s.extensions, IsDotted suffix
  ignored : s.ignored.Pairwise (· < ·)

/-- Settings that are read from entries are in that form. -/
theorem ReadFrom.normal {fields : List (String × Value)} {s : Settings}
    (h : ReadFrom fields s) : s.Normal where
  someSuffix := h.extensions.elim (· ≠ []) (List.cons_ne_nil _ _) fun v _ hread => hread.2
  dotted := h.extensions.elim (fun names => ∀ suffix ∈ names, IsDotted suffix) (by decide)
    fun v _ hread => isDotted_of_suffixes hread.1
  ignored := h.ignored.elim (List.Pairwise (· < ·)) .nil fun v _ hread => pairwise_of_names hread

/-- Settings in that form are read from their own plain values, with the ignored names in
any order. -/
theorem Normal.readFrom_toFields {s : Settings} (h : s.Normal) {names : List String}
    (hnames : ∀ name, name ∈ names ↔ name ∈ s.ignored) :
    ReadFrom { s with ignored := names }.toFields s where
  root := by
    show Checked.ok (Path.parse s.root.text) = .ok s.root
    rw [Path.parse_text]
  extensions := readsSuffixes_of_isDotted h.someSuffix h.dotted
  ignored := names_texts h.ignored hnames
  foreignAbi := rfl
  inlineMarker := rfl
  noPanicMarker := rfl
  unsafePolicy := choice_policy.mpr rfl
  reportDiagnostics := Field.bool_bool.mpr rfl
  strict := Field.bool_bool.mpr rfl

end Settings

namespace SettingsFile

/-- Settings that were built have a suffix, all their suffixes start with a dot, and they
are built again from their plain values: the text of the root, the list of suffixes, a
list of the ignored names in any order, the word for the policy, and the texts and truth
values as they are. -/
theorem build_toFields (values overrides : List (String × Value)) (s : Settings)
    (h : build values overrides = .ok s) :
    (∀ names : List String, (∀ name, name ∈ names ↔ name ∈ s.ignored) →
      build { s with ignored := names }.toFields [] = .ok s) ∧
    s.extensions ≠ [] ∧ ∀ suffix ∈ s.extensions, Settings.IsDotted suffix := by
  have hnormal := (build_eq_ok.mp h).normal
  refine ⟨fun names hnames => ?_, hnormal.someSuffix, hnormal.dotted⟩
  exact build_eq_ok.mpr (hnormal.readFrom_toFields hnames)

/-- Values in other forms than the plain ones: a root with names to drop, a suffix without
its dot, names with a comma in them and one of them twice, truth values as a number and as
a word. -/
def looseValues : List (String × Value) :=
  [("root", .text "lib"), ("extensions", .list [.text "rs", .text ".inc"]),
    ("ignored", .list [.text "sin, cos", .text "jn", .text "sin, cos"]),
    ("unsafe_policy", .text "warn"), ("report_diagnostics", .int 1), ("strict", .text "Off")]

def looseOverrides : List (String × Value) :=
  [("root", .path (.parse "//a/./b/../c//")), ("foreign_abi", .null)]

/-- What the loose values come to. -/
def settledValues : Settings :=
  { root := .mk .secondRoot ["a", "b", "..", "c"]
    extensions := [".rs", ".inc"]
    ignored := ["jn", "sin, cos"]
    unsafePolicy := .warn
    reportDiagnostics := true }

theorem build_toFields_looseValues :
    build looseValues looseOverrides = .ok settledValues ∧
    build { settledValues with ignored := ["sin, cos", "jn"] }.toFields [] =
      .ok settledValues := by
  have hbuild : build looseValues looseOverrides = .ok settledValues := by decide +kernel
  obtain ⟨hagain, -⟩ := build_toFields looseValues looseOverrides settledValues hbuild
  refine ⟨hbuild, hagain _ fun name => ?_⟩
  exact List.Perm.mem_iff (List.Perm.swap "jn" "sin, cos" [])

end SettingsFile
end ApiCatalog
