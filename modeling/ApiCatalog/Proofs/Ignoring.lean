import ApiCatalog.Proofs.Independence
import ApiCatalog.Proofs.Streams

/-!
# Ignoring names removes exactly those names

A name is dropped right after its declaration was read, before any rule looks at it.
Whether it is dropped then or its entries are taken out of the finished catalog makes
no difference: a declaration is read the same whatever else is ignored, and every
entry of a catalog bears the name of the candidate that it came from. So the candidates
of a longer list of ignored names are a filter of those of a shorter one, and the
filter goes through the stages, one after the other, to the catalog and the stream.
-/

namespace ApiCatalog

/-- The same settings with other names to leave out. -/
def Settings.ignoring (s : Settings) (names : List String) : Settings :=
  { s with ignored := names }

/-- A catalog without the entries of some functions. -/
def Catalog.without (k : Catalog) (names : List String) : Catalog :=
  { k with
    signatures := k.signatures.filter fun sig => sig.ident ∉ names
    violations := k.violations.filter fun v => v.identifier ∉ names }

/-! ## Candidates -/

namespace Extraction

variable {I J : List String}

theorem isWanted_eq_decide (names : List String) (c : Candidate) :
    isWanted names c = decide (c.ident ∉ names) := by
  simp [isWanted]

theorem filter_isWanted (h : ∀ name ∈ I, name ∈ J) (cs : List Candidate) :
    (cs.filter (isWanted I)).filter (isWanted J) = cs.filter (isWanted J) := by
  rw [List.filter_filter]
  refine List.filter_congr fun c _ => ?_
  simp only [isWanted_eq_decide, Bool.and_eq_left_iff_imp, decide_eq_true_eq]
  exact fun hJ hI => hJ (h _ hI)

/-- What else is ignored does not change how a source is read. -/
theorem extract_of_subset (h : ∀ name ∈ I, name ∈ J) {unit : SourceUnit}
    {found : List Candidate} (hfound : (extract I unit).result = .ok found) :
    (extract J unit).result = .ok (found.filter (isWanted J)) := by
  obtain ⟨⟨read, hread, rfl⟩, htexts⟩ := extract_eq_ok.mp hfound
  rw [filter_isWanted h]
  exact extract_eq_ok.mpr ⟨⟨read, hread, rfl⟩, htexts⟩

theorem forall₂_extract_of_subset (h : ∀ name ∈ I, name ∈ J) {units : List SourceUnit}
    {lists : List (List Candidate)}
    (hlists : List.Forall₂ (fun unit list => (extract I unit).result = .ok list) units lists) :
    List.Forall₂ (fun unit list => (extract J unit).result = .ok list) units
      (lists.map (List.filter (isWanted J))) := by
  rw [List.forall₂_map_right_iff]
  exact hlists.imp fun unit list => extract_of_subset h

end Extraction

/-! ## Catalogs -/

namespace Validation

variable {s : Settings} {names : List String} {cs : List Candidate}

/-- No rule looks at the ignored names. -/
theorem validate_ignoring {reporting : Option Bool} {source : String} {catalog : Catalog} :
    (validate (s.ignoring names) reporting source cs).result = .ok catalog ↔
      (validate s reporting source cs).result = .ok catalog := by
  rw [validate_eq_ok, validate_eq_ok]
  exact Iff.rfl

/-- The violations of the candidates that are left are those that bear their names. -/
theorem flatMap_check_filter :
    (cs.filter fun c => c.ident ∉ names).flatMap (check s) =
      (cs.flatMap (check s)).filter fun v => v.identifier ∉ names := by
  induction cs with
  | nil => rfl
  | cons c rest ih =>
      by_cases hc : c.ident ∈ names
      · have hnone : ((check s c).filter fun v => v.identifier ∉ names) = [] := by
          refine List.filter_eq_nil_iff.mpr fun v hv => ?_
          simp [identifier_of_mem_check hv, hc]
        rw [List.filter_cons_of_neg (by simpa using hc), ih, List.flatMap_cons,
          List.filter_append, hnone, List.nil_append]
      · have hall : ((check s c).filter fun v => v.identifier ∉ names) = check s c := by
          refine List.filter_eq_self.mpr fun v hv => ?_
          simp [identifier_of_mem_check hv, hc]
        rw [List.filter_cons_of_pos (by simpa using hc), List.flatMap_cons, List.flatMap_cons,
          List.filter_append, ih, hall]

theorem map_image_filter :
    ((cs.filter fun c => c.ident ∉ names).filter fun c => ¬ Excluded s c).map image =
      ((cs.filter fun c => ¬ Excluded s c).map image).filter fun sig => sig.ident ∉ names := by
  rw [List.filter_map, List.filter_filter, List.filter_filter]
  congr 1
  refine List.filter_congr fun c _ => ?_
  exact Bool.and_comm _ _

/-- Leaving candidates out by name leaves their entries out of the catalog. -/
theorem validate_filter {reporting : Option Bool} {source : String} {catalog : Catalog}
    (h : (validate s reporting source cs).result = .ok catalog) :
    (validate s reporting source (cs.filter fun c => c.ident ∉ names)).result =
      .ok (catalog.without names) := by
  have hnamed := named_of_ok h
  have hleft : Named s (cs.filter fun c => c.ident ∉ names) := fun c hc =>
    hnamed c (List.mem_of_mem_filter hc)
  rw [validate_of_named hnamed] at h
  cases h
  rw [validate_of_named hleft, flatMap_check_filter, map_image_filter]
  rfl

end Validation

theorem Catalog.ok_without {k : Catalog} (h : k.ok = true) (names : List String) :
    (k.without names).ok = true := by
  rw [ok, List.isEmpty_iff] at h ⊢
  rw [without, h]
  rfl

theorem Catalog.not_mem_without {k : Catalog} {names : List String} {name : String}
    (h : name ∈ names) :
    name ∉ (k.without names).identifiers ∧ (k.without names).violationsFor name = [] := by
  constructor
  · intro hmem
    obtain ⟨sig, hsig, rfl⟩ := List.mem_map.mp hmem
    exact of_decide_eq_true (List.mem_filter.mp hsig).2 h
  · rw [violationsFor, List.filter_eq_nil_iff]
    intro v hv hname
    rw [← beq_iff_eq.mp hname] at h
    exact of_decide_eq_true (List.mem_filter.mp hv).2 h

theorem Catalog.untouched_by_without {k : Catalog} {names : List String} {name : String}
    (h : name ∉ names) :
    (k.without names).signatures.filter (·.ident == name) =
        k.signatures.filter (·.ident == name) ∧
      (k.without names).violationsFor name = k.violationsFor name := by
  constructor
  · rw [without, List.filter_filter]
    refine List.filter_congr fun sig _ => ?_
    by_cases hname : sig.ident = name
    · simp [hname, h]
    · simp [hname]
  · rw [violationsFor, violationsFor, without, List.filter_filter]
    refine List.filter_congr fun v _ => ?_
    by_cases hname : v.identifier = name
    · simp [hname, h]
    · simp [hname]

/-! ## Analyses -/

namespace Analysis

theorem analyze_of_subset {parse : List UInt8 → Node} {fs : FileSystem} {s : Settings}
    {I J : List String} (hsub : ∀ name ∈ I, name ∈ J) {catalog : Catalog}
    (h : (analyze parse fs (s.ignoring I)).result = .ok catalog) :
    (analyze parse fs (s.ignoring J)).result = .ok (catalog.without J) := by
  obtain ⟨units, lists, hroot, hunits, hlists, hvalid, hok⟩ := analyze_eq_ok.mp h
  have hfilter : (lists.map (List.filter (Extraction.isWanted J))).flatten =
      lists.flatten.filter fun c => c.ident ∉ J := by
    rw [← List.filter_flatten]
    exact List.filter_congr fun c _ => Extraction.isWanted_eq_decide J c
  refine analyze_eq_ok.mpr ⟨units, _, hroot, hunits,
    Extraction.forall₂_extract_of_subset hsub hlists, ?_,
    hok.imp_left fun hclean => Catalog.ok_without hclean J⟩
  rw [hfilter, Validation.validate_ignoring]
  exact Validation.validate_filter (Validation.validate_ignoring.mp hvalid)

/-- An analysis that leaves more names out gives the catalog of the one that leaves
fewer out, without the entries of these names, and writes the lines that are left. No
ignored name is in it, and what bears another name is as it was. Strict mode makes no
difference. -/
theorem analyze_ignoring (parse : List UInt8 → Node) (fs : FileSystem) (s : Settings)
    (I J : List String) (hsub : ∀ name ∈ I, name ∈ J) (catalog : Catalog)
    (h : (analyze parse fs (s.ignoring I)).result = .ok catalog) :
    (analyze parse fs (s.ignoring J)).result = .ok (catalog.without J) ∧
      diagnosticStream (analyze parse fs (s.ignoring I)).events =
        Validation.reported s.reportDiagnostics catalog.violations ∧
      diagnosticStream (analyze parse fs (s.ignoring J)).events =
        Validation.reported s.reportDiagnostics (catalog.without J).violations ∧
      (∀ name ∈ J, name ∉ (catalog.without J).identifiers ∧
        (catalog.without J).violationsFor name = []) ∧
      ∀ name, name ∉ J →
        (catalog.without J).signatures.filter (·.ident == name) =
          catalog.signatures.filter (·.ident == name) ∧
        (catalog.without J).violationsFor name = catalog.violationsFor name := by
  have hJ := analyze_of_subset hsub h
  refine ⟨hJ, stream_analyze h, stream_analyze hJ, fun name hname => ?_, fun name hname => ?_⟩
  · exact Catalog.not_mem_without hname
  · exact Catalog.untouched_by_without hname

/-- Two sources, each with a function that keeps every rule and one without an ABI and
without attributes. The latter have the same name. -/
def bareTwice : FileSystem :=
  ⟨[(["src"], .directory),
    (["src", "a.rs"],
      .file (Text.Utf8.encode "pub fn bare() \x7b\x7d ".toList ++ oneFunction "first")),
    (["src", "b.rs"],
      .file (oneFunction "second" ++ Text.Utf8.encode " pub fn bare() \x7b\x7d".toList))]⟩

def reportingSettings : Settings :=
  { srcSettings with reportDiagnostics := true }

/-- Ignoring the name takes both functions out of the catalog and all lines off the
stream. -/
theorem analyze_ignoring_bareTwice :
    (∀ name ∈ ["first"], name ∈ ["first", "bare"]) ∧
      ∃ catalog, (analyze Rust.parse bareTwice
          (reportingSettings.ignoring ["first"])).result = .ok catalog ∧
        catalog.identifiers = ["second"] ∧
        (catalog.violationsFor "bare").length = 6 ∧
        (analyze Rust.parse bareTwice
          (reportingSettings.ignoring ["first", "bare"])).result =
            .ok (catalog.without ["first", "bare"]) ∧
        (catalog.without ["first", "bare"]).identifiers = ["second"] ∧
        diagnosticStream (analyze Rust.parse bareTwice
          (reportingSettings.ignoring ["first", "bare"])).events = "" := by
  have hsub : ∀ name ∈ ["first"], name ∈ ["first", "bare"] := by decide
  obtain ⟨catalog, hcatalog, hall, hbare, hleft, hclean⟩ : ∃ catalog,
      (analyze Rust.parse bareTwice (reportingSettings.ignoring ["first"])).result =
          .ok catalog ∧ catalog.identifiers = ["second"] ∧
        (catalog.violationsFor "bare").length = 6 ∧
        (catalog.without ["first", "bare"]).identifiers = ["second"] ∧
        (catalog.without ["first", "bare"]).violations = [] := by decide +kernel
  obtain ⟨hresult, -, hstream, -⟩ := analyze_ignoring Rust.parse bareTwice reportingSettings
    ["first"] ["first", "bare"] hsub catalog hcatalog
  rw [hclean] at hstream
  exact ⟨hsub, catalog, hcatalog, hall, hbare, hresult, hleft, hstream⟩

end Analysis
end ApiCatalog
