import ApiCatalog.Proofs.Independence
import ApiCatalog.Proofs.Verdicts

/-!
# Strict mode only adds a failure

Strict mode is asked for once, in the last step of an analysis, when the catalog is
there and all has been reported. Up to that step nothing looks at it, so a run with it
and a run without it are the same run (`assess_withStrict`), and the last step leaves
the same events in both. What strict mode decides is what becomes of a catalog with
violations.

A catalog without violations is complete: a candidate stays out only for a violation,
whatever the policy on `unsafe` forgives.
-/

namespace ApiCatalog

/-- The same settings with strict mode on or off. -/
def Settings.withStrict (s : Settings) (strict : Bool) : Settings :=
  { s with strict }

namespace Validation

variable {s : Settings}

/-- No rule looks at strict mode. -/
theorem judgeAll_withStrict (strict reporting : Bool) (cs : List Candidate) :
    judgeAll (s.withStrict strict) reporting cs = judgeAll s reporting cs := by
  induction cs with
  | nil => rfl
  | cons c rest ih =>
      have hone : judge (s.withStrict strict) reporting c = judge s reporting c := rfl
      rw [judgeAll, judgeAll, hone, ih]
      rfl

theorem validate_withStrict (strict : Bool) (reporting : Option Bool) (source : String)
    (cs : List Candidate) :
    validate (s.withStrict strict) reporting source cs = validate s reporting source cs := by
  rw [validate, validate, judgeAll_withStrict]
  rfl

/-- Where nothing is violated, nothing is left out. -/
theorem signatures_of_no_violations {reporting : Option Bool} {source : String}
    {cs : List Candidate} {catalog : Catalog}
    (h : (validate s reporting source cs).result = .ok catalog)
    (hclean : catalog.violations = []) : catalog.signatures = cs.map image := by
  rw [validate_of_named (named_of_ok h)] at h
  cases h
  have hnone : ∀ c ∈ cs, check s c = [] := List.flatMap_eq_nil_iff.mp hclean
  have hall : cs.filter (fun c => ¬ Excluded s c) = cs := by
    refine List.filter_eq_self.mpr fun c hc => ?_
    simp [Excluded, hnone c hc]
  dsimp only
  rw [hall]

end Validation

namespace Analysis

variable {parse : List UInt8 → Node} {fs : FileSystem} {s : Settings}

/-- An analysis without its last step. -/
def assess (parse : List UInt8 → Node) (fs : FileSystem) (s : Settings) :
    Run Failure Catalog := do
  let found ← candidates (sources parse fs s) s.ignored
  Validation.validate s none s.root.text found

theorem analyze_eq_assess (parse : List UInt8 → Node) (fs : FileSystem) (s : Settings) :
    analyze parse fs s = assess parse fs s >>= settle s := by
  rw [analyze, assess, Run.bind_bind]

/-- Up to the last step, strict mode makes no difference. -/
theorem assess_withStrict (strict : Bool) :
    assess parse fs (s.withStrict strict) = assess parse fs s := by
  unfold assess
  simp only [Validation.validate_withStrict]
  rfl

theorem events_settle_withStrict (strict : Bool) (catalog : Catalog) :
    (settle (s.withStrict strict) catalog).events =
      (settle (s.withStrict false) catalog).events := by
  unfold settle
  split
  · rfl
  · cases strict with
    | true => rfl
    | false => rfl

theorem settle_strict (catalog : Catalog) :
    (settle (s.withStrict true) catalog).result =
      if catalog.violations = [] then .ok catalog else .error (.strict catalog.violations) := by
  by_cases hclean : catalog.violations = []
  · have hok : catalog.ok = true := List.isEmpty_iff.mpr hclean
    rw [settle, if_pos hok, if_pos hclean]
    rfl
  · have hok : ¬ catalog.ok = true := fun hok => hclean (List.isEmpty_iff.mp hok)
    rw [settle, if_neg hok, if_neg hclean]
    rfl

theorem result_analyze_lenient :
    (analyze parse fs (s.withStrict false)).result = (assess parse fs s).result := by
  rw [analyze_eq_assess, assess_withStrict, Run.result_bind]
  cases h : (assess parse fs s).result with
  | error f => rfl
  | ok catalog => exact settle_eq_ok.mpr ⟨rfl, .inr rfl⟩

theorem result_analyze_strict :
    (analyze parse fs (s.withStrict true)).result =
      (assess parse fs s).result >>= fun catalog =>
        if catalog.violations = [] then .ok catalog
        else .error (.strict catalog.violations) := by
  rw [analyze_eq_assess, assess_withStrict, Run.result_bind]
  simp only [settle_strict]

theorem events_analyze_withStrict (strict : Bool) :
    (analyze parse fs (s.withStrict strict)).events =
      (analyze parse fs (s.withStrict false)).events := by
  rw [analyze_eq_assess, analyze_eq_assess, assess_withStrict, assess_withStrict]
  cases h : (assess parse fs s).result with
  | error f => rw [Run.events_bind_of_error h, Run.events_bind_of_error h]
  | ok catalog =>
      rw [Run.events_bind_of_ok h, Run.events_bind_of_ok h, events_settle_withStrict]

theorem assess_eq_ok {catalog : Catalog} :
    (assess parse fs s).result = .ok catalog ↔
      ∃ found, (candidates (sources parse fs s) s.ignored).result = .ok found ∧
        (Validation.validate s none s.root.text found).result = .ok catalog := by
  rw [assess, Run.result_bind, bind_eq_ok]

/-- With strict mode an analysis fails as it fails without, gives a catalog that has no
violations as it is, and fails with the violations of one that has some, in order. A
catalog without violations has a signature for every candidate, in order. Both runs
leave the same events, and so the same diagnostics. -/
theorem analyze_strict_adds_failure (parse : List UInt8 → Node) (fs : FileSystem)
    (s : Settings) :
    (∀ f, (analyze parse fs (s.withStrict false)).result = .error f →
      (analyze parse fs (s.withStrict true)).result = .error f) ∧
    (∀ catalog, (analyze parse fs (s.withStrict false)).result = .ok catalog →
      catalog.violations = [] →
        (analyze parse fs (s.withStrict true)).result = .ok catalog ∧
        ∃ found, (candidates (sources parse fs s) s.ignored).result = .ok found ∧
          catalog.signatures = found.map Validation.image) ∧
    (∀ catalog, (analyze parse fs (s.withStrict false)).result = .ok catalog →
      catalog.violations ≠ [] →
        (analyze parse fs (s.withStrict true)).result = .error (.strict catalog.violations)) ∧
    (analyze parse fs (s.withStrict true)).events =
      (analyze parse fs (s.withStrict false)).events ∧
    diagnosticStream (analyze parse fs (s.withStrict true)).events =
      diagnosticStream (analyze parse fs (s.withStrict false)).events := by
  rw [result_analyze_lenient, result_analyze_strict, events_analyze_withStrict]
  refine ⟨fun f h => ?_, fun catalog h hclean => ?_, fun catalog h hviolated => ?_, rfl, rfl⟩
  · rw [h, error_bind]
  · rw [h, ok_bind, if_pos hclean]
    obtain ⟨found, hfound, hvalid⟩ := assess_eq_ok.mp h
    exact ⟨rfl, found, hfound, Validation.signatures_of_no_violations hvalid hclean⟩
  · rw [h, ok_bind, if_neg hviolated]

/-- A source with a function that keeps every rule and one that is `unsafe`. -/
def unsafeAmongOthers : FileSystem :=
  ⟨[(["src"], .directory), (["src", "a.rs"], .file (oneFunction "first" ++ Text.Utf8.encode
    " #[inline] #[no_panic] pub unsafe extern \"C\" fn raw() \x7b\x7d".toList))]⟩

/-- A tree that is not there fails alike in both modes. Three functions without a
violation are all in both catalogs. A function that the policy keeps although it is
`unsafe` fails the strict run. -/
theorem analyze_strict_adds_failure_threeTrees :
    (∃ f, (analyze Rust.parse .empty (srcSettings.withStrict false)).result = .error f ∧
      (analyze Rust.parse .empty (srcSettings.withStrict true)).result = .error f) ∧
    (∃ catalog found,
      (analyze Rust.parse threeSources (srcSettings.withStrict false)).result = .ok catalog ∧
      catalog.violations = [] ∧
      (analyze Rust.parse threeSources (srcSettings.withStrict true)).result = .ok catalog ∧
      (candidates (sources Rust.parse threeSources srcSettings) []).result = .ok found ∧
      catalog.signatures = found.map Validation.image) ∧
    ∃ catalog, (analyze Rust.parse unsafeAmongOthers
        ((srcSettings.withPolicy .warn).withStrict false)).result = .ok catalog ∧
      catalog.identifiers = ["first", "raw"] ∧ catalog.violations ≠ [] ∧
      (analyze Rust.parse unsafeAmongOthers
        ((srcSettings.withPolicy .warn).withStrict true)).result =
          .error (.strict catalog.violations) := by
  obtain ⟨hmissing, -⟩ := analyze_strict_adds_failure Rust.parse .empty srcSettings
  obtain ⟨-, hclean, -⟩ := analyze_strict_adds_failure Rust.parse threeSources srcSettings
  obtain ⟨-, -, hviolated, -⟩ := analyze_strict_adds_failure Rust.parse unsafeAmongOthers
    (srcSettings.withPolicy .warn)
  refine ⟨⟨_, rfl, hmissing _ rfl⟩, ?_, ?_⟩
  · obtain ⟨catalog, hcatalog, hnone⟩ : ∃ catalog,
        (analyze Rust.parse threeSources (srcSettings.withStrict false)).result = .ok catalog ∧
          catalog.violations = [] := by decide +kernel
    obtain ⟨hstrict, found, hfound, hall⟩ := hclean catalog hcatalog hnone
    exact ⟨catalog, found, hcatalog, hnone, hstrict, hfound, hall⟩
  · obtain ⟨catalog, hcatalog, hnames, hsome⟩ : ∃ catalog, (analyze Rust.parse
        unsafeAmongOthers ((srcSettings.withPolicy .warn).withStrict false)).result =
          .ok catalog ∧ catalog.identifiers = ["first", "raw"] ∧ catalog.violations ≠ [] := by
      decide +kernel
    exact ⟨catalog, hcatalog, hnames, hsome, hviolated catalog hcatalog hsome⟩

end Analysis
end ApiCatalog
