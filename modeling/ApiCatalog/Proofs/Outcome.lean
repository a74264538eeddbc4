import ApiCatalog.CommandLine.Execution
import ApiCatalog.Proofs.Delivery
import ApiCatalog.Proofs.Loading
import ApiCatalog.Proofs.Precedence
import ApiCatalog.Proofs.StrictMode

/-!
# What a command line leaves behind

A run of the program has settings, then a catalog, then a delivery. Files are touched and
text is printed only by the delivery, and the delivery is the last stage: a run that ends
before it leaves everything as it was, with the exit code of what ended it. So the exit
code is read off the failures of the first two stages, and each stage has its own kinds
of failure: settings are never refused for a source, and an analysis never fails for a
setting.

A delivery does one of two things with one text. Without a file it is printed; with a
file it is written, and all that changes is that file and the directories above it that
were missing.
-/

namespace ApiCatalog

/-! ## The kinds of failure of a stage -/

namespace SettingsFile

/-- Settings are refused for what is in them or in their file. -/
def Refusal (f : Failure) : Prop :=
  (∃ g, f = .settings g) ∨ (∃ g, f = .shape g) ∨ (∃ g, f = .encoding g) ∨
    ∃ digits, f = .oversized digits

theorem refusal_of_build {values overrides : List (String × Value)} {f : Failure}
    (h : build values overrides = .error f) : Refusal f := by
  unfold build at h
  split at h
  · next fault _ =>
      cases h
      exact .inr (.inl ⟨fault, rfl⟩)
  · next errors _ =>
      cases h
      exact .inl ⟨_, rfl⟩
  · cases h

theorem refusal_of_tableOf {fs : FileSystem} {path : Path} {f : Failure}
    (h : tableOf fs path = .error f) : Refusal f := by
  unfold tableOf readDocument section? at h
  rcases bind_eq_error.mp h with h | ⟨document, -, h⟩
  · split at h
    · cases h
      exact .inl ⟨_, rfl⟩
    · cases h
      exact .inr (.inr (.inl ⟨_, rfl⟩))
    · obtain ⟨refusal, -, rfl⟩ := mapError_eq_error.mp h
      cases refusal with
      | malformed fault => exact .inl ⟨_, rfl⟩
      | oversized digits => exact .inr (.inr (.inr ⟨digits, rfl⟩))
  · split at h
    · cases h
    · cases h
    · cases h
      exact .inl ⟨_, rfl⟩

theorem refusal_of_locate {path : Path} {table : List (String × Value)} {f : Failure}
    (h : locate path table = .error f) : Refusal f := by
  unfold locate at h
  split at h
  · cases h
  · next v _ =>
      rcases bind_eq_error.mp h with h | ⟨root, -, h⟩
      · unfold rootBelow at h
        split at h
        · cases h
        · cases h
          exact .inr (.inl ⟨_, rfl⟩)
      · cases h

end SettingsFile

namespace Analysis

variable {parse : List UInt8 → Node} {fs : FileSystem} {s : Settings} {f : Failure}

theorem validate_eq_error {reporting : Option Bool} {source : String} {cs : List Candidate}
    (h : (Validation.validate s reporting source cs).result = .error f) :
    f = .emptyIdentifier := by
  by_cases hnamed : Validation.Named s cs
  · rw [Validation.validate_of_named hnamed] at h
    cases h
  · obtain ⟨before, c, after, rfl, hbefore, hstays, hname⟩ :=
      Validation.exists_first_unnamed hnamed
    rw [(Validation.validate_of_unnamed hbefore hstays hname).1] at h
    cases h
    rfl

theorem candidates_eq_error {t : SourceTree} {ignored : List String}
    (h : (candidates t ignored).result = .error f) :
    (∃ g, t.load.result = .error g ∧ f = .load g) ∨ ∃ g, f = .encoding g := by
  cases hload : t.load.result with
  | error g =>
      rw [candidates_of_load_error hload] at h
      cases h
      exact .inl ⟨g, rfl, rfl⟩
  | ok units =>
      simp only [candidates, Run.result_bind, Run.result_mapError, hload] at h
      cases hfound : (Extraction.extractAll ignored units).result with
      | ok found =>
          rw [Except.mapError, ok_bind, hfound] at h
          cases h
      | error g =>
          rw [Except.mapError, ok_bind, hfound] at h
          cases h
          exact .inr ⟨g, rfl⟩

theorem settle_eq_error {catalog : Catalog} :
    (settle s catalog).result = .error f ↔
      s.strict = true ∧ catalog.violations ≠ [] ∧ f = .strict catalog.violations := by
  unfold settle
  cases hok : catalog.ok with
  | true =>
      have hclean : catalog.violations = [] := List.isEmpty_iff.mp hok
      simp [hclean]
  | false =>
      have hviolated : catalog.violations ≠ [] := by
        intro hclean
        simp [Catalog.ok, hclean] at hok
      cases s.strict with
      | true => simp [hviolated, eq_comm]
      | false => simp

/-- An analysis fails for a source that does not load, for a text that is no UTF-8, for a
missing name, or in strict mode for violations. -/
theorem analyze_eq_error (h : (analyze parse fs s).result = .error f) :
    (∃ g, (sources parse fs s).load.result = .error g ∧ f = .load g) ∨
      (∃ g, f = .encoding g) ∨ f = .emptyIdentifier ∨
      s.strict = true ∧ ∃ catalog, (assess parse fs s).result = .ok catalog ∧
        catalog.violations ≠ [] ∧ f = .strict catalog.violations := by
  rw [analyze_eq_assess, Run.result_bind] at h
  rcases bind_eq_error.mp h with h | ⟨catalog, hcatalog, h⟩
  · rw [assess, Run.result_bind] at h
    rcases bind_eq_error.mp h with h | ⟨found, -, h⟩
    · exact (candidates_eq_error h).imp_right .inl
    · exact .inr (.inr (.inl (validate_eq_error h)))
  · obtain ⟨hstrict, hviolated, rfl⟩ := settle_eq_error.mp h
    exact .inr (.inr (.inr ⟨hstrict, catalog, hcatalog, hviolated, rfl⟩))

end Analysis

/-- Which writer gives the text of a format. -/
theorem Target.renderAs_eq_ok {source text : String} {records : List Record} {format : Format} :
    renderAs source records format = .ok text ↔
      (format = .json → text = Json.write source records) ∧
      (format = .toml → Toml.write? source records = some text) := by
  unfold renderAs
  cases format with
  | json =>
      rw [Except.ok.injEq, eq_comm]
      simp only [forall_const, reduceCtorEq, false_implies, and_true]
  | toml => cases Toml.write? source records <;> simp

namespace CommandLine

variable {parse : List UInt8 → Node} {fs : FileSystem} {o : Options}

theorem refusal_of_resolveSettings {f : Failure} (h : (resolveSettings fs o).result = .error f) :
    SettingsFile.Refusal f := by
  simp only [resolveSettings, Run.result_bind, result_settingsPath, ok_bind] at h
  split at h
  · next path _ =>
      rw [Run.result_ofExcept, load_overrides] at h
      rcases bind_eq_error.mp h with h | ⟨table, -, h⟩
      · exact SettingsFile.refusal_of_tableOf h
      · rcases bind_eq_error.mp h with h | ⟨values, -, h⟩
        · exact SettingsFile.refusal_of_locate h
        · exact SettingsFile.refusal_of_build h
  · exact SettingsFile.refusal_of_build h

/-! ## Exit codes -/

/-- The settings cannot be had, or the sources they point to cannot be loaded. -/
def Unavailable (parse : List UInt8 → Node) (fs : FileSystem) (o : Options) : Prop :=
  (∃ f, (resolveSettings fs o).result = .error (.settings f)) ∨
    ∃ s f, (resolveSettings fs o).result = .ok s ∧
      (Analysis.sources parse fs s).load.result = .error f

/-- Settings and sources are there, strict mode is on, and a violation was recorded. -/
def StrictlyViolated (parse : List UInt8 → Node) (fs : FileSystem) (o : Options) : Prop :=
  ∃ s found catalog, (resolveSettings fs o).result = .ok s ∧ s.strict = true ∧
    (Analysis.candidates (Analysis.sources parse fs s) s.ignored).result = .ok found ∧
    (Validation.validate s none s.root.text found).result = .ok catalog ∧
    catalog.violations ≠ []

theorem survey_eq_error {f : Failure} :
    (survey parse fs o).result = .error f ↔
      (resolveSettings fs o).result = .error f ∨
        ∃ s, (resolveSettings fs o).result = .ok s ∧
          (Analysis.analyze parse fs s).result = .error f := by
  simp only [survey, Run.result_bind, bind_eq_error, Run.result_pure, reduceCtorEq, and_false,
    exists_false, or_false]

theorem survey_eq_ok {s : Settings} {catalog : Catalog} :
    (survey parse fs o).result = .ok (s, catalog) ↔
      (resolveSettings fs o).result = .ok s ∧
        (Analysis.analyze parse fs s).result = .ok catalog := by
  simp only [survey, Run.result_bind, bind_eq_ok, Run.result_pure, Except.ok.injEq,
    Prod.mk.injEq]
  constructor
  · rintro ⟨s', hs, catalog', hcatalog, rfl, rfl⟩
    exact ⟨hs, hcatalog⟩
  · rintro ⟨hs, hcatalog⟩
    exact ⟨s, hs, catalog, hcatalog, rfl, rfl⟩

theorem survey_eq_settings_error {g : SettingsFailure} :
    (survey parse fs o).result = .error (.settings g) ↔
      (resolveSettings fs o).result = .error (.settings g) := by
  rw [survey_eq_error]
  refine or_iff_left ?_
  rintro ⟨s, -, h⟩
  rcases Analysis.analyze_eq_error h with ⟨_, -, h⟩ | ⟨_, h⟩ | h | ⟨-, _, -, -, h⟩ <;> cases h

theorem survey_eq_load_error {g : LoadFailure} :
    (survey parse fs o).result = .error (.load g) ↔
      ∃ s, (resolveSettings fs o).result = .ok s ∧
        (Analysis.sources parse fs s).load.result = .error g := by
  rw [survey_eq_error]
  constructor
  · rintro (h | ⟨s, hs, h⟩)
    · rcases refusal_of_resolveSettings h with ⟨_, h⟩ | ⟨_, h⟩ | ⟨_, h⟩ | ⟨_, h⟩ <;> cases h
    · refine ⟨s, hs, ?_⟩
      rcases Analysis.analyze_eq_error h with ⟨_, hload, h⟩ | ⟨_, h⟩ | h | ⟨-, _, -, -, h⟩
      · cases h
        exact hload
      all_goals cases h
  · rintro ⟨s, hs, hload⟩
    exact .inr ⟨s, hs, by rw [Analysis.analyze_of_load_error hload]⟩

theorem survey_eq_strict_error :
    (∃ violations, (survey parse fs o).result = .error (.strict violations)) ↔
      StrictlyViolated parse fs o := by
  simp only [survey_eq_error]
  constructor
  · rintro ⟨violations, h | ⟨s, hs, h⟩⟩
    · rcases refusal_of_resolveSettings h with ⟨_, h⟩ | ⟨_, h⟩ | ⟨_, h⟩ | ⟨_, h⟩ <;> cases h
    · rcases Analysis.analyze_eq_error h with ⟨_, -, h⟩ | ⟨_, h⟩ | h |
        ⟨hstrict, catalog, hcatalog, hviolated, -⟩
      · cases h
      · cases h
      · cases h
      · obtain ⟨found, hfound, hvalid⟩ := Analysis.assess_eq_ok.mp hcatalog
        exact ⟨s, found, catalog, hs, hstrict, hfound, hvalid, hviolated⟩
  · rintro ⟨s, found, catalog, hs, hstrict, hfound, hvalid, hviolated⟩
    refine ⟨catalog.violations, .inr ⟨s, hs, ?_⟩⟩
    rw [Analysis.analyze_eq_assess, Run.result_bind,
      Analysis.assess_eq_ok.mpr ⟨found, hfound, hvalid⟩, ok_bind]
    exact Analysis.settle_eq_error.mpr ⟨hstrict, hviolated, rfl⟩

/-- The code of a failure that the program handles. -/
def codeOf? (f : Failure) : Option Nat :=
  (exitOf? f).map (·.1)

theorem codeOf?_eq_two {f : Failure} :
    codeOf? f = some 2 ↔ (∃ g, f = .settings g) ∨ ∃ g, f = .load g := by
  cases f <;> simp [codeOf?, exitOf?]

theorem codeOf?_eq_one {f : Failure} : codeOf? f = some 1 ↔ ∃ vs, f = .strict vs := by
  cases f <;> simp [codeOf?, exitOf?]

theorem codeOf?_eq_some {f : Failure} {code : Nat} (h : codeOf? f = some code) :
    code = 1 ∨ code = 2 := by
  cases f <;> simp [codeOf?, exitOf?] at h <;> omega

/-! ## Running -/

theorem execute_of_error {f : Failure} (h : (survey parse fs o).result = .error f) :
    (execute parse fs o).files = fs ∧ (execute parse fs o).stdout = "" ∧
      ∀ code, (execute parse fs o).result = .ok code ↔ codeOf? f = some code := by
  unfold execute codeOf?
  simp only [h]
  cases exitOf? f with
  | none => simp
  | some exit => simp

theorem execute_of_ok {s : Settings} {catalog : Catalog}
    (h : (survey parse fs o).result = .ok (s, catalog)) :
    (execute parse fs o).files = (deliver fs o s catalog).1 ∧
      ∀ code, (execute parse fs o).result = .ok code →
        code = 0 ∧ (deliver fs o s catalog).2.result = .ok (execute parse fs o).stdout := by
  unfold execute
  simp only [h]
  cases (deliver fs o s catalog).2.result with
  | error f => simp
  | ok text =>
      refine ⟨rfl, fun code hcode => ?_⟩
      cases hcode
      exact ⟨rfl, rfl⟩

/-- What a delivery prints and which files it leaves. A text is printed or written, and
beside the file only directories above it are new. -/
structure Delivered (fs : FileSystem) (o : Options) (text : String) (files : FileSystem)
    (stdout : String) : Prop where
  printed : o.output = none → stdout = text ∧ files = fs
  written : ∀ path, o.output = some path → stdout = "" ∧
    ∃ place, files.resolve path = .ok place ∧
      files.entry? place = some (.file (Text.Utf8.encode text.toList)) ∧
      ∀ l, l ≠ place → files.entry? l = fs.entry? l ∨
        fs.entry? l = none ∧ files.entry? l = some .directory ∧
          ∃ q ∈ path.parents, files.resolve q = .ok l

theorem deliver_eq_ok {s : Settings} {catalog : Catalog} {stdout : String}
    (h : (deliver fs o s catalog).2.result = .ok stdout) :
    ∃ text, Target.renderAs s.root.text (catalog.signatures.map Signature.toRecord) o.format =
        .ok text ∧
      Delivered fs o text (deliver fs o s catalog).1 stdout := by
  -- a delivery succeeds when its target is closed, which has two ways to go well
  have hclose := Target.closing_close fs (writerFor o s catalog)
  unfold deliver at h ⊢
  generalize (writerFor o s catalog).close fs = r at h hclose ⊢
  cases hclose with
  | noText htext => simp [reportEmitted] at h
  | @noFile text htext hpath =>
      have houtput : o.output = none := hpath
      have hstdout : text = stdout := by simpa [reportEmitted, houtput] using h
      subst hstdout
      exact ⟨text, htext, fun _ => ⟨rfl, rfl⟩, by simp [houtput]⟩
  | @written text path fs' htext hpath hwrite =>
      have houtput : o.output = some path := hpath
      have hstdout : "" = stdout := by simpa [reportEmitted, houtput] using h
      subst hstdout
      refine ⟨text, htext, by simp [houtput], fun path' hpath' => ⟨rfl, ?_⟩⟩
      obtain rfl : path = path' := by simpa [houtput] using hpath'
      exact FileSystem.changes_of_writeWithParents hwrite
  | refused htext hpath hwrite => simp [reportEmitted] at h

theorem run_of_parse {words : List String} (h : CommandLine.parse words = .ok o) :
    run parse fs words = execute parse fs o := by
  unfold run
  rw [h]

/-- The codes of a run and what ends it with them. -/
theorem execute_eq_ok {code : Nat} (h : (execute parse fs o).result = .ok code) :
    (∃ f, (survey parse fs o).result = .error f ∧ codeOf? f = some code) ∨
      code = 0 ∧ ∃ s catalog, (survey parse fs o).result = .ok (s, catalog) := by
  cases hsurvey : (survey parse fs o).result with
  | error f => exact .inl ⟨f, rfl, ((execute_of_error hsurvey).2.2 code).mp h⟩
  | ok found => exact .inr ⟨((execute_of_ok hsurvey).2 code h).1, found.1, found.2, rfl⟩

theorem execute_eq_code {code : Nat} (hcode : code ≠ 0) :
    (execute parse fs o).result = .ok code ↔
      ∃ f, (survey parse fs o).result = .error f ∧ codeOf? f = some code := by
  constructor
  · intro h
    rcases execute_eq_ok h with h | ⟨hzero, -⟩
    · exact h
    · exact absurd hzero hcode
  · rintro ⟨f, hsurvey, hf⟩
    exact ((execute_of_error hsurvey).2.2 code).mpr hf

theorem execute_eq_two : (execute parse fs o).result = .ok 2 ↔ Unavailable parse fs o := by
  rw [execute_eq_code (by decide)]
  unfold Unavailable
  simp only [codeOf?_eq_two]
  constructor
  · rintro ⟨_, h, ⟨g, rfl⟩ | ⟨g, rfl⟩⟩
    · exact .inl ⟨g, survey_eq_settings_error.mp h⟩
    · obtain ⟨s, hs, hload⟩ := survey_eq_load_error.mp h
      exact .inr ⟨s, g, hs, hload⟩
  · rintro (⟨g, h⟩ | ⟨s, g, hs, hload⟩)
    · exact ⟨_, survey_eq_settings_error.mpr h, .inl ⟨g, rfl⟩⟩
    · exact ⟨_, survey_eq_load_error.mpr ⟨s, hs, hload⟩, .inr ⟨g, rfl⟩⟩

theorem execute_eq_one : (execute parse fs o).result = .ok 1 ↔ StrictlyViolated parse fs o := by
  rw [execute_eq_code (by decide), ← survey_eq_strict_error]
  simp only [codeOf?_eq_one]
  constructor
  · rintro ⟨_, h, violations, rfl⟩
    exact ⟨violations, h⟩
  · rintro ⟨violations, h⟩
    exact ⟨_, h, violations, rfl⟩

/-- A run that gives a code gives two where settings or sources are not to be had, one
where a violation was recorded in strict mode, and zero otherwise. Code one or two means
that nothing was printed and no file changed. Code zero means that the catalog was
delivered, as the text that the writer of the format asked for gives for the records. -/
theorem run_outcome {words : List String} {o : Options} (h : CommandLine.parse words = .ok o)
    (parse : List UInt8 → Node) (fs : FileSystem) :
    ((run parse fs words).result = .ok 2 ↔ Unavailable parse fs o) ∧
    ((run parse fs words).result = .ok 1 ↔ StrictlyViolated parse fs o) ∧
    (∀ code, (run parse fs words).result = .ok code →
      ¬ Unavailable parse fs o → ¬ StrictlyViolated parse fs o → code = 0) ∧
    (∀ code, (run parse fs words).result = .ok code → code ≠ 0 →
      (run parse fs words).stdout = "" ∧ (run parse fs words).files = fs) ∧
    ((run parse fs words).result = .ok 0 →
      ∃ s catalog text, (resolveSettings fs o).result = .ok s ∧
        (Analysis.analyze parse fs s).result = .ok catalog ∧
        (o.format = .json →
          text = Json.write s.root.text (catalog.signatures.map Signature.toRecord)) ∧
        (o.format = .toml →
          Toml.write? s.root.text (catalog.signatures.map Signature.toRecord) = some text) ∧
        Delivered fs o text (run parse fs words).files (run parse fs words).stdout) := by
  rw [run_of_parse h]
  refine ⟨execute_eq_two, execute_eq_one, fun code hcode hthere hkept => ?_,
    fun code hcode hne => ?_, fun hcode => ?_⟩
  · rcases execute_eq_ok hcode with ⟨f, -, hf⟩ | ⟨hzero, -⟩
    · rcases codeOf?_eq_some hf with rfl | rfl
      · exact absurd (execute_eq_one.mp hcode) hkept
      · exact absurd (execute_eq_two.mp hcode) hthere
    · exact hzero
  · obtain ⟨f, hsurvey, -⟩ := (execute_eq_code hne).mp hcode
    obtain ⟨hfiles, hstdout, -⟩ := execute_of_error hsurvey
    exact ⟨hstdout, hfiles⟩
  · rcases execute_eq_ok hcode with ⟨f, -, hf⟩ | ⟨-, s, catalog, hsurvey⟩
    · rcases codeOf?_eq_some hf with h | h <;> cases h
    · obtain ⟨hfiles, hdelivery⟩ := execute_of_ok hsurvey
      obtain ⟨text, htext, hdelivered⟩ := deliver_eq_ok (hdelivery 0 hcode).2
      obtain ⟨hs, hcatalog⟩ := survey_eq_ok.mp hsurvey
      obtain ⟨hjson, htoml⟩ := Target.renderAs_eq_ok.mp htext
      rw [hfiles]
      exact ⟨s, catalog, text, hs, hcatalog, hjson, htoml, hdelivered⟩

/-- Options for a root and nothing else. -/
def plainOptions (root : String) : Options :=
  { root := .parse root }

/-- A tree that is not there; a tree with an `unsafe` function, in strict mode; and the
same tree with a file for the catalog in a directory that is missing. -/
theorem run_outcome_threeRuns :
    ((run Rust.parse Analysis.unsafeAmongOthers ["lib"]).result = .ok 2 ∧
      Unavailable Rust.parse Analysis.unsafeAmongOthers (plainOptions "lib")) ∧
    ((run Rust.parse Analysis.unsafeAmongOthers ["src", "--strict", "-o", "api.toml"]).result =
        .ok 1 ∧
      (run Rust.parse Analysis.unsafeAmongOthers ["src", "--strict", "-o", "api.toml"]).files =
        Analysis.unsafeAmongOthers) ∧
    ∃ (source text : String) (records : List Record) (place : Location),
      Toml.write? source records = some text ∧
      (run Rust.parse Analysis.unsafeAmongOthers ["src", "--output=gen/api.toml"]).stdout = "" ∧
      (run Rust.parse Analysis.unsafeAmongOthers ["src", "--output=gen/api.toml"]).files.resolve
        (.parse "gen/api.toml") = .ok place ∧
      (run Rust.parse Analysis.unsafeAmongOthers ["src", "--output=gen/api.toml"]).files.entry?
        place = some (.file (Text.Utf8.encode text.toList)) := by
  have hlib : CommandLine.parse ["lib"] = .ok (plainOptions "lib") := by decide +kernel
  have hstrict : CommandLine.parse ["src", "--strict", "-o", "api.toml"] =
      .ok { plainOptions "src" with strict := true, output := some (.parse "api.toml") } := by
    decide +kernel
  have hgen : CommandLine.parse ["src", "--output=gen/api.toml"] =
      .ok { plainOptions "src" with output := some (.parse "gen/api.toml") } := by
    decide +kernel
  obtain ⟨htwo, -⟩ := run_outcome hlib Rust.parse Analysis.unsafeAmongOthers
  obtain ⟨-, -, -, hquiet, -⟩ := run_outcome hstrict Rust.parse Analysis.unsafeAmongOthers
  obtain ⟨-, -, -, -, hzero⟩ := run_outcome hgen Rust.parse Analysis.unsafeAmongOthers
  have hcode : (run Rust.parse Analysis.unsafeAmongOthers ["lib"]).result = .ok 2 := by
    decide +kernel
  have hcode' : (run Rust.parse Analysis.unsafeAmongOthers
      ["src", "--strict", "-o", "api.toml"]).result = .ok 1 := by
    decide +kernel
  obtain ⟨s, catalog, text, -, -, -, htoml, hdelivered⟩ := hzero (by decide +kernel)
  obtain ⟨hstdout, place, hplace, hfile, -⟩ := hdelivered.written _ rfl
  exact ⟨⟨hcode, htwo.mp hcode⟩, ⟨hcode', (hquiet 1 hcode' (by decide)).2⟩, s.root.text,
    text, _, place, htoml rfl, hstdout, hplace, hfile⟩

end CommandLine
end ApiCatalog
