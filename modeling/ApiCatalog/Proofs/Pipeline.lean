import ApiCatalog.Analysis
import ApiCatalog.Proofs.Declarations
import ApiCatalog.Proofs.Judgement

/-!
# What an analysis goes through

Each stage hands a list to the next one: paths, loaded files, candidates. A stage
that succeeds did so on every item, so what it gives stands in step with what it
was given. That is said once for each stage here, as an equivalence, and a whole
analysis that gives a catalog is then taken apart by `analyze_eq_ok`.
-/

namespace ApiCatalog

theorem FileSystem.readDecoded_eq_ok {fs : FileSystem} {p : Path} {bytes : List UInt8}
    {text : List Char} :
    fs.readDecoded p = .ok (bytes, text) ↔
      fs.read p = .ok bytes ∧ Text.Utf8.decode bytes = .ok text := by
  simp only [readDecoded, bind_eq_ok, mapError_eq_ok, pure_eq_ok, Prod.mk.injEq]
  constructor
  · rintro ⟨_, hread, _, htext, rfl, rfl⟩
    exact ⟨hread, htext⟩
  · rintro ⟨hread, htext⟩
    exact ⟨bytes, hread, text, htext, rfl, rfl⟩

/-! ## Loading -/

namespace SourceTree

theorem loadFile_eq_ok {t : SourceTree} {path : Path} {unit : SourceUnit} :
    (t.loadFile path).result = .ok unit ↔
      ∃ bytes text, t.files.readDecoded path = .ok (bytes, text) ∧
        (t.parse bytes).hasError = false ∧
        unit = ⟨t.shownPath path, bytes, t.parse bytes⟩ := by
  unfold loadFile
  cases t.files.readDecoded path with
  | error why => simp
  | ok pair =>
      obtain ⟨bytes, text⟩ := pair
      cases herror : (t.parse bytes).hasError with
      | true => simp [herror]
      | false =>
          simp only [herror, Bool.false_eq_true, if_false, Run.result_bind, Run.result_log,
            ok_bind, Run.result_pure, Except.ok.injEq]
          constructor
          · rintro rfl
            exact ⟨bytes, text, rfl, herror, rfl⟩
          · rintro ⟨_, _, ⟨⟩, -, rfl⟩
            rfl

theorem loadFiles_eq_ok {t : SourceTree} {paths : List Path} {units : List SourceUnit} :
    (t.loadFiles paths).result = .ok units ↔
      List.Forall₂ (fun path unit => (t.loadFile path).result = .ok unit) paths units := by
  induction paths generalizing units with
  | nil =>
      rw [loadFiles, Run.result_pure, Except.ok.injEq, List.forall₂_nil_left_iff]
      exact eq_comm
  | cons path rest ih =>
      simp only [loadFiles, Run.result_bind, bind_eq_ok, Run.result_pure, Except.ok.injEq, ih]
      constructor
      · rintro ⟨unit, hunit, units, hunits, rfl⟩
        exact .cons hunit hunits
      · rintro (_ | ⟨hunit, hunits⟩)
        exact ⟨_, hunit, _, hunits, rfl⟩

theorem result_reporting {α : Type} (r : Run LoadFailure α) :
    (reporting r).result = r.result := by
  unfold reporting
  cases hr : r.result with
  | ok a => exact hr
  | error f => rfl

theorem load_eq_ok {t : SourceTree} {units : List SourceUnit} :
    t.load.result = .ok units ↔
      t.files.isDirectory t.root = true ∧
        List.Forall₂ (fun path unit => (t.loadFile (t.root.join path)).result = .ok unit)
          t.discover units := by
  unfold load
  split
  · next hroot =>
      simp only [Run.result_bind, bind_eq_ok, result_reporting, loadFiles_eq_ok,
        Run.result_log, ok_bind, Run.result_pure, Except.ok.injEq, List.forall₂_map_left_iff,
        hroot, exists_eq_right, true_and]
  · next hroot => simp [hroot]

end SourceTree

/-! ## Reading declarations -/

theorem Extraction.extractUnits_eq_ok {ignored : List String} {units : List SourceUnit}
    {found : List Candidate} :
    (extractUnits ignored units).result = .ok found ↔
      ∃ lists, List.Forall₂ (fun unit list => (extract ignored unit).result = .ok list)
        units lists ∧ found = lists.flatten := by
  induction units generalizing found with
  | nil =>
      rw [extractUnits, Run.result_pure, Except.ok.injEq]
      constructor
      · rintro rfl
        exact ⟨[], .nil, rfl⟩
      · rintro ⟨_, ⟨⟩, rfl⟩
        rfl
  | cons unit rest ih =>
      simp only [extractUnits, Run.result_bind, bind_eq_ok, Run.result_pure,
        Except.ok.injEq, ih]
      constructor
      · rintro ⟨list, hlist, _, ⟨lists, hlists, rfl⟩, rfl⟩
        exact ⟨list :: lists, .cons hlist hlists, rfl⟩
      · rintro ⟨_, _ | ⟨hlist, hlists⟩, rfl⟩
        exact ⟨_, hlist, _, ⟨_, hlists, rfl⟩, rfl⟩

/-! ## Whole analyses -/

namespace Analysis

theorem settle_eq_ok {s : Settings} {catalog out : Catalog} :
    (settle s catalog).result = .ok out ↔
      out = catalog ∧ (catalog.ok = true ∨ s.strict = false) := by
  unfold settle
  rw [eq_comm (a := out)]
  cases hok : catalog.ok with
  | true => simp
  | false =>
      cases hstrict : s.strict with
      | true => simp
      | false => simp

/-- A catalog comes of files that were all loaded, each on its own. -/
theorem analyze_eq_ok {parse : List UInt8 → Node} {fs : FileSystem} {s : Settings}
    {catalog : Catalog} :
    (analyze parse fs s).result = .ok catalog ↔
      ∃ units lists, fs.isDirectory s.root = true ∧
        List.Forall₂ (fun path unit =>
          ((sources parse fs s).loadFile (s.root.join path)).result = .ok unit)
            (sources parse fs s).discover units ∧
        List.Forall₂ (fun unit list =>
          (Extraction.extract s.ignored unit).result = .ok list) units lists ∧
        (Validation.validate s none s.root.text lists.flatten).result = .ok catalog ∧
        (catalog.ok = true ∨ s.strict = false) := by
  simp only [analyze, candidates, Extraction.extractAll, Run.result_bind, bind_eq_ok,
    Run.result_mapError, mapError_eq_ok, SourceTree.load_eq_ok,
    Extraction.extractUnits_eq_ok, Run.result_log, ok_bind, Run.result_pure,
    Except.ok.injEq, settle_eq_ok]
  constructor
  · rintro ⟨_, ⟨units, ⟨hroot, hunits⟩, _, ⟨lists, hlists, rfl⟩, rfl⟩, _, hvalid, rfl, hok⟩
    exact ⟨units, lists, hroot, hunits, hlists, hvalid, hok⟩
  · rintro ⟨units, lists, hroot, hunits, hlists, hvalid, hok⟩
    exact ⟨_, ⟨units, ⟨hroot, hunits⟩, _, ⟨lists, hlists, rfl⟩, rfl⟩, _, hvalid, rfl, hok⟩

end Analysis
end ApiCatalog
