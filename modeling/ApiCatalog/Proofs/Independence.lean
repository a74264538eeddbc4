import ApiCatalog.Proofs.Discovery
import ApiCatalog.Proofs.Pipeline
import ApiCatalog.Rust.Parser

/-!
# What an analysis depends on

No stage keeps anything from one file to the next, so a catalog is the catalogs of
its files put one after the other. And nothing but the files that are found reaches
a stage: two file systems that hold the same sources below the root give the same
run, whatever else they hold and in whatever order their entries stand.
-/

namespace ApiCatalog.Analysis

open Extraction Validation

/-! ## One file after the other -/

/-- The catalog of one source file on its own. -/
def fileCatalog (t : SourceTree) (s : Settings) (path : Path) : Run Failure Catalog := do
  let unit ← (t.loadFile (t.root.join path)).mapError Failure.load
  let found ← (extract s.ignored unit).mapError Failure.encoding
  validate s none s.root.text found

/-- What validation makes of some candidates, if all that are kept have names. -/
def catalogOf (s : Settings) (found : List Candidate) : Catalog :=
  ⟨s.root.text, (found.filter (isKept s)).filterMap signature?, found.flatMap (check s)⟩

theorem catalogOf_flatten (s : Settings) (lists : List (List Candidate)) :
    (catalogOf s lists.flatten).signatures =
        (lists.map (catalogOf s)).flatMap (·.signatures) ∧
      (catalogOf s lists.flatten).violations =
        (lists.map (catalogOf s)).flatMap (·.violations) := by
  induction lists with
  | nil => exact ⟨rfl, rfl⟩
  | cons list lists ih =>
      simp only [catalogOf, List.flatten_cons, List.filter_append, List.filterMap_append,
        List.flatMap_append, List.map_cons, List.flatMap_cons] at ih ⊢
      rw [ih.1, ih.2]
      exact ⟨rfl, rfl⟩

theorem fileCatalog_of_ok {t : SourceTree} {s : Settings} {path : Path} {unit : SourceUnit}
    {found : List Candidate} (hload : (t.loadFile (t.root.join path)).result = .ok unit)
    (hfound : (extract s.ignored unit).result = .ok found)
    (hnamed : ∀ c ∈ found, isKept s c = true → c.ident ≠ "") :
    (fileCatalog t s path).result = .ok (catalogOf s found) := by
  have hvalid : (validate s none s.root.text found).result = .ok (catalogOf s found) :=
    validate_eq_ok.mpr ⟨hnamed, rfl⟩
  simp only [fileCatalog, Run.result_bind, Run.result_mapError, bind_eq_ok, mapError_eq_ok]
  exact ⟨unit, hload, found, hfound, hvalid⟩

theorem forall₂_fileCatalog {t : SourceTree} {s : Settings} {paths : List Path}
    {units : List SourceUnit} {lists : List (List Candidate)}
    (hunits : List.Forall₂ (fun path unit =>
      (t.loadFile (t.root.join path)).result = .ok unit) paths units)
    (hlists : List.Forall₂ (fun unit list => (extract s.ignored unit).result = .ok list)
      units lists)
    (hnamed : ∀ list ∈ lists, ∀ c ∈ list, isKept s c = true → c.ident ≠ "") :
    List.Forall₂ (fun path part => (fileCatalog t s path).result = .ok part)
      paths (lists.map (catalogOf s)) := by
  induction hunits generalizing lists with
  | nil =>
      cases hlists
      exact .nil
  | cons hload _ ih =>
      cases hlists with
      | cons hlist hrest =>
          rw [List.forall_mem_cons] at hnamed
          exact .cons (fileCatalog_of_ok hload hlist hnamed.1) (ih hrest hnamed.2)

theorem analyze_concat {parse : List UInt8 → Node} {fs : FileSystem} {s : Settings}
    {catalog : Catalog} (h : (analyze parse fs s).result = .ok catalog) :
    ∃ parts, List.Forall₂ (fun path part =>
        (fileCatalog (sources parse fs s) s path).result = .ok part)
          (sources parse fs s).discover parts ∧
      catalog.signatures = parts.flatMap (·.signatures) ∧
      catalog.violations = parts.flatMap (·.violations) := by
  obtain ⟨units, lists, -, hunits, hlists, hvalid, -⟩ := analyze_eq_ok.mp h
  obtain ⟨hnamed, rfl⟩ := validate_eq_ok.mp hvalid
  refine ⟨lists.map (catalogOf s), forall₂_fileCatalog hunits hlists ?_,
    catalogOf_flatten s lists⟩
  intro list hlist c hc
  exact hnamed c (List.mem_flatten.mpr ⟨list, hlist, hc⟩)

/-! ## Nothing but the sources -/

/-- Two file systems hold the same files of the suffixes that are asked for. -/
def SameSources (s : Settings) (fs fs' : FileSystem) : Prop :=
  ∀ path bytes, path.HasSuffixIn s.extensions →
    (fs.FileBelow s.root path bytes ↔ fs'.FileBelow s.root path bytes)

variable {parse : List UInt8 → Node} {fs fs' : FileSystem} {s : Settings}

@[simp] theorem sources_files : (sources parse fs s).files = fs := rfl

@[simp] theorem sources_root : (sources parse fs s).root = s.root := rfl

theorem mem_discover_sources {path : Path} :
    path ∈ (sources parse fs s).discover ↔
      path.HasSuffixIn s.extensions ∧ ∃ bytes, fs.FileBelow s.root path bytes :=
  SourceTree.mem_discover

theorem discover_congr (h : SameSources s fs fs') :
    (sources parse fs s).discover = (sources parse fs' s).discover := by
  refine Text.eq_of_pairwise_of_mem_iff (SourceTree.pairwise_discover _)
    (SourceTree.pairwise_discover _) ?_
  intro path
  rw [mem_discover_sources, mem_discover_sources]
  refine and_congr_right fun hsuffix => ?_
  exact exists_congr fun bytes => h path bytes hsuffix

theorem loadFile_congr (h : SameSources s fs fs') {path : Path}
    (hpath : path ∈ (sources parse fs s).discover) :
    (sources parse fs s).loadFile (s.root.join path) =
      (sources parse fs' s).loadFile (s.root.join path) := by
  obtain ⟨hsuffix, bytes, hbelow⟩ := mem_discover_sources.mp hpath
  have hread : fs.read (s.root.join path) = fs'.read (s.root.join path) := by
    rw [FileSystem.read_of_fileBelow hbelow,
      FileSystem.read_of_fileBelow ((h path bytes hsuffix).mp hbelow)]
  have hdecoded : fs.readDecoded (s.root.join path) = fs'.readDecoded (s.root.join path) := by
    rw [FileSystem.readDecoded, FileSystem.readDecoded, hread]
  simp only [SourceTree.loadFile, sources, hdecoded]
  rfl

theorem loadFiles_congr {t t' : SourceTree} {paths : List Path}
    (h : ∀ path ∈ paths, t.loadFile path = t'.loadFile path) :
    t.loadFiles paths = t'.loadFiles paths := by
  induction paths with
  | nil => rfl
  | cons path rest ih =>
      rw [List.forall_mem_cons] at h
      rw [SourceTree.loadFiles, SourceTree.loadFiles, h.1, ih h.2]

theorem load_congr (hroot : fs.isDirectory s.root = true)
    (hroot' : fs'.isDirectory s.root = true) (h : SameSources s fs fs') :
    (sources parse fs s).load = (sources parse fs' s).load := by
  have hfiles : (sources parse fs s).loadFiles
        ((sources parse fs s).discover.map s.root.join) =
      (sources parse fs' s).loadFiles ((sources parse fs' s).discover.map s.root.join) := by
    rw [← discover_congr h]
    refine loadFiles_congr fun path hpath => ?_
    obtain ⟨found, hfound, rfl⟩ := List.mem_map.mp hpath
    exact loadFile_congr h hfound
  simp only [SourceTree.load, sources_files, sources_root, hroot, hroot', if_true, hfiles]

theorem analyze_congr (hroot : fs.isDirectory s.root = true)
    (hroot' : fs'.isDirectory s.root = true) (h : SameSources s fs fs') :
    analyze parse fs s = analyze parse fs' s := by
  unfold analyze candidates
  rw [load_congr hroot hroot' h]

/-- What is found are the files below the root of the suffixes that are asked for, in
the order of the texts of their paths; a catalog is made of the catalogs of these
files alone, in this order; and the whole run, its events with its result, is the same
in every file system with the same sources. -/
theorem analyze_determined_by_sources (parse : List UInt8 → Node) (fs : FileSystem)
    (s : Settings) (hroot : fs.isDirectory s.root = true) :
    (((sources parse fs s).discover.map Path.text).Pairwise (· < ·) ∧
      ∀ path, path ∈ (sources parse fs s).discover ↔
        path.HasSuffixIn s.extensions ∧ ∃ bytes, fs.FileBelow s.root path bytes) ∧
    (∀ catalog, (analyze parse fs s).result = .ok catalog →
      ∃ parts, List.Forall₂ (fun path part =>
          (fileCatalog (sources parse fs s) s path).result = .ok part)
            (sources parse fs s).discover parts ∧
        catalog.signatures = parts.flatMap (·.signatures) ∧
        catalog.violations = parts.flatMap (·.violations)) ∧
    ∀ fs', fs'.isDirectory s.root = true → SameSources s fs fs' →
      (sources parse fs s).discover = (sources parse fs' s).discover ∧
        analyze parse fs s = analyze parse fs' s := by
  refine ⟨⟨SourceTree.pairwise_discover _, fun path => mem_discover_sources⟩, ?_, ?_⟩
  · intro catalog hcatalog
    exact analyze_concat hcatalog
  · intro fs' hroot' hsame
    exact ⟨discover_congr hsame, analyze_congr hroot hroot' hsame⟩

/-! ## Two trees with the same sources -/

/-- Whether the sources are the same can be seen on the files that the walks find. -/
theorem sameSources_of_filesBelow {base : Location} (hbase : fs.resolve s.root = .ok base)
    (hbase' : fs'.resolve s.root = .ok base)
    (h : ∀ path ∈ fs.filesBelow base ++ fs'.filesBelow base,
      s.extensions.contains path.suffix = true →
        fs.entry? (base ++ path.parts) = fs'.entry? (base ++ path.parts) ∧
          path ∈ fs.filesBelow base ∧ path ∈ fs'.filesBelow base) :
    SameSources s fs fs' := by
  intro path bytes hsuffix
  rw [Path.hasSuffixIn_iff] at hsuffix
  exact FileSystem.fileBelow_congr hbase hbase' fun hmem => h path hmem hsuffix

/-- The bytes of a source with one function of a name. -/
def oneFunction (name : String) : List UInt8 :=
  Text.Utf8.encode ("#[inline] #[no_panic] pub extern \"C\" fn " ++ name ++
    "() \x7b\x7d").toList

/-- Three sources in `src`. -/
def threeSources : FileSystem :=
  ⟨[(["src"], .directory), (["src", "a.rs"], .file (oneFunction "first")),
    (["src", "a"], .directory), (["src", "a", "z.rs"], .file (oneFunction "second")),
    (["src", "b.rs"], .file (oneFunction "third"))]⟩

/-- The same sources, listed backwards and among other things. -/
def threeSourcesAmongOthers : FileSystem :=
  ⟨[(["src", "b.rs"], .file (oneFunction "third")), (["src", "x.rs"], .directory),
    (["src", "a", "z.rs"], .file (oneFunction "second")), (["src", "a"], .directory),
    (["src", "notes.rs.txt"], .file []), (["src", "a.rs"], .file (oneFunction "first")),
    (["lib.rs"], .file (oneFunction "fourth")), (["src"], .directory)]⟩

def srcSettings : Settings :=
  { root := .parse "src" }

/-- Both trees give the same run, with the functions in the order of the files. -/
theorem analyze_determined_by_sources_threeSources :
    threeSources.isDirectory srcSettings.root = true ∧
      threeSourcesAmongOthers.isDirectory srcSettings.root = true ∧
      SameSources srcSettings threeSources threeSourcesAmongOthers ∧
      (∃ catalog, (analyze Rust.parse threeSources srcSettings).result = .ok catalog ∧
        catalog.identifiers = ["first", "second", "third"]) ∧
      analyze Rust.parse threeSources srcSettings =
        analyze Rust.parse threeSourcesAmongOthers srcSettings := by
  have hroot : threeSources.isDirectory srcSettings.root = true := by decide
  have hroot' : threeSourcesAmongOthers.isDirectory srcSettings.root = true := by decide
  have hsame : SameSources srcSettings threeSources threeSourcesAmongOthers :=
    @sameSources_of_filesBelow _ _ _ ["src"] (by decide) (by decide) (by decide +kernel)
  have hall := analyze_determined_by_sources Rust.parse threeSources srcSettings hroot
  exact ⟨hroot, hroot', hsame, by decide +kernel, (hall.2.2 _ hroot' hsame).2⟩

end ApiCatalog.Analysis
