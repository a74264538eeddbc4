import ApiCatalog.Proofs.Independence
import ApiCatalog.Proofs.Streams
import ApiCatalog.Proofs.Utf8

/-!
# Loading is all or nothing

A load goes through the files that are found in the order of their paths and stops
at the first one that cannot be loaded. What a file contributes is a function of its
bytes alone, so the walk is described without its loop: either the bytes of every
file found are fine, or there is a first file whose bytes are not. `AllLoad` and
`FailsWith` say the two outcomes in terms of the file system, the decoder and the
parser; the load gives units in the one case and that failure in the other.

Since the paths are sorted, the first failure is also the least one, and nothing that
comes after it in the order is ever looked at. Two trees that agree up to that file
therefore fail alike, and an analysis that starts with a failed load ends with it.
-/

namespace ApiCatalog

/-! ## Bytes that are texts -/

namespace Text.Utf8

/-- Bytes that some text is written with. -/
def Valid (bytes : List UInt8) : Prop :=
  ∃ cs, encode cs = bytes

theorem valid_of_decode {bytes : List UInt8} {cs : List Char} (h : decode bytes = .ok cs) :
    Valid bytes :=
  ⟨cs, encode_of_decode h⟩

theorem not_valid_of_decode {bytes : List UInt8} {fault : Fault}
    (h : decode bytes = .error fault) : ¬ Valid bytes := by
  rintro ⟨cs, rfl⟩
  rw [decode_encode] at h
  cases h

end Text.Utf8

/-- A relative path below a base is what is left of the joined path. -/
theorem Path.relativeTo?_join {path : Path} (h : path.anchor = .here) (root : Path) :
    (root.join path).relativeTo? root = some path := by
  simp [join, append, isAbsolute, relativeTo?, h, Path.ext_iff]

theorem Path.eq_of_join_eq {root path path' : Path} (hpath : path.anchor = .here)
    (hpath' : path'.anchor = .here) (h : root.join path = root.join path') : path = path' := by
  have hrest := relativeTo?_join hpath root
  rw [h, relativeTo?_join hpath'] at hrest
  exact (Option.some.inj hrest).symm

namespace SourceTree

variable {t : SourceTree}

theorem shownPath_join {path : Path} (h : path.anchor = .here) :
    t.shownPath (t.root.join path) = path.text := by
  rw [shownPath, Path.relativeTo?_join h, Option.getD_some]

/-! ## One file -/

/-- A file of these bytes can be loaded. -/
structure Loads (parse : List UInt8 → Node) (bytes : List UInt8) : Prop where
  valid : Text.Utf8.Valid bytes
  clean : (parse bytes).hasError = false

/-- Why a file of these bytes cannot be loaded. Only a text is parsed, so bytes that
are no text are never a matter of their tree. -/
inductive Refuses (parse : List UInt8 → Node) (bytes : List UInt8) : LoadCause → Prop
  | unreadable {fault : Text.Utf8.Fault} (hinvalid : ¬ Text.Utf8.Valid bytes)
      (hfault : Text.Utf8.decode bytes = .error fault) :
      Refuses parse bytes (.unreadable (.encoding fault))
  | badSyntax (hvalid : Text.Utf8.Valid bytes) (herror : (parse bytes).hasError = true) :
      Refuses parse bytes (.badSyntax (errorLine? (parse bytes)))

/-- The reason that is given tells the two causes apart. -/
theorem Refuses.reason {parse : List UInt8 → Node} {bytes : List UInt8} {cause : LoadCause}
    (h : Refuses parse bytes cause) :
    (¬ Text.Utf8.Valid bytes → ∃ more, cause.reason = "unreadable: " ++ more) ∧
      (Text.Utf8.Valid bytes → ∃ more, cause.reason = "syntax error at " ++ more) := by
  cases h with
  | unreadable hinvalid hfault => exact ⟨fun _ => ⟨_, rfl⟩, fun h => absurd h hinvalid⟩
  | badSyntax hvalid herror =>
      refine ⟨fun h => absurd hvalid h, fun _ => ?_⟩
      cases errorLine? (parse bytes) with
      | none => exact ⟨"unknown location", by decide +kernel⟩
      | some line =>
          refine ⟨"line " ++ toString line, ?_⟩
          rw [← String.append_assoc]
          rfl

/-- A unit carries what was found under a path. -/
structure Carries (t : SourceTree) (path : Path) (unit : SourceUnit) : Prop where
  bytes : t.files.FileBelow t.root path unit.bytes
  shown : unit.path = path.text
  tree : unit.tree = t.parse unit.bytes

/-- Loading a file that is found looks at its bytes and at nothing else. -/
theorem loadFile_of_fileBelow {path : Path} {bytes : List UInt8}
    (h : t.files.FileBelow t.root path bytes) :
    t.loadFile (t.root.join path) =
      match Text.Utf8.decode bytes with
      | .error fault => Run.fail ⟨t.root.join path, .unreadable (.encoding fault)⟩
      | .ok _ =>
          if (t.parse bytes).hasError then
            Run.fail ⟨t.root.join path, .badSyntax (errorLine? (t.parse bytes))⟩
          else do
            Run.log .debug ("Parsed " ++ path.text)
            return ⟨path.text, bytes, t.parse bytes⟩ := by
  have hread : t.files.readDecoded (t.root.join path) =
      (Text.Utf8.decode bytes).mapError Unreadable.encoding >>= fun text =>
        pure (bytes, text) := by
    rw [FileSystem.readDecoded, FileSystem.read_of_fileBelow h]
    rfl
  rw [loadFile, hread, shownPath_join h.1]
  cases Text.Utf8.decode bytes with
  | error fault => rfl
  | ok text => rfl

theorem loadFile_of_loads {path : Path} {bytes : List UInt8}
    (h : t.files.FileBelow t.root path bytes) (hloads : Loads t.parse bytes) :
    (t.loadFile (t.root.join path)).result = .ok ⟨path.text, bytes, t.parse bytes⟩ := by
  obtain ⟨⟨cs, rfl⟩, hclean⟩ := hloads
  rw [loadFile_of_fileBelow h, Text.Utf8.decode_encode]
  dsimp only
  rw [hclean]
  rfl

theorem loadFile_of_refuses {path : Path} {bytes : List UInt8} {cause : LoadCause}
    (h : t.files.FileBelow t.root path bytes) (hrefuses : Refuses t.parse bytes cause) :
    (t.loadFile (t.root.join path)).result = .error ⟨t.root.join path, cause⟩ := by
  rw [loadFile_of_fileBelow h]
  cases hrefuses with
  | unreadable _ hfault => rw [hfault]; rfl
  | badSyntax hvalid herror =>
      obtain ⟨cs, rfl⟩ := hvalid
      rw [Text.Utf8.decode_encode]
      dsimp only
      rw [herror]
      rfl

theorem loads_or_refuses (parse : List UInt8 → Node) (bytes : List UInt8) :
    Loads parse bytes ∨ ∃ cause, Refuses parse bytes cause := by
  cases hdecode : Text.Utf8.decode bytes with
  | error fault =>
      exact .inr ⟨_, .unreadable (Text.Utf8.not_valid_of_decode hdecode) hdecode⟩
  | ok text =>
      have hvalid := Text.Utf8.valid_of_decode hdecode
      cases hclean : (parse bytes).hasError with
      | true => exact .inr ⟨_, .badSyntax hvalid hclean⟩
      | false => exact .inl ⟨hvalid, hclean⟩

theorem loadFile_ok_iff {path : Path} {bytes : List UInt8} {unit : SourceUnit}
    (h : t.files.FileBelow t.root path bytes) :
    (t.loadFile (t.root.join path)).result = .ok unit ↔
      Loads t.parse bytes ∧ unit = ⟨path.text, bytes, t.parse bytes⟩ := by
  constructor
  · intro hok
    rcases loads_or_refuses t.parse bytes with hloads | ⟨cause, hrefuses⟩
    · rw [loadFile_of_loads h hloads] at hok
      cases hok
      exact ⟨hloads, rfl⟩
    · rw [loadFile_of_refuses h hrefuses] at hok
      cases hok
  · rintro ⟨hloads, rfl⟩
    exact loadFile_of_loads h hloads

theorem loadFile_error_iff {path : Path} {bytes : List UInt8} {f : LoadFailure}
    (h : t.files.FileBelow t.root path bytes) :
    (t.loadFile (t.root.join path)).result = .error f ↔
      ∃ cause, Refuses t.parse bytes cause ∧ f = ⟨t.root.join path, cause⟩ := by
  constructor
  · intro herr
    rcases loads_or_refuses t.parse bytes with hloads | ⟨cause, hrefuses⟩
    · rw [loadFile_of_loads h hloads] at herr
      cases herr
    · rw [loadFile_of_refuses h hrefuses] at herr
      cases herr
      exact ⟨cause, hrefuses, rfl⟩
  · rintro ⟨cause, hrefuses, rfl⟩
    exact loadFile_of_refuses h hrefuses

/-! ## One file after the other -/

/-- Files that do not all load fail with the failure of the first that does not. -/
theorem loadFiles_eq_error {paths : List Path} {f : LoadFailure} :
    (t.loadFiles paths).result = .error f ↔
      ∃ before path after, paths = before ++ path :: after ∧
        (∀ p ∈ before, ∃ unit, (t.loadFile p).result = .ok unit) ∧
        (t.loadFile path).result = .error f := by
  induction paths with
  | nil =>
      rw [loadFiles, Run.result_pure]
      constructor
      · intro h
        cases h
      · rintro ⟨before, path, after, h, -⟩
        simp at h
  | cons first rest ih =>
      simp only [loadFiles, Run.result_bind, bind_eq_error, Run.result_pure, reduceCtorEq,
        and_false, exists_false, or_false, ih]
      constructor
      · rintro (hfirst | ⟨unit, hunit, before, path, after, rfl, hbefore, hpath⟩)
        · exact ⟨[], first, rest, rfl, List.forall_mem_nil _, hfirst⟩
        · exact ⟨first :: before, path, after, rfl,
            List.forall_mem_cons.mpr ⟨⟨unit, hunit⟩, hbefore⟩, hpath⟩
      · rintro ⟨before, path, after, hsplit, hbefore, hpath⟩
        cases before with
        | nil =>
            cases hsplit
            exact .inl hpath
        | cons p before =>
            cases hsplit
            obtain ⟨⟨unit, hunit⟩, hbefore⟩ := List.forall_mem_cons.mp hbefore
            exact .inr ⟨unit, hunit, before, path, after, rfl, hbefore, hpath⟩

/-- The files after one that fails are never looked at. -/
theorem loadFiles_of_error {before after : List Path} {path : Path} {f : LoadFailure}
    (h : (t.loadFile path).result = .error f) :
    t.loadFiles (before ++ path :: after) = t.loadFiles (before ++ [path]) := by
  induction before with
  | nil =>
      rw [List.nil_append, List.nil_append, loadFiles, loadFiles, Run.bind_of_error h,
        Run.bind_of_error h]
  | cons first before ih => rw [List.cons_append, List.cons_append, loadFiles, loadFiles, ih]

/-- What stands in front of a file that is found are the files with a lesser path. -/
theorem mem_before_iff {before after : List Path} {path p : Path}
    (h : t.discover = before ++ path :: after) :
    p ∈ before ↔ p ∈ t.discover ∧ p.text < path.text := by
  have hsorted := t.pairwise_discover
  rw [h, List.map_append, List.map_cons, List.pairwise_append, List.pairwise_cons] at hsorted
  obtain ⟨-, ⟨hafter, -⟩, hbefore⟩ := hsorted
  rw [h, List.mem_append, List.mem_cons]
  constructor
  · intro hp
    exact ⟨.inl hp, hbefore _ (List.mem_map_of_mem hp) _ List.mem_cons_self⟩
  · rintro ⟨hp | rfl | hp, hlt⟩
    · exact hp
    · exact absurd hlt (lt_irrefl _)
    · exact absurd hlt (lt_asymm (hafter _ (List.mem_map_of_mem hp)))

/-! ## Whole loads -/

/-- The root is a directory, and every file found in it can be loaded. -/
structure AllLoad (t : SourceTree) : Prop where
  root : t.files.isDirectory t.root = true
  files : ∀ path ∈ t.discover, ∀ bytes, t.files.FileBelow t.root path bytes →
    Loads t.parse bytes

/-- How a load fails: the root is no directory, or of the files found the first in the
order of paths that cannot be loaded says why. -/
inductive FailsWith (t : SourceTree) : LoadFailure → Prop
  | notDirectory (hroot : t.files.isDirectory t.root = false) :
      FailsWith t ⟨t.root, .notDirectory⟩
  | badFile {path : Path} {bytes : List UInt8} {cause : LoadCause}
      (hroot : t.files.isDirectory t.root = true) (hfound : path ∈ t.discover)
      (hbytes : t.files.FileBelow t.root path bytes) (hcause : Refuses t.parse bytes cause)
      (hfirst : ∀ p ∈ t.discover, p.text < path.text →
        ∀ bytes, t.files.FileBelow t.root p bytes → Loads t.parse bytes) :
      FailsWith t ⟨t.root.join path, cause⟩

theorem exists_fileBelow {path : Path} (h : path ∈ t.discover) :
    ∃ bytes, t.files.FileBelow t.root path bytes :=
  (mem_discover.mp h).2

theorem exists_loadFile_ok_iff {path : Path} (h : path ∈ t.discover) :
    (∃ unit, (t.loadFile (t.root.join path)).result = .ok unit) ↔
      ∀ bytes, t.files.FileBelow t.root path bytes → Loads t.parse bytes := by
  constructor
  · rintro ⟨unit, hunit⟩ bytes hbytes
    exact ((loadFile_ok_iff hbytes).mp hunit).1
  · intro hloads
    obtain ⟨bytes, hbytes⟩ := exists_fileBelow h
    exact ⟨_, (loadFile_ok_iff hbytes).mpr ⟨hloads bytes hbytes, rfl⟩⟩

/-- A load gives units exactly when every file found can be loaded, one unit for each
of them. -/
theorem load_ok_iff {units : List SourceUnit} :
    t.load.result = .ok units ↔ t.AllLoad ∧ List.Forall₂ t.Carries t.discover units := by
  rw [load_eq_ok]
  constructor
  · rintro ⟨hroot, hunits⟩
    refine ⟨⟨hroot, fun path hpath => ?_⟩, ?_⟩
    · obtain ⟨unit, -, hunit⟩ := exists_mem_right_of_forall₂ hunits hpath
      exact (exists_loadFile_ok_iff hpath).mp ⟨unit, hunit⟩
    · have hfound := (List.forall₂_and_left _ _).mpr ⟨fun _ hpath => hpath, hunits⟩
      refine hfound.imp ?_
      rintro path unit ⟨hpath, hunit⟩
      obtain ⟨bytes, hbytes⟩ := exists_fileBelow hpath
      obtain ⟨-, rfl⟩ := (loadFile_ok_iff hbytes).mp hunit
      exact ⟨hbytes, rfl, rfl⟩
  · rintro ⟨⟨hroot, hfiles⟩, hunits⟩
    refine ⟨hroot, ?_⟩
    have hfound := (List.forall₂_and_left _ _).mpr ⟨fun _ hpath => hpath, hunits⟩
    refine hfound.imp ?_
    rintro path unit ⟨hpath, hcarries⟩
    rw [loadFile_of_loads hcarries.bytes (hfiles path hpath _ hcarries.bytes),
      ← hcarries.shown, ← hcarries.tree]

theorem exists_load_ok (h : t.AllLoad) :
    ∃ units, t.load.result = .ok units ∧ List.Forall₂ t.Carries t.discover units := by
  have hunits : ∃ units, t.discover.mapM (fun path =>
      (t.loadFile (t.root.join path)).result) = .ok units := by
    refine exists_mapM_eq_ok fun path hpath => ?_
    exact (exists_loadFile_ok_iff hpath).mpr (h.files path hpath)
  obtain ⟨units, hunits⟩ := hunits
  have hload : t.load.result = .ok units := load_eq_ok.mpr ⟨h.root, mapM_eq_ok.mp hunits⟩
  exact ⟨units, hload, (load_ok_iff.mp hload).2⟩

/-- A load fails exactly as `FailsWith` says. -/
theorem load_error_iff {f : LoadFailure} : t.load.result = .error f ↔ t.FailsWith f := by
  unfold load
  split
  · next hroot =>
      simp only [Run.result_bind, bind_eq_error, result_reporting, Run.result_log, ok_bind,
        Run.result_pure, reduceCtorEq, and_false, exists_false, or_false, loadFiles_eq_error]
      constructor
      · rintro ⟨before, _, after, hsplit, hbefore, hpath⟩
        obtain ⟨before, rest, hdiscover, rfl, hrest⟩ := List.map_eq_append_iff.mp hsplit
        obtain ⟨path, after, rfl, rfl, rfl⟩ := List.map_eq_cons_iff.mp hrest
        have hfound : path ∈ t.discover := by
          rw [hdiscover]
          exact List.mem_append_right _ List.mem_cons_self
        obtain ⟨bytes, hbytes⟩ := exists_fileBelow hfound
        obtain ⟨cause, hcause, rfl⟩ := (loadFile_error_iff hbytes).mp hpath
        refine .badFile hroot hfound hbytes hcause fun p hp hlt => ?_
        have hp' := (mem_before_iff hdiscover).mpr ⟨hp, hlt⟩
        exact (exists_loadFile_ok_iff hp).mp (hbefore _ (List.mem_map_of_mem hp'))
      · intro h
        cases h with
        | notDirectory hno => rw [hroot] at hno; cases hno
        | @badFile path bytes cause _ hfound hbytes hcause hfirst =>
            obtain ⟨before, after, hdiscover⟩ := List.append_of_mem hfound
            refine ⟨before.map t.root.join, t.root.join path, after.map t.root.join, ?_, ?_,
              loadFile_of_refuses hbytes hcause⟩
            · rw [hdiscover, List.map_append, List.map_cons]
            · intro q hq
              obtain ⟨p, hp, rfl⟩ := List.mem_map.mp hq
              obtain ⟨hp, hlt⟩ := (mem_before_iff hdiscover).mp hp
              exact (exists_loadFile_ok_iff hp).mpr (hfirst p hp hlt)
  · next hroot =>
      have hroot : t.files.isDirectory t.root = false := by simpa using hroot
      constructor
      · intro h
        cases h
        exact .notDirectory hroot
      · intro h
        cases h with
        | notDirectory _ => rfl
        | badFile hyes => rw [hroot] at hyes; cases hyes

/-! ## What comes after the failure does not matter -/

/-- A file system that agrees with that of a source tree on the sources up to a path.
Past the path the two may differ in anything. -/
structure SameUpTo (t : SourceTree) (last : Path) (fs' : FileSystem) : Prop where
  root : t.files.isDirectory t.root = true
  root' : fs'.isDirectory t.root = true
  files : ∀ path bytes, path.HasSuffixIn t.extensions → path.text ≤ last.text →
    (t.files.FileBelow t.root path bytes ↔ fs'.FileBelow t.root path bytes)

/-- The same sources in another file system. -/
def onFiles (t : SourceTree) (fs' : FileSystem) : SourceTree :=
  { t with files := fs' }

variable {fs' : FileSystem} {last : Path}

theorem SameUpTo.mem_discover_iff (h : t.SameUpTo last fs') {path : Path}
    (hle : path.text ≤ last.text) : path ∈ t.discover ↔ path ∈ (t.onFiles fs').discover := by
  rw [mem_discover, mem_discover]
  refine and_congr_right fun hsuffix => ?_
  exact exists_congr fun bytes => h.files path bytes hsuffix hle

theorem SameUpTo.loadFile_eq (h : t.SameUpTo last fs') {path : Path}
    (hpath : path ∈ t.discover) (hle : path.text ≤ last.text) :
    t.loadFile (t.root.join path) = (t.onFiles fs').loadFile (t.root.join path) := by
  obtain ⟨hsuffix, bytes, hbytes⟩ := mem_discover.mp hpath
  rw [loadFile_of_fileBelow hbytes]
  exact (@loadFile_of_fileBelow (t.onFiles fs') path bytes
    ((h.files path bytes hsuffix hle).mp hbytes)).symm

/-- The files in front of the last common one are the same, in the same order. -/
theorem SameUpTo.exists_discover (h : t.SameUpTo last fs') (hlast : last ∈ t.discover) :
    ∃ before after after', t.discover = before ++ last :: after ∧
      (t.onFiles fs').discover = before ++ last :: after' := by
  obtain ⟨before, after, hdiscover⟩ := List.append_of_mem hlast
  obtain ⟨before', after', hdiscover'⟩ :=
    List.append_of_mem ((h.mem_discover_iff le_rfl).mp hlast)
  have hsame : before = before' := by
    have hsorted := t.pairwise_discover
    have hsorted' := (t.onFiles fs').pairwise_discover
    rw [hdiscover, List.map_append, List.pairwise_append] at hsorted
    rw [hdiscover', List.map_append, List.pairwise_append] at hsorted'
    refine Text.eq_of_pairwise_of_mem_iff hsorted.1 hsorted'.1 fun path => ?_
    rw [mem_before_iff hdiscover, mem_before_iff hdiscover']
    refine and_congr_left fun hlt => ?_
    exact h.mem_discover_iff (le_of_lt hlt)
  exact ⟨before, after, after', hdiscover, hsame ▸ hdiscover'⟩

/-- A load that fails with a file that was found failed when it loaded that file. -/
theorem loadFile_eq_error_of_load {path : Path} {cause : LoadCause}
    (hroot : t.files.isDirectory t.root = true) (hpath : path ∈ t.discover)
    (h : t.load.result = .error ⟨t.root.join path, cause⟩) :
    (t.loadFile (t.root.join path)).result = .error ⟨t.root.join path, cause⟩ := by
  generalize hf : LoadFailure.mk (t.root.join path) cause = f at h
  cases load_error_iff.mp h with
  | notDirectory hno => rw [hroot] at hno; cases hno
  | badFile _ hfound hbytes hcause _ =>
      obtain ⟨hjoin, rfl⟩ := LoadFailure.mk.inj hf
      obtain ⟨_, hanchor, -⟩ := exists_fileBelow hpath
      cases Path.eq_of_join_eq hanchor hbytes.1 hjoin
      exact loadFile_of_refuses hbytes hcause

/-- A load that fails at a file runs the same in every file system that agrees up to
it: the same failure, after the same events. -/
theorem SameUpTo.load_eq (h : t.SameUpTo last fs') (hlast : last ∈ t.discover)
    {cause : LoadCause} (herr : t.load.result = .error ⟨t.root.join last, cause⟩) :
    (t.onFiles fs').load = t.load := by
  obtain ⟨before, after, after', hdiscover, hdiscover'⟩ := h.exists_discover hlast
  have hfile := loadFile_eq_error_of_load h.root hlast herr
  have hfile' := hfile
  rw [h.loadFile_eq hlast le_rfl] at hfile'
  have hfront : t.loadFiles ((before ++ [last]).map t.root.join) =
      (t.onFiles fs').loadFiles ((before ++ [last]).map t.root.join) := by
    refine Analysis.loadFiles_congr fun q hq => ?_
    obtain ⟨p, hp, rfl⟩ := List.mem_map.mp hq
    rcases List.mem_append.mp hp with hp | hp
    · obtain ⟨hp, hlt⟩ := (mem_before_iff hdiscover).mp hp
      exact h.loadFile_eq hp (le_of_lt hlt)
    · cases List.mem_singleton.mp hp
      exact h.loadFile_eq hlast le_rfl
  have hfiles : (t.onFiles fs').loadFiles ((t.onFiles fs').discover.map t.root.join) =
      t.loadFiles (t.discover.map t.root.join) := by
    rw [hdiscover, hdiscover', List.map_append, List.map_append, List.map_cons, List.map_cons,
      loadFiles_of_error hfile, loadFiles_of_error hfile']
    rw [List.map_append] at hfront
    exact hfront.symm
  have hroot : (t.onFiles fs').files.isDirectory (t.onFiles fs').root = true := h.root'
  rw [load, load, if_pos hroot, if_pos h.root]
  show reporting ((t.onFiles fs').loadFiles ((t.onFiles fs').discover.map t.root.join)) >>= _ = _
  rw [hfiles]
  rfl

end SourceTree

/-! ## Analyses of trees that do not load -/

namespace Analysis

theorem candidates_of_load_error {t : SourceTree} {f : LoadFailure}
    (h : t.load.result = .error f) (ignored : List String) :
    candidates t ignored = ⟨t.load.events, .error (.load f)⟩ := by
  have hload : (t.load.mapError Failure.load).result = .error (.load f) := by
    rw [Run.result_mapError, h]
    rfl
  exact Run.bind_of_error hload _

/-- An analysis of a tree that does not load is over with the load: its events are
those of the load, and nothing is read or judged. -/
theorem analyze_of_load_error {parse : List UInt8 → Node} {fs : FileSystem} {s : Settings}
    {f : LoadFailure} (h : (sources parse fs s).load.result = .error f) :
    analyze parse fs s = ⟨(sources parse fs s).load.events, .error (.load f)⟩ := by
  rw [analyze, candidates_of_load_error h]
  exact Run.bind_of_error rfl _

end Analysis

namespace SourceTree

theorem sources_eq {t : SourceTree} {s : Settings} (hroot : s.root = t.root)
    (hextensions : s.extensions = t.extensions) :
    Analysis.sources t.parse t.files s = t := by
  rw [Analysis.sources, hroot, hextensions]

/-- A load gives one unit for every file found, in order, exactly when the root is a
directory and all of these files can be loaded. In every other case it gives the
failure of the root, or of the first file in the order of paths that is no text or
does not parse, with the reason for that. What the tree holds past that file changes
nothing in the run; and an analysis of the tree fails with the same failure, writes no
diagnostic and finds no candidate. -/
theorem load_all_or_first_failure (t : SourceTree) :
    ((∃ units, t.load.result = .ok units ∧ List.Forall₂ t.Carries t.discover units) ↔
      t.AllLoad) ∧
    (¬ t.AllLoad → ∃ f, t.load.result = .error f ∧ t.FailsWith f) ∧
    (∀ bytes cause, Refuses t.parse bytes cause →
      (¬ Text.Utf8.Valid bytes → ∃ more, cause.reason = "unreadable: " ++ more) ∧
      (Text.Utf8.Valid bytes → ∃ more, cause.reason = "syntax error at " ++ more)) ∧
    (∀ path ∈ t.discover, ∀ cause, t.load.result = .error ⟨t.root.join path, cause⟩ →
      ∀ fs', t.SameUpTo path fs' → (t.onFiles fs').load = t.load) ∧
    ∀ f, t.load.result = .error f →
      ∀ s : Settings, s.root = t.root → s.extensions = t.extensions →
        (Analysis.analyze t.parse t.files s).result = .error (.load f) ∧
        (Analysis.analyze t.parse t.files s).events = t.load.events ∧
        diagnosticStream (Analysis.analyze t.parse t.files s).events = "" ∧
        (Analysis.candidates t s.ignored).result = .error (.load f) := by
  refine ⟨⟨?_, exists_load_ok⟩, ?_, fun _ _ => Refuses.reason, ?_, ?_⟩
  · rintro ⟨units, hunits, -⟩
    exact (load_ok_iff.mp hunits).1
  · intro hnot
    cases hresult : t.load.result with
    | ok units => exact absurd (load_ok_iff.mp hresult).1 hnot
    | error f => exact ⟨f, rfl, load_error_iff.mp hresult⟩
  · intro path hpath cause herr fs' hsame
    exact hsame.load_eq hpath herr
  · intro f herr s hroot hextensions
    have hsources := sources_eq hroot hextensions
    have hload : (Analysis.sources t.parse t.files s).load.result = .error f := by
      rw [hsources, herr]
    have hanalyze := Analysis.analyze_of_load_error hload
    rw [hsources] at hanalyze
    rw [hanalyze, Analysis.candidates_of_load_error herr]
    exact ⟨rfl, rfl, quiet_load, rfl⟩

/-- Whether two file systems agree up to a path can be seen on the files that the walks
find. -/
theorem sameUpTo_of_filesBelow {t : SourceTree} {last : Path} {fs' : FileSystem}
    {base : Location} (hroot : t.files.isDirectory t.root = true)
    (hroot' : fs'.isDirectory t.root = true) (hbase : t.files.resolve t.root = .ok base)
    (hbase' : fs'.resolve t.root = .ok base)
    (h : ∀ path ∈ t.files.filesBelow base ++ fs'.filesBelow base, path.text ≤ last.text →
      t.files.entry? (base ++ path.parts) = fs'.entry? (base ++ path.parts) ∧
        path ∈ t.files.filesBelow base ∧ path ∈ fs'.filesBelow base) :
    t.SameUpTo last fs' := by
  refine ⟨hroot, hroot', ?_⟩
  intro path bytes _ hle
  exact FileSystem.fileBelow_congr hbase hbase' fun hmem => h path hmem hle

/-- Three sources: a function, a byte that is no text, and a word that is no item. -/
def brokenSecond : SourceTree :=
  { files := ⟨[(["src"], .directory),
      (["src", "c.rs"], .file (Text.Utf8.encode "fn".toList)),
      (["src", "b.rs"], .file [0xff]),
      (["src", "a.rs"], .file (Text.Utf8.encode "fn f() \x7b\x7d".toList))]⟩
    root := .parse "src"
    parse := Rust.parse }

/-- The first two of these sources, with another file behind them. -/
def firstTwo : FileSystem :=
  ⟨[(["src"], .directory),
    (["src", "a.rs"], .file (Text.Utf8.encode "fn f() \x7b\x7d".toList)),
    (["src", "b.rs"], .file [0xff]), (["src", "d.rs"], .file [])]⟩

/-- What is wrong with the second source. -/
def secondFailure : LoadFailure :=
  ⟨.parse "src/b.rs", .unreadable (.encoding ⟨0xff, 0, 1, .invalidStart⟩)⟩

/-- The second source is reported and the third is not looked at. -/
theorem load_all_or_first_failure_brokenSecond :
    ¬ brokenSecond.AllLoad ∧ brokenSecond.load.result = .error secondFailure ∧
      brokenSecond.SameUpTo (.parse "b.rs") firstTwo ∧
      (brokenSecond.onFiles firstTwo).load = brokenSecond.load ∧
      (Analysis.analyze brokenSecond.parse brokenSecond.files
        { root := .parse "src" }).result = .error (.load secondFailure) := by
  have hload : brokenSecond.load.result = .error secondFailure := by decide +kernel
  have hsame : brokenSecond.SameUpTo (.parse "b.rs") firstTwo :=
    @sameUpTo_of_filesBelow _ _ _ ["src"] (by decide) (by decide) (by decide) (by decide)
      (by decide +kernel)
  obtain ⟨hall, -, -, hafter, hanalyze⟩ := load_all_or_first_failure brokenSecond
  refine ⟨fun hyes => ?_, hload, hsame, ?_, ?_⟩
  · obtain ⟨units, hunits, -⟩ := hall.mpr hyes
    rw [hload] at hunits
    cases hunits
  · exact hafter (.parse "b.rs") (by decide +kernel) _ hload _ hsame
  · exact (hanalyze _ hload { root := .parse "src" } rfl rfl).1

end SourceTree
end ApiCatalog
