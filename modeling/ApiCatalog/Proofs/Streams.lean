import ApiCatalog.Proofs.Pipeline
import ApiCatalog.Proofs.Verdicts

/-!
# Who writes to the diagnostic stream

Of the stages of an analysis only validation writes diagnostics. Loading, reading
declarations and the last step leave log messages and nothing else, so the stream of
an analysis is the stream of its validation, and it is empty if there was none.
-/

namespace ApiCatalog

/-! ## Loading -/

namespace SourceTree

variable {t : SourceTree}

theorem quiet_loadFile (path : Path) : (t.loadFile path).Quiet := by
  unfold loadFile
  split
  · exact Run.quiet_fail _
  · dsimp only
    split
    · exact Run.quiet_fail _
    · exact (Run.quiet_log _ _).bind fun _ => Run.quiet_pure _

theorem quiet_loadFiles (paths : List Path) : (t.loadFiles paths).Quiet := by
  induction paths with
  | nil => exact Run.quiet_pure _
  | cons path rest ih =>
      exact (quiet_loadFile path).bind fun _ => ih.bind fun _ => Run.quiet_pure _

theorem quiet_reporting {α : Type} {r : Run LoadFailure α} (h : r.Quiet) :
    (reporting r).Quiet := by
  unfold reporting
  split
  · exact h
  · unfold Run.Quiet at *
    rw [diagnosticStream_append, h, diagnosticStream_log, String.append_empty]

theorem quiet_load : t.load.Quiet := by
  unfold load
  split
  · refine (quiet_reporting (quiet_loadFiles _)).bind fun units => ?_
    exact (Run.quiet_log _ _).bind fun _ => Run.quiet_pure _
  · exact Run.quiet_fail _

end SourceTree

/-! ## Reading declarations -/

namespace Extraction

variable {ignored : List String}

theorem quiet_extractItem (unit : SourceUnit) (item : Item) :
    (extractItem ignored unit item).Quiet := by
  refine (Run.quiet_ofExcept _).bind fun r => ?_
  cases r with
  | none => exact Run.quiet_pure _
  | some c =>
      dsimp only
      split
      · exact (Run.quiet_log _ _).bind fun _ => Run.quiet_pure _
      · exact Run.quiet_pure _

theorem quiet_extractItems (unit : SourceUnit) (items : List Item) :
    (extractItems ignored unit items).Quiet := by
  induction items with
  | nil => exact Run.quiet_pure _
  | cons item rest ih =>
      exact (quiet_extractItem unit item).bind fun _ => ih.bind fun _ => Run.quiet_pure _

theorem quiet_extract (unit : SourceUnit) : (extract ignored unit).Quiet := by
  refine (quiet_extractItems unit _).bind fun candidates => ?_
  exact (Run.quiet_ofExcept _).bind fun _ => Run.quiet_pure _

theorem quiet_extractUnits (units : List SourceUnit) : (extractUnits ignored units).Quiet := by
  induction units with
  | nil => exact Run.quiet_pure _
  | cons unit rest ih =>
      exact (quiet_extract unit).bind fun _ => ih.bind fun _ => Run.quiet_pure _

theorem quiet_extractAll (units : List SourceUnit) : (extractAll ignored units).Quiet := by
  refine (quiet_extractUnits units).bind fun candidates => ?_
  exact (Run.quiet_log _ _).bind fun _ => Run.quiet_pure _

end Extraction

/-! ## Whole analyses -/

namespace Analysis

theorem quiet_candidates (t : SourceTree) (ignored : List String) :
    (candidates t ignored).Quiet :=
  (SourceTree.quiet_load.mapError _).bind fun units =>
    (Extraction.quiet_extractAll units).mapError _

theorem quiet_settle (s : Settings) (catalog : Catalog) : (settle s catalog).Quiet := by
  unfold settle
  split
  · exact Run.quiet_pure _
  · refine (Run.quiet_log _ _).bind fun _ => ?_
    split
    · exact Run.quiet_fail _
    · exact Run.quiet_pure _

variable {parse : List UInt8 → Node} {fs : FileSystem} {s : Settings}

/-- An analysis writes what the validation of its candidates writes. -/
theorem stream_analyze_of_candidates {found : List Candidate}
    (h : (candidates (sources parse fs s) s.ignored).result = .ok found) :
    diagnosticStream (analyze parse fs s).events =
      diagnosticStream (Validation.validate s none s.root.text found).events := by
  rw [analyze, Run.stream_bind_of_ok h, quiet_candidates, String.empty_append]
  exact Run.stream_bind_of_quiet fun catalog => quiet_settle s catalog

/-- An analysis that gives a catalog writes the lines of its violations, if they are
reported. -/
theorem stream_analyze {catalog : Catalog} (h : (analyze parse fs s).result = .ok catalog) :
    diagnosticStream (analyze parse fs s).events =
      Validation.reported s.reportDiagnostics catalog.violations := by
  have hresult := h
  simp only [analyze, Run.result_bind, bind_eq_ok, settle_eq_ok] at hresult
  obtain ⟨found, hfound, _, hvalid, rfl, -⟩ := hresult
  have hnamed := Validation.named_of_ok hvalid
  rw [stream_analyze_of_candidates hfound, Validation.stream_of_named hnamed]
  rw [Validation.validate_of_named hnamed] at hvalid
  cases hvalid
  rfl

end Analysis
end ApiCatalog
