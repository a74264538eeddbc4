import ApiCatalog.Proofs.Legibility
import ApiCatalog.Proofs.Pipeline
import ApiCatalog.Proofs.Texts
import ApiCatalog.Proofs.Verdicts
import ApiCatalog.Rust.Parser

/-!
# Every violation is reported on one line

A line of the diagnostic stream is made of fixed words, of settings, and of texts of the
source: names, types, lists of generic parameters. A source may break its lines anywhere
and in more ways than one, but what is kept of a text is its words with single spaces
between them, and every character that ends a line separates words. So no text of a
candidate has a line end in it, and the stream falls apart into the violations.

The argument follows the texts from the nodes to the stream: a node, the parts of a
declaration, a candidate, the messages of the rules, the lines.
-/

namespace ApiCatalog

namespace Text

/-! ## Lines -/

/-- Whether a character ends a line: the line feed and its neighbours up to the carriage
return, three of the separators from U+001C, and the separators of Unicode. -/
def isLineEnd (c : Char) : Bool :=
  let n := c.toNat
  (0x0a ≤ n && n ≤ 0x0d) || (0x1c ≤ n && n ≤ 0x1e) || n == 0x85 || n == 0x2028 || n == 0x2029

/-- The lines of a text, without what ends them. A carriage return with a line feed after
it ends one line, and a text that ends with a line end has no line after it. -/
def lines : List Char → List (List Char)
  | [] => []
  | '\r' :: '\n' :: rest => [] :: lines rest
  | c :: rest =>
      if isLineEnd c then [] :: lines rest
      else
        match lines rest with
        | [] => [[c]]
        | l :: ls => (c :: l) :: ls

/-- A text without a line end in it. -/
def OneLine (s : String) : Prop :=
  ∀ c ∈ s.toList, isLineEnd c = false

instance {s : String} : Decidable (OneLine s) :=
  List.decidableBAll (fun c => isLineEnd c = false) s.toList

theorem isBlank_of_isLineEnd {c : Char} (h : isLineEnd c = true) : isBlank c = true := by
  simp only [isLineEnd, isBlank, Bool.or_eq_true, Bool.and_eq_true, decide_eq_true_eq,
    beq_iff_eq] at h ⊢
  omega

@[simp] theorem oneLine_append {a b : String} : OneLine (a ++ b) ↔ OneLine a ∧ OneLine b := by
  simp only [OneLine, String.toList_append, List.forall_mem_append]

/-- Collapsing leaves no line end: what it keeps is not blank, and what it puts in are
spaces. -/
theorem oneLine_collapse (cs : List Char) : OneLine (collapse cs) := by
  intro c hc
  rw [collapse, String.toList_ofList] at hc
  rcases mem_of_mem_join hc with hc | ⟨w, hw, hc⟩
  · rw [List.mem_singleton.mp hc]
    rfl
  · have hkept : c ∈ cs.filter fun c => !isBlank c := by
      rw [← flatten_words]
      exact List.mem_flatten.mpr ⟨w, hw, hc⟩
    have hblank : isBlank c = false := by simpa using (List.mem_filter.mp hkept).2
    rw [← Bool.not_eq_true]
    intro hend
    rw [isBlank_of_isLineEnd hend] at hblank
    cases hblank

theorem lines_end (rest : List Char) : lines ('\n' :: rest) = [] :: lines rest := by
  rw [lines]
  · rfl
  · intro _ h
    cases h

theorem lines_append {line : List Char} (h : ∀ c ∈ line, isLineEnd c = false)
    (rest : List Char) : lines (line ++ '\n' :: rest) = line :: lines rest := by
  induction line with
  | nil => exact lines_end rest
  | cons c line ih =>
      obtain ⟨hc, hline⟩ := List.forall_mem_cons.mp h
      rw [List.cons_append, lines, if_neg (by simp [hc]), ih hline]
      rintro _ rfl
      cases hc

/-- Texts on one line each are the lines of what they make together. -/
theorem lines_join {texts : List String} (h : ∀ s ∈ texts, OneLine s) :
    lines (String.join (texts.map (· ++ "\n"))).toList = texts.map String.toList := by
  induction texts with
  | nil => rfl
  | cons s texts ih =>
      obtain ⟨hs, htexts⟩ := List.forall_mem_cons.mp h
      rw [List.map_cons, String.join_cons, String.toList_append, String.toList_append,
        List.append_assoc]
      show lines (s.toList ++ '\n' :: (String.join (texts.map (· ++ "\n"))).toList) = _
      rw [lines_append hs, ih htexts, List.map_cons]

end Text

open Text (OneLine oneLine_append)

/-! ## Texts of a source -/

theorem Node.oneLine_text {source : List UInt8} {n : Node} {t : String}
    (h : n.text source = .ok t) : OneLine t := by
  obtain ⟨cs, -, rfl⟩ := map_eq_ok.mp h
  exact Text.oneLine_collapse cs

/-- A candidate whose texts have no line end. Its ABI and its attributes are in no message
and do not count. -/
structure Candidate.IsOneLine (c : Candidate) : Prop where
  ident : OneLine c.ident
  generics : OneLine c.generics.text
  variadic : ∀ t ∈ c.variadic, OneLine t
  params : ∀ t ∈ c.params, OneLine t.text
  ret : ∀ t ∈ c.ret, OneLine t.text

namespace Extraction

variable {source : List UInt8} {n : Node}

theorem oneLine_typeOf {t : TypeExpr} (h : typeOf source n = .ok t) : OneLine t.text :=
  Node.oneLine_text (typeOf_eq_ok h).1

theorem oneLine_paramType {t : TypeExpr} (h : paramType source n = .ok t) : OneLine t.text := by
  have hother {m : Node} {u : TypeExpr} (hu : otherType source m = .ok u) : OneLine u.text := by
    obtain ⟨text, htext, rfl⟩ := map_eq_ok.mp hu
    exact Node.oneLine_text htext
  unfold paramType at h
  split at h
  · split at h
    · exact oneLine_typeOf h
    · exact hother h
  · split at h
    · exact hother h
    · exact oneLine_typeOf h

/-- Parameters whose texts have no line end. -/
structure Params.IsOneLine (p : Params) : Prop where
  types : ∀ t ∈ p.types, OneLine t.text
  variadic : ∀ t ∈ p.variadic, OneLine t

theorem addParam_isOneLine {p q : Params} (h : addParam source p n = .ok q)
    (hp : p.IsOneLine) : q.IsOneLine := by
  unfold addParam at h
  split at h
  · obtain ⟨text, htext, h⟩ := bind_eq_ok.mp h
    cases h
    refine ⟨hp.types, fun t ht => ?_⟩
    cases ht
    exact Node.oneLine_text htext
  · split at h
    · cases h
      exact hp
    · obtain ⟨type, htype, h⟩ := bind_eq_ok.mp h
      cases h
      refine ⟨fun t ht => ?_, hp.variadic⟩
      rcases List.mem_append.mp ht with ht | ht
      · exact hp.types t ht
      · rw [List.mem_singleton.mp ht]
        exact oneLine_paramType htype

theorem foldlM_addParam_isOneLine {ns : List Node} {p q : Params}
    (h : ns.foldlM (addParam source) p = .ok q) (hp : p.IsOneLine) : q.IsOneLine := by
  induction ns generalizing p with
  | nil =>
      cases h
      exact hp
  | cons n rest ih =>
      rw [List.foldlM_cons] at h
      obtain ⟨mid, hmid, h⟩ := bind_eq_ok.mp h
      exact ih h (addParam_isOneLine hmid hp)

theorem paramsOf_isOneLine {p : Params} (h : paramsOf source n = .ok p) : p.IsOneLine := by
  have hnone : Params.IsOneLine {} := ⟨List.forall_mem_nil _, by simp⟩
  unfold paramsOf at h
  split at h
  · cases h
    exact hnone
  · exact foldlM_addParam_isOneLine h hnone

theorem oneLine_nameOf {name : String} (h : nameOf source n = .ok name) : OneLine name := by
  unfold nameOf at h
  split at h
  · cases h
    exact List.forall_mem_nil _
  · exact Node.oneLine_text h

theorem oneLine_genericsOf {g : GenericCounts} (h : genericsOf source n = .ok g) :
    OneLine g.text := by
  unfold genericsOf at h
  split at h
  · cases h
    exact List.forall_mem_nil _
  · obtain ⟨text, htext, h⟩ := bind_eq_ok.mp h
    cases h
    exact Node.oneLine_text htext

theorem oneLine_retOf {ret : Option TypeExpr} (h : retOf source n = .ok ret) :
    ∀ t ∈ ret, OneLine t.text := by
  intro t ht
  have hrel := retOf_eq_ok h
  rw [ht] at hrel
  generalize n.child? "return_type" = type at hrel
  cases hrel with
  | some hread => exact oneLine_typeOf hread

theorem ReadsAs.isOneLine {unit : SourceUnit} {c : Candidate} (h : ReadsAs unit n c) :
    c.IsOneLine where
  ident := oneLine_nameOf h.name
  generics := oneLine_genericsOf h.generics
  variadic := (paramsOf_isOneLine h.params).variadic
  params := (paramsOf_isOneLine h.params).types
  ret := oneLine_retOf h.ret

/-- What is found in sources has no line end in its texts. -/
theorem isOneLine_of_extractAll {ignored : List String} {units : List SourceUnit}
    {found : List Candidate} (h : (extractAll ignored units).result = .ok found) :
    ∀ c ∈ found, c.IsOneLine := by
  simp only [extractAll, Run.result_bind, bind_eq_ok, extractUnits_eq_ok, Run.result_log, ok_bind,
    Run.result_pure, Except.ok.injEq] at h
  obtain ⟨_, ⟨lists, hlists, rfl⟩, rfl⟩ := h
  intro c hc
  obtain ⟨list, hlist, hc⟩ := List.mem_flatten.mp hc
  obtain ⟨unit, -, hunit⟩ := exists_mem_of_forall₂ hlists hlist
  obtain ⟨n, -, -, hreads⟩ := exists_node_of_extract hunit hc
  exact hreads.isOneLine

end Extraction

/-! ## Messages of the rules -/

/-- Settings whose texts in messages have no line end. -/
structure Settings.IsOneLine (s : Settings) : Prop where
  foreignAbi : OneLine s.foreignAbi
  inlineMarker : OneLine s.inlineMarker
  noPanicMarker : OneLine s.noPanicMarker

namespace Validation

variable {s : Settings} {c : Candidate}

theorem oneLine_violate {rule : Rule} {broken : Bool} {message : String}
    (h : OneLine message) : ∀ v ∈ violate c rule broken message, OneLine v.message := by
  intro v hv
  unfold violate at hv
  split at hv
  · rw [List.mem_singleton.mp hv]
    exact h
  · cases hv

/-- A message is made of fixed words, of a setting or of a text of the candidate. -/
theorem oneLine_of_mem_check (hs : s.IsOneLine) (hc : c.IsOneLine) {v : Violation}
    (hv : v ∈ check s c) : OneLine v.message := by
  have habi : OneLine ("not `extern \"" ++ s.foreignAbi ++ "\"`") := by
    simp only [oneLine_append]
    exact ⟨⟨by decide, hs.foreignAbi⟩, by decide⟩
  have hgenerics {sort : String} (hsort : OneLine sort) :
      OneLine ("contains " ++ sort ++ " parameters \"" ++ c.generics.text ++ "\"") := by
    simp only [oneLine_append]
    exact ⟨⟨⟨⟨by decide, hsort⟩, by decide⟩, hc.generics⟩, by decide⟩
  have hmarker {marker : String} (hmarker : OneLine marker) :
      OneLine ("missing `#[" ++ marker ++ "]` attribute") := by
    simp only [oneLine_append]
    exact ⟨⟨by decide, hmarker⟩, by decide⟩
  have hvariadic : ∀ v ∈ checkVariadic c, OneLine v.message := by
    unfold checkVariadic
    split
    · exact List.forall_mem_nil _
    · next text htext =>
        refine oneLine_violate ?_
        simp only [oneLine_append]
        exact ⟨⟨by decide, hc.variadic text htext⟩, by decide⟩
  have hreturn : ∀ v ∈ checkReturn c, OneLine v.message := by
    unfold checkReturn
    split
    · exact List.forall_mem_nil _
    · next t ht =>
        refine oneLine_violate ?_
        rw [oneLine_append]
        exact ⟨by decide, hc.ret t ht⟩
  have hparams : ∀ v ∈ checkParams c, OneLine v.message := by
    refine List.forall_mem_flatMap.mpr fun t ht => oneLine_violate ?_
    rw [oneLine_append]
    exact ⟨by decide, hc.params t ht⟩
  have hall : ∀ v ∈ check s c, OneLine v.message := by
    simp only [check, checkAbi, checkQualifiers, checkGenerics, checkMarkers,
      List.forall_mem_append, and_assoc]
    exact ⟨oneLine_violate habi, oneLine_violate (by decide), oneLine_violate (by decide),
      oneLine_violate (by decide), hvariadic, oneLine_violate (hgenerics (by decide)),
      oneLine_violate (hgenerics (by decide)), oneLine_violate (hgenerics (by decide)),
      oneLine_violate (hmarker hs.inlineMarker), oneLine_violate (hmarker hs.noPanicMarker),
      hreturn, hparams⟩
  exact hall v hv

theorem oneLine_render (hs : s.IsOneLine) (hc : c.IsOneLine) {v : Violation}
    (hv : v ∈ check s c) : OneLine v.render := by
  unfold Violation.render
  simp only [oneLine_append]
  refine ⟨⟨⟨by decide, ?_⟩, by decide⟩, oneLine_of_mem_check hs hc hv⟩
  rw [identifier_of_mem_check hv]
  exact hc.ident

/-- If the texts of the settings are on one line each, the lines of the diagnostic stream
are the violations of the catalog, one line for each and in their order, whatever the
sources are like. -/
theorem lines_stream_validate (s : Settings) (reporting : Option Bool) (source : String)
    (ignored : List String) (units : List SourceUnit) (found : List Candidate)
    (catalog : Catalog) (hs : s.IsOneLine)
    (hfound : (Extraction.extractAll ignored units).result = .ok found)
    (hreporting : reporting.getD s.reportDiagnostics = true)
    (hcatalog : (validate s reporting source found).result = .ok catalog) :
    (Text.lines (diagnosticStream (validate s reporting source found).events).toList).map
      String.ofList = catalog.violations.map Violation.render := by
  have hnamed := named_of_ok hcatalog
  have hlines : ∀ text ∈ (found.flatMap (check s)).map Violation.render, OneLine text := by
    intro text htext
    obtain ⟨v, hv, rfl⟩ := List.mem_map.mp htext
    obtain ⟨c, hc, hv⟩ := List.mem_flatMap.mp hv
    exact oneLine_render hs (Extraction.isOneLine_of_extractAll hfound c hc) hv
  have hstream : diagnosticStream (validate s reporting source found).events =
      String.join (((found.flatMap (check s)).map Violation.render).map (· ++ "\n")) := by
    rw [stream_of_named hnamed, hreporting, List.map_map]
    rfl
  rw [validate_of_named hnamed] at hcatalog
  cases hcatalog
  rw [hstream, Text.lines_join hlines, List.map_map]
  exact List.map_id'' (fun text => String.ofList_toList) _

/-- A function whose generic parameters, parameters and result break the line in several
ways, once in a comment. -/
def brokenLines : SourceUnit :=
  let bytes := Text.Utf8.encode ("pub fn f<\n'a,\r\n T>(x: [f64;\u000b 2], " ++
    "y:\n&'a /*\u2028*/ T) -> (f64,\u000c\nf64) \x7b\x7d").toList
  { path := "lib.rs", bytes, tree := Rust.parse bytes }

theorem lines_stream_validate_brokenLines :
    Settings.IsOneLine {} ∧
      ∃ found catalog, (Extraction.extractAll [] [brokenLines]).result = .ok found ∧
        (validate {} (some true) "src" found).result = .ok catalog ∧
        catalog.violations.length = 8 ∧
        (Text.lines (diagnosticStream
          (validate {} (some true) "src" found).events).toList).map String.ofList =
            catalog.violations.map Violation.render := by
  have hs : Settings.IsOneLine {} := ⟨by decide, by decide, by decide⟩
  obtain ⟨found, hfound, catalog, hcatalog, hlength⟩ : ∃ found,
      (Extraction.extractAll [] [brokenLines]).result = .ok found ∧
        ∃ catalog, (validate {} (some true) "src" found).result = .ok catalog ∧
          catalog.violations.length = 8 := by decide +kernel
  exact ⟨hs, found, catalog, hfound, hcatalog, hlength,
    lines_stream_validate {} (some true) "src" [] [brokenLines] found catalog hs hfound rfl hcatalog⟩

end Validation
end ApiCatalog
