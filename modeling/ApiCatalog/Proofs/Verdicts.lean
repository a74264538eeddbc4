import ApiCatalog.Proofs.Judgement

/-!
# Every candidate is accounted for

Validation is one loop with three outputs: the diagnostic stream, the violations and
the signatures. Each of them is a function of the list of candidates on its own. The
violations are those of all candidates, one after the other; the stream is their
lines; the signatures are the images of the candidates that stay. A candidate stays
unless it has a violation that the policy does not forgive, so what is missing from
the signatures is named among the violations.

The one thing that can stop the loop is a candidate that stays and has no name. Then
the stream ends with the lines of that candidate, which were written before its name
was asked for.
-/

namespace ApiCatalog

/-- The same settings with a policy on `unsafe`. -/
def Settings.withPolicy (s : Settings) (policy : UnsafePolicy) : Settings :=
  { s with unsafePolicy := policy }

namespace Validation

/-! ## What the outputs should be -/

/-- Violations keep a candidate out: any of them, or under the lenient policy one
that is not about `unsafe`. -/
def Excluded (s : Settings) (c : Candidate) : Prop :=
  (s.unsafePolicy = .exclude ∧ check s c ≠ []) ∨
    (s.unsafePolicy = .warn ∧ ∃ v ∈ check s c, v.rule ≠ .isUnsafe)

instance {s : Settings} {c : Candidate} : Decidable (Excluded s c) :=
  inferInstanceAs (Decidable (_ ∨ _))

/-- What the catalog keeps of a candidate: the tag is its name with the first
character in upper case. -/
def image (c : Candidate) : Signature :=
  { ident := c.ident
    apiKind := String.ofList
      ((c.ident.toList.take 1).flatMap Text.uppercase ++ c.ident.toList.drop 1)
    argTypes := c.params.map (·.text)
    retType := c.ret.map (·.text) }

/-- What is written to the diagnostic stream: a line for every violation, if they are
reported. -/
def reported (reporting : Bool) (violations : List Violation) : String :=
  if reporting then String.join (violations.map fun v => v.render ++ "\n") else ""

/-- The candidates that need a name have one. -/
def Named (s : Settings) (cs : List Candidate) : Prop :=
  ∀ c ∈ cs, ¬ Excluded s c → c.ident ≠ ""

instance {s : Settings} {cs : List Candidate} : Decidable (Named s cs) :=
  inferInstanceAs (Decidable (∀ c ∈ cs, _))

/-- What keeps a candidate out is one of its violations. -/
theorem exists_reason {s : Settings} {c : Candidate} (h : Excluded s c) :
    ∃ v ∈ check s c, s.unsafePolicy = .warn → v.rule ≠ .isUnsafe := by
  rcases h with ⟨hpolicy, hsome⟩ | ⟨-, v, hv, hrule⟩
  · obtain ⟨v, rest, hcheck⟩ := List.exists_cons_of_ne_nil hsome
    refine ⟨v, by rw [hcheck]; exact List.mem_cons_self, fun hwarn => ?_⟩
    rw [hpolicy] at hwarn
    cases hwarn
  · exact ⟨v, hv, fun _ => hrule⟩

theorem isKept_iff_not_excluded {s : Settings} {c : Candidate} :
    isKept s c = true ↔ ¬ Excluded s c := by
  unfold isKept isExcluded Excluded
  cases s.unsafePolicy with
  | exclude => simp
  | warn => simp

theorem filter_isKept (s : Settings) (cs : List Candidate) :
    cs.filter (isKept s) = cs.filter fun c => ¬ Excluded s c := by
  refine List.filter_congr fun c _ => ?_
  rw [Bool.eq_iff_iff, isKept_iff_not_excluded, decide_eq_true_eq]

theorem named_iff_isKept {s : Settings} {cs : List Candidate} :
    Named s cs ↔ ∀ c ∈ cs, isKept s c = true → c.ident ≠ "" := by
  simp only [Named, isKept_iff_not_excluded]

theorem signature?_eq_image {c : Candidate} (h : c.ident ≠ "") :
    signature? c = some (image c) := by
  obtain ⟨first, rest, hident⟩ := List.exists_cons_of_ne_nil
    (fun hnil => h (String.toList_eq_nil_iff.mp hnil))
  simp [signature?, apiKind?, image, hident]

theorem filterMap_signature? {cs : List Candidate} (h : ∀ c ∈ cs, c.ident ≠ "") :
    cs.filterMap signature? = cs.map image :=
  List.filterMap_eq_map_iff_forall_eq_some.mpr fun c hc => signature?_eq_image (h c hc)

theorem reported_append (reporting : Bool) (front back : List Violation) :
    reported reporting (front ++ back) = reported reporting front ++ reported reporting back := by
  cases reporting with
  | true => simp [reported, String.join_append]
  | false => rfl

theorem forall_identifier_violate {c : Candidate} {rule : Rule} {broken : Bool}
    {message : String} : ∀ v ∈ violate c rule broken message, v.identifier = c.ident := by
  intro v hv
  unfold violate at hv
  split at hv
  · rw [List.mem_singleton.mp hv]
  · cases hv

/-- A violation names the candidate that it was found in. -/
theorem identifier_of_mem_check {s : Settings} {c : Candidate} {v : Violation}
    (h : v ∈ check s c) : v.identifier = c.ident := by
  have hvariadic : ∀ v ∈ checkVariadic c, v.identifier = c.ident := by
    unfold checkVariadic
    split
    · exact List.forall_mem_nil _
    · exact forall_identifier_violate
  have hreturn : ∀ v ∈ checkReturn c, v.identifier = c.ident := by
    unfold checkReturn
    split
    · exact List.forall_mem_nil _
    · exact forall_identifier_violate
  have hparams : ∀ v ∈ checkParams c, v.identifier = c.ident :=
    List.forall_mem_flatMap.mpr fun t _ => forall_identifier_violate
  have hall : ∀ v ∈ check s c, v.identifier = c.ident := by
    simp only [check, checkAbi, checkQualifiers, checkGenerics, checkMarkers,
      List.forall_mem_append, and_assoc]
    have hone := @forall_identifier_violate c
    exact ⟨hone, hone, hone, hone, hvariadic, hone, hone, hone, hone, hone, hreturn, hparams⟩
  exact hall v h

/-! ## The loop -/

/-- Judging a candidate reports its violations, whatever becomes of it. -/
theorem stream_judge (s : Settings) (reporting : Bool) (c : Candidate) :
    diagnosticStream (judge s reporting c).events = reported reporting (check s c) := by
  have hreport : diagnosticStream (report (check s c)).events = reported true (check s c) := by
    simp only [report, diagnosticStream, List.map_map]
    rfl
  -- without the report, judging only logs
  have hsilent : (judge s false c).Quiet := by
    unfold judge
    dsimp only
    rw [if_neg (by decide)]
    split
    · exact (Run.quiet_log _ _).bind fun _ => Run.quiet_pure _
    · split
      · exact Run.quiet_fail _
      · exact Run.quiet_pure _
  cases reporting with
  | true =>
      rw [← hreport]
      exact Run.stream_bind_of_quiet fun _ => hsilent
  | false => exact hsilent

theorem judge_of_named {s : Settings} {reporting : Bool} {c : Candidate}
    (h : ¬ Excluded s c → c.ident ≠ "") :
    (judge s reporting c).result = .ok (if isKept s c then signature? c else none) :=
  judge_eq_ok.mpr ⟨fun hkept => h (isKept_iff_not_excluded.mp hkept), rfl⟩

theorem judge_of_unnamed {s : Settings} {reporting : Bool} {c : Candidate}
    (hstays : ¬ Excluded s c) (hname : c.ident = "") :
    (judge s reporting c).result = .error .emptyIdentifier := by
  rw [judge_result, if_pos (isKept_iff_not_excluded.mpr hstays), signature?_eq_none.mpr hname]

/-- Candidates that all have the names they need are judged to the end; what comes
after them is judged as if they were not there. -/
theorem stream_judgeAll_append {s : Settings} {before : List Candidate} (h : Named s before)
    (reporting : Bool) (rest : List Candidate) :
    diagnosticStream (judgeAll s reporting (before ++ rest)).events =
      reported reporting (before.flatMap (check s)) ++
        diagnosticStream (judgeAll s reporting rest).events := by
  induction before with
  | nil => cases reporting <;> simp [reported]
  | cons c before ih =>
      obtain ⟨hc, hbefore⟩ := List.forall_mem_cons.mp h
      rw [List.cons_append, judgeAll, Run.stream_bind_of_ok (judge_of_named hc),
        Run.stream_bind_of_quiet fun _ => Run.quiet_pure _, stream_judge, ih hbefore,
        List.flatMap_cons, reported_append, String.append_assoc]

theorem judgeAll_append_of_error {s : Settings} {reporting : Bool}
    {before rest : List Candidate} {f : Failure} (h : Named s before)
    (hrest : (judgeAll s reporting rest).result = .error f) :
    (judgeAll s reporting (before ++ rest)).result = .error f := by
  induction before with
  | nil => exact hrest
  | cons c before ih =>
      obtain ⟨hc, hbefore⟩ := List.forall_mem_cons.mp h
      rw [List.cons_append, judgeAll, Run.result_bind, judge_of_named hc, ok_bind,
        Run.result_bind, ih hbefore, error_bind]

/-- A candidate that stays without a name stops the loop, after its violations have
been reported. -/
theorem judgeAll_of_unnamed {s : Settings} {reporting : Bool} {c : Candidate}
    {after : List Candidate} (hstays : ¬ Excluded s c) (hname : c.ident = "") :
    judgeAll s reporting (c :: after) =
      ⟨(judge s reporting c).events, .error .emptyIdentifier⟩ := by
  rw [judgeAll]
  exact Run.bind_of_error (judge_of_unnamed hstays hname) _

/-! ## Whole validations -/

variable {s : Settings} {reporting : Option Bool} {source : String} {cs : List Candidate}

theorem stream_validate :
    diagnosticStream (validate s reporting source cs).events =
      diagnosticStream (judgeAll s (reporting.getD s.reportDiagnostics) cs).events :=
  Run.stream_bind_of_quiet fun _ => (Run.quiet_log _ _).bind fun _ => Run.quiet_pure _

theorem validate_of_named (h : Named s cs) :
    (validate s reporting source cs).result =
      .ok ⟨source, (cs.filter fun c => ¬ Excluded s c).map image, cs.flatMap (check s)⟩ := by
  rw [validate_eq_ok, ← named_iff_isKept]
  refine ⟨h, ?_⟩
  have himages : ∀ c ∈ cs.filter fun c => ¬ Excluded s c, c.ident ≠ "" := by
    intro c hc
    rw [List.mem_filter, decide_eq_true_eq] at hc
    exact h c hc.1 hc.2
  rw [filter_isKept, filterMap_signature? himages]

theorem stream_of_named (h : Named s cs) :
    diagnosticStream (validate s reporting source cs).events =
      reported (reporting.getD s.reportDiagnostics) (cs.flatMap (check s)) := by
  have hstream := stream_judgeAll_append h (reporting.getD s.reportDiagnostics) []
  rw [List.append_nil] at hstream
  rw [stream_validate, hstream]
  exact String.append_empty

theorem named_of_ok {catalog : Catalog}
    (h : (validate s reporting source cs).result = .ok catalog) : Named s cs :=
  named_iff_isKept.mpr (validate_eq_ok.mp h).1

/-- Where a name is missing, there is a first candidate that it is missing from. -/
theorem exists_first_unnamed (h : ¬ Named s cs) :
    ∃ before c after, cs = before ++ c :: after ∧ Named s before ∧ ¬ Excluded s c ∧
      c.ident = "" := by
  induction cs with
  | nil => exact absurd (List.forall_mem_nil _) h
  | cons first rest ih =>
      by_cases hfirst : ¬ Excluded s first ∧ first.ident = ""
      · exact ⟨[], first, rest, rfl, List.forall_mem_nil _, hfirst.1, hfirst.2⟩
      · have hnamed : ¬ Excluded s first → first.ident ≠ "" := fun hstays hname =>
          hfirst ⟨hstays, hname⟩
        have hrest : ¬ Named s rest := fun hrest =>
          h (List.forall_mem_cons.mpr ⟨hnamed, hrest⟩)
        obtain ⟨before, c, after, rfl, hbefore, hc⟩ := ih hrest
        exact ⟨first :: before, c, after, rfl, List.forall_mem_cons.mpr ⟨hnamed, hbefore⟩, hc⟩

theorem validate_of_unnamed {before after : List Candidate} {c : Candidate}
    (hbefore : Named s before) (hstays : ¬ Excluded s c) (hname : c.ident = "") :
    (validate s reporting source (before ++ c :: after)).result = .error .emptyIdentifier ∧
      diagnosticStream (validate s reporting source (before ++ c :: after)).events =
        reported (reporting.getD s.reportDiagnostics) ((before ++ [c]).flatMap (check s)) := by
  generalize hr : reporting.getD s.reportDiagnostics = r
  have hloop := @judgeAll_of_unnamed s r c after hstays hname
  constructor
  · rw [validate, hr, Run.result_bind, judgeAll_append_of_error hbefore (by rw [hloop]),
      error_bind]
  · rw [stream_validate, hr, stream_judgeAll_append hbefore, hloop, stream_judge,
      ← reported_append, List.flatMap_append, List.flatMap_singleton]

/-! ## Policies -/

@[simp] theorem unsafePolicy_withPolicy (policy : UnsafePolicy) :
    (s.withPolicy policy).unsafePolicy = policy := rfl

/-- No rule looks at the policy. -/
@[simp] theorem check_withPolicy (policy : UnsafePolicy) (c : Candidate) :
    check (s.withPolicy policy) c = check s c := rfl

theorem not_excluded_exclude {c : Candidate} :
    ¬ Excluded (s.withPolicy .exclude) c ↔ check s c = [] := by
  simp [Excluded]

theorem not_excluded_warn {c : Candidate} :
    ¬ Excluded (s.withPolicy .warn) c ↔ ∀ v ∈ check s c, v.rule = .isUnsafe := by
  simp [Excluded]

/-- Both policies record the same violations. They differ in the candidates whose
every violation is about `unsafe`. -/
theorem validate_policies {strict lenient : Catalog}
    (hstrict : (validate (s.withPolicy .exclude) reporting source cs).result = .ok strict)
    (hlenient : (validate (s.withPolicy .warn) reporting source cs).result = .ok lenient) :
    lenient.violations = strict.violations ∧
      diagnosticStream (validate (s.withPolicy .warn) reporting source cs).events =
        diagnosticStream (validate (s.withPolicy .exclude) reporting source cs).events ∧
      strict.signatures = (cs.filter fun c => check s c = []).map image ∧
      lenient.signatures =
        (cs.filter fun c => ∀ v ∈ check s c, v.rule = .isUnsafe).map image ∧
      strict.signatures.Sublist lenient.signatures := by
  have hnamed := named_of_ok hstrict
  have hnamed' := named_of_ok hlenient
  rw [stream_of_named hnamed, stream_of_named hnamed']
  rw [validate_of_named hnamed] at hstrict
  rw [validate_of_named hnamed'] at hlenient
  cases hstrict
  cases hlenient
  simp only [not_excluded_exclude, not_excluded_warn, true_and]
  refine ⟨rfl, rfl, List.Sublist.map image (List.monotone_filter_right cs fun c hc => ?_)⟩
  -- what has no violation has none that is worse than `unsafe`
  rw [decide_eq_true_eq] at hc ⊢
  rw [hc]
  exact List.forall_mem_nil _

/-- If every candidate that stays has a name, validation gives a catalog with the
violations of all candidates, the images of those that stay and nothing else, each in
the order of the candidates; what is missing is named among the violations; and the
stream has the lines of the violations if they are reported. Otherwise it fails at the
first candidate that stays without a name, with the lines up to and including those of
that candidate on the stream. Reporting changes nothing in the result, and going over
to the lenient policy only adds the images of candidates that are `unsafe` and nothing
worse. -/
theorem validate_accounts_for_all (s : Settings) (reporting : Option Bool) (source : String)
    (cs : List Candidate) :
    (Named s cs → ∃ catalog, (validate s reporting source cs).result = .ok catalog ∧
      catalog.violations = cs.flatMap (check s) ∧
      catalog.signatures = (cs.filter fun c => ¬ Excluded s c).map image ∧
      (∀ c ∈ cs, Excluded s c → ∃ v ∈ catalog.violations, v ∈ check s c ∧
        v.identifier = c.ident ∧ (s.unsafePolicy = .warn → v.rule ≠ .isUnsafe)) ∧
      diagnosticStream (validate s reporting source cs).events =
        reported (reporting.getD s.reportDiagnostics) catalog.violations) ∧
    (¬ Named s cs → ∃ before c after, cs = before ++ c :: after ∧ Named s before ∧
      ¬ Excluded s c ∧ c.ident = "" ∧
      (validate s reporting source cs).result = .error .emptyIdentifier ∧
      diagnosticStream (validate s reporting source cs).events =
        reported (reporting.getD s.reportDiagnostics) ((before ++ [c]).flatMap (check s))) ∧
    (∀ reporting', (validate s reporting' source cs).result =
      (validate s reporting source cs).result) ∧
    ∀ strict lenient,
      (validate (s.withPolicy .exclude) reporting source cs).result = .ok strict →
      (validate (s.withPolicy .warn) reporting source cs).result = .ok lenient →
        lenient.violations = strict.violations ∧
        diagnosticStream (validate (s.withPolicy .warn) reporting source cs).events =
          diagnosticStream (validate (s.withPolicy .exclude) reporting source cs).events ∧
        strict.signatures = (cs.filter fun c => check s c = []).map image ∧
        lenient.signatures =
          (cs.filter fun c => ∀ v ∈ check s c, v.rule = .isUnsafe).map image ∧
        strict.signatures.Sublist lenient.signatures := by
  refine ⟨fun hnamed => ?_, fun hunnamed => ?_, fun reporting' => ?_, ?_⟩
  · refine ⟨_, validate_of_named hnamed, rfl, rfl, fun c hc hexcluded => ?_,
      stream_of_named hnamed⟩
    obtain ⟨v, hv, hrule⟩ := exists_reason hexcluded
    exact ⟨v, List.mem_flatMap.mpr ⟨c, hc, hv⟩, hv, identifier_of_mem_check hv, hrule⟩
  · obtain ⟨before, c, after, rfl, hbefore, hstays, hname⟩ := exists_first_unnamed hunnamed
    exact ⟨before, c, after, rfl, hbefore, hstays, hname,
      validate_of_unnamed hbefore hstays hname⟩
  · by_cases hnamed : Named s cs
    · rw [validate_of_named hnamed, validate_of_named hnamed]
    · obtain ⟨before, c, after, rfl, hbefore, hstays, hname⟩ := exists_first_unnamed hnamed
      rw [(validate_of_unnamed hbefore hstays hname).1,
        (validate_of_unnamed hbefore hstays hname).1]
  · intro strict lenient hstrict hlenient
    exact validate_policies hstrict hlenient

/-- A function of a name that keeps every rule, but for its qualifiers. -/
def markedFunction (name : String) (qualifiers : Qualifiers) : Candidate :=
  { ident := name, linkage := "C", qualifiers, attrs := ["#[inline]", "#[no_panic]"] }

/-- Three functions: one that keeps every rule, an `unsafe` one, an `async` one. -/
def threeCandidates : List Candidate :=
  [markedFunction "sin" {}, markedFunction "cos" { isUnsafe := true },
    markedFunction "tan" { isAsync := true }]

/-- The strict policy keeps the first, the lenient one the first two. A fourth
candidate without a name stops both after two lines. -/
theorem validate_accounts_for_all_threeCandidates :
    Named {} threeCandidates ∧
      (∃ strict lenient,
        (validate {} (some true) "src" threeCandidates).result = .ok strict ∧
        (validate (Settings.withPolicy {} .warn) (some true) "src" threeCandidates).result =
          .ok lenient ∧
        strict.identifiers = ["sin"] ∧ lenient.identifiers = ["sin", "cos"] ∧
        strict.signatures.Sublist lenient.signatures) ∧
      ¬ Named {} (threeCandidates ++ [markedFunction "" {}]) ∧
      (validate {} (some true) "src" (threeCandidates ++ [markedFunction "" {}])).result =
        .error .emptyIdentifier := by
  have hnamed : Named {} threeCandidates := by decide +kernel
  have hnamed' : Named (Settings.withPolicy {} .warn) threeCandidates := by decide +kernel
  have hunnamed : ¬ Named {} (threeCandidates ++ [markedFunction "" {}]) := by decide +kernel
  obtain ⟨hstrict, -, -, hpolicies⟩ :=
    validate_accounts_for_all {} (some true) "src" threeCandidates
  obtain ⟨strict, hstrict, -⟩ := hstrict hnamed
  obtain ⟨lenient, hlenient, -⟩ := (validate_accounts_for_all
    (Settings.withPolicy {} .warn) (some true) "src" threeCandidates).1 hnamed'
  obtain ⟨-, -, hsigs, hsigs', hsublist⟩ := hpolicies strict lenient hstrict hlenient
  obtain ⟨before, c, after, -, -, -, -, hfails, -⟩ := (validate_accounts_for_all {} (some true)
    "src" (threeCandidates ++ [markedFunction "" {}])).2.1 hunnamed
  refine ⟨hnamed, ⟨strict, lenient, hstrict, hlenient, ?_, ?_, hsublist⟩, hunnamed, hfails⟩
  · rw [Catalog.identifiers, hsigs]
    decide +kernel
  · rw [Catalog.identifiers, hsigs']
    decide +kernel

end Validation
end ApiCatalog
