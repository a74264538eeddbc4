import ApiCatalog.Proofs.Runs
import ApiCatalog.Validation

/-!
# What judging candidates comes to

Twelve rules are written as twelve small lists of violations, and a policy looks
at the list they make together. Read from the end, all of that is one condition
on the candidate: `Passes`, a conjunction with one field for every rule. The
first half of this file shows that a candidate stays in the catalog exactly when
it passes.

The second half does the same for the loop. Judging a list of candidates
succeeds exactly when every one that is kept has a name, and then the signatures
are those of the kept candidates and the violations those of all of them, both
in the order in which the candidates stand.
-/

namespace ApiCatalog.Validation

/-! ## One candidate -/

/-- What every rule asks of a candidate. Being `unsafe` is a matter of the
policy. -/
structure Passes (s : Settings) (c : Candidate) : Prop where
  abi : c.linkage = some s.foreignAbi
  notConst : c.qualifiers.isConst = false
  notAsync : c.qualifiers.isAsync = false
  safe : c.qualifiers.isUnsafe = true → s.unsafePolicy = .warn
  notVariadic : c.variadic = none
  noTypeParams : c.generics.typeParams = 0
  noLifetimeParams : c.generics.lifetimeParams = 0
  noConstParams : c.generics.constParams = 0
  hasAttrs : c.attrs ≠ []
  inlineMarked : Text.occursIn s.inlineMarker.toList c.attrText = true
  noPanicMarked : Text.occursIn s.noPanicMarker.toList c.attrText = true
  ret : ∀ t ∈ c.ret, t.isAdmitted = true
  params : ∀ t ∈ c.params, t.isAdmitted = true

/-- A candidate stays if every violation is one that the policy forgives. -/
theorem isExcluded_eq_false {policy : UnsafePolicy} {vs : List Violation} :
    isExcluded policy vs = false ↔
      ∀ v ∈ vs, policy = .warn ∧ v.rule = .isUnsafe := by
  cases policy with
  | warn => simp [isExcluded]
  | exclude => simp [isExcluded, List.eq_nil_iff_forall_not_mem]

theorem forall_mem_violate {c : Candidate} {rule : Rule} {broken : Bool}
    {message : String} {p : Rule → Prop} :
    (∀ v ∈ violate c rule broken message, p v.rule) ↔ (broken = true → p rule) := by
  unfold violate
  cases broken with
  | true => simp
  | false => simp

/-- The rules of a candidate's violations, one condition for every check. Under
`p` stands what may be forgiven. -/
theorem forall_mem_check {s : Settings} {c : Candidate} {p : Rule → Prop} :
    (∀ v ∈ check s c, p v.rule) ↔
      (c.linkage ≠ some s.foreignAbi → p .notForeignAbi) ∧
      (c.qualifiers.isConst = true → p .isConst) ∧
      (c.qualifiers.isAsync = true → p .isAsync) ∧
      (c.qualifiers.isUnsafe = true → p .isUnsafe) ∧
      (c.variadic ≠ none → p .hasVariadic) ∧
      (c.generics.typeParams ≠ 0 → p .hasTypeParam) ∧
      (c.generics.lifetimeParams ≠ 0 → p .hasLifetimeParam) ∧
      (c.generics.constParams ≠ 0 → p .hasConstParam) ∧
      (c.attrs = [] ∨ Text.occursIn s.inlineMarker.toList c.attrText = false →
        p .missingInlineMarker) ∧
      (Text.occursIn s.noPanicMarker.toList c.attrText = false →
        p .missingNoPanicMarker) ∧
      (∀ t ∈ c.ret, t.isAdmitted = false → p .unsupportedReturnType) ∧
      (∀ t ∈ c.params, t.isAdmitted = false → p .unsupportedArgType) := by
  have hvariadic : (∀ v ∈ checkVariadic c, p v.rule) ↔
      (c.variadic ≠ none → p .hasVariadic) := by
    unfold checkVariadic
    cases c.variadic with
    | none => simp
    | some text => simp [violate]
  have hret : (∀ v ∈ checkReturn c, p v.rule) ↔
      ∀ t ∈ c.ret, t.isAdmitted = false → p .unsupportedReturnType := by
    unfold checkReturn
    cases c.ret with
    | none => simp
    | some t => simp [forall_mem_violate]
  have hparams : (∀ v ∈ checkParams c, p v.rule) ↔
      ∀ t ∈ c.params, t.isAdmitted = false → p .unsupportedArgType := by
    unfold checkParams
    rw [List.forall_mem_flatMap]
    simp [forall_mem_violate]
  simp only [check, checkAbi, checkQualifiers, checkGenerics, checkMarkers,
    List.forall_mem_append, forall_mem_violate, hvariadic, hret, hparams,
    bne_iff_ne, Bool.or_eq_true, List.isEmpty_iff, Bool.not_eq_true', and_assoc]

/-- What it takes to break a rule. -/
def Breaks (s : Settings) (c : Candidate) : Rule → Prop
  | .notForeignAbi => c.linkage ≠ some s.foreignAbi
  | .isConst => c.qualifiers.isConst = true
  | .isAsync => c.qualifiers.isAsync = true
  | .isUnsafe => c.qualifiers.isUnsafe = true
  | .hasVariadic => c.variadic ≠ none
  | .hasTypeParam => c.generics.typeParams ≠ 0
  | .hasLifetimeParam => c.generics.lifetimeParams ≠ 0
  | .hasConstParam => c.generics.constParams ≠ 0
  | .missingInlineMarker =>
      c.attrs = [] ∨ Text.occursIn s.inlineMarker.toList c.attrText = false
  | .missingNoPanicMarker => Text.occursIn s.noPanicMarker.toList c.attrText = false
  | .unsupportedReturnType => ∃ t ∈ c.ret, t.isAdmitted = false
  | .unsupportedArgType => ∃ t ∈ c.params, t.isAdmitted = false

/-- A rule is recorded exactly when it is broken. -/
theorem exists_violation_iff {s : Settings} {c : Candidate} {rule : Rule} :
    (∃ v ∈ check s c, v.rule = rule) ↔ Breaks s c rule := by
  have hcheck := @forall_mem_check s c (· ≠ rule)
  rw [← not_iff_not]
  simp only [not_exists, not_and]
  rw [hcheck]
  cases rule <;> simp [Breaks]

/-- A candidate stays in the catalog exactly when it passes. -/
theorem isExcluded_check_eq_false {s : Settings} {c : Candidate} :
    isExcluded s.unsafePolicy (check s c) = false ↔ Passes s c := by
  rw [isExcluded_eq_false]
  rw [forall_mem_check (p := fun rule => s.unsafePolicy = .warn ∧ rule = .isUnsafe)]
  constructor
  · rintro ⟨h1, h2, h3, h4, h5, h6, h7, h8, h9, h10, h11, h12⟩
    simp only [reduceCtorEq, and_false, imp_false, and_true, not_or,
      Bool.not_eq_true, Bool.not_eq_false, Decidable.not_not] at *
    exact ⟨h1, h2, h3, h4, h5, h6, h7, h8, h9.1, h9.2, h10, h11, h12⟩
  · intro h
    simp only [reduceCtorEq, and_false, imp_false, and_true, not_or,
      Bool.not_eq_true, Bool.not_eq_false, Decidable.not_not]
    exact ⟨h.abi, h.notConst, h.notAsync, h.safe, h.notVariadic, h.noTypeParams,
      h.noLifetimeParams, h.noConstParams, ⟨h.hasAttrs, h.inlineMarked⟩,
      h.noPanicMarked, h.ret, h.params⟩

/-! ## Candidates in a row -/

/-- Whether a candidate stays in the catalog. -/
def isKept (s : Settings) (c : Candidate) : Bool :=
  !isExcluded s.unsafePolicy (check s c)

theorem isKept_iff {s : Settings} {c : Candidate} :
    isKept s c = true ↔ Passes s c := by
  rw [isKept, Bool.not_eq_true', isExcluded_check_eq_false]

/-- Only the empty name has no signature. -/
theorem signature?_eq_none {c : Candidate} :
    signature? c = none ↔ c.ident = "" := by
  unfold signature? apiKind?
  rw [Option.map_eq_none_iff, ← String.toList_eq_nil_iff]
  cases c.ident.toList with
  | nil => simp
  | cons a rest => simp

theorem judge_result {s : Settings} {reporting : Bool} {c : Candidate} :
    (judge s reporting c).result =
      if isKept s c then
        match signature? c with
        | none => .error .emptyIdentifier
        | some signature => .ok (some signature)
      else .ok none := by
  unfold judge isKept
  dsimp only
  cases isExcluded s.unsafePolicy (check s c) with
  | true =>
      cases reporting with
      | true => rfl
      | false => rfl
  | false =>
      cases signature? c with
      | none =>
          cases reporting with
          | true => rfl
          | false => rfl
      | some signature =>
          cases reporting with
          | true => rfl
          | false => rfl

theorem judge_eq_ok {s : Settings} {reporting : Bool} {c : Candidate}
    {out : Option Signature} :
    (judge s reporting c).result = .ok out ↔
      (isKept s c = true → c.ident ≠ "") ∧
        out = if isKept s c then signature? c else none := by
  rw [judge_result]
  cases isKept s c with
  | false =>
      constructor
      · intro h
        exact ⟨fun hkept => absurd hkept (by decide), (Except.ok.inj h).symm⟩
      · rintro ⟨-, rfl⟩
        rfl
  | true =>
      cases hsig : signature? c with
      | none => simp [signature?_eq_none.mp hsig]
      | some signature =>
          have hident : c.ident ≠ "" := by
            intro h
            rw [signature?_eq_none.mpr h] at hsig
            cases hsig
          constructor
          · intro h
            exact ⟨fun _ => hident, (Except.ok.inj h).symm⟩
          · rintro ⟨-, rfl⟩
            rfl

/-- Judging gives a result exactly when every candidate that is kept has a
name. -/
theorem judgeAll_eq_ok {s : Settings} {reporting : Bool} {cs : List Candidate}
    {out : List Signature × List Violation} :
    (judgeAll s reporting cs).result = .ok out ↔
      (∀ c ∈ cs, isKept s c = true → c.ident ≠ "") ∧
        out = ((cs.filter (isKept s)).filterMap signature?,
          cs.flatMap (check s)) := by
  induction cs generalizing out with
  | nil =>
      rw [judgeAll, Run.result_pure, Except.ok.injEq]
      constructor
      · rintro rfl
        exact ⟨List.forall_mem_nil _, rfl⟩
      · rintro ⟨-, rfl⟩
        rfl
  | cons c rest ih =>
      have hfilter : ((c :: rest).filter (isKept s)).filterMap signature? =
          (if isKept s c then signature? c else none).toList ++
            (rest.filter (isKept s)).filterMap signature? := by
        rw [List.filter_cons]
        split
        · rw [List.filterMap_cons]
          cases signature? c with
          | none => rfl
          | some signature => rfl
        · rfl
      rw [judgeAll, Run.result_bind, bind_eq_ok, List.forall_mem_cons, hfilter,
        List.flatMap_cons]
      simp only [judge_eq_ok, Run.result_bind, bind_eq_ok, ih, Run.result_pure,
        Except.ok.injEq]
      constructor
      · rintro ⟨_, ⟨hc, rfl⟩, _, ⟨hrest, rfl⟩, rfl⟩
        exact ⟨⟨hc, hrest⟩, rfl⟩
      · rintro ⟨⟨hc, hrest⟩, rfl⟩
        refine ⟨_, ⟨hc, rfl⟩, _, ⟨hrest, rfl⟩, ?_⟩
        rfl

theorem validate_eq_ok {s : Settings} {reporting : Option Bool} {source : String}
    {cs : List Candidate} {catalog : Catalog} :
    (validate s reporting source cs).result = .ok catalog ↔
      (∀ c ∈ cs, isKept s c = true → c.ident ≠ "") ∧
        catalog = ⟨source, (cs.filter (isKept s)).filterMap signature?,
          cs.flatMap (check s)⟩ := by
  unfold validate
  rw [Run.result_bind, bind_eq_ok]
  simp only [judgeAll_eq_ok, Run.result_bind, Run.result_log, Run.result_pure,
    ok_bind, Except.ok.injEq]
  constructor
  · rintro ⟨_, ⟨hnamed, rfl⟩, rfl⟩
    exact ⟨hnamed, rfl⟩
  · rintro ⟨hnamed, rfl⟩
    refine ⟨_, ⟨hnamed, rfl⟩, ?_⟩
    rfl

end ApiCatalog.Validation
