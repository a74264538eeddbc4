import Mathlib.Tactic.MkIffOfInductiveProp
import ApiCatalog.Proofs.Judgement
import ApiCatalog.Proofs.Legibility
import ApiCatalog.Proofs.Texts

/-!
# Which declarations are catalogued

Extraction and validation were written apart: one walks a tree, the other reads
a table of rules off candidates. `Accepted` says what they decide together, in
terms of the tree alone. It mentions no buffer, no fold, no candidate and no
list of violations, only the node, the siblings in front of it and their texts.

The main statement compares two lists. On one side are the signatures that come
out of validating what was extracted; on the other the children of the root that
are accepted, in the order of the source. They have the same length, and each
signature describes its node. So nothing is dropped, nothing is made up, and a
declaration that stands twice is catalogued twice.
-/

namespace ApiCatalog.Acceptance

open Extraction Validation

/-! ## The condition on the tree -/

/-- The attribute texts in front of a node, with commas between them, hold both
markers; there has to be an attribute. -/
def Marked (s : Settings) (source : List UInt8) (attributes : List Node) : Prop :=
  attributes ≠ [] ∧ ∃ texts, attributes.mapM (·.text source) = .ok texts ∧
    s.inlineMarker.toList <:+: [','].intercalate (texts.map String.toList) ∧
    s.noPanicMarker.toList <:+: [','].intercalate (texts.map String.toList)

/-- The last string literal of the `extern` modifiers of a node has the ABI as
its value. -/
def HasAbi (abi : String) (source : List UInt8) (n : Node) : Prop :=
  ∃ literal ∈ (linkageNodes (modifiersOf n)).getLast?,
    ∃ t, literal.text source = .ok t ∧ literalValue t = abi

/-- A child of the root is catalogued. -/
@[mk_iff]
structure Accepted (ignored : List String) (s : Settings) (source : List UInt8)
    (front : List Node) (n : Node) : Prop where
  isFunction : n.kind = "function_item"
  isPublic : ∃ v ∈ n.children.find? (·.kind == "visibility_modifier"),
    v.text source = .ok "pub"
  notIgnored : ∀ name, nameOf source n = .ok name → name ∉ ignored
  abi : HasAbi s.foreignAbi source n
  plain : ∀ m ∈ modifiersOf n, m.kind ≠ "const" ∧ m.kind ≠ "async"
  safe : ∀ m ∈ modifiersOf n, m.kind = "unsafe" → s.unsafePolicy = .warn
  notVariadic : ∀ list ∈ n.child? "parameters",
    ∀ p ∈ list.namedChildren, p.kind ≠ "variadic_parameter"
  notGeneric : ∀ list ∈ n.child? "type_parameters",
    ∀ p ∈ list.namedChildren, p.kind ∉ genericKinds
  marked : Marked s source (attributesAtEnd front)
  params : ∀ p ∈ paramNodes n, ∃ type ∈ typeNode? p, NamesAdmitted source type
  ret : ∀ type ∈ n.child? "return_type", NamesAdmitted source type

instance {s : Settings} {source : List UInt8} {attributes : List Node} :
    Decidable (Marked s source attributes) :=
  inferInstanceAs (Decidable (_ ∧ _))

instance {abi : String} {source : List UInt8} {n : Node} :
    Decidable (HasAbi abi source n) :=
  inferInstanceAs (Decidable (∃ literal ∈ (linkageNodes (modifiersOf n)).getLast?,
    ∃ t, literal.text source = .ok t ∧ literalValue t = abi))

instance {ignored : List String} {s : Settings} {source : List UInt8}
    {front : List Node} {n : Node} : Decidable (Accepted ignored s source front n) :=
  decidable_of_iff' _ (accepted_iff ignored s source front n)

/-- The children of the root that are catalogued, each with the siblings in front
of it. -/
def accepted (ignored : List String) (s : Settings) (unit : SourceUnit) :
    List (List Node × Node) :=
  (withFront [] unit.tree.children).filter fun p =>
    Accepted ignored s unit.bytes p.1 p.2

/-- A signature says of a node what the catalog keeps of it. -/
structure Describes (source : List UInt8) (n : Node) (sig : Signature) : Prop where
  ident : nameOf source n = .ok sig.ident
  apiKind : apiKind? sig.ident = some sig.apiKind
  argTypes : List.Forall₂
    (fun p t => ∃ type ∈ typeNode? p, type.text source = .ok t)
    (paramNodes n) sig.argTypes
  retType : Option.Rel (fun type t => type.text source = .ok t)
    (n.child? "return_type") sig.retType

/-! ## Candidates against nodes

Each rule looks at one part of a candidate, and each part was read off the node,
so the rules hold of the candidate exactly when the fields of `Accepted` hold of
the node. -/

theorem isPublic_iff {source : List UInt8} {n : Node} :
    isPublic source n = .ok true ↔
      ∃ v ∈ n.children.find? (·.kind == "visibility_modifier"),
        v.text source = .ok "pub" := by
  unfold isPublic
  cases n.children.find? (·.kind == "visibility_modifier") with
  | none => simp
  | some v => simp [map_eq_ok]

theorem marked_iff {s : Settings} {source : List UInt8} {attributes : List Node}
    {c : Candidate} (h : attributes.mapM (·.text source) = .ok c.attrs) :
    Marked s source attributes ↔
      c.attrs ≠ [] ∧
      Text.occursIn s.inlineMarker.toList c.attrText = true ∧
      Text.occursIn s.noPanicMarker.toList c.attrText = true := by
  have hempty : attributes = [] ↔ c.attrs = [] := by
    rw [← List.length_eq_zero_iff, (mapM_eq_ok.mp h).length_eq,
      List.length_eq_zero_iff]
  simp only [Marked, h, Except.ok.injEq, exists_eq_left', Text.occursIn_iff,
    Candidate.attrText, Text.join_eq_intercalate, ne_eq, hempty]

/-- Two lists in step agree on a property that every pair agrees on. -/
theorem forall₂_forall_iff {α β : Type} {r : α → β → Prop} {p : α → Prop}
    {q : β → Prop} {xs : List α} {ys : List β} (h : List.Forall₂ r xs ys)
    (hpair : ∀ x y, r x y → (p x ↔ q y)) :
    (∀ x ∈ xs, p x) ↔ ∀ y ∈ ys, q y := by
  induction h with
  | nil => simp
  | cons hxy _ ih =>
      rw [List.forall_mem_cons, List.forall_mem_cons, ih, hpair _ _ hxy]

theorem params_iff {source : List UInt8} {ns : List Node} {ts : List TypeExpr}
    (h : List.Forall₂ (fun n t => paramType source n = .ok t) ns ts) :
    (∀ t ∈ ts, t.isAdmitted = true) ↔
      ∀ n ∈ ns, ∃ type ∈ typeNode? n, NamesAdmitted source type :=
  (forall₂_forall_iff h fun _ _ ht => (paramType_isAdmitted ht).symm).symm

theorem ret_iff {source : List UInt8} {type : Option Node} {ret : Option TypeExpr}
    (h : Option.Rel (fun n t => typeOf source n = .ok t) type ret) :
    (∀ t ∈ ret, t.isAdmitted = true) ↔ ∀ n ∈ type, NamesAdmitted source n := by
  cases h with
  | none => simp
  | some ht => simp [typeOf_isAdmitted ht]

/-- A candidate is wanted and passes every rule exactly when its node is
accepted. -/
theorem accepted_iff_passes (ignored : List String) (s : Settings)
    {unit : SourceUnit} {front : List Node} {n : Node} {c : Candidate}
    (hfun : isFunction n = true) (hpub : isPublic unit.bytes n = .ok true)
    (hattrs : (attributesAtEnd front).mapM (·.text unit.bytes) = .ok c.attrs)
    (hread : ReadsAs unit n c) :
    Accepted ignored s unit.bytes front n ↔
      isWanted ignored c = true ∧ Passes s c := by
  have habi := linkageOf_eq_some s.foreignAbi hread.linkage
  have hgenerics := genericsOf_eq_zero hread.generics
  have hmarked := marked_iff (s := s) hattrs
  obtain ⟨hvariadic, hparams⟩ := paramsOf_eq_ok hread.params
  have hparams := params_iff hparams
  have hret := ret_iff (retOf_eq_ok hread.ret)
  have hwanted : isWanted ignored c = true ↔ c.ident ∉ ignored := by
    simp [isWanted]
  have hquals : c.qualifiers = qualifiersOf (modifiersOf n) := hread.qualifiers
  have hconst : c.qualifiers.isConst = false ↔
      ∀ m ∈ modifiersOf n, m.kind ≠ "const" := by
    rw [hquals]
    exact any_kind_eq_false
  have hasync : c.qualifiers.isAsync = false ↔
      ∀ m ∈ modifiersOf n, m.kind ≠ "async" := by
    rw [hquals]
    exact any_kind_eq_false
  have hrisky : c.qualifiers.isUnsafe = true ↔
      ∃ m ∈ modifiersOf n, m.kind = "unsafe" := by
    rw [hquals]
    simp [qualifiersOf]
  constructor
  · intro h
    obtain ⟨htypes, hlifetimes, hconsts⟩ := hgenerics.mpr h.notGeneric
    obtain ⟨hsome, hinline, hpanic⟩ := hmarked.mp h.marked
    refine ⟨hwanted.mpr (h.notIgnored _ hread.name), ?_⟩
    exact {
      abi := habi.mpr h.abi
      notConst := hconst.mpr fun m hm => (h.plain m hm).1
      notAsync := hasync.mpr fun m hm => (h.plain m hm).2
      safe := fun hu => by
        obtain ⟨m, hm, hkind⟩ := hrisky.mp hu
        exact h.safe m hm hkind
      notVariadic := hvariadic.mpr h.notVariadic
      noTypeParams := htypes
      noLifetimeParams := hlifetimes
      noConstParams := hconsts
      hasAttrs := hsome
      inlineMarked := hinline
      noPanicMarked := hpanic
      ret := hret.mpr h.ret
      params := hparams.mpr h.params }
  · rintro ⟨hw, h⟩
    exact {
      isFunction := by simpa [isFunction] using hfun
      isPublic := isPublic_iff.mp hpub
      notIgnored := fun name hname => by
        rw [hread.name] at hname
        cases hname
        exact hwanted.mp hw
      abi := habi.mp h.abi
      plain := fun m hm => ⟨hconst.mp h.notConst m hm, hasync.mp h.notAsync m hm⟩
      safe := fun m hm hkind => h.safe (hrisky.mpr ⟨m, hm, hkind⟩)
      notVariadic := hvariadic.mp h.notVariadic
      notGeneric := hgenerics.mp
        ⟨h.noTypeParams, h.noLifetimeParams, h.noConstParams⟩
      marked := hmarked.mpr ⟨h.hasAttrs, h.inlineMarked, h.noPanicMarked⟩
      params := hparams.mp h.params
      ret := hret.mp h.ret }

theorem argTypes_of_admitted {source : List UInt8} {ns : List Node}
    {ts : List TypeExpr}
    (h : List.Forall₂ (fun n t => paramType source n = .ok t) ns ts)
    (hadmitted : ∀ t ∈ ts, t.isAdmitted = true) :
    List.Forall₂ (fun n t => ∃ type ∈ typeNode? n, type.text source = .ok t)
      ns (ts.map (·.text)) := by
  induction h with
  | nil => exact .nil
  | cons ht _ ih =>
      obtain ⟨hfirst, hrest⟩ := List.forall_mem_cons.mp hadmitted
      obtain ⟨type, htype, -⟩ := (paramType_isAdmitted ht).mp hfirst
      exact .cons ⟨type, htype, paramType_text ht htype⟩ (ih hrest)

theorem retType_text {source : List UInt8} {type : Option Node}
    {ret : Option TypeExpr}
    (h : Option.Rel (fun n t => typeOf source n = .ok t) type ret) :
    Option.Rel (fun n t => n.text source = .ok t) type (ret.map (·.text)) := by
  cases h with
  | none => exact .none
  | some ht => exact .some (typeOf_eq_ok ht).1

/-- The signature of a candidate that passes describes its node. -/
theorem describes_of_passes {s : Settings} {unit : SourceUnit} {n : Node}
    {c : Candidate} {sig : Signature} (hread : ReadsAs unit n c)
    (hpasses : Passes s c) (hsig : signature? c = some sig) :
    Describes unit.bytes n sig := by
  obtain ⟨kind, hkind, rfl⟩ := Option.map_eq_some_iff.mp hsig
  obtain ⟨-, hparams⟩ := paramsOf_eq_ok hread.params
  exact {
    ident := hread.name
    apiKind := hkind
    argTypes := argTypes_of_admitted hparams hpasses.params
    retType := retType_text (retOf_eq_ok hread.ret) }

/-! ## Sources against catalogs -/

/-- The signature that an item adds to the catalog, if it adds one. -/
def contribution (ignored : List String) (s : Settings) (r : Option Candidate) :
    Option Signature :=
  r.bind fun c => if isWanted ignored c && isKept s c then signature? c else none

theorem filterMap_contribution (ignored : List String) (s : Settings)
    (read : List (Option Candidate)) :
    (((read.filterMap id).filter (isWanted ignored)).filter
      (isKept s)).filterMap signature? =
    read.filterMap (contribution ignored s) := by
  rw [List.filter_filter, List.filterMap_filter, List.filterMap_filterMap]
  congr 1
  funext r
  cases r with
  | none => rfl
  | some c => simp [contribution, and_comm]

/-- An item is accepted exactly when a candidate was read off it that is wanted
and kept. -/
theorem accepted_iff_kept (ignored : List String) (s : Settings)
    {unit : SourceUnit} {front : List Node} {n : Node} {r : Option Candidate}
    (h : readItem unit ⟨n, attributesAtEnd front⟩ = .ok r) :
    Accepted ignored s unit.bytes front n ↔
      ∃ c ∈ r, ReadsAs unit n c ∧ isWanted ignored c = true ∧ isKept s c = true := by
  cases r with
  | none =>
      simp only [Option.mem_def, reduceCtorEq, false_and, exists_false, iff_false]
      intro hacc
      rcases readItem_eq_none h with hfun | hpub
      · simp [isFunction, hacc.isFunction] at hfun
      · rw [isPublic_iff.mpr hacc.isPublic] at hpub
        cases hpub
  | some c =>
      obtain ⟨hfun, hpub, attrs, hattrs, hc⟩ := readItem_eq_some.mp h
      obtain ⟨rfl, hread⟩ := candidateOf_eq_ok hc
      rw [accepted_iff_passes ignored s hfun hpub hattrs hread, ← isKept_iff]
      constructor
      · intro hkept
        exact ⟨c, rfl, hread, hkept⟩
      · rintro ⟨_, ⟨⟩, -, hkept⟩
        exact hkept

/-- An accepted item adds a signature that describes it, and any other item adds
nothing. -/
theorem contribution_spec {ignored : List String} {s : Settings}
    {unit : SourceUnit} {front : List Node} {n : Node} {r : Option Candidate}
    (h : readItem unit ⟨n, attributesAtEnd front⟩ = .ok r)
    (hnamed : ∀ c ∈ r, isWanted ignored c = true → isKept s c = true →
      c.ident ≠ "") :
    if Accepted ignored s unit.bytes front n then
      ∃ sig, contribution ignored s r = some sig ∧ Describes unit.bytes n sig
    else contribution ignored s r = none := by
  have hiff := accepted_iff_kept ignored s h
  split
  · next hacc =>
      obtain ⟨c, rfl, hread, hwanted, hkept⟩ := hiff.mp hacc
      cases hsig : signature? c with
      | none =>
          exact absurd (signature?_eq_none.mp hsig) (hnamed c rfl hwanted hkept)
      | some sig =>
          exact ⟨sig, by simp [contribution, hwanted, hkept, hsig],
            describes_of_passes hread (isKept_iff.mp hkept) hsig⟩
  · next hacc =>
      cases r with
      | none => rfl
      | some c =>
          obtain ⟨-, -, attrs, -, hc⟩ := readItem_eq_some.mp h
          obtain ⟨-, hread⟩ := candidateOf_eq_ok hc
          refine if_neg fun hboth => hacc (hiff.mpr ⟨c, rfl, hread, ?_⟩)
          rwa [← Bool.and_eq_true]

/-- What an item was read as has a name, if it is going to need one, exactly when
the item does. -/
theorem named_iff (ignored : List String) (s : Settings)
    {unit : SourceUnit} {front : List Node} {n : Node} {r : Option Candidate}
    (h : readItem unit ⟨n, attributesAtEnd front⟩ = .ok r) :
    (Accepted ignored s unit.bytes front n → nameOf unit.bytes n ≠ .ok "") ↔
      ∀ c ∈ r, isWanted ignored c = true → isKept s c = true → c.ident ≠ "" := by
  rw [accepted_iff_kept ignored s h]
  constructor
  · rintro hname c rfl hwanted hkept hident
    obtain ⟨-, -, attrs, -, hc⟩ := readItem_eq_some.mp h
    obtain ⟨-, hread⟩ := candidateOf_eq_ok hc
    refine hname ⟨c, rfl, hread, hwanted, hkept⟩ ?_
    rw [hread.name, hident]
  · rintro hident ⟨c, hc, hread, hwanted, hkept⟩ hname
    rw [hread.name, Except.ok.injEq] at hname
    exact hident c hc hwanted hkept hname

/-- Two lists in step stay in step when one is filtered and the other loses the
same places. -/
theorem forall₂_filter_filterMap {α β γ : Type} {r : α → β → Prop}
    {q : α → γ → Prop} {p : α → Prop} [DecidablePred p] {f : β → Option γ}
    {xs : List α} {ys : List β} (h : List.Forall₂ r xs ys)
    (hstep : ∀ x, ∀ y ∈ ys, r x y →
      if p x then ∃ z, f y = some z ∧ q x z else f y = none) :
    List.Forall₂ q (xs.filter p) (ys.filterMap f) := by
  induction h with
  | nil => exact .nil
  | @cons x y xs ys hxy _ ih =>
      have hrest := ih fun x' y' hy' => hstep x' y' (by simp [hy'])
      have hfirst := hstep x y (by simp) hxy
      split at hfirst
      · next hp =>
          obtain ⟨z, hz, hq⟩ := hfirst
          rw [List.filter_cons_of_pos (by simpa using hp),
            List.filterMap_cons_some hz]
          exact .cons hq hrest
      · next hp =>
          rw [List.filter_cons_of_neg (by simpa using hp),
            List.filterMap_cons_none hfirst]
          exact hrest

theorem isItem_of_accepted {ignored : List String} {s : Settings}
    {source : List UInt8} {front : List Node} {n : Node}
    (h : Accepted ignored s source front n) : isItem n = true := by
  simp [isItem, Node.isAttribute, Node.isComment, h.isFunction]

theorem accepted_eq_filter_items (ignored : List String) (s : Settings)
    (unit : SourceUnit) :
    accepted ignored s unit =
      ((withFront [] unit.tree.children).filter fun p => isItem p.2).filter
        fun p => Accepted ignored s unit.bytes p.1 p.2 := by
  rw [accepted, List.filter_filter]
  refine List.filter_congr fun p _ => ?_
  by_cases hacc : Accepted ignored s unit.bytes p.1 p.2
  · simp [hacc, isItem_of_accepted hacc]
  · simp [hacc]

/-- Validating what was extracted from a legible source gives one signature for
every accepted child of the root, in the order of the source. It gives a result
at all exactly when no accepted child lacks a name. -/
theorem validate_extract_describes (ignored : List String) (s : Settings)
    (unit : SourceUnit) (reporting : Option Bool) (label : String)
    (hlegible : unit.tree.Legible unit.bytes) :
    ∃ found, (extract ignored unit).result = .ok found ∧
      ((∃ catalog, (validate s reporting label found).result = .ok catalog) ↔
        ∀ p ∈ accepted ignored s unit, nameOf unit.bytes p.2 ≠ .ok "") ∧
      ∀ catalog, (validate s reporting label found).result = .ok catalog →
        List.Forall₂ (fun p sig => Describes unit.bytes p.2 sig)
          (accepted ignored s unit) catalog.signatures := by
  obtain ⟨found, hfound⟩ := extract_legible ignored hlegible
  obtain ⟨⟨read, hread, rfl⟩, -⟩ := extract_eq_ok.mp hfound
  have hitems : (attach [] unit.tree.children).1 = _ := attach_items [] _
  rw [hitems, mapM_eq_ok, List.forall₂_map_left_iff] at hread
  -- a found candidate is one that was read off an item and is wanted
  have hmem : ∀ p : Candidate → Prop,
      (∀ c ∈ (read.filterMap id).filter (isWanted ignored), p c) ↔
        ∀ r ∈ read, ∀ c ∈ r, isWanted ignored c = true → p c := by
    intro p
    simp only [List.mem_filter, List.mem_filterMap, id, Option.mem_def]
    constructor
    · intro h r hr c hc hwanted
      exact h c ⟨⟨r, hr, hc⟩, hwanted⟩
    · rintro h c ⟨⟨r, hr, hc⟩, hwanted⟩
      exact h r hr c hc hwanted
  refine ⟨_, hfound, ?_, fun catalog hcat => ?_⟩
  · simp only [validate_eq_ok, exists_and_left, exists_eq, and_true]
    rw [hmem, accepted_eq_filter_items, ← forall₂_forall_iff hread fun p r hp =>
      named_iff ignored s hp]
    simp only [List.mem_filter, decide_eq_true_eq, and_imp]
  · obtain ⟨hnamed, rfl⟩ := validate_eq_ok.mp hcat
    show List.Forall₂ _ _ (List.filterMap signature? _)
    rw [filterMap_contribution, accepted_eq_filter_items]
    exact forall₂_filter_filterMap hread fun p r hr hp =>
      contribution_spec hp ((hmem _).mp hnamed r hr)

/-- A source with two functions, `#[inline] #[no_panic]` in front of the first
and nothing in front of the second:
`pub extern "C" fn f(x: *mut f64) { } pub fn g() { }`. -/
def twoFunctions : SourceUnit :=
  { path := "lib.rs"
    bytes := Text.Utf8.encode ("#[inline] #[no_panic] pub extern \"C\" fn " ++
      "f(x: *mut f64) \x7b\x7d pub fn g() \x7b\x7d").toList
    tree :=
      { kind := "source_file", start := 0, stop := 73, children := [
        { kind := "attribute_item", start := 0, stop := 9 },
        { kind := "attribute_item", start := 10, stop := 21 },
        { kind := "function_item", start := 22, stop := 57, children := [
          { kind := "visibility_modifier", start := 22, stop := 25 },
          { kind := "function_modifiers", start := 26, stop := 36, children := [
            { kind := "extern_modifier", start := 26, stop := 36, children := [
              { kind := "string_literal", start := 33, stop := 36 }] }] },
          { kind := "identifier", start := 40, stop := 41, field := "name" },
          { kind := "parameters", start := 41, stop := 54, field := "parameters",
            children := [
            { kind := "parameter", start := 42, stop := 53, children := [
              { kind := "pointer_type", start := 45, stop := 53, field := "type",
                children := [
                { kind := "mutable_specifier", start := 46, stop := 49 },
                { kind := "primitive_type", start := 50, stop := 53,
                  field := "type" }] }] }] }] },
        { kind := "function_item", start := 58, stop := 73, children := [
          { kind := "visibility_modifier", start := 58, stop := 61 },
          { kind := "identifier", start := 65, stop := 66, field := "name" },
          { kind := "parameters", start := 66, stop := 68,
            field := "parameters" }] }] } }

/-- Of the two functions the first is catalogued and the second is not. -/
theorem validate_extract_describes_twoFunctions :
    twoFunctions.tree.Legible twoFunctions.bytes ∧
      (accepted [] {} twoFunctions).map (·.1.length) = [2] ∧
      ∃ found, (extract [] twoFunctions).result = .ok found ∧
        ∀ catalog, (validate {} none "" found).result = .ok catalog →
          catalog.signatures.length = 1 := by
  have hlegible : twoFunctions.tree.Legible twoFunctions.bytes := by decide +kernel
  have haccepted : (accepted [] {} twoFunctions).map (·.1.length) = [2] := by
    decide +kernel
  obtain ⟨found, hfound, -, hsigs⟩ :=
    validate_extract_describes [] {} twoFunctions none "" hlegible
  refine ⟨hlegible, haccepted, found, hfound, fun catalog hcat => ?_⟩
  rw [← (hsigs catalog hcat).length_eq]
  simpa using congrArg List.length haccepted

end ApiCatalog.Acceptance
