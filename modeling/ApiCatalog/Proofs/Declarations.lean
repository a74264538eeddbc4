import Mathlib.Data.List.DropRight
import ApiCatalog.Extraction
import ApiCatalog.Proofs.Runs

/-!
# What extraction reads off a tree

Extraction walks the children of the root with a buffer of attributes, reads
every part of a declaration in a fixed order, and stops at the first text that
is not UTF-8. This file takes that walk apart once. The buffer is a function of
the siblings in front (`attach_items`), the loop over the items is a walk that
reads each item alone (`extract_eq_ok`), and every part of a candidate has a
lemma that says what it is in terms of the nodes it was read from.

The only recursion is in types, and it does not matter much: the catalog admits
one level of indirection, so two applications of `typeOf` say everything.
-/

namespace ApiCatalog.Extraction

/-! ## Items and the attributes in front of them -/

/-- Every sibling with those in front of it; `front` are the ones in front of
them all. -/
def withFront (front : List Node) : List Node → List (List Node × Node)
  | [] => []
  | n :: rest => (front, n) :: withFront (front ++ [n]) rest

/-- The attributes that stand at the end of some siblings, with nothing but
comments among them. -/
def attributesAtEnd (front : List Node) : List Node :=
  (front.rtakeWhile fun n => n.isAttribute || n.isComment).filter (·.isAttribute)

/-- Whether a node is more than an attribute or a comment. -/
def isItem (n : Node) : Bool :=
  !n.isAttribute && !n.isComment

theorem attributesAtEnd_concat_attribute {front : List Node} {n : Node}
    (h : n.isAttribute = true) :
    attributesAtEnd (front ++ [n]) = attributesAtEnd front ++ [n] := by
  unfold attributesAtEnd
  rw [List.rtakeWhile_concat_pos _ _ _ (by simp [h]), List.filter_append]
  simp [h]

theorem attributesAtEnd_concat_comment {front : List Node} {n : Node}
    (h : n.isAttribute = false) (hc : n.isComment = true) :
    attributesAtEnd (front ++ [n]) = attributesAtEnd front := by
  unfold attributesAtEnd
  rw [List.rtakeWhile_concat_pos _ _ _ (by simp [hc]), List.filter_append]
  simp [h]

theorem attributesAtEnd_concat_item {front : List Node} {n : Node}
    (h : n.isAttribute = false) (hc : n.isComment = false) :
    attributesAtEnd (front ++ [n]) = [] := by
  unfold attributesAtEnd
  rw [List.rtakeWhile_concat_neg _ _ _ (by simp [h, hc])]
  rfl

/-- The buffer of pending attributes is always what stands at the end of the
siblings read so far, so the walk pairs every item with the attributes right in
front of it. -/
theorem attach_items (front rest : List Node) :
    (attach (attributesAtEnd front) rest).1 =
      ((withFront front rest).filter fun p => isItem p.2).map
        fun p => ⟨p.2, attributesAtEnd p.1⟩ := by
  induction rest generalizing front with
  | nil => rfl
  | cons n rest ih =>
      have hnext := ih (front ++ [n])
      rw [attach, withFront, List.filter_cons]
      cases ha : n.isAttribute with
      | true =>
          rw [attributesAtEnd_concat_attribute ha] at hnext
          simpa [isItem, ha] using hnext
      | false =>
          cases hc : n.isComment with
          | true =>
              rw [attributesAtEnd_concat_comment ha hc] at hnext
              simpa [isItem, ha, hc] using hnext
          | false =>
              rw [attributesAtEnd_concat_item ha hc] at hnext
              simpa [isItem, ha, hc] using hnext

/-! ## The loop over the items -/

/-- Whether the name of a candidate is not ignored. -/
def isWanted (ignored : List String) (c : Candidate) : Bool :=
  !ignored.contains c.ident

theorem extractItem_result {ignored : List String} {unit : SourceUnit}
    {item : Item} :
    (extractItem ignored unit item).result =
      (readItem unit item).map fun r => r.toList.filter (isWanted ignored) := by
  unfold extractItem
  rw [Run.result_bind, Run.result_ofExcept]
  cases readItem unit item with
  | error e => rfl
  | ok r =>
      cases r with
      | none => rfl
      | some c =>
          show (if ignored.contains c.ident then _ else _ :
            Run Text.Utf8.Fault (List Candidate)).result = _
          cases hi : ignored.contains c.ident with
          | true =>
              have hw : isWanted ignored c = false := by rw [isWanted, hi]; rfl
              simp [Except.map, hw]
          | false =>
              have hw : isWanted ignored c = true := by rw [isWanted, hi]; rfl
              simp [Except.map, hw]

/-- The loop reads each item alone, and then drops what is ignored. -/
theorem extractItems_eq_ok {ignored : List String} {unit : SourceUnit}
    {items : List Item} {found : List Candidate} :
    (extractItems ignored unit items).result = .ok found ↔
      ∃ read, items.mapM (readItem unit) = .ok read ∧
        found = (read.filterMap id).filter (isWanted ignored) := by
  induction items generalizing found with
  | nil =>
      rw [extractItems, Run.result_pure, Except.ok.injEq, List.mapM_nil]
      constructor
      · rintro rfl
        exact ⟨[], rfl, rfl⟩
      · rintro ⟨_, h, rfl⟩
        cases h
        rfl
  | cons item rest ih =>
      rw [extractItems, Run.result_bind, bind_eq_ok, List.mapM_cons]
      simp only [extractItem_result, Run.result_bind, map_eq_ok, bind_eq_ok, ih,
        Run.result_pure, Except.ok.injEq]
      have hsplit (r : Option Candidate) (read : List (Option Candidate)) :
          ((r :: read).filterMap id).filter (isWanted ignored) =
            r.toList.filter (isWanted ignored) ++
              (read.filterMap id).filter (isWanted ignored) := by
        cases r with
        | none => rfl
        | some c => simp [List.filter_cons]; split <;> rfl
      constructor
      · rintro ⟨_, ⟨r, hr, rfl⟩, _, ⟨read, hread, rfl⟩, rfl⟩
        exact ⟨r :: read, ⟨r, hr, read, hread, rfl⟩, (hsplit r read).symm⟩
      · rintro ⟨_, ⟨r, hr, read, hread, h⟩, rfl⟩
        cases h
        exact ⟨_, ⟨r, hr, rfl⟩, _, ⟨read, hread, rfl⟩, (hsplit r read).symm⟩

theorem extract_eq_ok {ignored : List String} {unit : SourceUnit}
    {found : List Candidate} :
    (extract ignored unit).result = .ok found ↔
      (∃ read, (attach [] unit.tree.children).1.mapM (readItem unit) = .ok read ∧
        found = (read.filterMap id).filter (isWanted ignored)) ∧
      ∃ texts, (attach [] unit.tree.children).2.mapM (·.text unit.bytes) =
        .ok texts := by
  unfold extract
  simp only [Run.result_bind, Run.result_ofExcept, Run.result_pure, bind_eq_ok,
    Except.ok.injEq, extractItems_eq_ok]
  constructor
  · rintro ⟨_, hfound, texts, htexts, rfl⟩
    exact ⟨hfound, texts, htexts⟩
  · rintro ⟨hfound, texts, htexts⟩
    exact ⟨_, hfound, texts, htexts, rfl⟩

/-! ## Types -/

theorem pointeeAmong_eq (source : List UInt8) (ns : List Node) :
    pointeeAmong source ns =
      (ns.find? (·.field == some "type")).mapM (typeOf source) := by
  induction ns with
  | nil => rw [pointeeAmong]; rfl
  | cons n rest ih =>
      rw [pointeeAmong, List.find?_cons]
      cases hfield : n.field == some "type" with
      | true => rfl
      | false => exact ih

theorem typeOf_eq (source : List UInt8) (n : Node) :
    typeOf source n = (do
      let text ← n.text source
      if isIndirect n.kind then
        let pointee ← (n.child? "type").mapM (typeOf source)
        return {
          kind := if n.kind == "pointer_type" then .pointer else .reference
          text
          mutable := n.children.any (·.kind == "mutable_specifier")
          pointee }
      else return shapeOf n.kind n.children text) := by
  cases n with
  | mk kind start stop row named missing hasError field children =>
      rw [typeOf, pointeeAmong_eq]
      rfl

/-- A type that could be read has the text of its node, and its shape is that of
the node; only pointers and references look further. -/
theorem typeOf_eq_ok {source : List UInt8} {n : Node} {t : TypeExpr}
    (h : typeOf source n = .ok t) :
    n.text source = .ok t.text ∧
      if isIndirect n.kind then
        (n.child? "type").mapM (typeOf source) = .ok t.pointee ∧
          t.kind = if n.kind == "pointer_type" then .pointer else .reference
      else t = shapeOf n.kind n.children t.text := by
  rw [typeOf_eq, bind_eq_ok] at h
  obtain ⟨text, htext, h⟩ := h
  split at h
  · next hind =>
      obtain ⟨pointee, hpointee, h⟩ := bind_eq_ok.mp h
      cases h
      rw [if_pos hind]
      exact ⟨htext, hpointee, rfl⟩
  · next hind =>
      have hshape (kind : String) (children : List Node) :
          (shapeOf kind children text).text = text := by
        unfold shapeOf plainType
        repeat' split
        all_goals rfl
      cases h
      rw [if_neg hind, hshape]
      exact ⟨htext, rfl⟩

/-- The kinds of nodes that are names. -/
def nameKinds : List String :=
  ["primitive_type", "type_identifier", "scoped_type_identifier"]

/-- A node that stands for a fixed-width number: a name with one of the twelve
texts. A path of several segments has another text, so segments need no
mention. -/
def NamesNumber (source : List UInt8) (n : Node) : Prop :=
  n.kind ∈ nameKinds ∧ ∃ t ∈ TypeExpr.numericNames, n.text source = .ok t

/-- A node that stands for a type of the catalog: a fixed-width number, or a raw
pointer to one. -/
def NamesAdmitted (source : List UInt8) (n : Node) : Prop :=
  NamesNumber source n ∨
    (n.kind = "pointer_type" ∧ ∃ inner ∈ n.child? "type", NamesNumber source inner)

instance {source : List UInt8} {n : Node} : Decidable (NamesNumber source n) :=
  inferInstanceAs (Decidable (_ ∧ _))

instance {source : List UInt8} {n : Node} : Decidable (NamesAdmitted source n) :=
  inferInstanceAs (Decidable (_ ∨ _))

theorem colonPairs_of_numeric :
    ∀ t ∈ TypeExpr.numericNames, colonPairs t.toList = 0 := by
  decide

theorem isNumeric_shapeOf {kind : String} {children : List Node} {text : String} :
    (shapeOf kind children text).isNumeric = true ↔
      kind ∈ nameKinds ∧ text ∈ TypeExpr.numericNames := by
  unfold shapeOf
  simp only [beq_iff_eq]
  split
  · next h => simp [plainType, TypeExpr.isNumeric, nameKinds, h]
  split
  · next h => simp [plainType, TypeExpr.isNumeric, nameKinds, h]
  split
  · next h =>
      have hpairs := colonPairs_of_numeric text
      simp only [TypeExpr.isNumeric, nameKinds, h]
      simp
      intro hmem
      simp [hpairs hmem]
  · next h1 h2 h3 =>
      have hkind : kind ∉ nameKinds := by simp [nameKinds, h1, h2, h3]
      repeat' split
      all_goals simp [plainType, TypeExpr.isNumeric, hkind]

theorem isIndirect_of_mem_nameKinds {kind : String} (h : kind ∈ nameKinds) :
    isIndirect kind = false := by
  have hall : ∀ k ∈ nameKinds, isIndirect k = false := by decide
  exact hall kind h

theorem typeOf_isNumeric {source : List UInt8} {n : Node} {t : TypeExpr}
    (h : typeOf source n = .ok t) :
    t.isNumeric = true ↔ NamesNumber source n := by
  obtain ⟨htext, hshape⟩ := typeOf_eq_ok h
  have hreads : (∃ u ∈ TypeExpr.numericNames, n.text source = .ok u) ↔
      t.text ∈ TypeExpr.numericNames := by
    simp [htext]
  rw [NamesNumber, hreads]
  split at hshape
  · next hind =>
      have hkind : n.kind ∉ nameKinds := by
        intro hmem
        rw [isIndirect_of_mem_nameKinds hmem] at hind
        cases hind
      have hnot : t.isNumeric = false := by
        rw [TypeExpr.isNumeric, hshape.2]
        split <;> rfl
      simp [hkind, hnot]
  · rw [hshape, isNumeric_shapeOf]
    rw [← hshape]

/-- Whether a type is admitted can be seen on its node. -/
theorem typeOf_isAdmitted {source : List UInt8} {n : Node} {t : TypeExpr}
    (h : typeOf source n = .ok t) :
    t.isAdmitted = true ↔ NamesAdmitted source n := by
  obtain ⟨-, hshape⟩ := typeOf_eq_ok h
  rw [NamesAdmitted, ← typeOf_isNumeric h, TypeExpr.isAdmitted]
  by_cases hptr : n.kind = "pointer_type"
  · rw [if_pos (by simp [isIndirect, hptr])] at hshape
    obtain ⟨hinner, hkind⟩ := hshape
    rw [if_pos (by simp [hptr])] at hkind
    have hnot : t.isNumeric = false := by simp [TypeExpr.isNumeric, hkind]
    simp only [hkind, hnot, hptr, beq_self_eq_true, if_true]
    cases hchild : n.child? "type" with
    | none =>
        rw [hchild, Option.mapM_none, pure_eq_ok] at hinner
        simp [← hinner]
    | some inner =>
        rw [hchild] at hinner
        obtain ⟨u, hu, hinner⟩ := map_eq_ok.mp hinner
        simp [← hinner, typeOf_isNumeric hu]
  · have hkind : t.kind ≠ .pointer := by
      split at hshape
      · rw [hshape.2, if_neg (by simpa using hptr)]
        decide
      · rw [hshape]
        unfold shapeOf plainType
        repeat' split
        all_goals exact TypeKind.noConfusion
    simp [hkind, hptr]

/-! ## The parts of a declaration -/

theorem forall₂_getLast? {α β : Type} {r : α → β → Prop} {xs : List α}
    {ys : List β} (h : List.Forall₂ r xs ys) :
    Option.Rel r xs.getLast? ys.getLast? := by
  rw [List.getLast?_eq_head?_reverse, List.getLast?_eq_head?_reverse]
  have hrev := List.rel_reverse h
  generalize xs.reverse = xs' at hrev ⊢
  generalize ys.reverse = ys' at hrev ⊢
  cases hrev with
  | nil => exact .none
  | cons hr _ => exact .some hr

theorem linkageOf_eq_some {source : List UInt8} {modifiers : List Node}
    {linkage : Option String} (abi : String)
    (h : linkageOf source modifiers = .ok linkage) :
    linkage = some abi ↔
      ∃ literal ∈ (linkageNodes modifiers).getLast?,
        ∃ text, literal.text source = .ok text ∧ literalValue text = abi := by
  unfold linkageOf at h
  obtain ⟨texts, htexts, h⟩ := bind_eq_ok.mp h
  rw [pure_eq_ok] at h
  subst h
  have hlast := forall₂_getLast? (mapM_eq_ok.mp htexts)
  generalize (linkageNodes modifiers).getLast? = node at hlast ⊢
  generalize texts.getLast? = text at hlast ⊢
  cases hlast with
  | none => simp
  | some hread => simp [hread]

theorem any_kind_eq_false {ns : List Node} {kind : String} :
    ns.any (·.kind == kind) = false ↔ ∀ n ∈ ns, n.kind ≠ kind := by
  simp

/-- The kinds of nodes that count as generic parameters. -/
def genericKinds : List String :=
  ["lifetime", "lifetime_parameter", "const_parameter", "type_identifier",
    "type_parameter", "constrained_type_parameter", "optional_type_parameter"]

theorem genericSort?_eq_none {n : Node} :
    genericSort? n = none ↔ n.kind ∉ genericKinds := by
  simp only [genericSort?, genericKinds, Bool.or_eq_true, beq_iff_eq,
    List.mem_cons, List.not_mem_nil, or_false]
  split
  · next h => simp only [reduceCtorEq, false_iff, not_not]; tauto
  split
  · next h => simp only [reduceCtorEq, false_iff, not_not]; tauto
  split
  · next h =>
      simp only [not_or]
      split
      · split <;> (simp only [reduceCtorEq, false_iff]; tauto)
      · simp only [reduceCtorEq, false_iff]; tauto
  · simp only [true_iff]
    tauto

/-- A declaration without generic parameters of any sort has no node of their
kinds in its list. -/
theorem genericsOf_eq_zero {source : List UInt8} {n : Node} {g : GenericCounts}
    (h : genericsOf source n = .ok g) :
    (g.typeParams = 0 ∧ g.lifetimeParams = 0 ∧ g.constParams = 0) ↔
      ∀ list ∈ n.child? "type_parameters",
        ∀ p ∈ list.namedChildren, p.kind ∉ genericKinds := by
  unfold genericsOf at h
  cases hlist : n.child? "type_parameters" with
  | none =>
      rw [hlist] at h
      cases h
      simp
  | some list =>
      rw [hlist] at h
      obtain ⟨text, -, h⟩ := bind_eq_ok.mp h
      cases h
      have hcounts (sorts : List GenericSort) :
          (sorts.count .type = 0 ∧ sorts.count .lifetime = 0 ∧
            sorts.count .const = 0) ↔ sorts = [] := by
        simp only [List.count_eq_zero]
        constructor
        · rintro ⟨htype, hlifetime, hconst⟩
          refine List.eq_nil_iff_forall_not_mem.mpr fun sort => ?_
          cases sort with
          | type => exact htype
          | lifetime => exact hlifetime
          | const => exact hconst
        · rintro rfl
          simp
      simp only [Int.natCast_eq_zero, hcounts, List.filterMap_eq_nil_iff,
        genericSort?_eq_none, Option.mem_def, Option.some.injEq, forall_eq']

/-- Whether a node of a parameter list is a parameter with a type. -/
def isTyped (n : Node) : Bool :=
  n.kind != "variadic_parameter" && isItem n

theorem addParam_eq_ok {source : List UInt8} {p q : Params} {n : Node}
    (h : addParam source p n = .ok q) :
    (q.variadic = none ↔ p.variadic = none ∧ n.kind ≠ "variadic_parameter") ∧
      if isTyped n then
        ∃ t, paramType source n = .ok t ∧ q.types = p.types ++ [t]
      else q.types = p.types := by
  unfold addParam at h
  by_cases hv : n.kind = "variadic_parameter"
  · rw [if_pos (by simpa using hv)] at h
    obtain ⟨text, -, h⟩ := bind_eq_ok.mp h
    cases h
    simp [isTyped, hv]
  · rw [if_neg (by simpa using hv)] at h
    by_cases hitem : isItem n = true
    · rw [if_neg (by simpa [isItem] using hitem)] at h
      obtain ⟨t, ht, h⟩ := bind_eq_ok.mp h
      cases h
      simp [isTyped, hv, hitem, ht]
    · rw [if_pos (by simpa [isItem, or_iff_not_imp_left] using hitem)] at h
      cases h
      simp [isTyped, hv, hitem]

/-- The fold over a parameter list collects the types of the parameters that
have one, in order, and notices a variadic one wherever it stands. -/
theorem foldlM_addParam {source : List UInt8} {ns : List Node} {p q : Params}
    (h : ns.foldlM (addParam source) p = .ok q) :
    (q.variadic = none ↔
      p.variadic = none ∧ ∀ n ∈ ns, n.kind ≠ "variadic_parameter") ∧
    ∃ types, q.types = p.types ++ types ∧
      List.Forall₂ (fun n t => paramType source n = .ok t)
        (ns.filter isTyped) types := by
  induction ns generalizing p with
  | nil =>
      cases h
      exact ⟨by simp, [], by simp, .nil⟩
  | cons n rest ih =>
      rw [List.foldlM_cons] at h
      obtain ⟨mid, hmid, h⟩ := bind_eq_ok.mp h
      obtain ⟨hvariadic, htypes⟩ := addParam_eq_ok hmid
      obtain ⟨hrest, types, hq, hread⟩ := ih h
      refine ⟨by rw [hrest, hvariadic, List.forall_mem_cons, and_assoc], ?_⟩
      rw [List.filter_cons]
      split at htypes
      · next ht =>
          obtain ⟨t, hparam, hmid⟩ := htypes
          rw [if_pos ht]
          exact ⟨t :: types, by rw [hq, hmid]; simp, .cons hparam hread⟩
      · next ht =>
          rw [if_neg ht]
          exact ⟨types, by rw [hq, htypes], hread⟩

/-- The nodes of a declaration's parameters, without attributes, comments and
variadic ones. -/
def paramNodes (n : Node) : List Node :=
  match n.child? "parameters" with
  | none => []
  | some list => list.namedChildren.filter isTyped

/-- The node that gives a parameter its type. A receiver has none, and neither
has a pattern without a type. -/
def typeNode? (n : Node) : Option Node :=
  if n.kind == "parameter" then n.child? "type"
  else if n.kind == "self_parameter" then none
  else some n

theorem paramsOf_eq_ok {source : List UInt8} {n : Node} {params : Params}
    (h : paramsOf source n = .ok params) :
    (params.variadic = none ↔
      ∀ list ∈ n.child? "parameters",
        ∀ p ∈ list.namedChildren, p.kind ≠ "variadic_parameter") ∧
    List.Forall₂ (fun p t => paramType source p = .ok t)
      (paramNodes n) params.types := by
  unfold paramsOf at h
  unfold paramNodes
  cases hlist : n.child? "parameters" with
  | none =>
      rw [hlist] at h
      cases h
      exact ⟨by simp, .nil⟩
  | some list =>
      rw [hlist] at h
      obtain ⟨hvariadic, types, htypes, hread⟩ := foldlM_addParam h
      rw [List.nil_append] at htypes
      rw [htypes]
      exact ⟨by simpa using hvariadic, hread⟩

/-- The type of a parameter is admitted if there is a node that gives it, and
that node stands for an admitted type. -/
theorem paramType_isAdmitted {source : List UInt8} {n : Node} {t : TypeExpr}
    (h : paramType source n = .ok t) :
    t.isAdmitted = true ↔ ∃ type ∈ typeNode? n, NamesAdmitted source type := by
  have hother {m : Node} {u : TypeExpr} (hu : otherType source m = .ok u) :
      u.isAdmitted = false := by
    obtain ⟨text, -, rfl⟩ := map_eq_ok.mp hu
    rfl
  unfold paramType at h
  unfold typeNode?
  split at h
  · next hp =>
      rw [if_pos hp]
      cases hchild : n.child? "type" with
      | none =>
          rw [hchild] at h
          simp [hother h]
      | some type =>
          rw [hchild] at h
          simp [typeOf_isAdmitted h]
  · next hp =>
      rw [if_neg hp]
      split at h
      · next hs =>
          rw [if_pos hs]
          simp [hother h]
      · next hs =>
          rw [if_neg hs]
          simp [typeOf_isAdmitted h]

theorem paramType_text {source : List UInt8} {n type : Node} {t : TypeExpr}
    (h : paramType source n = .ok t) (htype : typeNode? n = some type) :
    type.text source = .ok t.text := by
  unfold paramType at h
  unfold typeNode? at htype
  split at h
  · next hp =>
      rw [if_pos hp] at htype
      rw [htype] at h
      exact (typeOf_eq_ok h).1
  · next hp =>
      rw [if_neg hp] at htype
      split at h
      · next hs =>
          rw [if_pos hs] at htype
          cases htype
      · next hs =>
          rw [if_neg hs] at htype
          cases htype
          exact (typeOf_eq_ok h).1

theorem retOf_eq_ok {source : List UInt8} {n : Node} {ret : Option TypeExpr}
    (h : retOf source n = .ok ret) :
    Option.Rel (fun type t => typeOf source type = .ok t)
      (n.child? "return_type") ret := by
  unfold retOf at h
  cases hret : n.child? "return_type" with
  | none =>
      rw [hret] at h
      cases h
      exact .none
  | some type =>
      rw [hret] at h
      obtain ⟨t, ht, rfl⟩ := map_eq_ok.mp h
      exact .some ht

/-- Every part of a candidate was read off its node. -/
structure ReadsAs (unit : SourceUnit) (n : Node) (c : Candidate) : Prop where
  name : nameOf unit.bytes n = .ok c.ident
  linkage : linkageOf unit.bytes (modifiersOf n) = .ok c.linkage
  qualifiers : c.qualifiers = qualifiersOf (modifiersOf n)
  generics : genericsOf unit.bytes n = .ok c.generics
  params : paramsOf unit.bytes n = .ok ⟨c.params, c.variadic⟩
  ret : retOf unit.bytes n = .ok c.ret

theorem candidateOf_eq_ok {unit : SourceUnit} {attrs : List String} {n : Node}
    {c : Candidate} (h : candidateOf unit attrs n = .ok c) :
    c.attrs = attrs ∧ ReadsAs unit n c := by
  unfold candidateOf at h
  obtain ⟨ident, hident, h⟩ := bind_eq_ok.mp h
  obtain ⟨linkage, hlinkage, h⟩ := bind_eq_ok.mp h
  obtain ⟨generics, hgenerics, h⟩ := bind_eq_ok.mp h
  obtain ⟨params, hparams, h⟩ := bind_eq_ok.mp h
  obtain ⟨ret, hret, h⟩ := bind_eq_ok.mp h
  rw [pure_eq_ok] at h
  subst h
  exact ⟨rfl, hident, hlinkage, rfl, hgenerics, hparams, hret⟩

/-- An item becomes a candidate exactly when it is a public function. -/
theorem readItem_eq_some {unit : SourceUnit} {item : Item} {c : Candidate} :
    readItem unit item = .ok (some c) ↔
      isFunction item.node = true ∧ isPublic unit.bytes item.node = .ok true ∧
        ∃ attrs, item.attributes.mapM (·.text unit.bytes) = .ok attrs ∧
          candidateOf unit attrs item.node = .ok c := by
  unfold readItem
  rw [bind_eq_ok]
  cases hfun : isFunction item.node with
  | false => simp [pure_eq_ok]
  | true =>
      simp only [if_true, bind_eq_ok, true_and]
      constructor
      · rintro ⟨attrs, hattrs, b, hpub, h⟩
        cases b with
        | false => cases h
        | true =>
            obtain ⟨c', hc, h⟩ := map_eq_ok.mp h
            cases h
            exact ⟨hpub, attrs, hattrs, hc⟩
      · rintro ⟨hpub, attrs, hattrs, hc⟩
        exact ⟨attrs, hattrs, true, hpub, map_eq_ok.mpr ⟨c, hc, rfl⟩⟩

theorem readItem_eq_none {unit : SourceUnit} {item : Item}
    (h : readItem unit item = .ok none) :
    isFunction item.node = false ∨ isPublic unit.bytes item.node = .ok false := by
  unfold readItem at h
  obtain ⟨attrs, -, h⟩ := bind_eq_ok.mp h
  cases hfun : isFunction item.node with
  | false => exact .inl rfl
  | true =>
      rw [hfun, if_pos rfl] at h
      obtain ⟨b, hpub, h⟩ := bind_eq_ok.mp h
      cases b with
      | false => exact .inr hpub
      | true =>
          obtain ⟨c, -, h⟩ := map_eq_ok.mp h
          cases h

end ApiCatalog.Extraction
