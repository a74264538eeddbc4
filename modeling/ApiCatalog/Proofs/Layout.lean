import ApiCatalog.Proofs.Legibility
import ApiCatalog.Rust.Parser
import ApiCatalog.Validation

/-!
# A catalog does not depend on layout

Two trees differ in layout only (`Alike`) if they have the same kinds of nodes in the same
parts all the way down and if the texts of two nodes in the same place have the same
words. Where the words stand, what separates them and on which lines is left open.

Extraction reads a source only through the collapsed texts of nodes, and these are made of
the words. So every function on the way from a tree to its candidates gives the same for
two trees that are alike. That is one congruence lemma for each, from the parts of a
declaration up to a whole source, with an induction where types point to types. The line
of a declaration is the one thing that differs, and no rule looks at it.
-/

namespace ApiCatalog

/-! ## Trees that differ in layout only -/

namespace Node

/-- The words of the text of a node. -/
def words (source : List UInt8) (n : Node) : Except Text.Utf8.Fault (List (List Char)) :=
  (Text.Utf8.decode (n.bytes source)).map Text.words

/-- Two trees over two sources that differ in layout only. -/
inductive Alike (source source' : List UInt8) : Node → Node → Prop where
  | intro {n m : Node} (kind : n.kind = m.kind) (named : n.named = m.named)
      (field : n.field = m.field)
      (words : ∃ ws, n.words source = .ok ws ∧ m.words source' = .ok ws)
      (length : n.children.length = m.children.length)
      (children : ∀ a b, (a, b) ∈ n.children.zip m.children → Alike source source' a b) :
      Alike source source' n m

theorem text_eq_words (source : List UInt8) (n : Node) :
    n.text source = (n.words source).map fun ws => String.ofList (Text.join [' '] ws) := by
  unfold text words
  cases Text.Utf8.decode (n.bytes source) <;> rfl

namespace Alike

variable {source source' : List UInt8} {n m : Node}

theorem kind_eq (h : n.Alike source source' m) : n.kind = m.kind := by
  cases h with
  | intro kind => exact kind

theorem named_eq (h : n.Alike source source' m) : n.named = m.named := by
  cases h with
  | intro _ named => exact named

theorem field_eq (h : n.Alike source source' m) : n.field = m.field := by
  cases h with
  | intro _ _ field => exact field

theorem text_eq (h : n.Alike source source' m) : n.text source = m.text source' := by
  cases h with
  | intro _ _ _ words =>
      obtain ⟨ws, hn, hm⟩ := words
      rw [text_eq_words, text_eq_words, hn, hm]

theorem forall₂_children (h : n.Alike source source' m) :
    List.Forall₂ (Alike source source') n.children m.children := by
  cases h with
  | intro _ _ _ _ length children =>
      exact List.forall₂_iff_zip.mpr ⟨length, fun {a b} hab => children a b hab⟩

/-- Two trees that differ in layout only can both be read. -/
theorem legible (h : n.Alike source source' m) : n.Legible source ∧ m.Legible source' := by
  induction h with
  | intro _ _ _ words length _ ih =>
      obtain ⟨ws, hn, hm⟩ := words
      have hchildren := List.forall₂_iff_zip.mpr ⟨length, fun {a b} hab => ih a b hab⟩
      constructor
      · refine .intro ⟨_, by rw [text_eq_words, hn]; rfl⟩ fun a ha => ?_
        obtain ⟨b, -, hab⟩ := exists_mem_right_of_forall₂ hchildren ha
        exact hab.1
      · refine .intro ⟨_, by rw [text_eq_words, hm]; rfl⟩ fun b hb => ?_
        obtain ⟨a, -, hab⟩ := exists_mem_of_forall₂ hchildren hb
        exact hab.2

end Alike

/-! The relation can be tested, by the same recursion over two trees at once. -/

/-- Tests whether two nodes are of the same sort in the same part, with the same words. -/
def agrees (source source' : List UInt8) (n m : Node) : Bool :=
  n.kind == m.kind && n.named == m.named && n.field == m.field &&
    decide (∃ ws, n.words source = .ok ws ∧ m.words source' = .ok ws)

mutual

/-- Tests whether two trees differ in layout only. -/
def isAlike (source source' : List UInt8) : Node → Node → Bool
  | ⟨kind, start, stop, row, named, missing, hasError, field, children⟩, m =>
      agrees source source'
          ⟨kind, start, stop, row, named, missing, hasError, field, children⟩ m &&
        areAlike source source' children m.children

/-- Tests whether trees differ in layout only, one by one. -/
def areAlike (source source' : List UInt8) : List Node → List Node → Bool
  | [], [] => true
  | n :: ns, m :: ms => isAlike source source' n m && areAlike source source' ns ms
  | _, _ => false

end

variable {source source' : List UInt8}

theorem areAlike_iff {ns ms : List Node} :
    areAlike source source' ns ms = true ↔
      List.Forall₂ (fun n m => isAlike source source' n m = true) ns ms := by
  induction ns generalizing ms with
  | nil => cases ms <;> simp [areAlike]
  | cons n ns ih => cases ms <;> simp [areAlike, ih]

theorem isAlike_iff {n m : Node} :
    isAlike source source' n m = true ↔
      agrees source source' n m = true ∧
        areAlike source source' n.children m.children = true := by
  cases n with
  | mk => rw [isAlike, Bool.and_eq_true]

theorem alike_of_isAlike :
    ∀ {n m : Node}, isAlike source source' n m = true → n.Alike source source' m
  | n, m, h => by
      rw [isAlike_iff, areAlike_iff] at h
      obtain ⟨hnode, hchildren⟩ := h
      simp only [agrees, Bool.and_eq_true, beq_iff_eq, decide_eq_true_eq] at hnode
      obtain ⟨⟨⟨kind, named⟩, field⟩, words⟩ := hnode
      obtain ⟨length, children⟩ := List.forall₂_iff_zip.mp hchildren
      refine .intro kind named field words length fun a b hab => ?_
      have ha := (List.of_mem_zip hab).1
      exact alike_of_isAlike (children hab)
termination_by n => sizeOf n
decreasing_by
  cases n with
  | mk =>
      have hlt := List.sizeOf_lt_of_mem ha
      simp only [Node.mk.sizeOf_spec] at hlt ⊢
      omega

theorem isAlike_of_alike {n m : Node} (h : n.Alike source source' m) :
    isAlike source source' n m = true := by
  induction h with
  | intro kind named field words length _ ih =>
      refine isAlike_iff.mpr ⟨?_, areAlike_iff.mpr ?_⟩
      · simp [agrees, kind, named, field, words]
      · exact List.forall₂_iff_zip.mpr ⟨length, fun {a b} hab => ih a b hab⟩

instance {n m : Node} : Decidable (n.Alike source source' m) :=
  decidable_of_iff (isAlike source source' n m = true) ⟨alike_of_isAlike, isAlike_of_alike⟩

end Node

/-! ## Walks over two lists at once -/

section Walks

variable {ε α β γ δ : Type} {r : α → β → Prop} {xs : List α} {ys : List β}

theorem any_of_forall₂ (h : List.Forall₂ r xs ys) {p : α → Bool} {q : β → Bool}
    (hpq : ∀ {a b}, r a b → p a = q b) : xs.any p = ys.any q := by
  induction h with
  | nil => rfl
  | cons hab _ ih => rw [List.any_cons, List.any_cons, hpq hab, ih]

theorem find?_of_forall₂ (h : List.Forall₂ r xs ys) {p : α → Bool} {q : β → Bool}
    (hpq : ∀ {a b}, r a b → p a = q b) : Option.Rel r (xs.find? p) (ys.find? q) := by
  induction h with
  | nil => exact .none
  | @cons a b _ _ hab _ ih =>
      rw [List.find?_cons, List.find?_cons, hpq hab]
      cases q b with
      | true => exact .some hab
      | false => exact ih

theorem filter_of_forall₂ (h : List.Forall₂ r xs ys) {p : α → Bool} {q : β → Bool}
    (hpq : ∀ {a b}, r a b → p a = q b) : List.Forall₂ r (xs.filter p) (ys.filter q) :=
  List.rel_filter (fun _ _ hab => Bool.eq_iff_iff.mp (hpq hab)) h

theorem filterMap_of_forall₂ (h : List.Forall₂ r xs ys) {f : α → Option γ} {g : β → Option γ}
    (hfg : ∀ {a b}, r a b → f a = g b) : xs.filterMap f = ys.filterMap g := by
  induction h with
  | nil => rfl
  | cons hab _ ih => rw [List.filterMap_cons, List.filterMap_cons, hfg hab, ih]

theorem mapM_of_rel {x : Option α} {y : Option β} (h : Option.Rel r x y)
    {f : α → Except ε γ} {g : β → Except ε γ} (hfg : ∀ {a b}, r a b → f a = g b) :
    x.mapM f = y.mapM g := by
  cases h with
  | none => rfl
  | some hab => rw [Option.mapM_some, Option.mapM_some, hfg hab]

theorem mapM_of_forall₂ (h : List.Forall₂ r xs ys) {f : α → Except ε γ} {g : β → Except ε γ}
    (hfg : ∀ {a b}, r a b → f a = g b) : xs.mapM f = ys.mapM g := by
  induction h with
  | nil => rfl
  | cons hab _ ih => rw [List.mapM_cons, List.mapM_cons, hfg hab, ih]

theorem exists_mapM_of_forall₂ (h : List.Forall₂ r xs ys) {f : α → Except ε γ}
    {g : β → Except ε δ} {q : γ → δ → Prop}
    (hfg : ∀ {a b}, r a b → ∃ c d, f a = .ok c ∧ g b = .ok d ∧ q c d) :
    ∃ cs ds, xs.mapM f = .ok cs ∧ ys.mapM g = .ok ds ∧ List.Forall₂ q cs ds := by
  induction h with
  | nil => exact ⟨[], [], rfl, rfl, .nil⟩
  | cons hab _ ih =>
      obtain ⟨c, d, hc, hd, hcd⟩ := hfg hab
      obtain ⟨cs, ds, hcs, hds, hrest⟩ := ih
      refine ⟨c :: cs, d :: ds, ?_, ?_, .cons hcd hrest⟩
      · rw [List.mapM_cons, hc, hcs]
        rfl
      · rw [List.mapM_cons, hd, hds]
        rfl

theorem foldlM_of_forall₂ (h : List.Forall₂ r xs ys) {f : δ → α → Except ε δ}
    {g : δ → β → Except ε δ} (hfg : ∀ {a b}, r a b → ∀ acc, f acc a = g acc b) (acc : δ) :
    xs.foldlM f acc = ys.foldlM g acc := by
  induction h generalizing acc with
  | nil => rfl
  | cons hab _ ih =>
      rw [List.foldlM_cons, List.foldlM_cons, hfg hab]
      exact bind_congr ih

end Walks

namespace Node.Alike

variable {source source' : List UInt8} {n m : Node}

theorem rel_child? (h : n.Alike source source' m) (field : String) :
    Option.Rel (Alike source source') (n.child? field) (m.child? field) :=
  find?_of_forall₂ h.forall₂_children fun hab => by rw [hab.field_eq]

theorem forall₂_namedChildren (h : n.Alike source source' m) :
    List.Forall₂ (Alike source source') n.namedChildren m.namedChildren :=
  filter_of_forall₂ h.forall₂_children named_eq

variable {ns ms : List Node}

theorem mapM_text (h : List.Forall₂ (Alike source source') ns ms) :
    ns.mapM (·.text source) = ms.mapM (·.text source') :=
  mapM_of_forall₂ h text_eq

theorem any_kind (h : List.Forall₂ (Alike source source') ns ms) (kind : String) :
    ns.any (·.kind == kind) = ms.any (·.kind == kind) :=
  any_of_forall₂ h fun hab => by rw [hab.kind_eq]

theorem filter_kind (h : List.Forall₂ (Alike source source') ns ms) (kind : String) :
    List.Forall₂ (Alike source source') (ns.filter (·.kind == kind))
      (ms.filter (·.kind == kind)) :=
  filter_of_forall₂ h fun hab => by rw [hab.kind_eq]

end Node.Alike

/-! ## The parts of a declaration -/

namespace Extraction

variable {source source' : List UInt8} {n m : Node}

theorem shapeOf_of_alike (h : n.Alike source source' m) (text : String) :
    shapeOf n.kind n.children text = shapeOf m.kind m.children text := by
  have hlength : n.children.any (·.field == some "length") =
      m.children.any (·.field == some "length") :=
    any_of_forall₂ h.forall₂_children fun hab => by rw [hab.field_eq]
  unfold shapeOf
  rw [h.kind_eq, hlength]

theorem typeOf_of_alike (h : n.Alike source source' m) :
    typeOf source n = typeOf source' m := by
  induction h with
  | @intro n m kind named field words length children ih =>
      have h : n.Alike source source' m := .intro kind named field words length children
      have hmutable := Node.Alike.any_kind h.forall₂_children "mutable_specifier"
      -- the hypothesis of the induction reaches the pointee through the children
      have hpointee : (n.child? "type").mapM (typeOf source) =
          (m.child? "type").mapM (typeOf source') := by
        have hchildren := List.forall₂_iff_zip.mpr ⟨length, fun {a b} hab =>
          And.intro (children a b hab) (ih a b hab)⟩
        have hrel : Option.Rel (fun a b => a.Alike source source' b ∧
            typeOf source a = typeOf source' b) (n.child? "type") (m.child? "type") :=
          find?_of_forall₂ hchildren fun hab => by rw [hab.1.field_eq]
        exact mapM_of_rel hrel And.right
      rw [typeOf_eq, typeOf_eq, h.text_eq, kind, hmutable, hpointee]
      have hshape := shapeOf_of_alike h
      rw [kind] at hshape
      simp only [hshape]

theorem otherType_of_alike (h : n.Alike source source' m) :
    otherType source n = otherType source' m := by
  rw [otherType, otherType, h.text_eq]

theorem isPublic_of_alike (h : n.Alike source source' m) :
    isPublic source n = isPublic source' m := by
  have hrel : Option.Rel (Node.Alike source source')
      (n.children.find? (·.kind == "visibility_modifier"))
      (m.children.find? (·.kind == "visibility_modifier")) :=
    find?_of_forall₂ h.forall₂_children fun hab => by rw [hab.kind_eq]
  unfold isPublic
  match n.children.find? _, m.children.find? _, hrel with
  | _, _, .none => rfl
  | _, _, .some hab => exact congrArg (Except.map (· == "pub")) hab.text_eq

theorem nameOf_of_alike (h : n.Alike source source' m) :
    nameOf source n = nameOf source' m := by
  unfold nameOf
  match n.child? "name", m.child? "name", h.rel_child? "name" with
  | _, _, .none => rfl
  | _, _, .some hname => exact hname.text_eq

theorem modifiersOf_of_alike (h : n.Alike source source' m) :
    List.Forall₂ (Node.Alike source source') (modifiersOf n) (modifiersOf m) := by
  have hgroups := Node.Alike.filter_kind h.forall₂_children "function_modifiers"
  exact List.rel_flatMap hgroups fun _ _ hab => hab.forall₂_children

theorem linkageNodes_of_alike {ns ms : List Node}
    (h : List.Forall₂ (Node.Alike source source') ns ms) :
    List.Forall₂ (Node.Alike source source') (linkageNodes ns) (linkageNodes ms) := by
  have hmodifiers := Node.Alike.filter_kind h "extern_modifier"
  refine List.rel_flatMap hmodifiers fun _ _ hab => ?_
  exact filter_of_forall₂ hab.forall₂_children fun hpart => by rw [hpart.kind_eq]

theorem qualifiersOf_of_alike {ns ms : List Node}
    (h : List.Forall₂ (Node.Alike source source') ns ms) : qualifiersOf ns = qualifiersOf ms := by
  simp only [qualifiersOf, Node.Alike.any_kind h]

theorem linkageOf_of_alike {ns ms : List Node}
    (h : List.Forall₂ (Node.Alike source source') ns ms) :
    linkageOf source ns = linkageOf source' ms := by
  rw [linkageOf, linkageOf, Node.Alike.mapM_text (linkageNodes_of_alike h)]

theorem genericSort?_of_alike (h : n.Alike source source' m) :
    genericSort? n = genericSort? m := by
  unfold genericSort?
  rw [h.kind_eq]
  match n.child? "left", m.child? "left", h.rel_child? "left" with
  | _, _, .none => rfl
  | _, _, .some hleft => simp only [hleft.kind_eq]

theorem countGenerics_of_alike (h : n.Alike source source' m) :
    countGenerics source n = countGenerics source' m := by
  have hsorts := filterMap_of_forall₂ h.forall₂_namedChildren genericSort?_of_alike
  rw [countGenerics, countGenerics, h.text_eq, hsorts]

theorem genericsOf_of_alike (h : n.Alike source source' m) :
    genericsOf source n = genericsOf source' m := by
  unfold genericsOf
  match n.child? "type_parameters", m.child? "type_parameters",
    h.rel_child? "type_parameters" with
  | _, _, .none => rfl
  | _, _, .some hlist => exact countGenerics_of_alike hlist

theorem paramType_of_alike (h : n.Alike source source' m) :
    paramType source n = paramType source' m := by
  unfold paramType
  rw [h.kind_eq, otherType_of_alike h, typeOf_of_alike h]
  match n.child? "type", m.child? "type", h.rel_child? "type" with
  | _, _, .none => rfl
  | _, _, .some htype => simp only [typeOf_of_alike htype]

theorem addParam_of_alike (h : n.Alike source source' m) (params : Params) :
    addParam source params n = addParam source' params m := by
  rw [addParam, addParam, Node.isAttribute, Node.isComment, h.kind_eq, h.text_eq,
    paramType_of_alike h]
  rfl

theorem paramsOf_of_alike (h : n.Alike source source' m) :
    paramsOf source n = paramsOf source' m := by
  unfold paramsOf
  match n.child? "parameters", m.child? "parameters", h.rel_child? "parameters" with
  | _, _, .none => rfl
  | _, _, .some hlist =>
      exact foldlM_of_forall₂ hlist.forall₂_namedChildren addParam_of_alike {}

theorem retOf_of_alike (h : n.Alike source source' m) :
    retOf source n = retOf source' m :=
  mapM_of_rel (h.rel_child? "return_type") typeOf_of_alike

end Extraction

/-! ## Whole files -/

/-- Two candidates that differ in their line only. -/
def Candidate.SameButLine (c d : Candidate) : Prop :=
  ∃ line, d = { c with line }

namespace Extraction

variable {source source' : List UInt8} {n m : Node} {u v : SourceUnit}

/-- Two items whose nodes and attributes differ in layout only. -/
structure Item.Alike (source source' : List UInt8) (i j : Item) : Prop where
  node : i.node.Alike source source' j.node
  attributes : List.Forall₂ (Node.Alike source source') i.attributes j.attributes

theorem attach_of_alike {pending pending' ns ms : List Node}
    (hpending : List.Forall₂ (Node.Alike source source') pending pending')
    (h : List.Forall₂ (Node.Alike source source') ns ms) :
    List.Forall₂ (Item.Alike source source') (attach pending ns).1 (attach pending' ms).1 := by
  induction h generalizing pending pending' with
  | nil => exact .nil
  | @cons n m _ _ hnm _ ih =>
      have hattribute : n.isAttribute = m.isAttribute := by
        rw [Node.isAttribute, hnm.kind_eq]
        rfl
      have hcomment : n.isComment = m.isComment := by
        rw [Node.isComment, hnm.kind_eq]
        rfl
      rw [attach, attach, hattribute, hcomment]
      split
      · exact ih (List.rel_append hpending (.cons hnm .nil))
      · split
        · exact ih hpending
        · exact .cons ⟨hnm, hpending⟩ (ih .nil)

theorem candidateOf_of_alike (hpath : u.path = v.path) (h : n.Alike u.bytes v.bytes m)
    (attrs : List String) :
    ∃ c d, candidateOf u attrs n = .ok c ∧ candidateOf v attrs m = .ok d ∧ c.SameButLine d := by
  obtain ⟨ident, hident⟩ := nameOf_legible h.legible.2
  obtain ⟨linkage, hlinkage⟩ := linkageOf_legible h.legible.2
  obtain ⟨generics, hgenerics⟩ := genericsOf_legible h.legible.2
  obtain ⟨params, hparams⟩ := paramsOf_legible h.legible.2
  obtain ⟨ret, hret⟩ := retOf_legible h.legible.2
  have hmodifiers := modifiersOf_of_alike h
  simp only [candidateOf, nameOf_of_alike h, linkageOf_of_alike hmodifiers,
    genericsOf_of_alike h, paramsOf_of_alike h, retOf_of_alike h, qualifiersOf_of_alike hmodifiers,
    hident, hlinkage, hgenerics, hparams, hret, ok_bind]
  exact ⟨_, _, rfl, rfl, m.row + 1, by rw [hpath]⟩

theorem readItem_of_alike (hpath : u.path = v.path) {i j : Item}
    (h : i.Alike u.bytes v.bytes j) :
    ∃ x y, readItem u i = .ok x ∧ readItem v j = .ok y ∧
      Option.Rel Candidate.SameButLine x y := by
  have hlegible : ∀ a ∈ j.attributes, a.Legible v.bytes := by
    intro a ha
    obtain ⟨b, -, hba⟩ := exists_mem_of_forall₂ h.attributes ha
    exact hba.legible.2
  obtain ⟨attrs, hattrs⟩ := Node.Legible.mapM_text hlegible
  obtain ⟨c, d, hc, hd, hcd⟩ := candidateOf_of_alike hpath h.node attrs
  obtain ⟨b, hb⟩ := isPublic_legible h.node.legible.2
  have hfunction : isFunction i.node = isFunction j.node := by
    rw [isFunction, h.node.kind_eq]
    rfl
  simp only [readItem, Node.Alike.mapM_text h.attributes, hattrs, ok_bind, hfunction,
    isPublic_of_alike h.node, hb, hc, hd]
  cases isFunction j.node with
  | false => exact ⟨none, none, rfl, rfl, .none⟩
  | true =>
      cases b with
      | false => exact ⟨none, none, rfl, rfl, .none⟩
      | true => exact ⟨some c, some d, rfl, rfl, .some hcd⟩

end Extraction

/-! ## Rules do not look at lines -/

namespace Validation

theorem judgeAll_of_sameButLine (s : Settings) (reporting : Bool) {cs ds : List Candidate}
    (h : List.Forall₂ Candidate.SameButLine cs ds) :
    judgeAll s reporting cs = judgeAll s reporting ds := by
  induction h with
  | nil => rfl
  | @cons c d cs ds hcd _ ih =>
      obtain ⟨line, rfl⟩ := hcd
      have hjudge : judge s reporting { c with line } = judge s reporting c := rfl
      have hcheck : check s { c with line } = check s c := rfl
      rw [judgeAll, judgeAll, hjudge, hcheck, ih]

theorem validate_of_sameButLine (s : Settings) (reporting : Option Bool) (source : String)
    {cs ds : List Candidate} (h : List.Forall₂ Candidate.SameButLine cs ds) :
    validate s reporting source cs = validate s reporting source ds := by
  rw [validate, validate, judgeAll_of_sameButLine s _ h]

end Validation

namespace Extraction

/-- Two sources of the same name that differ in layout only have the same candidates,
their lines apart, and validation runs the same on both: the same catalog and the same
diagnostics. -/
theorem extract_of_alike (ignored : List String) {u v : SourceUnit} (hpath : u.path = v.path)
    (h : u.tree.Alike u.bytes v.bytes v.tree) :
    ∃ found found', (extract ignored u).result = .ok found ∧
      (extract ignored v).result = .ok found' ∧
      List.Forall₂ Candidate.SameButLine found found' ∧
      ∀ (s : Settings) (reporting : Option Bool) (source : String),
        Validation.validate s reporting source found =
          Validation.validate s reporting source found' := by
  have hitems := attach_of_alike .nil h.forall₂_children
  obtain ⟨read, read', hread, hread', hrel⟩ :=
    exists_mapM_of_forall₂ hitems (readItem_of_alike hpath)
  have hsame : List.Forall₂ Candidate.SameButLine
      ((read.filterMap id).filter (isWanted ignored))
      ((read'.filterMap id).filter (isWanted ignored)) := by
    refine filter_of_forall₂ (List.rel_filterMap (fun _ _ hab => hab) hrel) ?_
    rintro c _ ⟨line, rfl⟩
    rfl
  -- the attributes that no item follows have to be read too
  obtain ⟨_, hu⟩ := extract_legible ignored h.legible.1
  obtain ⟨_, hv⟩ := extract_legible ignored h.legible.2
  refine ⟨_, _, extract_eq_ok.mpr ⟨⟨read, hread, rfl⟩, (extract_eq_ok.mp hu).2⟩,
    extract_eq_ok.mpr ⟨⟨read', hread', rfl⟩, (extract_eq_ok.mp hv).2⟩, hsame, ?_⟩
  intro s reporting source
  exact Validation.validate_of_sameButLine s reporting source hsame

/-- A function on one line. -/
def oneRow : SourceUnit :=
  let bytes := Text.Utf8.encode "#[inline] pub fn f(x: *mut f64) -> u8 \x7b\x7d".toList
  { path := "lib.rs", bytes, tree := Rust.parse bytes }

/-- The same function over several lines. -/
def manyRows : SourceUnit :=
  let bytes := Text.Utf8.encode
    "\n#[inline]\n\npub\tfn\r\nf(x:\u000b*mut   f64)\n  -> u8\n\x7b\x7d".toList
  { path := "lib.rs", bytes, tree := Rust.parse bytes }

theorem extract_of_alike_twoLayouts :
    oneRow.tree.Alike oneRow.bytes manyRows.bytes manyRows.tree ∧
      ∃ found found', (extract [] oneRow).result = .ok found ∧
        (extract [] manyRows).result = .ok found' ∧
        found.map (·.line) = [1] ∧ found'.map (·.line) = [4] ∧
        List.Forall₂ Candidate.SameButLine found found' ∧
        ∀ (s : Settings) (reporting : Option Bool) (source : String),
          Validation.validate s reporting source found =
            Validation.validate s reporting source found' := by
  have halike : oneRow.tree.Alike oneRow.bytes manyRows.bytes manyRows.tree := by decide +kernel
  obtain ⟨found, found', hfound, hfound', hsame, hvalidate⟩ :=
    extract_of_alike [] (u := oneRow) (v := manyRows) rfl halike
  have hline : ∀ cs, (extract [] oneRow).result = .ok cs → cs.map (·.line) = [1] := by
    decide +kernel
  have hline' : ∀ cs, (extract [] manyRows).result = .ok cs → cs.map (·.line) = [4] := by
    decide +kernel
  exact ⟨halike, found, found', hfound, hfound', hline found hfound, hline' found' hfound', hsame,
    hvalidate⟩

end Extraction
end ApiCatalog
