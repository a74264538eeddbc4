import ApiCatalog.Proofs.Declarations

/-!
# Extraction succeeds on legible trees

The only thing that can stop extraction is a text that is not UTF-8. A tree is
legible when there is none in it, at any depth; every part of every declaration
can then be read, and so can the whole source. The argument follows the reading:
each part looks at nodes below the one it is given, and those are legible too.
-/

namespace ApiCatalog

/-- A tree in which every text can be read. -/
inductive Node.Legible (source : List UInt8) : Node → Prop where
  | intro {n : Node} (text : ∃ t, n.text source = .ok t)
      (children : ∀ c ∈ n.children, Legible source c) : Legible source n

namespace Node.Legible

variable {source : List UInt8} {n : Node}

theorem text_ok (h : n.Legible source) : ∃ t, n.text source = .ok t := by
  cases h with
  | intro text _ => exact text

theorem of_mem (h : n.Legible source) {c : Node} (hc : c ∈ n.children) :
    c.Legible source := by
  cases h with
  | intro _ children => exact children c hc

theorem of_child? (h : n.Legible source) {field : String} {c : Node}
    (hc : n.child? field = some c) : c.Legible source :=
  h.of_mem (List.mem_of_find?_eq_some hc)

theorem of_namedChildren (h : n.Legible source) {c : Node}
    (hc : c ∈ n.namedChildren) : c.Legible source :=
  h.of_mem (List.mem_of_mem_filter hc)

theorem mapM_text {ns : List Node} (h : ∀ c ∈ ns, c.Legible source) :
    ∃ texts, ns.mapM (·.text source) = .ok texts :=
  exists_mapM_eq_ok fun c hc => (h c hc).text_ok

end Node.Legible

/-! Legibility can be tested: the test is the same recursion as the condition. -/

namespace Node

mutual

/-- Tests whether every text of a tree can be read. -/
def isLegible (source : List UInt8) : Node → Bool
  | ⟨kind, start, stop, row, named, missing, hasError, field, children⟩ =>
      (text source ⟨kind, start, stop, row, named, missing, hasError, field,
        children⟩).isOk && areLegible source children

/-- Tests whether every text of some trees can be read. -/
def areLegible (source : List UInt8) : List Node → Bool
  | [] => true
  | n :: rest => n.isLegible source && areLegible source rest

end

theorem areLegible_iff {source : List UInt8} {ns : List Node} :
    areLegible source ns = true ↔ ∀ n ∈ ns, n.isLegible source = true := by
  induction ns with
  | nil => simp [areLegible]
  | cons n rest ih => simp [areLegible, ih]

theorem isLegible_eq (source : List UInt8) (n : Node) :
    n.isLegible source = ((n.text source).isOk && areLegible source n.children) := by
  cases n with
  | mk => rw [isLegible]

theorem legible_of_isLegible {source : List UInt8} :
    ∀ {n : Node}, n.isLegible source = true → n.Legible source
  | n, h => by
      rw [isLegible_eq, Bool.and_eq_true, areLegible_iff] at h
      obtain ⟨htext, hchildren⟩ := h
      refine .intro ?_ fun c hc => ?_
      · cases ht : n.text source with
        | ok t => exact ⟨t, rfl⟩
        | error e => rw [ht] at htext; cases htext
      · exact legible_of_isLegible (hchildren c hc)
termination_by n => sizeOf n
decreasing_by
  cases n with
  | mk =>
      have hlt := List.sizeOf_lt_of_mem hc
      simp only [Node.mk.sizeOf_spec] at hlt ⊢
      omega

theorem isLegible_of_legible {source : List UInt8} {n : Node}
    (h : n.Legible source) : n.isLegible source = true := by
  induction h with
  | @intro n text children ih =>
      obtain ⟨t, ht⟩ := text
      rw [isLegible_eq, ht, areLegible_iff.mpr ih]
      rfl

instance {source : List UInt8} {n : Node} : Decidable (n.Legible source) :=
  decidable_of_iff (n.isLegible source = true)
    ⟨legible_of_isLegible, isLegible_of_legible⟩

end Node

namespace Extraction

variable {source : List UInt8} {n : Node}

theorem typeOf_legible (h : n.Legible source) : ∃ t, typeOf source n = .ok t := by
  induction h with
  | @intro n text children ih =>
      obtain ⟨text, htext⟩ := text
      rw [typeOf_eq, htext, ok_bind]
      split
      · cases hchild : n.child? "type" with
        | none => exact ⟨_, rfl⟩
        | some inner =>
            obtain ⟨t, ht⟩ := ih inner (List.mem_of_find?_eq_some hchild)
            rw [Option.mapM_some, ht]
            exact ⟨_, rfl⟩
      · exact ⟨_, rfl⟩

theorem isPublic_legible (h : n.Legible source) :
    ∃ b, isPublic source n = .ok b := by
  unfold isPublic
  split
  · exact ⟨false, rfl⟩
  · next visibility hv =>
      obtain ⟨t, ht⟩ := (h.of_mem (List.mem_of_find?_eq_some hv)).text_ok
      exact ⟨_, map_eq_ok.mpr ⟨t, ht, rfl⟩⟩

theorem nameOf_legible (h : n.Legible source) : ∃ t, nameOf source n = .ok t := by
  unfold nameOf
  split
  · exact ⟨"", rfl⟩
  · next name hname => exact (h.of_child? hname).text_ok

theorem linkageOf_legible (h : n.Legible source) :
    ∃ linkage, linkageOf source (modifiersOf n) = .ok linkage := by
  have hnodes : ∀ literal ∈ linkageNodes (modifiersOf n), literal.Legible source := by
    intro literal hl
    -- the literal is a child of a modifier in a group of the declaration
    obtain ⟨modifier, hm, hl⟩ := List.mem_flatMap.mp hl
    obtain ⟨group, hg, hm⟩ := List.mem_flatMap.mp (List.mem_of_mem_filter hm)
    have hgroup := h.of_mem (List.mem_of_mem_filter hg)
    exact (hgroup.of_mem hm).of_mem (List.mem_of_mem_filter hl)
  obtain ⟨texts, htexts⟩ := Node.Legible.mapM_text hnodes
  exact ⟨_, bind_eq_ok.mpr ⟨texts, htexts, rfl⟩⟩

theorem genericsOf_legible (h : n.Legible source) :
    ∃ g, genericsOf source n = .ok g := by
  unfold genericsOf
  split
  · exact ⟨{}, rfl⟩
  · next list hlist =>
      obtain ⟨t, ht⟩ := (h.of_child? hlist).text_ok
      exact ⟨_, bind_eq_ok.mpr ⟨t, ht, rfl⟩⟩

theorem otherType_legible (h : n.Legible source) :
    ∃ t, otherType source n = .ok t := by
  obtain ⟨text, htext⟩ := h.text_ok
  exact ⟨_, map_eq_ok.mpr ⟨text, htext, rfl⟩⟩

theorem paramType_legible (h : n.Legible source) :
    ∃ t, paramType source n = .ok t := by
  unfold paramType
  split
  · split
    · next type htype => exact typeOf_legible (h.of_child? htype)
    · exact otherType_legible h
  · split
    · exact otherType_legible h
    · exact typeOf_legible h

theorem addParam_legible (h : n.Legible source) (p : Params) :
    ∃ q, addParam source p n = .ok q := by
  unfold addParam
  split
  · obtain ⟨text, htext⟩ := h.text_ok
    exact ⟨_, bind_eq_ok.mpr ⟨text, htext, rfl⟩⟩
  · split
    · exact ⟨p, rfl⟩
    · obtain ⟨t, ht⟩ := paramType_legible h
      exact ⟨_, bind_eq_ok.mpr ⟨t, ht, rfl⟩⟩

theorem foldlM_addParam_legible {ns : List Node}
    (h : ∀ c ∈ ns, c.Legible source) (p : Params) :
    ∃ q, ns.foldlM (addParam source) p = .ok q := by
  induction ns generalizing p with
  | nil => exact ⟨p, rfl⟩
  | cons c rest ih =>
      obtain ⟨mid, hmid⟩ := addParam_legible (h c (by simp)) p
      obtain ⟨q, hq⟩ := ih (fun d hd => h d (by simp [hd])) mid
      exact ⟨q, by rw [List.foldlM_cons, hmid]; exact hq⟩

theorem paramsOf_legible (h : n.Legible source) :
    ∃ params, paramsOf source n = .ok params := by
  unfold paramsOf
  split
  · exact ⟨{}, rfl⟩
  · next list hlist =>
      exact foldlM_addParam_legible
        (fun c hc => (h.of_child? hlist).of_namedChildren hc) {}

theorem retOf_legible (h : n.Legible source) : ∃ ret, retOf source n = .ok ret := by
  unfold retOf
  cases hret : n.child? "return_type" with
  | none => exact ⟨none, rfl⟩
  | some type =>
      obtain ⟨t, ht⟩ := typeOf_legible (h.of_child? hret)
      exact ⟨some t, map_eq_ok.mpr ⟨t, ht, rfl⟩⟩

theorem candidateOf_legible {unit : SourceUnit} (attrs : List String)
    (h : n.Legible unit.bytes) : ∃ c, candidateOf unit attrs n = .ok c := by
  obtain ⟨ident, hident⟩ := nameOf_legible h
  obtain ⟨linkage, hlinkage⟩ := linkageOf_legible h
  obtain ⟨generics, hgenerics⟩ := genericsOf_legible h
  obtain ⟨params, hparams⟩ := paramsOf_legible h
  obtain ⟨ret, hret⟩ := retOf_legible h
  simp only [candidateOf, hident, hlinkage, hgenerics, hparams, hret, ok_bind]
  exact ⟨_, rfl⟩

theorem readItem_legible {unit : SourceUnit} {item : Item}
    (h : item.node.Legible unit.bytes)
    (hattrs : ∀ a ∈ item.attributes, a.Legible unit.bytes) :
    ∃ r, readItem unit item = .ok r := by
  obtain ⟨attrs, hread⟩ := Node.Legible.mapM_text hattrs
  obtain ⟨b, hpub⟩ := isPublic_legible h
  obtain ⟨c, hc⟩ := candidateOf_legible attrs h
  simp only [readItem, hread, ok_bind]
  split
  · cases b with
    | true => exact ⟨some c, by rw [hpub, ok_bind, if_pos rfl, hc]; rfl⟩
    | false => exact ⟨none, by rw [hpub, ok_bind]; rfl⟩
  · exact ⟨none, rfl⟩

/-- What is attached comes from the siblings and the buffer, so a property of
all of these holds of every item, every attribute and all that trails. -/
theorem attach_forall {p : Node → Prop} {pending ns : List Node}
    (hpending : ∀ a ∈ pending, p a) (hns : ∀ m ∈ ns, p m) :
    (∀ item ∈ (attach pending ns).1,
      p item.node ∧ ∀ a ∈ item.attributes, p a) ∧
    ∀ a ∈ (attach pending ns).2, p a := by
  induction ns generalizing pending with
  | nil => exact ⟨by simp [attach], by simpa [attach] using hpending⟩
  | cons m rest ih =>
      have hm : p m := hns m (by simp)
      have hrest : ∀ c ∈ rest, p c := fun c hc => hns c (by simp [hc])
      rw [attach]
      split
      · refine ih (fun a ha => ?_) hrest
        rcases List.mem_append.mp ha with ha | ha
        · exact hpending a ha
        · rw [List.mem_singleton.mp ha]
          exact hm
      · split
        · exact ih hpending hrest
        · obtain ⟨hitems, htrailing⟩ := ih (List.forall_mem_nil _) hrest
          refine ⟨fun item hitem => ?_, htrailing⟩
          rcases List.mem_cons.mp hitem with rfl | hitem
          · exact ⟨hm, hpending⟩
          · exact hitems item hitem

/-- A legible source has candidates. -/
theorem extract_legible {unit : SourceUnit} (ignored : List String)
    (h : unit.tree.Legible unit.bytes) :
    ∃ found, (extract ignored unit).result = .ok found := by
  obtain ⟨hitems, htrailing⟩ := attach_forall (p := Node.Legible unit.bytes)
    (List.forall_mem_nil _) fun c hc => h.of_mem hc
  obtain ⟨read, hread⟩ := exists_mapM_eq_ok fun item hitem =>
    readItem_legible (hitems item hitem).1 (hitems item hitem).2
  exact ⟨_, extract_eq_ok.mpr
    ⟨⟨read, hread, rfl⟩, Node.Legible.mapM_text htrailing⟩⟩

/-- A candidate was read off an item that is a function, and its attributes are those of
the item. -/
theorem exists_item_of_extract {ignored : List String} {unit : SourceUnit}
    {found : List Candidate} (h : (extract ignored unit).result = .ok found)
    {c : Candidate} (hc : c ∈ found) :
    ∃ item ∈ (attach [] unit.tree.children).1, isFunction item.node = true ∧
      ReadsAs unit item.node c ∧ item.attributes.mapM (·.text unit.bytes) = .ok c.attrs := by
  obtain ⟨⟨read, hread, rfl⟩, -⟩ := extract_eq_ok.mp h
  obtain ⟨hc, -⟩ := List.mem_filter.mp hc
  obtain ⟨r, hr, hrc⟩ := List.mem_filterMap.mp hc
  obtain ⟨item, hitem, hitemRead⟩ := exists_mem_of_forall₂ (mapM_eq_ok.mp hread) hr
  rw [id] at hrc
  rw [hrc] at hitemRead
  obtain ⟨hfunction, -, attrs, hattrs, hcandidate⟩ := readItem_eq_some.mp hitemRead
  obtain ⟨rfl, hreads⟩ := candidateOf_eq_ok hcandidate
  exact ⟨item, hitem, hfunction, hreads, hattrs⟩

/-- A candidate was read off a function among the children of the root. -/
theorem exists_node_of_extract {ignored : List String} {unit : SourceUnit}
    {found : List Candidate} (h : (extract ignored unit).result = .ok found)
    {c : Candidate} (hc : c ∈ found) :
    ∃ n ∈ unit.tree.children, isFunction n = true ∧ ReadsAs unit n c := by
  obtain ⟨item, hitem, hfunction, hreads, -⟩ := exists_item_of_extract h hc
  have hchildren := (attach_forall (List.forall_mem_nil _)
    (fun m (hm : m ∈ unit.tree.children) => hm)).1 item hitem
  exact ⟨item.node, hchildren.1, hfunction, hreads⟩

end Extraction
end ApiCatalog
