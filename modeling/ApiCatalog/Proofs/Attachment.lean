import ApiCatalog.Proofs.Legibility

/-!
# Every attribute goes to one item

The walk over the children of the root carries the attributes it has passed since the last
item and hands them over at the next. Comments do not end such a run of attributes, and
anything else does, a structure or a macro as much as a function.

Siblings can be cut after every item. That gives stretches, each a gap without items and the
item that ends it, and a gap at the end that no item follows (`exists_stretches`). The walk
turns a stretch into its item with the attributes of its gap and starts afresh behind it
(`attach_stretch`), so what it makes of all siblings is read off the stretches
(`attach_stretches`). Nothing is lost because filtering goes through the cuts, and nothing
leaks because a gap ends at the item before it.
-/

namespace ApiCatalog

variable {ε α β γ : Type}

/-! ## Walks over pieces -/

theorem mapM_append_eq_ok {f : α → Except ε β} {xs ys : List α} {out : List β} :
    (xs ++ ys).mapM f = .ok out ↔
      ∃ us vs, xs.mapM f = .ok us ∧ ys.mapM f = .ok vs ∧ us ++ vs = out := by
  rw [List.mapM_append, bind_eq_ok]
  simp only [bind_eq_ok, pure_eq_ok, exists_and_left]

theorem mapM_flatMap_eq_ok {f : α → Except ε β} {pieces : γ → List α} {cs : List γ}
    {out : List β} :
    (cs.flatMap pieces).mapM f = .ok out ↔
      ∃ lists, cs.mapM (fun c => (pieces c).mapM f) = .ok lists ∧ lists.flatten = out := by
  induction cs generalizing out with
  | nil =>
      simp only [List.flatMap_nil, List.mapM_nil, pure_eq_ok, exists_eq_left', List.flatten_nil]
  | cons c cs ih =>
      rw [List.flatMap_cons, mapM_append_eq_ok, List.mapM_cons]
      simp only [ih, bind_eq_ok, pure_eq_ok]
      constructor
      · rintro ⟨us, _, hus, ⟨lists, hlists, rfl⟩, rfl⟩
        exact ⟨us :: lists, ⟨us, hus, lists, hlists, rfl⟩, rfl⟩
      · rintro ⟨_, ⟨us, hus, lists, hlists, rfl⟩, rfl⟩
        exact ⟨us, lists.flatten, hus, ⟨lists, hlists, rfl⟩, rfl⟩

namespace Extraction

theorem isItem_iff {n : Node} :
    isItem n = true ↔ n.isAttribute = false ∧ n.isComment = false := by
  simp [isItem]

theorem filter_isItem_eq_nil {gap : List Node} (h : ∀ n ∈ gap, isItem n = false) :
    gap.filter isItem = [] :=
  List.filter_eq_nil_iff.mpr fun n hn => by simp [h n hn]

/-! ## Stretches -/

/-- Siblings up to an item: attributes and comments, and the item behind them. -/
structure Stretch where
  gap : List Node
  node : Node
  noItem : ∀ n ∈ gap, isItem n = false
  endsItem : isItem node = true

namespace Stretch

def nodes (s : Stretch) : List Node :=
  s.gap ++ [s.node]

/-- The item of a stretch, with the attributes of the gap. -/
def item (s : Stretch) : Item :=
  ⟨s.node, s.gap.filter (·.isAttribute)⟩

theorem filter_isItem (s : Stretch) : s.nodes.filter isItem = [s.node] := by
  rw [nodes, List.filter_append, filter_isItem_eq_nil s.noItem]
  simp [s.endsItem]

theorem filter_isAttribute (s : Stretch) :
    s.nodes.filter (·.isAttribute) = s.item.attributes := by
  simp [nodes, item, (isItem_iff.mp s.endsItem).1]

end Stretch

theorem filter_isItem_stretches (stretches : List Stretch) :
    (stretches.flatMap Stretch.nodes).filter isItem = stretches.map Stretch.node := by
  simp only [List.filter_flatMap, Stretch.filter_isItem, List.map_eq_flatMap]

/-- Siblings are stretches and a gap behind the last of them. -/
theorem exists_stretches (ns : List Node) :
    ∃ (stretches : List Stretch) (rest : List Node),
      ns = stretches.flatMap Stretch.nodes ++ rest ∧ ∀ n ∈ rest, isItem n = false := by
  induction ns with
  | nil => exact ⟨[], [], rfl, List.forall_mem_nil _⟩
  | cons n ns ih =>
      obtain ⟨stretches, rest, rfl, hrest⟩ := ih
      cases hn : isItem n with
      | true =>
          exact ⟨⟨[], n, List.forall_mem_nil _, hn⟩ :: stretches, rest, rfl, hrest⟩
      | false =>
          -- what is no item goes into the gap that comes next
          cases stretches with
          | nil => exact ⟨[], n :: rest, rfl, List.forall_mem_cons.mpr ⟨hn, hrest⟩⟩
          | cons s stretches =>
              have hgap : ∀ m ∈ n :: s.gap, isItem m = false :=
                List.forall_mem_cons.mpr ⟨hn, s.noItem⟩
              exact ⟨⟨n :: s.gap, s.node, hgap, s.endsItem⟩ :: stretches, rest, rfl, hrest⟩

/-! ## The walk -/

theorem attach_gap {gap : List Node} (h : ∀ n ∈ gap, isItem n = false)
    (pending rest : List Node) :
    attach pending (gap ++ rest) = attach (pending ++ gap.filter (·.isAttribute)) rest := by
  induction gap generalizing pending with
  | nil => simp
  | cons n gap ih =>
      obtain ⟨hn, hgap⟩ := List.forall_mem_cons.mp h
      rw [List.cons_append, attach]
      cases hattr : n.isAttribute with
      | true => simp [ih hgap, hattr]
      | false =>
          have hcomment : n.isComment = true := by simpa [isItem, hattr] using hn
          simp [ih hgap, hattr, hcomment]

theorem attach_item {n : Node} (h : isItem n = true) (pending rest : List Node) :
    attach pending (n :: rest) =
      (⟨n, pending⟩ :: (attach [] rest).1, (attach [] rest).2) := by
  obtain ⟨hattr, hcomment⟩ := isItem_iff.mp h
  simp [attach, hattr, hcomment]

/-- Behind an item the walk starts afresh. -/
theorem attach_stretch (s : Stretch) (rest : List Node) :
    attach [] (s.nodes ++ rest) = (s.item :: (attach [] rest).1, (attach [] rest).2) := by
  rw [Stretch.nodes, List.append_assoc, attach_gap s.noItem]
  exact attach_item s.endsItem _ _

theorem attach_stretches (stretches : List Stretch) {rest : List Node}
    (hrest : ∀ n ∈ rest, isItem n = false) :
    attach [] (stretches.flatMap Stretch.nodes ++ rest) =
      (stretches.map Stretch.item, rest.filter (·.isAttribute)) := by
  induction stretches with
  | nil =>
      have hgap := attach_gap hrest [] []
      rw [List.append_nil] at hgap
      exact hgap
  | cons s stretches ih =>
      rw [List.flatMap_cons, List.append_assoc, attach_stretch, ih]
      rfl

/-! ## What stands behind the items -/

/-- Among some siblings, `gap` stands right behind the items `before`, the first ones there
are; it holds no item, and `back` follows it. -/
def Follows (siblings before gap back : List Node) : Prop :=
  ∃ front, siblings = front ++ gap ++ back ∧ front.filter isItem = before ∧
    front.getLast? = before.getLast? ∧ ∀ n ∈ gap, isItem n = false

theorem follows_stretches (stretches : List Stretch) {gap : List Node}
    (hgap : ∀ n ∈ gap, isItem n = false) (back : List Node) :
    Follows (stretches.flatMap Stretch.nodes ++ gap ++ back)
      (stretches.map Stretch.node) gap back := by
  refine ⟨stretches.flatMap Stretch.nodes, rfl, filter_isItem_stretches stretches, ?_, hgap⟩
  rcases List.eq_nil_or_concat stretches with rfl | ⟨front, s, rfl⟩
  · rfl
  · simp [Stretch.nodes]

/-! ## Where the attributes go -/

theorem attach_nodes (ns : List Node) :
    (attach [] ns).1.map Item.node = ns.filter isItem := by
  obtain ⟨stretches, rest, rfl, hrest⟩ := exists_stretches ns
  rw [attach_stretches stretches hrest, List.filter_append, filter_isItem_stretches,
    filter_isItem_eq_nil hrest, List.append_nil, List.map_map]
  rfl

theorem attach_attributes (ns : List Node) :
    (attach [] ns).1.flatMap Item.attributes ++ (attach [] ns).2 =
      ns.filter (·.isAttribute) := by
  obtain ⟨stretches, rest, rfl, hrest⟩ := exists_stretches ns
  rw [attach_stretches stretches hrest, List.filter_append, List.filter_flatMap]
  simp only [Stretch.filter_isAttribute, List.flatMap_map]

/-- The texts of all attributes are those handed over, item by item, and those left. -/
theorem attach_texts (ns : List Node) (source : List UInt8) (texts : List String) :
    (ns.filter (·.isAttribute)).mapM (·.text source) = .ok texts ↔
      ∃ lists last,
        (attach [] ns).1.mapM (fun item => item.attributes.mapM (·.text source)) = .ok lists ∧
        (attach [] ns).2.mapM (·.text source) = .ok last ∧ lists.flatten ++ last = texts := by
  rw [← attach_attributes, mapM_append_eq_ok]
  simp only [mapM_flatMap_eq_ok]
  constructor
  · rintro ⟨_, last, ⟨lists, hlists, rfl⟩, hlast, htexts⟩
    exact ⟨lists, last, hlists, hlast, htexts⟩
  · rintro ⟨lists, last, hlists, hlast, htexts⟩
    exact ⟨lists.flatten, last, ⟨lists, hlists, rfl⟩, hlast, htexts⟩

theorem attach_between {ns : List Node} {before after : List Item} {item : Item}
    (h : (attach [] ns).1 = before ++ item :: after) :
    ∃ gap back, Follows ns (before.map Item.node) gap (item.node :: back) ∧
      item.attributes = gap.filter (·.isAttribute) := by
  obtain ⟨stretches, rest, rfl, hrest⟩ := exists_stretches ns
  rw [attach_stretches stretches hrest] at h
  -- the cut between two items is a cut between two stretches
  obtain ⟨front, _, rfl, rfl, hback⟩ := List.map_eq_append_iff.mp h
  obtain ⟨s, back, rfl, rfl, rfl⟩ := List.map_eq_cons_iff.mp hback
  have hcut : (front ++ s :: back).flatMap Stretch.nodes ++ rest =
      front.flatMap Stretch.nodes ++ s.gap ++
        s.node :: (back.flatMap Stretch.nodes ++ rest) := by
    simp [Stretch.nodes]
  rw [hcut, List.map_map]
  exact ⟨s.gap, _, follows_stretches front s.noItem _, rfl⟩

theorem attach_trailing (ns : List Node) :
    ∃ gap, Follows ns ((attach [] ns).1.map Item.node) gap [] ∧
      (attach [] ns).2 = gap.filter (·.isAttribute) := by
  obtain ⟨stretches, rest, rfl, hrest⟩ := exists_stretches ns
  rw [attach_stretches stretches hrest, List.map_map]
  have hfollows := follows_stretches stretches hrest []
  rw [List.append_nil] at hfollows
  exact ⟨rest, hfollows, rfl⟩

/-- The walk over siblings gives every item once and in order. The attributes it hands over
and those it is left with are together all attributes, in order, and so are their texts.
An item gets the attributes between the item before it and itself and no others, what is
left stands behind the last item, and a candidate has the texts of its own item. -/
theorem attach_gives_each_item_its_attributes (children : List Node) :
    ∃ items trailing, attach [] children = (items, trailing) ∧
      items.map Item.node = children.filter isItem ∧
      items.flatMap Item.attributes ++ trailing = children.filter (·.isAttribute) ∧
      (∀ source texts, (children.filter (·.isAttribute)).mapM (·.text source) = .ok texts ↔
        ∃ lists last,
          items.mapM (fun item => item.attributes.mapM (·.text source)) = .ok lists ∧
          trailing.mapM (·.text source) = .ok last ∧ lists.flatten ++ last = texts) ∧
      (∀ before item after, items = before ++ item :: after →
        ∃ gap back, Follows children (before.map Item.node) gap (item.node :: back) ∧
          item.attributes = gap.filter (·.isAttribute)) ∧
      (∃ gap, Follows children (items.map Item.node) gap [] ∧
        trailing = gap.filter (·.isAttribute)) ∧
      ∀ (ignored : List String) (unit : SourceUnit) (found : List Candidate),
        unit.tree.children = children → (extract ignored unit).result = .ok found →
        ∀ c ∈ found, ∃ item ∈ items, ReadsAs unit item.node c ∧
          item.attributes.mapM (·.text unit.bytes) = .ok c.attrs := by
  refine ⟨_, _, rfl, attach_nodes children, attach_attributes children, attach_texts children,
    fun before item after h => attach_between h, attach_trailing children, ?_⟩
  intro ignored unit found hunit hfound c hc
  obtain ⟨item, hitem, -, hreads, hattrs⟩ := exists_item_of_extract hfound hc
  exact ⟨item, hunit ▸ hitem, hreads, hattrs⟩

/-- The text `#[a] struct S; #[b] /* c */ #[d] pub fn f() { } #[e]` as nodes: an attribute for a
structure, two with a comment between them for a function, and one for nothing. -/
def barredSource : List UInt8 :=
  Text.Utf8.encode "#[a] struct S; #[b] /* c */ #[d] pub fn f() \x7b\x7d #[e]".toList

def attributeAt (start : Nat) : Node :=
  { kind := "attribute_item", start, stop := start + 4 }

def barredStruct : Node :=
  { kind := "struct_item", start := 5, stop := 14 }

def barredFunction : Node :=
  { kind := "function_item", start := 33, stop := 46 }

def barredSiblings : List Node :=
  [attributeAt 0, barredStruct, attributeAt 15,
    { kind := "block_comment", start := 20, stop := 27 }, attributeAt 28, barredFunction,
    attributeAt 47]

def barredItems : List Item :=
  [⟨barredStruct, [attributeAt 0]⟩, ⟨barredFunction, [attributeAt 15, attributeAt 28]⟩]

/-- The structure keeps its attribute to itself, and the comment takes none away. -/
theorem attach_gives_each_item_its_attributes_barredSiblings :
    attach [] barredSiblings = (barredItems, [attributeAt 47]) ∧
      (∃ gap back, Follows barredSiblings [barredStruct] gap (barredFunction :: back) ∧
        [attributeAt 15, attributeAt 28] = gap.filter (·.isAttribute)) ∧
      ∃ lists last,
        barredItems.mapM (fun item => item.attributes.mapM (·.text barredSource)) = .ok lists ∧
        [attributeAt 47].mapM (·.text barredSource) = .ok last ∧
        lists.flatten ++ last = ["#[a]", "#[b]", "#[d]", "#[e]"] := by
  have hwalk : attach [] barredSiblings = (barredItems, [attributeAt 47]) := rfl
  obtain ⟨items, trailing, hattach, -, -, htexts, hbetween, -⟩ :=
    attach_gives_each_item_its_attributes barredSiblings
  obtain ⟨rfl, rfl⟩ := Prod.mk.inj (hwalk.symm.trans hattach)
  have hall : (barredSiblings.filter (·.isAttribute)).mapM (·.text barredSource) =
      .ok ["#[a]", "#[b]", "#[d]", "#[e]"] := by
    decide +kernel
  exact ⟨hwalk, hbetween [⟨barredStruct, [attributeAt 0]⟩] _ [] rfl, (htexts _ _).mp hall⟩

end Extraction
end ApiCatalog
