import ApiCatalog.Proofs.PointerTypes

/-!
# The types of a parsed function

A function of a tree keeps the types of its parameters and of its result as they
were read. So every raw pointer that a declaration is made of stands somewhere in
the tokens of the source, from its star on.
-/

namespace ApiCatalog.Rust

open Extraction (nameKinds typeNode? isFunction)

namespace Parser

variable {all : List Token}

/-! ## Types and parameters -/

/-- A raw pointer only as it was read. -/
def PointerRead (all : List Token) (n : Node) : Prop :=
  n.kind = "pointer_type" → ReadAt all n

theorem PointerRead.part {n : Node} (h : PointerRead all n) (field : String) :
    PointerRead all (part field n) := by
  intro hkind
  obtain ⟨k, c, c', m, hc, hm, hnode⟩ := h hkind
  exact ⟨k, c, c', m, hc, hm, by rw [hnode]; rfl⟩

/-- The kinds of types. -/
def typeKinds : List String :=
  "pointer_type" :: "bounded_type" :: nameKinds ++ otherKinds

theorem simpleType_kind {k : Nat} {c c' : Cursor} {m : Node}
    (h : simpleType k c = .ok (m, c')) : m.kind ∈ typeKinds := by
  cases k with
  | zero => cases h
  | succ k =>
      obtain ⟨t, rest, -, -, hpointer | ⟨hpath, -⟩ | hother⟩ := simpleType_cases h
      · obtain ⟨_, _, _, _, _, -, -, -, -, hkind, -⟩ := pointerType_eq_ok hpointer
        rw [hkind]
        exact List.mem_cons_self
      · have hmem := yields_path _ _ _ (List.suffix_refl c.tokens) hpath
        exact List.mem_cons_of_mem _ (List.mem_cons_of_mem _ hmem)
      · exact List.mem_cons_of_mem _ (List.mem_cons_of_mem _
          (List.mem_append_right _ hother))

theorem yields_type :
    Yields all type fun n => PointerRead all n ∧ n.kind ∈ typeKinds := by
  unfold type
  refine yields_then fun k => ?_
  have hsimple : Yields all (simpleType k) fun n =>
      PointerRead all n ∧ n.kind ∈ typeKinds := by
    intro c c' n hc hn
    refine ⟨fun _ => ⟨k, c, c', n, hc, hn, ?_⟩, simpleType_kind hn⟩
    cases n
    rfl
  unfold withBounds
  refine yields_bind hsimple fun n hn => yields_then fun _ => yields_then fun more => ?_
  refine yields_ite (yields_pure hn) (yields_then fun cursor => yields_pure ⟨?_, ?_⟩)
  · intro hkind
    exact absurd hkind (by simp)
  · simp [typeKinds]

/-- A parameter whose type, if it is a raw pointer, is as it was read. -/
def ParamRead (all : List Token) (n : Node) : Prop :=
  ∀ t, typeNode? n = some t → PointerRead all t

theorem paramRead_of_kind {n : Node} (hkind : n.kind ≠ "parameter")
    (h : PointerRead all n) : ParamRead all n := by
  intro t ht
  unfold typeNode? at ht
  rw [if_neg (by simpa using hkind)] at ht
  split at ht
  · cases ht
  · cases ht
    exact h

theorem yields_receiver : Yields all receiver (ParamRead all) := by
  unfold receiver
  dsimp only
  refine yields_spanned ?_
  have hend : Yields all (pure ("self_parameter", []) : Parser (String × List Node))
      fun r => ∀ n : Node, n.kind = r.1 → n.children = r.2 → n.field = none →
        ParamRead all n :=
    yields_pure fun n hkind _ _ => paramRead_of_kind (by simp [hkind]) fun h => by
      rw [hkind] at h
      exact absurd h (by decide)
  refine yields_then fun _ => yields_then fun _ => yields_then fun _ => yields_then fun _ => ?_
  exact yields_then fun _ => yields_then fun _ => yields_ite (yields_then fun _ => hend) hend

theorem yields_patternParam : Yields all patternParam (ParamRead all) := by
  unfold patternParam
  refine yields_spanned ?_
  refine yields_then fun _ => yields_then fun _ => yields_then fun _ =>
    yields_then fun _ => yields_ite (yields_pure ?_) ?_
  · intro n hkind _ _
    refine paramRead_of_kind (by simp [hkind]) fun h => ?_
    rw [hkind] at h
    exact absurd h (by decide)
  · refine yields_bind yields_type fun t ht => yields_pure ?_
    intro n hkind hchildren _ type htype
    have hchild : n.child? "type" = some (part "type" t) := by
      rw [Node.child?, hchildren]
      exact find?_part (List.forall_mem_nil _)
    rw [typeNode?, if_pos (by simp [hkind]), hchild] at htype
    cases htype
    exact ht.1.part "type"

theorem paramRead_leaf (kind : String) (t : Token) (named : Bool)
    (hkind : kind ≠ "parameter" ∧ kind ≠ "pointer_type") :
    ParamRead all (leaf kind t named) :=
  paramRead_of_kind hkind.1 fun h => absurd h hkind.2

theorem yields_attempt {α : Type} {p : Parser α} {post : α → Prop} (h : Yields all p post) :
    Yields all (attempt p) fun found => ∀ a, found = some a → post a := by
  intro c c' found hc hfound a ha
  rw [ha] at hfound
  unfold attempt at hfound
  split at hfound
  · next hp =>
      cases hfound
      exact h _ _ _ hc hp
  · cases hfound

theorem yields_bareParam : Yields all bareParam (ParamRead all) := by
  unfold bareParam
  refine yields_bind (yields_attempt yields_receiver) fun found hfound => ?_
  cases found with
  | some node => exact yields_pure (hfound node rfl)
  | none =>
      refine yields_then fun t => yields_ite ?_ ?_
      · exact yields_then fun dots => yields_pure (paramRead_leaf _ dots true (by simp))
      refine yields_then fun rest => yields_ite yields_patternParam ?_
      refine yields_ite yields_refuse (yields_ite ?_ ?_)
      · exact yields_then fun blank => yields_pure (paramRead_leaf _ blank false (by simp))
      · intro c c' n hc hn
        obtain ⟨hread, hkind⟩ := yields_type c c' n hc hn
        refine paramRead_of_kind (fun h => ?_) hread
        rw [h] at hkind
        exact absurd hkind (by decide)

theorem yields_param : Yields all param (ParamRead all) := by
  unfold param
  dsimp only
  exact yields_then fun marked =>
    yields_ite (yields_then fun _ => yields_bareParam) yields_bareParam

theorem yields_params : Yields all params fun n => ∀ p ∈ n.children, ParamRead all p := by
  unfold params
  refine yields_spanned (yields_then fun _ => yields_then fun comma => yields_ite ?_ ?_)
  · refine yields_then fun _ => yields_pure ?_
    intro n _ hchildren _
    rw [hchildren]
    exact List.forall_mem_nil _
  · refine yields_then fun k => yields_bind (yields_listUntil yields_param k) ?_
    intro found hfound
    refine yields_pure fun n _ hchildren _ => ?_
    rw [hchildren]
    exact hfound

/-! ## Functions -/

/-- A function whose raw pointers are as they were read. -/
structure FunctionRead (all : List Token) (n : Node) : Prop where
  params : ∀ list, n.child? "parameters" = some list →
    ∀ p ∈ list.children, ParamRead all p
  ret : ∀ t, n.child? "return_type" = some t → PointerRead all t

theorem yields_result :
    Yields all result fun ret => ret = [] ∨
      ∃ t, PointerRead all t ∧ ret = [part "return_type" t] := by
  unfold result
  refine yields_then fun arrow => yields_ite ?_ (yields_pure (.inl rfl))
  exact yields_bind yields_type fun t ht => yields_pure (.inr ⟨t, ht.1, rfl⟩)

theorem yields_modifiers : Yields all modifiers fun mods => ∀ m ∈ mods, m.field = none := by
  unfold modifiers
  refine yields_then fun found => yields_ite ?_ (yields_pure (List.forall_mem_nil _))
  have hone : Yields all (spanned (fuel >>= fun k => manyWhile isModifier modifier k >>=
      fun found => pure ("function_modifiers", found))) fun m => m.field = none := by
    refine yields_spanned (yields_then fun _ => yields_then fun _ => yields_pure ?_)
    exact fun _ _ _ hfield => hfield
  exact yields_bind hone fun m hm => yields_pure (List.forall_mem_singleton.mpr hm)

/-- The children of a function: the parameters, the result after them, and in front
of them parts of other sorts. -/
inductive FunctionParts (all : List Token) : List Node → Prop
  | intro (front : List Node) (list : Node) (ret : List Node)
      (hfront : ∀ s ∈ front, s.field ≠ some "parameters" ∧ s.field ≠ some "return_type")
      (hlist : ∀ p ∈ list.children, ParamRead all p)
      (hret : ret = [] ∨ ∃ t, PointerRead all t ∧ ret = [part "return_type" t]) :
      FunctionParts all (front ++ part "parameters" list :: ret)

theorem FunctionParts.behind {children vis : List Node} (h : FunctionParts all children)
    (hvis : ∀ v ∈ vis, v.field = none) : FunctionParts all (vis ++ children) := by
  obtain ⟨front, list, ret, hfront, hlist, hret⟩ := h
  rw [← List.append_assoc]
  refine ⟨vis ++ front, list, ret, fun s hs => ?_, hlist, hret⟩
  rcases List.mem_append.mp hs with hs | hs
  · simp [hvis s hs]
  · exact hfront s hs

theorem FunctionParts.read {n : Node} (h : FunctionParts all n.children) :
    FunctionRead all n := by
  generalize hchildren : n.children = children at h
  obtain ⟨front, list, ret, hfront, hlist, hret⟩ := h
  refine ⟨fun found hfound => ?_, fun found hfound => ?_⟩
  · rw [Node.child?, hchildren, find?_part fun s hs => (hfront s hs).1] at hfound
    cases hfound
    exact hlist
  · have hbefore : (front ++ [part "parameters" list]).find?
        (·.field == some "return_type") = none := by
      refine List.find?_eq_none.mpr fun s hs => ?_
      rcases List.mem_append.mp hs with hs | hs
      · simpa using (hfront s hs).2
      · rw [List.mem_singleton.mp hs]
        simp [part]
    rw [Node.child?, hchildren, List.append_cons, List.find?_append, hbefore,
      Option.none_or] at hfound
    rcases hret with hnil | ⟨t, ht, hone⟩
    · rw [hnil] at hfound
      cases hfound
    · rw [hone] at hfound
      cases hfound
      exact ht.part "return_type"

theorem yields_function : Yields all function fun r => FunctionParts all r.2 := by
  unfold function
  dsimp only
  have hclose (children : List Node) (h : FunctionParts all children) :
      Yields all (acceptMark ";" >>= fun semicolon =>
        if semicolon then pure ("function_signature_item", children)
        else group "\x7b" >>= fun _ => pure ("function_item", children))
        fun r => FunctionParts all r.2 :=
    yields_then fun _ => yields_ite (yields_pure h) (yields_then fun _ => yields_pure h)
  refine yields_bind yields_modifiers fun mods hmods => yields_then fun _ =>
    yields_then fun name => yields_then fun angle => ?_
  have hsome (list : Node) : Yields all (pure [part "type_parameters" list])
      fun generics => ∀ g ∈ generics, g.field = some "type_parameters" :=
    yields_pure (List.forall_mem_singleton.mpr rfl)
  have hnone : Yields all (pure [])
      fun generics : List Node => ∀ g ∈ generics, g.field = some "type_parameters" :=
    yields_pure (List.forall_mem_nil _)
  refine yields_ite (yields_then fun list => yields_bind (hsome list) ?_)
    (yields_bind hnone ?_)
  all_goals
    intro generics hgenerics
    refine yields_bind yields_params fun list hlist => yields_bind yields_result
      fun ret hret => ?_
    have hparts := FunctionParts.intro
      (mods ++ part "name" (leaf "identifier" name true) :: generics) list ret (by
        intro s hs
        rcases List.mem_append.mp hs with hs | hs
        · simp [hmods s hs]
        rcases List.mem_cons.mp hs with hs | hs
        · simp [hs, part]
        · simp [hgenerics s hs]) hlist hret
    exact yields_then fun _ => yields_ite (yields_then fun _ => yields_then fun _ =>
      hclose _ hparts) (hclose _ hparts)

/-! ## Items -/

theorem yields_visibility : Yields all visibility fun v => v.field = none := by
  unfold visibility
  dsimp only
  have hend : Yields all (pure ("visibility_modifier", []) : Parser (String × List Node))
      fun r => ∀ n : Node, n.kind = r.1 → n.children = r.2 → n.field = none →
        n.field = none :=
    yields_pure fun _ _ _ hfield => hfield
  refine yields_spanned (yields_then fun _ => yields_then fun _ => ?_)
  exact yields_ite (yields_then fun _ => hend) hend

theorem yields_declaration :
    Yields all declaration fun n => n.kind = "function_item" → FunctionRead all n := by
  unfold declaration
  dsimp only
  refine yields_spanned (yields_then fun ts => ?_)
  have hsome (v : Node) (hv : v.field = none) :
      Yields all (pure [v]) fun vis => ∀ v ∈ vis, v.field = none :=
    yields_pure (List.forall_mem_singleton.mpr hv)
  have hnone : Yields all (pure []) fun vis : List Node => ∀ v ∈ vis, v.field = none :=
    yields_pure (List.forall_mem_nil _)
  refine yields_ite (yields_bind yields_visibility fun v hv => yields_bind (hsome v hv) ?_)
    (yields_bind hnone ?_)
  all_goals
    intro vis hvis
    refine yields_then fun _ => yields_ite ?_ ?_
    · refine yields_bind yields_function fun r hr => yields_pure ?_
      intro n _ hchildren _ _
      refine FunctionParts.read ?_
      rw [hchildren]
      exact hr.behind hvis
    · refine yields_then fun _ => yields_pure ?_
      intro n hkind _ _ hfunction
      rw [hkind] at hfunction
      exact absurd hfunction (by simp)

theorem yields_item :
    Yields all item fun n => n.kind = "function_item" → FunctionRead all n := by
  have hother {p : Parser (String × List Node)}
      (h : Yields all p fun r => r.1 ≠ "function_item") :
      Yields all (spanned p) fun n => n.kind = "function_item" → FunctionRead all n := by
    refine yields_spanned fun c c' r hc hr n hkind _ _ hfunction => ?_
    exact absurd (hkind.symm.trans hfunction) (h c c' r hc hr)
  unfold item
  refine yields_then fun t => yields_ite ?_ (yields_ite ?_ (yields_ite ?_ ?_))
  · unfold attributeItem
    refine hother ?_
    refine yields_then fun _ => yields_then fun inner => yields_then fun _ =>
      yields_then fun _ => yields_then fun _ => yields_then fun _ => yields_then fun _ =>
      yields_then fun _ => yields_then fun _ => yields_pure ?_
    cases inner <;> simp
  · refine yields_then fun semicolon => yields_pure fun h => ?_
    exact absurd h (by simp [leaf])
  · unfold block
    refine hother (yields_then fun _ => yields_ite ?_ ?_)
    · intro c c' r _ hr
      obtain ⟨_, _, -, hr⟩ := run_bind_eq_ok.mp hr
      cases hr
    · exact yields_then fun _ => yields_pure (by simp)
  · exact yields_ite yields_declaration yields_refuse

theorem items_functionRead {k : Nat} {c : Cursor} (hc : c.tokens <:+ all) :
    ∀ n ∈ items k c, n.kind = "function_item" → FunctionRead all n := by
  induction k generalizing c with
  | zero =>
      intro n hn
      cases hn
  | succ k ih =>
      intro n hn hkind
      unfold items at hn
      split at hn
      · cases hn
      · next first rest htokens =>
          split at hn
          · next node after hitem =>
              rcases List.mem_cons.mp hn with hn | hn
              · rw [hn] at hkind ⊢
                exact yields_item _ _ _ hc hitem hkind
              · obtain ⟨taken, htaken⟩ := Takes.moves hitem
                exact ih (htaken.suffix hc) n hn hkind
          · next refusal hitem =>
              rw [List.mem_singleton.mp hn] at hkind
              exact absurd hkind (by simp [errorNode])

end Parser

/-- In the tree of a source, the types of a function are as they were read. -/
theorem parseText_functionRead {source : List Char} {n : Node}
    (hn : n ∈ (parseText source).children) (hfunction : isFunction n = true) :
    Parser.FunctionRead (tokens source) n :=
  Parser.items_functionRead (List.suffix_refl _) n hn (beq_iff_eq.mp hfunction)

end ApiCatalog.Rust
