import ApiCatalog.Proofs.Declarations
import ApiCatalog.Proofs.Readers

/-!
# Pointers in a parsed source

A raw pointer type is a star, a qualifier and the type it points to. If that type
is the name of a number, it is one word, so the pointer is three tokens in a row:
the node reaches from the star to the word, and the inner node is the word. Here
the readers of types, parameters and functions are followed as far as this needs:
every pointer among the types of a function was read at some place of the tokens.
-/

namespace ApiCatalog.Rust.Parser

open Extraction (nameKinds NamesNumber typeNode?)

variable {all : List Token}

theorem run_ite_eq_ok {α : Type} {b : Bool} {p q : Parser α} {c c' : Cursor} {a : α} :
    (if b then p else q) c = .ok (a, c') ↔
      (b = true ∧ p c = .ok (a, c')) ∨ (b = false ∧ q c = .ok (a, c')) := by
  cases b <;> simp

/-! ## Kinds of types -/

/-- The kinds of types that are neither names nor raw pointers. -/
def otherKinds : List String :=
  ["reference_type", "array_type", "unit_type", "tuple_type", "never_type",
    "function_type", "trait_type", "generic_type", "macro_invocation"]

theorem nameKind_mem (inPath : Bool) (name : String) : nameKind inPath name ∈ nameKinds := by
  unfold nameKind
  split
  · decide
  split <;> decide

theorem satisfy_eq_ok {test : Token → Bool} {c c' : Cursor} {t : Token}
    (h : satisfy test c = .ok (t, c')) : test t = true ∧ Moves c [t] c' := by
  obtain ⟨tokens, stop⟩ := c
  unfold satisfy at h
  obtain ⟨u, mid, hpeek, h⟩ := run_bind_eq_ok.mp h
  cases tokens with
  | nil => cases hpeek
  | cons v rest =>
      cases hpeek
      split at h
      · next htest =>
          cases h
          exact ⟨htest, .next _ _ stop⟩
      · cases h

theorem at?_eq_ok {test : Token → Bool} {c c' : Cursor} {b : Bool}
    (h : at? test c = .ok (b, c')) :
    c' = c ∧ b = (c.tokens.head?.map test).getD false := by
  cases h
  exact ⟨rfl, rfl⟩

theorem accept_eq_ok {test : Token → Bool} {c c' : Cursor} {b : Bool}
    (h : accept test c = .ok (b, c')) :
    (b = true ∧ ∃ t, test t = true ∧ Moves c [t] c') ∨ (b = false ∧ c' = c) := by
  obtain ⟨tokens, stop⟩ := c
  unfold accept at h
  obtain ⟨found, mid, hat, h⟩ := run_bind_eq_ok.mp h
  obtain ⟨rfl, rfl⟩ := at?_eq_ok hat
  split at h
  · next hfound =>
      obtain ⟨t, mid, hnext, h⟩ := run_bind_eq_ok.mp h
      obtain ⟨rfl, rfl⟩ := run_pure_eq_ok.mp h
      cases tokens with
      | nil => cases hnext
      | cons u rest =>
          cases hnext
          exact .inl ⟨rfl, _, hfound, .next _ _ stop⟩
  · obtain ⟨rfl, rfl⟩ := run_pure_eq_ok.mp h
    exact .inr ⟨rfl, rfl⟩

/-- A choice by a token that is taken if it is there. -/
theorem run_accept {α : Type} {test : Token → Bool} {p q : Parser α} {c c' : Cursor}
    {a : α} (h : (accept test >>= fun b => if b then p else q) c = .ok (a, c')) :
    (∃ t mid, test t = true ∧ Moves c [t] mid ∧ p mid = .ok (a, c')) ∨
      q c = .ok (a, c') := by
  obtain ⟨b, mid, haccept, h⟩ := run_bind_eq_ok.mp h
  rcases accept_eq_ok haccept with ⟨hb, t, ht, hmoves⟩ | ⟨hb, hmid⟩
  · rw [hb] at h
    exact .inl ⟨t, mid, ht, hmoves, h⟩
  · rw [hb, hmid] at h
    exact .inr h

/-- A choice by the token in front. -/
theorem run_at? {α : Type} {test : Token → Bool} {p q : Parser α} {c c' : Cursor}
    {a : α} (h : (at? test >>= fun b => if b then p else q) c = .ok (a, c')) :
    p c = .ok (a, c') ∨ q c = .ok (a, c') := by
  obtain ⟨b, mid, hat, h⟩ := run_bind_eq_ok.mp h
  obtain ⟨hmid, -⟩ := at?_eq_ok hat
  rw [hmid] at h
  cases b with
  | true => exact .inl h
  | false => exact .inr h

/-! ## Names -/

/-- What a name of a type takes: one word, or a path with two colons in it. -/
def TakesName (c c' : Cursor) : Prop :=
  (∃ w, w.kind = .word ∧ Moves c [w] c') ∨
    ∃ taken, Moves c taken c' ∧ ∃ t ∈ taken, t.isMark "::" = true

theorem takesName_of_colons {c first second c' : Cursor} {front : List Token} {t : Token}
    (hfront : Moves c front first) (ht : t.isMark "::" = true)
    (hcolons : Moves first [t] second) {α : Type} {p : Parser α} [Takes p] {a : α}
    (hp : p second = .ok (a, c')) : TakesName c c' := by
  obtain ⟨back, hback⟩ := Takes.moves hp
  exact .inr ⟨_, (hfront.trans hcolons).trans hback, t, by simp, ht⟩

theorem pathNames_takesName {type : Parser Node} [Takes type] {n : Nat} {inPath : Bool}
    {c c' : Cursor} {kind : String} (h : pathNames type n inPath c = .ok (kind, c'))
    (hkind : kind ∈ nameKinds) : TakesName c c' := by
  cases n with
  | zero => cases h
  | succ n =>
      have hnone (other : String) (hother : other ∉ nameKinds) {mid : Cursor}
          (h : (pure other : Parser String) mid = .ok (kind, c')) : TakesName c c' := by
        obtain ⟨rfl, -⟩ := run_pure_eq_ok.mp h
        exact absurd hkind hother
      unfold pathNames at h
      obtain ⟨w, afterWord, hword, h⟩ := run_bind_eq_ok.mp h
      obtain ⟨hw, hmoves⟩ := satisfy_eq_ok hword
      rcases run_at? h with h | h
      · obtain ⟨_, afterAngles, hangles, h⟩ := run_bind_eq_ok.mp h
        obtain ⟨taken, htaken⟩ := Takes.moves hangles
        rcases run_accept h with ⟨t, next, ht, hcolons, h⟩ | h
        · exact takesName_of_colons (hmoves.trans htaken) ht hcolons h
        · exact hnone "generic_type" (by decide) h
      rcases run_accept h with ⟨t, next, ht, hcolons, h⟩ | h
      · exact takesName_of_colons hmoves ht hcolons h
      rcases run_accept h with ⟨t, next, -, -, h⟩ | h
      · obtain ⟨_, mid, -, h⟩ := run_bind_eq_ok.mp h
        exact hnone "macro_invocation" (by decide) h
      rcases run_at? h with h | h
      · obtain ⟨_, mid, -, h⟩ := run_bind_eq_ok.mp h
        obtain ⟨_, mid, -, h⟩ := run_bind_eq_ok.mp h
        exact hnone "function_type" (by decide) h
      rcases run_ite_eq_ok.mp h with ⟨-, h⟩ | ⟨-, h⟩
      · cases h
      · obtain ⟨-, rfl⟩ := run_pure_eq_ok.mp h
        exact .inl ⟨w, beq_iff_eq.mp hw, hmoves⟩

theorem path_takesName {type : Parser Node} [Takes type] {c c' : Cursor} {kind : String}
    (h : path type c = .ok (kind, c')) (hkind : kind ∈ nameKinds) : TakesName c c' := by
  unfold path at h
  rcases run_accept h with ⟨t, mid, ht, hcolons, h⟩ | h
  · exact takesName_of_colons (.refl c) ht hcolons h
  rcases run_at? h with h | h
  · obtain ⟨_, afterAngles, hangles, h⟩ := run_bind_eq_ok.mp h
    obtain ⟨taken, htaken⟩ := Takes.moves hangles
    obtain ⟨t, next, hmark, h⟩ := run_bind_eq_ok.mp h
    obtain ⟨ht, hcolons⟩ := satisfy_eq_ok hmark
    exact takesName_of_colons htaken ht hcolons h
  · obtain ⟨n, mid, hfuel, h⟩ := run_bind_eq_ok.mp h
    cases hfuel
    exact pathNames_takesName h hkind

/-! ## Types -/

theorem yields_pathNames {type : Parser Node} [Takes type] (n : Nat) (inPath : Bool) :
    Yields all (pathNames type n inPath) (· ∈ nameKinds ++ otherKinds) := by
  induction n generalizing inPath with
  | zero =>
      unfold pathNames
      exact yields_refuse
  | succ n ih =>
      unfold pathNames
      refine yields_then fun name => yields_then fun arguments => yields_ite ?_ ?_
      · exact yields_then fun _ => yields_then fun more =>
          yields_ite (ih true) (yields_pure (by decide))
      refine yields_then fun more => yields_ite ?_ ?_
      · exact yields_then fun arguments => yields_ite
          (yields_then fun _ => yields_then fun _ => ih true) (ih true)
      refine yields_then fun bang => yields_ite ?_ ?_
      · exact yields_then fun _ => yields_pure (by decide)
      refine yields_then fun parens => yields_ite ?_ ?_
      · exact yields_then fun _ => yields_then fun _ => yields_pure (by decide)
      refine yields_ite yields_refuse (yields_pure ?_)
      exact List.mem_append_left _ (nameKind_mem inPath name.text)

theorem yields_path {type : Parser Node} [Takes type] :
    Yields all (path type) (· ∈ nameKinds ++ otherKinds) := by
  unfold path
  refine yields_then fun colons => yields_ite ?_ (yields_then fun angle => yields_ite ?_ ?_)
  · exact yields_then fun n => yields_pathNames n true
  · exact yields_then fun _ => yields_then fun _ => yields_then fun n =>
      yields_pathNames n true
  · exact yields_then fun n => yields_pathNames n false

theorem yields_referenceType {type : Parser Node} [Takes type] :
    Yields all (referenceType type) (·.1 ∈ otherKinds) := by
  unfold referenceType
  exact yields_then fun _ => yields_then fun _ => yields_then fun _ =>
    yields_then fun _ => yields_pure (by simp [otherKinds])

theorem yields_arrayType {type : Parser Node} [Takes type] :
    Yields all (arrayType type) (·.1 ∈ otherKinds) := by
  unfold arrayType
  dsimp only
  have hend (children : List Node) :
      Yields all (mark "]" >>= fun _ => pure ("array_type", children))
        (·.1 ∈ otherKinds) :=
    yields_then fun _ => yields_pure (by simp [otherKinds])
  refine yields_then fun _ => yields_then fun _ => yields_then fun _ => yields_ite ?_ ?_
  · exact yields_then fun _ => yields_then fun _ => hend _
  · exact yields_then fun _ => hend _

theorem yields_tupleType {type : Parser Node} [Takes type] :
    Yields all (tupleType type) (·.1 ∈ otherKinds) := by
  unfold tupleType
  refine yields_then fun _ => yields_then fun _ => yields_ite ?_ ?_
  · exact yields_pure (by simp [otherKinds])
  · exact yields_then fun _ => yields_then fun _ => yields_pure (by simp [otherKinds])

theorem yields_functionType {type : Parser Node} [Takes type] :
    Yields all (functionType type) (·.1 ∈ otherKinds) := by
  unfold functionType
  exact yields_then fun _ => yields_then fun _ => yields_then fun _ =>
    yields_then fun _ => yields_then fun _ => yields_pure (by simp [otherKinds])

/-- What a type was read as: a raw pointer after a star, a path, or a type of
another kind. -/
theorem simpleType_cases {n : Nat} {c c' : Cursor} {m : Node}
    (h : simpleType (n + 1) c = .ok (m, c')) :
    ∃ t rest, c.tokens = t :: rest ∧
      m = { kind := m.kind, start := t.start, stop := c'.stop, row := t.row,
            children := m.children } ∧
      (pointerType (simpleType n) c = .ok ((m.kind, m.children), c') ∨
        (path (simpleType n) c = .ok (m.kind, c') ∧ m.children = []) ∨
        m.kind ∈ otherKinds) := by
  unfold simpleType at h
  obtain ⟨t, rest, htokens, h, hnode⟩ := spanned_eq_ok h
  refine ⟨t, rest, htokens, hnode, ?_⟩
  obtain ⟨u, mid, hpeek, h⟩ := run_bind_eq_ok.mp h
  have hmid : mid = c := by
    obtain ⟨tokens, stop⟩ := c
    cases htokens
    cases hpeek
    rfl
  rw [hmid] at h
  have hother {p : Parser (String × List Node)}
      (hp : Yields c.tokens p (·.1 ∈ otherKinds))
      (h : p c = .ok ((m.kind, m.children), c')) : m.kind ∈ otherKinds :=
    hp c c' _ (List.suffix_refl _) h
  rcases run_ite_eq_ok.mp h with ⟨-, h⟩ | ⟨-, h⟩
  · exact .inl h
  refine .inr ?_
  rcases run_ite_eq_ok.mp h with ⟨-, h⟩ | ⟨-, h⟩
  · exact .inr (hother yields_referenceType h)
  rcases run_ite_eq_ok.mp h with ⟨-, h⟩ | ⟨-, h⟩
  · exact .inr (hother yields_arrayType h)
  rcases run_ite_eq_ok.mp h with ⟨-, h⟩ | ⟨-, h⟩
  · exact .inr (hother yields_tupleType h)
  rcases run_ite_eq_ok.mp h with ⟨-, h⟩ | ⟨-, h⟩
  · exact .inr (hother (yields_then fun _ => yields_pure (by simp [otherKinds])) h)
  rcases run_ite_eq_ok.mp h with ⟨-, h⟩ | ⟨-, h⟩
  · exact .inr (hother yields_functionType h)
  rcases run_ite_eq_ok.mp h with ⟨-, h⟩ | ⟨-, h⟩
  · exact .inr (hother (yields_then fun _ => yields_then fun _ => yields_then fun _ =>
      yields_pure (by simp [otherKinds])) h)
  rcases run_ite_eq_ok.mp h with ⟨-, h⟩ | ⟨-, h⟩
  · exact .inr (hother (yields_then fun _ => yields_then fun _ =>
      yields_pure (by simp [otherKinds])) h)
  · obtain ⟨kind, next, hpath, h⟩ := run_bind_eq_ok.mp h
    obtain ⟨hkind, rfl⟩ := run_pure_eq_ok.mp h
    rw [Prod.mk.injEq] at hkind
    rw [← hkind.1]
    exact .inl ⟨hpath, hkind.2.symm⟩

/-! ## Pointers -/

theorem mutability_eq_ok {c c' : Cursor} {found : List Node}
    (h : mutability c = .ok (found, c')) :
    (∃ t, t.isWord "mut" = true ∧ Moves c [t] c' ∧
      found = [leaf "mutable_specifier" t true]) ∨ (found = [] ∧ c' = c) := by
  unfold mutability at h
  obtain ⟨b, mid, hat, h⟩ := run_bind_eq_ok.mp h
  obtain ⟨rfl, rfl⟩ := at?_eq_ok hat
  rcases run_ite_eq_ok.mp h with ⟨htrue, h⟩ | ⟨-, h⟩
  · obtain ⟨t, next, hnext, h⟩ := run_bind_eq_ok.mp h
    obtain ⟨rfl, rfl⟩ := run_pure_eq_ok.mp h
    obtain ⟨tokens, stop⟩ := mid
    cases tokens with
    | nil => cases hnext
    | cons u rest =>
        cases hnext
        exact .inl ⟨_, htrue, .next _ _ stop, rfl⟩
  · obtain ⟨rfl, rfl⟩ := run_pure_eq_ok.mp h
    exact .inr ⟨rfl, rfl⟩

theorem pointerType_eq_ok {type : Parser Node} {c c' : Cursor} {kind : String}
    {children : List Node} (h : pointerType type c = .ok ((kind, children), c')) :
    ∃ star q mid pointee specifier, star.isMark "*" = true ∧
      (q.isWord "mut" = true ∨ q.isWord "const" = true) ∧ Moves c [star, q] mid ∧
      type mid = .ok (pointee, c') ∧ kind = "pointer_type" ∧
      children = specifier ++ [part "type" pointee] ∧
      ∀ s ∈ specifier, s.field = none := by
  unfold pointerType at h
  dsimp only at h
  obtain ⟨star, afterStar, hstar, h⟩ := run_bind_eq_ok.mp h
  obtain ⟨hstar, hmoves⟩ := satisfy_eq_ok hstar
  obtain ⟨specifier, afterSpecifier, hspecifier, h⟩ := run_bind_eq_ok.mp h
  have hend {mid : Cursor}
      (h : (type >>= fun pointee =>
        pure ("pointer_type", specifier ++ [part "type" pointee])) mid =
          .ok ((kind, children), c')) :
      ∃ pointee, type mid = .ok (pointee, c') ∧ kind = "pointer_type" ∧
        children = specifier ++ [part "type" pointee] := by
    obtain ⟨pointee, last, hpointee, h⟩ := run_bind_eq_ok.mp h
    obtain ⟨hpair, rfl⟩ := run_pure_eq_ok.mp h
    rw [Prod.mk.injEq] at hpair
    exact ⟨pointee, hpointee, hpair.1.symm, hpair.2.symm⟩
  rcases mutability_eq_ok hspecifier with ⟨q, hq, hqmoves, hfound⟩ | ⟨hfound, hsame⟩
  · rcases run_ite_eq_ok.mp h with ⟨hempty, h⟩ | ⟨-, h⟩
    · rw [hfound] at hempty
      cases hempty
    · obtain ⟨pointee, hpointee, hkind, hchildren⟩ := hend h
      refine ⟨star, q, _, pointee, specifier, hstar, .inl hq, hmoves.trans hqmoves,
        hpointee, hkind, hchildren, ?_⟩
      rw [hfound]
      exact List.forall_mem_singleton.mpr rfl
  · rcases run_ite_eq_ok.mp h with ⟨-, h⟩ | ⟨hnonempty, h⟩
    · obtain ⟨q, next, hq, h⟩ := run_bind_eq_ok.mp h
      obtain ⟨hq, hqmoves⟩ := satisfy_eq_ok hq
      obtain ⟨pointee, hpointee, hkind, hchildren⟩ := hend h
      rw [hsame] at hqmoves
      refine ⟨star, q, _, pointee, specifier, hstar, .inr hq, hmoves.trans hqmoves,
        hpointee, hkind, hchildren, ?_⟩
      rw [hfound]
      exact List.forall_mem_nil _
    · rw [hfound] at hnonempty
      cases hnonempty

/-- A type that was read at some place of the tokens, whatever part it plays. -/
def ReadAt (all : List Token) (n : Node) : Prop :=
  ∃ k c c' m, c.tokens <:+ all ∧ simpleType k c = .ok (m, c') ∧
    n = { m with field := n.field }

theorem simpleType_pointer {k : Nat} {c c' : Cursor} {m : Node}
    (h : simpleType k c = .ok (m, c')) (hkind : m.kind = "pointer_type") :
    ∃ n star q mid pointee specifier, star.isMark "*" = true ∧
      (q.isWord "mut" = true ∨ q.isWord "const" = true) ∧ Moves c [star, q] mid ∧
      simpleType n mid = .ok (pointee, c') ∧ m.start = star.start ∧ m.stop = c'.stop ∧
      m.children = specifier ++ [part "type" pointee] ∧
      ∀ s ∈ specifier, s.field = none := by
  cases k with
  | zero => cases h
  | succ k =>
      obtain ⟨t, rest, htokens, hnode, hpointer | ⟨hpath, -⟩ | hother⟩ := simpleType_cases h
      · obtain ⟨star, q, mid, pointee, specifier, hstar, hq, hmoves, hpointee, -, hchildren,
          hfields⟩ := pointerType_eq_ok hpointer
        have hfirst : t = star := by
          have hc := hmoves.tokens
          rw [htokens] at hc
          exact (List.cons.inj hc).1
        refine ⟨k, star, q, mid, pointee, specifier, hstar, hq, hmoves, hpointee, ?_, ?_,
          hchildren, hfields⟩
        · rw [hnode, hfirst]
        · rw [hnode]
      · have hmem := yields_path _ _ _ (List.suffix_refl c.tokens) hpath
        rw [hkind] at hmem
        exact absurd hmem (by decide)
      · rw [hkind] at hother
        exact absurd hother (by decide)

theorem simpleType_name {k : Nat} {c c' : Cursor} {m : Node}
    (h : simpleType k c = .ok (m, c')) (hkind : m.kind ∈ nameKinds) :
    TakesName c c' ∧ m.stop = c'.stop ∧ ∃ t rest, c.tokens = t :: rest ∧ m.start = t.start := by
  have hdisjoint : ∀ kind ∈ nameKinds, kind ≠ "pointer_type" ∧ kind ∉ otherKinds := by
    decide
  cases k with
  | zero => cases h
  | succ k =>
      obtain ⟨t, rest, htokens, hnode, hpointer | ⟨hpath, -⟩ | hother⟩ := simpleType_cases h
      · obtain ⟨_, _, _, _, _, -, -, -, -, hpointer, -⟩ := pointerType_eq_ok hpointer
        exact absurd hpointer (hdisjoint _ hkind).1
      · refine ⟨path_takesName hpath hkind, ?_, t, rest, htokens, ?_⟩
        · rw [hnode]
        · rw [hnode]
      · exact absurd hother (hdisjoint _ hkind).2

theorem find?_part {front back : List Node} {field : String} {n : Node}
    (h : ∀ s ∈ front, s.field ≠ some field) :
    (front ++ part field n :: back).find? (·.field == some field) =
      some (part field n) := by
  have hfront : front.find? (·.field == some field) = none :=
    List.find?_eq_none.mpr fun s hs => by simpa using h s hs
  rw [List.find?_append, hfront, Option.none_or]
  exact List.find?_cons_of_pos (beq_self_eq_true (some field))

/-- No number is spelled with a colon. -/
theorem colon_not_mem_numeric :
    ∀ name ∈ TypeExpr.numericNames, ':' ∉ name.toList := by
  decide

/-- A path with colons in it has no number's text. -/
theorem not_numeric_of_colons {bytes : List UInt8} {source : List Char}
    (hsource : Text.Utf8.decode bytes = .ok source) {c c' : Cursor} {n : Node}
    {t u : Token} {rest taken : List Token} (hc : c.tokens <:+ tokens source)
    (htokens : c.tokens = t :: rest) (htaken : Moves c taken c') (hu : u ∈ taken)
    (hcolons : u.isMark "::" = true) (hstart : n.start = t.start)
    (hstop : n.stop = c'.stop) {name : String} (hname : n.text bytes = .ok name) :
    name ∉ TypeExpr.numericNames := by
  intro hnumber
  cases taken with
  | nil => cases hu
  | cons first more =>
      have hrun : first :: more <:+: tokens source := by
        rw [htaken.tokens] at hc
        exact (List.prefix_append _ _).isInfix.trans hc.isInfix
      obtain ⟨raw, hraw, hbytes⟩ := bytes_of_tokens hsource hrun
      have hfirst : t = first := by
        rw [htaken.tokens] at htokens
        exact (List.cons.inj htokens).1.symm
      have htext := text_of_bytes (hbytes n (hfirst ▸ hstart) (by
        rw [hstop, htaken.stop, List.getLast?_eq_getLast_of_ne_nil (List.cons_ne_nil _ _)]
        rfl))
      have hcolonText : u.text = "::" := by
        simp only [Token.isMark, Bool.and_eq_true, beq_iff_eq] at hcolons
        exact hcolons.2
      refine colon_not_mem_numeric name hnumber ?_
      rw [← Except.ok.inj (htext.symm.trans hname)]
      refine Text.mem_collapse (hraw.mem hu ?_) (by decide)
      rw [hcolonText]
      decide

/-- A pointer to a number is three tokens in a row. -/
theorem ReadAt.pointer_tokens {bytes : List UInt8} {source : List Char}
    (hsource : Text.Utf8.decode bytes = .ok source) {n inner : Node}
    (hread : ReadAt (tokens source) n) (hkind : n.kind = "pointer_type")
    (hinner : n.child? "type" = some inner) (hname : NamesNumber bytes inner) :
    ∃ star q w, [star, q, w] <:+: tokens source ∧ star.isMark "*" = true ∧
      (q.isWord "mut" = true ∨ q.isWord "const" = true) ∧ w.kind = .word ∧
      n.start = star.start ∧ n.stop = w.stop ∧
      inner.start = w.start ∧ inner.stop = w.stop := by
  obtain ⟨k, c, c', m, hc, hm, hnode⟩ := hread
  rw [hnode] at hkind hinner ⊢
  obtain ⟨k', star, q, mid, pointee, specifier, hstar, hq, hmoves, hpointee, hstart, hstop,
    hchildren, hfields⟩ := simpleType_pointer hm hkind
  have hpart : inner = part "type" pointee := by
    have hfound : m.children.find? (·.field == some "type") = some (part "type" pointee) := by
      rw [hchildren]
      exact find?_part fun s hs => by simp [hfields s hs]
    exact Option.some.inj (hinner.symm.trans hfound)
  subst hpart
  obtain ⟨hpkind, name, hnumber, hname⟩ := hname
  obtain ⟨htakes, hpstop, t, rest, hmid, hpstart⟩ := simpleType_name hpointee hpkind
  rcases htakes with ⟨w, hw, hword⟩ | ⟨taken, htaken, u, hu, hcolons⟩
  · have htokens : c.tokens = [star, q, w] ++ c'.tokens := by
      rw [hmoves.tokens, hword.tokens]
      rfl
    have hlast : c'.stop = w.stop := hword.stop
    have hfirst : t = w := by
      have := hword.tokens
      rw [hmid] at this
      exact (List.cons.inj this).1
    refine ⟨star, q, w, ?_, hstar, hq, hw, hstart, hstop.trans hlast, ?_,
      hpstop.trans hlast⟩
    · rw [htokens] at hc
      exact (List.prefix_append _ _).isInfix.trans hc.isInfix
    · rw [← hfirst]
      exact hpstart
  · exact absurd hnumber (not_numeric_of_colons hsource (hmoves.suffix hc) hmid htaken hu
      hcolons hpstart hpstop hname)

end ApiCatalog.Rust.Parser
