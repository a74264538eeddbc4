import ApiCatalog.Proofs.Runs
import ApiCatalog.Proofs.TokenSpans

/-!
# What readers take and give

A reader takes tokens from the front and nothing else, so every cursor that turns
up while a source is read stands at an end of its tokens. `Takes` says this of
one reader. It is a class because the statement follows the bodies: a sequence
takes what its parts take, a choice what its branches take, and the search for an
instance walks through a body by itself. Readers that count fuel down need an
induction and nothing more.

What a reader gives is stated with `Yields`, for readers that stand somewhere in a
fixed run of tokens.
-/

namespace ApiCatalog.Rust.Parser

/-- The tokens taken on the way from one cursor to another. -/
structure Moves (c : Cursor) (taken : List Token) (c' : Cursor) : Prop where
  tokens : c.tokens = taken ++ c'.tokens
  stop : c'.stop = (taken.getLast?.map (·.stop)).getD c.stop

theorem Moves.refl (c : Cursor) : Moves c [] c := ⟨rfl, rfl⟩

theorem Moves.trans {a b c : Cursor} {front back : List Token} (h : Moves a front b)
    (h' : Moves b back c) : Moves a (front ++ back) c := by
  refine ⟨by rw [h.tokens, h'.tokens, List.append_assoc], ?_⟩
  rw [h'.stop, h.stop, List.getLast?_append]
  cases back.getLast? <;> rfl

theorem Moves.next (t : Token) (rest : List Token) (stop : Nat) :
    Moves ⟨t :: rest, stop⟩ [t] ⟨rest, t.stop⟩ := ⟨rfl, rfl⟩

/-- A reader that only takes tokens from the front. -/
class Takes {α : Type} (p : Parser α) : Prop where
  moves : ∀ {c c' : Cursor} {a : α}, p c = .ok (a, c') → ∃ taken, Moves c taken c'

variable {α β : Type}

theorem run_bind {p : Parser α} {f : α → Parser β} {c : Cursor} :
    (p >>= f) c = (p c >>= fun r => f r.1 r.2) := rfl

theorem run_bind_eq_ok {p : Parser α} {f : α → Parser β} {c c' : Cursor} {b : β} :
    (p >>= f) c = .ok (b, c') ↔
      ∃ a mid, p c = .ok (a, mid) ∧ f a mid = .ok (b, c') := by
  rw [run_bind, bind_eq_ok]
  simp

theorem run_pure_eq_ok {a b : α} {c c' : Cursor} :
    (pure a : Parser α) c = .ok (b, c') ↔ a = b ∧ c = c' := by
  show Except.ok (a, c) = .ok (b, c') ↔ _
  simp

instance takes_pure (a : α) : Takes (pure a : Parser α) where
  moves h := by
    obtain ⟨rfl, rfl⟩ := run_pure_eq_ok.mp h
    exact ⟨[], .refl _⟩

instance takes_bind (p : Parser α) (f : α → Parser β) [Takes p] [∀ a, Takes (f a)] :
    Takes (p >>= f) where
  moves h := by
    obtain ⟨a, mid, hp, hf⟩ := run_bind_eq_ok.mp h
    obtain ⟨front, hfront⟩ := Takes.moves hp
    obtain ⟨back, hback⟩ := Takes.moves hf
    exact ⟨_, hfront.trans hback⟩

instance takes_ite (b : Prop) [Decidable b] (p q : Parser α) [Takes p] [Takes q] :
    Takes (if b then p else q) := by
  split <;> infer_instance

instance takes_seqRight (p : Parser α) (q : Parser β) [Takes p] [Takes q] :
    Takes (p *> q) :=
  takes_bind p fun _ => q

instance takes_get : Takes (get : Parser Cursor) where
  moves h := by cases h; exact ⟨[], .refl _⟩

instance takes_refuse : Takes (refuse : Parser α) where
  moves h := by cases h

instance takes_ahead : Takes ahead where
  moves h := by cases h; exact ⟨[], .refl _⟩

instance takes_peek : Takes peek where
  moves {c c' a} h := by
    obtain ⟨tokens, stop⟩ := c
    cases tokens with
    | nil => cases h
    | cons t rest => cases h; exact ⟨[], .refl _⟩

instance takes_next : Takes next where
  moves {c c' a} h := by
    obtain ⟨tokens, stop⟩ := c
    cases tokens with
    | nil => cases h
    | cons t rest =>
        cases h
        exact ⟨[_], .next _ _ stop⟩

instance takes_satisfy (test : Token → Bool) : Takes (satisfy test) := by
  unfold satisfy; infer_instance

instance takes_at? (test : Token → Bool) : Takes (at? test) := by
  unfold at?; infer_instance

instance takes_accept (test : Token → Bool) : Takes (accept test) := by
  unfold accept; infer_instance

instance (text : String) : Takes (mark text) := takes_satisfy _
instance (text : String) : Takes (keyword text) := takes_satisfy _
instance : Takes word := takes_satisfy _
instance (text : String) : Takes (atMark text) := takes_at? _
instance (text : String) : Takes (atWord text) := takes_at? _
instance (text : String) : Takes (acceptMark text) := takes_accept _
instance (text : String) : Takes (acceptWord text) := takes_accept _

instance (p : Parser α) [Takes p] : Takes (attempt p) where
  moves {c c' a} h := by
    unfold attempt at h
    split at h
    · next hp => cases h; exact Takes.moves hp
    · cases h; exact ⟨[], .refl _⟩

instance takes_manyWhile (test : Token → Bool) (p : Parser α) [Takes p] (n : Nat) :
    Takes (manyWhile test p n) := by
  induction n with
  | zero => unfold manyWhile; infer_instance
  | succ n ih => unfold manyWhile; infer_instance

instance takes_listUntil (closing : String) (p : Parser α) [Takes p] (n : Nat) :
    Takes (listUntil closing p n) := by
  induction n with
  | zero => unfold listUntil; infer_instance
  | succ n ih => unfold listUntil; infer_instance

instance : Takes fuel := by unfold fuel; infer_instance


/-! ## Groups -/

theorem closeGroups_moves {stack : List String} {ts : List Token} {c' : Cursor}
    (h : closeGroups stack ts = .ok c') (stop : Nat) :
    ∃ taken, Moves ⟨ts, stop⟩ taken c' := by
  induction ts generalizing stack stop with
  | nil => cases h
  | cons t rest ih =>
      have hmore {stack : List String} (h : closeGroups stack rest = .ok c') :
          ∃ taken, Moves ⟨t :: rest, stop⟩ taken c' := by
        obtain ⟨taken, htaken⟩ := ih h t.stop
        exact ⟨_, (Moves.next t rest stop).trans htaken⟩
      unfold closeGroups at h
      split at h
      · cases h
      split at h
      · exact hmore h
      split at h
      · split at h
        · cases h
        · split at h
          · cases h
            exact ⟨_, .next t rest stop⟩
          · cases h
        · split at h
          · exact hmore h
          · cases h
      · exact hmore h

instance takes_group (opening : String) : Takes (group opening) where
  moves {c c' a} h := by
    obtain ⟨tokens, stop⟩ := c
    unfold group at h
    split at h
    · cases h
    · next t rest htokens =>
        cases htokens
        split at h
        · split at h
          · obtain ⟨last, hlast, hc⟩ := map_eq_ok.mp h
            cases hc
            obtain ⟨taken, htaken⟩ := closeGroups_moves hlast t.stop
            exact ⟨_, (Moves.next t rest stop).trans htaken⟩
          · cases h
        · cases h

instance : Takes tokenTree := by unfold tokenTree; infer_instance
instance (test : Token → Bool) : Takes (skipWhile test) := by
  unfold skipWhile; infer_instance

instance takes_spanned (p : Parser (String × List Node)) [Takes p] : Takes (spanned p) where
  moves {c c' a} h := by
    unfold spanned at h
    split at h
    · cases h
    · split at h
      · cases h
      · next hp => cases h; exact Takes.moves hp

/-! ## Types -/

-- the proofs follow the bodies, and some bodies are long
set_option synthInstance.maxSize 2000

instance takes_closeAngles (n depth : Nat) : Takes (closeAngles n depth) := by
  induction n generalizing depth with
  | zero => unfold closeAngles; infer_instance
  | succ n ih => unfold closeAngles; infer_instance

instance : Takes angleGroup := by unfold angleGroup; infer_instance
instance : Takes anyGroup := by unfold anyGroup; infer_instance

instance (type : Parser Node) [Takes type] : Takes (skipResult type) := by
  unfold skipResult; infer_instance

instance takes_pathNames (type : Parser Node) [Takes type] (n : Nat) (inPath : Bool) :
    Takes (pathNames type n inPath) := by
  induction n generalizing inPath with
  | zero => unfold pathNames; infer_instance
  | succ n ih => unfold pathNames; infer_instance

instance (type : Parser Node) [Takes type] : Takes (path type) := by
  unfold path; infer_instance

instance : Takes mutability := by unfold mutability; infer_instance
instance : Takes skipLifetime := by unfold skipLifetime; infer_instance
instance (type : Parser Node) [Takes type] : Takes (pointerType type) := by
  unfold pointerType; infer_instance
instance (type : Parser Node) [Takes type] : Takes (referenceType type) := by
  unfold referenceType; infer_instance
instance : Takes arrayLength := by unfold arrayLength; infer_instance
instance (type : Parser Node) [Takes type] : Takes (arrayType type) := by
  unfold arrayType; infer_instance
instance (type : Parser Node) [Takes type] : Takes (tupleType type) := by
  unfold tupleType; infer_instance
instance : Takes skipModifier := by unfold skipModifier; infer_instance
instance (type : Parser Node) [Takes type] : Takes (functionType type) := by
  unfold functionType; infer_instance
instance (type : Parser Node) [Takes type] : Takes (bound type) := by
  unfold bound; infer_instance
instance (simple : Parser Node) [Takes simple] : Takes (withBounds simple) := by
  unfold withBounds; infer_instance


instance takes_simpleType (n : Nat) : Takes (simpleType n) := by
  induction n with
  | zero => unfold simpleType; infer_instance
  | succ n ih => unfold simpleType; dsimp only; infer_instance

instance : Takes type := by unfold type; infer_instance

/-! ## Patterns -/

instance takes_patternNames (n : Nat) : Takes (patternNames n) := by
  induction n with
  | zero => unfold patternNames; infer_instance
  | succ n ih => unfold patternNames; infer_instance

instance takes_pattern (n : Nat) : Takes (pattern n) := by
  induction n with
  | zero => unfold pattern; infer_instance
  | succ n ih => unfold pattern; dsimp only; infer_instance


/-! ## Functions -/

instance : Takes attributeInput := by unfold attributeInput; infer_instance
instance : Takes attributeItem := by unfold attributeItem; infer_instance
instance : Takes visibility := by unfold visibility; infer_instance
instance : Takes modifier := by unfold modifier; infer_instance
instance : Takes modifiers := by unfold modifiers; infer_instance
instance : Takes skipBounds := by unfold skipBounds; infer_instance
instance (p : Parser Unit) [Takes p] : Takes (skipDefault p) := by
  unfold skipDefault; infer_instance
instance : Takes genericParam := by unfold genericParam; infer_instance
instance : Takes genericParams := by unfold genericParams; dsimp only; infer_instance
instance : Takes receiver := by unfold receiver; dsimp only; infer_instance
instance : Takes patternParam := by unfold patternParam; infer_instance
instance : Takes bareParam := by
  unfold bareParam
  refine @takes_bind _ _ _ _ inferInstance fun found => ?_
  cases found <;> infer_instance
instance : Takes param := by unfold param; infer_instance
instance : Takes params := by unfold params; infer_instance
instance takes_skipHead (n depth : Nat) : Takes (skipHead n depth) := by
  induction n generalizing depth with
  | zero => unfold skipHead; infer_instance
  | succ n ih => unfold skipHead; infer_instance
instance : Takes result := by unfold result; infer_instance
instance : Takes function := by unfold function; dsimp only; infer_instance

/-! ## Items -/

instance : Takes toSemicolon := by unfold toSemicolon; infer_instance
instance : Takes headed := by unfold headed; infer_instance
instance : Takes binding := by unfold binding; infer_instance
instance : Takes macroCall := by unfold macroCall; dsimp only; infer_instance
instance : Takes named := by unfold named; infer_instance
instance (isPublic : Bool) : Takes (modified isPublic) := by unfold modified; infer_instance
instance (isPublic : Bool) : Takes (otherItem isPublic) := by unfold otherItem; infer_instance
instance : Takes declaration := by unfold declaration; infer_instance
instance : Takes block := by unfold block; infer_instance
instance : Takes item := by unfold item; infer_instance

/-! ## What readers give -/

/-- What holds of everything that a reader gives at some end of the tokens. -/
def Yields (all : List Token) (p : Parser α) (post : α → Prop) : Prop :=
  ∀ (c c' : Cursor) (a : α), c.tokens <:+ all → p c = .ok (a, c') → post a

theorem Moves.suffix {all taken : List Token} {c c' : Cursor} (h : Moves c taken c')
    (hc : c.tokens <:+ all) : c'.tokens <:+ all := by
  rw [h.tokens] at hc
  exact (List.suffix_append taken c'.tokens).trans hc

variable {all : List Token}

theorem yields_any (p : Parser α) : Yields all p fun _ => True :=
  fun _ _ _ _ _ => trivial

theorem yields_pure {a : α} {post : α → Prop} (h : post a) :
    Yields all (pure a : Parser α) post := by
  intro c c' b _ hb
  rw [← (run_pure_eq_ok.mp hb).1]
  exact h

theorem yields_bind {p : Parser α} [Takes p] {f : α → Parser β} {mid : α → Prop}
    {post : β → Prop} (hp : Yields all p mid) (hf : ∀ a, mid a → Yields all (f a) post) :
    Yields all (p >>= f) post := by
  intro c c' b hc hb
  obtain ⟨a, next, ha, hb⟩ := run_bind_eq_ok.mp hb
  obtain ⟨taken, htaken⟩ := Takes.moves ha
  exact hf a (hp _ _ _ hc ha) _ _ _ (htaken.suffix hc) hb

/-- Where only the last step decides. -/
theorem yields_then {p : Parser α} [Takes p] {f : α → Parser β} {post : β → Prop}
    (hf : ∀ a, Yields all (f a) post) : Yields all (p >>= f) post :=
  yields_bind (yields_any p) fun a _ => hf a

theorem yields_ite {b : Prop} [Decidable b] {p q : Parser α} {post : α → Prop}
    (hp : Yields all p post) (hq : Yields all q post) :
    Yields all (if b then p else q) post := by
  split
  · exact hp
  · exact hq

theorem yields_refuse {post : α → Prop} : Yields all (refuse : Parser α) post := by
  intro c c' a _ h
  cases h

theorem spanned_eq_ok {p : Parser (String × List Node)} {c c' : Cursor} {n : Node}
    (h : spanned p c = .ok (n, c')) :
    ∃ t rest, c.tokens = t :: rest ∧ p c = .ok ((n.kind, n.children), c') ∧
      n = { kind := n.kind, start := t.start, stop := c'.stop, row := t.row,
            children := n.children } := by
  unfold spanned at h
  split at h
  · cases h
  · next t rest htokens =>
      split at h
      · cases h
      · next kind children after hp =>
          cases h
          exact ⟨t, rest, htokens, hp, rfl⟩

theorem yields_spanned {p : Parser (String × List Node)} {post : Node → Prop}
    (h : Yields all p fun r => ∀ n : Node, n.kind = r.1 → n.children = r.2 →
      n.field = none → post n) :
    Yields all (spanned p) post := by
  intro c c' n hc hn
  obtain ⟨t, rest, -, hp, hnode⟩ := spanned_eq_ok hn
  refine h _ _ _ hc hp n rfl rfl ?_
  rw [hnode]

theorem yields_listUntil {closing : String} {p : Parser α} [Takes p] {post : α → Prop}
    (h : Yields all p post) (n : Nat) :
    Yields all (listUntil closing p n) fun found => ∀ a ∈ found, post a := by
  induction n with
  | zero =>
      unfold listUntil
      exact yields_refuse
  | succ n ih =>
      unfold listUntil
      refine yields_then fun closed => yields_ite (yields_pure (List.forall_mem_nil _)) ?_
      refine yields_bind h fun a ha => yields_then fun more => yields_ite ?_ ?_
      · exact yields_bind ih fun rest hrest =>
          yields_pure (List.forall_mem_cons.mpr ⟨ha, hrest⟩)
      · exact yields_then fun _ => yields_pure (List.forall_mem_singleton.mpr ha)

end ApiCatalog.Rust.Parser
