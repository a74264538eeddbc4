import ApiCatalog.Proofs.Texts
import ApiCatalog.Proofs.Utf8
import ApiCatalog.Rust.Parser

/-!
# Where tokens stand

A token knows the bytes it covers, so a node of the tree is shown as the piece of
source between two tokens, with whatever the author put in between. `Lays` says
how tokens lie in a source: each one after some filler, blanks and comments, and
at the place that its text begins. The scanner keeps to it piece by piece, and
from then on it is not opened again: what a run of tokens covers is their texts
with filler between neighbours (`Spans`).
-/

namespace ApiCatalog.Rust

open Text (isBlank)
open Text.Utf8 (size encode)

/-! ## Filler -/

/-- What may stand between two tokens: blanks and comments. -/
inductive Filler : List Char → Prop where
  | nil : Filler []
  | blank {c : Char} {rest : List Char} (hc : isGap c = true) (h : Filler rest) :
      Filler (c :: rest)
  /-- A comment to the end of its line. -/
  | line {cs rest : List Char} (hcs : '\n' ∉ cs) (h : Filler rest) :
      Filler ('/' :: '/' :: (cs ++ rest))
  /-- A comment up to the mark that closes it. -/
  | block {cs rest : List Char} (hcs : blockLength 0 cs = some cs.length)
      (h : Filler rest) : Filler ('/' :: '*' :: (cs ++ rest))

theorem Filler.append {front rest : List Char} (hfront : Filler front)
    (hrest : Filler rest) : Filler (front ++ rest) := by
  induction hfront with
  | nil => exact hrest
  | blank hc _ ih => exact .blank hc ih
  | line hcs _ ih =>
      rw [List.cons_append, List.cons_append, List.append_assoc]
      exact .line hcs ih
  | block hcs _ ih =>
      rw [List.cons_append, List.cons_append, List.append_assoc]
      exact .block hcs ih

theorem isBlank_of_isGap {c : Char} (h : isGap c = true) : isBlank c = true := by
  simp only [isGap, Bool.or_eq_true, beq_iff_eq, Bool.and_eq_true,
    decide_eq_true_eq] at h
  rcases h with rfl | h
  · decide
  · simp only [isBlank, Bool.or_eq_true, Bool.and_eq_true, decide_eq_true_eq]
    grind

/-- Filler without a slash is blank. -/
theorem Filler.isBlank_of_not_mem {cs : List Char} (h : Filler cs) (hcs : '/' ∉ cs) :
    ∀ c ∈ cs, isBlank c = true := by
  induction h with
  | nil => exact List.forall_mem_nil _
  | blank hc _ ih =>
      rw [List.mem_cons, not_or] at hcs
      exact List.forall_mem_cons.mpr ⟨isBlank_of_isGap hc, ih hcs.2⟩
  | line => exact absurd List.mem_cons_self hcs
  | block => exact absurd List.mem_cons_self hcs

theorem two_le_blockLength {depth n : Nat} {cs : List Char}
    (h : blockLength depth cs = some n) : 2 ≤ n := by
  fun_induction blockLength depth cs generalizing n with
  | case1 depth rest ih =>
      obtain ⟨m, -, rfl⟩ := Option.map_eq_some_iff.mp h
      exact Nat.le_add_left 2 m
  | case2 rest => cases h; exact Nat.le_refl 2
  | case3 rest depth ih =>
      obtain ⟨m, -, rfl⟩ := Option.map_eq_some_iff.mp h
      exact Nat.le_add_left 2 m
  | case4 depth c rest _ _ ih =>
      obtain ⟨m, hm, rfl⟩ := Option.map_eq_some_iff.mp h
      exact Nat.le_succ_of_le (ih hm)
  | case5 => cases h

/-- The end of a block comment does not depend on what follows it. -/
theorem blockLength_take {depth n : Nat} {cs : List Char}
    (h : blockLength depth cs = some n) :
    n ≤ cs.length ∧ blockLength depth (cs.take n) = some n := by
  fun_induction blockLength depth cs generalizing n with
  | case1 depth rest ih =>
      obtain ⟨m, hm, rfl⟩ := Option.map_eq_some_iff.mp h
      obtain ⟨hlength, htake⟩ := ih hm
      refine ⟨Nat.add_le_add_right hlength 2, ?_⟩
      rw [List.take_succ_cons, List.take_succ_cons, blockLength, htake]
      rfl
  | case2 rest =>
      cases h
      exact ⟨Nat.le_add_left 2 rest.length, rfl⟩
  | case3 rest depth ih =>
      obtain ⟨m, hm, rfl⟩ := Option.map_eq_some_iff.mp h
      obtain ⟨hlength, htake⟩ := ih hm
      refine ⟨Nat.add_le_add_right hlength 2, ?_⟩
      rw [List.take_succ_cons, List.take_succ_cons, blockLength, htake]
      rfl
  | case4 depth c rest hopen hclose ih =>
      obtain ⟨m, hm, rfl⟩ := Option.map_eq_some_iff.mp h
      obtain ⟨hlength, htake⟩ := ih hm
      refine ⟨Nat.succ_le_succ hlength, ?_⟩
      -- what is taken is long enough to show the same next character
      obtain ⟨k, rfl⟩ : ∃ k, m = k + 1 := ⟨m - 1, by have := two_le_blockLength hm; omega⟩
      rw [List.take_succ_cons, blockLength, htake]
      · rfl
      · rintro tail rfl htail
        cases rest with
        | nil => cases htail
        | cons d rest =>
            rw [List.take_succ_cons] at htail
            exact hopen rest rfl (by rw [(List.cons.inj htail).1])
      · rintro tail rfl htail
        cases rest with
        | nil => cases htail
        | cons d rest =>
            rw [List.take_succ_cons] at htail
            exact hclose rest rfl (by rw [(List.cons.inj htail).1])
  | case5 => cases h

/-! ## Pieces -/

theorem filler_takeWhile_isGap (cs : List Char) : Filler (cs.takeWhile isGap) := by
  induction cs with
  | nil => exact .nil
  | cons c rest ih =>
      cases hc : isGap c with
      | true =>
          rw [List.takeWhile_cons_of_pos hc]
          exact .blank hc ih
      | false =>
          rw [List.takeWhile_cons_of_neg (by rw [hc]; decide)]
          exact .nil

theorem take_length_takeWhile (p : Char → Bool) (cs : List Char) :
    cs.take (cs.takeWhile p).length = cs.takeWhile p :=
  (List.prefix_iff_eq_take.mp (List.takeWhile_prefix p)).symm

/-- A token of any kind, and not something between tokens. -/
def Piece.IsToken (p : Piece) : Prop :=
  ∃ kind length, p = .token kind length

theorem isToken_closed (kind : TokenKind) (opening : Nat) (rest : Option Nat)
    (source : List Char) : (closed kind opening rest source).IsToken := by
  unfold closed
  split <;> exact ⟨_, _, rfl⟩

theorem isToken_quotePiece (source : List Char) : (quotePiece source).IsToken := by
  unfold quotePiece
  split
  · exact isToken_closed ..
  · exact ⟨_, _, rfl⟩
  · exact ⟨_, _, rfl⟩
  · split <;> exact ⟨_, _, rfl⟩
  · exact ⟨_, _, rfl⟩

theorem isToken_wordPiece (source : List Char) : (wordPiece source).IsToken := by
  unfold wordPiece
  split
  · split <;> exact ⟨_, _, rfl⟩
  · exact ⟨_, _, rfl⟩

theorem isToken_letterPiece (source : List Char) : (letterPiece source).IsToken := by
  unfold letterPiece
  repeat' split
  all_goals
    first
    | exact isToken_closed ..
    | exact isToken_wordPiece _
    | exact ⟨_, _, rfl⟩

theorem filler_of_gap {c : Char} {rest : List Char} {n : Nat}
    (h : pieceOf (c :: rest) = .gap n) : Filler (c :: rest.take (n - 1)) := by
  have htoken {p : Piece} (hp : p.IsToken) (h : p = .gap n) : False := by
    obtain ⟨kind, length, rfl⟩ := hp
    cases h
  unfold pieceOf at h
  split at h
  · next rest' heq =>
      cases heq
      cases h
      show Filler ('/' :: '/' :: rest'.take (rest'.takeWhile (· != '\n')).length)
      rw [take_length_takeWhile, ← List.append_nil (List.takeWhile _ _)]
      refine .line ?_ .nil
      intro hmem
      simpa using List.all_eq_true.mp List.all_takeWhile _ hmem
  · next rest' heq =>
      cases heq
      split at h
      · next m hm =>
          cases h
          obtain ⟨hlength, htake⟩ := blockLength_take hm
          show Filler ('/' :: '*' :: rest'.take m)
          rw [← List.append_nil (List.take _ _)]
          refine .block ?_ .nil
          rw [htake, List.length_take, Nat.min_eq_left hlength]
      · cases h
  · exact (htoken (isToken_closed ..) h).elim
  · exact (htoken (isToken_quotePiece _) h).elim
  · cases h
  · cases h
  · cases h
  · next heq =>
      cases heq
      split at h
      · next hc =>
          cases h
          rw [Nat.add_sub_cancel, take_length_takeWhile]
          exact .blank hc (filler_takeWhile_isGap _)
      split at h
      · cases h
      split at h
      · exact (htoken (isToken_letterPiece _) h).elim
      split at h <;> cases h
  · next heq => cases heq

/-- The code points of blanks. -/
def blankNumbers : List Nat :=
  [0x09, 0x0a, 0x0b, 0x0c, 0x0d, 0x1c, 0x1d, 0x1e, 0x1f, 0x20, 0x85, 0xa0, 0x1680,
    0x2000, 0x2001, 0x2002, 0x2003, 0x2004, 0x2005, 0x2006, 0x2007, 0x2008, 0x2009,
    0x200a, 0x2028, 0x2029, 0x202f, 0x205f, 0x3000]

theorem toNat_mem_of_isBlank {c : Char} (h : isBlank c = true) :
    c.toNat ∈ blankNumbers := by
  simp only [isBlank, Bool.or_eq_true, Bool.and_eq_true, decide_eq_true_eq,
    beq_iff_eq] at h
  simp only [blankNumbers, List.mem_cons, List.not_mem_nil, or_false]
  omega

theorem not_isBlank_of {p : Char → Bool}
    (hnone : ∀ n ∈ blankNumbers, p (Char.ofNat n) = false) {c : Char} (h : p c = true) :
    isBlank c = false := by
  rw [Bool.eq_false_iff]
  intro hc
  have hp := hnone c.toNat (toNat_mem_of_isBlank hc)
  rw [Char.ofNat_toNat, h] at hp
  cases hp

theorem not_isBlank_of_start {c : Char} (h : Text.isIdentifierStart c = true) :
    isBlank c = false :=
  not_isBlank_of (by decide +kernel) h

theorem not_isBlank_of_continue {c : Char} (h : Text.isIdentifierContinue c = true) :
    isBlank c = false :=
  not_isBlank_of (by decide +kernel) h

theorem not_isBlank_take_wordLength {cs : List Char} :
    ∀ c ∈ cs.take (wordLength cs), isBlank c = false := by
  cases cs with
  | nil => exact List.forall_mem_nil _
  | cons c rest =>
      rw [wordLength]
      split
      · next hc =>
          rw [List.take_succ_cons, take_length_takeWhile]
          refine List.forall_mem_cons.mpr ⟨not_isBlank_of_start hc, fun d hd => ?_⟩
          exact not_isBlank_of_continue (List.all_eq_true.mp List.all_takeWhile _ hd)
      · exact List.forall_mem_nil _

theorem not_isBlank_wordPiece {cs : List Char} {n : Nat}
    (h : wordPiece cs = .token .word n) : ∀ c ∈ cs.take n, isBlank c = false := by
  unfold wordPiece at h
  split at h
  · next rest =>
      split at h
      · cases h
        exact List.forall_mem_singleton.mpr (by decide)
      · cases h
        rw [List.take_succ_cons, List.take_succ_cons]
        refine List.forall_mem_cons.mpr ⟨by decide, List.forall_mem_cons.mpr ⟨by decide, ?_⟩⟩
        exact not_isBlank_take_wordLength
  · cases h
    exact not_isBlank_take_wordLength

theorem closed_ne_word {kind : TokenKind} (hkind : kind ≠ .word) {opening n : Nat}
    {rest : Option Nat} {source : List Char} :
    closed kind opening rest source ≠ .token .word n := by
  unfold closed
  split
  · intro h
    cases h
    exact hkind rfl
  · intro h
    cases h

theorem wordPiece_of_letterPiece {cs : List Char} {n : Nat}
    (h : letterPiece cs = .token .word n) : wordPiece cs = .token .word n := by
  have hclosed {kind : TokenKind} (hkind : kind ≠ .word) {opening : Nat}
      {rest : Option Nat} {source : List Char}
      (h : closed kind opening rest source = .token .word n) :
      wordPiece cs = .token .word n :=
    absurd h (closed_ne_word hkind)
  unfold letterPiece at h
  split at h
  · exact hclosed (by decide) h
  · exact hclosed (by decide) h
  · exact hclosed (by decide) h
  · cases h
  · split at h
    · exact hclosed (by decide) h
    · exact h
  · split at h
    · exact hclosed (by decide) h
    · exact h
  · split at h
    · exact hclosed (by decide) h
    · exact h
  · exact h

/-- A word starts with a letter and holds no blank. -/
theorem not_isBlank_of_word {c : Char} {rest : List Char} {n : Nat}
    (h : pieceOf (c :: rest) = .token .word n) :
    ∀ d ∈ c :: rest.take (n - 1), isBlank d = false := by
  have hword : Text.isIdentifierStart c = true ∧
      wordPiece (c :: rest) = .token .word n := by
    unfold pieceOf at h
    split at h
    · cases h
    · split at h <;> cases h
    · exact absurd h (closed_ne_word (by decide))
    · unfold quotePiece at h
      split at h
      · exact absurd h (closed_ne_word (by decide))
      · cases h
      · cases h
      · split at h <;> cases h
      · cases h
    · cases h
    · cases h
    · cases h
    · next heq =>
        cases heq
        split at h
        · cases h
        split at h
        · cases h
        split at h
        · next hc => exact ⟨hc, wordPiece_of_letterPiece h⟩
        split at h <;> cases h
    · cases h
  refine List.forall_mem_cons.mpr ⟨not_isBlank_of_start hword.1, fun d hd => ?_⟩
  refine not_isBlank_wordPiece hword.2 d ?_
  cases n with
  | zero => cases hd
  | succ n => exact List.mem_cons_of_mem c hd

/-! ## Tokens in their source -/

/-- Tokens in the order in which they lie in a source that starts at an offset:
each after some filler, at the place where its text begins. -/
inductive Lays : Nat → List Char → List Token → Prop where
  | nil {offset : Nat} {cs : List Char} : Lays offset cs []
  | cons {offset : Nat} {gap rest : List Char} {t : Token} {ts : List Token}
      (hgap : Filler gap) (hstart : t.start = offset + size gap)
      (hstop : t.stop = t.start + size t.text.toList) (hne : t.text.toList ≠ [])
      (hword : t.kind = .word → ∀ c ∈ t.text.toList, isBlank c = false)
      (hrest : Lays t.stop rest ts) :
      Lays offset (gap ++ (t.text.toList ++ rest)) (t :: ts)

theorem Lays.after {offset : Nat} {gap rest : List Char} {ts : List Token}
    (hgap : Filler gap) (h : Lays (offset + size gap) rest ts) :
    Lays offset (gap ++ rest) ts := by
  cases h with
  | nil => exact .nil
  | cons hinner hstart hstop hne hword hrest =>
      rw [← List.append_assoc]
      refine .cons (hgap.append hinner) ?_ hstop hne hword hrest
      rw [hstart, Text.Utf8.size_append, Nat.add_assoc]

theorem offset_after (place : Place) (cs : List Char) :
    (place.after cs).offset = place.offset + size cs := by
  induction cs generalizing place with
  | nil => rfl
  | cons c rest ih =>
      have hcons : size (c :: rest) = c.utf8Size + size rest := by
        rw [← List.singleton_append, Text.Utf8.size_append]
        congr 1
        exact Nat.zero_add _
      rw [hcons, ← Nat.add_assoc]
      exact ih _

theorem Lays.token {offset stop : Nat} {kind : TokenKind} {c : Char}
    {front rest : List Char} {ts : List Token} (row : Nat)
    (hword : kind = .word → ∀ d ∈ c :: front, isBlank d = false)
    (hstop : stop = offset + size (c :: front)) (hrest : Lays stop rest ts) :
    Lays offset (c :: front ++ rest)
      (⟨kind, String.ofList (c :: front), offset, stop, row⟩ :: ts) := by
  have htext : (String.ofList (c :: front)).toList = c :: front := String.toList_ofList
  have hall := @Lays.cons offset [] rest
    ⟨kind, String.ofList (c :: front), offset, stop, row⟩ ts .nil
    (Nat.add_zero offset).symm (by rw [htext]; exact hstop)
    (by rw [htext]; exact List.cons_ne_nil c front) (by rw [htext]; exact hword) hrest
  rw [htext] at hall
  exact hall

theorem lays_tokensFrom (fuel : Nat) (place : Place) (cs : List Char) :
    Lays place.offset cs (tokensFrom fuel place cs) := by
  induction fuel generalizing place cs with
  | zero => exact .nil
  | succ fuel ih =>
      cases cs with
      | nil => exact .nil
      | cons c rest =>
          rw [tokensFrom]
          split
          · next length hpiece =>
              have hrest := ih (place.after (c :: rest.take (length - 1)))
                (rest.drop (length - 1))
              rw [offset_after] at hrest
              have hall := Lays.after (filler_of_gap hpiece) hrest
              rw [List.cons_append, List.take_append_drop] at hall
              exact hall
          · next kind length hpiece =>
              have hall := Lays.token place.row
                (fun hkind => not_isBlank_of_word (hkind ▸ hpiece))
                (offset_after place (c :: rest.take (length - 1)))
                (ih _ (rest.drop (length - 1)))
              rw [List.cons_append, List.take_append_drop] at hall
              exact hall

theorem interpreterLine_leads (source : List Char) :
    interpreterLine source <+: source := by
  unfold interpreterLine
  split
  · exact List.nil_prefix
  · split
    · exact List.takeWhile_prefix _
    · exact List.nil_prefix
  · exact List.nil_prefix

theorem preamble_leads (source : List Char) : preamble source <+: source := by
  unfold preamble
  split
  · next rest => exact List.cons_prefix_cons.mpr ⟨rfl, interpreterLine_leads rest⟩
  · exact interpreterLine_leads source

theorem lays_tokens (source : List Char) :
    ∃ front rest, source = front ++ rest ∧ Lays (size front) rest (tokens source) := by
  refine ⟨preamble source, source.drop (preamble source).length,
    List.prefix_iff_eq_append.mp (preamble_leads source) |>.symm, ?_⟩
  have hlays := lays_tokensFrom (source.drop (preamble source).length).length
    (Place.after {} (preamble source)) (source.drop (preamble source).length)
  rw [offset_after, Nat.zero_add] at hlays
  exact hlays

/-! ## What a run of tokens covers -/

/-- The text from the first of some tokens to the last. -/
inductive Spans : List Char → List Token → Prop where
  | one (t : Token) : Spans t.text.toList [t]
  | cons (t : Token) {gap cs : List Char} {u : Token} {ts : List Token}
      (hgap : Filler gap) (h : Spans cs (u :: ts)) :
      Spans (t.text.toList ++ (gap ++ cs)) (t :: u :: ts)

theorem Lays.drop {offset : Nat} {cs : List Char} {front ts : List Token}
    (h : Lays offset cs (front ++ ts)) :
    ∃ pre rest, cs = pre ++ rest ∧ Lays (offset + size pre) rest ts := by
  induction front generalizing offset cs with
  | nil => exact ⟨[], cs, rfl, h⟩
  | cons t front ih =>
      cases h with
      | @cons _ gap rest _ _ hgap hstart hstop hne hword hrest =>
          obtain ⟨pre, tail, rfl, htail⟩ := ih hrest
          refine ⟨gap ++ (t.text.toList ++ pre), tail, by simp, ?_⟩
          rw [hstop, hstart] at htail
          simp only [Text.Utf8.size_append]
          simpa [Nat.add_assoc] using htail

theorem Lays.span {offset : Nat} {cs : List Char} {t : Token} {ts back : List Token}
    (h : Lays offset cs (t :: ts ++ back)) :
    ∃ pre raw post, cs = pre ++ raw ++ post ∧ Spans raw (t :: ts) ∧ Filler pre ∧
      t.start = offset + size pre ∧
        ((t :: ts).getLast (List.cons_ne_nil t ts)).stop = t.start + size raw := by
  induction ts generalizing offset cs t with
  | nil =>
      cases h with
      | @cons _ gap rest _ _ hgap hstart hstop hne hword hrest =>
          exact ⟨gap, t.text.toList, rest, by simp, .one t, hgap, hstart, hstop⟩
  | cons u ts ih =>
      cases h with
      | @cons _ gap rest _ _ hgap hstart hstop hne hword hrest =>
          obtain ⟨pre, raw, post, rfl, hraw, hpre, hfirst, hlast⟩ := ih hrest
          refine ⟨gap, t.text.toList ++ (pre ++ raw), post, by simp, .cons t hpre hraw,
            hgap, hstart, ?_⟩
          rw [List.getLast_cons (List.cons_ne_nil u ts), hlast, hfirst, hstop]
          simp only [Text.Utf8.size_append, Nat.add_assoc]

theorem Spans.mem {raw : List Char} {ts : List Token} (h : Spans raw ts) {t : Token}
    (ht : t ∈ ts) {c : Char} (hc : c ∈ t.text.toList) : c ∈ raw := by
  induction h with
  | one u =>
      rw [List.mem_singleton.mp ht] at hc
      exact hc
  | cons u _ _ ih =>
      rcases List.mem_cons.mp ht with rfl | ht
      · exact List.mem_append_left _ hc
      · exact List.mem_append_right _ (List.mem_append_right _ (ih ht))

theorem Lays.words {offset : Nat} {cs : List Char} {ts : List Token}
    (h : Lays offset cs ts) : ∀ t ∈ ts, t.text.toList ≠ [] ∧
      (t.kind = .word → ∀ c ∈ t.text.toList, isBlank c = false) := by
  induction h with
  | nil => exact List.forall_mem_nil _
  | cons _ _ _ hne hword _ ih => exact List.forall_mem_cons.mpr ⟨⟨hne, hword⟩, ih⟩

theorem bytes_of_span {pre raw post : List Char} {n : Node}
    (hstart : n.start = size pre) (hstop : n.stop = n.start + size raw) :
    n.bytes (encode (pre ++ raw ++ post)) = encode raw := by
  rw [Node.bytes, hstop, hstart, Nat.add_sub_cancel_left, Text.Utf8.size_eq,
    Text.Utf8.size_eq, Text.Utf8.encode_append, Text.Utf8.encode_append,
    List.append_assoc, List.drop_left, List.take_left]

/-- The bytes of a node that reaches from one token to another. -/
theorem bytes_of_tokens {bytes : List UInt8} {source : List Char}
    (hsource : Text.Utf8.decode bytes = .ok source) {t : Token} {ts : List Token}
    (htokens : t :: ts <:+: tokens source) :
    ∃ raw, Spans raw (t :: ts) ∧
      ∀ n : Node, n.start = t.start →
        n.stop = ((t :: ts).getLast (List.cons_ne_nil t ts)).stop →
          n.bytes bytes = encode raw := by
  obtain ⟨front, back, htokens⟩ := htokens
  obtain ⟨first, rest, hrest, hlays⟩ := lays_tokens source
  rw [← htokens, List.append_assoc] at hlays
  obtain ⟨skipped, cs, hcs, htail⟩ := hlays.drop
  obtain ⟨pre, raw, post, hspan, hraw, -, hfirst, hlast⟩ := htail.span
  refine ⟨raw, hraw, ?_⟩
  intro n hstart hstop
  have hsplit : source = first ++ skipped ++ pre ++ raw ++ post := by
    rw [hrest, hcs, hspan]
    simp only [List.append_assoc]
  rw [← Text.Utf8.encode_of_decode hsource, hsplit]
  refine bytes_of_span ?_ ?_
  · rw [hstart, hfirst, Text.Utf8.size_append, Text.Utf8.size_append]
  · rw [hstop, hlast, hstart]

theorem text_of_bytes {bytes : List UInt8} {n : Node} {raw : List Char}
    (h : n.bytes bytes = encode raw) : n.text bytes = .ok (Text.collapse raw) := by
  rw [Node.text, h, Text.Utf8.decode_encode]
  rfl

end ApiCatalog.Rust
