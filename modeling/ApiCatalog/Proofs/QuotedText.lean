import Mathlib.Algebra.Group.Nat.Defs
import Mathlib.Data.List.Chain
import ApiCatalog.Proofs.Runs
import ApiCatalog.Proofs.Texts
import ApiCatalog.Proofs.Utf8
import ApiCatalog.Toml.Reader
import ApiCatalog.Toml.Writer

/-!
# Quoted texts are read back

The writer escapes a text for the mark that messages would choose, and then turns
that into a text between double quotes. Whatever mark was chosen, what comes out
is the text escaped for the double quote (`requote_eq`), so the choice never
shows. The places with a backslash and an `x` are what TOML has no escape for;
`Writable` says of a text that it has none, and then nothing is left to mend.

Reading goes character by character: the escape of a character is read back as
that character, in one step of the reader's fuel (`basicText_escape`). The fuel
is the length of what is left, and no escape is empty, so it lasts.
-/

namespace ApiCatalog.Text

/-! ## Digits -/

theorem hexValue?_hexDigit :
    ∀ n < 16, hexValue? (hexDigit n) = some n := by
  decide

theorem isAlphanum_hexDigit :
    ∀ n < 16, (hexDigit n).isAlphanum = true := by
  decide

theorem length_hexDigits (width n : Nat) : (hexDigits width n).length = width := by
  induction width generalizing n with
  | zero => rfl
  | succ width ih =>
      rw [hexDigits, List.length_append, ih, List.length_singleton]

theorem isAlphanum_of_mem_hexDigits {width n : Nat} {c : Char}
    (h : c ∈ hexDigits width n) : c.isAlphanum = true := by
  induction width generalizing n with
  | zero => cases h
  | succ width ih =>
      rw [hexDigits, List.mem_append, List.mem_singleton] at h
      rcases h with h | rfl
      · exact ih h
      · exact isAlphanum_hexDigit _ (Nat.mod_lt _ (by decide))

theorem hexNumber?_hexDigits {width n : Nat} (h : n < 16 ^ width) :
    hexNumber? (hexDigits width n) = some n := by
  induction width generalizing n with
  | zero =>
      have hn : n = 0 := by simpa using h
      rw [hn]
      rfl
  | succ width ih =>
      have hdiv : n / 16 < 16 ^ width := by
        rw [Nat.pow_succ, Nat.mul_comm] at h
        exact Nat.div_lt_of_lt_mul h
      have hnumber := ih hdiv
      rw [hexNumber?] at hnumber
      rw [hexNumber?, hexDigits, List.foldl_append, hnumber, List.foldl_cons,
        List.foldl_nil, hexValue?_hexDigit _ (Nat.mod_lt _ (by decide))]
      show some (16 * (n / 16) + n % 16) = some n
      rw [Nat.div_add_mod]

/-! ## Escapes -/

/-- The forms of a character inside a quoted text. -/
inductive Escape (mark c : Char) : List Char → Prop where
  | plain (hmark : c ≠ mark) (hback : c ≠ '\\') (hshown : isPrintable c = true) :
      Escape mark c [c]
  | marked (h : c = mark ∨ c = '\\') : Escape mark c ['\\', c]
  | letter {d : Char}
      (h : d = 'n' ∧ c = '\n' ∨ d = 'r' ∧ c = '\r' ∨ d = 't' ∧ c = '\t') :
      Escape mark c ['\\', d]
  | number {d : Char} {width : Nat}
      (h : d = 'x' ∧ width = 2 ∨ d = 'u' ∧ width = 4 ∨ d = 'U' ∧ width = 8)
      (hback : c ≠ '\\') (hletter : c ≠ '\t' ∧ c ≠ '\n' ∧ c ≠ '\r')
      (hhidden : isPrintable c = false) (hsmall : d = 'x' → c.toNat < 0x100)
      (hfits : c.toNat < 16 ^ width) :
      Escape mark c ('\\' :: d :: hexDigits width c.toNat)

theorem escape_form (mark c : Char) : Escape mark c (escape mark c) := by
  rw [escape]
  split
  · next h =>
      rw [Bool.or_eq_true, beq_iff_eq, beq_iff_eq] at h
      exact .marked h
  next hmark =>
  rw [Bool.or_eq_true, beq_iff_eq, beq_iff_eq, not_or] at hmark
  split
  · next h => exact .letter (.inl ⟨rfl, beq_iff_eq.mp h⟩)
  next hn =>
  split
  · next h => exact .letter (.inr (.inl ⟨rfl, beq_iff_eq.mp h⟩))
  next hr =>
  split
  · next h => exact .letter (.inr (.inr ⟨rfl, beq_iff_eq.mp h⟩))
  next ht =>
  rw [beq_iff_eq] at hn hr ht
  split
  · next h => exact .plain hmark.1 hmark.2 h
  next hshown =>
  have hhidden := Bool.eq_false_iff.mpr hshown
  split
  · next h =>
      exact .number (by decide) hmark.2 ⟨ht, hn, hr⟩ hhidden (fun _ => h) h
  next hsmall =>
  split
  · next h =>
      exact .number (by decide) hmark.2 ⟨ht, hn, hr⟩ hhidden (absurd · (by decide)) h
  · have hbound := Utf8.toNat_bounds c
    refine .number (by decide) hmark.2 ⟨ht, hn, hr⟩ hhidden (absurd · (by decide)) ?_
    omega

/-- An escape holds the character itself, backslashes, letters and digits. -/
theorem mem_escape {mark c d : Char} (h : d ∈ escape mark c) :
    d = c ∨ d = '\\' ∨ d.isAlphanum = true := by
  have hform := escape_form mark c
  generalize escape mark c = e at h hform
  cases hform with
  | plain => exact .inl (List.mem_singleton.mp h)
  | marked =>
      rcases List.mem_pair.mp h with h | h
      · exact .inr (.inl h)
      · exact .inl h
  | letter hd =>
      rcases List.mem_pair.mp h with h | h
      · exact .inr (.inl h)
      · refine .inr (.inr ?_)
        rcases hd with ⟨rfl, -⟩ | ⟨rfl, -⟩ | ⟨rfl, -⟩ <;> rw [h] <;> rfl
  | number hd =>
      rcases List.mem_cons.mp h with h | h
      · exact .inr (.inl h)
      rcases List.mem_cons.mp h with h | h
      · refine .inr (.inr ?_)
        rcases hd with ⟨rfl, -⟩ | ⟨rfl, -⟩ | ⟨rfl, -⟩ <;> rw [h] <;> rfl
      · exact .inr (.inr (isAlphanum_of_mem_hexDigits h))

theorem escape_ne_nil (mark c : Char) : escape mark c ≠ [] := by
  have hform := escape_form mark c
  generalize escape mark c = e at hform
  cases hform <;> exact List.cons_ne_nil _ _

/-- An escape starts with a backslash, or it is the character itself and not the
mark. -/
theorem head?_escape {mark c d : Char} (h : (escape mark c).head? = some d) :
    d = '\\' ∨ (d = c ∧ c ≠ mark) := by
  have hform := escape_form mark c
  generalize escape mark c = e at h hform
  cases hform with
  | plain hmark => exact .inr ⟨(Option.some.inj h).symm, hmark⟩
  | marked => exact .inl (Option.some.inj h).symm
  | letter => exact .inl (Option.some.inj h).symm
  | number => exact .inl (Option.some.inj h).symm

theorem head?_flatMap_escape {mark d : Char} {s : List Char}
    (h : (s.flatMap (escape mark)).head? = some d) :
    d = '\\' ∨ (s.head? = some d ∧ d ≠ mark) := by
  cases s with
  | nil => cases h
  | cons c rest =>
      rw [List.flatMap_cons,
        List.head?_append_of_ne_nil _ (escape_ne_nil mark c)] at h
      rcases head?_escape h with h | ⟨rfl, hmark⟩
      · exact .inl h
      · exact .inr ⟨rfl, hmark⟩

theorem length_le_flatMap_escape (mark : Char) (s : List Char) :
    s.length ≤ (s.flatMap (escape mark)).length := by
  induction s with
  | nil => exact Nat.le_refl 0
  | cons c rest ih =>
      have hc := List.length_pos_iff.mpr (escape_ne_nil mark c)
      rw [List.flatMap_cons, List.length_append, List.length_cons]
      omega

end ApiCatalog.Text

namespace ApiCatalog.Toml

open Text (escape escape_form isPrintable mem_escape)

/-! ## One mark for every text -/

theorem replacePair_append {a b : Char} {r front tail : List Char}
    (hfront : b ∉ front) (htail : tail.head? ≠ some b) :
    replacePair a b r (front ++ tail) = front ++ replacePair a b r tail := by
  induction front with
  | nil => rfl
  | cons x front ih =>
      have hnext := ih (fun h => hfront (List.mem_cons_of_mem x h))
      have hhead : (front ++ tail).head? ≠ some b := by
        cases front with
        | nil => exact htail
        | cons y front =>
            intro h
            refine hfront (List.mem_cons_of_mem x ?_)
            rw [← Option.some.inj h]
            exact List.mem_cons_self
      rw [List.cons_append, List.cons_append, ← hnext]
      cases hrest : front ++ tail with
      | nil => rfl
      | cons y rest =>
          have hy : y ≠ b := by
            intro h
            rw [hrest, h] at hhead
            exact hhead rfl
          rw [replacePair, if_neg]
          rw [Bool.and_eq_true, beq_iff_eq, beq_iff_eq]
          exact fun h => hy h.2

/-- A double quote gets a backslash, any other character stays. -/
def markDouble (c : Char) : List Char :=
  if c == '"' then ['\\', '"'] else [c]

theorem flatMap_markDouble {cs : List Char} (h : '"' ∉ cs) :
    cs.flatMap markDouble = cs := by
  induction cs with
  | nil => rfl
  | cons c rest ih =>
      have hc : c ≠ '"' := fun hc => h (hc ▸ List.mem_cons_self)
      rw [List.flatMap_cons, ih (fun hr => h (List.mem_cons_of_mem c hr)),
        markDouble, if_neg (by simpa using hc)]
      rfl

theorem not_mem_escape {mark c d : Char} (hne : d ≠ c) (hback : d ≠ '\\')
    (hd : d.isAlphanum = false) : d ∉ escape mark c := by
  intro h
  rcases mem_escape h with h | h | h
  · exact hne h
  · exact hback h
  · rw [hd] at h
    cases h

/-- The two marks are escaped alike where they are no marks. -/
theorem escape_of_ne {mark mark' c : Char} (h : c ≠ mark) (h' : c ≠ mark') :
    escape mark c = escape mark' c := by
  have hmark (m : Char) (hm : c ≠ m) : (c == m || c == '\\') = (c == '\\') := by
    rw [beq_eq_false_iff_ne.mpr hm, Bool.false_or]
  rw [escape, escape, hmark mark h, hmark mark' h']

theorem remark_escape (c : Char) {tail : List Char} (h : tail.head? ≠ some '\'') :
    (replacePair '\\' '\'' ['\''] (escape '\'' c ++ tail)).flatMap markDouble =
      escape '"' c ++ (replacePair '\\' '\'' ['\''] tail).flatMap markDouble := by
  by_cases hsingle : c = '\''
  · rw [hsingle]
    rfl
  have hnone : '\'' ∉ escape '\'' c :=
    not_mem_escape (Ne.symm hsingle) (by decide) (by decide)
  rw [replacePair_append hnone h, List.flatMap_append]
  congr 1
  by_cases hdouble : c = '"'
  · rw [hdouble]
    rfl
  · rw [flatMap_markDouble (not_mem_escape (Ne.symm hdouble) (by decide) (by decide)),
      escape_of_ne hsingle hdouble]

theorem requote_eq (s : List Char) : requote s = s.flatMap (escape '"') := by
  rw [requote, Text.escaped]
  split
  · next hmark =>
      rw [beq_iff_eq.mp hmark]
      show (replacePair '\\' '\'' ['\''] _).flatMap markDouble = _
      clear hmark
      induction s with
      | nil => rfl
      | cons c rest ih =>
          rw [List.flatMap_cons, List.flatMap_cons, remark_escape, ih]
          intro h
          rcases Text.head?_flatMap_escape h with h | ⟨-, h⟩
          · exact absurd h (by decide)
          · exact h rfl
  · next hmark =>
      have h : Text.quoteMark s = '"' := by
        rw [Text.quoteMark] at hmark ⊢
        split
        · rfl
        · next h => exact absurd (by rw [if_neg h]; rfl) hmark
      rw [h]

/-! ## Texts with nothing to mend -/

/-- Characters that are not written by two digits: below U+0100 only tab, line
feed and carriage return may be hidden. -/
def Expressible (c : Char) : Prop :=
  c.toNat < 0x100 → isPrintable c = false → c = '\t' ∨ c = '\n' ∨ c = '\r'

instance (c : Char) : Decidable (Expressible c) :=
  inferInstanceAs (Decidable (_ → _ → _))

/-- Texts that are written without a backslash in front of an `x`. -/
structure Writable (s : String) : Prop where
  expressible : ∀ c ∈ s.toList, Expressible c
  noPair : ¬ ['\\', 'x'] <:+: s.toList

instance (s : String) : Decidable (Writable s) :=
  decidable_of_iff
    (s.toList.all (Expressible ·) = true ∧ ¬ Text.occursIn ['\\', 'x'] s.toList = true) (by
      rw [Text.occursIn_iff, List.all_eq_true]
      constructor
      · intro h
        exact ⟨by simpa using h.1, h.2⟩
      · intro h
        exact ⟨by simpa using h.expressible, h.noPair⟩)

theorem Expressible.letter_ne {c d : Char} (h : Expressible c)
    (hletter : c ≠ '\t' ∧ c ≠ '\n' ∧ c ≠ '\r') (hhidden : isPrintable c = false)
    (hsmall : d = 'x' → c.toNat < 0x100) : d ≠ 'x' := by
  intro hx
  rcases h (hsmall hx) hhidden with h | h | h
  · exact hletter.1 h
  · exact hletter.2.1 h
  · exact hletter.2.2 h

/-- No backslash stands in front of an `x`. -/
abbrev Unpaired (cs : List Char) : Prop :=
  cs.IsChain fun a b => ¬ (a = '\\' ∧ b = 'x')

theorem unpaired_of_absent {cs : List Char} (h : ¬ ['\\', 'x'] <:+: cs) :
    Unpaired cs := by
  rw [Unpaired, List.isChain_iff_forall_rel_of_append_cons_cons]
  rintro a b front back rfl ⟨rfl, rfl⟩
  exact h ⟨front, back, by simp⟩

theorem splitPair_of_unpaired {cs : List Char} (h : Unpaired cs) :
    splitPair '\\' 'x' cs = [cs] := by
  induction cs with
  | nil => rfl
  | cons a rest ih =>
      cases rest with
      | nil => rfl
      | cons b rest =>
          rw [Unpaired, List.isChain_cons_cons] at h
          rw [splitPair, if_neg, ih h.2]
          rw [Bool.and_eq_true, beq_iff_eq, beq_iff_eq]
          exact h.1

theorem unpaired_of_not_mem {cs : List Char} (h : '\\' ∉ cs) : Unpaired cs := by
  rw [Unpaired, List.isChain_iff_forall_rel_of_append_cons_cons]
  rintro a b front back rfl ⟨rfl, -⟩
  exact h (List.mem_append_right front List.mem_cons_self)

theorem unpaired_escape {c : Char} (h : Expressible c) :
    Unpaired (escape '"' c) := by
  have hform := escape_form '"' c
  generalize escape '"' c = e at hform
  cases hform with
  | plain => exact .singleton c
  | marked hc =>
      rcases hc with rfl | rfl <;> decide
  | letter hd =>
      rcases hd with ⟨rfl, -⟩ | ⟨rfl, -⟩ | ⟨rfl, -⟩ <;> decide
  | number hd _ hletter hhidden hsmall =>
      have hx := h.letter_ne hletter hhidden hsmall
      refine List.isChain_cons_cons.mpr ⟨fun h => hx h.2, unpaired_of_not_mem ?_⟩
      intro hmem
      rcases List.mem_cons.mp hmem with hmem | hmem
      · rcases hd with ⟨rfl, -⟩ | ⟨rfl, -⟩ | ⟨rfl, -⟩ <;> cases hmem
      · exact absurd (Text.isAlphanum_of_mem_hexDigits hmem) (by decide)

/-- Only the escape of a backslash ends in one. -/
theorem getLast?_escape {mark c : Char}
    (h : (escape mark c).getLast? = some '\\') : c = '\\' := by
  have hform := escape_form mark c
  generalize escape mark c = e at h hform
  cases hform with
  | plain => exact Option.some.inj h
  | marked => exact Option.some.inj h
  | letter hd => rcases hd with ⟨rfl, -⟩ | ⟨rfl, -⟩ | ⟨rfl, -⟩ <;> cases h
  | number hd =>
      rw [List.getLast?_cons_cons] at h
      rcases List.mem_cons.mp (List.mem_of_getLast? h) with hmem | hmem
      · rcases hd with ⟨rfl, -⟩ | ⟨rfl, -⟩ | ⟨rfl, -⟩ <;> cases hmem
      · exact absurd (Text.isAlphanum_of_mem_hexDigits hmem) (by decide)

theorem unpaired_flatMap_escape {s : List Char}
    (hchars : ∀ c ∈ s, Expressible c) (h : Unpaired s) : Unpaired (s.flatMap (escape '"')) := by
  induction s with
  | nil => exact .nil
  | cons c rest ih =>
      rw [List.forall_mem_cons] at hchars
      rw [List.flatMap_cons, Unpaired, List.isChain_append]
      refine ⟨unpaired_escape hchars.1, ih hchars.2 h.tail, ?_⟩
      rintro a ha b hb ⟨rfl, rfl⟩
      -- the backslash is the character itself, and so is the `x`
      have hc := getLast?_escape ha
      rcases Text.head?_flatMap_escape hb with hb | ⟨hb, -⟩
      · cases hb
      · exact h.rel_head? hb ⟨hc, rfl⟩

theorem Writable.mendHex_requote {s : String} (h : Writable s) :
    mendHex (requote s.toList) = some (s.toList.flatMap (escape '"')) := by
  have hpair := unpaired_flatMap_escape h.expressible (unpaired_of_absent h.noPair)
  rw [requote_eq, mendHex, splitPair_of_unpaired hpair]

/-! ## Reading a text back -/

theorem isControl_of_printable {c : Char} (h : isPrintable c = true) :
    isControl c = false := by
  simp only [isPrintable] at h
  simp only [isControl, Bool.or_eq_false_iff, Bool.and_eq_false_iff,
    decide_eq_false_iff_not, beq_eq_false_iff_ne]
  split at h
  · simp only [Bool.and_eq_true, decide_eq_true_eq, bne_iff_ne] at h
    exact ⟨.inl (by omega), h.2⟩
  · exact ⟨.inl (by omega), by omega⟩

theorem escapeIn_letter {c d : Char} (hd : escapeLetter? d = some c)
    (tail : List Char) :
    escapeIn false (d :: tail) = .ok ([c], tail) := by
  rw [escapeIn.eq_def]
  split
  · next h => cases h
  · next h => cases h; cases hd
  · next h => cases h; cases hd
  · next h =>
      cases h
      rw [hd]
      rfl

theorem hexEscape_hexDigits {width : Nat} {c : Char} (h : c.toNat < 16 ^ width)
    (tail : List Char) :
    hexEscape width (Text.hexDigits width c.toNat ++ tail) = .ok ([c], tail) := by
  have hlength := Text.length_hexDigits width c.toNat
  have hbounds := Text.Utf8.toNat_bounds c
  rw [hexEscape, List.take_left' hlength, List.drop_left' hlength,
    Text.hexNumber?_hexDigits h, hlength]
  simp only [bne_self_eq_false, Bool.false_eq_true, if_false, Char.ofNat_toNat]
  rw [if_pos]
  simp only [Bool.or_eq_true, Bool.and_eq_true, decide_eq_true_eq]
  omega

/-- One step of reading a text of one line. -/
theorem basicText_cons (fuel : Nat) (c : Char) (rest : List Char) :
    basicText false (fuel + 1) (c :: rest) =
      if c == '"' then .ok ([], rest)
      else if c == '\\' then do
        let (front, rest) ← escapeIn false rest
        let (text, rest) ← basicText false fuel rest
        return (front ++ text, rest)
      else if isControl c then stop (.illegal c) (c :: rest)
      else do
        let (text, rest) ← basicText false fuel rest
        return (c :: text, rest) := by
  rw [basicText.eq_def]
  rfl

/-- The escape of a character is read as that character. -/
theorem basicText_escape {c : Char} (hc : Expressible c) (fuel : Nat) (tail : List Char) :
    basicText false (fuel + 1) (escape '"' c ++ tail) =
      (basicText false fuel tail).map fun (text, rest) => (c :: text, rest) := by
  have hescaped {front : List Char} (h : escapeIn false (front ++ tail) = .ok ([c], tail)) :
      basicText false (fuel + 1) ('\\' :: front ++ tail) =
        (basicText false fuel tail).map fun (text, rest) => (c :: text, rest) := by
    rw [List.cons_append, basicText_cons, if_neg (by decide), if_pos (by decide), h]
    rfl
  have hform := escape_form '"' c
  generalize escape '"' c = e at hform
  cases hform with
  | plain hmark hback hshown =>
      rw [List.singleton_append, basicText_cons, if_neg (by simpa using hmark),
        if_neg (by simpa using hback), isControl_of_printable hshown]
      rfl
  | marked h =>
      exact hescaped (escapeIn_letter (by rcases h with rfl | rfl <;> rfl) tail)
  | letter hd =>
      refine hescaped (escapeIn_letter ?_ tail)
      rcases hd with ⟨rfl, rfl⟩ | ⟨rfl, rfl⟩ | ⟨rfl, rfl⟩ <;> rfl
  | number hd _ hletter hhidden hsmall hfits =>
      refine hescaped ?_
      rcases hd with ⟨rfl, rfl⟩ | ⟨rfl, rfl⟩ | ⟨rfl, rfl⟩
      · exact absurd rfl (hc.letter_ne hletter hhidden hsmall)
      · exact hexEscape_hexDigits hfits tail
      · exact hexEscape_hexDigits hfits tail

theorem basicText_flatMap_escape {s : List Char}
    (hchars : ∀ c ∈ s, Expressible c)
    (rest : List Char) {fuel : Nat} (hfuel : s.length < fuel) :
    basicText false fuel (s.flatMap (escape '"') ++ '"' :: rest) = .ok (s, rest) := by
  induction s generalizing fuel with
  | nil =>
      obtain ⟨fuel, rfl⟩ := Nat.exists_eq_add_of_lt hfuel
      rfl
  | cons c s ih =>
      rw [List.forall_mem_cons] at hchars
      obtain ⟨fuel, rfl⟩ : ∃ n, fuel = n + 1 := ⟨fuel - 1, by simp at hfuel; omega⟩
      rw [List.flatMap_cons, List.append_assoc, basicText_escape hchars.1,
        ih hchars.2 (Nat.lt_of_succ_lt_succ hfuel)]
      rfl

theorem Writable.basicString {s : String} (h : Writable s) (rest : List Char) :
    basicString (s.toList.flatMap (escape '"') ++ '"' :: rest) = .ok (s.toList, rest) := by
  refine basicText_flatMap_escape h.expressible rest ?_
  have := Text.length_le_flatMap_escape '"' s.toList
  rw [List.length_append, List.length_cons]
  omega

end ApiCatalog.Toml
