import Mathlib.Data.List.Infix
import Mathlib.Data.List.TakeWhile
import ApiCatalog.Text.Blank

/-!
# Texts by the library's own notions

The functions on texts are plain recursions, so that they can be run. Here each
is tied to the notion that statements are made with: joining is `intercalate`,
and occurring somewhere is being an infix. Words are followed along a text from
the front, and collapsing loses nothing but blanks. Stripping is undone by what
stood at the two ends.
-/

namespace ApiCatalog.Text

theorem join_eq_intercalate (sep : List Char) (ws : List (List Char)) :
    join sep ws = sep.intercalate ws := by
  induction ws with
  | nil => rfl
  | cons w rest ih =>
      cases rest with
      | nil => rw [join, List.intercalate_singleton]
      | cons v rest =>
          rw [join, ih, List.intercalate_cons_cons, List.append_assoc]
          exact List.cons_ne_nil v rest

theorem occursIn_iff {pattern cs : List Char} :
    occursIn pattern cs = true ↔ pattern <:+: cs := by
  induction cs with
  | nil => rw [occursIn, List.isEmpty_iff, List.infix_nil]
  | cons c rest ih =>
      rw [occursIn, Bool.or_eq_true, List.isPrefixOf_iff_prefix, ih,
        List.infix_cons_iff]

/-! ## Words -/

theorem words_blank {c : Char} (h : isBlank c = true) (rest : List Char) :
    words (c :: rest) = words rest := by
  rw [words.eq_def]
  exact if_pos h

theorem words_last {c d : Char} (hc : isBlank c = false) (hd : isBlank d = true)
    (rest : List Char) : words (c :: d :: rest) = [c] :: words rest := by
  rw [words.eq_def]
  simp only [hc, hd, Bool.false_eq_true, if_false, if_true, words_blank hd]

theorem words_more {c d : Char} (hc : isBlank c = false) (hd : isBlank d = false)
    {rest w : List Char} {ws : List (List Char)} (h : words (d :: rest) = w :: ws) :
    words (c :: d :: rest) = (c :: w) :: ws := by
  rw [words.eq_def]
  simp only [hc, hd, Bool.false_eq_true, if_false, h]

theorem words_singleton {c : Char} (hc : isBlank c = false) : words [c] = [[c]] := by
  rw [words.eq_def]
  simp only [hc, Bool.false_eq_true, if_false]

/-- A run without blanks is a word where a blank follows it. -/
theorem words_append {w : List Char} (hne : w ≠ []) (hw : ∀ c ∈ w, isBlank c = false)
    {b : Char} (hb : isBlank b = true) (rest : List Char) :
    words (w ++ b :: rest) = w :: words rest := by
  induction w with
  | nil => exact absurd rfl hne
  | cons c w ih =>
      rw [List.forall_mem_cons] at hw
      cases w with
      | nil => exact words_last hw.1 hb rest
      | cons d w =>
          exact words_more hw.1 (hw.2 d List.mem_cons_self)
            (ih (List.cons_ne_nil d w) hw.2)

theorem words_of_forall {w : List Char} (hne : w ≠ [])
    (hw : ∀ c ∈ w, isBlank c = false) : words w = [w] := by
  induction w with
  | nil => exact absurd rfl hne
  | cons c w ih =>
      rw [List.forall_mem_cons] at hw
      cases w with
      | nil => exact words_singleton hw.1
      | cons d w =>
          exact words_more hw.1 (hw.2 d List.mem_cons_self)
            (ih (List.cons_ne_nil d w) hw.2)

theorem words_append_of_blank {front : List Char} (h : ∀ c ∈ front, isBlank c = true)
    (rest : List Char) : words (front ++ rest) = words rest := by
  induction front with
  | nil => rfl
  | cons c front ih =>
      rw [List.forall_mem_cons] at h
      rw [List.cons_append, words_blank h.1, ih h.2]

/-- Nothing but blanks is lost. -/
theorem flatten_words (cs : List Char) :
    (words cs).flatten = cs.filter fun c => !isBlank c := by
  induction cs with
  | nil => rfl
  | cons c rest ih =>
      cases hc : isBlank c with
      | true => rw [words_blank hc, ih, List.filter_cons_of_neg (by simp [hc])]
      | false =>
          rw [List.filter_cons_of_pos (by simp [hc]), ← ih]
          cases rest with
          | nil => rw [words_singleton hc]; rfl
          | cons d rest =>
              cases hd : isBlank d with
              | true => rw [words_last hc hd, words_blank hd]; rfl
              | false =>
                  cases hws : words (d :: rest) with
                  | nil =>
                      rw [hws, List.filter_cons_of_pos (by simp [hd])] at ih
                      cases ih
                  | cons w ws => rw [words_more hc hd hws]; rfl

theorem mem_join {c : Char} {sep w : List Char} {ws : List (List Char)} (hw : w ∈ ws)
    (hc : c ∈ w) : c ∈ join sep ws := by
  induction ws with
  | nil => cases hw
  | cons v ws ih =>
      cases ws with
      | nil =>
          rw [List.mem_singleton] at hw
          rw [join, ← hw]
          exact hc
      | cons u ws =>
          rw [join, List.mem_append, List.mem_append]
          · rcases List.mem_cons.mp hw with rfl | hw
            · exact .inl (.inl hc)
            · exact .inr (ih hw)
          · exact List.cons_ne_nil u ws

theorem mem_of_mem_join {c : Char} {sep : List Char} {ws : List (List Char)}
    (h : c ∈ join sep ws) : c ∈ sep ∨ ∃ w ∈ ws, c ∈ w := by
  induction ws with
  | nil => cases h
  | cons v ws ih =>
      cases ws with
      | nil => exact .inr ⟨v, List.mem_cons_self, h⟩
      | cons u ws =>
          rw [join, List.mem_append, List.mem_append] at h
          · rcases h with (h | h) | h
            · exact .inr ⟨v, List.mem_cons_self, h⟩
            · exact .inl h
            · refine (ih h).imp_right ?_
              rintro ⟨w, hw, hc⟩
              exact ⟨w, List.mem_cons_of_mem v hw, hc⟩
          · exact List.cons_ne_nil u ws

theorem mem_collapse {c : Char} {cs : List Char} (h : c ∈ cs)
    (hc : isBlank c = false) : c ∈ (collapse cs).toList := by
  have hmem : c ∈ (words cs).flatten := by
    rw [flatten_words]
    exact List.mem_filter.mpr ⟨h, by rw [hc]; rfl⟩
  obtain ⟨w, hw, hcw⟩ := List.mem_flatten.mp hmem
  rw [collapse, String.toList_ofList]
  exact mem_join hw hcw

theorem collapse_of_forall {w : List Char} (hne : w ≠ [])
    (hw : ∀ c ∈ w, isBlank c = false) : collapse w = String.ofList w := by
  rw [collapse, words_of_forall hne hw]
  rfl

/-! ## Ends -/

theorem dropWhile_append_of_head {p : Char → Bool} {front rest : List Char}
    (hfront : ∀ c ∈ front, p c = true) (hrest : ∀ c, rest.head? = some c → p c = false) :
    (front ++ rest).dropWhile p = rest := by
  rw [List.dropWhile_append_of_pos hfront]
  cases rest with
  | nil => rfl
  | cons c rest => simp [hrest c rfl]

/-- Stripping takes what stands around a text whose own ends stay. -/
theorem strip_append {p : Char → Bool} {front core back : List Char}
    (hfront : ∀ c ∈ front, p c = true) (hback : ∀ c ∈ back, p c = true)
    (hfirst : ∀ c, core.head? = some c → p c = false)
    (hlast : ∀ c, core.getLast? = some c → p c = false) :
    strip p (front ++ core ++ back) = core := by
  rw [strip, List.append_assoc]
  by_cases hcore : core = []
  · have hall : ∀ c ∈ front ++ ([] ++ back), p c = true := by
      simpa [or_imp, forall_and] using ⟨hfront, hback⟩
    rw [hcore, List.dropWhile_eq_nil_iff.mpr hall]
    rfl
  · have hhead : (core ++ back).head? = core.head? := List.head?_append_of_ne_nil core hcore
    rw [dropWhile_append_of_head hfront (by rw [hhead]; exact hfirst), List.reverse_append,
      dropWhile_append_of_head (by simpa using hback) (by simpa using hlast),
      List.reverse_reverse]

end ApiCatalog.Text
