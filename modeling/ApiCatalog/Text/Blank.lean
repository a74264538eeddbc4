/-!
# Blank characters, words and pieces

Names in an ignore list are trimmed, and the text of a syntax node is shown
with every run of blanks as one space. Both use the same set of blank
characters: the ASCII controls that move the cursor, the four separators from
U+001C, and the space characters of Unicode. The zero-width space and the byte
order mark are not in it.

Everything here is recursion on a list of characters, so that a statement about
words never has to open a string position.
-/

namespace ApiCatalog.Text

/-- Whether a character separates words. -/
def isBlank (c : Char) : Bool :=
  let n := c.toNat
  (0x09 ≤ n && n ≤ 0x0d) || (0x1c ≤ n && n ≤ 0x20) || n == 0x85 || n == 0xa0 ||
    n == 0x1680 || (0x2000 ≤ n && n ≤ 0x200a) || n == 0x2028 || n == 0x2029 ||
    n == 0x202f || n == 0x205f || n == 0x3000

/-- The maximal runs of characters that are not blank, in order. -/
def words : List Char → List (List Char)
  | [] => []
  | c :: rest =>
      if isBlank c then words rest
      else
        match rest with
        | [] => [[c]]
        | d :: _ =>
            if isBlank d then [c] :: words rest
            else
              match words rest with
              | [] => [[c]]
              | w :: ws => (c :: w) :: ws

/-- Lists of characters joined with a separator between neighbours. -/
def join (sep : List Char) : List (List Char) → List Char
  | [] => []
  | [w] => w
  | w :: ws => w ++ sep ++ join sep ws

/-- The words of a text with one space between neighbours. -/
def collapse (cs : List Char) : String :=
  String.ofList (join [' '] (words cs))

/-- A text without the characters `p` holds of at its two ends. -/
def strip (p : Char → Bool) (cs : List Char) : List Char :=
  ((cs.dropWhile p).reverse.dropWhile p).reverse

/-- A text without the blanks at its two ends. -/
def trim (cs : List Char) : List Char :=
  strip isBlank cs

/-- The pieces between the occurrences of one character; never empty. -/
def splitAt (sep : Char) : List Char → List (List Char)
  | [] => [[]]
  | c :: rest =>
      if c == sep then [] :: splitAt sep rest
      else
        match splitAt sep rest with
        | [] => [[c]]
        | w :: ws => (c :: w) :: ws

/-- No piece holds the separator. -/
theorem not_mem_of_mem_splitAt {sep : Char} {w cs : List Char} (h : w ∈ splitAt sep cs) :
    sep ∉ w := by
  induction cs generalizing w with
  | nil =>
      rw [splitAt, List.mem_singleton] at h
      rw [h]
      exact List.not_mem_nil
  | cons c rest ih =>
      rw [splitAt] at h
      split at h
      · rcases List.mem_cons.mp h with rfl | h
        · exact List.not_mem_nil
        · exact ih h
      · next hc =>
          split at h
          · rw [List.mem_singleton.mp h, List.mem_singleton]
            rintro rfl
            exact hc (beq_self_eq_true _)
          · next v ws hsplit =>
              rcases List.mem_cons.mp h with rfl | h
              · rw [List.mem_cons, not_or]
                refine ⟨?_, ih (by rw [hsplit]; exact List.mem_cons_self)⟩
                rintro rfl
                exact hc (beq_self_eq_true _)
              · exact ih (by rw [hsplit]; exact List.mem_cons_of_mem v h)

/-- Whether the first text occurs somewhere in the second. -/
def occursIn (pattern : List Char) : List Char → Bool
  | [] => pattern.isEmpty
  | c :: rest => pattern.isPrefixOf (c :: rest) || occursIn pattern rest

end ApiCatalog.Text
