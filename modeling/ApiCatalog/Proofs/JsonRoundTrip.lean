import ApiCatalog.Json.Reader
import ApiCatalog.Proofs.QuotedText

/-!
# JSON is read back

Reading undoes writing for every value of the format, not only for catalogs, and
whatever stands after the value. A text is followed character by character: the
escape of a character is read back as that character, and the two units of a
character past U+FFFF are put together again. A number is the one value whose end
does not show by itself, so what follows a value must not go on with one (`Ends`).

Arrays and objects are followed along the writer: every item and every field starts
on a new line, and the blanks in front of it are skipped. The fuel of the reader is
spent on calls, each of which leaves a shorter text, so the length of the text is
fuel enough.

A catalog is then what an object says: its fields are looked up by their names, and
the records come back in order. So the text of a catalog says which one it is.
-/

namespace ApiCatalog.Json

/-! ## Texts -/

theorem readText_plain {c : Char} (hquote : c ≠ '"') (hback : c ≠ '\\')
    (hshown : 0x20 ≤ c.toNat) (cs : List Char) :
    readText (c :: cs) = prepend c (readText cs) := by
  rw [readText.eq_def]
  simp only [beq_iff_eq, hquote, hback, if_false, if_neg (Nat.not_lt.mpr hshown)]

theorem readText_letter {letter c : Char} (h : escaped? letter = some c) (cs : List Char) :
    readText ('\\' :: letter :: cs) = prepend c (readText cs) := by
  rw [readText.eq_def]
  dsimp only
  rw [if_neg (by decide), if_pos (by decide)]
  split
  · next hu =>
      cases hu
      cases h
  · next hletter =>
      cases hletter
      rw [h]
  · next hnone => cases hnone

/-- The four digits of a unit are read as its number. -/
theorem exists_escapeUnit {n : Nat} (h : n < 0x10000) :
    ∃ a b d e, escapeUnit n = ['\\', 'u', a, b, d, e] ∧ Text.hexNumber? [a, b, d, e] = some n :=
  ⟨_, _, _, _, rfl, @Text.hexNumber?_hexDigits 4 n h⟩

theorem readText_unit {n : Nat} (h : n < 0xd800 ∨ 0xdfff < n) (hsmall : n < 0x10000)
    (cs : List Char) :
    readText (escapeUnit n ++ cs) = prepend (Char.ofNat n) (readText cs) := by
  obtain ⟨a, b, d, e, hunit, hnumber⟩ := exists_escapeUnit hsmall
  have hhigh : isHighUnit n = false := by
    simp only [isHighUnit, Bool.and_eq_false_iff, decide_eq_false_iff_not]
    omega
  have hlow : isLowUnit n = false := by
    simp only [isLowUnit, Bool.and_eq_false_iff, decide_eq_false_iff_not]
    omega
  rw [hunit]
  show readText ('\\' :: 'u' :: a :: b :: d :: e :: cs) = _
  rw [readText.eq_def]
  simp only [hnumber, hhigh, hlow]
  rfl

theorem readText_units {high low : Nat} (hhigh : isHighUnit high = true)
    (hlow : isLowUnit low = true) (cs : List Char) :
    readText (escapeUnit high ++ (escapeUnit low ++ cs)) =
      prepend (joinUnits high low) (readText cs) := by
  have hhigh' : high < 0x10000 := by
    simp only [isHighUnit, Bool.and_eq_true, decide_eq_true_eq] at hhigh
    omega
  have hlow' : low < 0x10000 := by
    simp only [isLowUnit, Bool.and_eq_true, decide_eq_true_eq] at hlow
    omega
  obtain ⟨a, b, d, e, hunit, hnumber⟩ := exists_escapeUnit hhigh'
  obtain ⟨a', b', d', e', hunit', hnumber'⟩ := exists_escapeUnit hlow'
  rw [hunit, hunit']
  show readText ('\\' :: 'u' :: a :: b :: d :: e :: '\\' :: 'u' :: a' :: b' :: d' :: e' :: cs) = _
  rw [readText.eq_def]
  simp only [hnumber, hhigh, hnumber', hlow]
  rfl

/-- The two units of a character past U+FFFF make that character. -/
theorem joinUnits_of_char {c : Char} (h : 0x10000 ≤ c.toNat) :
    joinUnits (0xd800 + (c.toNat - 0x10000) / 0x400) (0xdc00 + (c.toNat - 0x10000) % 0x400) =
      c := by
  have hn : 0x10000 + (0xd800 + (c.toNat - 0x10000) / 0x400 - 0xd800) * 0x400 +
      (0xdc00 + (c.toNat - 0x10000) % 0x400 - 0xdc00) = c.toNat := by omega
  rw [joinUnits, hn, Char.ofNat_toNat]

/-- The escape of a character is read back as that character. -/
theorem readText_escape (c : Char) (cs : List Char) :
    readText (escape c ++ cs) = prepend c (readText cs) := by
  have hbounds := Text.Utf8.toNat_bounds c
  have heq {n : Nat} (h : c.toNat = n) : c = Char.ofNat n := by
    rw [← h, Char.ofNat_toNat]
  rw [escape]
  split
  · next h =>
      rw [Bool.or_eq_true, beq_iff_eq, beq_iff_eq] at h
      rcases h with rfl | rfl
      · exact readText_letter rfl cs
      · exact readText_letter rfl cs
  next hmark =>
  rw [Bool.or_eq_true, beq_iff_eq, beq_iff_eq, not_or] at hmark
  split
  · next h =>
      rw [beq_iff_eq.mp h]
      exact readText_letter rfl cs
  split
  · next h =>
      rw [beq_iff_eq.mp h]
      exact readText_letter rfl cs
  split
  · next h =>
      rw [beq_iff_eq.mp h]
      exact readText_letter rfl cs
  split
  · next h =>
      rw [heq (beq_iff_eq.mp h)]
      exact readText_letter rfl cs
  split
  · next h =>
      rw [heq (beq_iff_eq.mp h)]
      exact readText_letter rfl cs
  split
  · next h =>
      rw [Bool.and_eq_true, decide_eq_true_eq, decide_eq_true_eq] at h
      exact readText_plain hmark.1 hmark.2 h.1 cs
  split
  · next h =>
      rw [readText_unit (by omega) h, Char.ofNat_toNat]
  · next h =>
      rw [List.append_assoc, readText_units, joinUnits_of_char (Nat.not_lt.mp h)]
      · simp only [isHighUnit, Bool.and_eq_true, decide_eq_true_eq]
        omega
      · simp only [isLowUnit, Bool.and_eq_true, decide_eq_true_eq]
        omega

theorem readText_flatMap_escape (s rest : List Char) :
    readText (s.flatMap escape ++ '"' :: rest) = some (s, rest) := by
  induction s with
  | nil =>
      rw [List.flatMap_nil, List.nil_append, readText.eq_def]
      exact if_pos rfl
  | cons c s ih =>
      rw [List.flatMap_cons, List.append_assoc, readText_escape, ih]
      rfl

/-! ## Numbers -/

/-- What can stand after a value: nothing that a number would go on with. -/
def Ends (rest : List Char) : Prop :=
  ∀ c ∈ rest.head?, c.isDigit = false ∧ c ≠ '.' ∧ c ≠ 'e' ∧ c ≠ 'E'

theorem digitsValue_toDigits (n : Nat) : digitsValue (Nat.toDigits 10 n) = n :=
  Nat.ofDigitChars_toDigits (by decide) (by decide)

theorem exists_toDigits (n : Nat) :
    ∃ c ds, Nat.toDigits 10 n = c :: ds ∧ c.isDigit = true := by
  obtain ⟨c, ds, hds⟩ := List.exists_cons_of_ne_nil (Nat.toDigits_ne_nil (n := n) (b := 10))
  refine ⟨c, ds, hds, ?_⟩
  have hc : c ∈ Nat.toDigits 10 n := by
    rw [hds]
    exact List.mem_cons_self
  exact Nat.isDigit_of_mem_toDigits (by decide) (by decide) hc

theorem readDigits_toDigits (n : Nat) {rest : List Char}
    (hrest : ∀ c ∈ rest.head?, c.isDigit = false) :
    readDigits (Nat.toDigits 10 n ++ rest) = some (Nat.toDigits 10 n, rest) := by
  have hall : ∀ c ∈ Nat.toDigits 10 n, c.isDigit = true := fun c hc =>
    Nat.isDigit_of_mem_toDigits (by decide) (by decide) hc
  have htake : rest.takeWhile Char.isDigit = [] := by
    cases rest with
    | nil => rfl
    | cons c rest => rw [List.takeWhile_cons_of_neg (by simpa using hrest)]
  have hdrop : rest.dropWhile Char.isDigit = rest := by
    cases rest with
    | nil => rfl
    | cons c rest => rw [List.dropWhile_cons_of_neg (by simpa using hrest)]
  unfold readDigits
  rw [List.takeWhile_append_of_pos hall, List.dropWhile_append_of_pos hall, htake, hdrop,
    List.append_nil]
  split
  · next hnil => exact absurd hnil Nat.toDigits_ne_nil
  · rfl

/-- Only the number zero is written with a zero in front. -/
theorem eq_zero_of_toDigits {n : Nat} {ds : List Char} (h : Nat.toDigits 10 n = '0' :: ds) :
    n = 0 := by
  induction n using Nat.strong_induction_on generalizing ds with
  | _ n ih =>
      by_cases hsmall : n < 10
      · have hone : ∀ m < 10, Nat.digitChar m = '0' → m = 0 := by decide
        rw [Nat.toDigits_of_lt_base hsmall] at h
        exact hone n hsmall (List.cons.inj h).1
      · -- the digits in front of the last one are those of a smaller number
        rw [Nat.toDigits_of_base_le (by decide) (by omega)] at h
        obtain ⟨c, front, hfront, -⟩ := exists_toDigits (n / 10)
        rw [hfront, List.cons_append] at h
        rw [(List.cons.inj h).1] at hfront
        have hzero := ih (n / 10) (by omega) hfront
        omega

theorem readWhole_toDigits (n : Nat) {rest : List Char}
    (hrest : ∀ c ∈ rest.head?, c.isDigit = false) :
    readWhole (Nat.toDigits 10 n ++ rest) = some (Nat.toDigits 10 n, rest) := by
  unfold readWhole
  split
  · next tail h =>
      obtain ⟨c, ds, hds, -⟩ := exists_toDigits n
      rw [hds, List.cons_append] at h
      obtain ⟨rfl, rfl⟩ := List.cons.inj h
      obtain rfl := eq_zero_of_toDigits hds
      rw [Nat.toDigits_zero] at hds ⊢
      cases hds
      rfl
  · exact readDigits_toDigits n hrest

theorem readFraction_of_ends {rest : List Char} (h : ∀ c ∈ rest.head?, c ≠ '.') :
    readFraction rest = some ([], rest) := by
  unfold readFraction
  split
  · exact absurd rfl (h '.' rfl)
  · rfl

theorem readExponent_of_ends {rest : List Char} (h : ∀ c ∈ rest.head?, c ≠ 'e' ∧ c ≠ 'E') :
    readExponent rest = some (0, rest) := by
  unfold readExponent
  split
  · exact absurd rfl (h 'e' rfl).1
  · exact absurd rfl (h 'E' rfl).2
  · rfl

/-- An integer is read back with its sign. -/
theorem readSigned_toString (n : Int) {rest : List Char}
    (hrest : ∀ c ∈ rest.head?, c.isDigit = false) :
    readSigned ((toString n).toList ++ rest) = some (n, rest) := by
  cases n with
  | ofNat n =>
      rw [show toString (Int.ofNat n) = Nat.repr n from rfl, Nat.toList_repr]
      obtain ⟨c, ds, hds, hdigit⟩ := exists_toDigits n
      unfold readSigned
      split
      · next tail h =>
          rw [hds, List.cons_append] at h
          rw [(List.cons.inj h).1] at hdigit
          cases hdigit
      · next tail h =>
          rw [hds, List.cons_append] at h
          rw [(List.cons.inj h).1] at hdigit
          cases hdigit
      · rw [readDigits_toDigits n hrest]
        show some ((digitsValue (Nat.toDigits 10 n) : Int), rest) = _
        rw [digitsValue_toDigits]
        rfl
  | negSucc n =>
      rw [show toString (Int.negSucc n) = "-" ++ Nat.repr (n + 1) from rfl,
        String.toList_append, Nat.toList_repr]
      show (readDigits (Nat.toDigits 10 (n + 1) ++ rest)).map _ = _
      rw [readDigits_toDigits (n + 1) hrest]
      show some (-(digitsValue (Nat.toDigits 10 (n + 1)) : Int), rest) = _
      rw [digitsValue_toDigits]
      rfl

/-- What stands after the digits of a number. -/
def exponentText (exponent : Int) : List Char :=
  if exponent == 0 then [] else 'e' :: (toString exponent).toList

theorem readExponent_exponentText (exponent : Int) {rest : List Char} (hrest : Ends rest) :
    readExponent (exponentText exponent ++ rest) = some (exponent, rest) := by
  unfold exponentText
  split
  · next h =>
      rw [beq_iff_eq.mp h, List.nil_append]
      exact readExponent_of_ends fun c hc => (hrest c hc).2.2
  · exact readSigned_toString exponent fun c hc => (hrest c hc).1

theorem readNumber_toDigits (negative : Bool) (digits : Nat) (exponent : Int)
    {rest : List Char} (hrest : Ends rest) :
    readNumber negative (Nat.toDigits 10 digits ++ (exponentText exponent ++ rest)) =
      some (.number negative digits exponent, rest) := by
  have hhead : ∀ c ∈ (exponentText exponent ++ rest).head?, c.isDigit = false ∧ c ≠ '.' := by
    intro c hc
    unfold exponentText at hc
    split at hc
    · exact ⟨(hrest c hc).1, (hrest c hc).2.1⟩
    · cases hc
      decide
  unfold readNumber
  rw [readWhole_toDigits digits fun c hc => (hhead c hc).1]
  show (readFraction _ >>= _) = _
  rw [readFraction_of_ends fun c hc => (hhead c hc).2]
  show (readExponent _ >>= _) = _
  rw [readExponent_exponentText exponent hrest]
  show some (Json.number negative (digitsValue (Nat.toDigits 10 digits ++ [])) (exponent - 0), rest)
    = _
  rw [List.append_nil, digitsValue_toDigits, Int.sub_zero]

/-! ## Blanks -/

theorem skipBlanks_newLine (level : Nat) (cs : List Char) :
    skipBlanks (newLine level ++ cs) = skipBlanks cs := by
  refine List.dropWhile_append_of_pos fun c hc => ?_
  rcases List.mem_cons.mp hc with rfl | hc
  · rfl
  · rw [List.eq_of_mem_replicate hc]
    rfl

theorem skipBlanks_of_head {c : Char} (h : isBlank c = false) (cs : List Char) :
    skipBlanks (c :: cs) = c :: cs :=
  List.dropWhile_cons_of_neg (by rw [h]; decide)

theorem readValue_newLine (fuel level : Nat) (cs : List Char) :
    readValue fuel (newLine level ++ cs) = readValue fuel cs := by
  cases fuel with
  | zero => rfl
  | succ fuel => rw [readValue, readValue, skipBlanks_newLine]

theorem readValue_space (fuel : Nat) (cs : List Char) :
    readValue fuel (' ' :: cs) = readValue fuel cs := by
  cases fuel with
  | zero => rfl
  | succ fuel =>
      rw [readValue, readValue]
      rfl

theorem readItems_newLine (fuel level : Nat) (cs : List Char) :
    readItems fuel (newLine level ++ cs) = readItems fuel cs := by
  cases fuel with
  | zero => rfl
  | succ fuel => rw [readItems, readItems, readValue_newLine]

theorem readFields_newLine (fuel level : Nat) (cs : List Char) :
    readFields fuel (newLine level ++ cs) = readFields fuel cs := by
  cases fuel with
  | zero => rfl
  | succ fuel => rw [readFields, readFields, skipBlanks_newLine]

theorem isBlank_of_isDigit {c : Char} (h : c.isDigit = true) : isBlank c = false := by
  rw [Bool.eq_false_iff]
  intro hblank
  simp only [isBlank, Bool.or_eq_true, beq_iff_eq] at hblank
  rcases hblank with ((rfl | rfl) | rfl) | rfl <;> cases h

/-- A value starts with a character that is neither a blank nor the end of a list. -/
theorem exists_render (level : Nat) (v : Json) :
    ∃ c cs, render level v = c :: cs ∧ isBlank c = false ∧ c ≠ ']' := by
  cases v with
  | null => exact ⟨_, _, rfl, by decide, by decide⟩
  | bool b => cases b <;> exact ⟨_, _, rfl, by decide, by decide⟩
  | number negative digits exponent =>
      cases negative with
      | true => exact ⟨_, _, rfl, by decide, by decide⟩
      | false =>
          obtain ⟨c, ds, hds, hdigit⟩ := exists_toDigits digits
          refine ⟨c, ds ++ exponentText exponent, ?_, isBlank_of_isDigit hdigit, ?_⟩
          · rw [render, numberText, hds]
            rfl
          · rintro rfl
            cases hdigit
  | text s => exact ⟨_, _, rfl, by decide, by decide⟩
  | array items => cases items <;> exact ⟨_, _, rfl, by decide, by decide⟩
  | object fields => cases fields <;> exact ⟨_, _, rfl, by decide, by decide⟩

theorem readValue_of_isDigit {c : Char} (h : c.isDigit = true) (fuel : Nat) (cs : List Char) :
    readValue (fuel + 1) (c :: cs) = readNumber false (c :: cs) := by
  have hne {d : Char} {front back : List Char} (hd : d.isDigit = false) :
      c :: front ≠ d :: back := by
    intro heq
    rw [(List.cons.inj heq).1, hd] at h
    cases h
  rw [readValue, skipBlanks_of_head (isBlank_of_isDigit h)]
  split
  · next heq => exact absurd heq (hne rfl)
  · next heq => exact absurd heq (hne rfl)
  · next heq => exact absurd heq (hne rfl)
  · next heq => exact absurd heq (hne rfl)
  · next heq => exact absurd heq (hne rfl)
  · next heq => exact absurd heq (hne rfl)
  · next heq => exact absurd heq (hne rfl)
  · rfl

theorem readValue_number (negative : Bool) (digits : Nat) (exponent : Int) (fuel : Nat)
    {rest : List Char} (hrest : Ends rest) :
    readValue (fuel + 1) (numberText negative digits exponent ++ rest) =
      some (.number negative digits exponent, rest) := by
  have hnumber := readNumber_toDigits negative digits exponent hrest
  have htext : numberText negative digits exponent ++ rest =
      (if negative then ['-'] else []) ++
        (Nat.toDigits 10 digits ++ (exponentText exponent ++ rest)) := by
    simp only [numberText, exponentText, List.append_assoc]
  rw [htext]
  cases negative with
  | true => exact hnumber
  | false =>
      obtain ⟨c, ds, hds, hdigit⟩ := exists_toDigits digits
      rw [hds] at hnumber ⊢
      exact (readValue_of_isDigit hdigit fuel _).trans hnumber

theorem readText_quote (s : String) (rest : List Char) :
    ∃ inside, quote s ++ rest = '"' :: inside ∧ readText inside = some (s.toList, rest) := by
  refine ⟨s.toList.flatMap escape ++ '"' :: rest, ?_, readText_flatMap_escape _ _⟩
  simp [quote]

theorem readValue_text (s : String) (fuel : Nat) (rest : List Char) :
    readValue (fuel + 1) (quote s ++ rest) = some (.text s, rest) := by
  obtain ⟨inside, hinside, hread⟩ := readText_quote s rest
  rw [hinside, readValue, skipBlanks_of_head (by decide)]
  simp only [hread]
  show some (Json.text (String.ofList s.toList), rest) = _
  rw [String.ofList_toList]

theorem ends_cons {c : Char} (h : c.isDigit = false ∧ c ≠ '.' ∧ c ≠ 'e' ∧ c ≠ 'E')
    (rest : List Char) : Ends (c :: rest) := by
  intro d hd
  cases hd
  exact h

theorem ends_newLine (level : Nat) (rest : List Char) : Ends (newLine level ++ rest) :=
  ends_cons (by decide) _

/-! ## Values -/

/-- A value is read back, whatever stands after it. -/
def ReadBack (v : Json) : Prop :=
  ∀ (level fuel : Nat) (rest : List Char), (render level v).length < fuel → Ends rest →
    readValue fuel (render level v ++ rest) = some (v, rest)

/-- The items of an array are read back, up to its bracket. -/
theorem readItems_render {v : Json} {items : List Json} (hv : ReadBack v)
    (hitems : ∀ w ∈ items, ReadBack w) {level outer fuel : Nat} {rest : List Char}
    (hfuel : (render level v).length + (renderItems level items).length + 1 < fuel) :
    readItems fuel (render level v ++
        (renderItems level items ++ (newLine outer ++ ']' :: rest))) =
      some (v :: items, rest) := by
  induction items generalizing v fuel with
  | nil =>
      obtain ⟨fuel, rfl⟩ : ∃ n, fuel = n + 1 := ⟨fuel - 1, by omega⟩
      have hread := hv level fuel (newLine outer ++ ']' :: rest) (by omega)
        (ends_newLine outer _)
      rw [readItems, renderItems, List.nil_append, hread]
      simp only [Option.bind_eq_bind, Option.bind_some, skipBlanks_newLine,
        skipBlanks_of_head (show isBlank ']' = false by decide)]
      rfl
  | cons w items ih =>
      obtain ⟨fuel, rfl⟩ : ∃ n, fuel = n + 1 := ⟨fuel - 1, by omega⟩
      obtain ⟨hw, hitems⟩ := List.forall_mem_cons.mp hitems
      simp only [renderItems, newLine, List.length_append, List.length_cons] at hfuel
      have hread := hv level fuel
        (renderItems level (w :: items) ++ (newLine outer ++ ']' :: rest)) (by omega)
        (ends_cons (by decide) _)
      have hmore := @ih w hw hitems fuel (by omega)
      rw [readItems, hread]
      simp only [renderItems, List.cons_append, List.append_assoc, Option.bind_eq_bind,
        Option.bind_some, skipBlanks_of_head (show isBlank ',' = false by decide),
        readItems_newLine, hmore]
      rfl

theorem readBack_array {items : List Json} (h : ∀ v ∈ items, ReadBack v) :
    ReadBack (.array items) := by
  intro level fuel rest hfuel hrest
  obtain ⟨fuel, rfl⟩ : ∃ n, fuel = n + 1 := ⟨fuel - 1, by omega⟩
  cases items with
  | nil => rfl
  | cons v items =>
      obtain ⟨hv, hitems⟩ := List.forall_mem_cons.mp h
      simp only [render, newLine, List.length_append, List.length_cons] at hfuel
      have hread := @readItems_render v items hv hitems (level + 1) level fuel rest (by omega)
      obtain ⟨c, cs, hcs, hblank, hbracket⟩ := exists_render (level + 1) v
      rw [readValue]
      simp only [render, List.cons_append, List.append_assoc, List.nil_append,
        skipBlanks_of_head (show isBlank '[' = false by decide), skipBlanks_newLine]
      rw [hcs, List.cons_append] at hread ⊢
      rw [skipBlanks_of_head hblank]
      split
      · next hnil => exact absurd (List.cons.inj hnil).1 hbracket
      · rw [hread]
        rfl

/-- The fields of an object are read back, up to its brace. -/
theorem readFields_render {key : String} {v : Json} {fields : List (String × Json)}
    (hv : ReadBack v) (hfields : ∀ field ∈ fields, ReadBack field.2)
    {level outer fuel : Nat} {rest : List Char}
    (hfuel : (render level v).length + (renderFields level fields).length + 1 < fuel) :
    readFields fuel (quote key ++ (':' :: ' ' :: (render level v ++
        (renderFields level fields ++ (newLine outer ++ '\x7d' :: rest))))) =
      some ((key, v) :: fields, rest) := by
  induction fields generalizing key v fuel with
  | nil =>
      obtain ⟨fuel, rfl⟩ : ∃ n, fuel = n + 1 := ⟨fuel - 1, by omega⟩
      have hread := hv level fuel (newLine outer ++ '\x7d' :: rest) (by omega)
        (ends_newLine outer _)
      obtain ⟨inside, hinside, hkey⟩ := readText_quote key
        (':' :: ' ' :: (render level v ++
          (renderFields level [] ++ (newLine outer ++ '\x7d' :: rest))))
      rw [hinside, readFields, skipBlanks_of_head (by decide)]
      simp only [hkey, Option.bind_eq_bind, Option.bind_some,
        skipBlanks_of_head (show isBlank ':' = false by decide), readValue_space, renderFields,
        List.nil_append, hread, skipBlanks_newLine,
        skipBlanks_of_head (show isBlank '\x7d' = false by decide), String.ofList_toList]
      rfl
  | cons field fields ih =>
      obtain ⟨fuel, rfl⟩ : ∃ n, fuel = n + 1 := ⟨fuel - 1, by omega⟩
      obtain ⟨key', w⟩ := field
      obtain ⟨hw, hfields⟩ := List.forall_mem_cons.mp hfields
      simp only [renderFields, newLine, List.length_append, List.length_cons] at hfuel
      have hread := hv level fuel
        (renderFields level ((key', w) :: fields) ++ (newLine outer ++ '\x7d' :: rest))
        (by omega) (ends_cons (by decide) _)
      have hmore := @ih key' w hw hfields fuel (by omega)
      obtain ⟨inside, hinside, hkey⟩ := readText_quote key
        (':' :: ' ' :: (render level v ++
          (renderFields level ((key', w) :: fields) ++ (newLine outer ++ '\x7d' :: rest))))
      rw [hinside, readFields, skipBlanks_of_head (by decide)]
      simp only [hkey, Option.bind_eq_bind, Option.bind_some,
        skipBlanks_of_head (show isBlank ':' = false by decide), readValue_space, hread]
      simp only [renderFields, List.cons_append, List.append_assoc, List.nil_append,
        skipBlanks_of_head (show isBlank ',' = false by decide), readFields_newLine, hmore,
        String.ofList_toList]
      rfl

theorem readBack_object {fields : List (String × Json)}
    (h : ∀ field ∈ fields, ReadBack field.2) : ReadBack (.object fields) := by
  intro level fuel rest hfuel hrest
  obtain ⟨fuel, rfl⟩ : ∃ n, fuel = n + 1 := ⟨fuel - 1, by omega⟩
  cases fields with
  | nil => rfl
  | cons field fields =>
      obtain ⟨key, v⟩ := field
      obtain ⟨hv, hfields⟩ := List.forall_mem_cons.mp h
      simp only [render, newLine, List.length_append, List.length_cons] at hfuel
      have hread := @readFields_render key v fields hv hfields (level + 1) level fuel rest
        (by omega)
      rw [readValue]
      simp only [render, List.cons_append, List.append_assoc, List.nil_append,
        skipBlanks_of_head (show isBlank '\x7b' = false by decide), skipBlanks_newLine]
      rw [show quote key = '"' :: (key.toList.flatMap escape ++ ['"']) from rfl,
        List.cons_append] at hread ⊢
      rw [skipBlanks_of_head (by decide)]
      split
      · next hbrace => exact absurd (List.cons.inj hbrace).1 (by decide)
      · rw [hread]
        rfl

/-- A value without parts is read back in one call. -/
theorem readBack_of_call {v : Json}
    (h : ∀ level fuel rest, Ends rest →
      readValue (fuel + 1) (render level v ++ rest) = some (v, rest)) : ReadBack v := by
  intro level fuel rest hfuel hrest
  obtain ⟨fuel, rfl⟩ : ∃ n, fuel = n + 1 := ⟨fuel - 1, by omega⟩
  exact h level fuel rest hrest

/-- Every value is read back. -/
theorem readBack (v : Json) : ReadBack v := by
  match v with
  | .null => exact readBack_of_call fun _ _ _ _ => rfl
  | .bool true => exact readBack_of_call fun _ _ _ _ => rfl
  | .bool false => exact readBack_of_call fun _ _ _ _ => rfl
  | .number negative digits exponent =>
      exact readBack_of_call fun _ fuel _ hrest =>
        readValue_number negative digits exponent fuel hrest
  | .text s => exact readBack_of_call fun _ fuel rest _ => readValue_text s fuel rest
  | .array items => exact readBack_array fun v hv => readBack v
  | .object fields => exact readBack_object fun field hfield => readBack field.2
termination_by sizeOf v
decreasing_by
  · have := List.sizeOf_lt_of_mem hv
    simp only [Json.array.sizeOf_spec]
    omega
  · have hlt := List.sizeOf_lt_of_mem hfield
    obtain ⟨key, w⟩ := field
    simp only [Json.object.sizeOf_spec, Prod.mk.sizeOf_spec] at hlt ⊢
    omega

/-- A document is the text of one value, with blanks after it. -/
theorem read?_render (v : Json) (level : Nat) :
    read? (String.ofList (render 0 v ++ newLine level)) = some v := by
  have hread := readBack v 0 (2 * (render 0 v ++ newLine level).length + 2) (newLine level)
    (by rw [List.length_append]; omega)
    (ends_cons (by decide) _)
  have hblank : skipBlanks (newLine level) = [] := by
    have h := skipBlanks_newLine level []
    rwa [List.append_nil] at h
  rw [read?, String.toList_ofList, hread]
  simp only [hblank, List.isEmpty_nil, if_true]

/-! ## Catalogs -/

/-- The field of an object under a key that it has once. -/
def field? (v : Json) (key : String) : Option Json :=
  match v with
  | .object fields =>
      match fields.filter (·.1 == key) with
      | [field] => some field.2
      | _ => none
  | _ => none

/-- A text. -/
def text? : Json → Option String
  | .text s => some s
  | _ => none

/-- A text, or `null` for none. -/
def nullableText? : Json → Option (Option String)
  | .null => some none
  | .text s => some (some s)
  | _ => none

/-- A list of texts. -/
def texts? : Json → Option (List String)
  | .array items => items.mapM text?
  | _ => none

/-- The record that an object describes. -/
def toRecord? (v : Json) : Option Record := do
  let id ← (← v.field? "id").text?
  let apiKind ← (← v.field? "api_kind").text?
  let argTypes ← (← v.field? "arg_tys").texts?
  let argNames ← (← v.field? "arg_ids").texts?
  let retType ← (← v.field? "ret_ty").nullableText?
  return { id, apiKind, argTypes, argNames, retType }

theorem texts?_ofTexts (items : List String) : (ofTexts items).texts? = some items := by
  show (items.map Json.text).mapM text? = _
  rw [List.mapM_map]
  have h : items.mapM (fun s => text? (Json.text s)) = some (items.map id) :=
    mapM_eq_some_map fun s _ => rfl
  rw [List.map_id] at h
  exact h

theorem nullableText?_ofText? (s : Option String) : (ofText? s).nullableText? = some s := by
  cases s with
  | none => rfl
  | some s => rfl

theorem toRecord?_ofRecord (r : Record) : (ofRecord r).toRecord? = some r := by
  show (do
    let argTypes ← (ofTexts r.argTypes).texts?
    let argNames ← (ofTexts r.argNames).texts?
    let retType ← (ofText? r.retType).nullableText?
    return ({ id := r.id, apiKind := r.apiKind, argTypes, argNames, retType } : Record)) = _
  rw [texts?_ofTexts, texts?_ofTexts, nullableText?_ofText?]
  rfl

theorem ofText?_eq_null {s : Option String} : ofText? s = .null ↔ s = none := by
  cases s with
  | none => simp [ofText?]
  | some s => simp [ofText?]

theorem ofRecord_injective : Function.Injective ofRecord := by
  intro r r' h
  have hr := toRecord?_ofRecord r
  rw [h, toRecord?_ofRecord] at hr
  exact (Option.some.inj hr).symm

theorem ofCatalog_inj {source source' : String} {records records' : List Record} :
    ofCatalog source' records' = ofCatalog source records ↔
      source' = source ∧ records' = records := by
  constructor
  · intro h
    simp only [ofCatalog, Json.object.injEq, List.cons.injEq, Prod.mk.injEq, Json.text.injEq,
      Json.array.injEq, true_and, and_true] at h
    exact ⟨h.1, List.map_injective_iff.mpr ofRecord_injective h.2⟩
  · rintro ⟨rfl, rfl⟩
    rfl

theorem read?_write (source : String) (records : List Record) :
    read? (write source records) = some (ofCatalog source records) :=
  read?_render (ofCatalog source records) 0

/-- The text of a catalog is read as an object that has the source and, in order, the
records, where `null` stands for a type that is not there and for nothing else. No other
catalog has that text. -/
theorem write_decodes (source : String) (records : List Record) :
    ∃ document, read? (write source records) = some document ∧
      document.field? "source" = some (.text source) ∧
      (∃ items, document.field? "functions" = some (.array items) ∧
        List.Forall₂ (fun r item => item.toRecord? = some r ∧
          (item.field? "ret_ty" = some .null ↔ r.retType = none)) records items) ∧
      ∀ source' records', write source' records' = write source records ↔
        source' = source ∧ records' = records := by
  refine ⟨_, read?_write source records, rfl, ⟨records.map ofRecord, rfl, ?_⟩,
    fun source' records' => ?_⟩
  · rw [List.forall₂_map_right_iff, List.forall₂_same]
    intro r _
    refine ⟨toRecord?_ofRecord r, ?_⟩
    show some (ofText? r.retType) = some .null ↔ _
    rw [Option.some.injEq, ofText?_eq_null]
  · rw [← ofCatalog_inj]
    constructor
    · intro h
      have hread := read?_write source' records'
      rw [h, read?_write] at hread
      exact (Option.some.inj hread).symm
    · intro h
      rw [write, h, write]

end ApiCatalog.Json
