import ApiCatalog.Proofs.TomlLines

/-!
# Numbers that are too long

Reading a document can stop without a fault, at a whole number with more digits than are
converted. The readers hand the rest of the text from one to the next, so what one of them
meets stands in the text that all of them started from. `Leaves` says both things about a
reader: what it leaves is an end of what it was given, and if it stops without a fault there
is such a number in what it was given. That goes through sequences of readers, and only one
reader is ever the cause.

So a document is refused as oversized only for a number that it holds, and a plain key with
such a number is enough to have it refused.
-/

namespace ApiCatalog.Toml

variable {α β : Type} {cs ds : List Char} {r : α → List Char} {s : β → List Char}

/-- A text holds so many digits in a row, more than are converted; there may be underscores
between them. -/
def HoldsLong (n : Nat) (cs : List Char) : Prop :=
  digitLimit < n ∧ ∃ run, run <:+: cs ∧ (∀ c ∈ run, c.isDigit = true ∨ c = '_') ∧
    run.countP Char.isDigit = n

theorem HoldsLong.of_suffix {n : Nat} (h : HoldsLong n cs) (hcs : cs <:+ ds) : HoldsLong n ds := by
  obtain ⟨hn, run, hrun, hdigits⟩ := h
  exact ⟨hn, run, hrun.trans hcs.isInfix, hdigits⟩

/-- A reader leaves an end of its text, and stops without a fault only at a long number in
it. -/
def Leaves (r : α → List Char) (cs : List Char) : Except Stop α → Prop
  | .ok a => r a <:+ cs
  | .error (.fault _ _) => True
  | .error (.oversized n) => HoldsLong n cs

theorem leaves_stop (cause : Cause) (rest : List Char) : Leaves r cs (stop cause rest) :=
  trivial

theorem Leaves.of_suffix {x : Except Stop α} (h : Leaves r cs x) (hcs : cs <:+ ds) :
    Leaves r ds x := by
  match x, h with
  | .ok _, h => exact List.IsSuffix.trans h hcs
  | .error (.fault _ _), _ => trivial
  | .error (.oversized _), h => exact HoldsLong.of_suffix h hcs

/-- The next reader goes on with what is left. -/
theorem Leaves.bind {x : Except Stop α} {f : α → Except Stop β} (hx : Leaves r cs x)
    (hf : ∀ a, Leaves s (r a) (f a)) : Leaves s cs (x >>= f) := by
  match x, hx with
  | .ok a, hx => exact (hf a).of_suffix hx
  | .error (.fault _ _), _ => trivial
  | .error (.oversized _), hx => exact hx

theorem Leaves.map {x : Except Stop α} {f : α → β} (hx : Leaves r cs x)
    (hf : ∀ a, s (f a) <:+ r a) : Leaves s cs (x.map f) := by
  match x, hx with
  | .ok a, hx => exact (hf a).trans hx
  | .error (.fault _ _), _ => trivial
  | .error (.oversized _), hx => exact hx

/-! ## Comments and blanks -/

theorem skipSpaces_suffix (cs : List Char) : skipSpaces cs <:+ cs :=
  List.dropWhile_suffix _

theorem leaves_refuse (isBad : Char → Bool) (front back rest : List Char) :
    Leaves (fun _ => rest) rest (refuse isBad front back) := by
  unfold refuse
  split
  · exact List.suffix_rfl
  · exact leaves_stop _ _

theorem leaves_skipComment (cs : List Char) : Leaves id cs (skipComment cs) := by
  unfold skipComment
  split
  · next rest =>
      have hback := List.dropWhile_suffix (l := rest) (· != '\n')
      refine Leaves.of_suffix ?_ (hback.trans (List.suffix_cons _ _))
      exact (leaves_refuse _ _ _ _).bind fun _ => List.suffix_rfl
  · exact List.suffix_rfl

theorem leaves_skipFiller (fuel : Nat) (cs : List Char) : Leaves id cs (skipFiller fuel cs) := by
  induction fuel generalizing cs with
  | zero => exact List.suffix_rfl
  | succ fuel ih =>
      have hcs := List.dropWhile_suffix (l := cs) isSpaceOrLine
      unfold skipFiller
      split
      · next rest hrest =>
          rw [hrest] at hcs
          exact ((leaves_skipComment _).bind ih).of_suffix hcs
      · exact hcs

/-! ## Strings -/

theorem leaves_hexEscape (width : Nat) (cs : List Char) :
    Leaves Prod.snd cs (hexEscape width cs) := by
  unfold hexEscape
  dsimp only
  split
  · split
    · exact leaves_stop _ _
    · split
      · exact List.drop_suffix _ _
      · exact leaves_stop _ _
  · exact leaves_stop _ _

theorem leaves_escapeIn (multiline : Bool) (cs : List Char) :
    Leaves Prod.snd cs (escapeIn multiline cs) := by
  unfold escapeIn
  split
  · exact leaves_stop _ _
  · exact (leaves_hexEscape 4 _).of_suffix (List.suffix_cons _ _)
  · exact (leaves_hexEscape 8 _).of_suffix (List.suffix_cons _ _)
  · next c rest _ _ =>
      split
      · exact (List.dropWhile_suffix _).trans (List.suffix_cons _ _)
      · split
        · have hrest := (skipSpaces_suffix rest).trans (List.suffix_cons c rest)
          split
          · exact List.nil_suffix
          · next hline =>
              rw [hline] at hrest
              exact (List.dropWhile_suffix _).trans ((List.suffix_cons _ _).trans hrest)
          · exact leaves_stop _ _
        · split
          · exact List.suffix_cons _ _
          · exact leaves_stop _ _

theorem leaves_basicText (multiline : Bool) (fuel : Nat) (cs : List Char) :
    Leaves Prod.snd cs (basicText multiline fuel cs) := by
  induction fuel generalizing cs with
  | zero => exact leaves_stop _ _
  | succ fuel ih =>
      cases cs with
      | nil => exact leaves_stop _ _
      | cons c rest =>
          have hmore (front : List Char) (rest' : List Char) : Leaves Prod.snd rest'
              (basicText multiline fuel rest' >>= fun read => pure (front ++ read.1, read.2)) :=
            (ih rest').bind fun _ => List.suffix_rfl
          unfold basicText
          split
          · split
            · exact List.suffix_cons _ _
            · split
              · exact (List.suffix_cons _ _).trans ((List.suffix_cons _ _).trans
                  (List.suffix_cons _ _))
              · exact (hmore ['"'] _).of_suffix (List.suffix_cons _ _)
          · split
            · exact ((leaves_escapeIn _ _).bind fun read => hmore read.1 read.2).of_suffix
                (List.suffix_cons _ _)
            · generalize (if multiline = true then isControlInLines c else isControl c) = bad
              cases bad with
              | true => exact leaves_stop _ _
              | false => exact (hmore [c] _).of_suffix (List.suffix_cons _ _)

theorem suffix_of_cutAt? {mark front back : List Char} (h : cutAt? mark cs = some (front, back)) :
    back <:+ cs := by
  induction cs generalizing front with
  | nil => cases h
  | cons c rest ih =>
      rw [cutAt?] at h
      split at h
      · cases h
        exact List.suffix_rfl
      · obtain ⟨⟨front', back'⟩, hcut, heq⟩ := Option.map_eq_some_iff.mp h
        cases heq
        exact (ih hcut).trans (List.suffix_cons _ _)

theorem leaves_literalString (cs : List Char) : Leaves Prod.snd cs (literalString cs) := by
  unfold literalString
  split
  · exact leaves_stop _ _
  · next front back hcut =>
      refine ((leaves_refuse _ _ _ _).bind fun _ => ?_).of_suffix (suffix_of_cutAt? hcut)
      exact List.drop_suffix _ _

theorem skipFirstLine_suffix (cs : List Char) : skipFirstLine cs <:+ cs := by
  unfold skipFirstLine
  split
  · exact List.suffix_cons _ _
  · exact List.suffix_rfl

theorem extraMarks_suffix (mark : Char) (text cs : List Char) :
    (extraMarks mark text cs).2 <:+ cs := by
  unfold extraMarks
  split
  · split
    · exact (List.suffix_cons _ _).trans (List.suffix_cons _ _)
    · split
      · exact List.suffix_cons _ _
      · exact List.suffix_rfl
  · split
    · exact List.nil_suffix
    · exact List.suffix_rfl
  · exact List.suffix_rfl

theorem leaves_basicLines (cs : List Char) : Leaves Prod.snd cs (basicLines cs) := by
  refine ((leaves_basicText _ _ _).bind fun read => ?_).of_suffix (skipFirstLine_suffix cs)
  exact extraMarks_suffix _ _ _

theorem leaves_literalLines (cs : List Char) : Leaves Prod.snd cs (literalLines cs) := by
  unfold literalLines
  split
  · exact leaves_stop _ _
  · next front back hcut =>
      refine ((leaves_refuse _ _ _ _).bind fun _ => ?_).of_suffix
        ((suffix_of_cutAt? hcut).trans (skipFirstLine_suffix cs))
      exact (extraMarks_suffix _ _ _).trans (List.drop_suffix _ _)

/-! ## Keys -/

theorem leaves_keyPart (cs : List Char) : Leaves Prod.snd cs (keyPart cs) := by
  unfold keyPart
  split
  · refine Leaves.of_suffix ?_ (List.suffix_cons _ _)
    exact (leaves_literalString _).bind fun _ => List.suffix_rfl
  · refine Leaves.of_suffix ?_ (List.suffix_cons _ _)
    exact (leaves_basicText _ _ _).bind fun _ => List.suffix_rfl
  · dsimp only
    split
    · exact leaves_stop _ _
    · exact List.drop_suffix _ _

theorem leaves_keyTail (fuel : Nat) (cs : List Char) : Leaves Prod.snd cs (keyTail fuel cs) := by
  induction fuel generalizing cs with
  | zero => exact List.suffix_rfl
  | succ fuel ih =>
      have hcs := skipSpaces_suffix cs
      unfold keyTail
      split
      · next rest hrest =>
          rw [hrest] at hcs
          refine ((leaves_keyPart _).bind fun read => ?_).of_suffix
            ((skipSpaces_suffix rest).trans ((List.suffix_cons _ _).trans hcs))
          exact (ih read.2).bind fun _ => List.suffix_rfl
      · exact hcs

theorem leaves_key (cs : List Char) : Leaves Prod.snd cs (key cs) :=
  (leaves_keyPart cs).bind fun _ => (leaves_keyTail _ _).bind fun _ => List.suffix_rfl

/-! ## Moments -/

theorem suffix_of_digitsIn? {width low high n : Nat} {rest : List Char}
    (h : digitsIn? width low high cs = some (n, rest)) : rest <:+ cs := by
  unfold digitsIn? at h
  dsimp only at h
  split at h
  · cases h
    exact List.drop_suffix _ _
  · cases h

theorem suffix_of_char? {c : Char} {rest : List Char} (h : char? c cs = some rest) :
    rest <:+ cs := by
  unfold char? at h
  split at h
  · split at h
    · cases h
      exact List.suffix_cons _ _
    · cases h
  · cases h

theorem fraction_suffix (cs : List Char) : (fraction cs).2 <:+ cs := by
  unfold fraction
  split
  · dsimp only
    split
    · exact List.suffix_rfl
    · exact (List.drop_suffix _ _).trans (List.suffix_cons _ _)
  · exact List.suffix_rfl

theorem suffix_of_clock? {time : Nat × Nat × Nat × Nat} {rest : List Char}
    (h : clock? cs = some (time, rest)) : rest <:+ cs := by
  simp only [clock?, Option.bind_eq_bind, Option.bind_eq_some_iff, Prod.exists] at h
  obtain ⟨hour, cs₁, h₁, cs₂, h₂, minute, cs₃, h₃, cs₄, h₄, second, cs₅, h₅, h⟩ := h
  cases h
  exact (fraction_suffix cs₅).trans <| (suffix_of_digitsIn? h₅).trans <|
    (suffix_of_char? h₄).trans <| (suffix_of_digitsIn? h₃).trans <|
      (suffix_of_char? h₂).trans (suffix_of_digitsIn? h₁)

theorem suffix_of_day? {day : Nat × Nat × Nat} {rest : List Char}
    (h : day? cs = some (day, rest)) : rest <:+ cs := by
  simp only [day?, Option.bind_eq_bind, Option.bind_eq_some_iff, Prod.exists] at h
  obtain ⟨year, cs₁, h₁, cs₂, h₂, month, cs₃, h₃, cs₄, h₄, day, cs₅, h₅, h⟩ := h
  cases h
  exact (suffix_of_digitsIn? h₅).trans <| (suffix_of_char? h₄).trans <|
    (suffix_of_digitsIn? h₃).trans <| (suffix_of_char? h₂).trans (suffix_of_digitsIn? h₁)

theorem getD_suffix {x : Option (α × List Char)} {a : α}
    (h : ∀ read, x = some read → read.2 <:+ cs) : (x.getD (a, cs)).2 <:+ cs := by
  cases x with
  | none => exact List.suffix_rfl
  | some read => exact h read rfl

theorem offset_suffix (cs : List Char) : (offset cs).2 <:+ cs := by
  -- what stands behind either sign
  have hsigned (sign : Int) (c : Char) (rest : List Char) (read : Option Int × List Char)
      (h : (do
        let hour ← digitsIn? 2 0 23 rest
        let minute ← digitsIn? 2 0 59 (← char? ':' hour.2)
        return (some (sign * (60 * (hour.1 : Int) + minute.1)), minute.2)) = some read) :
      read.2 <:+ c :: rest := by
    simp only [Option.bind_eq_bind, Option.bind_eq_some_iff, Prod.exists] at h
    obtain ⟨hour, cs₁, h₁, cs₂, h₂, minute, cs₃, h₃, h⟩ := h
    cases h
    exact (suffix_of_digitsIn? h₃).trans <| (suffix_of_char? h₂).trans <|
      (suffix_of_digitsIn? h₁).trans (List.suffix_cons _ _)
  unfold offset
  dsimp only
  split
  · exact List.suffix_cons _ _
  · exact List.suffix_cons _ _
  · exact getD_suffix (hsigned _ _ _)
  · exact getD_suffix (hsigned _ _ _)
  · exact List.suffix_rfl

theorem leaves_moment? {reading : Except Stop (Moment × List Char)}
    (h : moment? cs = some reading) : Leaves Prod.snd cs reading := by
  unfold moment? at h
  split at h
  · next year month day rest hday =>
      have hrest := suffix_of_day? hday
      have hchecked (m : Moment) (rest' : List Char) (hrest' : rest' <:+ cs) :
          Leaves Prod.snd cs (if 1 ≤ year && day ≤ monthLength year month then .ok (m, rest')
            else stop .invalidDate cs) := by
        split
        · exact hrest'
        · exact leaves_stop _ _
      dsimp only at h
      split at h
      · next time _ htimed =>
          cases h
          refine hchecked _ _ ((offset_suffix _).trans ?_)
          split at htimed
          · next c more =>
              split at htimed
              · exact (suffix_of_clock? htimed).trans ((List.suffix_cons _ _).trans hrest)
              · cases htimed
          · cases htimed
      · cases h
        exact hchecked _ _ hrest
  · obtain ⟨⟨time, rest⟩, hclock, rfl⟩ := Option.map_eq_some_iff.mp h
    exact suffix_of_clock? hclock

/-! ## Numbers -/

/-- Digits are read from a run of them with underscores between. -/
theorem exists_run_of_moreDigits {isDigit : Char → Bool} (hmark : isDigit '_' = false)
    (cs : List Char) :
    ∃ run, cs = run ++ (moreDigits isDigit cs).2 ∧ (∀ c ∈ run, isDigit c = true ∨ c = '_') ∧
      run.countP isDigit = (moreDigits isDigit cs).1.length := by
  fun_induction moreDigits isDigit cs with
  | case1 c rest hc digits rest' heq ih =>
      rw [heq] at ih
      obtain ⟨run, hrun, hdigits, hcount⟩ := ih
      refine ⟨'_' :: c :: run, by simp [← hrun], ?_, ?_⟩
      · simpa [hc] using hdigits
      · simp [hmark, hc, hcount]
  | case2 c rest hc => exact ⟨[], rfl, by simp, rfl⟩
  | case3 c rest _ hc digits rest' heq ih =>
      rw [heq] at ih
      obtain ⟨run, hrun, hdigits, hcount⟩ := ih
      refine ⟨c :: run, by simp [← hrun], ?_, ?_⟩
      · simpa [hc] using hdigits
      · simp [hc, hcount]
  | case4 c rest _ hc => exact ⟨[], rfl, by simp, rfl⟩
  | case5 => exact ⟨[], rfl, by simp, rfl⟩

theorem exists_run_of_digits? {isDigit : Char → Bool} (hmark : isDigit '_' = false)
    {digits rest : List Char} (h : digits? isDigit cs = some (digits, rest)) :
    ∃ run, cs = run ++ rest ∧ (∀ c ∈ run, isDigit c = true ∨ c = '_') ∧
      run.countP isDigit = digits.length := by
  unfold digits? at h
  split at h
  · next c more =>
      split at h
      · next hc =>
          obtain ⟨run, hrun, hdigits, hcount⟩ := exists_run_of_moreDigits hmark more
          cases h
          refine ⟨c :: run, by rw [List.cons_append, ← hrun], ?_, ?_⟩
          · simpa [hc] using hdigits
          · simp [hc, hcount]
      · cases h
  · cases h

theorem suffix_of_digits? {isDigit : Char → Bool} (hmark : isDigit '_' = false)
    {digits rest : List Char} (h : digits? isDigit cs = some (digits, rest)) : rest <:+ cs := by
  obtain ⟨run, hrun, -⟩ := exists_run_of_digits? hmark h
  exact ⟨run, hrun.symm⟩

theorem suffix_of_map_digits? {isDigit : Char → Bool} (hmark : isDigit '_' = false)
    {f : List Char × List Char → Nat × List Char} (hf : ∀ read, (f read).2 = read.2) {n : Nat}
    {rest : List Char} (h : (digits? isDigit cs).map f = some (n, rest)) : rest <:+ cs := by
  obtain ⟨read, hdigits, hread⟩ := Option.map_eq_some_iff.mp h
  have hrest : read.2 = rest := by rw [← hf, hread]
  rw [← hrest]
  exact suffix_of_digits? hmark hdigits

theorem suffix_of_based? {n : Nat} {rest : List Char} (h : based? cs = some (n, rest)) :
    rest <:+ cs := by
  unfold based? at h
  split at h
  · exact (suffix_of_map_digits? (by decide) (fun _ => rfl) h).trans
      (List.suffix_append ['0', 'x'] _)
  · exact (suffix_of_map_digits? (by decide) (fun _ => rfl) h).trans
      (List.suffix_append ['0', 'o'] _)
  · exact (suffix_of_map_digits? (by decide) (fun _ => rfl) h).trans
      (List.suffix_append ['0', 'b'] _)
  · cases h

theorem sign_suffix (cs : List Char) : (sign cs).2 <:+ cs := by
  unfold sign
  split
  · exact List.suffix_cons _ _
  · exact List.suffix_cons _ _
  · exact List.suffix_rfl

theorem exists_run_of_wholePart? {digits rest : List Char}
    (h : wholePart? cs = some (digits, rest)) :
    ∃ run, cs = run ++ rest ∧ (∀ c ∈ run, c.isDigit = true ∨ c = '_') ∧
      run.countP Char.isDigit = digits.length := by
  unfold wholePart? at h
  split at h
  · cases h
    exact ⟨['0'], rfl, List.forall_mem_singleton.mpr (.inl rfl), rfl⟩
  · exact exists_run_of_digits? (by decide) h

theorem fractionPart_suffix (cs : List Char) : (fractionPart cs).2 <:+ cs := by
  unfold fractionPart
  split
  · refine getD_suffix fun read hread => ?_
    exact (suffix_of_digits? (by decide) hread).trans (List.suffix_cons _ _)
  · exact List.suffix_rfl

theorem exponentPart_suffix (cs : List Char) : (exponentPart cs).2 <:+ cs := by
  unfold exponentPart
  split
  · next c rest =>
      split
      · dsimp only
        split
        · next digits rest' hdigits =>
            exact (suffix_of_digits? (by decide) hdigits).trans
              ((sign_suffix rest).trans (List.suffix_cons c rest))
        · exact List.suffix_rfl
      · exact List.suffix_rfl
  · exact List.suffix_rfl

/-- This is the reader that can stop without a fault: it has the digits before it. -/
theorem leaves_number? {reading : Except Stop (Value × List Char)} (h : number? cs = some reading) :
    Leaves Prod.snd cs reading := by
  unfold number? at h
  split at h
  · next n rest hbased =>
      cases h
      exact suffix_of_based? hbased
  · have hsign := sign_suffix cs
    generalize sign cs = signed at h hsign
    obtain ⟨⟨whole, rest⟩, hwhole, h⟩ := Option.bind_eq_some_iff.mp h
    obtain ⟨run, hrun, hdigits, hcount⟩ := exists_run_of_wholePart? hwhole
    have hrest : rest <:+ cs := List.IsSuffix.trans ⟨run, hrun.symm⟩ hsign
    have hend := (exponentPart_suffix _).trans ((fractionPart_suffix rest).trans hrest)
    dsimp only at h
    split at h
    · cases h
      unfold wholeNumber
      split
      · next hlong =>
          have hinfix : run <:+: signed.2 := ⟨[], rest, by rw [List.nil_append, ← hrun]⟩
          exact ⟨hlong, run, hinfix.trans hsign.isInfix, hdigits, hcount⟩
      · exact hend
    · cases h
      exact hend

theorem leaves_special? {reading : Except Stop (Value × List Char)}
    (h : special? cs = some reading) : Leaves Prod.snd cs reading := by
  unfold special? at h
  dsimp only at h
  have hsign := sign_suffix cs
  split at h
  · next rest hrest =>
      cases h
      rw [hrest] at hsign
      exact ((List.suffix_append ['i', 'n', 'f'] rest)).trans hsign
  · next rest hrest =>
      cases h
      rw [hrest] at hsign
      exact ((List.suffix_append ['n', 'a', 'n'] rest)).trans hsign
  · cases h

/-! ## Values and statements -/

/-- The readers that call one another, one unit of fuel at a time. -/
structure LeavesAt (fuel : Nat) : Prop where
  value : ∀ cs, Leaves Prod.snd cs (value fuel cs)
  arrayItems : ∀ cs, Leaves Prod.snd cs (arrayItems fuel cs)
  inlineFields : ∀ inline_ cs, Leaves Prod.snd cs (inlineFields fuel inline_ cs)
  keyValue : ∀ cs, Leaves (fun read => read.2.2) cs (keyValue fuel cs)

theorem LeavesAt.value_succ {fuel : Nat} (h : LeavesAt fuel) (cs : List Char) :
    Leaves Prod.snd cs (Toml.value (fuel + 1) cs) := by
  have htext {x : Except Stop (List Char × List Char)} {rest : List Char}
      (hx : Leaves Prod.snd rest x) (hrest : rest <:+ cs) :
      Leaves Prod.snd cs (x.map fun read => (Value.text (String.ofList read.1), read.2)) :=
    (hx.of_suffix hrest).map fun _ => List.suffix_rfl
  unfold Toml.value
  dsimp only
  split
  · exact htext (leaves_basicLines _) (List.suffix_append ['"', '"', '"'] _)
  · exact htext (leaves_basicText _ _ _) (List.suffix_cons _ _)
  · exact htext (leaves_literalLines _) (List.suffix_append ['\'', '\'', '\''] _)
  · exact htext (leaves_literalString _) (List.suffix_cons _ _)
  · exact List.suffix_append ['t', 'r', 'u', 'e'] _
  · exact List.suffix_append ['f', 'a', 'l', 's', 'e'] _
  · refine Leaves.of_suffix ?_ (List.suffix_cons _ _)
    refine (leaves_skipFiller _ _).bind fun rest => ?_
    exact (h.arrayItems rest).bind fun _ => List.suffix_rfl
  · next rest =>
      have hrest := (skipSpaces_suffix rest).trans (List.suffix_cons '\x7b' rest)
      split
      · next hclose =>
          rw [hclose] at hrest
          exact (List.suffix_cons _ _).trans hrest
      · refine Leaves.of_suffix ?_ hrest
        exact (h.inlineFields _ _).bind fun _ => List.suffix_rfl
  · split
    · next reading hmoment => exact (leaves_moment? hmoment).map fun _ => List.suffix_rfl
    · split
      · next reading hnumber =>
          rcases Option.or_eq_some_iff.mp hnumber with hnumber | ⟨-, hspecial⟩
          · exact leaves_number? hnumber
          · exact leaves_special? hspecial
      · exact leaves_stop _ _

theorem LeavesAt.arrayItems_succ {fuel : Nat} (h : LeavesAt fuel) (cs : List Char) :
    Leaves Prod.snd cs (Toml.arrayItems (fuel + 1) cs) := by
  by_cases hclose : ∃ rest, cs = ']' :: rest
  · obtain ⟨rest, rfl⟩ := hclose
    exact List.suffix_cons _ _
  · rw [Toml.arrayItems]
    · refine (h.value cs).bind fun first => (leaves_skipFiller _ _).bind fun rest => ?_
      dsimp only
      split
      · exact List.suffix_cons _ _
      · refine Leaves.of_suffix ?_ (List.suffix_cons _ _)
        refine (leaves_skipFiller _ _).bind fun rest => ?_
        exact (h.arrayItems rest).bind fun _ => List.suffix_rfl
      · exact leaves_stop _ _
    · exact fun rest hrest => hclose ⟨rest, hrest⟩

theorem LeavesAt.inlineFields_succ {fuel : Nat} (h : LeavesAt fuel) (inline_ : Inline)
    (cs : List Char) : Leaves Prod.snd cs (Toml.inlineFields (fuel + 1) inline_ cs) := by
  unfold Toml.inlineFields
  refine (h.keyValue cs).bind fun read => ?_
  obtain ⟨k, v, rest⟩ := read
  dsimp only
  split
  · exact leaves_stop _ _
  · next more _ =>
      have hrest := skipSpaces_suffix rest
      split
      · next hclose =>
          rw [hclose] at hrest
          exact (List.suffix_cons _ _).trans hrest
      · next hcomma =>
          rw [hcomma] at hrest
          exact (h.inlineFields more _).of_suffix
            ((skipSpaces_suffix _).trans ((List.suffix_cons _ _).trans hrest))
      · exact leaves_stop _ _

theorem LeavesAt.keyValue_succ {fuel : Nat} (h : LeavesAt fuel) (cs : List Char) :
    Leaves (fun read => read.2.2) cs (Toml.keyValue (fuel + 1) cs) := by
  unfold Toml.keyValue
  refine (leaves_key cs).bind fun read => ?_
  obtain ⟨k, rest⟩ := read
  dsimp only
  split
  · refine Leaves.of_suffix ?_ ((skipSpaces_suffix _).trans (List.suffix_cons _ _))
    exact (h.value _).bind fun _ => List.suffix_rfl
  · exact leaves_stop _ _

/-- The readers that go round in a circle leave ends of their texts with any fuel. -/
theorem leavesAt (fuel : Nat) : LeavesAt fuel := by
  induction fuel with
  | zero =>
      exact ⟨fun _ => leaves_stop _ _, fun _ => leaves_stop _ _, fun _ _ => leaves_stop _ _,
        fun _ => leaves_stop _ _⟩
  | succ fuel ih =>
      exact ⟨ih.value_succ, ih.arrayItems_succ, ih.inlineFields_succ, ih.keyValue_succ⟩

theorem leaves_statement (fuel : Nat) (doc : Document) (cs : List Char) :
    Leaves Prod.snd cs (statement fuel doc cs) := by
  unfold statement
  split
  · refine Leaves.of_suffix ?_ ((skipSpaces_suffix _).trans (List.suffix_append ['[', '['] _))
    refine (leaves_key _).bind fun read => ?_
    obtain ⟨k, rest⟩ := read
    dsimp only
    split
    · exact leaves_stop _ _
    · split
      · exact List.suffix_append [']', ']'] _
      · exact leaves_stop _ _
  · refine Leaves.of_suffix ?_ ((skipSpaces_suffix _).trans (List.suffix_cons _ _))
    refine (leaves_key _).bind fun read => ?_
    obtain ⟨k, rest⟩ := read
    dsimp only
    split
    · exact leaves_stop _ _
    · split
      · exact List.suffix_cons _ _
      · exact leaves_stop _ _
  · split
    · exact List.suffix_rfl
    · exact List.suffix_rfl
    · split
      · refine ((leavesAt fuel).keyValue _).bind fun read => ?_
        obtain ⟨k, v, rest⟩ := read
        dsimp only
        split
        · exact leaves_stop _ _
        · exact List.suffix_rfl
      · exact leaves_stop _ _

theorem leaves_statements (fuel : Nat) (doc : Document) (cs : List Char) :
    Leaves (fun _ => []) cs (statements fuel doc cs) := by
  induction fuel generalizing doc cs with
  | zero => exact List.nil_suffix
  | succ fuel ih =>
      have hcs := skipSpaces_suffix cs
      unfold statements
      split
      · exact List.nil_suffix
      · next rest hrest =>
          rw [hrest] at hcs
          exact (ih doc rest).of_suffix ((List.suffix_cons _ _).trans hcs)
      · refine Leaves.of_suffix ?_ hcs
        refine (leaves_statement _ _ _).bind fun read => ?_
        obtain ⟨doc, rest⟩ := read
        refine Leaves.of_suffix ?_ (skipSpaces_suffix rest)
        refine (leaves_skipComment _).bind fun rest => ?_
        split
        · exact List.nil_suffix
        · exact (ih doc _).of_suffix (List.suffix_cons _ _)
        · exact leaves_stop _ _

/-- A document that is refused as oversized holds a number that is too long. -/
theorem holdsLong_of_read {source : List Char} {n : Nat}
    (h : read source = .error (.oversized n)) : HoldsLong n source := by
  have hleaves := leaves_statements (source.length + 1) {} source
  unfold read at h
  split at h
  · cases h
  · next stop hstop =>
      rw [hstop] at hleaves
      cases stop with
      | fault cause remaining => cases h
      | oversized digits =>
          cases h
          exact hleaves

/-! ## A long number under a plain key -/

theorem ne_of_isDigit {c d : Char} (hc : c.isDigit = true) (hd : d.isDigit = false) : c ≠ d := by
  rintro rfl
  rw [hc] at hd
  cases hd

theorem char?_eq_none {c : Char} {digits : List Char} (hc : c.isDigit = false)
    (h : ∀ d ∈ digits, d.isDigit = true) : char? c digits = none := by
  cases digits with
  | nil => rfl
  | cons d rest =>
      have hd : (d == c) = false := beq_eq_false_iff_ne.mpr (ne_of_isDigit (h d (by simp)) hc)
      rw [char?, hd]
      rfl

theorem digits_of_digitsIn? {width low high n : Nat} {rest : List Char}
    (h : ∀ c ∈ cs, c.isDigit = true) (hread : digitsIn? width low high cs = some (n, rest)) :
    ∀ c ∈ rest, c.isDigit = true :=
  fun c hc => h c ((suffix_of_digitsIn? hread).subset hc)

/-- Digits alone are no moment. -/
theorem moment?_eq_none {digits : List Char} (h : ∀ c ∈ digits, c.isDigit = true) :
    moment? digits = none := by
  have hday : day? digits = none := by
    rw [Option.eq_none_iff_forall_ne_some]
    rintro ⟨day, rest⟩ hday
    simp only [day?, Option.bind_eq_bind, Option.bind_eq_some_iff, Prod.exists] at hday
    obtain ⟨year, cs₁, h₁, cs₂, h₂, -⟩ := hday
    rw [char?_eq_none (by decide) (digits_of_digitsIn? h h₁)] at h₂
    cases h₂
  have hclock : clock? digits = none := by
    rw [Option.eq_none_iff_forall_ne_some]
    rintro ⟨time, rest⟩ hclock
    simp only [clock?, Option.bind_eq_bind, Option.bind_eq_some_iff, Prod.exists] at hclock
    obtain ⟨hour, cs₁, h₁, cs₂, h₂, -⟩ := hclock
    rw [char?_eq_none (by decide) (digits_of_digitsIn? h h₁)] at h₂
    cases h₂
  rw [moment?, hday, hclock]
  rfl

theorem moreDigits_digits {digits : List Char} (h : ∀ c ∈ digits, c.isDigit = true) :
    moreDigits Char.isDigit digits = (digits, []) := by
  induction digits with
  | nil => rfl
  | cons c rest ih =>
      obtain ⟨hc, hrest⟩ := List.forall_mem_cons.mp h
      rw [moreDigits]
      · rw [if_pos hc, ih hrest]
      · rintro d more rfl -
        cases hc

/-- Too many digits are read to their end and refused. -/
theorem number?_long {d : Char} {digits : List Char} (hzero : d ≠ '0')
    (h : ∀ c ∈ d :: digits, c.isDigit = true) (hlong : digitLimit < (d :: digits).length) :
    number? (d :: digits) = some (.error (.oversized (d :: digits).length)) := by
  have hd := h d List.mem_cons_self
  have hbased : based? (d :: digits) = none := by
    rw [based?.eq_def]
    split
    · next heq => exact absurd (List.cons.inj heq).1 hzero
    · next heq => exact absurd (List.cons.inj heq).1 hzero
    · next heq => exact absurd (List.cons.inj heq).1 hzero
    · rfl
  have hsign : sign (d :: digits) = (false, d :: digits) := by
    rw [sign.eq_def]
    split
    · next heq => exact absurd (List.cons.inj heq).1 (ne_of_isDigit hd (by decide))
    · next heq => exact absurd (List.cons.inj heq).1 (ne_of_isDigit hd (by decide))
    · rfl
  have hwhole : wholePart? (d :: digits) = some (d :: digits, []) := by
    rw [wholePart?.eq_def]
    split
    · next heq => exact absurd (List.cons.inj heq).1 hzero
    · rw [digits?, if_pos hd, moreDigits_digits (List.forall_mem_cons.mp h).2]
  rw [number?, hbased, hsign]
  show (wholePart? (d :: digits) >>= fun _ => _) = _
  rw [hwhole]
  show some ((wholeNumber false (d :: digits)).map _) = _
  rw [wholeNumber, if_pos hlong]
  rfl

theorem value_long {d : Char} {digits : List Char} (hzero : d ≠ '0')
    (h : ∀ c ∈ d :: digits, c.isDigit = true) (hlong : digitLimit < (d :: digits).length)
    (fuel : Nat) :
    value (fuel + 1) (d :: digits) = .error (.oversized (d :: digits).length) := by
  have hne (c : Char) (hc : c.isDigit = false) : d ≠ c :=
    ne_of_isDigit (h d List.mem_cons_self) hc
  rw [value.eq_def]
  dsimp only
  split
  case h_9 =>
    rw [moment?_eq_none h, number?_long hzero h hlong]
    rfl
  all_goals
    next heq => exact absurd (List.cons.inj heq).1 (hne _ (by decide))

/-- A plain key with too many digits behind it is enough to have a document refused. -/
theorem read_long {name : String} (hname : Bare name) {d : Char} {digits : List Char}
    (hzero : d ≠ '0') (h : ∀ c ∈ d :: digits, c.isDigit = true)
    (hlong : digitLimit < (d :: digits).length) :
    read (name.toList ++ ' ' :: '=' :: ' ' :: d :: digits) =
      .error (.oversized (d :: digits).length) := by
  have hspace : isSpace d = false := by
    rw [isSpace, beq_eq_false_iff_ne.mpr (ne_of_isDigit (h d List.mem_cons_self) (by decide)),
      beq_eq_false_iff_ne.mpr (ne_of_isDigit (h d List.mem_cons_self) (by decide))]
    rfl
  obtain ⟨c, front, hchars⟩ := List.exists_cons_of_ne_nil hname.nonempty
  have hc : isBare c = true := hname.bare c (hchars ▸ List.mem_cons_self)
  have hkey (fuel : Nat) :
      keyValue (fuel + 2) (name.toList ++ ' ' :: '=' :: ' ' :: d :: digits) =
        .error (.oversized (d :: digits).length) := by
    rw [keyValue_bare hname hspace, value_long hzero h hlong, error_bind]
  rw [hchars, List.cons_append] at hkey ⊢
  rw [read, statements_eq (isSpaceOrLine_of_isBare hc), statement_bare hc, hkey]
  rfl

end ApiCatalog.Toml
