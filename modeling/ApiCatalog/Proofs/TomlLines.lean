import ApiCatalog.Proofs.QuotedText

/-!
# Written lines are read back

A written value is a text or a list of texts, and a written line gives such a
value to a plain name. Each reader is followed over what the writer puts there,
with anything behind it that the writer could go on with: a value is followed by
a comma or by the end of its line.

The reader of statements counts its fuel down line by line. `Reads` leaves the
fuel out: it says what is read from any fuel above the length of what is left.
That is what the reader starts with, and a line keeps it, being longer than the
one unit it costs.
-/

namespace ApiCatalog.Toml

open Text (escape)

/-! ## Texts -/

/-- A text between double quotes. -/
def quotedChars (s : String) : List Char :=
  '"' :: s.toList.flatMap (escape '"') ++ ['"']

theorem Writable.quote?_eq {s : String} (h : Writable s) :
    Toml.quote? s = some (String.ofList (quotedChars s)) := by
  rw [Toml.quote?, h.mendHex_requote, Option.map_some]
  refine congrArg some (String.toList_inj.mp ?_)
  simp [quotedChars]

theorem value_quote {cs : List Char} (h : ∀ rest, cs ≠ '"' :: '"' :: rest) (fuel : Nat) :
    value (fuel + 1) ('"' :: cs) =
      (basicString cs).map fun (text, rest) => (.text (String.ofList text), rest) := by
  rw [value]
  exact h

theorem Writable.value_quotedChars {s : String} (h : Writable s) {rest : List Char}
    (hrest : rest.head? ≠ some '"') (fuel : Nat) :
    value (fuel + 1) (quotedChars s ++ rest) = .ok (.text s, rest) := by
  have hform : quotedChars s ++ rest =
      '"' :: (s.toList.flatMap (escape '"') ++ '"' :: rest) := by
    simp [quotedChars]
  rw [hform, value_quote, h.basicString]
  · show Except.ok (Value.text (String.ofList s.toList), rest) = _
    rw [String.ofList_toList]
  · intro tail htail
    cases hinside : s.toList.flatMap (escape '"') with
    | nil =>
        rw [hinside] at htail
        rw [(List.cons.inj htail).2] at hrest
        exact hrest rfl
    | cons c inside =>
        have hhead : (s.toList.flatMap (escape '"')).head? = some '"' := by
          rw [hinside] at htail ⊢
          rw [(List.cons.inj htail).1]
          rfl
        rcases Text.head?_flatMap_escape hhead with hhead | ⟨-, hhead⟩
        · cases hhead
        · exact hhead rfl

/-! ## Lists -/

theorem skipFiller_of_head {c : Char} (hspace : isSpaceOrLine c = false)
    (hcomment : c ≠ '#') (fuel : Nat) (rest : List Char) :
    skipFiller (fuel + 1) (c :: rest) = .ok (c :: rest) := by
  rw [skipFiller, List.dropWhile_cons_of_neg (by rw [hspace]; decide)]
  split
  · next h => exact absurd (List.cons.inj h).1 hcomment
  · rfl

theorem skipFiller_blank (fuel : Nat) (cs : List Char) :
    skipFiller (fuel + 1) (' ' :: cs) = skipFiller (fuel + 1) cs := by
  rw [skipFiller, skipFiller, List.dropWhile_cons_of_pos (by decide)]

/-- The items of a list and its end: every text with a comma behind it, and a
blank in front of all but the first. -/
def itemsChars : List String → List Char
  | [] => [']']
  | [s] => quotedChars s ++ [',', ']']
  | s :: rest => quotedChars s ++ ',' :: ' ' :: itemsChars rest

theorem arrayItems_step {fuel : Nat} {cs more next rest : List Char} {v : Value}
    {items : List Value} (hcs : cs.head? ≠ some ']')
    (hvalue : value fuel cs = .ok (v, ',' :: more))
    (hskip : skipFiller (more.length + 1) more = .ok next)
    (hitems : arrayItems fuel next = .ok (items, rest)) :
    arrayItems (fuel + 1) cs = .ok (v :: items, rest) := by
  rw [arrayItems, hvalue, ok_bind]
  · simp only [skipFiller_of_head (c := ',') (by decide) (by decide), ok_bind, hskip,
      hitems]
    rfl
  · rintro rest rfl
    exact hcs rfl

theorem head?_quotedChars_ne (s : String) (rest : List Char) :
    (quotedChars s ++ rest).head? ≠ some ']' := by
  show some '"' ≠ some ']'
  decide

theorem head?_itemsChars (items : List String) (rest : List Char) :
    ∃ c, (itemsChars items ++ rest).head? = some c ∧ (c = ']' ∨ c = '"') := by
  cases items with
  | nil => exact ⟨']', rfl, .inl rfl⟩
  | cons s items =>
      cases items <;> exact ⟨'"', rfl, .inr rfl⟩

theorem skipFiller_itemsChars (items : List String) (fuel : Nat) (rest : List Char) :
    skipFiller (fuel + 1) (itemsChars items ++ rest) = .ok (itemsChars items ++ rest) := by
  obtain ⟨c, hhead, hc⟩ := head?_itemsChars items rest
  cases hcs : itemsChars items ++ rest with
  | nil =>
      rw [hcs] at hhead
      cases hhead
  | cons d tail =>
      rw [hcs] at hhead
      cases hhead
      rcases hc with rfl | rfl <;>
        exact skipFiller_of_head (by decide) (by decide) fuel tail

theorem arrayItems_itemsChars {items : List String} (h : ∀ s ∈ items, Writable s)
    (rest : List Char) {fuel : Nat} (hfuel : items.length < fuel) :
    arrayItems fuel (itemsChars items ++ rest) = .ok (items.map .text, rest) := by
  induction items generalizing fuel with
  | nil =>
      obtain ⟨fuel, rfl⟩ := Nat.exists_eq_add_of_lt hfuel
      rfl
  | cons s items ih =>
      rw [List.forall_mem_cons] at h
      rw [List.length_cons] at hfuel
      obtain ⟨fuel, rfl⟩ : ∃ n, fuel = n + 2 := ⟨fuel - 2, by omega⟩
      have hitems := ih h.2 (Nat.lt_of_succ_lt_succ hfuel)
      have hskip := skipFiller_itemsChars items
      cases items with
      | nil =>
          have hform : itemsChars [s] ++ rest = quotedChars s ++ ',' :: ']' :: rest := by
            simp [itemsChars]
          rw [hform]
          exact arrayItems_step (head?_quotedChars_ne s _)
            (h.1.value_quotedChars (by simp) fuel) (hskip _ rest) hitems
      | cons t items =>
          have hform : itemsChars (s :: t :: items) ++ rest =
              quotedChars s ++ ',' :: ' ' :: (itemsChars (t :: items) ++ rest) := by
            simp [itemsChars]
          rw [hform]
          refine arrayItems_step (head?_quotedChars_ne s _)
            (h.1.value_quotedChars (by simp) fuel) ?_ hitems
          rw [skipFiller_blank]
          exact hskip _ rest

/-- A list of texts between brackets. -/
def listChars : List String → List Char
  | [] => ['[', ']']
  | s :: items => '[' :: ' ' :: itemsChars (s :: items)

theorem intercalate_quotedChars (s : String) (items : List String) :
    [',', ' '].intercalate (quotedChars s :: items.map quotedChars) ++ [',', ']'] =
      itemsChars (s :: items) := by
  induction items generalizing s with
  | nil =>
      rw [List.map_nil, List.intercalate_singleton]
      rfl
  | cons t items ih =>
      rw [List.map_cons, List.intercalate_cons_cons, itemsChars, ← ih t,
        List.append_assoc, List.append_assoc]
      · rfl
      · exact List.cons_ne_nil t items

theorem quoteList?_eq {items : List String} (h : ∀ s ∈ items, Writable s) :
    quoteList? items = some (String.ofList (listChars items)) := by
  cases items with
  | nil => rfl
  | cons s items =>
      rw [quoteList?, mapM_eq_some_map fun t ht => (h t ht).quote?_eq]
      · refine congrArg some (String.toList_inj.mp ?_)
        have hjoin := intercalate_quotedChars s items
        simp [listChars, ← hjoin, String.toList_intercalate, Function.comp_def]
      · exact List.cons_ne_nil s items

theorem value_listChars {items : List String} (h : ∀ s ∈ items, Writable s)
    (rest : List Char) {fuel : Nat} (hfuel : items.length < fuel) :
    value (fuel + 1) (listChars items ++ rest) =
      .ok (.list (items.map .text), rest) := by
  have hitems := arrayItems_itemsChars h rest hfuel
  have hskip := fun fuel => skipFiller_itemsChars items fuel rest
  cases items with
  | nil =>
      show value (fuel + 1) ('[' :: (itemsChars [] ++ rest)) = _
      rw [value, hskip, ok_bind, hitems]
      rfl
  | cons s items =>
      show value (fuel + 1) ('[' :: ' ' :: (itemsChars (s :: items) ++ rest)) = _
      rw [value, skipFiller_blank, hskip, ok_bind, hitems]
      rfl

theorem length_itemsChars (items : List String) :
    items.length < (itemsChars items).length := by
  induction items with
  | nil => exact Nat.zero_lt_one
  | cons s items ih =>
      have hs : 0 < (quotedChars s).length := Nat.zero_lt_succ _
      cases items with
      | nil =>
          simp only [itemsChars, List.length_append, List.length_cons]
          omega
      | cons t items =>
          simp only [itemsChars, List.length_append, List.length_cons] at ih ⊢
          omega

/-- The written form of a value: it is read back in front of a line end, from any
fuel above its length. -/
structure Writes (v : Value) (cs : List Char) : Prop where
  start : ∃ c rest, cs = c :: rest ∧ isSpace c = false
  read : ∀ fuel rest, cs.length < fuel →
    value fuel (cs ++ '\n' :: rest) = .ok (v, '\n' :: rest)

theorem Writable.writes {s : String} (h : Writable s) :
    Writes (.text s) (quotedChars s) where
  start := ⟨'"', _, rfl, by decide⟩
  read := by
    intro fuel rest hfuel
    obtain ⟨fuel, rfl⟩ := Nat.exists_eq_add_of_lt hfuel
    exact h.value_quotedChars (by simp) _

theorem writes_listChars {items : List String} (h : ∀ s ∈ items, Writable s) :
    Writes (.list (items.map .text)) (listChars items) where
  start := by
    cases items <;> exact ⟨'[', _, rfl, by decide⟩
  read := by
    intro fuel rest hfuel
    have hlength : items.length + 1 < (listChars items).length := by
      cases items with
      | nil => decide
      | cons s items =>
          have := length_itemsChars (s :: items)
          simp only [listChars, List.length_cons] at this ⊢
          omega
    obtain ⟨fuel, rfl⟩ : ∃ n, fuel = n + 1 := ⟨fuel - 1, by omega⟩
    exact value_listChars h _ (by omega)

/-! ## Keys -/

/-- A plain name: not empty, and without quotes in a key. -/
structure Bare (name : String) : Prop where
  nonempty : name.toList ≠ []
  bare : ∀ c ∈ name.toList, isBare c = true

instance (name : String) : Decidable (Bare name) :=
  decidable_of_iff (name.toList ≠ [] ∧ name.toList.all isBare = true)
    ⟨fun h => ⟨h.1, List.all_eq_true.mp h.2⟩, fun h => ⟨h.1, List.all_eq_true.mpr h.2⟩⟩

theorem keyPart_bare {name : String} (h : Bare name) {tail : List Char}
    (htail : ∀ c, tail.head? = some c → isBare c = false) :
    keyPart (name.toList ++ tail) = .ok (name, tail) := by
  have hfront : (name.toList ++ tail).takeWhile isBare = name.toList := by
    rw [List.takeWhile_append_of_pos h.bare]
    cases tail with
    | nil => simp
    | cons c tail =>
        rw [List.takeWhile_cons_of_neg (by rw [htail c rfl]; decide), List.append_nil]
  have hquote (mark : Char) (hmark : isBare mark = false) (rest : List Char) :
      name.toList ++ tail ≠ mark :: rest := by
    intro heq
    cases hname : name.toList with
    | nil => exact h.nonempty hname
    | cons c cs =>
        have hc := h.bare c (hname ▸ List.mem_cons_self)
        rw [hname] at heq
        rw [(List.cons.inj heq).1, hmark] at hc
        cases hc
  rw [keyPart.eq_def]
  split
  · next heq => exact absurd heq (hquote _ (by decide) _)
  · next heq => exact absurd heq (hquote _ (by decide) _)
  · rw [hfront]
    simp [h.nonempty]

theorem key_bare {name : String} (h : Bare name) {tail : List Char}
    (htail : ∀ c, tail.head? = some c → isBare c = false)
    (hdot : (skipSpaces tail).head? ≠ some '.') :
    key (name.toList ++ tail) = .ok ([name], skipSpaces tail) := by
  rw [key, keyPart_bare h htail, ok_bind]
  dsimp only
  rw [keyTail]
  split
  · next heq =>
      rw [heq] at hdot
      exact absurd rfl hdot
  · rfl

/-! ## Lines -/

/-- The line that gives a name a value. -/
def lineChars (name : String) (v : List Char) : List Char :=
  name.toList ++ ' ' :: '=' :: ' ' :: v ++ ['\n']

theorem skipSpaces_of_head {c : Char} (h : isSpace c = false) (rest : List Char) :
    skipSpaces (c :: rest) = c :: rest :=
  List.dropWhile_cons_of_neg (by rw [h]; decide)

theorem keyValue_bare {name : String} (h : Bare name) {fuel : Nat} {c : Char} {cs : List Char}
    (hc : isSpace c = false) :
    keyValue (fuel + 1) (name.toList ++ ' ' :: '=' :: ' ' :: c :: cs) =
      value fuel (c :: cs) >>= fun (v, rest) => .ok ([name], v, rest) := by
  have htail : ∀ d, (' ' :: '=' :: ' ' :: c :: cs).head? = some d → isBare d = false := by
    rintro d ⟨⟩
    decide
  have hskip : skipSpaces (' ' :: '=' :: ' ' :: c :: cs) = '=' :: ' ' :: c :: cs := rfl
  have hgap : skipSpaces (' ' :: c :: cs) = c :: cs := skipSpaces_of_head hc cs
  rw [keyValue, key_bare h htail (by rw [hskip]; simp), ok_bind, hskip]
  show (value fuel (skipSpaces (' ' :: c :: cs)) >>= fun r => pure ([name], r.1, r.2)) = _
  rw [hgap]
  rfl

/-- What is read from any fuel above the length of what is left. -/
def Reads (doc : Document) (cs : List Char) (final : Document) : Prop :=
  ∀ fuel, cs.length < fuel → statements fuel doc cs = .ok final

theorem reads_nil (doc : Document) : Reads doc [] doc := by
  intro fuel hfuel
  obtain ⟨fuel, rfl⟩ := Nat.exists_eq_add_of_lt hfuel
  rfl

theorem reads_blank {doc final : Document} {rest : List Char}
    (h : Reads doc rest final) : Reads doc ('\n' :: rest) final := by
  intro fuel hfuel
  obtain ⟨fuel, rfl⟩ : ∃ n, fuel = n + 1 := ⟨fuel - 1, by omega⟩
  rw [List.length_cons] at hfuel
  exact h fuel (by omega)

/-- Statements that start with no blank: the first one, the end of its line, the others. -/
theorem statements_eq {doc : Document} {c : Char} {cs : List Char} {fuel : Nat}
    (hspace : isSpaceOrLine c = false) :
    statements (fuel + 1) doc (c :: cs) =
      statement (2 * (c :: cs).length + 2) doc (c :: cs) >>= fun (doc, rest) =>
        skipComment (skipSpaces rest) >>= fun rest =>
          match rest with
          | [] => .ok doc
          | '\n' :: rest => statements fuel doc rest
          | rest => stop .expectedLineEnd rest := by
  rw [isSpaceOrLine, Bool.or_eq_false_iff, beq_eq_false_iff_ne] at hspace
  rw [statements, skipSpaces_of_head hspace.1]
  split
  · next heq => cases heq
  · next heq => exact absurd (List.cons.inj heq).1 hspace.2
  · rfl

theorem reads_statement {doc doc' final : Document} {c : Char} {cs rest : List Char}
    (hspace : isSpaceOrLine c = false)
    (hstatement : statement (2 * (c :: cs).length + 2) doc (c :: cs) =
      .ok (doc', '\n' :: rest))
    (hlength : rest.length < (c :: cs).length) (h : Reads doc' rest final) :
    Reads doc (c :: cs) final := by
  intro fuel hfuel
  obtain ⟨fuel, rfl⟩ : ∃ n, fuel = n + 1 := ⟨fuel - 1, by omega⟩
  rw [statements_eq hspace, hstatement, ok_bind]
  exact h fuel (by omega)

theorem isSpaceOrLine_of_isBare {c : Char} (h : isBare c = true) :
    isSpaceOrLine c = false := by
  rw [Bool.eq_false_iff]
  intro hspace
  simp only [isSpaceOrLine, isSpace, Bool.or_eq_true, beq_iff_eq] at hspace
  rcases hspace with (rfl | rfl) | rfl <;> cases h

/-- A statement that starts with a plain name gives a key its value. -/
theorem statement_bare {c : Char} {cs : List Char} {fuel : Nat} {doc : Document}
    (hc : isBare c = true) :
    statement fuel doc (c :: cs) =
      keyValue fuel (c :: cs) >>= fun (k, v, rest) =>
        match doc.add k v with
        | .error cause => stop cause rest
        | .ok doc => .ok (doc, rest) := by
  have hne (d : Char) (hd : isBare d = false) : c ≠ d := by
    rintro rfl
    rw [hc] at hd
    cases hd
  rw [statement.eq_def]
  split
  · next heq => exact absurd (List.cons.inj heq).1 (hne _ (by decide))
  · next heq => exact absurd (List.cons.inj heq).1 (hne _ (by decide))
  · split
    · next heq => cases heq
    · next heq => exact absurd (List.cons.inj heq).1 (hne _ (by decide))
    · next heq =>
        cases heq
        rw [hc, Bool.true_or, Bool.true_or, if_pos rfl]
        rfl

theorem reads_line {name : String} (hname : Bare name) {v : Value} {cs rest : List Char}
    (hv : Writes v cs) {doc doc' final : Document} (hadd : doc.add [name] v = .ok doc')
    (h : Reads doc' rest final) : Reads doc (lineChars name cs ++ rest) final := by
  have hform : lineChars name cs ++ rest =
      name.toList ++ ' ' :: '=' :: ' ' :: (cs ++ '\n' :: rest) := by
    simp [lineChars]
  obtain ⟨c, tail, hcs, hspace⟩ := hv.start
  have hkey (fuel : Nat) (hfuel : cs.length < fuel) :
      keyValue (fuel + 1) (name.toList ++ ' ' :: '=' :: ' ' :: (cs ++ '\n' :: rest)) =
        .ok ([name], v, '\n' :: rest) := by
    have hread := hv.read fuel rest hfuel
    rw [hcs] at hread ⊢
    rw [List.cons_append] at hread ⊢
    rw [keyValue_bare hname hspace, hread, ok_bind]
  obtain ⟨d, front, hchars⟩ := List.exists_cons_of_ne_nil hname.nonempty
  have hd : isBare d = true := hname.bare d (hchars ▸ List.mem_cons_self)
  rw [hform]
  rw [hchars, List.cons_append] at hkey ⊢
  refine reads_statement (isSpaceOrLine_of_isBare hd) ?_ ?_ h
  · rw [statement_bare hd, hkey, ok_bind]
    · simp only [hadd]
    · simp only [List.length_cons, List.length_append]
      omega
  · simp only [List.length_cons, List.length_append]
    omega

/-- The line that adds a table to an array. -/
def headerChars (name : String) : List Char :=
  '[' :: '[' :: name.toList ++ [']', ']', '\n']

theorem reads_header {name : String} (hname : Bare name) {doc doc' final : Document}
    {rest : List Char} (hopen : doc.settle.openArray [name] = .ok doc')
    (h : Reads doc' rest final) : Reads doc (headerChars name ++ rest) final := by
  have hform : headerChars name ++ rest =
      '[' :: '[' :: (name.toList ++ ']' :: ']' :: '\n' :: rest) := by
    simp [headerChars]
  have hkey : key (skipSpaces (name.toList ++ ']' :: ']' :: '\n' :: rest)) =
      .ok ([name], ']' :: ']' :: '\n' :: rest) := by
    have hskip : skipSpaces (name.toList ++ ']' :: ']' :: '\n' :: rest) =
        name.toList ++ ']' :: ']' :: '\n' :: rest := by
      obtain ⟨d, front, hchars⟩ := List.exists_cons_of_ne_nil hname.nonempty
      have hd := isSpaceOrLine_of_isBare (hname.bare d (hchars ▸ List.mem_cons_self))
      rw [hchars]
      exact skipSpaces_of_head (Bool.or_eq_false_iff.mp hd).1 _
    rw [hskip]
    refine key_bare hname ?_ ?_
    · rintro c ⟨⟩
      decide
    · show some ']' ≠ some '.'
      decide
  rw [hform]
  refine reads_statement (by decide) ?_ ?_ h
  · rw [statement, hkey, ok_bind]
    dsimp only
    rw [hopen]
    rfl
  · simp only [List.length_cons, List.length_append]
    omega

theorem read_of_reads {source : List Char} {final : Document}
    (h : Reads {} source final) : read source = .ok final.table := by
  rw [read, h _ (Nat.lt_succ_self _)]

end ApiCatalog.Toml
