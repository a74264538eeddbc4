import ApiCatalog.Proofs.Runs
import ApiCatalog.TextFile

/-!
# Decoding undoes encoding

A character is written in one to four bytes, by its number. What the first byte
promises is what the encoder then writes: the number of bytes, and a second byte
in the narrow range that keeps out overlong forms, surrogates and numbers past
the last code point. Each of the four lengths is one lemma, and the text follows
by induction on its characters.
-/

namespace ApiCatalog.Text.Utf8

theorem lt_iff_toNat {a b : UInt8} : a < b ↔ a.toNat < b.toNat := Iff.rfl

theorem le_iff_toNat {a b : UInt8} : a ≤ b ↔ a.toNat ≤ b.toNat := Iff.rfl

theorem beq_iff_toNat {a b : UInt8} : (a == b) = true ↔ a.toNat = b.toNat := by
  rw [beq_iff_eq, UInt8.toNat_inj]

theorem within_iff {low high b : UInt8} :
    within low high b = true ↔ low.toNat ≤ b.toNat ∧ b.toNat ≤ high.toNat := by
  simp only [within, Bool.and_eq_true, decide_eq_true_eq, le_iff_toNat]

theorem toNat_ofNat_of_lt {n : Nat} (h : n < 256) : (UInt8.ofNat n).toNat = n := by
  rw [UInt8.toNat_ofNat']
  exact Nat.mod_eq_of_lt h

/-! ## What first bytes promise -/

theorem lead_single {b : UInt8} (h : b.toNat < 0x80) : lead b = .single := by
  rw [lead, if_pos (lt_iff_toNat.mpr h)]

theorem lead_two {b : UInt8} (h : 0xc2 ≤ b.toNat) (h' : b.toNat < 0xe0) :
    lead b = .two := by
  rw [lead, if_neg, if_neg, if_pos]
  · exact lt_iff_toNat.mpr h'
  · rw [lt_iff_toNat]
    show ¬ b.toNat < 0xc2
    omega
  · rw [lt_iff_toNat]
    show ¬ b.toNat < 0x80
    omega

/-- A first byte of three allows any second byte but an overlong one after `0xe0`
and a surrogate after `0xed`. -/
theorem lead_three {a b : UInt8} (h : 0xe0 ≤ a.toNat) (h' : a.toNat < 0xf0)
    (hlow : 0x80 ≤ b.toNat) (hhigh : b.toNat ≤ 0xbf)
    (hlong : a.toNat = 0xe0 → 0xa0 ≤ b.toNat)
    (hsurrogate : a.toNat = 0xed → b.toNat ≤ 0x9f) :
    ∃ low high, lead a = .three low high ∧ within low high b = true := by
  have hn (n : UInt8) (hn : n.toNat ≤ 0xe0) : ¬ a < n := by
    rw [lt_iff_toNat]
    omega
  rw [lead, if_neg (hn _ (by decide)), if_neg (hn _ (by decide)),
    if_neg (hn _ (by decide))]
  split
  · next he0 =>
      refine ⟨_, _, rfl, within_iff.mpr ⟨hlong (beq_iff_toNat.mp he0), hhigh⟩⟩
  split
  · next hed =>
      refine ⟨_, _, rfl, within_iff.mpr ⟨hlow, hsurrogate (beq_iff_toNat.mp hed)⟩⟩
  · rw [if_pos (lt_iff_toNat.mpr h')]
    exact ⟨_, _, rfl, within_iff.mpr ⟨hlow, hhigh⟩⟩

/-- A first byte of four allows any second byte but an overlong one after `0xf0`
and one past the last code point after `0xf4`. -/
theorem lead_four {a b : UInt8} (h : 0xf0 ≤ a.toNat) (h' : a.toNat ≤ 0xf4)
    (hlow : 0x80 ≤ b.toNat) (hhigh : b.toNat ≤ 0xbf)
    (hlong : a.toNat = 0xf0 → 0x90 ≤ b.toNat)
    (hpast : a.toNat = 0xf4 → b.toNat ≤ 0x8f) :
    ∃ low high, lead a = .four low high ∧ within low high b = true := by
  have hn (n : UInt8) (hn : n.toNat ≤ 0xf0) : ¬ a < n := by
    rw [lt_iff_toNat]
    omega
  have hne (n : UInt8) (hn : n.toNat < 0xf0) : ¬ (a == n) = true := by
    rw [beq_iff_toNat]
    omega
  rw [lead, if_neg (hn _ (by decide)), if_neg (hn _ (by decide)),
    if_neg (hn _ (by decide)), if_neg (hne _ (by decide)),
    if_neg (hne _ (by decide)), if_neg (hn _ (by decide))]
  split
  · next hf0 =>
      exact ⟨_, _, rfl, within_iff.mpr ⟨hlong (beq_iff_toNat.mp hf0), hhigh⟩⟩
  split
  · exact ⟨_, _, rfl, within_iff.mpr ⟨hlow, hhigh⟩⟩
  · next hlt =>
      have hf4 : a.toNat = 0xf4 := by
        rw [lt_iff_toNat] at hlt
        have : ¬ a.toNat < 0xf4 := hlt
        omega
      rw [if_pos (beq_iff_toNat.mpr hf4)]
      exact ⟨_, _, rfl, within_iff.mpr ⟨hlow, hpast hf4⟩⟩

/-! ## One character -/

theorem decodeFrom_one {p : Nat} {a : UInt8} {rest : List UInt8}
    (ha : lead a = .single) :
    decodeFrom p (a :: rest) =
      (decodeFrom (p + 1) rest).map (Char.ofNat a.toNat :: ·) := by
  rw [decodeFrom.eq_def]
  simp only [ha]
  rfl

theorem decodeFrom_two {p : Nat} {a b : UInt8} {rest : List UInt8}
    (ha : lead a = .two) (hb : within 0x80 0xbf b = true) :
    decodeFrom p (a :: b :: rest) =
      (decodeFrom (p + 2) rest).map (assemble (a.toNat % 32) [b] :: ·) := by
  rw [decodeFrom.eq_def]
  simp only [ha, hb, if_true]
  rfl

theorem decodeFrom_three {p : Nat} {a b c low high : UInt8} {rest : List UInt8}
    (ha : lead a = .three low high) (hb : within low high b = true)
    (hc : within 0x80 0xbf c = true) :
    decodeFrom p (a :: b :: c :: rest) =
      (decodeFrom (p + 3) rest).map (assemble (a.toNat % 16) [b, c] :: ·) := by
  rw [decodeFrom.eq_def]
  simp only [ha, hb, hc, if_true]
  rfl

theorem decodeFrom_four {p : Nat} {a b c d low high : UInt8} {rest : List UInt8}
    (ha : lead a = .four low high) (hb : within low high b = true)
    (hc : within 0x80 0xbf c = true) (hd : within 0x80 0xbf d = true) :
    decodeFrom p (a :: b :: c :: d :: rest) =
      (decodeFrom (p + 4) rest).map (assemble (a.toNat % 8) [b, c, d] :: ·) := by
  rw [decodeFrom.eq_def]
  simp only [ha, hb, hc, hd, if_true]
  rfl

theorem toNat_bounds (c : Char) :
    c.toNat < 0xd800 ∨ (0xdfff < c.toNat ∧ c.toNat < 0x110000) := c.valid

theorem within_tail (n : Nat) :
    within 0x80 0xbf (UInt8.ofNat (n % 0x40 + 0x80)) = true := by
  rw [within_iff, toNat_ofNat_of_lt (by omega)]
  show 0x80 ≤ _ ∧ _ ≤ 0xbf
  omega

/-- Decoding takes one encoded character off the front. -/
theorem decodeFrom_encodeChar (p : Nat) (c : Char) (rest : List UInt8) :
    decodeFrom p (String.utf8EncodeChar c ++ rest) =
      (decodeFrom (p + c.utf8Size) rest).map (c :: ·) := by
  have hbounds := toNat_bounds c
  have hback : Char.ofNat c.toNat = c := Char.ofNat_toNat c
  rw [← String.length_utf8EncodeChar]
  unfold String.utf8EncodeChar
  simp only [show c.val.toNat = c.toNat from rfl]
  generalize c.toNat = n at hbounds hback ⊢
  split
  · next h1 =>
      have ha := toNat_ofNat_of_lt (n := n) (by omega)
      rw [List.singleton_append, decodeFrom_one (lead_single (by omega)), ha, hback]
      rfl
  split
  · next h1 h2 =>
      have ha := toNat_ofNat_of_lt (n := n / 64 % 0x20 + 0xc0) (by omega)
      have hb := toNat_ofNat_of_lt (n := n % 0x40 + 0x80) (by omega)
      have hn : assemble ((UInt8.ofNat (n / 64 % 0x20 + 0xc0)).toNat % 32)
          [UInt8.ofNat (n % 0x40 + 0x80)] = c := by
        rw [assemble, ← hback]
        simp only [List.foldl_cons, List.foldl_nil, ha, hb]
        congr 1
        omega
      rw [List.cons_append, List.singleton_append,
        decodeFrom_two (lead_two (by omega) (by omega)) (within_tail n), hn]
      rfl
  split
  · next h1 h2 h3 =>
      have ha := toNat_ofNat_of_lt (n := n / 4096 % 0x10 + 0xe0) (by omega)
      have hb := toNat_ofNat_of_lt (n := n / 64 % 0x40 + 0x80) (by omega)
      have hc := toNat_ofNat_of_lt (n := n % 0x40 + 0x80) (by omega)
      have hn : assemble ((UInt8.ofNat (n / 4096 % 0x10 + 0xe0)).toNat % 16)
          [UInt8.ofNat (n / 64 % 0x40 + 0x80), UInt8.ofNat (n % 0x40 + 0x80)] = c := by
        rw [assemble, ← hback]
        simp only [List.foldl_cons, List.foldl_nil, ha, hb, hc]
        congr 1
        omega
      obtain ⟨low, high, hlead, hwithin⟩ := lead_three
        (a := UInt8.ofNat (n / 4096 % 0x10 + 0xe0))
        (b := UInt8.ofNat (n / 64 % 0x40 + 0x80))
        (by omega) (by omega) (by omega) (by omega) (by omega) (by omega)
      rw [List.cons_append, List.cons_append, List.singleton_append,
        decodeFrom_three hlead hwithin (within_tail n), hn]
      rfl
  · next h1 h2 h3 =>
      have ha := toNat_ofNat_of_lt (n := n / 262144 % 0x08 + 0xf0) (by omega)
      have hb := toNat_ofNat_of_lt (n := n / 4096 % 0x40 + 0x80) (by omega)
      have hc := toNat_ofNat_of_lt (n := n / 64 % 0x40 + 0x80) (by omega)
      have hd := toNat_ofNat_of_lt (n := n % 0x40 + 0x80) (by omega)
      have hn : assemble ((UInt8.ofNat (n / 262144 % 0x08 + 0xf0)).toNat % 8)
          [UInt8.ofNat (n / 4096 % 0x40 + 0x80), UInt8.ofNat (n / 64 % 0x40 + 0x80),
            UInt8.ofNat (n % 0x40 + 0x80)] = c := by
        rw [assemble, ← hback]
        simp only [List.foldl_cons, List.foldl_nil, ha, hb, hc, hd]
        congr 1
        omega
      obtain ⟨low, high, hlead, hwithin⟩ := lead_four
        (a := UInt8.ofNat (n / 262144 % 0x08 + 0xf0))
        (b := UInt8.ofNat (n / 4096 % 0x40 + 0x80))
        (by omega) (by omega) (by omega) (by omega) (by omega) (by omega)
      rw [List.cons_append, List.cons_append, List.cons_append,
        List.singleton_append,
        decodeFrom_four hlead hwithin (within_tail _) (within_tail n), hn]
      rfl

theorem decodeFrom_encode (p : Nat) (cs : List Char) :
    decodeFrom p (encode cs) = .ok cs := by
  induction cs generalizing p with
  | nil => rfl
  | cons c rest ih =>
      rw [encode, List.flatMap_cons, decodeFrom_encodeChar]
      show (decodeFrom _ (encode rest)).map _ = _
      rw [ih]
      rfl

theorem decode_encode (cs : List Char) : decode (encode cs) = .ok cs :=
  decodeFrom_encode 0 cs

/-! ## Encoding undoes decoding -/

/-- What a first byte promised. -/
theorem lead_eq {a : UInt8} {l : Lead} (h : lead a = l) :
    match l with
    | .single => a.toNat < 0x80
    | .two => 0xc2 ≤ a.toNat ∧ a.toNat < 0xe0
    | .three low high => 0xe0 ≤ a.toNat ∧ a.toNat < 0xf0 ∧
        low.toNat = (if a.toNat = 0xe0 then 0xa0 else 0x80) ∧
        high.toNat = (if a.toNat = 0xed then 0x9f else 0xbf)
    | .four low high => 0xf0 ≤ a.toNat ∧ a.toNat ≤ 0xf4 ∧
        low.toNat = (if a.toNat = 0xf0 then 0x90 else 0x80) ∧
        high.toNat = (if a.toNat = 0xf4 then 0x8f else 0xbf)
    | .invalid => True := by
  have hlt (n : UInt8) : a < n ↔ a.toNat < n.toNat := lt_iff_toNat
  have heq (n : UInt8) : (a == n) = true ↔ a.toNat = n.toNat := beq_iff_toNat
  simp only [lead, hlt, heq, UInt8.reduceToNat] at h
  split_ifs at h <;> subst h <;> simp <;> omega

theorem char_toNat_ofNat {n : Nat} (h : n < 0xd800 ∨ (0xdfff < n ∧ n < 0x110000)) :
    (Char.ofNat n).toNat = n := by
  rw [Char.ofNat, dif_pos h]
  rfl

theorem ofNat_eq {n : Nat} {a : UInt8} (h : n = a.toNat) : UInt8.ofNat n = a := by
  rw [h, UInt8.ofNat_toNat]

theorem encodeChar_one {a : UInt8} (h : a.toNat < 0x80) :
    String.utf8EncodeChar (Char.ofNat a.toNat) = [a] := by
  have hn := char_toNat_ofNat (n := a.toNat) (by omega)
  unfold String.utf8EncodeChar
  simp only [show (Char.ofNat a.toNat).val.toNat = a.toNat from hn]
  rw [if_pos (by omega), UInt8.ofNat_toNat]

theorem encodeChar_two {a b : UInt8} (h : 0xc2 ≤ a.toNat) (h' : a.toNat < 0xe0)
    (hb : within 0x80 0xbf b = true) :
    String.utf8EncodeChar (assemble (a.toNat % 32) [b]) = [a, b] := by
  have hb : 0x80 ≤ b.toNat ∧ b.toNat ≤ 0xbf := within_iff.mp hb
  have hn := char_toNat_ofNat (n := 64 * (a.toNat % 32) + b.toNat % 64) (by omega)
  unfold String.utf8EncodeChar
  simp only [show (assemble (a.toNat % 32) [b]).val.toNat = _ from hn]
  rw [if_neg (by omega), if_pos (by omega), ofNat_eq (a := a) (by omega),
    ofNat_eq (a := b) (by omega)]

theorem encodeChar_three {a b c low high : UInt8} (ha : lead a = .three low high)
    (hb : within low high b = true) (hc : within 0x80 0xbf c = true) :
    String.utf8EncodeChar (assemble (a.toNat % 16) [b, c]) = [a, b, c] := by
  obtain ⟨hlow, hhigh, hfirst, hlast⟩ := lead_eq ha
  have hb := within_iff.mp hb
  have hc : 0x80 ≤ c.toNat ∧ c.toNat ≤ 0xbf := within_iff.mp hc
  have hrange : 0x80 ≤ b.toNat ∧ b.toNat ≤ 0xbf ∧
      (a.toNat = 0xe0 → 0xa0 ≤ b.toNat) ∧ (a.toNat = 0xed → b.toNat ≤ 0x9f) := by
    split at hfirst <;> split at hlast <;> omega
  have hn := char_toNat_ofNat
    (n := 64 * (64 * (a.toNat % 16) + b.toNat % 64) + c.toNat % 64) (by omega)
  unfold String.utf8EncodeChar
  simp only [show (assemble (a.toNat % 16) [b, c]).val.toNat = _ from hn]
  rw [if_neg (by omega), if_neg (by omega), if_pos (by omega),
    ofNat_eq (a := a) (by omega), ofNat_eq (a := b) (by omega),
    ofNat_eq (a := c) (by omega)]

theorem encodeChar_four {a b c d low high : UInt8} (ha : lead a = .four low high)
    (hb : within low high b = true) (hc : within 0x80 0xbf c = true)
    (hd : within 0x80 0xbf d = true) :
    String.utf8EncodeChar (assemble (a.toNat % 8) [b, c, d]) = [a, b, c, d] := by
  obtain ⟨hlow, hhigh, hfirst, hlast⟩ := lead_eq ha
  have hb := within_iff.mp hb
  have hc : 0x80 ≤ c.toNat ∧ c.toNat ≤ 0xbf := within_iff.mp hc
  have hd : 0x80 ≤ d.toNat ∧ d.toNat ≤ 0xbf := within_iff.mp hd
  have hrange : 0x80 ≤ b.toNat ∧ b.toNat ≤ 0xbf ∧
      (a.toNat = 0xf0 → 0x90 ≤ b.toNat) ∧ (a.toNat = 0xf4 → b.toNat ≤ 0x8f) := by
    split at hfirst <;> split at hlast <;> omega
  have hn := char_toNat_ofNat
    (n := 64 * (64 * (64 * (a.toNat % 8) + b.toNat % 64) + c.toNat % 64) + d.toNat % 64)
    (by omega)
  unfold String.utf8EncodeChar
  simp only [show (assemble (a.toNat % 8) [b, c, d]).val.toNat = _ from hn]
  rw [if_neg (by omega), if_neg (by omega), if_neg (by omega),
    ofNat_eq (a := a) (by omega), ofNat_eq (a := b) (by omega),
    ofNat_eq (a := c) (by omega), ofNat_eq (a := d) (by omega)]

/-- Decoding loses nothing: the characters encode to the bytes they came from. -/
theorem encode_of_decodeFrom {p : Nat} {bytes : List UInt8} {cs : List Char}
    (h : decodeFrom p bytes = .ok cs) : encode cs = bytes := by
  have hstep {front rest : List UInt8} {q : Nat} {x : Char} {cs : List Char}
      (hx : String.utf8EncodeChar x = front)
      (ih : ∀ {cs}, decodeFrom q rest = .ok cs → encode cs = rest)
      (h : (decodeFrom q rest >>= fun cs => pure (x :: cs)) = .ok cs) :
      encode cs = front ++ rest := by
    obtain ⟨tail, htail, h⟩ := bind_eq_ok.mp h
    rw [← pure_eq_ok.mp h, ← hx, ← ih htail]
    rfl
  fun_induction decodeFrom p bytes generalizing cs with
  | case1 => cases h; rfl
  | case3 p a rest ha ih => exact hstep (encodeChar_one (lead_eq ha)) ih h
  | case5 p a ha b rest hb ih =>
      exact hstep (encodeChar_two (lead_eq ha).1 (lead_eq ha).2 hb) ih h
  | case9 p a low high ha b hb c rest hc ih =>
      exact hstep (encodeChar_three ha hb hc) ih h
  | case15 p a low high ha b hb c hc d rest hd ih =>
      exact hstep (encodeChar_four ha hb hc hd) ih h
  | _ => cases h

theorem encode_of_decode {bytes : List UInt8} {cs : List Char}
    (h : decode bytes = .ok cs) : encode cs = bytes :=
  encode_of_decodeFrom h

/-! ## Spans -/

theorem encode_cons (c : Char) (cs : List Char) :
    encode (c :: cs) = String.utf8EncodeChar c ++ encode cs :=
  List.flatMap_cons

theorem foldl_utf8Size (n : Nat) (cs : List Char) :
    cs.foldl (fun n c => n + c.utf8Size) n = n + (encode cs).length := by
  induction cs generalizing n with
  | nil => rfl
  | cons c rest ih =>
      rw [List.foldl_cons, ih, encode_cons, List.length_append,
        String.length_utf8EncodeChar, Nat.add_assoc]

theorem size_eq (cs : List Char) : size cs = (encode cs).length := by
  rw [size, foldl_utf8Size, Nat.zero_add]

theorem encode_append (cs ds : List Char) : encode (cs ++ ds) = encode cs ++ encode ds :=
  List.flatMap_append

theorem size_append (cs ds : List Char) : size (cs ++ ds) = size cs + size ds := by
  rw [size_eq, size_eq, size_eq, encode_append, List.length_append]

end ApiCatalog.Text.Utf8

/-! ## Files of text -/

namespace ApiCatalog

theorem Text.unifyLines_of_not_mem {cs : List Char} (h : '\r' ∉ cs) :
    unifyLines cs = cs := by
  induction cs with
  | nil => rfl
  | cons c rest ih =>
      have hc : c ≠ '\r' := fun hc => h (hc ▸ List.mem_cons_self)
      rw [unifyLines, ih (fun hr => h (List.mem_cons_of_mem c hr))]
      · rintro rest rfl rfl
        exact hc rfl
      · exact hc

theorem FileSystem.readText_encode {fs : FileSystem} {path : Path} {cs : List Char}
    (h : fs.read path = .ok (Text.Utf8.encode cs)) :
    fs.readText path = .ok (Text.unifyLines cs) := by
  rw [readText, readDecoded, h]
  show ((Text.Utf8.decode (Text.Utf8.encode cs)).mapError Unreadable.encoding >>=
    fun text => pure (Text.Utf8.encode cs, text)).map _ = _
  rw [Text.Utf8.decode_encode]
  rfl

end ApiCatalog
