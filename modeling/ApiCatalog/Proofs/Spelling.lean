import ApiCatalog.Proofs.Acceptance
import ApiCatalog.Proofs.FunctionTypes
import ApiCatalog.Proofs.Pipeline

/-!
# How the types of a catalog are spelled

Whether a type is admitted is decided on its shape, but what is catalogued is its
text with runs of blanks collapsed. For a name the two agree. For a raw pointer
they need not: blanks and comments may stand after the star and after the
qualifier, and collapsing leaves a comment where it was and a blank after the star
as a space. So a pointer comes out in canonical form exactly when its author wrote
nothing after the star and nothing but blanks after the qualifier.

Of a parser this needs one thing only, that a raw pointer spans its tokens and what
stands between them.
-/

namespace ApiCatalog

open Extraction Validation
open Rust (Filler Token tokens)
open Text (isBlank collapse)
open Text.Utf8 (encode decode)

/-- The canonical texts of the types that a catalog admits. -/
def Canonical (t : String) : Prop :=
  ∃ name ∈ TypeExpr.numericNames, t = name ∨ t = "*const " ++ name ∨ t = "*mut " ++ name

instance {t : String} : Decidable (Canonical t) :=
  inferInstanceAs (Decidable (∃ name ∈ TypeExpr.numericNames, _))

/-- A raw pointer to a number as it may stand in a source. -/
structure PointerSpelling where
  /-- What stands between the star and the qualifier. -/
  afterStar : List Char
  qualifier : String
  /-- What stands between the qualifier and the name. -/
  beforeName : List Char
  name : String
  afterStar_filler : Filler afterStar
  qualifier_mem : qualifier ∈ ["const", "mut"]
  beforeName_filler : Filler beforeName
  name_mem : name ∈ TypeExpr.numericNames

namespace PointerSpelling

variable (p : PointerSpelling)

/-- The characters of a spelling. -/
def chars : List Char :=
  '*' :: (p.afterStar ++ (p.qualifier.toList ++ (p.beforeName ++ p.name.toList)))

/-- Nothing stands after the star, and only blanks after the qualifier. -/
def Plain : Prop :=
  p.afterStar = [] ∧ p.beforeName ≠ [] ∧ ∀ c ∈ p.beforeName, isBlank c = true

/-! ## Canonical spellings -/

theorem qualifier_letters :
    ∀ c ∈ '*' :: p.qualifier.toList, isBlank c = false := by
  have hall : ∀ q ∈ ["const", "mut"], ('*' :: q.toList).all (!isBlank ·) = true := by
    decide
  simpa using hall _ p.qualifier_mem

theorem name_letters : p.name.toList ≠ [] ∧ ∀ c ∈ p.name.toList, isBlank c = false := by
  have hall : ∀ name ∈ TypeExpr.numericNames,
      name.toList ≠ [] ∧ name.toList.all (!isBlank ·) = true := by
    decide
  simpa using hall _ p.name_mem

theorem collapse_of_plain (h : p.Plain) :
    collapse p.chars = "*" ++ p.qualifier ++ " " ++ p.name := by
  obtain ⟨hstar, hne, hblank⟩ := h
  obtain ⟨b, blanks, hblanks⟩ := List.exists_cons_of_ne_nil hne
  rw [hblanks, List.forall_mem_cons] at hblank
  have hchars : p.chars = '*' :: p.qualifier.toList ++ b :: (blanks ++ p.name.toList) := by
    rw [chars, hstar, hblanks]
    rfl
  have hwords : Text.words p.chars = ['*' :: p.qualifier.toList, p.name.toList] := by
    rw [hchars, Text.words_append (List.cons_ne_nil _ _) p.qualifier_letters hblank.1,
      Text.words_append_of_blank hblank.2,
      Text.words_of_forall p.name_letters.1 p.name_letters.2]
  rw [collapse, hwords]
  apply String.toList_injective
  simp [Text.join]

/-- What every canonical text with a star in it looks like. -/
theorem canonical_shape {t : String} (h : Canonical t) (hstar : '*' ∈ t.toList) :
    '/' ∉ t.toList ∧ ' ' ∈ t.toList ∧ ∃ c rest, t.toList = '*' :: c :: rest ∧ c ≠ ' ' := by
  have hnumber : ∀ name ∈ TypeExpr.numericNames, '*' ∉ name.toList ∧ '/' ∉ name.toList := by
    decide
  obtain ⟨name, hname, rfl | rfl | rfl⟩ := h
  · exact absurd hstar (hnumber t hname).1
  · have hslash := (hnumber name hname).2
    simp [String.toList_append, hslash]
  · have hslash := (hnumber name hname).2
    simp [String.toList_append, hslash]

theorem second_of_blank {b : Char} (hb : isBlank b = true) (rest : List Char) :
    (collapse ('*' :: b :: rest)).toList.tail.head?.getD ' ' = ' ' := by
  rw [collapse, Text.words_last (by decide) hb, String.toList_ofList]
  cases Text.words rest with
  | nil => rfl
  | cons w ws => rfl

/-- A spelling comes out canonical exactly when it is plain. -/
theorem canonical_collapse_iff : Canonical (collapse p.chars) ↔ p.Plain := by
  constructor
  · intro h
    have hstar : '*' ∈ (collapse p.chars).toList :=
      Text.mem_collapse List.mem_cons_self (by decide)
    obtain ⟨hslash, hspace, c, rest, htext, hc⟩ := canonical_shape h hstar
    have hnoSlash : '/' ∉ p.chars := fun hmem =>
      hslash (Text.mem_collapse hmem (by decide))
    have hfirst : p.afterStar = [] := by
      -- a slash would show, and so would a blank
      cases hgap : p.afterStar with
      | nil => rfl
      | cons b gap =>
          have hb : isBlank b = true := by
            refine p.afterStar_filler.isBlank_of_not_mem (fun hmem => hnoSlash ?_) b ?_
            · exact List.mem_cons_of_mem _ (List.mem_append_left _ hmem)
            · rw [hgap]
              exact List.mem_cons_self
          have hsecond := second_of_blank hb (gap ++ (p.qualifier.toList ++
            (p.beforeName ++ p.name.toList)))
          rw [chars, hgap, List.cons_append] at htext
          rw [htext] at hsecond
          exact absurd hsecond hc
    have hblank : ∀ c ∈ p.beforeName, isBlank c = true := by
      refine p.beforeName_filler.isBlank_of_not_mem fun hmem => hnoSlash ?_
      simp [chars, hmem]
    refine ⟨hfirst, ?_, hblank⟩
    intro hnone
    have hletters : ∀ c ∈ p.chars, isBlank c = false := by
      intro c hc
      rw [chars, hfirst, hnone, List.nil_append, List.nil_append, ← List.cons_append] at hc
      rcases List.mem_append.mp hc with hc | hc
      · exact p.qualifier_letters c hc
      · exact p.name_letters.2 c hc
    have hne : p.chars ≠ [] := List.cons_ne_nil _ _
    rw [Text.collapse_of_forall hne hletters, String.toList_ofList] at hspace
    exact absurd (hletters ' ' hspace) (by decide)
  · intro h
    refine ⟨p.name, p.name_mem, .inr ?_⟩
    have hcases : p.qualifier = "const" ∨ p.qualifier = "mut" := by
      simpa using p.qualifier_mem
    rw [p.collapse_of_plain h]
    rcases hcases with hq | hq
    · rw [hq]
      exact .inl rfl
    · rw [hq]
      exact .inr rfl

end PointerSpelling

/-! ## Spellings of parsed types -/

theorem word_text_of_tokens {bytes : List UInt8} {source : List Char}
    (hsource : decode bytes = .ok source) {w : Token} (hw : w ∈ tokens source)
    (hword : w.kind = .word) {n : Node} (hstart : n.start = w.start)
    (hstop : n.stop = w.stop) : n.text bytes = .ok w.text := by
  obtain ⟨front, back, hsplit⟩ := List.append_of_mem hw
  have hrun : [w] <:+: tokens source := ⟨front, back, by simp [hsplit]⟩
  obtain ⟨raw, hraw, hbytes⟩ := Rust.bytes_of_tokens hsource hrun
  obtain ⟨_, _, -, hlays⟩ := Rust.lays_tokens source
  obtain ⟨hne, hletters⟩ := hlays.words w hw
  have htext := Rust.text_of_bytes (hbytes n hstart hstop)
  cases hraw
  rw [Text.collapse_of_forall hne (hletters hword), String.ofList_toList] at htext
  exact htext

/-- The bytes of a parsed pointer to a number are one of the spellings. -/
theorem pointer_spelling {bytes : List UInt8} {source : List Char}
    (hsource : decode bytes = .ok source) {n inner : Node}
    (hread : Rust.Parser.ReadAt (tokens source) n) (hkind : n.kind = "pointer_type")
    (hinner : n.child? "type" = some inner) (hname : NamesNumber bytes inner) :
    ∃ p : PointerSpelling, n.bytes bytes = encode p.chars := by
  obtain ⟨star, q, w, hrun, hstar, hq, hw, hstart, hstop, hwstart, hwstop⟩ :=
    hread.pointer_tokens hsource hkind hinner hname
  have hwmem : w ∈ tokens source := hrun.subset (by simp)
  have hnumber : w.text ∈ TypeExpr.numericNames := by
    obtain ⟨-, name, hnumber, hname⟩ := hname
    rw [word_text_of_tokens hsource hwmem hw hwstart hwstop] at hname
    rw [Except.ok.inj hname]
    exact hnumber
  have hstarText : star.text.toList = ['*'] := by
    simp only [Token.isMark, Bool.and_eq_true, beq_iff_eq] at hstar
    rw [hstar.2]
    rfl
  have hqText : q.text ∈ ["const", "mut"] := by
    simp only [Token.isWord, Bool.and_eq_true, beq_iff_eq] at hq
    rcases hq with hq | hq
    · simp [hq.2]
    · simp [hq.2]
  obtain ⟨raw, hraw, hbytes⟩ := Rust.bytes_of_tokens hsource hrun
  have hspan := hbytes n hstart hstop
  cases hraw with
  | cons _ hfirst hrest =>
      cases hrest with
      | cons _ hsecond hlast =>
          cases hlast
          refine ⟨⟨_, q.text, _, w.text, hfirst, hqText, hsecond, hnumber⟩, ?_⟩
          rw [hspan, hstarText]
          rfl

/-! ## What is asked of a parser -/

/-- A node that is a raw pointer to a number stands for one of the spellings. -/
def PointerSpelled (bytes : List UInt8) (n : Node) : Prop :=
  n.kind = "pointer_type" → ∀ inner ∈ n.child? "type", NamesNumber bytes inner →
    ∃ p : PointerSpelling, n.bytes bytes = encode p.chars

/-- The raw pointers among the types of a function stand for spellings. -/
structure TypesSpelled (bytes : List UInt8) (n : Node) : Prop where
  params : ∀ p ∈ paramNodes n, ∀ type ∈ typeNode? p, PointerSpelled bytes type
  ret : ∀ type ∈ n.child? "return_type", PointerSpelled bytes type

/-- A parser that finds raw pointers where they are spelled: from the star to the end of
the name, with nothing but blanks and comments between the words. Only trees without
errors count. -/
def SpellsPointers (parse : List UInt8 → Node) : Prop :=
  ∀ bytes source, decode bytes = .ok source → (parse bytes).hasError = false →
    ∀ n ∈ (parse bytes).children, isFunction n = true → TypesSpelled bytes n

theorem spellsPointers_rust : SpellsPointers Rust.parse := by
  intro bytes source hsource _ n hn hfunction
  have htree : Rust.parse bytes = Rust.parseText source := by
    unfold Rust.parse
    rw [hsource]
  have hread : ∀ type, Rust.Parser.PointerRead (tokens source) type →
      PointerSpelled bytes type := fun type htype hkind inner hinner hname =>
    pointer_spelling hsource (htype hkind) hkind hinner hname
  have hfunctionRead := Rust.parseText_functionRead (htree ▸ hn) hfunction
  refine ⟨fun p hp type htype => ?_, fun type htype => hread type (hfunctionRead.ret type htype)⟩
  unfold paramNodes at hp
  split at hp
  · cases hp
  · next list hlist =>
      have hnamed := (List.mem_filter.mp hp).1
      have hparam := hfunctionRead.params list hlist p (List.mem_filter.mp hnamed).1
      exact hread type (hparam type htype)

/-! ## From a catalog back to its sources -/

/-- How a text of a catalog stands in the source: as a name, or as a pointer, which
is canonical exactly when it is spelled plainly. -/
inductive Emitted (source : List UInt8) (n : Node) (t : String) : Prop
  | number (hname : t ∈ TypeExpr.numericNames)
  | pointer (p : PointerSpelling) (hbytes : n.bytes source = encode p.chars)
      (htext : t = collapse p.chars) (hcanonical : Canonical t ↔ p.Plain)

theorem emitted_of_admitted {bytes : List UInt8} {n : Node} {t : String}
    (hspelled : PointerSpelled bytes n) (hadmitted : NamesAdmitted bytes n)
    (htext : n.text bytes = .ok t) : Emitted bytes n t := by
  rcases hadmitted with ⟨-, name, hnumber, hname⟩ | ⟨hkind, inner, hinner, hname⟩
  · rw [hname] at htext
    rw [Except.ok.inj htext] at hnumber
    exact .number hnumber
  · obtain ⟨p, hp⟩ := hspelled hkind inner hinner hname
    rw [Rust.text_of_bytes hp] at htext
    have ht := (Except.ok.inj htext).symm
    exact .pointer p hp ht (by rw [ht]; exact p.canonical_collapse_iff)

/-- A signature gives the types of a function as they are spelled there. -/
structure SpelledAt (source : List UInt8) (n : Node) (sig : Signature) : Prop where
  ident : nameOf source n = .ok sig.ident
  argTypes : List.Forall₂ (fun p t => ∃ type ∈ typeNode? p, Emitted source type t)
    (paramNodes n) sig.argTypes
  retType : Option.Rel (Emitted source) (n.child? "return_type") sig.retType

theorem argTypes_spelled {bytes : List UInt8} {ns : List Node} {ts : List TypeExpr}
    (h : List.Forall₂ (fun n t => paramType bytes n = .ok t) ns ts)
    (hspelled : ∀ n ∈ ns, ∀ type ∈ typeNode? n, PointerSpelled bytes type)
    (hadmitted : ∀ t ∈ ts, t.isAdmitted = true) :
    List.Forall₂ (fun n t => ∃ type ∈ typeNode? n, Emitted bytes type t)
      ns (ts.map (·.text)) := by
  induction h with
  | nil => exact .nil
  | cons ht _ ih =>
      rw [List.forall_mem_cons] at hspelled hadmitted
      obtain ⟨type, htype, hnames⟩ := (paramType_isAdmitted ht).mp hadmitted.1
      refine .cons ⟨type, htype, ?_⟩ (ih hspelled.2 hadmitted.2)
      exact emitted_of_admitted (hspelled.1 type htype) hnames (paramType_text ht htype)

theorem retType_spelled {bytes : List UInt8} {node : Option Node} {ret : Option TypeExpr}
    (h : Option.Rel (fun n t => typeOf bytes n = .ok t) node ret)
    (hspelled : ∀ n ∈ node, PointerSpelled bytes n)
    (hadmitted : ∀ t ∈ ret, t.isAdmitted = true) :
    Option.Rel (Emitted bytes) node (ret.map (·.text)) := by
  cases h with
  | none => exact .none
  | some ht =>
      have hnames := (typeOf_isAdmitted ht).mp (hadmitted _ rfl)
      exact .some (emitted_of_admitted (hspelled _ rfl) hnames (typeOf_eq_ok ht).1)

theorem spelledAt_of_passes {s : Settings} {unit : SourceUnit} {n : Node}
    (hspelled : TypesSpelled unit.bytes n) {c : Candidate} (hreads : ReadsAs unit n c)
    (hpasses : Passes s c) {sig : Signature} (hsig : signature? c = some sig) :
    SpelledAt unit.bytes n sig := by
  obtain ⟨kind, -, rfl⟩ := Option.map_eq_some_iff.mp hsig
  obtain ⟨-, hparams⟩ := paramsOf_eq_ok hreads.params
  exact ⟨hreads.name, argTypes_spelled hparams hspelled.params hpasses.params,
    retType_spelled (retOf_eq_ok hreads.ret) hspelled.ret hpasses.ret⟩

namespace Analysis

/-- Whatever parser finds raw pointers where they are spelled, the types of a catalog
come from functions of the sources. -/
theorem analyze_spelled {parse : List UInt8 → Node} (hparse : SpellsPointers parse)
    {fs : FileSystem} {s : Settings} {catalog : Catalog}
    (h : (analyze parse fs s).result = .ok catalog) :
    ∀ sig ∈ catalog.signatures, ∃ path ∈ (sources parse fs s).discover,
      ∃ bytes, fs.read (s.root.join path) = .ok bytes ∧
        ∃ n ∈ (parse bytes).children, SpelledAt bytes n sig := by
  intro sig hsig
  obtain ⟨units, lists, -, hunits, hlists, hvalid, -⟩ := analyze_eq_ok.mp h
  obtain ⟨-, rfl⟩ := validate_eq_ok.mp hvalid
  obtain ⟨c, hc, hcsig⟩ := List.mem_filterMap.mp hsig
  obtain ⟨hc, hkept⟩ := List.mem_filter.mp hc
  obtain ⟨list, hlist, hc⟩ := List.mem_flatten.mp hc
  obtain ⟨unit, hunit, hextract⟩ := exists_mem_of_forall₂ hlists hlist
  obtain ⟨path, hpath, hload⟩ := exists_mem_of_forall₂ hunits hunit
  obtain ⟨bytes, source, hbytes, hclean, rfl⟩ := SourceTree.loadFile_eq_ok.mp hload
  obtain ⟨hread, hsource⟩ := FileSystem.readDecoded_eq_ok.mp hbytes
  obtain ⟨n, hn, hfunction, hreads⟩ := exists_node_of_extract hextract hc
  have hspelled := hparse bytes source hsource hclean n hn hfunction
  exact ⟨path, hpath, bytes, hread, n, hn,
    spelledAt_of_passes hspelled hreads (isKept_iff.mp hkept) hcsig⟩

/-- Every type of a catalog is a name of a number, or a pointer that is canonical
exactly when nothing follows its star and only blanks follow its qualifier. -/
theorem analyze_canonical_iff_plain {fs : FileSystem} {s : Settings} {catalog : Catalog}
    (h : (analyze Rust.parse fs s).result = .ok catalog) :
    ∀ sig ∈ catalog.signatures, ∃ path ∈ (sources Rust.parse fs s).discover,
      ∃ bytes, fs.read (s.root.join path) = .ok bytes ∧
        ∃ n ∈ (Rust.parse bytes).children, SpelledAt bytes n sig :=
  analyze_spelled spellsPointers_rust h

/-- A directory `src` with one file, in which a comment stands inside a pointer type:
`#[inline] #[no_panic] pub extern "C" fn f(x: *mut/*c*/f64) { }`. -/
def commentedPointer : FileSystem :=
  ⟨[(["src"], .directory),
    (["src", "lib.rs"], .file (encode ("#[inline]\n#[no_panic]\npub extern \"C\" fn " ++
      "f(x: *mut/*c*/f64) \x7b\x7d\n").toList))]⟩

def commentedSignature : Signature :=
  { ident := "f", apiKind := "F", argTypes := ["*mut/*c*/f64"] }

/-- The comment is catalogued with the type, which is not canonical then. -/
theorem analyze_canonical_iff_plain_commentedPointer :
    (analyze Rust.parse commentedPointer { root := .parse "src" }).result =
        .ok ⟨"src", [commentedSignature], []⟩ ∧
      (∀ t ∈ commentedSignature.argTypes, ¬ Canonical t) ∧
      ∃ bytes n, SpelledAt bytes n commentedSignature := by
  have hresult : (analyze Rust.parse commentedPointer { root := .parse "src" }).result =
      .ok ⟨"src", [commentedSignature], []⟩ := by
    decide +kernel
  obtain ⟨path, -, bytes, -, n, -, hspelled⟩ :=
    analyze_canonical_iff_plain hresult commentedSignature List.mem_cons_self
  exact ⟨hresult, by decide, bytes, n, hspelled⟩

end Analysis
end ApiCatalog
