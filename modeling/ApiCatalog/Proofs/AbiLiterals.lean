import ApiCatalog.Proofs.Judgement
import ApiCatalog.Proofs.Legibility
import ApiCatalog.Proofs.Texts
import ApiCatalog.Proofs.TokenSpans

/-!
# The ABI is what stands between the quotes

The ABI of a function is a string literal, plain or raw. Its value is had by taking an `r`
from the front, then hashes from both ends, then one character from each end. Contents may
have hashes and quotes of their own, also at their ends, and may start with an `r`; the
quotes around them keep all that apart. A plain literal starts with its quote and never with
an `r`, and hashes are taken off only down to the quotes (`literalValue_write`).

Before that the literal is a node, and the text of a node is collapsed. Contents without
blanks go through unchanged, so the last literal of the `extern` modifiers gives its contents
as the linkage, and the rule on the ABI compares these with the settings.
-/

namespace ApiCatalog.Extraction

/-! ## Literals -/

/-- The ways to write a string literal. -/
inductive LiteralForm where
  | plain
  /-- A raw literal with so many hashes on each side. -/
  | raw (hashes : Nat)
deriving DecidableEq, Repr

namespace LiteralForm

/-- The characters of a literal with given contents. -/
def chars (contents : List Char) : LiteralForm → List Char
  | .plain => '"' :: contents ++ ['"']
  | .raw hashes =>
      'r' :: (List.replicate hashes '#' ++ ('"' :: contents ++ ['"']) ++
        List.replicate hashes '#')

def write (form : LiteralForm) (s : String) : String :=
  String.ofList (form.chars s.toList)

end LiteralForm

/-- A raw literal without its `r` loses its hashes down to the quotes. -/
theorem strip_hashes (hashes : Nat) (contents : List Char) :
    Text.strip (· == '#') (List.replicate hashes '#' ++ ('"' :: contents ++ ['"']) ++
      List.replicate hashes '#') = '"' :: contents ++ ['"'] := by
  have hhash : ∀ c ∈ List.replicate hashes '#', (c == '#') = true := by
    intro c hc
    rw [List.eq_of_mem_replicate hc]
    rfl
  refine Text.strip_append hhash hhash ?_ ?_
  · intro c hc
    cases hc
    rfl
  · intro c hc
    rw [List.getLast?_concat] at hc
    cases hc
    rfl

theorem literalValue_write (form : LiteralForm) (s : String) :
    literalValue (form.write s) = s := by
  have hlength : 2 ≤ ('"' :: s.toList ++ ['"']).length := by simp
  have hinside : (('"' :: s.toList ++ ['"']).drop 1).dropLast = s.toList := by simp
  -- both forms come down to the contents between two quotes
  have hquotes : (if 2 ≤ ('"' :: s.toList ++ ['"']).length then
      String.ofList (('"' :: s.toList ++ ['"']).drop 1).dropLast
      else String.ofList ('"' :: s.toList ++ ['"'])) = s := by
    rw [if_pos hlength, hinside, String.ofList_toList]
  rw [literalValue, LiteralForm.write, String.toList_ofList]
  cases form with
  | plain => exact hquotes
  | raw hashes =>
      simp only [LiteralForm.chars, strip_hashes]
      exact hquotes

/-! ## Linkages -/

theorem LiteralForm.isBlank_chars {contents : List Char}
    (h : ∀ c ∈ contents, Text.isBlank c = false) (form : LiteralForm) :
    ∀ c ∈ form.chars contents, Text.isBlank c = false := by
  have hmarks : Text.isBlank 'r' = false ∧ Text.isBlank '#' = false ∧
      Text.isBlank '"' = false := by
    decide
  have hquotes : ∀ c ∈ '"' :: contents ++ ['"'], Text.isBlank c = false := by
    simpa [or_imp, forall_and, hmarks] using h
  have hhashes (n : Nat) : ∀ c ∈ List.replicate n '#', Text.isBlank c = false := by
    intro c hc
    rw [List.eq_of_mem_replicate hc]
    exact hmarks.2.1
  cases form with
  | plain => exact hquotes
  | raw hashes =>
      exact List.forall_mem_cons.mpr ⟨hmarks.1, List.forall_mem_append.mpr
        ⟨List.forall_mem_append.mpr ⟨hhashes hashes, hquotes⟩, hhashes hashes⟩⟩

/-- A literal whose contents have no blanks is its own text. -/
theorem text_of_literal {source : List UInt8} {literal : Node} {form : LiteralForm} {s : String}
    (hs : ∀ c ∈ s.toList, Text.isBlank c = false)
    (h : literal.bytes source = Text.Utf8.encode (form.write s).toList) :
    literal.text source = .ok (form.write s) := by
  have hne : form.chars s.toList ≠ [] := by
    cases form with
    | plain => exact List.cons_ne_nil _ _
    | raw hashes => exact List.cons_ne_nil _ _
  rw [Rust.text_of_bytes h, LiteralForm.write, String.toList_ofList,
    Text.collapse_of_forall hne (form.isBlank_chars hs)]

theorem linkage_of_literal {unit : SourceUnit} {n literal : Node} {form : LiteralForm}
    {s : String} {c : Candidate} (hread : ReadsAs unit n c)
    (hs : ∀ c ∈ s.toList, Text.isBlank c = false)
    (hlast : (linkageNodes (modifiersOf n)).getLast? = some literal)
    (hbytes : literal.bytes unit.bytes = Text.Utf8.encode (form.write s).toList) :
    c.linkage = some s := by
  refine (linkageOf_eq_some s hread.linkage).mpr ⟨literal, hlast, form.write s, ?_, ?_⟩
  · exact text_of_literal hs hbytes
  · exact literalValue_write form s

/-- The value of a literal is its contents, whatever these are and in whatever form they are
written. So a function gets the contents of the last literal of its `extern` modifiers as its
linkage, where they have no blanks, and it breaks the rule on the ABI exactly when they are
not the ABI of the settings. -/
theorem literals_decode_to_contents :
    (∀ (form : LiteralForm) (s : String), literalValue (form.write s) = s) ∧
    ∀ (form : LiteralForm) (s : String) (unit : SourceUnit) (n literal : Node),
      (∀ c ∈ s.toList, Text.isBlank c = false) →
      (linkageNodes (modifiersOf n)).getLast? = some literal →
      literal.bytes unit.bytes = Text.Utf8.encode (form.write s).toList →
      (n.Legible unit.bytes → ∀ attrs, ∃ c, candidateOf unit attrs n = .ok c) ∧
      ∀ attrs c, candidateOf unit attrs n = .ok c → c.linkage = some s ∧
        ∀ settings, (∃ v ∈ Validation.check settings c, v.rule = .notForeignAbi) ↔
          s ≠ settings.foreignAbi := by
  refine ⟨literalValue_write, ?_⟩
  intro form s unit n literal hs hlast hbytes
  refine ⟨fun hlegible attrs => candidateOf_legible attrs hlegible, ?_⟩
  intro attrs c hc
  have hlinkage := linkage_of_literal (candidateOf_eq_ok hc).2 hs hlast hbytes
  refine ⟨hlinkage, ?_⟩
  intro settings
  rw [Validation.exists_violation_iff, Validation.Breaks, hlinkage, ne_eq, Option.some.injEq]

/-- The function `pub extern "C" r##"#"r"## fn f() { }`, with two literals. -/
def twoLiterals : SourceUnit :=
  { path := "lib.rs"
    bytes := Text.Utf8.encode "pub extern \"C\" r##\"#\"r\"## fn f() \x7b\x7d".toList
    tree :=
      { kind := "source_file", start := 0, stop := 35, children := [
        { kind := "function_item", start := 0, stop := 35, children := [
          { kind := "visibility_modifier", start := 0, stop := 3 },
          { kind := "function_modifiers", start := 4, stop := 25, children := [
            { kind := "extern_modifier", start := 4, stop := 25, children := [
              { kind := "string_literal", start := 11, stop := 14 },
              { kind := "raw_string_literal", start := 15, stop := 25 }] }] },
          { kind := "identifier", start := 29, stop := 30, field := "name" }] }] } }

/-- The last literal counts; its contents start with a hash, hold a quote and end with an
`r`. -/
theorem literals_decode_to_contents_twoLiterals :
    ∃ n ∈ twoLiterals.tree.children, n.Legible twoLiterals.bytes ∧
      (∃ literal ∈ (linkageNodes (modifiersOf n)).getLast?, literal.bytes twoLiterals.bytes =
        Text.Utf8.encode ((LiteralForm.raw 2).write "#\"r").toList) ∧
      ∃ c, candidateOf twoLiterals [] n = .ok c ∧ c.linkage = some "#\"r" ∧
        (∃ v ∈ Validation.check {} c, v.rule = .notForeignAbi) ∧
        ¬ ∃ v ∈ Validation.check { foreignAbi := "#\"r" } c, v.rule = .notForeignAbi := by
  have hnode : ∃ n ∈ twoLiterals.tree.children, n.Legible twoLiterals.bytes ∧
      ∃ literal ∈ (linkageNodes (modifiersOf n)).getLast?, literal.bytes twoLiterals.bytes =
        Text.Utf8.encode ((LiteralForm.raw 2).write "#\"r").toList := by
    decide +kernel
  have hcontents : ∀ c ∈ "#\"r".toList, Text.isBlank c = false := by
    have hall : "#\"r".toList.all (!Text.isBlank ·) = true := by decide
    intro c hc
    exact (Bool.not_eq_true' _).mp (List.all_eq_true.mp hall c hc)
  obtain ⟨n, hn, hlegible, literal, hlast, hbytes⟩ := hnode
  obtain ⟨hexists, hlinkage⟩ :=
    literals_decode_to_contents.2 (.raw 2) "#\"r" twoLiterals n literal hcontents hlast hbytes
  obtain ⟨c, hc⟩ := hexists hlegible []
  obtain ⟨hread, hrule⟩ := hlinkage [] c hc
  refine ⟨n, hn, hlegible, ⟨literal, hlast, hbytes⟩, c, hc, hread, ?_, ?_⟩
  · exact (hrule {}).mpr (by decide)
  · rw [hrule]
    exact fun hne => hne rfl

end ApiCatalog.Extraction
