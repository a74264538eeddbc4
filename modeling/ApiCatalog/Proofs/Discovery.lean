import Mathlib.Data.List.TakeWhile
import ApiCatalog.Proofs.Order
import ApiCatalog.Proofs.Runs
import ApiCatalog.Source

/-!
# Which files are found

A walk over a directory gives what it finds in an order of its own. Here the files
below a place are described without a walk: the names lead through directories to a
regular file. The walk finds exactly those, the relative path is known by its text
because no name holds a slash, and sorting by that text leaves nothing of the order
in which the walk went. What is found is then read through the path that it was
found under.
-/

namespace ApiCatalog

/-! ## Paths are known by their texts -/

namespace Text

variable {sep : Char} {w : List Char}

theorem splitAt_of_not_mem (h : sep ∉ w) : splitAt sep w = [w] := by
  induction w with
  | nil => rfl
  | cons c w ih =>
      rw [List.mem_cons, not_or] at h
      rw [splitAt, if_neg (by simpa using Ne.symm h.1), ih h.2]

theorem splitAt_append (h : sep ∉ w) (rest : List Char) :
    splitAt sep (w ++ sep :: rest) = w :: splitAt sep rest := by
  induction w with
  | nil =>
      rw [List.nil_append, splitAt]
      exact if_pos (beq_self_eq_true sep)
  | cons c w ih =>
      rw [List.mem_cons, not_or] at h
      rw [List.cons_append, splitAt, if_neg (by simpa using Ne.symm h.1), ih h.2]

theorem splitAt_intercalate {ws : List (List Char)} (hne : ws ≠ [])
    (h : ∀ v ∈ ws, sep ∉ v) : splitAt sep ([sep].intercalate ws) = ws := by
  induction ws with
  | nil => exact absurd rfl hne
  | cons v ws ih =>
      rw [List.forall_mem_cons] at h
      cases ws with
      | nil =>
          rw [List.intercalate_singleton]
          exact splitAt_of_not_mem h.1
      | cons u ws =>
          rw [List.intercalate_cons_cons, List.append_assoc]
          show splitAt sep (v ++ sep :: [sep].intercalate (u :: ws)) = _
          rw [splitAt_append h.1, ih (List.cons_ne_nil u ws) h.2]

end Text

namespace Path

/-- Slashes at the front of a text hold no names. -/
theorem namesIn_slashes (n : Nat) (cs : List Char) :
    namesIn (List.replicate n '/' ++ cs) = namesIn cs := by
  induction n with
  | zero => rfl
  | succ n ih =>
      -- every slash leaves an empty piece in front of it, and those are dropped
      have hslash := @Text.splitAt_append '/' [] List.not_mem_nil (List.replicate n '/' ++ cs)
      rw [List.nil_append] at hslash
      rw [List.replicate_succ, List.cons_append, namesIn, hslash, List.map_cons,
        List.filter_cons_of_neg (by decide)]
      exact ih

/-- Names with slashes between them are read again. -/
theorem namesIn_intercalate {names : List String} (hne : names ≠ [])
    (h : AreParts names) :
    namesIn (['/'].intercalate (names.map String.toList)) = names := by
  have hpieces : Text.splitAt '/' (['/'].intercalate (names.map String.toList)) =
      names.map String.toList := by
    refine Text.splitAt_intercalate (by simpa using hne) ?_
    intro v hv
    obtain ⟨name, hname, rfl⟩ := List.mem_map.mp hv
    exact (h name hname).2.2
  have hback : (names.map String.toList).map String.ofList = names := by
    rw [List.map_map]
    exact List.map_id'' (fun name => String.ofList_toList) _
  rw [namesIn, hpieces, hback, List.filter_eq_self]
  intro name hname
  obtain ⟨hempty, hdot, -⟩ := h name hname
  simp [hempty, hdot]

/-- The slashes at the front of a text say how the path is anchored, and nothing else. -/
theorem parse_slashes {s : String} {n : Nat} {c : Char} {cs : List Char} (hc : c ≠ '/')
    (hs : s.toList = List.replicate n '/' ++ c :: cs) :
    (parse s).anchor = anchorOf n ∧ (parse s).parts = namesIn (c :: cs) := by
  have hfront : s.toList.takeWhile (· == '/') = List.replicate n '/' := by
    rw [hs, List.takeWhile_append_of_pos (by simp), List.takeWhile_cons_of_neg (by simpa using hc),
      List.append_nil]
  constructor
  · show anchorOf (s.toList.takeWhile (· == '/')).length = _
    rw [hfront, List.length_replicate]
  · show namesIn s.toList = _
    rw [hs, namesIn_slashes]

/-- The first name does not start with a slash. -/
theorem exists_first_char {names : List String} (hne : names ≠ [])
    (h : AreParts names) :
    ∃ c cs, ['/'].intercalate (names.map String.toList) = c :: cs ∧ c ≠ '/' := by
  obtain ⟨first, rest, rfl⟩ := List.exists_cons_of_ne_nil hne
  obtain ⟨hempty, -, hslash⟩ := h first List.mem_cons_self
  obtain ⟨c, cs, hfirst⟩ := List.exists_cons_of_ne_nil
    (fun hnil => hempty (String.toList_eq_nil_iff.mp hnil))
  have hc : c ≠ '/' := by
    rintro rfl
    exact hslash (by rw [hfirst]; exact List.mem_cons_self)
  rw [List.map_cons, hfirst]
  cases rest with
  | nil => exact ⟨c, cs, List.intercalate_singleton, hc⟩
  | cons second rest => exact ⟨c, _, List.intercalate_cons_cons, hc⟩

/-- A path is what its text is read as. -/
theorem parse_text (p : Path) : parse p.text = p := by
  obtain ⟨anchor, names, hproper⟩ := p
  by_cases hne : names = []
  · subst hne
    cases anchor with
    | here =>
        show parse "." = _
        rfl
    | root =>
        show parse "/" = _
        rfl
    | secondRoot =>
        show parse "//" = _
        rfl
  · have htext : (text ⟨anchor, names, hproper⟩).toList =
        anchor.text.toList ++ ['/'].intercalate (names.map String.toList) := by
      rw [← show "/".toList = ['/'] from rfl, ← String.toList_intercalate]
      simp [text, hne]
    have hslashes : ∃ n, anchor.text.toList = List.replicate n '/' ∧ anchorOf n = anchor := by
      cases anchor with
      | here => exact ⟨0, rfl, rfl⟩
      | root => exact ⟨1, rfl, rfl⟩
      | secondRoot => exact ⟨2, rfl, rfl⟩
    obtain ⟨n, hslashes, hanchor⟩ := hslashes
    obtain ⟨c, cs, hbody, hc⟩ := exists_first_char hne hproper
    rw [hslashes, hbody] at htext
    obtain ⟨hread, hparts⟩ := parse_slashes hc htext
    refine Path.ext (hread.trans hanchor) (hparts.trans ?_)
    rw [← hbody]
    exact namesIn_intercalate hne hproper

theorem text_injective : Function.Injective text :=
  Function.LeftInverse.injective parse_text

end Path

/-! ## Suffixes -/

namespace Path

/-- The suffix of a name: from its last dot on, unless that is its first or its last
character or there is none. -/
inductive SuffixOf (name : List Char) : List Char → Prop
  | dotted {stem tail : List Char} (hname : name = stem ++ '.' :: tail) (hlast : '.' ∉ tail)
      (hstem : stem ≠ []) (htail : tail ≠ []) : SuffixOf name ('.' :: tail)
  | plain (h : ∀ stem tail, name = stem ++ '.' :: tail → '.' ∉ tail → stem = [] ∨ tail = []) :
      SuffixOf name []

theorem afterLastDot {stem tail : List Char} (hlast : '.' ∉ tail) :
    ((stem ++ '.' :: tail).reverse.takeWhile (· != '.')).reverse = tail := by
  have hall : ∀ c ∈ tail.reverse, (c != '.') = true := by
    intro c hc
    rw [bne_iff_ne]
    rintro rfl
    exact hlast (List.mem_reverse.mp hc)
  rw [List.reverse_append, List.reverse_cons, List.append_assoc,
    List.takeWhile_append_of_pos hall]
  simp

theorem SuffixOf.unique {name first second : List Char} (hfirst : SuffixOf name first)
    (hsecond : SuffixOf name second) : first = second := by
  cases hfirst with
  | dotted hname hlast hstem htail =>
      cases hsecond with
      | dotted hname' hlast' =>
          rw [← afterLastDot hlast, ← hname, hname', afterLastDot hlast']
      | plain h => exact absurd (h _ _ hname hlast) (not_or.mpr ⟨hstem, htail⟩)
  | plain h =>
      cases hsecond with
      | dotted hname hlast hstem htail =>
          exact absurd (h _ _ hname hlast) (not_or.mpr ⟨hstem, htail⟩)
      | plain => rfl

theorem suffixOf_spec (name : String) : SuffixOf name.toList (suffixOf name).toList := by
  unfold suffixOf
  dsimp only
  by_cases hdot : '.' ∈ name.toList
  · obtain ⟨front, back, hsplit, hlast⟩ :=
      List.eq_append_cons_of_mem (List.mem_reverse.mpr hdot)
    have hname : name.toList = back.reverse ++ '.' :: front.reverse := by
      rw [← List.reverse_reverse name.toList, hsplit]
      simp
    have hlast : '.' ∉ front.reverse := fun h => hlast (List.mem_reverse.mp h)
    have htail := @afterLastDot back.reverse front.reverse hlast
    rw [← hname] at htail
    rw [htail]
    split
    · next hshort =>
        refine .plain fun stem tail hname' hlast' => ?_
        have hsame : tail = front.reverse := by
          rw [← htail, hname', afterLastDot hlast']
        rw [hname', ← hsame, Bool.or_eq_true, List.isEmpty_iff, decide_eq_true_eq,
          List.length_append, List.length_cons] at hshort
        rcases hshort with hempty | hlength
        · exact .inr hempty
        · exact .inl (List.length_eq_zero_iff.mp (by omega))
    · next hlong =>
        rw [String.toList_ofList]
        refine .dotted hname hlast ?_ ?_
        · rintro hstem
          simp [hname, hstem] at hlong
        · rintro htail
          simp [htail] at hlong
  · have hall : ∀ c ∈ name.toList.reverse, (c != '.') = true := by
      intro c hc
      rw [bne_iff_ne]
      rintro rfl
      exact hdot (List.mem_reverse.mp hc)
    rw [List.takeWhile_eq_self_iff.mpr hall, List.reverse_reverse, if_pos (by simp)]
    refine .plain fun stem tail hname _ => absurd ?_ hdot
    rw [hname]
    simp

theorem suffixOf_iff {name ext : String} :
    suffixOf name = ext ↔ SuffixOf name.toList ext.toList := by
  constructor
  · rintro rfl
    exact suffixOf_spec name
  · intro h
    exact String.toList_injective ((suffixOf_spec name).unique h)

/-- The last name of a path has one of some suffixes. -/
def HasSuffixIn (path : Path) (extensions : List String) : Prop :=
  ∃ ext ∈ extensions, SuffixOf path.name.toList ext.toList

theorem hasSuffixIn_iff {path : Path} {extensions : List String} :
    path.HasSuffixIn extensions ↔ extensions.contains path.suffix = true := by
  rw [HasSuffixIn, List.contains_iff_mem, suffix]
  constructor
  · rintro ⟨ext, hext, h⟩
    rw [suffixOf_iff.mpr h]
    exact hext
  · intro h
    exact ⟨_, h, suffixOf_spec path.name⟩

end Path

/-! ## The files below a place -/

namespace FileSystem

variable {fs : FileSystem}

/-- The names lead from a place through directories to a regular file. -/
structure HoldsFile (fs : FileSystem) (base : Location) (names : List String)
    (bytes : List UInt8) : Prop where
  isNames : ∀ name ∈ names, Location.isName name = true
  directories : ∀ front, front <+: names → front ≠ names →
    fs.entry? (base ++ front) = some .directory
  file : fs.entry? (base ++ names) = some (.file bytes)

theorem holdsFile_nil {base : Location} {bytes : List UInt8} :
    fs.HoldsFile base [] bytes ↔ fs.entry? base = some (.file bytes) := by
  constructor
  · intro h
    rw [← h.file, List.append_nil]
  · intro h
    refine ⟨List.forall_mem_nil _, fun front hfront hne => ?_, by rwa [List.append_nil]⟩
    exact absurd (List.prefix_nil.mp hfront) hne

theorem holdsFile_cons {base : Location} {name : String} {rest : List String}
    {bytes : List UInt8} :
    fs.HoldsFile base (name :: rest) bytes ↔
      Location.isName name = true ∧ fs.entry? base = some .directory ∧
        fs.HoldsFile (base ++ [name]) rest bytes := by
  constructor
  · intro h
    have hnames := List.forall_mem_cons.mp h.isNames
    have hbase := h.directories [] List.nil_prefix (List.cons_ne_nil name rest).symm
    rw [List.append_nil] at hbase
    refine ⟨hnames.1, hbase, hnames.2, fun front hfront hne => ?_, ?_⟩
    · rw [List.append_assoc]
      refine h.directories (name :: front) (List.cons_prefix_cons.mpr ⟨rfl, hfront⟩) ?_
      intro heq
      exact hne (List.cons.inj heq).2
    · rw [List.append_assoc]
      exact h.file
  · rintro ⟨hname, hbase, h⟩
    refine ⟨List.forall_mem_cons.mpr ⟨hname, h.isNames⟩, fun front hfront hne => ?_, ?_⟩
    · cases front with
      | nil => rwa [List.append_nil]
      | cons first front =>
          obtain ⟨rfl, hmore⟩ := List.cons_prefix_cons.mp hfront
          rw [List.append_cons]
          refine h.directories front hmore ?_
          rintro rfl
          exact hne rfl
    · rw [List.append_cons]
      exact h.file

theorem isFileBelow_iff {base : Location} {names : List String} :
    fs.isFileBelow base names = true ↔ ∃ bytes, fs.HoldsFile base names bytes := by
  induction names generalizing base with
  | nil =>
      simp only [holdsFile_nil]
      unfold isFileBelow
      split
      · next bytes hfile => simp [hfile]
      · next hother =>
          simp only [Bool.false_eq_true, false_iff]
          rintro ⟨bytes, hfile⟩
          exact hother bytes hfile
  | cons name rest ih =>
      rw [isFileBelow, Bool.and_eq_true, Bool.and_eq_true, ih, beq_iff_eq]
      simp only [holdsFile_cons, exists_and_left, and_assoc]

theorem mem_entries_of_file {l : Location} {bytes : List UInt8}
    (h : fs.entry? l = some (.file bytes)) : (l, Entry.file bytes) ∈ fs.entries := by
  unfold entry? at h
  split at h
  · next e hlookup =>
      obtain ⟨front, back, hentries, -⟩ := List.lookup_eq_some_iff.mp hlookup
      cases h
      rw [hentries]
      simp
  · split at h
    · cases h
    · cases h

theorem pathBelow?_eq_some {base : Location} {names : List String} {path : Path} :
    fs.pathBelow? base names = some path ↔
      fs.isFileBelow base names = true ∧ path.anchor = .here ∧ path.parts = names := by
  unfold pathBelow?
  split
  · next h => simp [h, Path.ext_iff, eq_comm]
  · next h => simp [h]

/-- The walk finds the files below a place and nothing else. -/
theorem mem_filesBelow {base : Location} {path : Path} :
    path ∈ fs.filesBelow base ↔
      path.anchor = .here ∧ ∃ bytes, fs.HoldsFile base path.parts bytes := by
  rw [filesBelow, List.mem_eraseDups, List.mem_filterMap]
  constructor
  · rintro ⟨⟨l, e⟩, -, h⟩
    dsimp only at h
    split at h
    · obtain ⟨hbelow, hanchor, hparts⟩ := pathBelow?_eq_some.mp h
      rw [hparts]
      exact ⟨hanchor, isFileBelow_iff.mp hbelow⟩
    · cases h
  · rintro ⟨hanchor, bytes, h⟩
    refine ⟨_, mem_entries_of_file h.file, ?_⟩
    dsimp only
    rw [List.drop_left, if_pos (List.isPrefixOf_iff_prefix.mpr (List.prefix_append _ _))]
    exact pathBelow?_eq_some.mpr ⟨isFileBelow_iff.mpr ⟨bytes, h⟩, hanchor, rfl⟩

theorem holdsFile_iff {base : Location} {path : Path} {bytes : List UInt8}
    (hanchor : path.anchor = .here) :
    fs.HoldsFile base path.parts bytes ↔
      path ∈ fs.filesBelow base ∧ fs.entry? (base ++ path.parts) = some (.file bytes) := by
  constructor
  · intro h
    exact ⟨mem_filesBelow.mpr ⟨hanchor, bytes, h⟩, h.file⟩
  · rintro ⟨hmem, hfile⟩
    obtain ⟨-, found, h⟩ := mem_filesBelow.mp hmem
    rw [h.file] at hfile
    cases hfile
    exact h

theorem nodup_eraseDups {α : Type} [BEq α] [LawfulBEq α] (xs : List α) :
    xs.eraseDups.Nodup := by
  generalize hn : xs.length = n
  induction n using Nat.strongRecOn generalizing xs with
  | ind n ih =>
      cases xs with
      | nil => exact List.nodup_nil
      | cons x xs =>
          rw [List.eraseDups_cons, List.nodup_cons]
          constructor
          · intro hmem
            have hx := (List.mem_filter.mp (List.mem_eraseDups.mp hmem)).2
            simp at hx
          · refine ih _ ?_ _ rfl
            rw [← hn]
            exact Nat.lt_succ_of_le (List.length_filter_le _ xs)

/-! ## What is found is read -/

/-- A regular file below a directory, by its relative path. -/
def FileBelow (fs : FileSystem) (root path : Path) (bytes : List UInt8) : Prop :=
  path.anchor = .here ∧
    ∃ base, fs.resolve root = .ok base ∧ fs.HoldsFile base path.parts bytes

/-- A path leads to the same file below two directories if the walks that find it there
agree on it. -/
theorem fileBelow_congr {fs' : FileSystem} {root path : Path} {base : Location}
    {bytes : List UInt8} (hbase : fs.resolve root = .ok base)
    (hbase' : fs'.resolve root = .ok base)
    (h : path ∈ fs.filesBelow base ++ fs'.filesBelow base →
      fs.entry? (base ++ path.parts) = fs'.entry? (base ++ path.parts) ∧
        path ∈ fs.filesBelow base ∧ path ∈ fs'.filesBelow base) :
    fs.FileBelow root path bytes ↔ fs'.FileBelow root path bytes := by
  simp only [FileBelow, hbase, hbase', Except.ok.injEq, exists_eq_left']
  refine and_congr_right fun hanchor => ?_
  rw [holdsFile_iff hanchor, holdsFile_iff hanchor]
  constructor
  · rintro ⟨hmem, hfile⟩
    obtain ⟨hentry, -, hmem'⟩ := h (List.mem_append_left _ hmem)
    exact ⟨hmem', hentry ▸ hfile⟩
  · rintro ⟨hmem', hfile⟩
    obtain ⟨hentry, hmem, -⟩ := h (List.mem_append_right _ hmem')
    exact ⟨hmem, hentry ▸ hfile⟩

theorem walk_of_holdsFile {base : Location} {names : List String} {bytes : List UInt8}
    (h : fs.HoldsFile base names bytes) : fs.walk base names = .ok (base ++ names) := by
  induction names generalizing base with
  | nil => rw [List.append_nil]; rfl
  | cons name rest ih =>
      obtain ⟨hname, hbase, hrest⟩ := holdsFile_cons.mp h
      have hup : name ≠ ".." := (Location.isName_iff.mp hname).2.2.1
      have hnext : (fs.entry? (base ++ [name])).isSome = true := by
        cases rest with
        | nil => rw [holdsFile_nil.mp hrest]; rfl
        | cons second rest => rw [(holdsFile_cons.mp hrest).2.1]; rfl
      have hstep : fs.step base name = .ok (base ++ [name]) := by
        simp [step, hbase, hup, hnext]
      rw [walk, List.foldlM_cons, hstep, ok_bind]
      have hwalk := ih hrest
      rwa [List.append_assoc] at hwalk

theorem walk_append (fs : FileSystem) (l : Location) (names more : List String) :
    fs.walk l (names ++ more) = fs.walk l names >>= fun l => fs.walk l more :=
  List.foldlM_append

/-- A file below a directory is what its path leads to from there. -/
theorem read_of_fileBelow {root path : Path} {bytes : List UInt8}
    (h : fs.FileBelow root path bytes) : fs.read (root.join path) = .ok bytes := by
  obtain ⟨hanchor, base, hbase, hholds⟩ := h
  have hjoin : root.join path = root.append path := by
    simp [Path.join, Path.isAbsolute, hanchor]
  have hresolve : fs.resolve (root.join path) = .ok (base ++ path.parts) := by
    rw [hjoin]
    show fs.walk (start root) (root.parts ++ path.parts) = _
    rw [resolve] at hbase
    rw [walk_append, hbase, ok_bind, walk_of_holdsFile hholds]
  rw [read, hresolve]
  simp only [hholds.file]

end FileSystem

namespace SourceTree

variable {t : SourceTree}

/-- What is found are the files below the root whose suffix is asked for. -/
theorem mem_discover {path : Path} :
    path ∈ t.discover ↔
      path.HasSuffixIn t.extensions ∧ ∃ bytes, t.files.FileBelow t.root path bytes := by
  rw [Path.hasSuffixIn_iff]
  unfold discover FileSystem.FileBelow
  cases hbase : t.files.resolve t.root with
  | error cause => simp
  | ok base =>
      simp only [(Text.sortBy_perm _).mem_iff, List.mem_filter, isSource,
        FileSystem.mem_filesBelow, Except.ok.injEq, exists_eq_left', exists_and_left]
      exact and_comm

/-- What is found comes in the order of the texts of its paths, each once. -/
theorem pairwise_discover (t : SourceTree) :
    (t.discover.map Path.text).Pairwise (· < ·) := by
  unfold discover
  split
  · exact List.Pairwise.nil
  · next base hbase =>
      refine Text.pairwise_sortBy ?_
      exact ((FileSystem.nodup_eraseDups _).filter _).map Path.text_injective

end SourceTree
end ApiCatalog
