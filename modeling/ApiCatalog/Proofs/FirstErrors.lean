import ApiCatalog.Proofs.Loading

/-!
# The error that is reported is the first one

The search for an error goes down a tree, looks only at children that are flagged, and
goes on to the next child where a flagged one turns out to hold nothing. Here a node is
known by its place, the indices of the children that lead to it from the root. Places are
compared like words in a dictionary, which is the order of the nodes in the source: a node
comes before what is below it, and what is below one child comes before the next child.

The search finds the node with the least place among the errors that can be reached over
flagged nodes (`firstError?_eq_some_iff`). Where the flags tell the truth every error can
be reached, so the first error of the whole tree is found, and a file that does not parse
is reported with the line of that error.
-/

namespace ApiCatalog

namespace Node

variable {root n m child : Node} {place : List Nat}

/-! ## Places -/

/-- The node at a place, if the place is in the tree. -/
def at? : Node → List Nat → Option Node
  | n, [] => some n
  | n, i :: rest => n.children[i]?.bind fun child => child.at? rest

@[simp] theorem at?_nil (n : Node) : n.at? [] = some n := by
  rw [at?]

theorem at?_cons_eq_some {i : Nat} {rest : List Nat} :
    n.at? (i :: rest) = some m ↔ ∃ child, n.children[i]? = some child ∧ child.at? rest = some m := by
  rw [at?, Option.bind_eq_some_iff]

/-- A place below a place. -/
theorem at?_append {front rest : List Nat} (h : root.at? front = some n) :
    root.at? (front ++ rest) = n.at? rest := by
  induction front generalizing root with
  | nil =>
      rw [at?_nil, Option.some.injEq] at h
      rw [h, List.nil_append]
  | cons i front ih =>
      obtain ⟨child, hchild, h⟩ := at?_cons_eq_some.mp h
      rw [List.cons_append, at?, hchild, Option.bind_some, ih h]

theorem sizeOf_lt_of_mem_children (h : child ∈ n.children) : sizeOf child < sizeOf n := by
  cases n with
  | mk =>
      have hlt := List.sizeOf_lt_of_mem h
      simp only [Node.mk.sizeOf_spec] at hlt ⊢
      omega

/-- What holds of a node once it holds of its children holds of every node. -/
@[elab_as_elim] theorem induction_children {motive : Node → Prop}
    (step : ∀ n, (∀ child ∈ n.children, motive child) → motive n) (n : Node) : motive n :=
  step n fun child _hchild => induction_children step child
termination_by sizeOf n
decreasing_by exact sizeOf_lt_of_mem_children _hchild

/-- Every node on the way from the root to a place is flagged, the one at the place
included. Nothing is asked of the root. -/
def FlaggedTo (root : Node) (place : List Nat) : Prop :=
  ∀ front, front <+: place → front ≠ [] → ∀ n, root.at? front = some n → n.hasError = true

theorem flaggedTo_nil (root : Node) : root.FlaggedTo [] := by
  intro front hfront hne
  exact absurd (List.prefix_nil.mp hfront) hne

theorem flaggedTo_cons {i : Nat} {rest : List Nat} (hchild : n.children[i]? = some child) :
    n.FlaggedTo (i :: rest) ↔ child.hasError = true ∧ child.FlaggedTo rest := by
  have hat (front : List Nat) : n.at? (i :: front) = child.at? front := by
    rw [at?, hchild, Option.bind_some]
  constructor
  · intro h
    refine ⟨h [i] (by simp) (by simp) child (by simp [hat]), ?_⟩
    intro front hfront hne m hm
    exact h (i :: front) (List.cons_prefix_cons.mpr ⟨rfl, hfront⟩) (by simp) m (by rw [hat, hm])
  · intro ⟨hflag, hrest⟩ front hfront hne m hm
    cases front with
    | nil => exact absurd rfl hne
    | cons j front =>
        obtain ⟨rfl, hmore⟩ := List.cons_prefix_cons.mp hfront
        rw [hat] at hm
        cases front with
        | nil =>
            rw [at?_nil, Option.some.injEq] at hm
            rw [← hm, hflag]
        | cons k front => exact hrest (k :: front) hmore (by simp) m hm

/-- A node that some property holds of, at the least such place. -/
structure FirstAt (root : Node) (P : List Nat → Node → Prop) (place : List Nat) (n : Node) :
    Prop where
  at_place : root.at? place = some n
  holds : P place n
  least : ∀ earlier, earlier < place → ∀ m, root.at? earlier = some m → ¬ P earlier m

theorem FirstAt.unique {P : List Nat → Node → Prop} {place' : List Nat}
    (h : root.FirstAt P place n) (h' : root.FirstAt P place' m) : n = m := by
  rcases lt_trichotomy place place' with hlt | rfl | hlt
  · exact absurd h.holds (h'.least place hlt n h.at_place)
  · have hsame := h.at_place
    rw [h'.at_place, Option.some.injEq] at hsame
    exact hsame.symm
  · exact absurd h'.holds (h.least place' hlt m h'.at_place)

/-! ## The search -/

theorem firstErrorAmong?_eq_findSome? (ns : List Node) :
    firstErrorAmong? ns = ns.findSome? fun n => if n.hasError then n.firstError? else none := by
  induction ns with
  | nil => rw [firstErrorAmong?, List.findSome?_nil]
  | cons n rest ih =>
      rw [firstErrorAmong?, List.findSome?_cons, ih]
      generalize (if n.hasError then n.firstError? else none) = found
      cases found with
      | none => rfl
      | some bad => rfl

theorem firstError?_eq (n : Node) :
    n.firstError? =
      if n.isError then some n
      else n.children.findSome? fun child => if child.hasError then child.firstError? else none := by
  cases n with
  | mk =>
      rw [firstError?, firstErrorAmong?_eq_findSome?]
      rfl

/-- An error that can be reached over flagged nodes. -/
def Reported (root : Node) (place : List Nat) (n : Node) : Prop :=
  root.FlaggedTo place ∧ n.isError = true

/-- A search that finds nothing has missed nothing. -/
theorem not_reported_of_none (root : Node) : root.firstError? = none →
    ∀ place n, root.at? place = some n → ¬ root.Reported place n := by
  induction root using induction_children with
  | step root ih =>
      intro hnone place n hat ⟨hflag, herror⟩
      rw [firstError?_eq] at hnone
      cases hroot : root.isError with
      | true => simp [hroot] at hnone
      | false =>
          simp only [hroot, Bool.false_eq_true, if_false, List.findSome?_eq_none_iff] at hnone
          cases place with
          | nil =>
              rw [at?_nil, Option.some.injEq] at hat
              rw [← hat, hroot] at herror
              cases herror
          | cons i rest =>
              obtain ⟨child, hchild, hat⟩ := at?_cons_eq_some.mp hat
              obtain ⟨hchildFlag, hflag⟩ := (flaggedTo_cons hchild).mp hflag
              have hmem : child ∈ root.children := List.mem_of_getElem? hchild
              have hnone := hnone child hmem
              rw [if_pos hchildFlag] at hnone
              exact ih child hmem hnone rest n hat ⟨hflag, herror⟩

/-- What a search finds is the first that there is to find. -/
theorem firstAt_of_some (root : Node) : ∀ n, root.firstError? = some n →
    ∃ place, root.FirstAt root.Reported place n := by
  induction root using induction_children with
  | step root ih =>
      intro n hsome
      rw [firstError?_eq] at hsome
      cases hroot : root.isError with
      | true =>
          simp only [hroot, if_true, Option.some.injEq] at hsome
          subst hsome
          refine ⟨[], at?_nil root, ⟨flaggedTo_nil root, hroot⟩, ?_⟩
          intro earlier hlt
          exact absurd hlt (List.not_lt_nil earlier)
      | false =>
          simp only [hroot, Bool.false_eq_true, if_false] at hsome
          obtain ⟨before, child, after, hsplit, hfound, hbefore⟩ :=
            List.findSome?_eq_some_iff.mp hsome
          have hchild : root.children[before.length]? = some child := by
            simp [hsplit]
          have hflag : child.hasError = true := by
            by_contra hflag
            simp [hflag] at hfound
          rw [if_pos hflag] at hfound
          obtain ⟨rest, hfirst⟩ := ih child (List.mem_of_getElem? hchild) n hfound
          refine ⟨before.length :: rest, ?_, ?_, ?_⟩
          · exact at?_cons_eq_some.mpr ⟨child, hchild, hfirst.at_place⟩
          · exact ⟨(flaggedTo_cons hchild).mpr ⟨hflag, hfirst.holds.1⟩, hfirst.holds.2⟩
          -- what comes earlier is the root, is below a child in front, or is earlier below this one
          intro earlier hlt m hat ⟨hreach, herror⟩
          cases earlier with
          | nil =>
              rw [at?_nil, Option.some.injEq] at hat
              rw [← hat, hroot] at herror
              cases herror
          | cons i deeper =>
              obtain ⟨other, hother, hat⟩ := at?_cons_eq_some.mp hat
              obtain ⟨hotherFlag, hreach⟩ := (flaggedTo_cons hother).mp hreach
              rcases List.cons_lt_cons_iff.mp hlt with hbehind | ⟨rfl, hdeeper⟩
              · rw [hsplit, List.getElem?_append_left hbehind] at hother
                have hnone := hbefore other (List.mem_of_getElem? hother)
                rw [if_pos hotherFlag] at hnone
                exact not_reported_of_none other hnone deeper m hat ⟨hreach, herror⟩
              · rw [hchild, Option.some.injEq] at hother
                subst hother
                exact hfirst.least deeper hdeeper m hat ⟨hreach, herror⟩

theorem firstError?_eq_none_iff :
    root.firstError? = none ↔ ∀ place n, root.at? place = some n → ¬ root.Reported place n := by
  constructor
  · exact not_reported_of_none root
  · intro hnone
    cases hfound : root.firstError? with
    | none => rfl
    | some n =>
        obtain ⟨place, hfirst⟩ := firstAt_of_some root n hfound
        exact absurd hfirst.holds (hnone place n hfirst.at_place)

theorem firstError?_eq_some_iff :
    root.firstError? = some n ↔ ∃ place, root.FirstAt root.Reported place n := by
  constructor
  · exact firstAt_of_some root n
  · intro ⟨place, hfirst⟩
    cases hfound : root.firstError? with
    | none =>
        have hnone := not_reported_of_none root hfound place n hfirst.at_place
        exact absurd hfirst.holds hnone
    | some m =>
        obtain ⟨place', hfirst'⟩ := firstAt_of_some root m hfound
        rw [hfirst.unique hfirst']

/-! ## Flags that tell the truth -/

/-- There is an error in a tree. -/
def HoldsError (n : Node) : Prop :=
  ∃ place m, n.at? place = some m ∧ m.isError = true

theorem holdsError_iff :
    n.HoldsError ↔ n.isError = true ∨ ∃ child ∈ n.children, child.HoldsError := by
  constructor
  · intro ⟨place, m, hat, herror⟩
    cases place with
    | nil =>
        rw [at?_nil, Option.some.injEq] at hat
        exact .inl (by rw [hat, herror])
    | cons i rest =>
        obtain ⟨child, hchild, hat⟩ := at?_cons_eq_some.mp hat
        exact .inr ⟨child, List.mem_of_getElem? hchild, rest, m, hat, herror⟩
  · intro h
    rcases h with herror | ⟨child, hmem, place, m, hat, herror⟩
    · exact ⟨[], n, at?_nil n, herror⟩
    · obtain ⟨i, hchild⟩ := List.mem_iff_getElem?.mp hmem
      exact ⟨i :: place, m, at?_cons_eq_some.mpr ⟨child, hchild, hat⟩, herror⟩

/-- A node is flagged exactly when there is an error at or below it, everywhere in a
tree. -/
def FlagsFit (root : Node) : Prop :=
  ∀ place n, root.at? place = some n → (n.hasError = true ↔ n.HoldsError)

theorem FlagsFit.self (h : root.FlagsFit) : root.hasError = true ↔ root.HoldsError :=
  h [] root (at?_nil root)

theorem FlagsFit.of_mem (h : n.FlagsFit) (hchild : child ∈ n.children) : child.FlagsFit := by
  obtain ⟨i, hchild⟩ := List.mem_iff_getElem?.mp hchild
  intro place m hat
  exact h (i :: place) m (at?_cons_eq_some.mpr ⟨child, hchild, hat⟩)

/-- Fitting flags are a matter of each node and its children. -/
theorem flagsFit_iff :
    n.FlagsFit ↔
      (n.hasError = true ↔ n.isError = true ∨ ∃ child ∈ n.children, child.hasError = true) ∧
        ∀ child ∈ n.children, child.FlagsFit := by
  constructor
  · intro h
    refine ⟨?_, fun child hchild => h.of_mem hchild⟩
    rw [h.self, holdsError_iff]
    refine or_congr_right (exists_congr fun child => and_congr_right fun hchild => ?_)
    exact (h.of_mem hchild).self.symm
  · intro ⟨hself, hchildren⟩ place m hat
    cases place with
    | nil =>
        rw [at?_nil, Option.some.injEq] at hat
        rw [← hat, hself, holdsError_iff]
        refine or_congr_right (exists_congr fun child => and_congr_right fun hchild => ?_)
        exact (hchildren child hchild).self
    | cons i rest =>
        obtain ⟨child, hchild, hat⟩ := at?_cons_eq_some.mp hat
        exact hchildren child (List.mem_of_getElem? hchild) rest m hat

@[simp] theorem flagsFit_mk {kind : String} {start stop row : Nat} {named missing hasError : Bool}
    {field : Option String} {children : List Node} :
    FlagsFit ⟨kind, start, stop, row, named, missing, hasError, field, children⟩ ↔
      (hasError = true ↔
        (kind = "ERROR" ∨ missing = true) ∨ ∃ child ∈ children, child.hasError = true) ∧
      ∀ child ∈ children, child.FlagsFit := by
  rw [flagsFit_iff]
  simp only [isError, Bool.or_eq_true, beq_iff_eq]

/-- The flags lead to every error. -/
theorem FlagsFit.flaggedTo (h : root.FlagsFit) (hat : root.at? place = some n)
    (herror : n.isError = true) : root.FlaggedTo place := by
  intro front hfront _ m hm
  obtain ⟨rest, rfl⟩ := hfront
  -- the error is below every node on the way to it
  rw [at?_append hm] at hat
  exact (h front m hm).mpr ⟨rest, n, hat, herror⟩

/-- The first error of all is found where the flags fit and the root is flagged. -/
theorem FlagsFit.firstError? (h : root.FlagsFit) (hroot : root.hasError = true) :
    ∃ n place, root.firstError? = some n ∧
      root.FirstAt (fun _ m => m.isError = true) place n := by
  cases hfound : root.firstError? with
  | none =>
      obtain ⟨place, n, hat, herror⟩ := h.self.mp hroot
      have hnone := firstError?_eq_none_iff.mp hfound place n hat
      exact absurd ⟨h.flaggedTo hat herror, herror⟩ hnone
  | some n =>
      obtain ⟨place, hfirst⟩ := firstError?_eq_some_iff.mp hfound
      refine ⟨n, place, rfl, hfirst.at_place, hfirst.holds.2, ?_⟩
      intro earlier hlt m hat herror
      exact hfirst.least earlier hlt m hat ⟨h.flaggedTo hat herror, herror⟩

end Node

namespace SourceTree

/-- A text that does not parse is refused with the line of the error that the search
finds. -/
theorem loadFile_of_hasError {t : SourceTree} {path : Path} {bytes : List UInt8}
    (hread : t.files.read path = .ok bytes) (hvalid : Text.Utf8.Valid bytes)
    (herror : (t.parse bytes).hasError = true) :
    (t.loadFile path).result = .error ⟨path, .badSyntax (errorLine? (t.parse bytes))⟩ := by
  obtain ⟨text, rfl⟩ := hvalid
  have hdecoded := FileSystem.readDecoded_eq_ok.mpr ⟨hread, Text.Utf8.decode_encode text⟩
  rw [loadFile, hdecoded]
  simp [herror]

/-- In every tree the search gives the first node in the order of the source among those
that are errors and reached over flagged nodes, and nothing exactly when there is none.
Where a node is flagged exactly when there is an error at or below it, a flagged root has a
first error, the search gives it, and a file with this tree is refused with the line of
that error. -/
theorem loadFile_names_first_error :
    (∀ root n : Node, root.firstError? = some n ↔
      ∃ place, root.FirstAt (fun place m => root.FlaggedTo place ∧ m.isError = true) place n) ∧
    (∀ root : Node, root.firstError? = none ↔
      ∀ place n, root.at? place = some n → ¬ (root.FlaggedTo place ∧ n.isError = true)) ∧
    (∀ root : Node, root.FlagsFit → root.hasError = true →
      ∃ n place, root.firstError? = some n ∧
        root.FirstAt (fun _ m => m.isError = true) place n) ∧
    ∀ (t : SourceTree) (path : Path) (bytes : List UInt8), t.files.read path = .ok bytes →
      Text.Utf8.Valid bytes → (t.parse bytes).FlagsFit → (t.parse bytes).hasError = true →
      ∃ n place f, (t.parse bytes).firstError? = some n ∧
        (t.parse bytes).FirstAt (fun _ m => m.isError = true) place n ∧
        (t.loadFile path).result = .error f ∧ f.path = path ∧
        f.cause.reason = "syntax error at line " ++ toString (n.row + 1) := by
  refine ⟨fun _ _ => Node.firstError?_eq_some_iff, fun _ => Node.firstError?_eq_none_iff,
    fun _ hfit hroot => hfit.firstError? hroot, ?_⟩
  intro t path bytes hread hvalid hfit hroot
  obtain ⟨n, place, hfound, hfirst⟩ := hfit.firstError? hroot
  refine ⟨n, place, _, hfound, hfirst, loadFile_of_hasError hread hvalid hroot, rfl, ?_⟩
  rw [errorLine?, hfound]
  rfl

/-- A source with two errors: a stray sign on line 3, and an end that is missing on
line 4. -/
def twoErrorsText : List UInt8 :=
  Text.Utf8.encode "// c\nfn f(\n+) \x7b\x7d\nuse b\n".toList

/-- The tree of that source. The sign is an error below the parameters of the function. -/
def twoErrors : Node :=
  { kind := "source_file", start := 0, stop := 23, hasError := true
    children := [
      { kind := "line_comment", start := 0, stop := 4 },
      { kind := "function_item", start := 5, stop := 16, row := 1, hasError := true
        children := [
          { kind := "identifier", start := 8, stop := 9, row := 1, field := some "name" },
          { kind := "parameters", start := 9, stop := 13, row := 1, hasError := true,
            field := some "parameters"
            children := [{ kind := "ERROR", start := 11, stop := 12, row := 2,
                           hasError := true }] },
          { kind := "block", start := 14, stop := 16, row := 2, field := some "body" }] },
      { kind := "use_declaration", start := 17, stop := 22, row := 3, hasError := true
        children := [
          { kind := "identifier", start := 21, stop := 22, row := 3 },
          { kind := ";", start := 22, stop := 22, row := 3, named := false, missing := true,
            hasError := true }] }] }

/-- A parser that knows the tree of that source, and no items of another one. -/
def parseTwoErrors (bytes : List UInt8) : Node :=
  if bytes = twoErrorsText then twoErrors
  else { kind := "source_file", start := 0, stop := bytes.length }

/-- A source tree with that source as its one file. -/
def twoErrorsSource : SourceTree :=
  { files := ⟨[(["a.rs"], .file twoErrorsText)]⟩, root := .current, parse := parseTwoErrors }

/-- The error inside the first item is reported, and its line is named. -/
theorem loadFile_names_first_error_twoErrors :
    twoErrorsSource.files.read (.parse "a.rs") = .ok twoErrorsText ∧
      Text.Utf8.Valid twoErrorsText ∧ twoErrorsSource.parse twoErrorsText = twoErrors ∧
      twoErrors.FlagsFit ∧
      (∃ n place, twoErrors.FirstAt (fun _ m => m.isError = true) place n ∧ n.row = 2) ∧
      ∃ f, (twoErrorsSource.loadFile (.parse "a.rs")).result = .error f ∧
        f.message = "failed to load a.rs: syntax error at line 3" := by
  have hread : twoErrorsSource.files.read (.parse "a.rs") = .ok twoErrorsText := by decide
  have hvalid : Text.Utf8.Valid twoErrorsText := ⟨_, rfl⟩
  have htree : twoErrorsSource.parse twoErrorsText = twoErrors := by
    simp [twoErrorsSource, parseTwoErrors]
  have hfit : twoErrors.FlagsFit := by simp [twoErrors]
  obtain ⟨n, place, f, hfound, hfirst, hresult, hpath, hreason⟩ :=
    loadFile_names_first_error.2.2.2 twoErrorsSource (.parse "a.rs") _ hread hvalid
      (by rw [htree]; exact hfit) (by rw [htree]; rfl)
  rw [htree] at hfound hfirst
  have hrow : some n.row = some 2 := by
    rw [← Option.map_some, ← hfound]
    decide
  rw [Option.some.injEq] at hrow
  refine ⟨hread, hvalid, htree, hfit, ⟨n, place, hfirst, hrow⟩, f, hresult, ?_⟩
  show "failed to load " ++ f.path.text ++ ": " ++ f.cause.reason = _
  rw [hpath, hreason, hrow]
  decide +kernel

end SourceTree
end ApiCatalog
