import ApiCatalog.Proofs.Judgement
import ApiCatalog.Proofs.Texts

/-!
# Markers are found in single attributes

The two marker rules do not look at the attributes one by one. They search one text in
which all attributes stand with commas between them, and an attribute may have commas of
its own. A marker without a comma cannot reach over one, so an occurrence in the joined
text lies within one attribute, however many there are and wherever the commas stand.

What the rules see of the attributes is then only which markers occur in some of them.
More attributes can therefore break fewer rules and never more (`check_sublist`), and the
order of the attributes is of no account.
-/

namespace ApiCatalog

/-! ## Texts joined with a separator -/

namespace Text

variable {sep : Char} {pattern : List Char}

theorem prefix_append_sep_iff (hsep : sep ∉ pattern) {front back : List Char} :
    pattern <+: front ++ sep :: back ↔ pattern <+: front := by
  induction front generalizing pattern with
  | nil =>
      cases pattern with
      | nil => simp
      | cons c cs =>
          have hc : c ≠ sep := by
            intro h
            simp [h] at hsep
          simp [hc]
  | cons f front ih =>
      cases pattern with
      | nil => simp
      | cons c cs =>
          have hcs : sep ∉ cs := by
            intro h
            exact hsep (List.mem_cons_of_mem c h)
          rw [List.cons_append, List.cons_prefix_cons, List.cons_prefix_cons, ih hcs]

theorem infix_append_sep_iff (hsep : sep ∉ pattern) {front back : List Char} :
    pattern <:+: front ++ sep :: back ↔ pattern <:+: front ∨ pattern <:+: back := by
  induction front with
  | nil =>
      have hfront := @prefix_append_sep_iff sep pattern hsep [] back
      rw [List.nil_append] at hfront
      rw [List.nil_append, List.infix_cons_iff, hfront, List.infix_nil, List.prefix_nil]
  | cons f front ih =>
      have hfront := @prefix_append_sep_iff sep pattern hsep (f :: front) back
      rw [List.cons_append] at hfront
      rw [List.cons_append, List.infix_cons_iff, ih, hfront, List.infix_cons_iff, or_assoc]

/-- What holds no separator occurs in a joined text only within one of the pieces. -/
theorem infix_join_iff (hne : pattern ≠ []) (hsep : sep ∉ pattern) {ws : List (List Char)} :
    pattern <:+: join [sep] ws ↔ ∃ w ∈ ws, pattern <:+: w := by
  induction ws with
  | nil => simp [join, hne]
  | cons w ws ih =>
      cases ws with
      | nil => simp [join]
      | cons v ws =>
          have hjoin : join [sep] (w :: v :: ws) = w ++ sep :: join [sep] (v :: ws) := by
            simp [join]
          rw [hjoin, infix_append_sep_iff hsep, ih]
          simp

end Text

namespace Validation

variable {s : Settings} {c : Candidate}

/-- What a marker has to be for a search to make sense: something, and nothing that could
be taken for the end of an attribute. -/
structure Searchable (marker : String) : Prop where
  ne_empty : marker ≠ ""
  no_comma : ',' ∉ marker.toList

/-- The text of an attribute has the marker somewhere. -/
def Bears (attr marker : String) : Prop :=
  marker.toList <:+: attr.toList

instance {attr marker : String} : Decidable (Bears attr marker) :=
  inferInstanceAs (Decidable (_ <:+: _))

theorem occursIn_attrText_iff {marker : String} (h : Searchable marker) :
    Text.occursIn marker.toList c.attrText = true ↔ ∃ attr ∈ c.attrs, Bears attr marker := by
  have hne : marker.toList ≠ [] := by
    intro hnil
    exact h.ne_empty (String.toList_eq_nil_iff.mp hnil)
  rw [Text.occursIn_iff, Candidate.attrText, Text.infix_join_iff hne h.no_comma]
  simp [Bears]

theorem occursIn_attrText_eq_false {marker : String} (h : Searchable marker) :
    Text.occursIn marker.toList c.attrText = false ↔ ∀ attr ∈ c.attrs, ¬ Bears attr marker := by
  rw [← Bool.not_eq_true, occursIn_attrText_iff h]
  simp

/-! ## The marker rules -/

theorem breaks_inlineRule_iff (h : Searchable s.inlineMarker) :
    (∃ v ∈ check s c, v.rule = .missingInlineMarker) ↔
      ∀ attr ∈ c.attrs, ¬ Bears attr s.inlineMarker := by
  rw [exists_violation_iff, Breaks, occursIn_attrText_eq_false h]
  -- without attributes there is none that bears the marker
  refine or_iff_right_of_imp ?_
  intro hnil
  simp [hnil]

theorem breaks_noPanicRule_iff (h : Searchable s.noPanicMarker) :
    (∃ v ∈ check s c, v.rule = .missingNoPanicMarker) ↔
      ∀ attr ∈ c.attrs, ¬ Bears attr s.noPanicMarker := by
  rw [exists_violation_iff, Breaks, occursIn_attrText_eq_false h]

/-! ## More attributes -/

theorem violate_sublist {rule : Rule} {broken broken' : Bool} {message : String}
    (h : broken' = true → broken = true) :
    (violate c rule broken' message).Sublist (violate c rule broken message) := by
  cases broken' with
  | false => exact List.nil_sublist _
  | true => rw [h rfl]

theorem checkMarkers_sublist {attrs : List String} (hinline : Searchable s.inlineMarker)
    (hnoPanic : Searchable s.noPanicMarker) (h : c.attrs ⊆ attrs) :
    (checkMarkers s { c with attrs := attrs }).Sublist (checkMarkers s c) := by
  have hlacks {marker : String} (hmarker : Searchable marker) :
      (!Text.occursIn marker.toList (Candidate.attrText { c with attrs := attrs })) = true →
        (!Text.occursIn marker.toList c.attrText) = true := by
    rw [Bool.not_eq_true', Bool.not_eq_true', occursIn_attrText_eq_false hmarker,
      occursIn_attrText_eq_false hmarker]
    intro hnone attr hattr
    exact hnone attr (h hattr)
  have hempty : attrs.isEmpty = true → c.attrs.isEmpty = true := by
    rw [List.isEmpty_iff, List.isEmpty_iff]
    intro hnil
    rw [hnil] at h
    exact List.subset_nil.mp h
  refine List.Sublist.append (violate_sublist ?_) (violate_sublist (hlacks hnoPanic))
  rw [Bool.or_eq_true, Bool.or_eq_true]
  exact Or.imp hempty (hlacks hinline)

/-- A candidate with all attributes of another one breaks no rule that the other does
not. -/
theorem check_sublist {attrs : List String} (hinline : Searchable s.inlineMarker)
    (hnoPanic : Searchable s.noPanicMarker) (h : c.attrs ⊆ attrs) :
    (check s { c with attrs := attrs }).Sublist (check s c) := by
  have hmarkers := checkMarkers_sublist hinline hnoPanic h
  -- the other rules do not look at attributes
  exact ((hmarkers.append_left _).append_right _).append_right _

/-- Where the markers are not empty and have no comma, a marker rule is broken exactly when
no single attribute has the marker in its text. All that is found about a candidate is the
same for every order of its attributes, and attributes that are added take violations away
or leave them. -/
theorem check_sees_single_attributes (s : Settings) (hinline : Searchable s.inlineMarker)
    (hnoPanic : Searchable s.noPanicMarker) (c : Candidate) :
    ((∃ v ∈ check s c, v.rule = .missingInlineMarker) ↔
      ∀ attr ∈ c.attrs, ¬ Bears attr s.inlineMarker) ∧
    ((∃ v ∈ check s c, v.rule = .missingNoPanicMarker) ↔
      ∀ attr ∈ c.attrs, ¬ Bears attr s.noPanicMarker) ∧
    (∀ attrs : List String, attrs.Perm c.attrs →
      check s { c with attrs := attrs } = check s c) ∧
    ∀ more : List String,
      (check s { c with attrs := c.attrs ++ more }).Sublist (check s c) := by
  refine ⟨breaks_inlineRule_iff hinline, breaks_noPanicRule_iff hnoPanic, ?_, ?_⟩
  · intro attrs hperm
    have hless := @check_sublist s c attrs hinline hnoPanic hperm.symm.subset
    have hmore := @check_sublist s { c with attrs := attrs } c.attrs hinline hnoPanic
      hperm.subset
    exact hless.antisymm hmore
  · intro more
    exact check_sublist hinline hnoPanic (List.subset_append_left _ _)

/-- A function whose inline marker is cut in two by the end of an attribute, and whose
other marker stands between commas. -/
def cutMarker : Candidate :=
  { ident := "sin", linkage := "C", attrs := ["#[in", "line]", "#[cfg(a,no_panic,b)]"] }

/-- The cut marker is missed, the one between commas is found, also with the attributes the
other way round, and one more attribute mends the first. -/
theorem check_sees_single_attributes_cutMarker :
    Searchable "inline" ∧ Searchable "no_panic" ∧
      (∀ attr ∈ cutMarker.attrs, ¬ Bears attr "inline") ∧
      (∃ v ∈ check {} cutMarker, v.rule = .missingInlineMarker) ∧
      ¬ (∃ v ∈ check {} cutMarker, v.rule = .missingNoPanicMarker) ∧
      check {} { cutMarker with attrs := cutMarker.attrs.reverse } = check {} cutMarker ∧
      check {} { cutMarker with attrs := cutMarker.attrs ++ ["#[inline]"] } = [] := by
  have hinline : Searchable "inline" := ⟨by decide, by decide⟩
  have hnoPanic : Searchable "no_panic" := ⟨by decide, by decide⟩
  obtain ⟨hinlineRule, hnoPanicRule, hperm, -⟩ :=
    check_sees_single_attributes {} hinline hnoPanic cutMarker
  have hcut : ∀ attr ∈ cutMarker.attrs, ¬ Bears attr "inline" := by decide
  refine ⟨hinline, hnoPanic, hcut, hinlineRule.mpr hcut, ?_, ?_, by decide⟩
  · rw [hnoPanicRule]
    decide
  · exact hperm _ (List.reverse_perm _)

end Validation
end ApiCatalog
