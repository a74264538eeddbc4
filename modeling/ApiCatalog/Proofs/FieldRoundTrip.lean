import ApiCatalog.Proofs.SettingsFields
import ApiCatalog.Record
import ApiCatalog.Validation

/-!
# Structures are read back from their fields

Types, candidates, signatures and records are shown as tables and can be read from
tables. Reading is lenient: a truth value may be a number or a word, an integer may be a
text, a field may be missing. On a table that a structure was shown as, nothing of that is
used: every check finds a value of the very sort it asks for, and the structure comes back.

A type holds the type it points to, so its table holds a table, as deep as it goes. Its
check recurses through the list of fields; seen from outside that is an optional field
like any other (`pointeeOf_eq`), and the argument is an induction on the type.
-/

namespace ApiCatalog

variable {α : Type}

/-! ## Fields that hold what they should -/

namespace Field

theorem list_map {check : Value → Checked α} {plain : α → Value}
    (h : ∀ a, check (plain a) = .ok a) (items : List α) :
    list check (.list (items.map plain)) = .ok items :=
  itemsFrom_map h 0 items

theorem nullable_of_ne_null {check : Value → Checked α} {v : Value} {a : α}
    (hv : v ≠ .null) (h : check v = .ok a) : nullable check v = .ok (some a) := by
  have hsome : some <$> check v = .ok (some a) := Checked.map_eq_ok.mpr ⟨a, h, rfl⟩
  cases v with
  | null => exact absurd rfl hv
  | _ => exact hsome

theorem nullable_text (s : Option String) : nullable text (.ofText? s) = .ok s := by
  cases s with
  | none => rfl
  | some s => rfl

end Field

/-! ## Types -/

namespace TypeExpr

theorem choice_kind (kind : TypeKind) :
    Field.choice TypeKind.names (.text kind.name) = .ok kind := by
  cases kind <;> rfl

theorem pointeeOf_eq (fields : List (String × Value)) :
    pointeeOf fields = Field.optional fields "pointee" none (Field.nullable ofValue) := by
  induction fields with
  | nil => rw [pointeeOf]; rfl
  | cons entry rest ih =>
      obtain ⟨name, v⟩ := entry
      rw [pointeeOf.eq_def, Field.optional, List.lookup_cons]
      simp only [@Bool.beq_comm String _ _ name "pointee"]
      cases hname : "pointee" == name with
      | true => cases v <;> rfl
      | false => exact ih

theorem ofValue_table (fields : List (String × Value)) :
    ofValue (.table fields) =
      (TypeExpr.mk
        <$> Field.required fields "kind" (Field.choice TypeKind.names)
        <*> Field.required fields "text" Field.text
        <*> Field.optional fields "mutable" false Field.bool
        <*> Field.optional fields "pointee" none (Field.nullable ofValue)
        <*> Field.optional fields "segments" 1 Field.int) := by
  rw [ofValue, pointeeOf_eq]

theorem toValue_ne_null (t : TypeExpr) : t.toValue ≠ .null := by
  cases t with
  | mk =>
      rw [toValue.eq_def]
      exact Value.noConfusion

/-- An optional type is read back where the type is. -/
theorem nullable_toValue : ∀ t : Option TypeExpr,
    (∀ inner ∈ t, ofValue inner.toValue = .ok inner) →
    Field.nullable ofValue
      (match t with
        | none => .null
        | some inner => inner.toValue) = .ok t
  | none, _ => rfl
  | some inner, h => Field.nullable_of_ne_null inner.toValue_ne_null (h inner rfl)

theorem ofValue_toValue : ∀ t : TypeExpr, ofValue t.toValue = .ok t
  | ⟨kind, text, mutable, pointee, segments⟩ => by
      have hpointee := nullable_toValue pointee fun inner _ => ofValue_toValue inner
      rw [toValue.eq_def, ofValue_table,
        Field.required_of_lookup rfl (choice_kind kind),
        Field.optional_of_lookup rfl hpointee]
      rfl

end TypeExpr

/-! ## The other structures -/

theorem Qualifiers.table_toValue (q : Qualifiers) :
    Field.table "Qualifiers" Qualifiers.ofFields q.toValue = .ok q := rfl

theorem GenericCounts.table_toValue (g : GenericCounts) :
    Field.table "GenericCounts" GenericCounts.ofFields g.toValue = .ok g := rfl

theorem Candidate.ofFields_toFields (c : Candidate) :
    Candidate.ofFields c.toFields = .ok c := by
  have hret := TypeExpr.nullable_toValue c.ret fun t _ => t.ofValue_toValue
  -- one step for each field that takes more than computation, in the order of the fields
  rw [Candidate.ofFields,
    Field.optional_of_lookup rfl (Field.nullable_text c.linkage),
    Field.optional_of_lookup rfl c.qualifiers.table_toValue,
    Field.optional_of_lookup rfl (Field.list_text c.attrs),
    Field.optional_of_lookup rfl c.generics.table_toValue,
    Field.optional_of_lookup rfl (Field.nullable_text c.variadic),
    Field.optional_of_lookup rfl (Field.list_map TypeExpr.ofValue_toValue c.params),
    Field.optional_of_lookup rfl hret]
  rfl

theorem Signature.ofFields_toFields (s : Signature) :
    Signature.ofFields s.toFields = .ok s := by
  rw [Signature.ofFields,
    Field.optional_of_lookup rfl (Field.list_text s.argTypes),
    Field.optional_of_lookup rfl (Field.nullable_text s.retType)]
  rfl

theorem Record.ofFields_toFields (r : Record) : Record.ofFields r.toFields = .ok r := by
  rw [Record.ofFields,
    Field.optional_of_lookup rfl (Field.list_text r.argTypes),
    Field.optional_of_lookup rfl (Field.list_text r.argNames),
    Field.optional_of_lookup rfl (Field.nullable_text r.retType)]
  rfl

/-! ## Candidates that are read back -/

theorem Candidate.mapM_ofFields_toFields (cs : List Candidate) :
    cs.mapM (fun c => (Candidate.ofFields c.toFields).toExcept) = .ok cs := by
  rw [mapM_eq_ok, List.forall₂_same]
  intro c _
  rw [c.ofFields_toFields]
  rfl

/-- Every type, signature, record and candidate is read back from the fields that show it,
whatever texts and numbers it holds and however deep its types go. Candidates that are read
back break the same rules and are validated alike: the same catalog, the same failure and
the same events. -/
theorem Field.structures_read_back :
    (∀ t : TypeExpr, TypeExpr.ofValue t.toValue = .ok t) ∧
    (∀ s : Signature, Signature.ofFields s.toFields = .ok s) ∧
    (∀ r : Record, Record.ofFields r.toFields = .ok r) ∧
    (∀ c : Candidate, Candidate.ofFields c.toFields = .ok c) ∧
    ∀ (s : Settings) (cs : List Candidate), ∃ rebuilt,
      cs.mapM (fun c => (Candidate.ofFields c.toFields).toExcept) = .ok rebuilt ∧
      rebuilt.map (Validation.check s) = cs.map (Validation.check s) ∧
      ∀ (reporting : Option Bool) (source : String),
        Validation.validate s reporting source rebuilt =
          Validation.validate s reporting source cs := by
  refine ⟨TypeExpr.ofValue_toValue, Signature.ofFields_toFields, Record.ofFields_toFields,
    Candidate.ofFields_toFields, ?_⟩
  intro s cs
  exact ⟨cs, Candidate.mapM_ofFields_toFields cs, rfl, fun _ _ => rfl⟩

end ApiCatalog
