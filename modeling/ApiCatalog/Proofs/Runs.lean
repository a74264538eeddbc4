import ApiCatalog.Event
import Mathlib.Data.List.Forall2

/-!
# Results and runs, one step at a time

A stage of the pipeline either reads something and may stop, or runs and leaves
events behind. Nothing in the later files opens the two monads: a computation
that succeeded is taken apart with `bind_eq_ok`, a walk over a list with
`mapM_eq_ok`, and a run is seen through its result and its events by the
equations at the end.
-/

namespace ApiCatalog

variable {ε ε' α β : Type}

/-! ## Readings that can stop -/

@[simp] theorem ok_bind (a : α) (f : α → Except ε β) :
    (Except.ok a >>= f) = f a := rfl

@[simp] theorem error_bind (e : ε) (f : α → Except ε β) :
    ((.error e : Except ε α) >>= f) = .error e := rfl

theorem bind_eq_ok {x : Except ε α} {f : α → Except ε β} {b : β} :
    x >>= f = .ok b ↔ ∃ a, x = .ok a ∧ f a = .ok b := by
  cases x with
  | error e => simp
  | ok a => simp

theorem bind_eq_error {x : Except ε α} {f : α → Except ε β} {e : ε} :
    x >>= f = .error e ↔ x = .error e ∨ ∃ a, x = .ok a ∧ f a = .error e := by
  cases x with
  | error e' => simp
  | ok a => simp

theorem map_eq_ok {x : Except ε α} {f : α → β} {b : β} :
    x.map f = .ok b ↔ ∃ a, x = .ok a ∧ f a = b := by
  cases x with
  | error e => simp [Except.map]
  | ok a => simp [Except.map]

theorem map_eq_error {x : Except ε α} {f : α → β} {e : ε} :
    x.map f = .error e ↔ x = .error e := by
  cases x with
  | error e' => simp [Except.map]
  | ok a => simp [Except.map]

theorem mapError_eq_ok {x : Except ε α} {f : ε → ε'} {a : α} :
    x.mapError f = .ok a ↔ x = .ok a := by
  cases x with
  | error e => simp [Except.mapError]
  | ok b => simp [Except.mapError]

theorem mapError_eq_error {x : Except ε α} {f : ε → ε'} {e : ε'} :
    x.mapError f = .error e ↔ ∃ e', x = .error e' ∧ f e' = e := by
  cases x with
  | error e' => simp [Except.mapError]
  | ok a => simp [Except.mapError]

theorem pure_eq_ok {a b : α} : (pure a : Except ε α) = .ok b ↔ a = b := by
  simp [pure, Except.pure]

/-- A walk over a list succeeds when every step does, and keeps the order. -/
theorem mapM_eq_ok {f : α → Except ε β} {xs : List α} {ys : List β} :
    xs.mapM f = .ok ys ↔ List.Forall₂ (fun x y => f x = .ok y) xs ys := by
  induction xs generalizing ys with
  | nil =>
      rw [List.mapM_nil, pure_eq_ok]
      constructor
      · rintro rfl
        exact .nil
      · rintro ⟨⟩
        rfl
  | cons x xs ih =>
      rw [List.mapM_cons, bind_eq_ok]
      constructor
      · rintro ⟨y, hy, h⟩
        obtain ⟨rest, hrest, h⟩ := bind_eq_ok.mp h
        rw [pure_eq_ok] at h
        subst h
        exact .cons hy (ih.mp hrest)
      · rintro (_ | ⟨hy, hrest⟩)
        exact ⟨_, hy, bind_eq_ok.mpr ⟨_, ih.mpr hrest, rfl⟩⟩

/-- A walk over a list fails as its first step that fails. -/
theorem mapM_eq_error {f : α → Except ε β} {xs : List α} {e : ε} :
    xs.mapM f = .error e ↔ ∃ before x after, xs = before ++ x :: after ∧
      (∀ y ∈ before, ∃ b, f y = .ok b) ∧ f x = .error e := by
  induction xs with
  | nil =>
      constructor
      · intro h
        cases h
      · rintro ⟨before, x, after, hsplit, -⟩
        simp at hsplit
  | cons x xs ih =>
      rw [List.mapM_cons, bind_eq_error]
      constructor
      · rintro (hx | ⟨y, hy, h⟩)
        · exact ⟨[], x, xs, rfl, List.forall_mem_nil _, hx⟩
        · rcases bind_eq_error.mp h with h | ⟨rest, -, h⟩
          · obtain ⟨before, z, after, rfl, hbefore, hz⟩ := ih.mp h
            exact ⟨x :: before, z, after, rfl, List.forall_mem_cons.mpr ⟨⟨y, hy⟩, hbefore⟩, hz⟩
          · cases h
      · rintro ⟨before, z, after, hsplit, hbefore, hz⟩
        cases before with
        | nil =>
            cases hsplit
            exact .inl hz
        | cons y before =>
            cases hsplit
            obtain ⟨⟨b, hb⟩, hbefore⟩ := List.forall_mem_cons.mp hbefore
            have hrest := ih.mpr ⟨before, z, after, rfl, hbefore, hz⟩
            exact .inr ⟨b, hb, bind_eq_error.mpr (.inl hrest)⟩

theorem exists_mapM_eq_ok {f : α → Except ε β} {xs : List α}
    (h : ∀ x ∈ xs, ∃ y, f x = .ok y) : ∃ ys, xs.mapM f = .ok ys := by
  induction xs with
  | nil => exact ⟨[], rfl⟩
  | cons x xs ih =>
      obtain ⟨y, hy⟩ := h x (by simp)
      obtain ⟨ys, hys⟩ := ih fun z hz => h z (by simp [hz])
      exact ⟨y :: ys, mapM_eq_ok.mpr (.cons hy (mapM_eq_ok.mp hys))⟩

theorem mapM_eq_some_map {f : α → Option β} {g : α → β} {xs : List α}
    (h : ∀ x ∈ xs, f x = some (g x)) : xs.mapM f = some (xs.map g) := by
  induction xs with
  | nil => rfl
  | cons x xs ih =>
      rw [List.forall_mem_cons] at h
      rw [List.mapM_cons, h.1, ih h.2]
      rfl

theorem exists_mem_of_forall₂ {r : α → β → Prop} {xs : List α} {ys : List β}
    (h : List.Forall₂ r xs ys) {y : β} (hy : y ∈ ys) : ∃ x ∈ xs, r x y := by
  induction h with
  | nil => cases hy
  | cons hxy _ ih =>
      rcases List.mem_cons.mp hy with rfl | hy
      · exact ⟨_, List.mem_cons_self, hxy⟩
      · obtain ⟨x, hx, hr⟩ := ih hy
        exact ⟨x, List.mem_cons_of_mem _ hx, hr⟩

theorem exists_mem_right_of_forall₂ {r : α → β → Prop} {xs : List α} {ys : List β}
    (h : List.Forall₂ r xs ys) {x : α} (hx : x ∈ xs) : ∃ y ∈ ys, r x y :=
  exists_mem_of_forall₂ (r := flip r) h.flip hx

/-! What a reading gives can be tested, whatever it is tested for: there is at
most one thing that it gives, and at most one failure. -/

instance decidableEqOk [DecidableEq α] (x : Except ε α) (a : α) :
    Decidable (x = .ok a) :=
  match x with
  | .ok b => decidable_of_iff (b = a) (by rw [Except.ok.injEq])
  | .error _ => .isFalse (by simp)

instance decidableEqError [DecidableEq ε] (x : Except ε α) (e : ε) :
    Decidable (x = .error e) :=
  match x with
  | .ok _ => .isFalse (by simp)
  | .error e' => decidable_of_iff (e' = e) (by rw [Except.error.injEq])

instance decidableExistsOk (x : Except ε α) (p : α → Prop) [DecidablePred p] :
    Decidable (∃ a, x = .ok a ∧ p a) :=
  match x with
  | .ok b => decidable_of_iff (p b) (by simp)
  | .error _ => .isFalse (by simp)

instance decidableForallOk (x : Except ε α) (p : α → Prop) [DecidablePred p] :
    Decidable (∀ a, x = .ok a → p a) :=
  match x with
  | .ok b => decidable_of_iff (p b) (by simp)
  | .error _ => .isTrue (by simp)

/-! ## Runs -/

attribute [ext] Run

namespace Run

@[simp] theorem result_pure (a : α) : (pure a : Run ε α).result = .ok a := rfl

@[simp] theorem events_pure (a : α) : (pure a : Run ε α).events = [] := rfl

@[simp] theorem result_log (level : Level) (message : String) :
    (log level message : Run ε Unit).result = .ok () := rfl

@[simp] theorem events_log (level : Level) (message : String) :
    (log level message : Run ε Unit).events = [.log level message] := rfl

@[simp] theorem result_fail (e : ε) : (fail e : Run ε α).result = .error e := rfl

@[simp] theorem events_fail (e : ε) : (fail e : Run ε α).events = [] := rfl

@[simp] theorem result_ofExcept (r : Except ε α) : (ofExcept r).result = r := rfl

@[simp] theorem events_ofExcept (r : Except ε α) : (ofExcept r).events = [] := rfl

@[simp] theorem result_mapError (f : ε → ε') (r : Run ε α) :
    (r.mapError f).result = r.result.mapError f := rfl

@[simp] theorem events_mapError (f : ε → ε') (r : Run ε α) :
    (r.mapError f).events = r.events := rfl

/-- The result of two runs, one after the other, is that of their results. -/
@[simp] theorem result_bind (r : Run ε α) (next : α → Run ε β) :
    (r >>= next).result = r.result >>= fun a => (next a).result := by
  show (andThen r next).result = _
  unfold andThen
  cases r.result with
  | ok a => rfl
  | error e => rfl

/-- A run that succeeded hands its events on in front of those of the next. -/
theorem events_bind_of_ok {r : Run ε α} {a : α} (h : r.result = .ok a)
    (next : α → Run ε β) :
    (r >>= next).events = r.events ++ (next a).events := by
  show (andThen r next).events = _
  unfold andThen
  rw [h]

/-- A run that failed is the last one. -/
theorem events_bind_of_error {r : Run ε α} {e : ε} (h : r.result = .error e)
    (next : α → Run ε β) : (r >>= next).events = r.events := by
  show (andThen r next).events = _
  unfold andThen
  rw [h]

/-- What comes after a failure is never run. -/
theorem bind_of_error {r : Run ε α} {e : ε} (h : r.result = .error e)
    (next : α → Run ε β) : (r >>= next) = ⟨r.events, .error e⟩ := by
  refine Run.ext (events_bind_of_error h next) ?_
  rw [result_bind, h, error_bind]

/-- Two runs in a row and a third one are a run and two in a row. -/
theorem bind_bind {γ : Type} (r : Run ε α) (f : α → Run ε β) (g : β → Run ε γ) :
    (r >>= f) >>= g = r >>= fun a => f a >>= g := by
  cases hr : r.result with
  | error e =>
      rw [bind_of_error hr, bind_of_error hr]
      exact bind_of_error rfl g
  | ok a =>
      refine Run.ext ?_ (by simp only [result_bind, hr, ok_bind])
      cases hf : (f a).result with
      | error e =>
          have hrf : (r >>= f).result = .error e := by rw [result_bind, hr, ok_bind, hf]
          rw [events_bind_of_error hrf, events_bind_of_ok hr, events_bind_of_ok hr,
            events_bind_of_error hf]
      | ok b =>
          have hrf : (r >>= f).result = .ok b := by rw [result_bind, hr, ok_bind, hf]
          rw [events_bind_of_ok hrf, events_bind_of_ok hr, events_bind_of_ok hr,
            events_bind_of_ok hf, List.append_assoc]

end Run

/-! ## The diagnostic stream

Log messages leave no trace on the diagnostic stream, so most stages are quiet and
the stream of a pipeline is that of the one stage that is not. -/

@[simp] theorem diagnosticStream_nil : diagnosticStream [] = "" := rfl

@[simp] theorem diagnosticStream_append (front back : List Event) :
    diagnosticStream (front ++ back) = diagnosticStream front ++ diagnosticStream back := by
  rw [diagnosticStream, List.map_append, String.join_append]
  rfl

@[simp] theorem diagnosticStream_log (level : Level) (message : String) :
    diagnosticStream [.log level message] = "" := rfl

namespace Run

/-- A run that writes nothing to the diagnostic stream. -/
def Quiet (r : Run ε α) : Prop :=
  diagnosticStream r.events = ""

theorem quiet_pure (a : α) : (pure a : Run ε α).Quiet := rfl

theorem quiet_log (level : Level) (message : String) :
    (log level message : Run ε Unit).Quiet := rfl

theorem quiet_fail (e : ε) : (fail e : Run ε α).Quiet := rfl

theorem quiet_ofExcept (r : Except ε α) : (ofExcept r).Quiet := rfl

theorem Quiet.mapError {r : Run ε α} (h : r.Quiet) (f : ε → ε') : (r.mapError f).Quiet := h

/-- A quiet run adds nothing to the stream of the one before it. -/
theorem stream_bind_of_quiet {r : Run ε α} {next : α → Run ε β}
    (h : ∀ a, (next a).Quiet) :
    diagnosticStream (r >>= next).events = diagnosticStream r.events := by
  cases hr : r.result with
  | ok a => rw [events_bind_of_ok hr, diagnosticStream_append, h, String.append_empty]
  | error e => rw [events_bind_of_error hr]

/-- The stream of a run that succeeded comes before that of the next. -/
theorem stream_bind_of_ok {r : Run ε α} {a : α} (h : r.result = .ok a)
    (next : α → Run ε β) :
    diagnosticStream (r >>= next).events =
      diagnosticStream r.events ++ diagnosticStream (next a).events := by
  rw [events_bind_of_ok h, diagnosticStream_append]

theorem Quiet.bind {r : Run ε α} {next : α → Run ε β} (h : r.Quiet)
    (hnext : ∀ a, (next a).Quiet) : (r >>= next).Quiet := by
  unfold Quiet
  rw [stream_bind_of_quiet hnext, h]

end Run
end ApiCatalog
