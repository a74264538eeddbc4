import ApiCatalog.FileSystem
import ApiCatalog.Proofs.Runs

/-!
# What writing a file does

A path is walked through directories, so what is put at a place that is no directory
does not change where any path leads that was followed before. That one fact carries
the file: a written file is read back through its path, and writing it again finds the
same place and puts the same thing there.

Creating directories is described by what it keeps. Nothing that was there changes, and
all that is new is a directory to which a beginning of the path leads (`Makes`); this also
holds of the directories that stay behind when the writing is refused half-way.
-/

namespace ApiCatalog

namespace Path

/-- A path that another one starts with. -/
def IsFrontOf (q p : Path) : Prop :=
  q.anchor = p.anchor ∧ q.parts <+: p.parts

theorem IsFrontOf.refl (p : Path) : p.IsFrontOf p :=
  ⟨rfl, List.prefix_rfl⟩

theorem IsFrontOf.trans {p q r : Path} (h : p.IsFrontOf q) (h' : q.IsFrontOf r) :
    p.IsFrontOf r :=
  ⟨h.1.trans h'.1, h.2.trans h'.2⟩

theorem IsFrontOf.parent (p : Path) : p.parent.IsFrontOf p :=
  ⟨rfl, List.dropLast_prefix p.parts⟩

/-- A path that has a name is below everything its parent starts with. -/
theorem IsFrontOf.mem_parents {p q : Path} (h : q.IsFrontOf p.parent) (hp : p.parts ≠ []) :
    q ∈ p.parents := by
  obtain ⟨hanchor, hnames⟩ := h
  have hlen : q.parts.length ≤ p.parts.length - 1 := by
    simpa [Path.parent] using hnames.length_le
  have hpos : 0 < p.parts.length := List.length_pos_iff.mpr hp
  have htake : q.parts = p.parts.take q.parts.length :=
    List.prefix_iff_eq_take.mp (hnames.trans (List.dropLast_prefix p.parts))
  refine List.mem_map.mpr ⟨p.parts.length - 1 - q.parts.length, ?_, ?_⟩
  · rw [List.mem_range]
    omega
  · have hcount : p.parts.length - 1 - (p.parts.length - 1 - q.parts.length) =
        q.parts.length := by
      omega
    rw [hcount]
    exact Path.ext hanchor.symm htake.symm

end Path

namespace FileSystem

variable {fs fs' : FileSystem}

/-! ## Places -/

theorem lookup_filter_of_ne {l l' : Location} (h : l' ≠ l) (entries : List (Location × Entry)) :
    (entries.filter fun entry => entry.1 != l).lookup l' = entries.lookup l' := by
  induction entries with
  | nil => rfl
  | cons entry entries ih =>
      obtain ⟨place, e⟩ := entry
      rw [List.filter_cons]
      by_cases hplace : place = l
      · subst hplace
        rw [if_neg (by simp), ih, List.lookup_cons, beq_eq_false_iff_ne.mpr h]
      · rw [if_pos (by simpa using hplace), List.lookup_cons, List.lookup_cons, ih]

theorem ne_of_entry? {l l' : Location} {e : Option Entry} (h : fs.entry? l = e)
    (h' : fs.entry? l' ≠ e) : l ≠ l' := by
  rintro rfl
  exact h' h

theorem entry?_put_self (fs : FileSystem) (l : Location) (e : Entry) :
    entry? (fs.put l e) l = some e := by
  unfold entry? put
  rw [List.lookup_cons, beq_self_eq_true]

theorem entry?_put_of_ne {l l' : Location} (h : l' ≠ l) (e : Entry) :
    entry? (fs.put l e) l' = fs.entry? l' := by
  unfold entry? put
  rw [List.lookup_cons, beq_eq_false_iff_ne.mpr h]
  dsimp only
  rw [lookup_filter_of_ne h]

/-- Putting something over what was just put leaves nothing of it. -/
theorem put_put (fs : FileSystem) (l : Location) (e e' : Entry) :
    (fs.put l e).put l e' = fs.put l e' := by
  simp [put, List.filter_filter]

/-! ## Paths -/

theorem step_eq_ok {l l' : Location} {name : String} :
    fs.step l name = .ok l' ↔
      fs.entry? l = some .directory ∧
        if name = ".." then l' = Location.up l
        else (fs.entry? (l ++ [name])).isSome = true ∧ l' = l ++ [name] := by
  unfold step
  cases fs.entry? l with
  | none => simp
  | some e =>
      cases e with
      | file bytes => simp
      | directory =>
          by_cases hup : name = ".."
          · simp [hup, eq_comm (a := l')]
          · by_cases hsome : (fs.entry? (l ++ [name])).isSome = true
            · simp [hup, hsome, eq_comm (a := l')]
            · simp [hup, hsome]

/-- A path is followed to its last name and then one step on. -/
theorem resolve_of_getLast? {p : Path} {name : String} (h : p.parts.getLast? = some name) :
    fs.resolve p = fs.resolve p.parent >>= fun l => fs.step l name := by
  have hparts : p.parts = p.parts.dropLast ++ [name] :=
    (List.dropLast_append_getLast? name h).symm
  show p.parts.foldlM fs.step (start p) = _
  rw [hparts, List.foldlM_append]
  show (p.parts.dropLast.foldlM fs.step (start p) >>= _) = _
  simp only [List.foldlM_cons, List.foldlM_nil, bind_pure]
  rfl

theorem isDirectory_iff {p : Path} :
    fs.isDirectory p = true ↔
      ∃ l, fs.resolve p = .ok l ∧ fs.entry? l = some .directory := by
  unfold isDirectory find?
  cases fs.resolve p with
  | error cause => simp
  | ok l => simp

/-- A walk goes on as it went where every step of it does. -/
theorem resolve_of_steps {p : Path} {l : Location}
    (hstep : ∀ a name b, fs.step a name = .ok b → fs'.step a name = .ok b)
    (h : fs.resolve p = .ok l) : fs'.resolve p = .ok l := by
  unfold resolve walk at h ⊢
  generalize start p = a at h ⊢
  generalize p.parts = names at h ⊢
  induction names generalizing a with
  | nil => exact h
  | cons name rest ih =>
      rw [List.foldlM_cons] at h ⊢
      obtain ⟨b, hb, h⟩ := bind_eq_ok.mp h
      rw [hstep a name b hb, ok_bind]
      exact ih b h

/-- What is put at a place that is no directory changes no step of a walk. -/
theorem step_put {l a b : Location} {name : String} {e : Entry}
    (hl : fs.entry? l ≠ some .directory) (h : fs.step a name = .ok b) :
    (fs.put l e).step a name = .ok b := by
  obtain ⟨hdir, hnext⟩ := step_eq_ok.mp h
  have hne : a ≠ l := ne_of_entry? hdir hl
  refine step_eq_ok.mpr ⟨by rw [entry?_put_of_ne hne, hdir], ?_⟩
  split
  · next hup => rwa [if_pos hup] at hnext
  · next hup =>
      rw [if_neg hup] at hnext
      refine ⟨?_, hnext.2⟩
      by_cases hplace : a ++ [name] = l
      · rw [hplace, entry?_put_self]
        rfl
      · rw [entry?_put_of_ne hplace]
        exact hnext.1

theorem resolve_put {l l' : Location} {p : Path} {e : Entry}
    (hl : fs.entry? l ≠ some .directory) (h : fs.resolve p = .ok l') :
    (fs.put l e).resolve p = .ok l' :=
  resolve_of_steps (fun _ _ _ => step_put hl) h

/-! ## One file -/

/-- The place that a path names in the directory of a place. -/
def target (l : Location) (name : String) : Location :=
  if name = ".." then Location.up l else l ++ [name]

/-- The path of what was just put in a directory leads to it. -/
theorem resolve_put_target {p : Path} {name : String} {l : Location} {e : Entry}
    (hname : p.parts.getLast? = some name) (hl : fs.resolve p.parent = .ok l)
    (hdir : fs.entry? l = some .directory)
    (hfree : fs.entry? (target l name) ≠ some .directory) :
    (fs.put (target l name) e).resolve p = .ok (target l name) := by
  -- the walk goes to the directory as before, and its last step finds what is new
  have hne : l ≠ target l name := ne_of_entry? hdir hfree
  have hstep : (fs.put (target l name) e).step l name = .ok (target l name) := by
    refine step_eq_ok.mpr ⟨by rw [entry?_put_of_ne hne, hdir], ?_⟩
    unfold target
    split
    · rfl
    · rw [entry?_put_self]
      exact ⟨rfl, rfl⟩
  rw [resolve_of_getLast? hname, resolve_put hfree hl, ok_bind, hstep]

/-- A file is written where its directory is there and no directory stands in its
place. -/
theorem write_eq_ok {p : Path} {bytes : List UInt8} :
    fs.write p bytes = .ok fs' ↔
      ∃ name l, p.parts.getLast? = some name ∧ fs.resolve p.parent = .ok l ∧
        fs.entry? l = some .directory ∧ fs.entry? (target l name) ≠ some .directory ∧
        fs' = fs.put (target l name) (.file bytes) := by
  unfold write
  cases p.parts.getLast? with
  | none => simp
  | some name =>
      cases fs.resolve p.parent with
      | error cause => simp
      | ok l =>
          cases hl : fs.entry? l with
          | none => simp [hl]
          | some e =>
              cases e with
              | file old => simp [hl]
              | directory =>
                  simp only [beq_iff_eq, Option.some.injEq, Except.ok.injEq,
                    exists_and_left, exists_eq_left', hl, true_and]
                  unfold target
                  generalize (if name = ".." then Location.up l else l ++ [name]) = place
                  split
                  · next h => simp [h]
                  · next h =>
                      rw [Except.ok.injEq, eq_comm, iff_and_self]
                      exact fun _ => h

/-- The path of a file that was just written leads to it. -/
theorem read_write {p : Path} {bytes : List UInt8} (h : fs.write p bytes = .ok fs') :
    fs'.read p = .ok bytes := by
  obtain ⟨name, l, hname, hl, hdir, hfree, rfl⟩ := write_eq_ok.mp h
  unfold read
  rw [resolve_put_target hname hl hdir hfree]
  dsimp only
  rw [entry?_put_self]

/-- Writing the same file again changes nothing. -/
theorem write_write {p : Path} {bytes : List UInt8} (h : fs.write p bytes = .ok fs') :
    fs'.write p bytes = .ok fs' := by
  obtain ⟨name, l, hname, hl, hdir, hfree, rfl⟩ := write_eq_ok.mp h
  have hne : l ≠ target l name := ne_of_entry? hdir hfree
  refine write_eq_ok.mpr ⟨name, l, hname, resolve_put hfree hl, ?_, ?_, ?_⟩
  · rw [entry?_put_of_ne hne, hdir]
  · rw [entry?_put_self]
    simp
  · rw [put_put]

theorem isDirectory_parent_of_write {p : Path} {bytes : List UInt8}
    (h : fs.write p bytes = .ok fs') : fs'.isDirectory p.parent = true := by
  obtain ⟨name, l, -, hl, hdir, -, -⟩ := write_eq_ok.mp (write_write h)
  exact isDirectory_iff.mpr ⟨l, hl, hdir⟩

/-! ## Directories -/

/-- A later state of a file system that has everything of the earlier one as it was, and
besides that at most new directories. -/
structure Grows (fs fs' : FileSystem) : Prop where
  kept : ∀ l e, fs.entry? l = some e → fs'.entry? l = some e
  added : ∀ l e, fs'.entry? l = some e → fs.entry? l = some e ∨ e = .directory

theorem Grows.refl (fs : FileSystem) : fs.Grows fs where
  kept _ _ h := h
  added _ _ h := .inl h

/-- Where more is there, a walk still goes as it went. -/
theorem Grows.resolve {p : Path} {l : Location} (h : fs.Grows fs')
    (hp : fs.resolve p = .ok l) : fs'.resolve p = .ok l := by
  refine resolve_of_steps (fun a name b hb => ?_) hp
  obtain ⟨hdir, hnext⟩ := step_eq_ok.mp hb
  refine step_eq_ok.mpr ⟨h.kept a _ hdir, ?_⟩
  split
  · next hup => rwa [if_pos hup] at hnext
  · next hup =>
      rw [if_neg hup] at hnext
      obtain ⟨e, he⟩ := Option.isSome_iff_exists.mp hnext.1
      rw [h.kept _ e he]
      exact ⟨rfl, hnext.2⟩

/-- A later state of a file system in which at most directories are new, each where a
beginning of a path leads. -/
def Makes (fs fs' : FileSystem) (p : Path) : Prop :=
  ∀ l, fs'.entry? l = fs.entry? l ∨
    fs.entry? l = none ∧ fs'.entry? l = some .directory ∧
      ∃ q : Path, q.IsFrontOf p ∧ fs'.resolve q = .ok l

theorem Makes.refl (fs : FileSystem) (p : Path) : fs.Makes fs p :=
  fun _ => .inl rfl

theorem Makes.grows {p : Path} (h : fs.Makes fs' p) : fs.Grows fs' where
  kept l e he := by
    rcases h l with hsame | ⟨hnone, -⟩
    · rw [hsame, he]
    · rw [hnone] at he
      cases he
  added l e he := by
    rcases h l with hsame | ⟨-, hdir, -⟩
    · rw [hsame] at he
      exact .inl he
    · rw [hdir, Option.some.injEq] at he
      exact .inr he.symm

theorem Makes.of_isFrontOf {p p' : Path} (h : fs.Makes fs' p) (hp : p.IsFrontOf p') :
    fs.Makes fs' p' := by
  intro l
  rcases h l with hsame | ⟨hnone, hdir, q, hq, hl⟩
  · exact .inl hsame
  · exact .inr ⟨hnone, hdir, q, hq.trans hp, hl⟩

theorem Makes.trans {fs'' : FileSystem} {p : Path} (h : fs.Makes fs' p)
    (h' : fs'.Makes fs'' p) : fs.Makes fs'' p := by
  intro l
  rcases h' l with hsame | ⟨hnone, hdir, hfront⟩
  · rw [hsame]
    rcases h l with hsame' | ⟨hnone, hdir, q, hq, hl⟩
    · exact .inl hsame'
    · exact .inr ⟨hnone, hdir, q, hq, h'.grows.resolve hl⟩
  · refine .inr ⟨?_, hdir, hfront⟩
    rcases h l with hsame' | ⟨hnone', -⟩
    · rw [← hsame', hnone]
    · exact hnone'

/-- A directory is made where the one above it is there and nothing stands in its
place. -/
theorem makeDirectory_eq_ok {p : Path} :
    fs.makeDirectory p = .ok fs' ↔
      ∃ name l, p.parts.getLast? = some name ∧ fs.resolve p.parent = .ok l ∧
        fs.entry? l = some .directory ∧ name ≠ ".." ∧ fs.entry? (l ++ [name]) = none ∧
        fs' = fs.put (l ++ [name]) .directory := by
  unfold makeDirectory
  cases p.parts.getLast? with
  | none => simp
  | some name =>
      simp only [Option.some.injEq, exists_and_left, exists_eq_left', bind_eq_ok]
      refine exists_congr fun l => and_congr_right fun _ => ?_
      cases fs.entry? l with
      | none => simp
      | some e =>
          cases e with
          | file bytes => simp
          | directory =>
              by_cases hup : name = ".."
              · simp [hup]
              · cases fs.entry? (l ++ [name]) with
                | none => simp [hup, pure_eq_ok, eq_comm (b := fs')]
                | some e => simp

theorem makeDirectory_makes {p : Path} (h : fs.makeDirectory p = .ok fs') :
    fs.Makes fs' p := by
  obtain ⟨name, l, hname, hl, hdir, hup, hfree, rfl⟩ := makeDirectory_eq_ok.mp h
  have htarget : target l name = l ++ [name] := if_neg hup
  intro l'
  by_cases hplace : l' = l ++ [name]
  · subst hplace
    refine .inr ⟨hfree, entry?_put_self fs _ _, p, .refl p, ?_⟩
    rw [← htarget] at hfree ⊢
    exact resolve_put_target hname hl hdir (by simp [hfree])
  · exact .inl (entry?_put_of_ne hplace .directory)

theorem makeDirectoriesTo_makes (p : Path) (depth : Nat) :
    fs.Makes (fs.makeDirectoriesTo p depth).1 p := by
  induction depth generalizing p with
  | zero => exact Makes.refl fs _
  | succ depth ih =>
      replace ih := (ih p.parent).of_isFrontOf (.parent p)
      unfold makeDirectoriesTo
      dsimp only
      split
      · next h => exact makeDirectory_makes h
      · split
        · next h =>
            rw [h] at ih
            exact ih
        · next mid h =>
            rw [h] at ih
            split
            · next h' => exact ih.trans (makeDirectory_makes h')
            · split
              · exact ih
              · exact ih
      · split
        · exact Makes.refl fs _
        · exact Makes.refl fs _

theorem makeDirectories_makes (p : Path) : fs.Makes (fs.makeDirectories p).1 p :=
  fs.makeDirectoriesTo_makes p _

theorem makeDirectory_of_isDirectory {p : Path} (h : fs.isDirectory p = true) :
    fs.makeDirectory p = .error .exists := by
  obtain ⟨place, hplace, -⟩ := isDirectory_iff.mp h
  unfold makeDirectory
  cases hlast : p.parts.getLast? with
  | none => rfl
  | some name =>
      rw [resolve_of_getLast? hlast] at hplace
      obtain ⟨l, hl, hstep⟩ := bind_eq_ok.mp hplace
      obtain ⟨hdir, hthere⟩ := step_eq_ok.mp hstep
      dsimp only
      rw [hl, ok_bind, hdir]
      dsimp only
      refine if_pos ?_
      by_cases hup : name = ".."
      · simp [hup]
      · rw [if_neg hup] at hthere
        simp [hthere.1]

/-- A directory that is there is left alone. -/
theorem makeDirectories_of_isDirectory {p : Path} (h : fs.isDirectory p = true) :
    fs.makeDirectories p = (fs, .ok ()) := by
  unfold makeDirectories
  cases p.parts.length with
  | zero => rfl
  | succ depth =>
      unfold makeDirectoriesTo
      dsimp only
      rw [makeDirectory_of_isDirectory h]
      dsimp only
      rw [if_pos h]

/-! ## A file with its directories -/

theorem writeWithParents_eq_ok {p : Path} {bytes : List UInt8} :
    fs.writeWithParents p bytes = (fs', .ok ()) ↔
      ∃ mid, fs.makeDirectories p.parent = (mid, .ok ()) ∧ mid.write p bytes = .ok fs' := by
  unfold writeWithParents
  split
  · next h => simp [h]
  · next mid h =>
      split
      · next written h' => simp [h, h']
      · next h' => simp [h, h']

/-- What is left behind when a file could not be written is directories. -/
theorem writeWithParents_grows {p : Path} {bytes : List UInt8} {e : OsError}
    (h : (fs.writeWithParents p bytes).2 = .error e) :
    fs.Grows (fs.writeWithParents p bytes).1 := by
  have hmake := (fs.makeDirectories_makes p.parent).grows
  unfold writeWithParents at h ⊢
  split
  · next hm => rwa [hm] at hmake
  · next mid hm =>
      rw [hm] at hmake h
      dsimp only at h
      split
      · next hw => simp [hw] at h
      · exact hmake

/-- Writing a file with its directories again changes nothing. -/
theorem writeWithParents_twice {p : Path} {bytes : List UInt8}
    (h : fs.writeWithParents p bytes = (fs', .ok ())) :
    fs'.writeWithParents p bytes = (fs', .ok ()) := by
  obtain ⟨mid, -, hwrite⟩ := writeWithParents_eq_ok.mp h
  have hdir : fs'.isDirectory p.parent = true := isDirectory_parent_of_write hwrite
  exact writeWithParents_eq_ok.mpr
    ⟨fs', makeDirectories_of_isDirectory hdir, write_write hwrite⟩

theorem read_writeWithParents {p : Path} {bytes : List UInt8}
    (h : fs.writeWithParents p bytes = (fs', .ok ())) : fs'.read p = .ok bytes := by
  obtain ⟨mid, -, hwrite⟩ := writeWithParents_eq_ok.mp h
  exact read_write hwrite

/-- A file that was written is where its path leads. What is new besides it are the
directories above it that were missing. -/
theorem changes_of_writeWithParents {p : Path} {bytes : List UInt8}
    (h : fs.writeWithParents p bytes = (fs', .ok ())) :
    ∃ place, fs'.resolve p = .ok place ∧ fs'.entry? place = some (.file bytes) ∧
      ∀ l, l ≠ place → fs'.entry? l = fs.entry? l ∨
        fs.entry? l = none ∧ fs'.entry? l = some .directory ∧
          ∃ q ∈ p.parents, fs'.resolve q = .ok l := by
  obtain ⟨mid, hmake, hwrite⟩ := writeWithParents_eq_ok.mp h
  have hmakes := fs.makeDirectories_makes p.parent
  rw [hmake] at hmakes
  obtain ⟨name, dir, hname, hdir, hthere, hfree, rfl⟩ := write_eq_ok.mp hwrite
  refine ⟨target dir name, resolve_put_target hname hdir hthere hfree,
    entry?_put_self mid _ _, fun l hl => ?_⟩
  rw [entry?_put_of_ne hl]
  rcases hmakes l with hsame | ⟨hnone, hnew, q, hq, hleads⟩
  · exact .inl hsame
  · have hparts : p.parts ≠ [] := by
      intro hnil
      rw [hnil] at hname
      cases hname
    exact .inr ⟨hnone, hnew, q, hq.mem_parents hparts, resolve_put hfree hleads⟩

end FileSystem
end ApiCatalog
