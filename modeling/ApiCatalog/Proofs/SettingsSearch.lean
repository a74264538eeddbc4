import Mathlib.Data.List.DropRight
import Mathlib.Data.List.Induction
import Mathlib.Data.List.Infix
import Mathlib.Logic.Function.Iterate
import ApiCatalog.Proofs.Discovery
import ApiCatalog.Proofs.FileWriting
import ApiCatalog.SettingsFile

/-!
# Which settings file is found

The search for a settings file drops names from the end of a path. That leads upwards as
long as the names are names of directories; dropping `..` leads back down into the directory
that the path came from. So the search is meant to go up from a directory, but it follows
the path as it is written.

Here both sides are said in terms of places. The names of a path lead to a place
(`Path.place`), one step down or up at a time, whether anything is there or not. A file is
the closest one above a place (`ClosestAbove`) if it is in one of the directories up to
three levels above and none of the nearer ones has such a file. What is found is the
closest one exactly when it was found on the way up, and it always is where no `..` is
among the names that are dropped. The argument is that places change by one level with
each name: between the place where the search starts and a place above it where it ends,
it has been everywhere.
-/

namespace ApiCatalog

/-! ## Going up from a place -/

namespace Location

variable {l : Location}

/-- A place at or below the working directory. -/
def Inside (l : Location) : Prop :=
  ∀ name ∈ l, isName name = true

instance : Decidable l.Inside :=
  inferInstanceAs (Decidable (∀ name ∈ l, _))

theorem inside_concat {name : String} :
    Inside (l ++ [name]) ↔ l.Inside ∧ isName name = true := by
  simp [Inside, or_imp, forall_and]

theorem up_concat {name : String} (h : isName name = true) : up (l ++ [name]) = l := by
  have hslash : l ++ [name] ≠ ["/"] := by
    intro heq
    have hlast := congrArg List.getLast? heq
    simp only [List.getLast?_concat, List.getLast?_singleton, Option.some.injEq] at hlast
    rw [hlast] at h
    exact absurd h (by decide)
  have hdots : (l ++ [name]).all (· == "..") = false := by
    have hname : name ≠ ".." := (isName_iff.mp h).2.2.1
    simp [hname]
  rw [up, beq_eq_false_iff_ne.mpr hslash, hdots]
  simp

/-- Going up as many levels as were added leads back. -/
theorem up_iterate_append {more : Location} (h : more.Inside) :
    up^[more.length] (l ++ more) = l := by
  induction more using List.reverseRecOn with
  | nil => simp
  | append_singleton more name ih =>
      rw [inside_concat] at h
      rw [List.length_append, List.length_singleton, Function.iterate_succ_apply,
        ← List.append_assoc, up_concat h.2, ih h.1]

theorem up_iterate_of_le {more : Location} (h : more.Inside) {n : Nat} (hn : n ≤ more.length) :
    up^[n] (l ++ more) = l ++ more.take (more.length - n) := by
  have hsplit := List.take_append_drop (more.length - n) more
  have hback : Inside (more.drop (more.length - n)) := by
    intro name hname
    exact h name (List.mem_of_mem_drop hname)
  have hlen : (more.drop (more.length - n)).length = n := by
    rw [List.length_drop]
    omega
  have hup := @up_iterate_append (l ++ more.take (more.length - n)) _ hback
  rwa [hlen, List.append_assoc, hsplit] at hup

theorem up_iterate_nil (n : Nat) : up^[n] [] = List.replicate n ".." := by
  induction n with
  | zero => rfl
  | succ n ih =>
      have hslash : (List.replicate n ".." == ["/"]) = false := by
        rw [beq_eq_false_iff_ne]
        intro heq
        have hmem : "/" ∈ List.replicate n ".." := by simp [heq]
        exact absurd (List.eq_of_mem_replicate hmem) (by decide)
      rw [Function.iterate_succ_apply', ih, up, hslash]
      simp [List.replicate_succ']

/-- Going up further than a place is deep leads out. -/
theorem le_length_of_inside {n : Nat} (hl : l.Inside) (h : Inside (up^[n] l)) :
    n ≤ l.length := by
  by_contra hn
  obtain ⟨k, rfl⟩ : ∃ k, n = (k + 1) + l.length := ⟨n - l.length - 1, by omega⟩
  have hroot := @up_iterate_append [] l hl
  rw [List.nil_append] at hroot
  rw [Function.iterate_add_apply, hroot, up_iterate_nil] at h
  exact absurd (h ".." (by simp)) (by decide)

/-- Up to some level above a place stand the beginnings of the place that are long enough, and
those passed on the way to one of them are the longer ones. -/
theorem exists_up_iterate_iff {base top : Location} (hbase : base.Inside) (htop : top.Inside)
    {levels : Nat} {P : Location → Prop} :
    (∃ n, n ≤ levels ∧ up^[n] base = top ∧ ∀ m, m < n → P (up^[m] base)) ↔
      top <+: base ∧ base.length ≤ top.length + levels ∧
        ∀ c, top <+: c → c <+: base → c ≠ top → P c := by
  constructor
  · intro ⟨n, hn, hreach, hpassed⟩
    have hle : n ≤ base.length := by
      refine le_length_of_inside hbase ?_
      rwa [hreach]
    have hup (m : Nat) (hm : m ≤ base.length) : up^[m] base = base.take (base.length - m) :=
      @up_iterate_of_le [] base hbase m hm
    rw [hup n hle] at hreach
    have hlen : top.length = base.length - n := by
      rw [← hreach, List.length_take]
      omega
    refine ⟨by rw [← hreach]; exact List.take_prefix _ _, by omega, ?_⟩
    intro c hlow hhigh hne
    have hlow' := hlow.length_le
    have hhigh' := hhigh.length_le
    have hlonger : c.length ≠ top.length := by
      intro heq
      exact hne (hlow.eq_of_length heq.symm).symm
    have hc := hpassed (base.length - c.length) (by omega)
    have hcount : base.length - (base.length - c.length) = c.length := by omega
    rwa [hup _ (by omega), hcount, ← List.prefix_iff_eq_take.mp hhigh] at hc
  · intro ⟨⟨rest, hrest⟩, hlen, hbetween⟩
    subst hrest
    have hinner : Inside rest := by
      intro name hname
      exact hbase name (List.mem_append_right _ hname)
    rw [List.length_append] at hlen
    refine ⟨rest.length, by omega, up_iterate_append hinner, ?_⟩
    intro m hm
    rw [up_iterate_of_le hinner (Nat.le_of_lt hm)]
    refine hbetween _ (List.prefix_append _ _) ?_ ?_
    · exact (List.prefix_append_right_inj _).mpr (List.take_prefix _ _)
    · intro heq
      have hcount := congrArg List.length heq
      rw [List.length_append, List.length_take] at hcount
      omega

/-! ## The place that names lead to -/

/-- The place that names lead to from the working directory, whatever is there. -/
def ofNames (names : List String) : Location :=
  names.foldl FileSystem.target []

/-- Names that are never above the working directory on their way. -/
def NamesInside (names : List String) : Prop :=
  ∀ front, front <+: names → (ofNames front).Inside

variable {names more : List String} {name : String}

theorem namesInside_iff : NamesInside names ↔ ∀ front ∈ names.inits, (ofNames front).Inside := by
  simp only [NamesInside, List.mem_inits]

instance : Decidable (NamesInside names) :=
  decidable_of_iff _ namesInside_iff.symm

theorem NamesInside.append_left (h : NamesInside (names ++ more)) : NamesInside names :=
  fun front hfront => h front (hfront.trans (List.prefix_append names more))

theorem NamesInside.inside (h : NamesInside names) : (ofNames names).Inside :=
  h names List.prefix_rfl

theorem ofNames_concat : ofNames (names ++ [name]) = FileSystem.target (ofNames names) name :=
  List.foldl_concat _ _ _ _

theorem ofNames_append_of_plain (h : ".." ∉ more) :
    ofNames (names ++ more) = ofNames names ++ more := by
  induction more using List.reverseRecOn with
  | nil => simp
  | append_singleton more name ih =>
      rw [List.mem_append, List.mem_singleton, not_or] at h
      rw [← List.append_assoc, ofNames_concat, ih h.1, FileSystem.target, if_neg (Ne.symm h.2),
        List.append_assoc]

/-- A step leads down to a new place, or back to where its names came from. -/
theorem ofNames_step (h : NamesInside (names ++ [name])) :
    name ≠ ".." ∧ ofNames (names ++ [name]) = ofNames names ++ [name] ∨
      name = ".." ∧ ∃ last, ofNames names = ofNames (names ++ [name]) ++ [last] := by
  have hinside := h.inside
  have hfront := h.append_left.inside
  rw [ofNames_concat] at hinside ⊢
  by_cases hup : name = ".."
  · refine .inr ⟨hup, ?_⟩
    rw [FileSystem.target, if_pos hup] at hinside ⊢
    rcases List.eq_nil_or_concat (ofNames names) with hnil | ⟨above, last, hlast⟩
    · rw [hnil] at hinside
      exact absurd (hinside ".." (by decide)) (by decide)
    · rw [hlast, List.concat_eq_append, inside_concat] at hfront
      refine ⟨last, ?_⟩
      rw [hlast, List.concat_eq_append, up_concat hfront.2]
  · exact .inl ⟨hup, by rw [FileSystem.target, if_neg hup]⟩

/-- Every `..` takes one name back. -/
theorem length_ofNames (h : NamesInside names) :
    (ofNames names).length + 2 * names.count ".." = names.length := by
  induction names using List.reverseRecOn with
  | nil => rfl
  | append_singleton names name ih =>
      have hlen := ih h.append_left
      rw [List.count_append, List.length_append, List.length_singleton]
      rcases ofNames_step h with ⟨hname, hplace⟩ | ⟨rfl, last, hplace⟩
      · rw [hplace, List.length_append, List.length_singleton,
          List.count_singleton, if_neg (by simpa using hname)]
        omega
      · rw [hplace, List.length_append, List.length_singleton] at hlen
        rw [List.count_singleton_self]
        omega

/-- Names that follow change the depth of a place by at most their number. -/
theorem length_ofNames_append (h : NamesInside (names ++ more)) :
    (ofNames (names ++ more)).length + 2 * more.count ".." =
      (ofNames names).length + more.length := by
  have hall := length_ofNames h
  have hfront := length_ofNames h.append_left
  rw [List.count_append, List.length_append] at hall
  omega

/-- Names that end above or at a place and lead down to another one pass every place
between the two. -/
theorem exists_front_of_prefix {c : Location} (h : NamesInside (names ++ more))
    (hlow : ofNames names <+: c) (hhigh : c <+: ofNames (names ++ more)) :
    ∃ front, front <+: more ∧ ofNames (names ++ front) = c := by
  induction more using List.reverseRecOn with
  | nil =>
      rw [List.append_nil] at hhigh
      refine ⟨[], List.prefix_rfl, ?_⟩
      rw [List.append_nil]
      exact hlow.eq_of_length (Nat.le_antisymm hlow.length_le hhigh.length_le)
  | append_singleton more name ih =>
      rw [← List.append_assoc] at h hhigh
      by_cases hlast : c = ofNames (names ++ more ++ [name])
      · exact ⟨more ++ [name], List.prefix_rfl, by rw [hlast, List.append_assoc]⟩
      · have hbefore : c <+: ofNames (names ++ more) := by
          rcases ofNames_step h with ⟨-, hplace⟩ | ⟨-, last, hplace⟩
          · rw [hplace] at hhigh hlast
            exact (List.prefix_concat_iff.mp hhigh).resolve_left hlast
          · rw [hplace]
            exact hhigh.trans (List.prefix_append _ _)
        obtain ⟨front, hfront, hplace⟩ := ih h.append_left hbefore
        exact ⟨front, hfront.trans (List.prefix_append _ _), hplace⟩

end Location

open Location (ofNames NamesInside)

namespace Path

/-- The place that the names of a path lead to, whatever is there. -/
def place (p : Path) : Location :=
  p.parts.foldl FileSystem.target (FileSystem.start p)

/-- A relative path that is never above the working directory on its way. -/
structure StaysInside (p : Path) : Prop where
  relative : p.anchor = .here
  inside : ∀ front, Path.IsFrontOf front p → front.place.Inside

variable {p q : Path}

theorem start_of_relative (h : p.anchor = .here) : FileSystem.start p = [] := by
  simp [FileSystem.start, isAbsolute, h]

theorem place_of_relative (h : p.anchor = .here) : p.place = ofNames p.parts := by
  rw [place, start_of_relative h, ofNames]

theorem staysInside_iff : p.StaysInside ↔ p.anchor = .here ∧ NamesInside p.parts := by
  constructor
  · intro ⟨hrelative, hinside⟩
    refine ⟨hrelative, ?_⟩
    intro front hfront
    have hparts : (p.front front.length).parts = front :=
      (List.prefix_iff_eq_take.mp hfront).symm
    have hanchor : (p.front front.length).anchor = .here := hrelative
    have hplace := hinside (p.front front.length) ⟨rfl, List.take_prefix _ _⟩
    rwa [place_of_relative hanchor, hparts] at hplace
  · intro ⟨hrelative, hinside⟩
    refine ⟨hrelative, ?_⟩
    intro front hfront
    rw [place_of_relative (hfront.1.trans hrelative)]
    exact hinside front.parts hfront.2

instance : Decidable p.StaysInside :=
  decidable_of_iff _ staysInside_iff.symm

theorem StaysInside.front (h : p.StaysInside) (hq : q.IsFrontOf p) : q.StaysInside :=
  ⟨hq.1.trans h.relative, fun front hfront => h.inside front (hfront.trans hq)⟩

end Path

/-! ## Following names -/

namespace FileSystem

variable {fs : FileSystem} {l : Location} {names more : List String}

theorem walk_concat (fs : FileSystem) (l : Location) (names : List String) (name : String) :
    fs.walk l (names ++ [name]) = fs.walk l names >>= fun l => fs.step l name := by
  simp [walk]

theorem target_of_step {name : String} {l' : Location} (h : fs.step l name = .ok l') :
    target l name = l' := by
  obtain ⟨-, hnext⟩ := step_eq_ok.mp h
  rw [target]
  split
  · next hup => rw [if_pos hup] at hnext; exact hnext.symm
  · next hup => rw [if_neg hup] at hnext; exact hnext.2.symm

/-- Names that lead somewhere lead to their place. -/
theorem ofNames_of_walk (h : fs.walk [] names = .ok l) : ofNames names = l := by
  induction names using List.reverseRecOn generalizing l with
  | nil =>
      cases h
      rfl
  | append_singleton names name ih =>
      rw [walk_concat] at h
      obtain ⟨before, hbefore, hstep⟩ := bind_eq_ok.mp h
      rw [Location.ofNames_concat, ih hbefore, target_of_step hstep]

/-- A place that some names lead to is also led to by its own names. -/
theorem walk_self (hinside : NamesInside names) (h : fs.walk [] names = .ok l) :
    fs.walk [] l = .ok l := by
  induction names using List.reverseRecOn generalizing l with
  | nil =>
      cases h
      rfl
  | append_singleton names name ih =>
      have hplace := ofNames_of_walk h
      rw [walk_concat] at h
      obtain ⟨before, hbefore, hstep⟩ := bind_eq_ok.mp h
      have hself := ih hinside.append_left hbefore
      have hfront := ofNames_of_walk hbefore
      rcases Location.ofNames_step hinside with ⟨hname, hdown⟩ | ⟨hname, last, hup⟩
      · rw [hplace, hfront] at hdown
        rw [hdown, walk_concat, hself, ok_bind, ← hdown, hstep]
      · -- the last step of the way down to where the names came from is taken back
        rw [hplace, hfront] at hup
        have hlast : Location.isName last = true := by
          have hin := hinside.append_left.inside
          rw [hfront, hup, Location.inside_concat] at hin
          exact hin.2
        rw [hup, walk_concat] at hself
        obtain ⟨above, habove, hdown⟩ := bind_eq_ok.mp hself
        have hne : last ≠ ".." := (Location.isName_iff.mp hlast).2.2.1
        have htarget := target_of_step hdown
        rw [target, if_neg hne, List.append_left_inj] at htarget
        rw [habove, htarget]

/-- From the working directory some names lead to a regular file. -/
def LeadsToFile (fs : FileSystem) (names : List String) : Prop :=
  ∃ l bytes, fs.walk [] names = .ok l ∧ fs.entry? l = some (.file bytes)

theorem leadsToFile_append (hinside : NamesInside names) (h : fs.walk [] names = .ok l)
    (more : List String) : fs.LeadsToFile (names ++ more) ↔ fs.LeadsToFile (l ++ more) := by
  rw [LeadsToFile, LeadsToFile, walk_append, walk_append, h, walk_self hinside h]

theorem resolve_of_relative {p : Path} (h : p.anchor = .here) :
    fs.resolve p = fs.walk [] p.parts := by
  rw [resolve, Path.start_of_relative h]

theorem isFile_iff {p : Path} (h : p.anchor = .here) :
    fs.isFile p = true ↔ fs.LeadsToFile p.parts := by
  rw [LeadsToFile, ← resolve_of_relative h, isFile, find?]
  cases fs.resolve p with
  | error cause => simp
  | ok l =>
      simp only [Except.ok.injEq]
      split
      · next bytes hfile => simp [hfile]
      · next hother =>
          simp only [Bool.false_eq_true, false_iff]
          intro ⟨l', bytes, hl, hfile⟩
          rw [← hl] at hfile
          exact hother bytes hfile

end FileSystem

/-! ## The search -/

namespace SettingsFile

variable {fs : FileSystem} {p found : Path} {names dropped : List String}

/-- The directory at a place holds a settings file. -/
def HoldsSettings (fs : FileSystem) (l : Location) : Prop :=
  fs.LeadsToFile (l ++ [fileName])

/-- A path leads to the settings file of a directory at most three levels above a place, and
no nearer directory holds one. -/
def ClosestAbove (fs : FileSystem) (base : Location) (found : Path) : Prop :=
  ∃ n, n ≤ 3 ∧ fs.resolve found = .ok (Location.up^[n] base ++ [fileName]) ∧
    fs.isFile found = true ∧ ∀ m, m < n → ¬ HoldsSettings fs (Location.up^[m] base)

theorem places_eq (start : Path) :
    places start = (List.range (min 3 start.parts.length + 1)).map fun n =>
      (start.front (start.parts.length - n)).append filePath := by
  rw [places, Path.parents, ← List.map_take, List.take_range, List.range_succ_eq_map]
  simp only [List.map_cons, List.map_map, Nat.sub_zero]
  refine List.cons_eq_cons.mpr ⟨?_, List.map_congr_left fun n _ => ?_⟩
  · refine Path.ext rfl ?_
    show start.parts ++ [fileName] = start.parts.take start.parts.length ++ [fileName]
    rw [List.take_length]
  · show (start.front (start.parts.length - 1 - n)).append _ =
      (start.front (start.parts.length - (n + 1))).append _
    rw [Nat.sub_sub, Nat.add_comm 1 n]

theorem startDirectory_staysInside (h : p.StaysInside) :
    (startDirectory fs p).StaysInside := by
  rw [startDirectory]
  split
  · exact h
  · exact h.front (.parent p)

/-- A settings file stands where some names, three at most, are dropped from the end of a
path, and where fewer are dropped there is none. -/
structure FoundAfter (fs : FileSystem) (found : Path) (names dropped : List String) : Prop where
  relative : found.anchor = .here
  parts : found.parts = names ++ [fileName]
  isFile : fs.LeadsToFile (names ++ [fileName])
  inside : NamesInside (names ++ dropped)
  few : dropped.length ≤ 3
  not_sooner : ∀ front, front <+: dropped → front ≠ [] →
    ¬ fs.LeadsToFile (names ++ front ++ [fileName])

theorem exists_foundAfter (hp : p.StaysInside) (h : discover? fs p = some found) :
    ∃ names dropped, (startDirectory fs p).parts = names ++ dropped ∧
      FoundAfter fs found names dropped := by
  have hstays := @startDirectory_staysInside fs p hp
  rw [discover?, places_eq, List.find?_map, Option.map_eq_some_iff] at h
  generalize startDirectory fs p = start at h hstays ⊢
  obtain ⟨hrelative, hinside⟩ := Path.staysInside_iff.mp hstays
  obtain ⟨n, hfind, rfl⟩ := h
  obtain ⟨hfile, hn, hbefore⟩ := List.find?_range_eq_some.mp hfind
  replace hn : n < min 3 start.parts.length + 1 := List.mem_range.mp hn
  have hlooked (m : Nat) :
      fs.isFile ((start.front (start.parts.length - m)).append filePath) = true ↔
        fs.LeadsToFile (start.parts.take (start.parts.length - m) ++ [fileName]) :=
    FileSystem.isFile_iff hrelative
  have hsplit := List.take_append_drop (start.parts.length - n) start.parts
  refine ⟨start.parts.take (start.parts.length - n), start.parts.drop (start.parts.length - n),
    hsplit.symm, hrelative, rfl, (hlooked n).mp hfile, by rwa [hsplit], ?_, ?_⟩
  · rw [List.length_drop]
    omega
  · intro front hfront hne hsooner
    have hlen := hfront.length_le
    rw [List.length_drop] at hlen
    have hpos := List.length_pos_iff.mpr hne
    have hnot := hbefore (n - front.length) (by omega)
    have hcount : start.parts.length - (n - front.length) =
        start.parts.length - n + front.length := by
      omega
    rw [Function.comp_apply, Bool.not_eq_true', ← Bool.not_eq_true, hlooked, hcount,
      List.take_add, ← List.prefix_iff_eq_take.mp hfront] at hnot
    exact hnot hsooner

namespace FoundAfter

/-- What was found is the closest one above the place of all the names if it was found above
it and no place between the two holds one. -/
theorem closestAbove_iff (h : FoundAfter fs found names dropped) :
    ClosestAbove fs (ofNames (names ++ dropped)) found ↔
      ofNames names <+: ofNames (names ++ dropped) ∧
        ∀ c, ofNames names <+: c → c <+: ofNames (names ++ dropped) →
          c ≠ ofNames names → ¬ HoldsSettings fs c := by
  have hfew := h.few
  have hdepth := Location.length_ofNames_append h.inside
  have hplace : ofNames (names ++ [fileName]) = ofNames names ++ [fileName] :=
    Location.ofNames_append_of_plain (by decide)
  have hfile : fs.isFile found = true := by
    rw [FileSystem.isFile_iff h.relative, h.parts]
    exact h.isFile
  have hresolve : fs.resolve found = .ok (ofNames names ++ [fileName]) := by
    obtain ⟨l, bytes, hwalk, -⟩ := h.isFile
    rw [FileSystem.resolve_of_relative h.relative, h.parts, hwalk,
      ← FileSystem.ofNames_of_walk hwalk, hplace]
  have hup := @Location.exists_up_iterate_iff _ _ h.inside.inside
    h.inside.append_left.inside 3 fun c => ¬ HoldsSettings fs c
  simp only [ClosestAbove, hresolve, hfile, Except.ok.injEq, List.append_left_inj, true_and,
    eq_comm (a := ofNames names), hup]
  refine and_congr_right fun _ => and_iff_right ?_
  omega

/-- Where all names that were dropped are names, what was found is the closest. -/
theorem closestAbove_of_plain (h : FoundAfter fs found names dropped) (hplain : ".." ∉ dropped) :
    ClosestAbove fs (ofNames (names ++ dropped)) found := by
  rw [h.closestAbove_iff]
  refine ⟨by rw [Location.ofNames_append_of_plain hplain]; exact List.prefix_append _ _, ?_⟩
  intro c hlow hhigh hne
  obtain ⟨front, hfront, rfl⟩ := Location.exists_front_of_prefix h.inside hlow hhigh
  have hplain' : ".." ∉ front := fun hmem => hplain (hfront.subset hmem)
  have hne' : front ≠ [] := by
    intro hnil
    exact hne (by rw [hnil, List.append_nil])
  -- the names lead on from the directory in which the file was found
  obtain ⟨file, bytes, hwalk, -⟩ := h.isFile
  rw [FileSystem.walk_append] at hwalk
  obtain ⟨l, hl, -⟩ := bind_eq_ok.mp hwalk
  rw [HoldsSettings, Location.ofNames_append_of_plain hplain', FileSystem.ofNames_of_walk hl,
    List.append_assoc, ← FileSystem.leadsToFile_append h.inside.append_left hl,
    ← List.append_assoc]
  exact h.not_sooner front hfront hne'

/-- Where the search starts at a directory that is there, what was found is the closest if it
is above. -/
theorem closestAbove_of_walk (h : FoundAfter fs found names dropped)
    (hdir : ∃ l, fs.walk [] (names ++ dropped) = .ok l)
    (habove : ofNames names <+: ofNames (names ++ dropped)) :
    ClosestAbove fs (ofNames (names ++ dropped)) found := by
  rw [h.closestAbove_iff]
  refine ⟨habove, ?_⟩
  intro c hlow hhigh hne
  obtain ⟨front, ⟨back, rfl⟩, rfl⟩ := Location.exists_front_of_prefix h.inside hlow hhigh
  have hne' : front ≠ [] := by
    intro hnil
    exact hne (by rw [hnil, List.append_nil])
  -- every beginning of names that lead to a directory leads to one
  obtain ⟨base, hbase⟩ := hdir
  rw [← List.append_assoc, FileSystem.walk_append] at hbase
  obtain ⟨l, hl, -⟩ := bind_eq_ok.mp hbase
  have hinside := h.inside
  rw [← List.append_assoc] at hinside
  rw [HoldsSettings, FileSystem.ofNames_of_walk hl,
    ← FileSystem.leadsToFile_append hinside.append_left hl]
  exact h.not_sooner front (List.prefix_append front back) hne'

/-- What was found is the closest if it is above and the place where the search starts has
none, also where nothing is at that place. -/
theorem closestAbove_of_start (h : FoundAfter fs found names dropped)
    (habove : ofNames names <+: ofNames (names ++ dropped))
    (hstart : ofNames names = ofNames (names ++ dropped) ∨
      ¬ HoldsSettings fs (ofNames (names ++ dropped))) :
    ClosestAbove fs (ofNames (names ++ dropped)) found := by
  by_cases hplain : ".." ∈ dropped
  · -- with a `..` among three names the start is at most one level below
    have hfew := h.few
    have hdepth := Location.length_ofNames_append h.inside
    have hcount := List.count_pos_iff.mpr hplain
    rw [h.closestAbove_iff]
    refine ⟨habove, ?_⟩
    intro c hlow hhigh hne
    have hlow' := hlow.length_le
    have hlonger : c.length ≠ (ofNames names).length := by
      intro heq
      exact hne (hlow.eq_of_length heq.symm).symm
    obtain rfl := hhigh.eq_of_length_le (by omega)
    exact hstart.resolve_left (Ne.symm hne)
  · exact h.closestAbove_of_plain hplain

theorem mem_rtake {name : String} (h : FoundAfter fs found names dropped)
    (hname : name ∈ dropped) : name ∈ (names ++ dropped).rtake 3 := by
  have hfew := h.few
  have hcut : (names ++ dropped).length - 3 ≤ names.length := by
    rw [List.length_append]
    omega
  rw [List.rtake, List.drop_append_of_le_length hcut]
  exact List.mem_append_right _ hname

end FoundAfter

/-- Let a settings file be found for a path that stays inside the working directory. It is
the closest one above the directory where the search starts exactly when the directory that
holds it is that directory or above it, and that directory itself holds none unless it is the
one. The second condition is met wherever the directory is there, and both are where none of
the last three names of the directory is `..`. -/
theorem discover_closest_iff (fs : FileSystem) (p found : Path) (hp : p.StaysInside)
    (h : discover? fs p = some found) :
    (ClosestAbove fs (startDirectory fs p).place found ↔
      found.parent.place <+: (startDirectory fs p).place ∧
        (found.parent.place = (startDirectory fs p).place ∨
          ¬ HoldsSettings fs (startDirectory fs p).place)) ∧
    (fs.isDirectory (startDirectory fs p) = true →
      (ClosestAbove fs (startDirectory fs p).place found ↔
        found.parent.place <+: (startDirectory fs p).place)) ∧
    (".." ∉ (startDirectory fs p).parts.rtake 3 →
      ClosestAbove fs (startDirectory fs p).place found) := by
  obtain ⟨names, dropped, hstart, hafter⟩ := exists_foundAfter hp h
  have hrelative := (@startDirectory_staysInside fs p hp).relative
  have hbase : (startDirectory fs p).place = ofNames (names ++ dropped) := by
    rw [Path.place_of_relative hrelative, hstart]
  have hparent : found.parent.place = ofNames names := by
    have hanchor : found.parent.anchor = .here := hafter.relative
    rw [Path.place_of_relative hanchor]
    show ofNames found.parts.dropLast = _
    rw [hafter.parts, List.dropLast_concat]
  rw [hbase, hparent, hstart]
  refine ⟨⟨?_, ?_⟩, ?_, ?_⟩
  · intro hyes
    obtain ⟨habove, hbetween⟩ := hafter.closestAbove_iff.mp hyes
    refine ⟨habove, or_iff_not_imp_left.mpr fun hne => ?_⟩
    exact hbetween _ habove List.prefix_rfl (Ne.symm hne)
  · intro hfar
    obtain ⟨habove, hnone⟩ := hfar
    exact hafter.closestAbove_of_start habove hnone
  · intro hdir
    refine ⟨fun hyes => (hafter.closestAbove_iff.mp hyes).1, fun habove => ?_⟩
    obtain ⟨l, hl, -⟩ := FileSystem.isDirectory_iff.mp hdir
    rw [FileSystem.resolve_of_relative hrelative, hstart] at hl
    exact hafter.closestAbove_of_walk ⟨l, hl⟩ habove
  · intro hlast
    refine hafter.closestAbove_of_plain ?_
    intro hmem
    exact hlast (hafter.mem_rtake hmem)

/-- The only settings file is in `a`. -/
def settingsBelow : FileSystem :=
  ⟨[(["a"], .directory), (["a", "b"], .directory), (["a", fileName], .file [])]⟩

/-- From `a/b` the file is found above. From `a/..`, which is the working directory, it is
found below, where nothing above has one. -/
theorem discover_closest_iff_backDown :
    discover? settingsBelow (.mk .here ["a", "b"]) = some (.mk .here ["a", fileName]) ∧
      ClosestAbove settingsBelow ["a", "b"] (.mk .here ["a", fileName]) ∧
      settingsBelow.isDirectory (.mk .here ["a", ".."]) = true ∧
      discover? settingsBelow (.mk .here ["a", ".."]) = some (.mk .here ["a", fileName]) ∧
      ¬ ClosestAbove settingsBelow [] (.mk .here ["a", fileName]) := by
  have hup : discover? settingsBelow (.mk .here ["a", "b"]) = some (.mk .here ["a", fileName]) := by
    decide
  have hback : discover? settingsBelow (.mk .here ["a", ".."]) =
      some (.mk .here ["a", fileName]) := by
    decide
  have hdir : settingsBelow.isDirectory (.mk .here ["a", ".."]) = true := by decide
  have hclosest := (discover_closest_iff _ _ _ (by decide) hup).2.2 (by decide)
  have hwrong := (discover_closest_iff _ _ _ (by decide) hback).2.1 (by decide)
  refine ⟨hup, hclosest, hdir, hback, ?_⟩
  intro hyes
  exact absurd (hwrong.mp hyes) (by decide)

end SettingsFile
end ApiCatalog
