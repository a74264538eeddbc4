import ApiCatalog.Rust.Parser
import ApiCatalog.Workspace
import ApiCatalog.Proofs.FileWriting
import Mathlib.Data.List.Nodup

/-!
# What the targets of a workspace hold

A workspace is driven by operations, each of which answers or fails. This file says what
a whole run of them leaves in the targets: every target holds what it held before and
then, in the order of the operations, what those that succeeded sent it. The run is
written down as a transcript, so that "what was sent" is read off the operations and
their answers and not off the targets.

An operation gains a target some records; gains add up along a call that names several
targets, along the signatures of one call, and along the run. A failure gains nobody
anything, and the only trace it can leave is directories that were made on the way to a
file.

Closing makes the text first and touches the file after that. The file then holds the
text, so closing again finds everything in place.
-/

namespace ApiCatalog

/-! ## Names of arguments -/

theorem argName_injective : Function.Injective argName := by
  intro i j h
  have hdigits : Nat.toDigits 10 i = Nat.toDigits 10 j :=
    String.ofList_injective ((String.append_right_inj "x").mp h)
  calc i = Nat.ofDigitChars 10 (Nat.toDigits 10 i) 0 :=
          (Nat.ofDigitChars_toDigits (by decide) (by decide)).symm
    _ = Nat.ofDigitChars 10 (Nat.toDigits 10 j) 0 := by rw [hdigits]
    _ = j := Nat.ofDigitChars_toDigits (by decide) (by decide)

/-- A record has a name for each of its arguments, and no two have the same. -/
theorem Signature.argNames_toRecord (s : Signature) :
    s.toRecord.argNames.length = s.toRecord.argTypes.length ∧
      s.toRecord.argNames.Nodup := by
  unfold toRecord argNames
  exact ⟨by simp, List.nodup_range.map argName_injective⟩

/-! ## Closing one target -/

namespace Target

variable {fs : FileSystem} {t : Target} {text : String} {f : Failure}

/-- How closing a target can go: it has no text, it has no file, its file was written, or
its file was refused. -/
inductive Closing (fs : FileSystem) (t : Target) : FileSystem × Run Failure String → Prop where
  | noText {f : Failure} (htext : t.render = .error f) : Closing fs t (fs, Run.fail f)
  | noFile {text : String} (htext : t.render = .ok text) (hpath : t.path? = none) :
      Closing fs t (fs, return text)
  | written {text : String} {path : Path} {fs' : FileSystem} (htext : t.render = .ok text)
      (hpath : t.path? = some path)
      (hwrite : fs.writeWithParents path (Text.Utf8.encode text.toList) = (fs', .ok ())) :
      Closing fs t (fs', do
        Run.log .info
          ("Wrote " ++ toString t.records.length ++ " records to " ++ path.text)
        return text)
  | refused {text : String} {path : Path} {fs' : FileSystem} {e : OsError}
      (htext : t.render = .ok text) (hpath : t.path? = some path)
      (hwrite : fs.writeWithParents path (Text.Utf8.encode text.toList) = (fs', .error e)) :
      Closing fs t (fs', Run.fail (.os e))

theorem closing_close (fs : FileSystem) (t : Target) : Closing fs t (t.close fs) := by
  unfold close
  split
  · next f htext => exact .noText htext
  · next text htext =>
      split
      · next hpath => exact .noFile htext hpath
      · next path hpath =>
          unfold store
          split
          · next hwrite => exact .refused htext hpath hwrite
          · next hwrite => exact .written htext hpath hwrite

variable {r : FileSystem × Run Failure String}

theorem Closing.eq_close (h : Closing fs t r) : t.close fs = r := by
  cases h with
  | noText htext => simp only [close, htext]
  | noFile htext hpath => simp only [close, htext, hpath]
  | written htext hpath hwrite => simp only [close, store, htext, hpath, hwrite]
  | refused htext hpath hwrite => simp only [close, store, htext, hpath, hwrite]

/-- A target that was closed gave its text, and its file holds it. -/
theorem Closing.read_text (h : Closing fs t r) (hok : r.2.result = .ok text) :
    t.render = .ok text ∧ ∀ path, t.path? = some path →
      r.1.read path = .ok (Text.Utf8.encode text.toList) := by
  cases h with
  | noText htext => simp at hok
  | noFile htext hpath =>
      obtain rfl : _ = text := by simpa using hok
      exact ⟨htext, by simp [hpath]⟩
  | written htext hpath hwrite =>
      obtain rfl : _ = text := by simpa using hok
      refine ⟨htext, fun path hp => ?_⟩
      obtain rfl : _ = path := by simpa [hpath] using hp
      exact FileSystem.read_writeWithParents hwrite
  | refused htext hpath hwrite => simp at hok

/-- Closing again finds the file as it is to be. -/
theorem Closing.again (h : Closing fs t r) (hok : r.2.result = .ok text) :
    Closing r.1 t r := by
  cases h with
  | noText htext => simp at hok
  | noFile htext hpath => exact .noFile htext hpath
  | written htext hpath hwrite =>
      exact .written htext hpath (FileSystem.writeWithParents_twice hwrite)
  | refused htext hpath hwrite => simp at hok

/-- A target that could not be closed touched no file; when it was the file that was
refused, there can be new directories. -/
theorem Closing.grows (h : Closing fs t r) (herror : r.2.result = .error f) :
    fs.Grows r.1 ∧ ((∀ e, f ≠ .os e) → r.1 = fs) := by
  cases h with
  | noText htext => exact ⟨.refl fs, fun _ => rfl⟩
  | noFile htext hpath => simp at herror
  | written htext hpath hwrite => simp at herror
  | refused htext hpath hwrite =>
      obtain rfl : _ = f := by simpa using herror
      refine ⟨?_, fun hos => absurd rfl (hos _)⟩
      have hgrows := FileSystem.writeWithParents_grows (congrArg Prod.snd hwrite)
      rwa [hwrite] at hgrows

end Target

/-! ## Gains

What a workspace has in a target is looked up by the target's name, so a gain is stated
for a name; a name without a target gains nothing. -/

/-- A target with some more records. -/
def Target.receiveAll (t : Target) (rs : List Record) : Target :=
  { t with records := t.records ++ rs }

namespace Workspace

variable {w w' w'' : Workspace} {name : String} {rs rs' : List Record}

/-- The target of a name has the records it had, and some more. -/
def Gains (w w' : Workspace) (name : String) (rs : List Record) : Prop :=
  w'.target? name = (w.target? name).map (·.receiveAll rs)

theorem gains_nil (h : w'.targets = w.targets) (name : String) : w.Gains w' name [] := by
  unfold Gains target?
  rw [h]
  simp [Target.receiveAll]

theorem Gains.append (h : w.Gains w' name rs) (h' : w'.Gains w'' name rs') :
    w.Gains w'' name (rs ++ rs') := by
  unfold Gains at h h' ⊢
  rw [h', h, Option.map_map]
  simp [Target.receiveAll, Function.comp_def]

theorem gains_push (w : Workspace) (name name' : String) (r : Record) :
    w.Gains (w.push name' r) name (if name' = name then [r] else []) := by
  unfold Gains target? push
  dsimp only
  induction w.targets with
  | nil => rfl
  | cons entry targets ih =>
      obtain ⟨key, t⟩ := entry
      rw [List.map_cons, List.lookup_cons, List.lookup_cons]
      by_cases hkey : name = key
      · subst hkey
        by_cases hname : name' = name
        · simp [hname, Target.receive, Target.receiveAll]
        · simp [hname, Ne.symm hname, Target.receiveAll]
      · -- an entry keeps its key, so the look-up passes it by as before
        have hfst : (if key == name' then (key, t.receive r) else (key, t)).1 = key := by
          split
          · rfl
          · rfl
        simp only [hfst, beq_eq_false_iff_ne.mpr hkey]
        exact ih

/-- The records of some signatures, each several times before the next. -/
def copies (times : Nat) (signatures : List Signature) : List Record :=
  signatures.flatMap fun s => List.replicate times s.toRecord

/-- A target gets a record as often as it is named. -/
theorem gains_pushAll (w : Workspace) (names : List String) (r : Record) (name : String) :
    w.Gains (w.pushAll names r) name (List.replicate (names.count name) r) := by
  induction names generalizing w with
  | nil => exact gains_nil rfl name
  | cons name' names ih =>
      have h := (gains_push w name name' r).append (ih (w.push name' r))
      by_cases hname : name' = name
      · rw [if_pos hname] at h
        rw [hname, List.count_cons_self, List.replicate_succ]
        rwa [hname] at h
      · rw [if_neg hname] at h
        rwa [List.count_cons_of_ne hname]

theorem gains_deliver (w : Workspace) (names : List String) (signatures : List Signature)
    (name : String) :
    w.Gains (w.deliver names signatures) name (copies (names.count name) signatures) := by
  induction signatures generalizing w with
  | nil => exact gains_nil rfl name
  | cons s signatures ih =>
      exact (gains_pushAll w names s.toRecord name).append (ih (w.pushAll names s.toRecord))

/-! ## Operations and runs -/

/-- What can be asked of a workspace. -/
inductive Operation where
  | emit (signatures : List Signature) (names : List String)
  | send (name : String) (record : Record)
  | close (name : String)
  | feed (settings : Settings) (names : List String)

/-- What an operation answers. -/
inductive Reply where
  | emitted (count : Nat)
  | received
  | closed (text : String)
  | fed (catalog : Catalog)

/-- Does what is asked. -/
def perform (parse : List UInt8 → Node) (w : Workspace) :
    Operation → Workspace × Except Failure Reply
  | .emit signatures names =>
      ((w.emit signatures names).1, (w.emit signatures names).2.result.map .emitted)
  | .send name record => (w.push name record, .ok .received)
  | .close name => ((w.close name).1, (w.close name).2.result.map .closed)
  | .feed settings names =>
      ((w.feed parse settings names).1, (w.feed parse settings names).2.result.map .fed)

/-- The workspace after some operations. -/
def after (parse : List UInt8 → Node) (w : Workspace) (ops : List Operation) : Workspace :=
  ops.foldl (fun w op => (w.perform parse op).1) w

/-- Some operations, each with what it answered when its turn came. -/
def transcript (parse : List UInt8 → Node) (w : Workspace) :
    List Operation → List (Operation × Except Failure Reply)
  | [] => []
  | op :: ops =>
      (op, (w.perform parse op).2) :: transcript parse (w.perform parse op).1 ops

/-- What an operation sent to the target of a name, given what it answered. -/
def sentTo (name : String) : Operation × Except Failure Reply → List Record
  | (.emit signatures names, .ok _) => copies (names.count name) signatures
  | (.send name' record, .ok _) => if name' = name then [record] else []
  | (.feed _ names, .ok (.fed catalog)) => copies (names.count name) catalog.signatures
  | _ => []

/-- What some operations send to the target of a name. -/
def received (parse : List UInt8 → Node) (w : Workspace) (ops : List Operation)
    (name : String) : List Record :=
  (w.transcript parse ops).flatMap (sentTo name)

variable {parse : List UInt8 → Node}

theorem close_of_target {t : Target} (h : w.target? name = some t) :
    w.close name = ({ w with files := (t.close w.files).1 }, (t.close w.files).2) := by
  unfold close
  rw [h]

theorem close_of_no_target (h : w.target? name = none) :
    w.close name = (w, Run.fail (.unknownTarget name)) := by
  unfold close
  rw [h]

theorem targets_close (w : Workspace) (name : String) :
    (w.close name).1.targets = w.targets := by
  cases h : w.target? name with
  | none => rw [close_of_no_target h]
  | some t => rw [close_of_target h]

/-- A target that was closed gave its text, and its file holds it. -/
theorem target_of_close {text : String} (h : (w.close name).2.result = .ok text) :
    ∃ t, w.target? name = some t ∧ t.render = .ok text ∧ ∀ path, t.path? = some path →
      (w.close name).1.files.read path = .ok (Text.Utf8.encode text.toList) := by
  cases ht : w.target? name with
  | none => simp [close_of_no_target ht] at h
  | some t =>
      rw [close_of_target ht] at h ⊢
      exact ⟨t, rfl, (Target.closing_close w.files t).read_text h⟩

/-- Closing again changes nothing and answers the same. -/
theorem close_close {text : String} (h : (w.close name).2.result = .ok text) :
    (w.close name).1.close name = w.close name := by
  cases ht : w.target? name with
  | none => simp [close_of_no_target ht] at h
  | some t =>
      rw [close_of_target ht] at h ⊢
      have ht' : ({ w with files := (t.close w.files).1 } : Workspace).target? name =
          some t := ht
      rw [close_of_target ht']
      dsimp only
      rw [((Target.closing_close w.files t).again h).eq_close]

theorem feed_of_error {settings : Settings} {f : Failure}
    (h : (Analysis.analyze parse w.files settings).result = .error f) (names : List String) :
    w.feed parse settings names = (w, Analysis.analyze parse w.files settings) := by
  unfold feed
  dsimp only
  split
  · rfl
  · next hok => simp [h] at hok

theorem feed_of_ok {settings : Settings} {catalog : Catalog}
    (h : (Analysis.analyze parse w.files settings).result = .ok catalog) (names : List String) :
    (w.feed parse settings names).1 = w.deliver names catalog.signatures ∧
      (w.feed parse settings names).2.result = .ok catalog := by
  unfold feed
  dsimp only
  split
  · next herr => simp [h] at herr
  · next catalog' hok =>
      obtain rfl : catalog = catalog' := by simpa [h] using hok
      refine ⟨rfl, ?_⟩
      simp [h, reportEmitted]

theorem perform_emit (w : Workspace) (signatures : List Signature) (names : List String) :
    (w.perform parse (.emit signatures names)).2 = .ok (.emitted signatures.length) := by
  show (w.emit signatures names).2.result.map Reply.emitted = _
  simp [emit, reportEmitted, Except.map]

/-- What feeding answers is what the analysis found. -/
theorem perform_feed (w : Workspace) (settings : Settings) (names : List String) :
    (w.perform parse (.feed settings names)).2 =
      (Analysis.analyze parse w.files settings).result.map .fed := by
  show (w.feed parse settings names).2.result.map Reply.fed = _
  cases h : (Analysis.analyze parse w.files settings).result with
  | error f => rw [feed_of_error h, h]
  | ok catalog => rw [(feed_of_ok h names).2]

/-- One operation gains every target what it sent. -/
theorem gains_perform (parse : List UInt8 → Node) (w : Workspace) (op : Operation)
    (name : String) :
    w.Gains (w.perform parse op).1 name (sentTo name (op, (w.perform parse op).2)) := by
  cases op with
  | emit signatures names => exact gains_deliver w names signatures name
  | send name' record => exact gains_push w name name' record
  | close name' =>
      have hnone : sentTo name (.close name', (w.perform parse (.close name')).2) = [] := rfl
      rw [hnone]
      exact gains_nil (targets_close w name') name
  | feed settings names =>
      rw [perform_feed]
      cases h : (Analysis.analyze parse w.files settings).result with
      | error f =>
          refine gains_nil ?_ name
          show (w.feed parse settings names).1.targets = w.targets
          rw [feed_of_error h]
      | ok catalog =>
          show w.Gains (w.feed parse settings names).1 name _
          rw [(feed_of_ok h names).1]
          exact gains_deliver w names catalog.signatures name

/-- A run gains every target what its operations sent, one after the other. -/
theorem gains_after (parse : List UInt8 → Node) (w : Workspace) (ops : List Operation)
    (name : String) :
    w.Gains (w.after parse ops) name (w.received parse ops name) := by
  induction ops generalizing w with
  | nil => exact gains_nil rfl name
  | cons op ops ih => exact (gains_perform parse w op name).append (ih (w.perform parse op).1)

/-- An operation that fails leaves every target as it was, and at most new directories
besides; where it was no file that was refused, it leaves everything as it was. -/
theorem perform_of_error {op : Operation} {f : Failure}
    (h : (w.perform parse op).2 = .error f) :
    (w.perform parse op).1.targets = w.targets ∧
      w.files.Grows (w.perform parse op).1.files ∧
      ((∀ e, f ≠ .os e) → (w.perform parse op).1 = w) := by
  cases op with
  | emit signatures names => cases (perform_emit w signatures names).symm.trans h
  | send name record => cases h
  | close name =>
      refine ⟨targets_close w name, ?_⟩
      have herr : (w.close name).2.result = .error f := map_eq_error.mp h
      show w.files.Grows (w.close name).1.files ∧ (_ → (w.close name).1 = w)
      cases ht : w.target? name with
      | none =>
          rw [close_of_no_target ht]
          exact ⟨.refl w.files, fun _ => rfl⟩
      | some t =>
          rw [close_of_target ht] at herr ⊢
          obtain ⟨hgrows, hsame⟩ := (Target.closing_close w.files t).grows herr
          refine ⟨hgrows, fun hos => ?_⟩
          rw [hsame hos]
  | feed settings names =>
      rw [perform_feed] at h
      show (w.feed parse settings names).1.targets = _ ∧ w.files.Grows
        (w.feed parse settings names).1.files ∧ (_ → (w.feed parse settings names).1 = w)
      rw [feed_of_error (map_eq_error.mp h)]
      exact ⟨rfl, .refl w.files, fun _ => rfl⟩

/-- After any run, from any workspace: every target has the records it had and then those
that the operations of the run sent it. Emitting and sending succeed, and feeding answers
what the analysis finds. A record has as many argument names as argument types, all
different. Closing keeps the targets; when it succeeds, its text is that of all records
received so far, the file of the target holds this text, and closing once more changes
nothing. An operation that fails keeps the targets too, and all files as they were. -/
theorem run_keeps_account (parse : List UInt8 → Node) (w : Workspace) (ops : List Operation) :
    (∀ name, (w.after parse ops).target? name =
      (w.target? name).map (·.receiveAll (w.received parse ops name))) ∧
    (∀ s : Signature, s.toRecord.argNames.length = s.toRecord.argTypes.length ∧
      s.toRecord.argNames.Nodup) ∧
    (∀ signatures names, ((w.after parse ops).perform parse (.emit signatures names)).2 =
      .ok (.emitted signatures.length)) ∧
    (∀ name record, ((w.after parse ops).perform parse (.send name record)).2 =
      .ok .received) ∧
    (∀ settings names, ((w.after parse ops).perform parse (.feed settings names)).2 =
      (Analysis.analyze parse (w.after parse ops).files settings).result.map .fed) ∧
    (∀ name, ((w.after parse ops).close name).1.targets = (w.after parse ops).targets) ∧
    (∀ name text, ((w.after parse ops).close name).2.result = .ok text →
      (∃ t, w.target? name = some t ∧
        (t.receiveAll (w.received parse ops name)).render = .ok text ∧
        ∀ path, t.path? = some path →
          ((w.after parse ops).close name).1.files.read path =
            .ok (Text.Utf8.encode text.toList)) ∧
      ((w.after parse ops).close name).1.close name = (w.after parse ops).close name) ∧
    ∀ op f, ((w.after parse ops).perform parse op).2 = .error f →
      ((w.after parse ops).perform parse op).1.targets = (w.after parse ops).targets ∧
      (w.after parse ops).files.Grows ((w.after parse ops).perform parse op).1.files ∧
      ((∀ e, f ≠ .os e) → ((w.after parse ops).perform parse op).1 = w.after parse ops) := by
  refine ⟨gains_after parse w ops, Signature.argNames_toRecord, perform_emit _,
    fun _ _ => rfl, perform_feed _, targets_close _, fun name text h => ⟨?_, close_close h⟩,
    fun op f => perform_of_error⟩
  -- the target that was closed is the one from the start, with what it received
  obtain ⟨t', ht', hrender, hread⟩ := target_of_close h
  rw [gains_after parse w ops name, Option.map_eq_some_iff] at ht'
  obtain ⟨t, ht, rfl⟩ := ht'
  exact ⟨t, ht, hrender, hread⟩

/-- A collector and a writer, beside a source tree with one function. -/
def collectorAndWriter : Workspace :=
  { files := ⟨[(["src"], .directory), (["src", "lib.rs"], .file (Text.Utf8.encode
      "#[inline] #[no_panic] pub extern \"C\" fn exp(x: f64) -> f64 \x7b\x7d".toList))]⟩
    targets := [("seen", { sink := .collector }),
      ("out", .writer .json (some (.parse "gen/api.json")) "src")] }

/-- Two records for the collector and one for the writer; a tree that is not there; a
target that cannot be closed; the tree with the function. -/
def mixedOperations : List Operation :=
  [.emit [{ ident := "pow", apiKind := "Pow", argTypes := ["f64", "f64"] }]
      ["seen", "out", "seen"],
    .feed { root := .parse "missing" } ["seen"],
    .close "seen",
    .feed { root := .parse "src" } ["out"]]

theorem run_keeps_account_mixedOperations :
    ((collectorAndWriter.received Rust.parse mixedOperations "seen").map (·.id) =
        ["pow", "pow"] ∧
      (collectorAndWriter.received Rust.parse mixedOperations "out").map (·.id) =
        ["pow", "exp"]) ∧
    (∃ text, ((collectorAndWriter.after Rust.parse mixedOperations).close "out").2.result =
        .ok text ∧
      ((collectorAndWriter.after Rust.parse mixedOperations).close "out").1.files.read
        (.parse "gen/api.json") = .ok (Text.Utf8.encode text.toList)) ∧
    ((collectorAndWriter.after Rust.parse mixedOperations).perform Rust.parse
        (.close "seen")).2 = .error .notClosable ∧
      ((collectorAndWriter.after Rust.parse mixedOperations).perform Rust.parse
        (.close "seen")).1 = collectorAndWriter.after Rust.parse mixedOperations := by
  obtain ⟨hrecords, -, -, -, -, -, hclose, hfail⟩ :=
    run_keeps_account Rust.parse collectorAndWriter mixedOperations
  obtain ⟨text, htext, -⟩ : ∃ text,
      ((collectorAndWriter.after Rust.parse mixedOperations).close "out").2.result =
        .ok text ∧ True := by decide +kernel
  have hrefused : ((collectorAndWriter.after Rust.parse mixedOperations).perform Rust.parse
      (.close "seen")).2 = .error .notClosable := by
    have hseen := hrecords "seen"
    rw [show collectorAndWriter.target? "seen" = some { sink := .collector } by rfl,
      Option.map_some] at hseen
    simp [perform, close_of_target hseen, Target.close, Target.render, Target.receiveAll,
      Except.map]
  refine ⟨by decide +kernel, ⟨text, htext, ?_⟩, hrefused, ?_⟩
  · obtain ⟨⟨t, ht, -, hread⟩, -⟩ := hclose "out" text htext
    refine hread _ ?_
    obtain rfl : _ = t := Option.some.inj ht
    rfl
  · exact (hfail _ _ hrefused).2.2 (by simp)

end Workspace
end ApiCatalog
