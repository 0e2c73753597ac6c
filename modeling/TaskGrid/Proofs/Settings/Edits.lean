import Mathlib.Data.List.Induction
import TaskGrid.Proofs.Settings.Spelling

/-! Settings in the making. Whatever is done to them, all that was written can be seen as one list of names and
values, and a key has what was written last under a name of that spelling. -/
namespace TaskGrid.Settings

/-- A step in the making of settings. Those that are merged are made in the same way. -/
inductive Edit where
  | set (key value : String)
  | merge (other : List Edit)
  | addText (text : String)
  | addFile (content : Option Octets)
  | setAll (vars : List (String × String))

mutual

def Edit.apply (s : Settings) : Edit → Except Flaw Settings
  | .set key value => .ok (s.set key value)
  | .merge other => .ok (s.merge (runFrom empty other))
  | .addText text => s.addText text
  | .addFile content => s.addFile content
  | .setAll vars => .ok (s.setAll vars)

/-- What settings are after steps, those that fail being over with their errors. -/
def runFrom (s : Settings) : List Edit → Settings
  | [] => s
  | e :: r =>
    match e.apply s with
    | .ok s' => runFrom s' r
    | .error _ => runFrom s r

end

def run (edits : List Edit) : Settings := runFrom empty edits

/-- The names and values that a document writes, or what is wrong with it. -/
def textWrites (text : String) : Except Flaw (List (String × String)) :=
  match Json.parse? text with
  | none => .error .malformed
  | some document =>
    if document.isObject then .ok (document.leafPaths.map fun l => (pathName l.1, l.2))
    else .error .notAnObject

/-- The text in a file, if there is one. -/
def fileText? (content : Option Octets) : Option String := content.bind fun bytes => (Utf8.decode bytes).toOption

/-- The names and values that a step writes, in order, or why it fails. -/
def Edit.writes : Edit → Except Flaw (List (String × String))
  | .set key value => .ok [(key, value)]
  | .merge other => .ok (run other).entries.entries
  | .addText text => textWrites text
  | .addFile content =>
    match fileText? content with
    | some text => textWrites text
    | none => .error .unreadable
  | .setAll vars => .ok vars

/-- All that the steps that do not fail write. -/
def written (edits : List Edit) : List (String × String) :=
  edits.flatMap fun e => e.writes.toOption.getD []

/-- What was written last under a name that is spelled like a key. -/
def lastUnder (key : String) (writes : List (String × String)) : Option String :=
  (writes.filter fun w => spell w.1 = key).getLast?.map Prod.snd

def Edit.document? : Edit → Option Json
  | .addText text => Json.parse? text
  | .addFile content => (fileText? content).bind Json.parse?
  | _ => none

/-- The members of the document that a step reads have names. -/
def Edit.Named (e : Edit) : Prop := ∀ document ∈ e.document?, document.Named

instance (e : Edit) : Decidable e.Named :=
  inferInstanceAs (Decidable (∀ document ∈ e.document?, document.Named))

theorem setAll_eq (s : Settings) (vars : List (String × String)) :
    s.setAll vars = ⟨s.entries.insertAll (vars.map fun w => (spell w.1, w.2))⟩ := by
  induction vars generalizing s with
  | nil => rfl
  | cons w r ih => exact ih (s.set w.1 w.2)

theorem setAll_of_plain (s : Settings) {l : List (String × String)} (h : ∀ w ∈ l, Plain w.1) :
    s.setAll l = ⟨s.entries.insertAll l⟩ := by
  have hspell : l.map (fun w => (spell w.1, w.2)) = l.map fun w => w :=
    List.map_congr_left fun w hw => by rw [spell_of_plain (h w hw)]
  rw [setAll_eq, hspell, List.map_id']

@[simp] theorem get?_set (s : Settings) (name value key : String) :
    (s.set name value).get? key = if spell name = key then some value else s.get? key :=
  s.entries.get?_insert ..

theorem get?_setAll (s : Settings) (writes : List (String × String)) (key : String) :
    (s.setAll writes).get? key = (lastUnder key writes).or (s.get? key) := by
  induction writes using List.reverseRecOn with
  | nil => rfl
  | append_singleton r w ih =>
    rw [setAll, List.foldl_append, List.foldl_cons, List.foldl_nil, get?_set]
    rw [setAll] at ih
    by_cases h : spell w.1 = key
    · simp [lastUnder, h]
    · rw [if_neg h, ih]
      simp [lastUnder, h]

theorem mem_keys_iff {s : Settings} {key : String} : key ∈ s.entries.keys ↔ (s.get? key).isSome := by
  rw [Table.mem_keys_iff, Option.isSome_iff_exists]
  rfl

theorem keys_subset_setAll (s : Settings) (writes : List (String × String)) :
    s.entries.keys ⊆ (s.setAll writes).entries.keys := by
  intro key hkey
  rw [mem_keys_iff] at hkey ⊢
  rw [get?_setAll, Option.isSome_or, hkey, Bool.or_true]

theorem plain_empty : ∀ key ∈ empty.entries.keys, Plain key := by
  simp [empty, Table.empty, Table.keys]

theorem plain_setAll {s : Settings} (h : ∀ key ∈ s.entries.keys, Plain key)
    (writes : List (String × String)) : ∀ key ∈ (s.setAll writes).entries.keys, Plain key := by
  intro key hkey
  rw [mem_keys_iff, get?_setAll, Option.isSome_or, Bool.or_eq_true] at hkey
  rcases hkey with hwritten | hs
  · obtain ⟨v, hv⟩ := Option.isSome_iff_exists.mp hwritten
    obtain ⟨w, hw, -⟩ := Option.map_eq_some_iff.mp hv
    have hmem := List.mem_of_getLast? hw
    obtain rfl : spell w.1 = key := by simpa using (List.mem_filter.mp hmem).2
    exact plain_spell w.1
  · exact h key (mem_keys_iff.mpr hs)

theorem addFile_eq (s : Settings) (content : Option Octets) : s.addFile content =
    match fileText? content with
    | some text => s.addText text
    | none => .error .unreadable := by
  unfold addFile fileText?
  cases content with
  | none => rfl
  | some bytes => dsimp only [Option.map_some, Option.bind_some]; cases Utf8.decode bytes <;> rfl

/-- Whether a step fails is up to the step. -/
theorem Edit.apply_eq_error_iff {e : Edit} {s : Settings} {flaw : Flaw} :
    e.apply s = .error flaw ↔ e.writes = .error flaw := by
  have htext (text : String) : s.addText text = .error flaw ↔ textWrites text = .error flaw := by
    unfold Settings.addText addDocument textWrites
    cases Json.parse? text with
    | none => simp
    | some document => dsimp only; split <;> simp
  cases e with
  | addText text => exact htext text
  | addFile content =>
    rw [Edit.apply, Edit.writes, addFile_eq]
    cases fileText? content with
    | none => simp
    | some text => exact htext text
  | set | merge | setAll => simp [Edit.apply, Edit.writes]

theorem addText_ok {s s' : Settings} {text : String} (h : s.addText text = .ok s') :
    ∃ l, (∀ w ∈ l, Plain w.1) ∧ s' = s.setAll l := by
  unfold addText addDocument at h
  cases hparse : Json.parse? text with
  | none => rw [hparse] at h; cases h
  | some document =>
    rw [hparse] at h
    dsimp only at h
    split at h
    · cases h
      exact ⟨leaves "" document, plain_of_mem_leaves, (setAll_of_plain s plain_of_mem_leaves).symm⟩
    · cases h

mutual

/-- A step that does not fail sets keys that are stored as they are. -/
theorem Edit.apply_ok {s s' : Settings} : ∀ e : Edit, e.apply s = .ok s' →
    ∃ l, (∀ w ∈ l, Plain w.1) ∧ s' = s.setAll l
  | .set key value, h => by
    cases h
    refine ⟨[(spell key, value)], by simpa using plain_spell key, ?_⟩
    rw [setAll_of_plain s (by simpa using plain_spell key)]
    rfl
  | .merge other, h => by
    cases h
    have hplain : ∀ w ∈ (runFrom empty other).entries.entries, Plain w.1 := fun w hw =>
      plain_runFrom other plain_empty w.1 (List.mem_map_of_mem hw)
    exact ⟨_, hplain, (setAll_of_plain s hplain).symm⟩
  | .addText text, h => addText_ok h
  | .addFile content, h => by
    rw [Edit.apply, addFile_eq] at h
    split at h
    · exact addText_ok h
    · cases h
  | .setAll vars, h => by
    cases h
    have hplain : ∀ w ∈ vars.map fun w => (spell w.1, w.2), Plain w.1 := by
      simp only [List.forall_mem_map]
      exact fun w _ => plain_spell w.1
    exact ⟨_, hplain, by rw [setAll_of_plain s hplain, setAll_eq]⟩

theorem plain_runFrom : ∀ (edits : List Edit) {s : Settings}, (∀ key ∈ s.entries.keys, Plain key) →
    ∀ key ∈ (runFrom s edits).entries.keys, Plain key
  | [], _, h => h
  | e :: r, s, h => by
    rw [runFrom]
    split
    · next happly =>
      obtain ⟨l, -, rfl⟩ := Edit.apply_ok e happly
      exact plain_runFrom r (plain_setAll h l)
    · exact plain_runFrom r h

end

theorem plain_run (edits : List Edit) : ∀ key ∈ (run edits).entries.keys, Plain key :=
  plain_runFrom edits plain_empty

theorem runFrom_append (s : Settings) (a b : List Edit) : runFrom s (a ++ b) = runFrom (runFrom s a) b := by
  induction a generalizing s with
  | nil => rfl
  | cons e r ih =>
    rw [List.cons_append, runFrom, runFrom]
    split
    · exact ih _
    · exact ih s

theorem run_append (a b : List Edit) : run (a ++ b) = runFrom (run a) b := runFrom_append empty a b

theorem addText_eq {s : Settings} {text : String} (h : ∀ document ∈ Json.parse? text, document.Named) :
    s.addText text = (textWrites text).map s.setAll := by
  unfold addText addDocument textWrites
  cases hparse : Json.parse? text with
  | none => rfl
  | some document =>
    dsimp only
    split
    · next hobject =>
      rw [leaves_of_named hobject (h document hparse), Except.map, setAll_eq, List.map_map]
      rfl
    · rfl

/-- All steps write in one way. -/
theorem Edit.apply_eq {e : Edit} (h : e.Named) (s : Settings) : e.apply s = e.writes.map s.setAll := by
  cases e with
  | set key value => rfl
  | merge other =>
    have hplain : ∀ w ∈ (run other).entries.entries, Plain w.1 := fun w hw =>
      plain_run other w.1 (List.mem_map_of_mem hw)
    rw [Edit.writes, Except.map, setAll_of_plain s hplain]
    rfl
  | addText text => exact addText_eq h
  | addFile content =>
    rw [Edit.Named, Edit.document?] at h
    rw [Edit.apply, Edit.writes, addFile_eq]
    cases hcontent : fileText? content with
    | none => rfl
    | some text =>
      rw [hcontent] at h
      exact addText_eq h
  | setAll vars => rfl

theorem runFrom_eq {edits : List Edit} (h : ∀ e ∈ edits, e.Named) (s : Settings) :
    runFrom s edits = s.setAll (written edits) := by
  induction edits generalizing s with
  | nil => rfl
  | cons e r ih =>
    obtain ⟨he, hr⟩ := List.forall_mem_cons.mp h
    rw [runFrom, Edit.apply_eq he, written, List.flatMap_cons]
    cases e.writes with
    | error flaw => exact ih hr s
    | ok ws =>
      rw [setAll, List.foldl_append]
      exact ih hr (s.setAll ws)

/-- The settings after a step, which is skipped if it fails. -/
theorem run_snoc (edits : List Edit) (e : Edit) :
    run (edits ++ [e]) = (e.apply (run edits)).toOption.getD (run edits) := by
  rw [run_append, runFrom]
  cases e.apply (run edits) <;> rfl

/-- Settings are what was written last. Only keys as they are stored are in them. A step that fails, which it does
whatever was there before, leaves them, and no step takes a key. The value of a key is the last one that was
written under a name of that spelling, and however the name of a path is written, writing it replaces the value
that documents have there and no other. -/
theorem last_writer_wins (edits : List Edit) :
    (∀ key ∈ (run edits).entries.keys, '.' ∉ key.toList ∧ ':' ∉ key.toList) ∧
    (∀ before e after, edits = before ++ e :: after →
      (∀ flaw, e.apply (run before) = .error flaw ↔ e.writes = .error flaw) ∧
      (∀ flaw, e.apply (run before) = .error flaw → run (before ++ [e]) = run before) ∧
      (run before).entries.keys ⊆ (run (before ++ [e])).entries.keys) ∧
    ((∀ e ∈ edits, e.Named) → ∀ key, (run edits).get? key = lastUnder key (written edits)) ∧
    ∀ path name value, Respelled (pathName path) name →
      ∀ key, (run (edits ++ [.setAll [(name, value)]])).get? key =
        if key = spell (pathName path) then some value else (run edits).get? key := by
  refine ⟨plain_run edits, ?_, ?_, ?_⟩
  · rintro before e after -
    refine ⟨fun flaw => Edit.apply_eq_error_iff, fun flaw h => ?_, ?_⟩
    · rw [run_snoc, h]
      rfl
    · rw [run_snoc]
      cases happly : e.apply (run before) with
      | error flaw => exact List.Subset.refl _
      | ok s =>
        obtain ⟨l, -, rfl⟩ := Edit.apply_ok e happly
        exact keys_subset_setAll (run before) l
  · intro hnamed key
    rw [run, runFrom_eq hnamed, get?_setAll]
    exact Option.or_none
  · intro path name value hname key
    have hset : run (edits ++ [.setAll [(name, value)]]) = (run edits).set name value := run_snoc ..
    rw [hset, get?_set, ← hname.spell_eq]
    simp only [eq_comm]

/-- A document, one that is none, settings that are merged, a file that is missing, and the environment. -/
def sampleEdits : List Edit := [
  .addText "\x7b\"Log.Level\":[1,null],\"Log\":\x7b\"Level\":\x7b\"\":true\x7d\x7d\x7d",
  .addText "[1]",
  .merge [.set "Log:Level__1" "a", .addText "\x7b\"\":\x7b\"Log\":0\x7d\x7d"],
  .addFile none,
  .setAll [("Log.Level:0", "b")]]

theorem last_writer_wins_sampleEdits :
    (∀ e ∈ sampleEdits, e.Named) ∧ (run sampleEdits).get? "Log__Level__0" = some "b" ∧
      run (sampleEdits.take 1 ++ [.addText "[1]"]) = run (sampleEdits.take 1) ∧
      (run (sampleEdits ++ [.setAll [("Log.Level:1", "c")]])).get? "Log__Level__1" = some "c" := by
  have hnamed : ∀ e ∈ sampleEdits, e.Named := by decide +kernel
  have hfails : (Edit.addText "[1]").writes = .error .notAnObject := by decide +kernel
  have hpath : Respelled (pathName ["Log", "Level", "1"]) "Log.Level:1" := by
    have h : Respelled ("Log" ++ ("__" ++ ("Level" ++ ("__" ++ ("1" ++ "")))))
        ("Log" ++ ("." ++ ("Level" ++ (":" ++ ("1" ++ ""))))) :=
      .text "Log" <| .mark (by decide) (by decide) <|
        .text "Level" <| .mark (by decide) (by decide) <| .text "1" .nil
    exact h
  obtain ⟨-, hsteps, hlast, hset⟩ := last_writer_wins sampleEdits
  obtain ⟨hflaw, hkept, -⟩ := hsteps (sampleEdits.take 1) _ (sampleEdits.drop 2) rfl
  refine ⟨hnamed, (hlast hnamed _).trans (by decide +kernel), ?_, ?_⟩
  · exact hkept _ ((hflaw _).mpr hfails)
  · exact (hset _ _ _ hpath _).trans (by decide +kernel)

end TaskGrid.Settings
