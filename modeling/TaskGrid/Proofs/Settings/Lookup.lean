import TaskGrid.Proofs.Settings.Counts
import TaskGrid.Proofs.Settings.Documents

/-! What is read under the name that a value was written with. Writers spell out the marks of a name and readers
take it as it is, so that only a name without such marks finds what was written. -/
namespace TaskGrid.Settings

/-- A step that writes nothing under a key. -/
def Edit.Spares (key : String) (e : Edit) : Prop :=
  match e with
  | .set name _ => spell name ≠ key
  | .merge other => key ∉ (run other).entries.keys
  | .addText _ | .addFile _ =>
    ∀ document ∈ e.document?, document.isObject → ∀ path value, document.Leaf path value → flatten path ≠ key
  | .setAll vars => ∀ w ∈ vars, spell w.1 ≠ key

/-- A step that writes a value under a name, and nothing more in its place. -/
inductive Edit.Puts (name value : String) : Edit → Prop
  | set : Puts name value (.set name value)
  | setAll (before : List (String × String)) {after : List (String × String)}
    (h : ∀ w ∈ after, spell w.1 ≠ spell name) : Puts name value (.setAll (before ++ (name, value) :: after))

/-- All readers find a value under a name. -/
structure Finds (s : Settings) (name value : String) : Prop where
  get : s.get? name = some value
  text : ∀ default, s.getD name default = if value = "" then default else value
  count : ∀ default n, s.count name default = .ok n ↔
    value = "" ∧ n = default ∨ Spells value n ∧ n ≤ maxCount
  flaw : ∀ default flaw, s.count name default = .error flaw → flaw = .notACount name value

/-- No reader finds anything under a name, and each gives what it was told to give instead. -/
structure Misses (s : Settings) (name : String) : Prop where
  get : s.get? name = none
  text : ∀ default, s.getD name default = default
  count : ∀ default, s.count name default = .ok default

variable {s s' : Settings} {key name value : String}

theorem Finds.of_get? (h : s.get? name = some value) : s.Finds name value where
  get := h
  text default := by rw [getD, h]
  count default n := by
    rw [count_eq_ok_iff]
    constructor
    · rintro (hunset | hempty | ⟨hvalue, hspells, hmax⟩)
      · cases h.symm.trans hunset
      · cases h.symm.trans hempty
        exact .inl ⟨rfl, rfl⟩
      · cases h.symm.trans hvalue
        exact .inr ⟨hspells, hmax⟩
    · rintro (⟨rfl, rfl⟩ | ⟨hspells, hmax⟩)
      · exact .empty h
      · exact .spelled h hspells hmax
  flaw default flaw hflaw := by
    obtain ⟨value', hvalue, rfl⟩ := count_eq_error hflaw
    cases h.symm.trans hvalue
    rfl

theorem Misses.of_get? (h : s.get? name = none) : s.Misses name where
  get := h
  text default := by rw [getD, h]
  count default := count_eq_ok_iff.mpr (.unset h)

theorem Misses.not_finds (h : s.Misses name) : ¬ s.Finds name value := by
  intro hfinds
  cases h.get.symm.trans hfinds.get

theorem lastUnder_eq_none {writes : List (String × String)} (h : ∀ w ∈ writes, spell w.1 ≠ key) :
    lastUnder key writes = none := by
  rw [lastUnder, List.filter_eq_nil_iff.mpr]
  · rfl
  · simpa using h

theorem lastUnder_append_cons {after : List (String × String)} (before : List (String × String))
    (h : ∀ w ∈ after, spell w.1 ≠ spell name) :
    lastUnder (spell name) (before ++ (name, value) :: after) = some value := by
  have hafter : after.filter (fun w => spell w.1 = spell name) = [] :=
    List.filter_eq_nil_iff.mpr (by simpa using h)
  have hwrite : ((name, value) :: after).filter (fun w => spell w.1 = spell name) = [(name, value)] := by
    rw [List.filter_cons_of_pos (by simp), hafter]
  rw [lastUnder, List.filter_append, hwrite, List.getLast?_concat, Option.map_some]

theorem lastUnder_of_plain {writes : List (String × String)} (h : ∀ w ∈ writes, Plain w.1)
    (hkey : key ∉ writes.map Prod.fst) : lastUnder key writes = none := by
  apply lastUnder_eq_none
  intro w hw
  rw [spell_of_plain (h w hw)]
  rintro rfl
  exact hkey (List.mem_map_of_mem hw)

/-- A document is passed by unless a scalar in it is flattened to the key. -/
theorem get?_addText {text : String} (hadd : s.addText text = .ok s')
    (h : ∀ document ∈ Json.parse? text, document.isObject → ∀ path value,
      document.Leaf path value → flatten path ≠ key) : s'.get? key = s.get? key := by
  unfold addText addDocument at hadd
  cases hparse : Json.parse? text with
  | none => rw [hparse] at hadd; cases hadd
  | some document =>
    rw [hparse] at hadd
    dsimp only at hadd
    split at hadd
    · next hobject =>
      cases hadd
      have hnil : scalarsUnder document key = [] := by
        rw [List.eq_nil_iff_forall_not_mem]
        rintro ⟨path, value⟩ hmem
        obtain ⟨hleaf, hflat⟩ := mem_scalarsUnder_iff.mp hmem
        exact h document hparse hobject path value hleaf hflat
      rw [← setAll_of_plain s plain_of_mem_leaves, get?_setAll_leaves, hnil]
      exact Option.none_or
    · cases hadd

theorem Edit.Spares.get?_eq {e : Edit} (h : e.Spares key) (happly : e.apply s = .ok s') :
    s'.get? key = s.get? key := by
  cases e with
  | set name value =>
    cases happly
    rw [get?_set, if_neg h]
  | merge other =>
    cases happly
    have hplain : ∀ w ∈ (run other).entries.entries, Plain w.1 := fun w hw =>
      plain_run other w.1 (List.mem_map_of_mem hw)
    rw [Settings.merge, ← run, ← setAll_of_plain s hplain, get?_setAll, lastUnder_of_plain hplain h]
    exact Option.none_or
  | addText text => exact get?_addText happly h
  | addFile content =>
    rw [Edit.Spares, Edit.document?] at h
    rw [Edit.apply, addFile_eq] at happly
    cases hcontent : fileText? content with
    | none => rw [hcontent] at happly; cases happly
    | some text =>
      rw [hcontent] at happly h
      exact get?_addText happly h
  | setAll vars =>
    cases happly
    rw [get?_setAll, lastUnder_eq_none h]
    exact Option.none_or

theorem get?_runFrom {edits : List Edit} (h : ∀ e ∈ edits, e.Spares key) (s : Settings) :
    (runFrom s edits).get? key = s.get? key := by
  induction edits generalizing s with
  | nil => rfl
  | cons e r ih =>
    obtain ⟨he, hr⟩ := List.forall_mem_cons.mp h
    rw [runFrom]
    split
    · next s' happly => rw [ih hr, he.get?_eq happly]
    · exact ih hr s

theorem Edit.Puts.apply_ok {e : Edit} (h : e.Puts name value) (s : Settings) :
    ∃ s', e.apply s = .ok s' ∧ s'.get? (spell name) = some value := by
  cases h with
  | set => exact ⟨_, rfl, by rw [get?_set, if_pos rfl]⟩
  | setAll before hafter => exact ⟨_, rfl, by rw [get?_setAll, lastUnder_append_cons before hafter]; rfl⟩

/-- What a step put under a name is under its key until it is written over. -/
theorem get?_of_puts {before after : List Edit} {e : Edit} (h : e.Puts name value)
    (hafter : ∀ e ∈ after, e.Spares (spell name)) :
    (run (before ++ e :: after)).get? (spell name) = some value := by
  obtain ⟨s', happly, hs'⟩ := h.apply_ok (run before)
  rw [run_append, runFrom, happly]
  exact (get?_runFrom hafter s').trans hs'

/-- Nothing is under a name that has marks. -/
theorem misses_of_not_plain (edits : List Edit) (h : ¬ Plain name) : (run edits).Misses name := by
  apply Misses.of_get?
  rw [← Option.not_isSome_iff_eq_none, ← mem_keys_iff]
  exact fun hmem => h (plain_run edits name hmem)

/-- A value that was put under a name, in one of the two ways to do so, and was not written over since is found
under a name of the same spelling if that has no points or colons, by all readers. Under the others nothing is
found, the name that was written among them if it has such marks. -/
theorem found_iff_plain (before : List Edit) {e : Edit} {after : List Edit} (h : e.Puts name value)
    (hafter : ∀ e ∈ after, e.Spares (spell name)) {other : String} (hother : spell other = spell name) :
    ((run (before ++ e :: after)).Finds other value ↔ Plain other) ∧
      (¬ Plain other → (run (before ++ e :: after)).Misses other) := by
  have hmisses : ¬ Plain other → (run (before ++ e :: after)).Misses other := misses_of_not_plain _
  constructor
  · constructor
    · intro hfinds
      by_contra hplain
      exact (hmisses hplain).not_finds hfinds
    · intro hplain
      apply Finds.of_get?
      rw [← spell_of_plain hplain, hother]
      exact get?_of_puts h hafter
  · exact hmisses

/-- A batch size among the variables of the environment, and a document that leaves it alone. -/
def sampleLookup : List Edit := [
  .setAll [("GrpcClient.WaitBatchSize", "7"), ("GrpcClient:WaitBatchSize", "10"), ("GrpcClient:Endpoint", "grid")],
  .addText "\x7b\"GrpcClient\":\x7b\"SubmitBatchSize\":3\x7d\x7d"]

theorem found_iff_plain_sampleLookup :
    (run sampleLookup).Finds waitBatchSizeKey "10" ∧ (run sampleLookup).Misses "GrpcClient:WaitBatchSize" := by
  have hputs : Edit.Puts "GrpcClient:WaitBatchSize" "10" (.setAll [("GrpcClient.WaitBatchSize", "7"),
      ("GrpcClient:WaitBatchSize", "10"), ("GrpcClient:Endpoint", "grid")]) :=
    .setAll [("GrpcClient.WaitBatchSize", "7")] (by decide +kernel)
  have hspares : ∀ e ∈ sampleLookup.drop 1, e.Spares (spell "GrpcClient:WaitBatchSize") := by
    have hscalars : ∀ e ∈ sampleLookup.drop 1, ∀ document ∈ e.document?, ∀ l ∈ document.scalars,
        flatten l.1 ≠ spell "GrpcClient:WaitBatchSize" := by decide +kernel
    intro e he
    obtain rfl := List.mem_singleton.mp he
    intro document hdocument _ path value hleaf
    exact hscalars _ he document hdocument _ (Json.mem_scalars_iff.mpr hleaf)
  have hspell : spell waitBatchSizeKey = spell "GrpcClient:WaitBatchSize" := by decide +kernel
  obtain ⟨hfinds, -⟩ := found_iff_plain [] hputs hspares hspell
  obtain ⟨-, hmisses⟩ := found_iff_plain [] hputs hspares rfl
  constructor
  · apply hfinds.mpr
    constructor <;> decide +kernel
  · apply hmisses
    rintro ⟨-, hcolon⟩
    exact hcolon (by decide +kernel)

/-- The value that was set is not found under its own name. -/
theorem colon_hides_value :
    (run [.set "GrpcClient:WaitBatchSize" "10"]).get? "GrpcClient:WaitBatchSize" = none ∧
      (run [.set "GrpcClient:WaitBatchSize" "10"]).getD "GrpcClient:WaitBatchSize" "200" = "200" ∧
      (run [.set "GrpcClient:WaitBatchSize" "10"]).count "GrpcClient:WaitBatchSize" 200 = .ok 200 := by
  constructor
  · decide +kernel
  constructor
  · decide +kernel
  · apply count_eq_ok_iff.mpr
    exact .unset (by decide +kernel)

end TaskGrid.Settings
