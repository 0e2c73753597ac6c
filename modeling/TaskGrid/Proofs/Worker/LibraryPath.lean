import TaskGrid.Library.Loaders
import TaskGrid.Proofs.Worker.Tenure

/-! Where the library of an application is looked for, component by component: beneath the directory of the worker
exactly if its name does not lead out of it. Main statements: `components_join`, `library_beneath_iff`. -/
namespace TaskGrid

/-! ### Pieces of a text -/

namespace Text

theorem splitChars_eq_splitOn (sep : Char) (cs : List Char) : splitChars sep cs = cs.splitOn sep := by
  induction cs with
  | nil => rfl
  | cons c r ih =>
    obtain ⟨piece, pieces, hr⟩ := List.exists_cons_of_ne_nil (List.splitOn_ne_nil sep r)
    rw [splitChars, List.splitOn_cons_eq_if_modifyHead, ih, hr]
    simp only [beq_iff_eq, List.modifyHead_cons]

theorem notMem_of_mem_splitChars {sep : Char} {cs piece : List Char} (h : piece ∈ splitChars sep cs) :
    sep ∉ piece := by
  induction cs generalizing piece with
  | nil =>
    cases List.mem_singleton.mp h
    exact List.not_mem_nil
  | cons c r ih =>
    obtain ⟨first, pieces, hr⟩ := List.exists_cons_of_ne_nil (splitChars_ne_nil sep r)
    rw [hr] at ih
    rw [splitChars, hr] at h
    split at h
    · rcases List.mem_cons.mp h with rfl | h
      · exact List.not_mem_nil
      · exact ih h
    · next hc =>
      rcases List.mem_cons.mp h with rfl | h
      · exact fun hmem => (List.mem_cons.mp hmem).elim (fun e => hc e.symm) (ih List.mem_cons_self)
      · exact ih (List.mem_cons_of_mem _ h)

end Text

/-! ### Components of a path -/

namespace Path

inductive Component where
  | root
  | here
  | up
  | name (name : String)
  deriving DecidableEq, Repr

def Component.ofSegment (s : String) : Component := if s = ".." then .up else .name s

def IsAbsolute (path : String) : Prop := path.toList.head? = some '/'

instance (path : String) : Decidable (IsAbsolute path) := inferInstanceAs (Decidable (_ = _))

def anchor (path : String) : List Component :=
  if IsAbsolute path then [.root]
  else if (Text.split '/' path).head? = some "." then [.here]
  else []

def steps (path : String) : List Component := (segments path).map .ofSegment

/-- A path as a file system reads it: separators count once, and steps that stay where they are only at the
beginning. -/
def components (path : String) : List Component := anchor path ++ steps path

structure IsFileName (s : String) : Prop where
  notEmpty : s ≠ ""
  single : '/' ∉ s.toList
  notHere : s ≠ "."
  notUp : s ≠ ".."

/-- How far below a directory steps lead, unless they leave it on the way. -/
def depth? : Nat → List Component → Option Nat
  | n, [] => some n
  | _, .root :: _ => none
  | n, .here :: r => depth? n r
  | 0, .up :: _ => none
  | n + 1, .up :: r => depth? n r
  | n, .name _ :: r => depth? (n + 1) r

/-- Steps that lead below the directory they begin in, without leaving it on the way. -/
def Descends (steps : List Component) : Prop := ∃ n, depth? 0 steps = some (n + 1)

/-- A path that lies below a directory, as both are written; links are not followed. -/
def Inside (directory path : String) : Prop :=
  ∃ steps, components path = components directory ++ steps ∧ Descends steps

instance (steps : List Component) : Decidable (Descends steps) :=
  decidable_of_iff (∃ n ∈ depth? 0 steps, 0 < n) <| by
    constructor
    · rintro ⟨_ | n, hn, hpos⟩
      · cases hpos
      · exact ⟨n, hn⟩
    · rintro ⟨n, hn⟩
      exact ⟨n + 1, hn, Nat.succ_pos n⟩

instance (directory path : String) : Decidable (Inside directory path) :=
  decidable_of_iff (components directory <+: components path ∧
      Descends ((components path).drop (components directory).length)) <| by
    constructor
    · rintro ⟨⟨steps, h⟩, hdescends⟩
      rw [← h, List.drop_left] at hdescends
      exact ⟨steps, h.symm, hdescends⟩
    · rintro ⟨steps, h, hdescends⟩
      rw [h, List.drop_left]
      exact ⟨List.prefix_append _ _, hdescends⟩

variable {directory path name : String}

theorem split_below (a b : String) :
    Text.split '/' (a ++ "/" ++ b) = Text.split '/' a ++ Text.split '/' b := by
  have hcs : (a ++ "/" ++ b).toList = a.toList ++ '/' :: b.toList := by simp
  rw [Text.split, hcs, Text.splitChars_eq_splitOn, List.splitOn_append_cons_self, List.map_append,
    ← Text.splitChars_eq_splitOn, ← Text.splitChars_eq_splitOn]
  rfl

theorem split_ne_nil (a : String) : Text.split '/' a ≠ [] := by
  rw [Text.split, Ne, List.map_eq_nil_iff]
  exact Text.splitChars_ne_nil _ _

theorem steps_below (a b : String) : steps (a ++ "/" ++ b) = steps a ++ steps b := by
  simp only [steps, segments, split_below, List.filter_append, List.map_append]

/-- Where a path begins is said by what stands before its first separator. -/
theorem anchor_below (a b : String) : anchor (a ++ "/" ++ b) = if a = "" then [.root] else anchor a := by
  have habsolute : IsAbsolute (a ++ "/" ++ b) ↔ a = "" ∨ IsAbsolute a := by
    unfold IsAbsolute
    by_cases ha : a = ""
    · simp [ha]
    · obtain ⟨c, cs, hcs⟩ := List.exists_cons_of_ne_nil fun h => ha (String.toList_eq_nil_iff.mp h)
      simp [ha, hcs]
  have hhead : (Text.split '/' (a ++ "/" ++ b)).head? = (Text.split '/' a).head? := by
    obtain ⟨piece, pieces, hr⟩ := List.exists_cons_of_ne_nil (split_ne_nil a)
    rw [split_below, hr]
    rfl
  by_cases ha : a = ""
  · rw [anchor, if_pos (habsolute.mpr (.inl ha)), if_pos ha]
  · simp only [anchor, habsolute, hhead, ha, false_or, if_false]

theorem components_below (a b : String) :
    components (a ++ "/" ++ b) = components (a ++ "/") ++ steps b := by
  have hnone : steps "" = [] := rfl
  have hself : components (a ++ "/") = components (a ++ "/" ++ "") := by rw [String.append_empty]
  rw [hself, components, components, anchor_below, anchor_below, steps_below, steps_below, hnone,
    List.append_nil, List.append_assoc]

theorem components_slash {a : String} (h : a ≠ "") : components (a ++ "/") = components a := by
  have hself : a ++ "/" = a ++ "/" ++ "" := by rw [String.append_empty]
  have hnone : steps "" = [] := rfl
  rw [hself, components, anchor_below, if_neg h, steps_below, hnone, List.append_nil, components]

/-- A path that does not begin at the top goes on from its directory. -/
theorem components_join (hdirectory : directory ≠ "") (hpath : ¬ IsAbsolute path) :
    components (join directory path) = components directory ++ steps path := by
  have hrelative : path.toList.head? ≠ some '/' := hpath
  unfold join
  rw [if_neg hrelative]
  split
  · next h => exact absurd (String.toList_eq_nil_iff.mp (List.getLast?_eq_none_iff.mp h)) hdirectory
  · next h =>
    obtain ⟨cs, hcs⟩ := List.getLast?_eq_some_iff.mp h
    have hslash : directory = String.ofList cs ++ "/" := by
      rw [← String.toList_inj, hcs]
      simp
    rw [hslash, components_below]
  · rw [components_below, components_slash hdirectory]

theorem join_of_isAbsolute (h : IsAbsolute path) : join directory path = path := if_pos h

theorem join_empty (path : String) : join "" path = path := by
  unfold join
  split <;> rfl

/-! ### Names of files -/

/-- No step has a name that could be taken for more, or for less, than a step downwards. -/
theorem isFileName_of_mem_components (h : .name name ∈ components path) : IsFileName name := by
  have hsteps : .name name ∈ steps path := by
    refine (List.mem_append.mp h).resolve_left fun h => ?_
    unfold anchor at h
    split at h
    · simp at h
    · split at h <;> simp at h
  obtain ⟨segment, hsegment, hname⟩ := List.mem_map.mp hsteps
  obtain ⟨hmem, hproper⟩ := List.mem_filter.mp hsegment
  obtain ⟨piece, hpiece, rfl⟩ := List.mem_map.mp hmem
  have hslash := Text.notMem_of_mem_splitChars hpiece
  unfold Component.ofSegment at hname
  split at hname
  · cases hname
  · next hup =>
    cases hname
    simp only [decide_eq_true_eq] at hproper
    exact ⟨hproper.1, by rwa [String.toList_ofList], hproper.2, hup⟩

theorem IsFileName.not_isAbsolute (h : IsFileName name) : ¬ IsAbsolute name := fun habsolute =>
  h.single (List.mem_of_mem_head? habsolute)

theorem IsFileName.split (h : IsFileName name) : Text.split '/' name = [name] := by
  rw [Text.split, Text.splitChars_eq_splitOn, List.splitOn_eq_singleton h.single, List.map_singleton,
    String.ofList_toList]

theorem IsFileName.anchor (h : IsFileName name) : anchor name = [] := by
  simp [Path.anchor, h.not_isAbsolute, h.split, h.notHere]

theorem IsFileName.steps (h : IsFileName name) : steps name = [.name name] := by
  simp [Path.steps, segments, h.split, h.notEmpty, h.notHere, Component.ofSegment, h.notUp]

theorem components_join_name_iff :
    components (join directory name) = components directory ++ [.name name] ↔ IsFileName name := by
  constructor
  · intro h
    have hlast : .name name ∈ components (join directory name) := by
      rw [h]
      exact List.mem_append_right _ (List.mem_singleton_self _)
    exact isFileName_of_mem_components hlast
  · intro h
    by_cases hdirectory : directory = ""
    · rw [hdirectory, join_empty, components, h.anchor, h.steps]
      rfl
    · rw [components_join hdirectory h.not_isAbsolute, h.steps]

theorem inside_join_iff (hpath : ¬ IsAbsolute path) :
    Inside directory (join directory path) ↔ Descends (steps path) := by
  by_cases hdirectory : directory = ""
  · -- an empty directory is the current one
    have hdescends : Descends (components path) ↔ Descends (steps path) := by
      unfold components anchor
      rw [if_neg hpath]
      split <;> rfl
    have hnone : components "" = [] := rfl
    rw [hdirectory, join_empty, ← hdescends, Inside, hnone]
    simp
  · rw [Inside, components_join hdirectory hpath]
    simp

theorem IsFileName.inside (h : IsFileName name) : Inside directory (join directory name) := by
  rw [inside_join_iff h.not_isAbsolute, h.steps]
  exact ⟨0, rfl⟩

end Path

/-! ### What a loader is asked for -/

def Operation.app? : Operation → Option AppId
  | .application app => some app
  | .task asked _ _ => some (.ofOptions asked.options)
  | .service _ | .session _ => none
  | .call .. => none

namespace Worker

variable {σ τ : Type} {w : Worker σ} {load load' : Loader σ} {base : String}

def withLoader (w : Worker σ) (load : Loader σ) : Worker σ := { w with load }

theorem dropService_withLoader : (w.withLoader load).dropService = w.dropService.withLoader load := by
  obtain ⟨directory, _, world, application, _ | s⟩ := w <;> rfl

theorem dropApplication_withLoader :
    (w.withLoader load).dropApplication = w.dropApplication.withLoader load := by
  obtain ⟨directory, _, world, _ | x, _ | s⟩ := w <;> rfl

/-- A loader is asked for one path. -/
theorem useApplication_withLoader {app : AppId} (h : load (w.libraryPath app) = w.load (w.libraryPath app)) :
    (w.withLoader load).useApplication app =
      ((w.useApplication app).1, (w.useApplication app).2.withLoader load) := by
  have hkept : (w.withLoader load).application? = w.application? := rfl
  unfold useApplication
  rw [hkept]
  by_cases happ : w.application? = some app
  · rw [if_pos happ, if_pos happ]
  · obtain ⟨world, hw⟩ := dropApplication_eq w
    rw [if_neg happ, if_neg happ, dropApplication_withLoader, hw]
    simp only [withLoader, libraryPath] at h ⊢
    rw [h]
    rcases w.load (Path.join w.directory app.libraryName) world with ⟨e | l, world⟩ <;> rfl

theorem useService_withLoader (id : ServiceId) : (w.withLoader load).useService id =
    ((w.useService id).1, (w.useService id).2.withLoader load) := by
  have hkept : (w.withLoader load).service? = w.service? := rfl
  unfold useService
  rw [hkept]
  by_cases hid : w.service? = some id
  · rw [if_pos hid, if_pos hid]
  · obtain ⟨world, hw⟩ := dropService_eq w
    rw [if_neg hid, if_neg hid, dropService_withLoader, hw]
    cases ha : w.application with
    | none => simp only [withLoader, ha]
    | some x =>
      simp only [withLoader, ha]
      rcases ActiveService.create x.2.entry id world with ⟨e | s, world⟩ <;> rfl

theorem useSession_withLoader (session : String) : (w.withLoader load).useSession session =
    ((w.useSession session).1, (w.useSession session).2.withLoader load) := by
  obtain ⟨directory, _, world, application, _ | s⟩ := w <;> rfl

theorem call_withLoader (host : TaskHost τ) (method : String) (arguments : Octets) (u : τ) :
    (w.withLoader load).call host method arguments u =
      ((w.call host method arguments u).1, (w.call host method arguments u).2.1,
        (w.call host method arguments u).2.2.withLoader load) := by
  obtain ⟨directory, _, world, application, _ | s⟩ := w <;> rfl

theorem operate_withLoader {o : Operation}
    (h : ∀ app, o.app? = some app → load (w.libraryPath app) = w.load (w.libraryPath app)) :
    (w.withLoader load).operate o = (w.operate o).withLoader load := by
  cases o with
  | application app => rw [operate, useApplication_withLoader (h app rfl), operate]
  | service id => rw [operate, useService_withLoader, operate]
  | session id => rw [operate, useSession_withLoader, operate]
  | call host method arguments u => rw [operate, call_withLoader, operate]
  | task task host u =>
    rw [operate, operate, process_worker, process_worker, attempt, attempt]
    split
    · rfl
    · rw [useApplication_withLoader (h _ rfl)]
      generalize w.useApplication (.ofOptions task.options) = r
      obtain ⟨_ | _, w⟩ := r <;> simp only
      rw [useService_withLoader]
      generalize w.useService (.ofOptions task.options) = r
      obtain ⟨_ | _, w⟩ := r <;> simp only
      rw [useSession_withLoader]
      generalize w.useSession task.session = r
      obtain ⟨_ | _, w⟩ := r <;> simp only
      rw [call_withLoader]

/-- Of two loaders that agree on the libraries of the applications that are asked for, one is as good as the
other. -/
theorem Tenured.run_withLoader (ht : w.Tenured load base) (operations : List Operation)
    (h : ∀ o ∈ operations, ∀ app, o.app? = some app →
      load' (Path.join base app.libraryName) = load (Path.join base app.libraryName)) :
    (w.withLoader load').run operations = (w.run operations).withLoader load' := by
  induction operations generalizing w with
  | nil => rfl
  | cons o rest ih =>
    obtain ⟨ho, hrest⟩ := List.forall_mem_cons.mp h
    have hstep : (w.withLoader load').operate o = (w.operate o).withLoader load' := by
      apply operate_withLoader
      intro app happ
      rw [libraryPath, ht.directory, ht.loader]
      exact ho app happ
    rw [Worker.run, List.foldl_cons, hstep]
    exact ih (ht.operate o) hrest

end Worker

/-- A loader that finds nothing but what lies below a directory. -/
def Loader.confined {σ : Type} (directory : String) (load : Loader σ) : Loader σ := fun path w =>
  if Path.Inside directory path then load path w else (.error (.libraryNotFound path), w)

namespace Worker

variable {σ : Type}

/-- The library of an application is looked for under its name in the directory of the worker exactly if the name
is that of a file, and then it lies below the directory. A name that begins at the top is taken for the whole
path, and any other leads below the directory if its own steps do not leave it. A worker that is asked for names of
files only finds no library anywhere else. -/
theorem library_beneath_iff (directory : String) (load : Loader σ) (world : σ) (options : TaskOptions) :
    let w : Worker σ := { directory, load, world }
    let path := w.libraryPath (.ofOptions options)
    let name := if options.applicationVersion = "" then options.applicationName
      else options.applicationName ++ "." ++ options.applicationVersion
    (Path.components path = Path.components directory ++ [.name name] ↔ Path.IsFileName name) ∧
    (Path.IsFileName name → Path.Inside directory path) ∧
    (Path.IsAbsolute name → path = name) ∧
    (¬ Path.IsAbsolute name → (Path.Inside directory path ↔ Path.Descends (Path.steps name))) ∧
    ∀ operations : List Operation,
      (∀ o ∈ operations, ∀ app, o.app? = some app → Path.IsFileName app.libraryName) →
        (w.withLoader (load.confined directory)).run operations =
          (w.run operations).withLoader (load.confined directory) := by
  intro w path name
  have hpath : path = Path.join directory name := rfl
  rw [hpath]
  refine ⟨Path.components_join_name_iff, Path.IsFileName.inside, Path.join_of_isAbsolute,
    Path.inside_join_iff, fun operations hnames => ?_⟩
  have htenured : w.Tenured load directory := ⟨rfl, rfl, nofun, nofun⟩
  refine htenured.run_withLoader operations fun o ho app happ => ?_
  funext world
  rw [Loader.confined, if_pos (hnames o ho app happ).inside]

/-- Of a file, a name that begins at the top, and one that leads upwards and down again into another directory. -/
theorem library_beneath_iff_threeNames :
    let load := Library.byName
    let w : Worker Library.World := { directory := "/apps/", load, world := {} }
    let file : TaskOptions := .forService "libecho.so" "1.2" "group" "name"
    let top : TaskOptions := .forService "/apps/sub/libecho.so" "" "group" "name"
    let astray : TaskOptions := .forService "sub/../../libecho" "so" "group" "name"
    let operations : List Operation := [.application (.ofOptions file), .session "s", .application ⟨"raw", ""⟩]
    (Path.IsFileName "libecho.so.1.2" ∧ Path.Inside "/apps/" (w.libraryPath (.ofOptions file)) ∧
      Path.components (w.libraryPath (.ofOptions file)) =
        Path.components "/apps/" ++ [.name "libecho.so.1.2"]) ∧
    (Path.IsAbsolute "/apps/sub/libecho.so" ∧ w.libraryPath (.ofOptions top) = "/apps/sub/libecho.so") ∧
    (¬ Path.IsAbsolute "sub/../../libecho.so" ∧
      ¬ Path.Inside "/apps/" (w.libraryPath (.ofOptions astray))) ∧
    ((∀ o ∈ operations, ∀ app, o.app? = some app → Path.IsFileName app.libraryName) ∧
      (w.withLoader (load.confined "/apps/")).run operations =
        (w.run operations).withLoader (load.confined "/apps/")) := by
  intro load w file top astray operations
  have hfile : Path.IsFileName "libecho.so.1.2" :=
    ⟨by decide, by decide +kernel, by decide, by decide⟩
  have htop : Path.IsAbsolute "/apps/sub/libecho.so" := by decide +kernel
  have hrelative : ¬ Path.IsAbsolute "sub/../../libecho.so" := by decide +kernel
  have hastray : ¬ Path.Descends (Path.steps "sub/../../libecho.so") := by decide +kernel
  have hnames : ∀ o ∈ operations, ∀ app, o.app? = some app → Path.IsFileName app.libraryName := by
    refine List.forall_mem_cons.mpr ⟨?_, List.forall_mem_cons.mpr ⟨nofun, List.forall_mem_singleton.mpr ?_⟩⟩
    · rintro _ ⟨⟩
      exact hfile
    · rintro _ ⟨⟩
      exact ⟨by decide, by decide +kernel, by decide, by decide⟩
  obtain ⟨hcomponents, hinside, -, -, hrun⟩ := library_beneath_iff "/apps/" load {} file
  obtain ⟨-, -, hwhole, -⟩ := library_beneath_iff "/apps/" load {} top
  obtain ⟨-, -, -, hsteps, -⟩ := library_beneath_iff "/apps/" load {} astray
  exact ⟨⟨hfile, hinside hfile, hcomponents.mpr hfile⟩, ⟨htop, hwhole htop⟩,
    ⟨hrelative, fun h => hastray ((hsteps hrelative).mp h)⟩, hnames, hrun operations hnames⟩

/-- An application whose name begins at the top is loaded from there, whatever the directory of the worker. -/
theorem library_beyond_directory :
    let w : Worker Library.World := { directory := "/apps", load := Library.byName, world := {} }
    let app := AppId.ofOptions (.forService "/opt/foreign.so" "" "group" "name")
    w.libraryPath app = "/opt/foreign.so" ∧ ¬ Path.Inside w.directory (w.libraryPath app) ∧
      (w.useApplication app).2.application? = some app ∧
      (w.useApplication app).2.world.loads = ["/opt/foreign.so"] := by
  decide +kernel

end Worker
end TaskGrid
