import Mathlib.Data.List.Induction
import TaskGrid.Library.Loaders
import TaskGrid.Proofs.Worker.Tenure

/-! The service in use and the application that is loaded. A service is always made by the library that is loaded;
that it is named as one of its application is up to who asks for it. Main statement: `accord_iff_named`. -/
namespace TaskGrid

variable {σ τ : Type}

theorem ActiveService.id_enter (s : ActiveService σ) (session : String) (w : σ) :
    (s.enter session w).2.1.id = s.id := by
  obtain ⟨id, entry, context, old⟩ := s
  unfold enter
  split
  · rfl
  · cases CText.ofString session with
    | error e => rfl
    | ok name => cases old <;> rfl

namespace Worker

variable {w : Worker σ}

/-- The service in use is named as one of the application that is loaded. -/
def InAccord (w : Worker σ) : Prop := ∀ id, w.service? = some id → w.application? = some id.app

/-- The operation puts no service into use but one that is named as one of the application that is loaded. -/
def Names (w : Worker σ) : Operation → Prop
  | .service id => (w.useService id).1 = .ok () → w.application? = some id.app
  | _ => True

theorem inAccord_of_none (h : w.service? = none) : w.InAccord := by
  intro id hid
  rw [h] at hid
  cases hid

theorem InAccord.of_eq {w' : Worker σ} (h : w.InAccord) (hservice : w'.service? = w.service?)
    (happlication : w'.application? = w.application?) : w'.InAccord := by
  unfold InAccord
  rwa [hservice, happlication]

/-- An application that is loaded anew has no service in use yet. -/
theorem useApplication_spec (w : Worker σ) (app : AppId) :
    ((w.useApplication app).2 = w ∨ (w.useApplication app).2.service? = none) ∧
      ((w.useApplication app).1 = .ok () → (w.useApplication app).2.application? = some app) := by
  unfold useApplication
  by_cases happ : w.application? = some app
  · rw [if_pos happ]
    exact ⟨.inl rfl, fun _ => happ⟩
  · obtain ⟨world, hw⟩ := dropApplication_eq w
    rw [if_neg happ, hw]
    simp only
    generalize w.load _ world = found
    obtain ⟨e | l, world⟩ := found
    · refine ⟨.inr rfl, ?_⟩
      rintro ⟨⟩
    · exact ⟨.inr rfl, fun _ => rfl⟩

/-- A service that is put into use leaves the application as it is; if it cannot be, none is in use, or nothing
changed. -/
theorem useService_spec (w : Worker σ) (id : ServiceId) :
    (w.useService id).2.application? = w.application? ∧
      (((w.useService id).1 = .ok () ∧ (w.useService id).2.service? = some id) ∨
        ((w.useService id).1 ≠ .ok () ∧
          ((w.useService id).2 = w ∨ (w.useService id).2.service? = none))) := by
  unfold useService
  by_cases hid : w.service? = some id
  · rw [if_pos hid]
    exact ⟨rfl, .inl ⟨rfl, hid⟩⟩
  · obtain ⟨world, hw⟩ := dropService_eq w
    rw [if_neg hid, hw]
    cases ha : w.application with
    | none => exact ⟨rfl, .inr ⟨nofun, .inl rfl⟩⟩
    | some x =>
      have hcreate := ActiveService.create_spec x.2.entry id world
      simp only [application?, ha]
      cases hp : id.nulPosition? with
      | some p =>
        rw [hp] at hcreate
        simp only at hcreate
        rw [hcreate]
        exact ⟨rfl, .inr ⟨nofun, .inr rfl⟩⟩
      | none =>
        rw [hp] at hcreate
        obtain ⟨s, hs, hsid, -⟩ := hcreate
        generalize ActiveService.create x.2.entry id world = made at hs
        obtain ⟨_, world'⟩ := made
        cases hs
        exact ⟨rfl, .inl ⟨rfl, congrArg some hsid⟩⟩

theorem useSession_spec (w : Worker σ) (session : String) :
    (w.useSession session).2.service? = w.service? ∧
      (w.useSession session).2.application? = w.application? := by
  unfold useSession
  cases hs : w.service with
  | none => exact ⟨rfl, rfl⟩
  | some s =>
    refine ⟨?_, rfl⟩
    rw [service?, service?, hs]
    exact congrArg some (s.id_enter session w.world)

theorem call_spec (w : Worker σ) (host : TaskHost τ) (method : String) (arguments : Octets) (u : τ) :
    (w.call host method arguments u).2.2.service? = w.service? ∧
      (w.call host method arguments u).2.2.application? = w.application? := by
  unfold call
  cases hs : w.service <;> exact ⟨by simp only [service?, hs], rfl⟩

theorem InAccord.useApplication (h : w.InAccord) (app : AppId) : (w.useApplication app).2.InAccord := by
  obtain ⟨hsame | hnone, -⟩ := useApplication_spec w app
  · rwa [hsame]
  · exact inAccord_of_none hnone

/-- A service is in accord with the application that is loaded exactly if it is named so. -/
theorem InAccord.useService_iff (h : w.InAccord) (id : ServiceId) :
    (w.useService id).2.InAccord ↔ w.Names (.service id) := by
  obtain ⟨happ, ⟨hok, hid⟩ | ⟨herror, hsame | hnone⟩⟩ := useService_spec w id
  · constructor
    · intro haccord _
      rw [← happ]
      exact haccord id hid
    · intro hnames id' hid'
      cases hid.symm.trans hid'
      rw [happ]
      exact hnames hok
  · rw [hsame]
    exact iff_of_true h fun hok => absurd hok herror
  · exact iff_of_true (inAccord_of_none hnone) fun hok => absurd hok herror

theorem InAccord.useSession (h : w.InAccord) (session : String) : (w.useSession session).2.InAccord := by
  obtain ⟨hservice, happ⟩ := useSession_spec w session
  exact h.of_eq hservice happ

theorem InAccord.call (h : w.InAccord) (host : TaskHost τ) (method : String) (arguments : Octets) (u : τ) :
    (w.call host method arguments u).2.2.InAccord := by
  obtain ⟨hservice, happ⟩ := call_spec w host method arguments u
  exact h.of_eq hservice happ

/-- A task names an application and a service of it. -/
theorem InAccord.process (h : w.InAccord) (task : Task) (host : TaskHost τ) (u : τ) :
    (w.process task host u).2.2.InAccord := by
  rw [process_worker]
  cases hp : Payload.decode task.payload with
  | error flaw =>
    rw [attempt, hp]
    exact h
  | ok payload =>
    rw [attempt_of_decode hp, prepare]
    have hloaded := (useApplication_spec w (.ofOptions task.options)).2
    replace h := h.useApplication (.ofOptions task.options)
    generalize w.useApplication (.ofOptions task.options) = r at h hloaded
    obtain ⟨_ | _, w⟩ := r
    · exact h
    simp only [enterService] at h hloaded ⊢
    replace h := (h.useService_iff (.ofOptions task.options)).mpr fun _ => hloaded trivial
    generalize w.useService (.ofOptions task.options) = r at h
    obtain ⟨_ | _, w⟩ := r
    · exact h
    simp only at h ⊢
    replace h := h.useSession task.session
    generalize w.useSession task.session = r at h
    obtain ⟨_ | _, w⟩ := r
    · exact h
    · exact h.call host payload.method payload.arguments u

theorem InAccord.operate_iff (h : w.InAccord) (o : Operation) : (w.operate o).InAccord ↔ w.Names o := by
  cases o with
  | application app => exact iff_of_true (h.useApplication app) trivial
  | service id => exact h.useService_iff id
  | session id => exact iff_of_true (h.useSession id) trivial
  | call host method arguments u => exact iff_of_true (h.call host method arguments u) trivial
  | task task host u => exact iff_of_true (h.process task host u) trivial

/-- All states of a run are in accord exactly if no operation of it departs from that. -/
theorem InAccord.run_iff (h : w.InAccord) (operations : List Operation) :
    (∀ before, before <+: operations → (w.run before).InAccord) ↔
      ∀ before o, before ++ [o] <+: operations → (w.run before).Names o := by
  have hsnoc (before : List Operation) (o : Operation) :
      w.run (before ++ [o]) = (w.run before).operate o := by
    rw [run, List.foldl_append]
    rfl
  constructor
  · intro haccord before o hbegins
    have hafter := haccord _ hbegins
    rw [hsnoc] at hafter
    exact ((haccord before ((List.prefix_append _ _).trans hbegins)).operate_iff o).mp hafter
  · intro hnames before
    induction before using List.reverseRecOn with
    | nil => exact fun _ => h
    | append_singleton before o ih =>
      intro hbegins
      rw [hsnoc]
      exact ((ih ((List.prefix_append _ _).trans hbegins)).operate_iff o).mpr (hnames before o hbegins)

/-- A worker that is asked for nothing but tasks has no service in use that is not one of the application that is
loaded. -/
theorem inAccord_of_tasks (settings : Settings) (load : Loader σ) (world : σ) {operations : List Operation}
    (h : ∀ o ∈ operations, ∀ id, o ≠ .service id) : ((start settings load world).run operations).InAccord := by
  have hstart : (start settings load world).InAccord := inAccord_of_none rfl
  refine (hstart.run_iff operations).mpr (fun before o hbegins => ?_) operations (List.prefix_refl _)
  cases o with
  | service id =>
    have hmem : .service id ∈ operations := hbegins.subset (List.mem_append_right _ (List.mem_singleton_self _))
    exact absurd rfl (h _ hmem id)
  | _ => trivial

/-- Whatever is asked of a worker: the service in use was made by the library that is loaded, which is the one that
the loader gave for its application, and since then the library was used through it alone. In all states of a run it
is named as one of that application exactly if no service was put into use that is named as one of another. -/
theorem accord_iff_named (settings : Settings) (load : Loader σ) (world : σ) (operations : List Operation) :
    let w := start settings load world
    (∀ s, (w.run operations).service = some s → ∃ app library found,
      (w.run operations).application = some (app, library) ∧
      (load (Path.join settings.libraryDirectory app.libraryName) found).1 = .ok library ∧
      s.entry = library.entry ∧ s.Tenured (w.run operations).world) ∧
    ((∀ before, before <+: operations →
        ∀ id, (w.run before).service? = some id → (w.run before).application? = some id.app) ↔
      ∀ before id, before ++ [.service id] <+: operations →
        ((w.run before).useService id).1 = .ok () → (w.run before).application? = some id.app) := by
  intro w
  constructor
  · intro s hs
    have htenured := (tenured_start settings load world).run operations
    obtain ⟨⟨app, library⟩, hx, hentry, hs⟩ := htenured.service hs
    obtain ⟨found, hfound⟩ := htenured.library hx
    exact ⟨app, library, found, hx, hfound, hentry, hs⟩
  · have hstart : w.InAccord := inAccord_of_none rfl
    refine (hstart.run_iff operations).trans ⟨fun h before id => h before (.service id), fun h before o => ?_⟩
    cases o with
    | service id => exact h before id
    | _ => exact fun _ => trivial

/-- Of a service under its own name, and of one under the name of another application. -/
theorem accord_iff_named_raw :
    let settings : Settings := ⟨{}⟩
    let w := start settings Library.byName {}
    let raw : AppId := ⟨"raw", "1"⟩
    let other : ServiceId := ⟨⟨"other", "9"⟩, "group", "name"⟩
    let operations : List Operation := [.application raw, .service ⟨raw, "group", "name"⟩, .session "s"]
    let astray : List Operation := [.application raw, .service other]
    (∃ s, (w.run operations).service = some s ∧ ∃ app library found,
      (w.run operations).application = some (app, library) ∧
      (Library.byName (Path.join settings.libraryDirectory app.libraryName) found).1 = .ok library ∧
      s.entry = library.entry ∧ s.Tenured (w.run operations).world) ∧
    (((w.run [.application raw]).useService other).1 = .ok () ∧
      ¬ ∀ before, before <+: astray →
        ∀ id, (w.run before).service? = some id → (w.run before).application? = some id.app) := by
  intro settings w raw other operations astray
  have hsome : (w.run operations).service.isSome := by decide +kernel
  obtain ⟨s, hs⟩ := Option.isSome_iff_exists.mp hsome
  have hused : ((w.run [.application raw]).useService other).1.toOption = some () := by decide +kernel
  have hok : ((w.run [.application raw]).useService other).1 = .ok () := by
    generalize ((w.run [.application raw]).useService other).1 = answer at hused
    cases answer with
    | error e => cases hused
    | ok => rfl
  have hne : (w.run [.application raw]).application? ≠ some other.app := by decide +kernel
  refine ⟨⟨s, hs, (accord_iff_named settings Library.byName {} operations).1 s hs⟩, hok, fun haccord => ?_⟩
  exact hne ((accord_iff_named settings Library.byName {} astray).2.mp haccord _ other (List.prefix_refl _) hok)

/-- Nothing keeps a worker from putting a service into use under the name of another application. -/
theorem service_of_other_application :
    let id : ServiceId := ⟨⟨"other", "9"⟩, "group", "name"⟩
    let w := (start ⟨{}⟩ Library.byName {}).run [.application ⟨"raw", "1"⟩, .service id]
    w.service? = some id ∧ w.application? = some ⟨"raw", "1"⟩ ∧ id.app ≠ ⟨"raw", "1"⟩ ∧
      w.world.loads = ["/data/raw.1"] ∧ w.world.events = ["raw create group/name"] := by
  decide +kernel

end Worker
end TaskGrid
