import TaskGrid.Library.Loaders
import TaskGrid.Proofs.Worker.Export
import TaskGrid.Proofs.Worker.Transition

/-! What a worker did before a task does not show in what comes of it, if libraries are found by their path and
services go by names and input. -/
namespace TaskGrid

variable {σ τ ω α β : Type}

/-- A service that goes by the names and the input it is given: nothing else decides when it panics on creation
or entry, and what comes of a call. -/
structure Service.Determined (s : Service ω α β) : Prop where
  create : ∀ group name w w',
    (s.create group name w).1.isOk = (s.create group name w').1.isOk
  enter : ∀ {group name held held'}, s.Reached group name held none →
    s.Reached group name held' none → ∀ session w w',
    (s.enter held session w).1.isOk = (s.enter held' session w').1.isOk
  call : ∀ {group name session held held' state state'},
    s.Reached group name held (some (session, state)) →
    s.Reached group name held' (some (session, state')) → ∀ method input w w',
    (s.call held state method input w).1 = (s.call held' state' method input w').1

/-- The library exports such a service. -/
def Library.Determined (l : Library σ) : Prop :=
  ∃ (ω α β : Type) (e : Export σ ω α β), l.entry = e.entry ∧ e.service.Determined

namespace Service

variable {s : Service ω α β} {group name session : String}

theorem Reached.create {held : α} {x : Option (String × β)} (h : s.Reached group name held x) :
    ∃ w, (s.create group name w).1.isOk := by
  induction h with
  | @created held w w' h => exact ⟨w, by rw [h]; rfl⟩
  | entered h hs ih => exact ih
  | refused h hs ih => exact ih
  | left h w ih => exact ih
  | called h method input w ih => exact ih

theorem Reached.enter {held : α} {x : Option (String × β)} (h : s.Reached group name held x) :
    ∀ y ∈ x, ∃ before w, s.Reached group name before none ∧ (s.enter before y.1 w).1.isOk := by
  induction h with
  | created h => nofun
  | @entered held held' session state w w' h hs ih =>
    rintro y ⟨⟩
    exact ⟨held, w, h, by rw [hs]; rfl⟩
  | refused h hs ih => nofun
  | left h w ih => nofun
  | @called held session state h method input w ih =>
    rintro y ⟨⟩
    exact ih (session, state) rfl

variable {m m' : Memory α β} {c c' x x' : Context}

/-- Names decide whether there is a session to call. -/
theorem Determined.not_live (hs : s.Determined) {a : Nat}
    (hnull : s.Live group name m c (some (session, none))) :
    ¬ s.Live group name m' c' (some (session, some a)) := by
  intro hopen
  cases hopen with
  | opened _ _ hreached =>
    obtain ⟨w', hcreate⟩ := hreached.create
    obtain ⟨before', v', hbefore', henter⟩ := hreached.enter _ rfl
    cases hnull with
    | @absent w h =>
      rw [hs.create group name w w', hcreate] at h
      cases h
    | @unopened _ _ before _ w _ _ hbefore h =>
      rw [hs.enter hbefore hbefore' session w v', henter] at h
      cases h

theorem Determined.callAt_eq (hs : s.Determined) (h : s.Live group name m c (some (session, x)))
    (h' : s.Live group name m' c' (some (session, x'))) (method : CText) (input : Data) (v v' : ω) :
    (s.callAt c x method input true (m, v)).1 = (s.callAt c' x' method input true (m', v')).1 := by
  cases x with
  | none =>
    cases x' with
    | none => rw [callAt_of_null, callAt_of_null]
    | some a => exact absurd h' (hs.not_live h)
  | some a =>
    cases x' with
    | none => exact absurd h (hs.not_live h')
    | some a' =>
      cases h with
      | opened hc hx h =>
        cases h' with
        | opened hc' hx' h' =>
          rw [callAt_of_get? hc hx, callAt_of_get? hc' hx', hs.call h h']

end Service

namespace Library

theorem determined_echo (ω : Type) : (echo ω).Determined where
  create _ _ _ _ := rfl
  enter _ _ _ _ _ := rfl
  call _ _ _ _ _ _ := rfl

theorem session_of_reached {group name : String} {held : Unit} {x : Option (String × String)}
    (h : (plain ω).Reached group name held x) : ∀ y ∈ x, y.2 = y.1 := by
  induction h with
  | created h => nofun
  | entered h hs ih =>
    rintro y ⟨⟩
    cases hs
    rfl
  | refused h hs ih => nofun
  | left h w ih => nofun
  | @called held session state h method input w ih =>
    rintro y ⟨⟩
    exact ih (session, state) rfl

theorem determined_plain (ω : Type) : (plain ω).Determined where
  create _ _ _ _ := rfl
  enter _ _ _ _ _ := rfl
  call h h' method input w w' := by
    have hstate := session_of_reached h _ rfl
    have hstate' := session_of_reached h' _ rfl
    simp only at hstate hstate'
    rw [hstate, hstate']
    rfl

def plainExport : Export World Unit Unit String where
  service := plain Unit
  get w := (w.plain, ())
  set w part := { w with plain := part.1 }
  get_set _ _ := rfl

theorem determined_of_fromDirectory {directory path : String} {w : World} {l : Library World}
    (h : (fromDirectory directory path w).1 = .ok l) : l.Determined := by
  refine ⟨Unit, Unit, String, plainExport, ?_, determined_plain Unit⟩
  simp only [fromDirectory] at h
  split at h <;> cases h
  rfl

end Library

/-- Two services of one name in one session say the same of a call. -/
theorem ActiveService.Tenured.call_eq {e : Export σ ω α β} (he : e.service.Determined)
    {s s' : ActiveService σ} {w w' : σ} (h : s.Tenured w) (h' : s'.Tenured w')
    (hentry : s.entry = e.entry) (hentry' : s'.entry = e.entry) (hid : s.id = s'.id)
    {session : String} {x x' : Context} (hx : s.session = some (session, x))
    (hx' : s'.session = some (session, x')) (host : TaskHost τ) (method : String)
    (arguments : Octets) (u : τ) :
    (s.call host method arguments u w).1 = (s'.call host method arguments u w').1 ∧
      (s.call host method arguments u w).2.1 = (s'.call host method arguments u w').2.1 := by
  cases hmethod : CText.nulPosition? method with
  | some p =>
    rw [call_of_nul hx hmethod, call_of_nul hx' hmethod]
    exact ⟨rfl, rfl⟩
  | none =>
    rw [ActiveService.Tenured, hentry, hx] at h
    rw [ActiveService.Tenured, hentry', ← hid, hx'] at h'
    have hreply := he.callAt_eq h.live h'.live (CText.over method) (.ofOctets arguments)
      (e.get w).2 (e.get w').2
    rw [call_of_session hx hmethod, call_of_session hx' hmethod, hentry, hentry', e.call_entry,
      e.call_entry, hreply]
    exact ⟨rfl, rfl⟩

namespace Worker

variable {load : Loader σ} {base : String} {w w' : Worker σ}

/-- Two workers that look for libraries in one place say the same of a task, whatever they have in use. -/
theorem Tenured.attempt_agrees (h : w.Tenured load base) (h' : w'.Tenured load base)
    (hpath : ∀ path world world', (load path world).1 = (load path world').1)
    (hlibraries : ∀ path world l, (load path world).1 = .ok l → l.Determined)
    (task : Task) (host : TaskHost τ) (u : τ) :
    (w.attempt task host u).1 = (w'.attempt task host u).1 ∧
      (w.attempt task host u).2.1 = (w'.attempt task host u).2.1 := by
  cases hp : Payload.decode task.payload with
  | error flaw =>
    simp only [attempt, hp]
    exact ⟨trivial, trivial⟩
  | ok payload =>
    rw [attempt_of_decode hp, attempt_of_decode hp]
    obtain ⟨hready, world, hanswer, hservice⟩ := h.prepare task.options task.session
    obtain ⟨hready', world', hanswer', hservice'⟩ := h'.prepare task.options task.session
    rw [hpath _ world' world] at hanswer' hservice'
    have hsame := hanswer.trans hanswer'.symm
    generalize w.prepare task.options task.session = r at hready hservice hsame
    generalize w'.prepare task.options task.session = r' at hready' hservice' hsame
    obtain ⟨e | _, v⟩ := r <;> obtain ⟨_, v'⟩ := r' <;> cases hsame
    · exact ⟨rfl, rfl⟩
    · obtain ⟨l, s, c, hl, hs, hentry, hid, hc⟩ := hservice rfl
      obtain ⟨l', s', c', hl', hs', hentry', hid', hc'⟩ := hservice' rfl
      cases hl.symm.trans hl'
      obtain ⟨ω, α, β, e, he, hdetermined⟩ := hlibraries _ _ _ hl
      obtain ⟨_, -, -, ht⟩ := hready.service hs
      obtain ⟨_, -, -, ht'⟩ := hready'.service hs'
      simp only at hs hs'
      simp only [Worker.call, hs, hs']
      exact ht.call_eq hdetermined ht' (hentry.trans he) (hentry'.trans he) (hid.trans hid'.symm) hc
        hc' host payload.method payload.arguments u

/-- What comes of a task does not depend on what was asked of a worker before, nor on what that did to the world:
its status and what the host is sent are those of a worker that just started. -/
theorem history_unobservable (settings : Settings) {load : Loader σ}
    (hpath : ∀ path world world', (load path world).1 = (load path world').1)
    (hlibraries : ∀ path world l, (load path world).1 = .ok l → l.Determined) (world world' : σ)
    (operations : List Operation) (task : Task) (host : TaskHost τ) (u : τ) :
    let used := ((start settings load world).run operations).process task host u
    let fresh := (start settings load world').process task host u
    used.1 = fresh.1 ∧ used.2.1 = fresh.2.1 := by
  intro used fresh
  have hused := (tenured_start settings load world).run operations
  obtain ⟨hanswer, hhost⟩ := hused.attempt_agrees (tenured_start settings load world') hpath hlibraries
    task host u
  simp only [used, fresh, process_eq]
  exact ⟨by rw [hanswer], hhost⟩

/-- A task for the sample service. -/
def sample (session method : String) : Task where
  session := session
  payload := (Payload.encode ⟨method, [7], []⟩).toOption.getD []
  options := .forService "libplain.so" "" "group" "name"

/-- After an error, a panic, a payload that cannot be read and an application that is not there. -/
theorem history_unobservable_sample :
    let load := Library.fromDirectory (Settings.libraryDirectory ⟨{}⟩)
    let history := [.task (sample "s1" "Fail") accepting (), .task (sample "s2" "Panic") accepting (),
      .task { sample "s1" "Session" with payload := [48] } accepting (),
      Operation.task { sample "s1" "Session" with options := .forService "gone" "" "" "" } accepting ()]
    ((∀ path world world', (load path world).1 = (load path world').1) ∧
        ∀ path world l, (load path world).1 = .ok l → l.Determined) ∧
      let used := ((start ⟨{}⟩ load {}).run history).process (sample "s1" "Session") accepting ()
      let fresh := (start ⟨{}⟩ load {}).process (sample "s1" "Session") accepting ()
      (used.1 = fresh.1 ∧ used.2.1 = fresh.2.1) ∧ fresh.1 = .ok := by
  intro load history
  have hpath : ∀ path world world', (load path world).1 = (load path world').1 := fun _ _ _ => rfl
  have hlibraries : ∀ path world l, (load path world).1 = .ok l → l.Determined :=
    fun _ _ _ => Library.determined_of_fromDirectory
  refine ⟨⟨hpath, hlibraries⟩, ?_, ?_⟩
  · exact history_unobservable ⟨{}⟩ hpath hlibraries {} {} history (sample "s1" "Session") accepting ()
  · decide +kernel

/-- A service that counts its calls lets its history show. -/
example :
    let host : TaskHost (List Octets) := ⟨["r1"], fun _ data sent => (.sent, sent ++ [data])⟩
    let fresh := start ⟨{}⟩ Library.byName {}
    let used := fresh.run [.task (recorded "s1" "Echo") accepting ()]
    (used.process (recorded "s1" "Count") host []).2.1 ≠
      (fresh.process (recorded "s1" "Count") host []).2.1 := by
  decide +kernel

end Worker
end TaskGrid
