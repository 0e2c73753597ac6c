import TaskGrid.Proofs.Worker.Mirror
import TaskGrid.Proofs.Worker.Steps

/-! What a worker shows its libraries is nested: sessions within services within libraries, one at a time,
each closed before the next begins. -/
namespace TaskGrid

variable {σ : Type}

structure SessionLife where
  name : CText
  context : Context
  calls : List (CText × Data)

structure ServiceLife where
  group : CText
  name : CText
  context : Context
  sessions : List SessionLife

/-- An attempt to load a library, and what became of the library if there is one. -/
inductive LibraryLife where
  | refused (path : String)
  | loaded (path : String) (services : List ServiceLife)

namespace SessionLife

def opening (n : Nat) (service : Context) (l : SessionLife) : List LibraryEvent :=
  .entered n service l.name l.context ::
    l.calls.map fun x => .called n service l.context x.1 x.2

def events (n : Nat) (service : Context) (l : SessionLife) : List LibraryEvent :=
  l.opening n service ++ [.left n service l.context]

end SessionLife

namespace ServiceLife

def opening (n : Nat) (l : ServiceLife) : List LibraryEvent :=
  .created n l.group l.name l.context :: l.sessions.flatMap (·.events n l.context)

def events (n : Nat) (l : ServiceLife) : List LibraryEvent :=
  l.opening n ++ [.destroyed n l.context]

end ServiceLife

namespace LibraryLife

def opening (n : Nat) : LibraryLife → List LibraryEvent
  | .refused path => [.refused path]
  | .loaded path services => .loaded n path :: services.flatMap (·.events n)

def events (n : Nat) : LibraryLife → List LibraryEvent
  | .refused path => [.refused path]
  | .loaded path services => (loaded path services).opening n ++ [.unloaded n]

/-- One life after the other, each numbered by those before it. -/
def chronicle (n : Nat) : List LibraryLife → List LibraryEvent
  | [] => []
  | l :: r => l.events n ++ chronicle (n + 1) r

theorem chronicle_append (n : Nat) (lives : List LibraryLife) (l : LibraryLife) :
    chronicle n (lives ++ [l]) = chronicle n lives ++ l.events (n + lives.length) := by
  induction lives generalizing n with
  | nil => simp [chronicle]
  | cons x r ih =>
    rw [List.cons_append, chronicle, ih, chronicle, List.append_assoc, List.length_cons,
      show n + 1 + r.length = n + (r.length + 1) by omega]

end LibraryLife

/-- What is known of the session a service is in, if it is in one. -/
inductive OpenSession (n : Nat) (service : Context) :
    Option (String × Context) → List LibraryEvent → Prop where
  | outside : OpenSession n service none []
  | inside (id : String) (l : SessionLife) :
    OpenSession n service (some (id, l.context)) (l.opening n service)

inductive OpenService (n : Nat) : Option (ActiveService (Traced σ)) → List LibraryEvent → Prop where
  | outside : OpenService n none []
  | inside (id : ServiceId) (entry : EntryPoints (Traced σ)) {session : Option (String × Context)}
    {t : List LibraryEvent} (l : ServiceLife) (h : OpenSession n l.context session t) :
    OpenService n (some ⟨id, entry, l.context, session⟩) (l.opening n ++ t)

inductive OpenLibrary (n : Nat) : Option (AppId × Library (Traced σ)) →
    Option (ActiveService (Traced σ)) → List LibraryEvent → Prop where
  | outside : OpenLibrary n none none []
  | inside (x : AppId × Library (Traced σ)) {s : Option (ActiveService (Traced σ))}
    {t : List LibraryEvent} (path : String) (services : List ServiceLife) (h : OpenService n s t) :
    OpenLibrary n (some x) s ((LibraryLife.loaded path services).opening n ++ t)

variable {n : Nat} {t : List LibraryEvent} {s : ActiveService (Traced σ)}

theorem OpenService.create (h : OpenService (σ := σ) n none t) (id : ServiceId)
    (entry : EntryPoints (Traced σ)) (group name : CText) (c : Context) :
    OpenService n (some ⟨id, entry, c, none⟩) (t ++ [.created n group name c]) := by
  cases h
  exact .inside id entry ⟨group, name, c, []⟩ .outside

theorem OpenService.leave (h : OpenService n (some s) t) :
    OpenService n (some { s with session := none }) (t ++ s.leaving n) := by
  cases h with
  | inside id entry l h =>
    cases h with
    | outside => simpa [ActiveService.leaving] using OpenService.inside id entry l .outside
    | inside name x =>
      have hnew : OpenService n (some ⟨id, entry, l.context, none⟩) _ :=
        .inside id entry { l with sessions := l.sessions ++ [x] } .outside
      simpa [ServiceLife.opening, SessionLife.events, ActiveService.leaving] using hnew

theorem OpenService.enter (h : OpenService n (some s) t) (session : String) (name : CText)
    (c : Context) : OpenService n (some { s with session := some (session, c) })
      (t ++ (s.leaving n ++ [.entered n s.context name c])) := by
  rw [← List.append_assoc]
  -- the session from before is over first
  have hleft := h.leave
  generalize t ++ s.leaving n = t' at hleft
  obtain ⟨id, entry, context, old⟩ := s
  cases hleft with
  | inside _ _ l h =>
    cases h
    have hnew : OpenService n _ _ := .inside id entry l (.inside session ⟨name, c, []⟩)
    simpa [SessionLife.opening] using hnew

theorem OpenService.call (h : OpenService n (some s) t) {session : String} {c : Context}
    (hs : s.session = some (session, c)) (method : CText) (input : Data) :
    OpenService n (some s) (t ++ [.called n s.context c method input]) := by
  cases h with
  | inside id entry l h =>
    cases h with
    | outside => cases hs
    | inside name x =>
      cases hs
      have hcall : OpenSession n l.context (some (session, x.context)) _ :=
        .inside session { x with calls := x.calls ++ [(method, input)] }
      simpa [SessionLife.opening] using OpenService.inside _ entry l hcall

theorem OpenService.close (h : OpenService n (some s) t) :
    ∃ l : ServiceLife, t ++ s.closing n = l.events n := by
  have hleft := h.leave
  rw [ActiveService.closing, ← List.append_assoc]
  generalize t ++ s.leaving n = t' at hleft
  obtain ⟨id, entry, context, session⟩ := s
  cases hleft with
  | inside _ _ l h =>
    cases h
    exact ⟨l, by simp [ServiceLife.events]⟩

variable {w w' : Worker (Traced σ)}

/-- What goes on in a library is added to what is known of it. -/
theorem OpenLibrary.within {x : AppId × Library (Traced σ)} {s s' : Option (ActiveService (Traced σ))}
    {l : List LibraryEvent} (h : OpenLibrary n (some x) s t)
    (hs : ∀ t, OpenService n s t → OpenService n s' (t ++ l)) :
    OpenLibrary n (some x) s' (t ++ l) := by
  cases h with
  | inside _ path services h =>
    rw [List.append_assoc]
    exact .inside x path services (hs _ h)

theorem OpenLibrary.release {x : AppId × Library (Traced σ)}
    (h : OpenLibrary w.number (some x) w.service t) :
    OpenLibrary w.number (some x) none (t ++ w.closingService) := by
  generalize hs : w.service = s at h
  cases h with
  | inside _ path services h =>
    cases s with
    | none =>
      cases h
      simpa [Worker.closingService, hs] using OpenLibrary.inside x path services .outside
    | some s =>
      obtain ⟨l, hl⟩ := h.close
      have hnew : OpenLibrary w.number (some x) none _ := .inside x path (services ++ [l]) .outside
      simpa [Worker.closingService, hs, LibraryLife.opening, hl] using hnew

theorem OpenLibrary.close {x : AppId × Library (Traced σ)}
    (h : OpenLibrary w.number (some x) w.service t) :
    ∃ l : LibraryLife, t ++ (w.closingService ++ [.unloaded w.number]) = l.events w.number := by
  have hreleased := h.release
  rw [← List.append_assoc]
  generalize t ++ w.closingService = t' at hreleased
  cases hreleased with
  | inside _ path services h =>
    cases h
    exact ⟨.loaded path services, by rw [List.append_nil]; rfl⟩

/-- What happened so far: the lives that are over, and one that may go on. -/
structure Told (w : Worker (Traced σ)) (lives : List LibraryLife) (t : List LibraryEvent) : Prop where
  events : w.world.events = LibraryLife.chronicle 0 lives ++ t
  attempts : w.world.attempts = lives.length + if w.application.isSome then 1 else 0
  opened : OpenLibrary lives.length w.application w.service t

variable {lives : List LibraryLife} {load : Loader σ} {r : Traced σ}

theorem Told.number (h : Told w lives t) {x : AppId × Library (Traced σ)}
    (hx : w.application = some x) : w.number = lives.length := by
  have ha := h.attempts
  rw [hx] at ha
  simp only [Option.isSome_some, if_true] at ha
  rw [Worker.number, ha]
  omega

/-- After all that is open was closed, every life is over. -/
theorem Told.close (h : Told w lives t) (hr : w.world.Adds w.closing r) :
    ∃ lives, r.events = LibraryLife.chronicle 0 lives ∧ r.attempts = lives.length := by
  have ha := h.attempts
  have ho := h.opened
  cases hx : w.application with
  | none =>
    rw [hx] at ha ho
    have hs : w.service = none ∧ t = [] := by
      generalize w.service = s at ho
      cases ho
      exact ⟨rfl, rfl⟩
    have hc : w.closing = [] := by simp [Worker.closing, Worker.closingService, hx, hs.1]
    refine ⟨lives, ?_, hr.attempts.trans ha⟩
    rw [hr.events, h.events, hc, hs.2, List.append_nil, List.append_nil]
  | some x =>
    rw [hx, ← h.number hx] at ho
    obtain ⟨l, hl⟩ := ho.close
    have hc : w.closing = w.closingService ++ [.unloaded w.number] := by
      rw [Worker.closing, hx]
      rfl
    refine ⟨lives ++ [l], ?_, ?_⟩
    · rw [hr.events, h.events, hc, List.append_assoc, hl, LibraryLife.chronicle_append, Nat.zero_add,
        h.number hx]
    · rw [hr.attempts, ha, hx, List.length_append]
      rfl

/-- A library that stays loaded has more to tell. -/
theorem Told.extend (h : Told w lives t) {x : AppId × Library (Traced σ)}
    (hx : w.application = some x) {l : List LibraryEvent} {s : Option (ActiveService (Traced σ))}
    (hr : w.world.Adds l r)
    (ho : OpenLibrary w.number (some x) w.service t → OpenLibrary w.number (some x) s (t ++ l)) :
    Told { w with service := s, world := r } lives (t ++ l) where
  events := by rw [hr.events, h.events, List.append_assoc]
  attempts := hr.attempts.trans h.attempts
  opened := by
    have hopen := h.opened
    rw [hx, ← h.number hx] at hopen
    simp only [hx, ← h.number hx]
    exact ho hopen

theorem Told.move (h : Told w lives t) (hw : w.Sound load) (m : Worker.Move w w') :
    ∃ lives t, Told w' lives t := by
  cases m with
  | refused world path hr =>
    obtain ⟨lives, he, ha⟩ := h.close hr
    refine ⟨lives ++ [.refused path], [], ?_, ?_, .outside⟩
    · rw [LibraryLife.chronicle_append, ← he, List.append_nil]
      rfl
    · simp [Traced.attempt, ha]
  | loaded app l world path hr =>
    obtain ⟨lives, he, ha⟩ := h.close hr
    refine ⟨lives, _, ?_, ?_, .inside _ path [] .outside⟩
    · rw [← he, ← ha, List.append_nil]
      rfl
    · simp [Traced.attempt, ha]
  | released hx hr => exact ⟨lives, _, h.extend hx hr fun ho => ho.release⟩
  | created hx hr =>
    refine ⟨lives, _, h.extend hx hr fun ho => ?_⟩
    rw [← List.append_assoc]
    exact ho.release.within fun t ht => ht.create _ _ _ _ _
  | entered hs hr =>
    obtain ⟨x, hx, -⟩ := hw.service hs
    refine ⟨lives, _, h.extend hx hr fun ho => ?_⟩
    rw [hs] at ho
    exact ho.within fun t ht => ht.enter _ _ _
  | called hs hx hr =>
    obtain ⟨x, ha, -⟩ := hw.service hs
    refine ⟨lives, _, h.extend ha hr fun ho => ?_⟩
    rw [hs] at ho ⊢
    exact ho.within fun t ht => ht.call hx _ _

theorem told_startTraced (settings : Settings) (load : Loader σ) (world : σ) :
    Told (Worker.startTraced settings load world) [] [] :=
  ⟨rfl, rfl, .outside⟩

namespace Worker

/-- Whatever is asked of a worker, and whichever loads fail: libraries are loaded one at a time, each is
unloaded before the next attempt, and within each the lives of services, and within these those of
sessions, follow each other, with calls in sessions only and always to the service and session that live.
Once the worker stops, nothing is left open. -/
theorem boundary_bracketed (settings : Settings) (load : Loader σ) (world : σ)
    (operations : List Operation) :
    let w := ((startTraced settings load world).run operations).stop
    Mirrors ((start settings load world).run operations).stop w ∧
      (∃ lives, w.world.events = LibraryLife.chronicle 0 lives) ∧
      w.application.isNone ∧ w.service.isNone := by
  intro w
  have hmirrors := (mirrors_run settings load world operations).dropApplication
  obtain ⟨hs, lives, t, ht⟩ := (sound_startTraced settings load world).run
    (P := fun w => ∃ lives t, Told w lives t) (fun h ⟨_, _, ht⟩ m => ht.move h m)
    ⟨[], [], told_startTraced settings load world⟩ operations
  obtain ⟨r, hr, hw⟩ := dropApplication_adds hs
  obtain ⟨lives, he, -⟩ := ht.close hr
  have hstop : w = _ := hw
  refine ⟨hmirrors, ⟨lives, ?_⟩, ?_, ?_⟩
  · rw [hstop]
    exact he
  · rw [hstop]
    rfl
  · rw [hstop]
    rfl

end Worker
end TaskGrid
