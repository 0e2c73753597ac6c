import TaskGrid.Library.Recorder
import TaskGrid.Proofs.Worker.Crossing

/-! What an exported service makes is given up exactly once, wherever the service panics, and what it did not make
is never used, for as long as the process lasts. -/
namespace TaskGrid

variable {σ ω α β : Type}

namespace Service

structure MethodCall where
  method : String
  input : Octets
  outcome : Except Panic (Except String Octets)

inductive Stay where
  | refused (session : String) (panic : Panic)
  | ended (session : String) (number : Nat) (calls : List MethodCall) (outcome : Except Panic Unit)

inductive Life where
  | refused (group name : String) (panic : Panic)
  | ended (group name : String) (number : Nat) (stays : List Stay) (outcome : Except Panic Unit)

namespace Stay

def opening (service : Nat) (session : String) (number : Nat) (calls : List MethodCall) : List Event :=
  .entered service session (.ok number) ::
    calls.map fun c => .called service number c.method c.input c.outcome

def events (service : Nat) : Stay → List Event
  | .refused session panic => [.entered service session (.error panic)]
  | .ended session number calls outcome =>
    opening service session number calls ++ [.left service number outcome]

end Stay

namespace Life

def opening (group name : String) (number : Nat) (stays : List Stay) : List Event :=
  .created group name (.ok number) :: stays.flatMap (Stay.events number)

def events : Life → List Event
  | .refused group name panic => [.created group name (.error panic)]
  | .ended group name number stays outcome =>
    opening group name number stays ++ [.released number outcome]

end Life

namespace Event

def created? : Event → Option Nat
  | .created _ _ (.ok n) => some n
  | _ => none

def released? : Event → Option Nat
  | .released n _ => some n
  | _ => none

def entered? : Event → Option Nat
  | .entered _ _ (.ok n) => some n
  | _ => none

def left? : Event → Option Nat
  | .left _ n _ => some n
  | _ => none

end Event

namespace Stay
variable {γ : Type} {f : Event → Option γ}

theorem filterMap_opening
    (hf : ∀ service session method input outcome, f (.called service session method input outcome) = none)
    (service : Nat) (session : String) (number : Nat) (calls : List MethodCall) :
    (opening service session number calls).filterMap f =
      (f (.entered service session (.ok number))).toList := by
  have hcalls : (calls.map fun c => Event.called service number c.method c.input c.outcome).filterMap f =
      [] := by
    rw [List.filterMap_map, List.filterMap_eq_nil_iff]
    exact fun c _ => hf service number c.method c.input c.outcome
  rw [opening, List.filterMap_cons, hcalls]
  cases f (.entered service session (.ok number)) <;> rfl

variable (service : Nat) (x : Stay)

/-- What does not look at sessions sees nothing of a stay. -/
theorem filterMap_eq_nil (hentered : ∀ service session made, f (.entered service session made) = none)
    (hcalled : ∀ service session method input outcome,
      f (.called service session method input outcome) = none)
    (hleft : ∀ service session outcome, f (.left service session outcome) = none) :
    (x.events service).filterMap f = [] := by
  cases x with
  | refused session panic => simp [events, hentered]
  | ended session number calls outcome =>
    rw [events, List.filterMap_append, filterMap_opening hcalled, hentered]
    simp [hleft]

theorem filterMap_created : (x.events service).filterMap Event.created? = [] :=
  x.filterMap_eq_nil service (fun _ _ _ => rfl) (fun _ _ _ _ _ => rfl) (fun _ _ _ => rfl)

theorem filterMap_left :
    (x.events service).filterMap Event.left? = (x.events service).filterMap Event.entered? := by
  cases x with
  | refused session panic => rfl
  | ended session number calls outcome =>
    rw [events, List.filterMap_append, List.filterMap_append, filterMap_opening fun _ _ _ _ _ => rfl,
      filterMap_opening fun _ _ _ _ _ => rfl]
    rfl

end Stay

namespace Life

theorem filterMap_opening {γ : Type} {f : Event → Option γ}
    (hf : ∀ service (x : Stay), (x.events service).filterMap f = []) (group name : String)
    (number : Nat) (stays : List Stay) : (opening group name number stays).filterMap f =
      (f (.created group name (.ok number))).toList := by
  have hstays : (stays.flatMap (Stay.events number)).filterMap f = [] := by
    rw [List.filterMap_flatMap, List.flatMap_eq_nil_iff]
    exact fun x _ => hf number x
  rw [opening, List.filterMap_cons, hstays]
  cases f (.created group name (.ok number)) <;> rfl

variable (l : Life)

/-- The service that was created is released. -/
theorem filterMap_released :
    l.events.filterMap Event.released? = l.events.filterMap Event.created? := by
  cases l with
  | refused group name panic => rfl
  | ended group name number stays outcome =>
    have hreleased (k : Nat) (x : Stay) : (x.events k).filterMap Event.released? = [] :=
      x.filterMap_eq_nil k (fun _ _ _ => rfl) (fun _ _ _ _ _ => rfl) (fun _ _ _ => rfl)
    rw [events, List.filterMap_append, List.filterMap_append, filterMap_opening hreleased,
      filterMap_opening Stay.filterMap_created]
    rfl

theorem nodup_created : (l.events.filterMap Event.created?).Nodup := by
  cases l with
  | refused group name panic => exact List.nodup_nil
  | ended group name number stays outcome =>
    rw [events, List.filterMap_append, filterMap_opening Stay.filterMap_created]
    exact List.nodup_cons.mpr ⟨List.not_mem_nil, List.nodup_nil⟩

/-- The sessions that were entered are left, in the same order. -/
theorem filterMap_left : l.events.filterMap Event.left? = l.events.filterMap Event.entered? := by
  cases l with
  | refused group name panic => rfl
  | ended group name number stays outcome =>
    simp [events, opening, List.filterMap_cons, List.filterMap_flatMap, Stay.filterMap_left, Event.left?,
      Event.entered?]

end Life

/-- The session that a service is in, if it is in one: it is in memory under the number of its entry, and there is
nothing behind the null address. -/
inductive OpenStay (service : Nat) (sessions : Table Nat (Nat × β)) :
    Option (String × Context) → List Event → Prop where
  | outside : OpenStay service sessions none []
  | refused (session : String) : OpenStay service sessions (some (session, none)) []
  | inside {x number : Nat} {state : β} (session : String) (calls : List MethodCall)
    (hx : sessions.get? x = some (number, state)) :
    OpenStay service sessions (some (session, some x)) (Stay.opening service session number calls)

/-- A service that may go on. -/
inductive OpenLife (group name : String) (m : Memory (Nat × α) (Nat × β)) :
    Context → Option (String × Context) → List Event → Prop where
  | refused {session : Option (String × Context)} (panic : Panic) (hs : ∀ x ∈ session, x.2 = none) :
    OpenLife group name m none session [.created group name (.error panic)]
  | created {c number : Nat} {held : α} {session : Option (String × Context)} {t : List Event}
    (stays : List Stay) (hc : m.services.get? c = some (number, held))
    (h : OpenStay number m.sessions session t) :
    OpenLife group name m (some c) session (Life.opening group name number stays ++ t)

/-- The sessions that were entered have numbers of their own. -/
structure Numbered (start : Nat) (t : List Event) : Prop where
  distinct : (t.filterMap Event.entered?).Nodup
  below : ∀ n ∈ t.filterMap Event.entered?, n < start + t.length

theorem numbered_nil (start : Nat) : Numbered start [] := ⟨List.nodup_nil, nofun⟩

section
variable {start : Nat} {t : List Event} {e : Event}

theorem Numbered.log (h : Numbered start t) (he : e.entered? = none) : Numbered start (t ++ [e]) := by
  have hsame : (t ++ [e]).filterMap Event.entered? = t.filterMap Event.entered? := by
    simp [List.filterMap_append, he]
  constructor
  · rw [hsame]
    exact h.distinct
  · rw [hsame]
    intro n hmem
    have hbelow := h.below n hmem
    simp only [List.length_append, List.length_singleton]
    omega

/-- The number of events so far is a new number. -/
theorem Numbered.enter (h : Numbered start t) (he : e.entered? = some (start + t.length)) :
    Numbered start (t ++ [e]) := by
  have hnew : (t ++ [e]).filterMap Event.entered? =
      t.filterMap Event.entered? ++ [start + t.length] := by
    simp [List.filterMap_append, he]
  constructor
  · rw [hnew, List.nodup_append]
    refine ⟨h.distinct, List.nodup_cons.mpr ⟨List.not_mem_nil, List.nodup_nil⟩, ?_⟩
    intro a ha b hb
    have hbelow := h.below a ha
    cases List.mem_singleton.mp hb
    omega
  · rw [hnew]
    intro a ha
    simp only [List.length_append, List.length_singleton]
    rcases List.mem_append.mp ha with ha | ha
    · have hbelow := h.below a ha
      omega
    · cases List.mem_singleton.mp ha
      omega

end

section
variable {m : Memory (Nat × α) (Nat × β)} {group name session : String} {c x number visit : Nat}
  {held : α} {state : β}

/-- A session that was not entered is over at once. -/
theorem OpenLife.refuse (stays : List Stay) (hc : m.services.get? c = some (number, held))
    (session : String) (panic : Panic) : OpenLife group name m (some c) (some (session, none))
      (Life.opening group name number stays ++ [.entered number session (.error panic)]) := by
  have hnew : OpenLife group name m (some c) (some (session, none)) _ :=
    .created (stays ++ [.refused session panic]) hc (.refused session)
  simpa [Life.opening, Stay.events] using hnew

theorem OpenLife.call (stays : List Stay) (calls : List MethodCall)
    (hc : m.services.get? c = some (number, held)) (hx : m.sessions.get? x = some (visit, state))
    (call : MethodCall) : OpenLife group name m (some c) (some (session, some x))
      ((Life.opening group name number stays ++ Stay.opening number session visit calls) ++
        [.called number visit call.method call.input call.outcome]) := by
  have hnew : OpenLife group name m (some c) (some (session, some x)) _ :=
    .created stays hc (.inside session (calls ++ [call]) hx)
  simpa [Stay.opening] using hnew

theorem OpenLife.leave (stays : List Stay) (calls : List MethodCall)
    (hc : m.services.get? c = some (number, held)) (outcome : Except Panic Unit) :
    OpenLife group name m (some c) none
      ((Life.opening group name number stays ++ Stay.opening number session visit calls) ++
        [.left number visit outcome]) := by
  have hnew : OpenLife group name m (some c) none _ :=
    .created (stays ++ [.ended session visit calls outcome]) hc .outside
  simpa [Life.opening, Stay.events] using hnew

end

/-- What happened to a service so far, after the events that were before it. -/
def Chronicled (before : List Event) (group name : String) (service : Context)
    (session : Option (String × Context)) (p : Memory (Nat × α) (Nat × β) × Watched ω) : Prop :=
  ∃ t, p.2.events = before ++ t ∧ Numbered before.length t ∧ OpenLife group name p.1 service session t

variable (s : Service ω α β) {before : List Event} {group name : String} {service : Context}
  {p : Memory (Nat × α) (Nat × β) × Watched ω}

theorem chronicled_log {m : Memory (Nat × α) (Nat × β)} {session : Option (String × Context)}
    {w : Watched ω} {t : List Event} {e : Event} (ht : w.events = before ++ t)
    (hnumbered : Numbered before.length (t ++ [e]))
    (hopen : OpenLife group name m service session (t ++ [e])) (world : ω) :
    Chronicled before group name service session (m, w.log world e) := by
  refine ⟨t ++ [e], ?_, hnumbered, hopen⟩
  rw [Watched.log, ht, List.append_assoc]

theorem chronicled_createAt (group name : String) (p : Memory (Nat × α) (Nat × β) × Watched ω) :
    let r := s.watched.createAt (CText.over group) (CText.over name) p
    Chronicled p.2.events group name r.1 none r.2 := by
  obtain ⟨m, w⟩ := p
  have ht : w.events = w.events ++ [] := (List.append_nil _).symm
  rcases hr : s.create group name w.world with ⟨panic | held, world⟩ <;>
    simp only [createAt, CText.read_over, watched, hr, Except.map]
  · exact chronicled_log ht ((numbered_nil _).log rfl) (.refused panic (by simp)) world
  · apply chronicled_log ht ((numbered_nil _).log rfl)
    exact .created [] (Table.get?_insert_self ..) .outside

theorem Chronicled.enterAt (h : Chronicled before group name service none p) (session : String) :
    let r := s.watched.enterAt service (CText.over session) p
    Chronicled before group name service (some (session, r.1)) r.2 := by
  obtain ⟨m, w⟩ := p
  obtain ⟨t, ht, hnumbered, hopen⟩ := h
  simp only at ht hopen
  cases hopen with
  | refused panic hs =>
    refine ⟨_, ht, hnumbered, .refused panic ?_⟩
    rintro x ⟨⟩
    rfl
  | @created c number held _ t stays hc hstay =>
    cases hstay
    rw [List.append_nil] at ht hnumbered
    have hlength : w.events.length = before.length + (Life.opening group name number stays).length := by
      rw [ht, List.length_append]
    rcases hr : s.enter held session w.world with ⟨panic | state, kept, world⟩ <;>
      simp only [Service.enterAt, Memory.service?_of_get? hc, CText.read_over, watched, hr, Except.map]
    · apply chronicled_log ht (hnumbered.log rfl)
      exact .refuse stays (Table.get?_insert_self ..) session panic
    · apply chronicled_log ht
      · apply hnumbered.enter
        rw [hlength]
        rfl
      · exact .created stays (Table.get?_insert_self ..) (.inside session [] (Table.get?_insert_self ..))

theorem Chronicled.callAt {session : String} {x : Context}
    (h : Chronicled before group name service (some (session, x)) p) (method : CText) (input : Data) :
    Chronicled before group name service (some (session, x))
      (s.watched.callAt service x method input true p).2 := by
  obtain ⟨m, w⟩ := p
  obtain ⟨t, ht, hnumbered, hopen⟩ := h
  simp only at ht hopen
  cases hopen with
  | refused panic hs =>
    cases hs _ rfl
    rw [callAt_of_null]
    exact ⟨_, ht, hnumbered, .refused panic hs⟩
  | @created c number held _ t stays hc hstay =>
    cases hstay with
    | refused =>
      rw [callAt_of_null]
      exact ⟨_, ht, hnumbered, .created stays hc (.refused session)⟩
    | @inside x visit state _ calls hx =>
      rcases hr : s.call held state method.read input.read w.world with ⟨outcome, kept, state', world⟩
      rw [callAt_of_get? hc hx]
      simp only [watched, hr]
      apply chronicled_log ht (hnumbered.log rfl)
      exact .call stays calls (Table.get?_insert_self ..) (Table.get?_insert_self ..)
        ⟨method.read, input.read, outcome⟩

theorem Chronicled.leaveAt {session : String} {x : Context}
    (h : Chronicled before group name service (some (session, x)) p) :
    Chronicled before group name service none (s.watched.leaveAt service x p) := by
  obtain ⟨m, w⟩ := p
  obtain ⟨t, ht, hnumbered, hopen⟩ := h
  simp only at ht hopen
  cases hopen with
  | refused panic hs => exact ⟨_, ht, hnumbered, .refused panic (by simp)⟩
  | @created c number held _ t stays hc hstay =>
    cases hstay with
    | refused =>
      have hsame : s.watched.leaveAt (some c) none (m, w) = (m, w) := by
        simp only [Service.leaveAt, Memory.service?_of_get? hc]
        rfl
      rw [hsame]
      exact ⟨_, ht, hnumbered, .created stays hc .outside⟩
    | @inside x visit state _ calls hx =>
      rcases hr : s.leave held state w.world with ⟨outcome, kept, world⟩
      simp only [Service.leaveAt, Memory.service?_of_get? hc, Memory.session?_of_get? hx, watched, hr]
      apply chronicled_log ht (hnumbered.log rfl)
      exact .leave stays calls (Table.get?_insert_self ..) outcome

theorem Chronicled.destroyAt (h : Chronicled before group name service none p) :
    ∃ life : Life, (s.watched.destroyAt service p).2.events = before ++ life.events ∧
      Numbered before.length life.events := by
  obtain ⟨m, w⟩ := p
  obtain ⟨t, ht, hnumbered, hopen⟩ := h
  simp only at ht hopen
  cases hopen with
  | refused panic hs => exact ⟨.refused group name panic, ht, hnumbered⟩
  | @created c number held _ t stays hc hstay =>
    cases hstay
    rw [List.append_nil] at ht hnumbered
    rcases hr : s.release held w.world with ⟨outcome, world⟩
    refine ⟨.ended group name number stays outcome, ?_, ?_⟩
    · simp only [Service.destroyAt, Memory.service?_of_get? hc, watched, hr, Watched.log, ht, Life.events,
        List.append_assoc]
    · exact hnumbered.log rfl

/-- The address of the service is null or holds the service. -/
theorem Chronicled.touch_service {session : Option (String × Context)}
    (h : Chronicled before group name service session p) :
    p.2.touch p.1.services service = p.2 := by
  obtain ⟨t, -, -, hopen⟩ := h
  cases hopen with
  | refused panic hs => rfl
  | created stays hc hstay => exact Watched.touch_of_get? hc p.2

theorem Chronicled.touch_session {session : String} {x : Context}
    (h : Chronicled before group name service (some (session, x)) p) :
    p.2.touch p.1.sessions x = p.2 := by
  obtain ⟨t, -, -, hopen⟩ := h
  cases hopen with
  | refused panic hs =>
    cases hs _ rfl
    rfl
  | created stays hc hstay =>
    cases hstay with
    | refused => rfl
    | inside _ calls hx => exact Watched.touch_of_get? hx p.2

theorem Chronicled.audited_call {session : String} {x : Context}
    (h : Chronicled before group name service (some (session, x)) p) (method : CText) (input : Data) :
    s.audited.call service x method input true p = s.watched.callAt service x method input true p := by
  simp only [audited, h.touch_service, h.touch_session]

theorem Chronicled.audited_destroy (h : Chronicled before group name service none p) :
    s.audited.destroyService service p = s.watched.destroyAt service p := by
  simp only [audited, h.touch_service]

theorem keeps_chronicled (before : List Event) (group name : String) :
    s.audited.Keeps (Chronicled (ω := ω) (α := α) (β := β) before group name) where
  enter session h := by
    simp only [audited, h.touch_service]
    exact h.enterAt s session
  call method input h := by
    rw [h.audited_call]
    exact h.callAt s method input
  leave h := by
    simp only [audited, h.touch_service, h.touch_session]
    exact h.leaveAt s

end Service

/-- The callback was used once, with the status of the call: zero with an output, and else with the text of an error. -/
structure CallReply.Says (r : CallReply) (answer : Except String Octets) : Prop where
  once : ∃ report, r.reports = [report] ∧ report.addressed = true ∧ report.status = r.status ∧
    report.data.read = match answer with
      | .ok output => output
      | .error message => Utf8.encode message
  status : CallStatus.isOk r.status = answer.isOk

namespace Service

theorem says_reply (answer : Except String Octets) : (reply answer).Says answer := by
  cases answer with
  | ok output => exact ⟨⟨_, rfl, rfl, rfl, Data.read_ofOctets output⟩, rfl⟩
  | error message => exact ⟨⟨_, rfl, rfl, rfl, Data.read_ofOctets _⟩, rfl⟩

variable (s : Service ω α β) {before : List Event} {group name : String}
  {p : Memory (Nat × α) (Nat × β) × Watched ω}

/-- With a service and a session, one method is called. -/
theorem Chronicled.called {c x : Nat} {session : String}
    (h : Chronicled before group name (some c) (some (session, some x)) p) :
    ∃ number visit held state, p.1.services.get? c = some (number, held) ∧
      p.1.sessions.get? x = some (visit, state) ∧ ∀ method input,
        let r := s.watched.call (number, held) (visit, state) method.read input.read p.2
        s.audited.call (some c) (some x) method input true p =
          (reply (settle method.read r.1),
            { p.1 with
              services := p.1.services.insert c r.2.1
              sessions := p.1.sessions.insert x r.2.2.1 }, r.2.2.2) := by
  obtain ⟨m, w⟩ := p
  obtain ⟨t, ht, hnumbered, hopen⟩ := id h
  cases hopen with
  | @created c number held _ t stays hc hstay =>
    cases hstay with
    | @inside x visit state _ calls hx =>
      refine ⟨number, visit, held, state, hc, hx, ?_⟩
      intro method input
      rw [h.audited_call, callAt_of_get? hc hx]

open WildService (fate telling ending) in
/-- In a world that did not end: the one report says what can be told of the method, or else nothing is reported and
the world ends. -/
theorem Chronicled.answered (s : WildService ω α β) {p : Memory (Nat × α) (Nat × β) × Watched (Except Panic ω)}
    {w : ω} {c x : Nat} {session : String} (h : Chronicled before group name (some c) (some (session, some x)) p)
    (hw : p.2.world = .ok w) (method : CText) (input : Data) : ∃ number visit held state,
      p.1.forget.services.get? c = some held ∧ p.1.forget.sessions.get? x = some state ∧
      let sent := s.call held state method.read input.read w
      let r := s.unwinding.call (some c) (some x) method input true (p.1.forget, w)
      let p' := (s.mortal.audited.call (some c) (some x) method input true p).2
      match (telling sent.1 sent.2.2.2).1 with
      | .ok outcome => ∃ reply, r.1 = .ok reply ∧ reply.Says (settle method.read outcome) ∧
          fate (Watched.forget p') = .ok r.2 ∧
          p'.2.events = p.2.events ++ [.called number visit method.read input.read outcome]
      | .error panic => r.1 = .error panic ∧ fate (Watched.forget p') = .error panic := by
  obtain ⟨number, visit, held, state, hheld, hstate, hcall⟩ := h.called s.mortal
  have hc : p.1.forget.services.get? c = some held := by simp [Memory.forget, hheld]
  have hx : p.1.forget.sessions.get? x = some state := by simp [Memory.forget, hstate]
  refine ⟨number, visit, held, state, hc, hx, ?_⟩
  intro sent r p'
  have hr : r = ((telling sent.1 sent.2.2.2).1.map fun outcome => reply (settle method.read outcome), _,
      (telling sent.1 sent.2.2.2).2) :=
    WildService.unwinding_call_of_service? (Memory.service?_of_get? hc) (Memory.session?_of_get? hx) method
      input w
  have hend : (r.1.map fun _ => r.2) = fate (Watched.forget p') := by
    have hup : .ok (p.1.forget, w) = fate (Watched.forget p) := by simp [fate, Watched.forget, hw, Except.map]
    rw [← Unwinding.fatal_snd _ ⟨[], 1⟩, hup]
    exact (s.mortal.audited_follows.trans s.mortal_follows).call (some c) (some x) method input true p
  have hevents : p'.2.events = p.2.events ++
      [.called number visit method.read input.read (ending (telling sent.1) sent.2.2.2).1] := by
    simp only [p', hcall, watched, Watched.log, hw]
    rfl
  rcases htold : telling sent.1 sent.2.2.2 with ⟨panic | outcome, w'⟩
  · rw [htold] at hr
    rw [hr] at hend ⊢
    exact ⟨rfl, hend.symm⟩
  · rw [htold] at hr
    rw [hr] at hend ⊢
    refine ⟨_, rfl, says_reply _, hend.symm, ?_⟩
    rw [hevents, ending, htold]

end Service

/-- A service whose methods fail with an error that panics when its text is written, and panic with what panics when
it is dropped. -/
def Library.wordless : WildService Unit Unit String where
  create _ _ w := (.ok (), w)
  enter _ session w := (.ok session, (), w)
  leave _ _ w := (.ok (), (), w)
  call _ session method input w :=
    let outcome := match method with
      | "Fail" => .ok (.error ⟨fun w => (.error (.text "no words"), w)⟩)
      | "Panic" => .error ⟨.text "service bug", fun w => (.error .other, w)⟩
      | _ => .ok (.ok input)
    (outcome, (), session, w)
  release _ w := (.ok (), w)

namespace ActiveService
open Service (Watched Life Event settle)
open WildService (fate telling)
open Unwinding (panic?)

/-- Whatever a service does, and whatever is asked of it: no panic gets past the boundary but those of dropping what
was thrown and of writing an error, with which the process ends, and there are none of a tame service. A call without
a service or a session says so and calls no method. With both, one method is called, and the callback is used once, to
say what came of it, unless that cannot be told: then it is not used. If the process does not end, what is created is
released, what is entered is left, each once, with nothing in between but calls to what is there. That is told by a
service that writes down what happens to its values, in a world that ends with the process. -/
theorem contract_honoured_unless_crossed (s : WildService ω α β) {id : ServiceId}
    (hid : id.nulPosition? = none) (operations : List Operation)
    (p : Memory (Nat × α) (Nat × β) × Watched (Except Panic ω)) :
    let real := s.unwinding.fatal
    let e := s.mortal.audited
    let seen := fun q => fate (Watched.forget q)
    lifetime real id operations (seen p) = seen (lifetime e id operations p) ∧
    (s.Tame → (seen p).isOk → (lifetime real id operations (seen p)).isOk) ∧
    (∀ service session method input q, service = none ∨ session = none →
      ∃ reply message, s.unwinding.call service session method input true q = (.ok reply, q) ∧
        reply.Says (.error message)) ∧
    (∃ a q, employ e id operations p = (.ok a, q) ∧
      employ real id operations (seen p) = (.ok (a.within real), seen q) ∧
      ∀ c x session method input m w, a.context = some c → a.session = some (session, some x) →
        seen q = .ok (m, w) → ∃ number visit held state,
          m.services.get? c = some held ∧ m.sessions.get? x = some state ∧
          let sent := s.call held state method.read input.read w
          let r := s.unwinding.call (some c) (some x) method input true (m, w)
          let q' := (e.call (some c) (some x) method input true q).2
          match (telling sent.1 sent.2.2.2).1 with
          | .ok outcome => ∃ reply, r.1 = .ok reply ∧ reply.Says (settle method.read outcome) ∧
              seen q' = .ok r.2 ∧
              q'.2.events = q.2.events ++ [.called number visit method.read input.read outcome]
          | .error panic => r.1 = .error panic ∧ seen q' = .error panic) ∧
    ((lifetime real id operations (seen p)).isOk →
      ∃ life : Life, (lifetime e id operations p).2.events = p.2.events ++ life.events ∧
        life.events.filterMap Event.released? = life.events.filterMap Event.created? ∧
        (life.events.filterMap Event.created?).Nodup ∧
        life.events.filterMap Event.left? = life.events.filterMap Event.entered? ∧
        (life.events.filterMap Event.entered?).Nodup) := by
  intro real e seen
  have hfollows : e.Follows seen real := s.mortal.audited_follows.trans s.mortal_follows
  have hlifetime : lifetime real id operations (seen p) = seen (lifetime e id operations p) :=
    lifetime_within hfollows id operations p
  have hkeeps := s.mortal.keeps_chronicled p.2.events id.group id.name
  obtain ⟨a, q, hemploy, hq, q', hleft, hend⟩ := keeps_employ hkeeps hid operations
    (s.mortal.chronicled_createAt id.group id.name p)
  refine ⟨hlifetime, ?_, ?_, ⟨a, q, hemploy, ?_, ?_⟩, ?_⟩
  · intro htame hp
    have hworld := lifetime_preserves htame.mortal_preserves hid operations (p := Watched.forget p)
    rw [lifetime_within s.mortal_follows]
    rw [WildService.isOk_fate] at hp ⊢
    exact hworld hp
  · intro service session method input q hmissing
    refine ⟨_, _, WildService.unwinding_call_of_missing ?_ method input q.2, Service.says_reply _⟩
    rcases hmissing with rfl | rfl
    · exact .inl rfl
    · exact .inr rfl
  · rw [employ_within hfollows, hemploy]
    rfl
  · intro c x session method input m w hc hx hup
    rw [hc, hx] at hq
    obtain ⟨m', world, events⟩ := q
    cases world with
    | error panic => cases hup
    | ok w' =>
      cases hup
      exact hq.answered s rfl method input
  · intro _
    obtain ⟨life, hlife, hnumbered⟩ := hleft.destroyAt s.mortal
    refine ⟨life, ?_, life.filterMap_released, life.nodup_created, life.filterMap_left,
      hnumbered.distinct⟩
    rw [hend, hleft.audited_destroy]
    exact hlife

/-- A service without words that is asked for what it can tell. -/
theorem contract_honoured_unless_crossed_wordless :
    let id : ServiceId := ⟨⟨"app", ""⟩, "group", "name"⟩
    let host : TaskHost Unit := ⟨["r1"], fun _ _ u => (.sent, u)⟩
    let operations := [.enter "s1", .call host "Echo" [1] (), Operation.enter "s2"]
    let p : Memory (Nat × Unit) (Nat × String) × Watched (Except Panic Unit) := ({}, { world := .ok () })
    id.nulPosition? = none ∧
      ∃ life : Life, (lifetime Library.wordless.mortal.audited id operations p).2.events = life.events ∧
        life.events.filterMap Event.released? = [0] ∧ life.events.filterMap Event.left? = [1, 4] := by
  intro id host operations p
  have hid : id.nulPosition? = none := by decide +kernel
  obtain ⟨-, -, -, -, hlife⟩ := contract_honoured_unless_crossed Library.wordless hid operations p
  obtain ⟨life, hlife, hreleased, -, hleft, -⟩ := hlife (by decide +kernel)
  have hevents : life.events = (lifetime Library.wordless.mortal.audited id operations p).2.events := by
    rw [hlife]
    rfl
  refine ⟨hid, life, hevents.symm, ?_, ?_⟩
  · rw [hreleased, hevents]
    decide +kernel
  · rw [hleft, hevents]
    decide +kernel

/-- The end of a process in which a method failed, before anything was reported. -/
theorem panic_crosses_wordless :
    let id : ServiceId := ⟨⟨"app", ""⟩, "group", "name"⟩
    let host : TaskHost Unit := ⟨["r1"], fun _ _ u => (.sent, u)⟩
    let real := Library.wordless.unwinding.fatal
    let entered := employ real id [.enter "s1"] (.ok ({}, ()))
    (entered.1.toOption.map fun a => (a.context, a.session)) = some (some 1, some ("s1", some 2)) ∧
    (entered.2.toOption.map fun p => panic? (Library.wordless.unwinding.call (some 1) (some 2)
      (CText.over "Fail") (.ofOctets [1]) true p).1) = some (some (.text "no words")) ∧
    panic? (lifetime real id [.enter "s1", .call host "Fail" [1] ()] (.ok ({}, ()))) =
      some (.text "no words") ∧
    panic? (lifetime real id [.enter "s1", .call host "Panic" [1] ()] (.ok ({}, ()))) = some .other := by
  intro id host real entered
  refine ⟨by decide +kernel, by decide +kernel, by decide +kernel, by decide +kernel⟩

end ActiveService
end TaskGrid
