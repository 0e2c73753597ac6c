import TaskGrid.Proofs.Worker.Export
import TaskGrid.Proofs.Worker.Transition

/-! What a client puts into a payload is what an exported service is called with, and what the service answers
is what the host is told. -/
namespace TaskGrid

variable {σ τ ω α β : Type}

namespace Hearing

variable {host : TaskHost τ} {u : τ}

/-- An output goes to the first result that is expected. -/
theorem hearAll_output {first : String} {others : List String} (hexpected : host.expected = first :: others)
    {output : Octets} (hsent : (host.send first output u).1 = .sent) :
    hearAll host (Service.reply (.ok output)).reports u =
      ⟨(host.send first output u).2, some .ok, none⟩ := by
  have hok : CallStatus.isOk 0 = true := rfl
  simp only [hearAll, Service.reply, List.foldl_cons, List.foldl_nil, hear, if_true, hok, send,
    hexpected, Data.read_ofOctets]
  generalize host.send first output u = r at hsent
  obtain ⟨_, v⟩ := r
  cases hsent
  rfl

theorem hearAll_error (host : TaskHost τ) (message : String) (u : τ) :
    hearAll host (Service.reply (.error message)).reports u = ⟨u, some (.error message), none⟩ := by
  have hnot : CallStatus.isOk 1 = false := rfl
  simp only [hearAll, Service.reply, List.foldl_cons, List.foldl_nil, hear, if_true, hnot,
    Data.read_ofOctets, Utf8.decodeLossy_encode]
  rfl

/-- What a host that accepts results is told of a reply. -/
theorem hearAll_reply {first : String} {others : List String} (hexpected : host.expected = first :: others)
    (haccepts : ∀ result data v, (host.send result data v).1 = .sent) (answer : Except String Octets) :
    let hearing := hearAll host (Service.reply answer).reports u
    match answer with
    | .ok output => hearing.verdict (Service.reply answer).status = .ok .ok ∧
        hearing.host = (host.send first output u).2
    | .error message => hearing.verdict (Service.reply answer).status = .ok (.error message) ∧
        hearing.host = u := by
  cases answer with
  | ok output =>
    simp only [hearAll_output hexpected (haccepts first output u)]
    exact ⟨rfl, trivial⟩
  | error message =>
    simp only [hearAll_error]
    exact ⟨rfl, trivial⟩

end Hearing

/-- One call of a method: of the service at the first address in the session at the second, with this outcome
and these states before and after it. -/
def Export.Calls (e : Export σ ω α β) (c x : Nat) (method : String) (input : Octets) (w : σ)
    (outcome : Except Panic (Except String Octets)) (w' : σ) : Prop :=
  ∃ held state held' state' v, (e.get w).1.services.get? c = some held ∧
    (e.get w).1.sessions.get? x = some state ∧
    e.service.call held state method input (e.get w).2 = (outcome, held', state', v) ∧
    w' = e.set w ({ (e.get w).1 with
      services := (e.get w).1.services.insert c held'
      sessions := (e.get w).1.sessions.insert x state' }, v)

theorem Export.call_of_get? (e : Export σ ω α β) {w : σ} {c x : Nat} {held : α} {state : β}
    (hc : (e.get w).1.services.get? c = some held) (hx : (e.get w).1.sessions.get? x = some state)
    (method : String) (input : Octets) :
    ∃ outcome w', e.Calls c x method input w outcome w' ∧
      e.entry.call (some c) (some x) (CText.over method) (.ofOctets input) true w =
        (Service.reply (Service.settle method outcome), w') := by
  refine ⟨_, _, ⟨held, state, _, _, _, hc, hx, rfl, rfl⟩, ?_⟩
  have hcall := Service.callAt_of_get? (s := e.service) hc hx (CText.over method) (.ofOctets input)
    (e.get w).2
  rw [CText.read_over, Data.read_ofOctets] at hcall
  rw [e.call_entry, hcall]

def Act.call? : Act → Option (CText × Data)
  | .call method input => some (method, input)
  | _ => none

namespace Worker

/-- The worker is in a session of an exported service, and neither was refused. -/
def Entered (w : Worker σ) (e : Export σ ω α β) (c x : Nat) : Prop :=
  ∃ s session, w.service = some s ∧ s.entry = e.entry ∧ s.context = some c ∧
    s.session = some (session, some x)

section
variable {load : Loader σ} {base : String} {w : Worker σ} {e : Export σ ω α β} {c x : Nat}

theorem Tenured.call_of_entered (h : w.Tenured load base) (hentered : w.Entered e c x)
    {method : String} (hmethod : CText.nulPosition? method = none) (host : TaskHost τ)
    (arguments : Octets) (u : τ) :
    ∃ outcome, let reply := Service.reply (Service.settle method outcome)
      let hearing := Hearing.hearAll host reply.reports u
      let r := w.call host method arguments u
      e.Calls c x method arguments w.world outcome r.2.2.world ∧
        r.1 = hearing.verdict reply.status ∧ r.2.1 = hearing.host := by
  obtain ⟨s, session, hs, hentry, hc, hx⟩ := hentered
  obtain ⟨_, -, -, htenured⟩ := h.service hs
  rw [ActiveService.Tenured, hentry, hc, hx] at htenured
  have hcall := ActiveService.call_of_session hx hmethod host arguments u w.world
  rw [hentry, hc] at hcall
  -- neither address is stale: nothing but this service was used since its creation
  cases htenured.live with
  | opened hheld hstate _ =>
    obtain ⟨outcome, w', hcalls, hreply⟩ := e.call_of_get? hheld hstate method arguments
    rw [hreply] at hcall
    refine ⟨outcome, ?_⟩
    unfold Worker.call
    rw [hs]
    simp only
    rw [hcall]
    exact ⟨hcalls, rfl, rfl⟩

end

section
variable {w : Worker (Traced σ)} {q : Request} {refusal : Option WorkerError} {u : τ}

def calls (w : Worker (Traced σ)) : List (CText × Data) := w.acts.filterMap Act.call?

theorem filterMap_teardown (w : Worker (Traced σ)) (k : Nat) :
    (w.teardown k).filterMap Act.call? = [] := by
  unfold teardown
  cases w.session? <;> cases w.service? <;> cases w.application? <;> split_ifs <;> rfl

theorem filterMap_steps (q : Request) (path : String) {k : Nat} (hk : k ≤ 3) :
    ((q.steps path).drop k).filterMap Act.call? = [(CText.over q.method, .ofOctets q.arguments)] := by
  match k, hk with
  | 0, _ | 1, _ | 2, _ | 3, _ => rfl

theorem kept_le (w : Worker (Traced σ)) (q : Request) : w.kept q ≤ 3 := by
  unfold kept
  split_ifs <;> omega

/-- What has an answer failed at no step. -/
theorem Outcome.acts_of_ok {k : Nat} {r : Except WorkerError ProcessStatus × τ × Worker (Traced σ)}
    (h : Outcome k w q refusal u r) {status : ProcessStatus} (hok : r.1 = .ok status) :
    r.2.2.acts = w.acts ++ w.teardown k ++ (q.steps (w.libraryPath q.app)).drop k := by
  have hnone (i : Nat) (hi : k ≤ i) : q.fault? refusal i = none := by
    induction i using Nat.strong_induction_on with
    | _ i ih =>
      cases hf : q.fault? refusal i with
      | none => rfl
      | some e =>
        obtain ⟨he, -⟩ := h.fails i e hi (fun j hj hlt => ih j hlt hj) hf
        cases hok.symm.trans he
  exact (h.succeeds hnone).1

/-- A task that has an answer was one call. -/
theorem calls_process {load : Loader σ} (h : Sound load w) {task : Task} {payload : Payload}
    (hp : Payload.decode task.payload = .ok payload) {host : TaskHost τ} {status : ProcessStatus}
    (hok : (w.attempt task host u).1 = .ok status) :
    (w.process task host u).2.2.calls =
      w.calls ++ [(CText.over payload.method, .ofOctets payload.arguments)] := by
  have hout := outcome_attempt h (.ofTask task payload) host u
  rw [attempt_eq w hp] at hok
  rw [process_worker, attempt_eq w hp, calls, hout.acts_of_ok hok, List.filterMap_append,
    List.filterMap_append, filterMap_teardown, filterMap_steps _ _ (kept_le w _), List.append_nil]
  rfl

end

/-- What a client encodes reaches the service as it is. If a worker, in any state it can be in, can be made ready
for a task, then the encoded payload is one call of its service, with this method and these bytes and no others;
an output goes to the first expected result and nowhere else, and of a failure the host gets the text and
nothing to send. -/
theorem payload_reaches_service (settings : Settings) (load : Loader σ) (world : σ)
    (operations : List Operation) (e : Export σ ω α β) {c x : Nat} {p : Payload}
    (hsizes : ∀ n ∈ p.sizes, n < UInt32.size) (hmethod : CText.nulPosition? p.method = none)
    {options : TaskOptions} {session : String} {ready : Worker σ}
    (hready : ((start settings load world).run operations).prepare options session = (.ok (), ready))
    (hentered : ready.Entered e c x) {host : TaskHost τ} {first : String} {others : List String}
    (hexpected : host.expected = first :: others)
    (haccepts : ∀ result data v, (host.send result data v).1 = .sent) (u : τ) :
    ∃ bytes, p.encode = .ok bytes ∧
      let task : Task := ⟨session, bytes, options⟩
      let r := ((start settings load world).run operations).process task host u
      let w := (startTraced settings load world).run operations
      let traced := w.process task host u
      (Mirrors r.2.2 traced.2.2 ∧
        traced.2.2.calls = w.calls ++ [(CText.over p.method, .ofOctets p.arguments)]) ∧
      ∃ outcome, e.Calls c x p.method p.arguments ready.world outcome r.2.2.world ∧
        match outcome with
        | .ok (.ok output) => r.1 = .ok ∧ r.2.1 = (host.send first output u).2
        | .ok (.error message) => r.1 = .error message ∧ r.2.1 = u
        | .error panic =>
          r.1 = .error ("method " ++ p.method ++ " panicked: " ++ panic.message) ∧ r.2.1 = u := by
  have hencode := Payload.encode_eq_ok_iff.mpr ⟨hsizes, rfl⟩
  refine ⟨_, hencode, ?_⟩
  generalize p.fields.flatMap Payload.frame = bytes at hencode
  intro task r w traced
  have hp : Payload.decode task.payload = .ok p := Payload.decode_of_encode hencode
  have hmirrors := mirrors_run settings load world operations
  have htenured : ready.Tenured load settings.libraryDirectory := by
    obtain ⟨h, -⟩ := ((tenured_start settings load world).run operations).prepare options session
    rwa [hready] at h
  obtain ⟨outcome, hcalls, hanswer, hhost⟩ :=
    htenured.call_of_entered hentered hmethod host p.arguments u
  have hattempt : ((start settings load world).run operations).attempt task host u =
      ready.call host p.method p.arguments u := by
    rw [attempt_of_decode hp, hready]
  have hreply := Hearing.hearAll_reply hexpected haccepts (Service.settle p.method outcome) (u := u)
  -- whatever the outcome, the call has an answer
  obtain ⟨status, hstatus⟩ : ∃ status, (ready.call host p.method p.arguments u).1 = .ok status := by
    rw [hanswer]
    cases hs : Service.settle p.method outcome <;> rw [hs] at hreply
    · exact ⟨_, hreply.1⟩
    · exact ⟨_, hreply.1⟩
  have hprocess : r = (status, (ready.call host p.method p.arguments u).2) := by
    simp only [r, process_eq, hattempt, hstatus]
  have hok : (w.attempt task host u).1 = .ok status := by
    rw [(hmirrors.attempt task host u).1, hattempt, hstatus]
  obtain ⟨hsound, -⟩ := (sound_startTraced settings load world).run (P := fun _ => True)
    (fun _ _ _ => trivial) trivial operations
  refine ⟨⟨(hmirrors.process task host u).2.2, calls_process hsound hp hok⟩, outcome, ?_⟩
  rw [hstatus] at hanswer
  rw [hprocess]
  refine ⟨hcalls, ?_⟩
  rcases outcome with panic | message | output <;>
    exact ⟨Except.ok.inj (hanswer.trans hreply.1), hhost.trans hreply.2⟩

/-- The service that writes down what happens to it. -/
def recorderExport : Export Library.World (List String) Library.Recorder Library.Visit where
  service := Library.recorder
  get w := (w.recorder, w.events)
  set w part := { w with recorder := part.1, events := part.2 }
  get_set _ _ := rfl

/-- Bytes that are not a text, for a service that is in another session. -/
theorem payload_reaches_recorder :
    let p : Payload := ⟨"Reverse", [0, 255, 1], ["r0"]⟩
    let options := (recorded "s1" "Echo").options
    let history := [Operation.task (recorded "s1" "Echo") accepting ()]
    let ready := (((start ⟨{}⟩ Library.byName {}).run history).prepare options "s2").2
    ((∀ n ∈ p.sizes, n < UInt32.size) ∧ CText.nulPosition? p.method = none ∧
        ((start ⟨{}⟩ Library.byName {}).run history).prepare options "s2" = (.ok (), ready) ∧
        ready.Entered recorderExport 1 3) ∧
      ∃ bytes, p.encode = .ok bytes ∧
        let task : Task := ⟨"s2", bytes, options⟩
        let r := ((start ⟨{}⟩ Library.byName {}).run history).process task accepting ()
        let w := (startTraced ⟨{}⟩ Library.byName {}).run history
        (w.process task accepting ()).2.2.calls =
            w.calls ++ [(CText.over "Reverse", .ofOctets [0, 255, 1])] ∧
          ∃ outcome, recorderExport.Calls 1 3 "Reverse" [0, 255, 1] ready.world outcome r.2.2.world := by
  intro p options history ready
  have hsizes : ∀ n ∈ p.sizes, n < UInt32.size := by decide
  have hmethod : CText.nulPosition? p.method = none := by decide +kernel
  have hready : ((start ⟨{}⟩ Library.byName {}).run history).prepare options "s2" = (.ok (), ready) := by
    refine Prod.ext ?_ rfl
    decide +kernel
  have hentered : ready.Entered recorderExport 1 3 :=
    ⟨_, _, by with_unfolding_all rfl, by with_unfolding_all rfl, by with_unfolding_all rfl,
      by with_unfolding_all rfl⟩
  have hexpected : accepting.expected = ["r1"] := rfl
  obtain ⟨bytes, hencode, ⟨-, hcalls⟩, outcome, houtcome, -⟩ := payload_reaches_service ⟨{}⟩
    Library.byName {} history recorderExport hsizes hmethod hready hentered hexpected
    (fun _ _ _ => rfl) ()
  exact ⟨⟨hsizes, hmethod, hready, hentered⟩, bytes, hencode, hcalls, outcome, houtcome⟩

end Worker
end TaskGrid
