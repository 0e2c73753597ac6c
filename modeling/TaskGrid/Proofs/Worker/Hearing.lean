import Mathlib.Data.List.Induction
import TaskGrid.Library.Raw
import TaskGrid.Proofs.Worker.Tenure

/-! What a call comes to, whatever the library reports while it runs and whatever the host makes of the results.
Three facts decide: the last failure to send, the last report, and the status of the call. -/
namespace TaskGrid

variable {σ τ : Type}

structure Sending where
  result : String
  data : Octets
  outcome : SendOutcome
  deriving DecidableEq, Repr

def SendOutcome.failure? : SendOutcome → Option WorkerError
  | .sent => none
  | .failed e => some e
  | .panicked _ => some Hearing.hostPanicked

/-- A host that writes down what is sent. -/
def TaskHost.noting (host : TaskHost τ) : TaskHost (τ × List Sending) where
  expected := host.expected
  send result data t :=
    let (outcome, u) := host.send result data t.1
    (outcome, u, t.2 ++ [⟨result, data, outcome⟩])

namespace Report

def isOk (r : Report) : Bool := CallStatus.isOk r.status

def text (r : Report) : String := Utf8.decodeLossy r.data.read

def told (r : Report) : ProcessStatus := if r.isOk then .ok else .error r.text

/-- The reports of a call: a use of the callback that lost the caller's address is none. -/
def heard (reports : List Report) : List Report := reports.filter (·.addressed)

def outputs (reports : List Report) : List Octets := ((heard reports).filter isOk).map (·.data.read)

theorem heard_append (reports : List Report) (r : Report) :
    heard (reports ++ [r]) = heard reports ++ if r.addressed then [r] else [] := by
  cases h : r.addressed <;> simp [heard, h]

theorem outputs_append (reports : List Report) (r : Report) : outputs (reports ++ [r]) =
    outputs reports ++ if r.addressed && r.isOk then [r.data.read] else [] := by
  unfold outputs
  rw [heard_append]
  cases h : r.addressed <;> cases hok : r.isOk <;> simp [hok]

end Report

namespace TaskHost

/-- What a host is to be sent of reports: every output, for the first result that is expected. -/
def due (host : TaskHost τ) (reports : List Report) : List (String × Octets) :=
  match host.expected with
  | [] => []
  | first :: _ => (Report.outputs reports).map fun data => (first, data)

/-- The failures to send the outputs of reports. Without an expected result there is one for each output. -/
def failures (host : TaskHost τ) (reports : List Report) (sendings : List Sending) : List WorkerError :=
  match host.expected with
  | [] => (Report.outputs reports).map fun _ => .noExpectedResult
  | _ :: _ => sendings.filterMap (·.outcome.failure?)

end TaskHost

namespace Hearing

theorem send_of_nil (host : TaskHost τ) (hexpected : host.expected = []) (data : Octets)
    (h : Hearing τ) : send host data h = { h with sendError := some .noExpectedResult } := by
  unfold send
  rw [hexpected]

theorem send_of_cons (host : TaskHost τ) {first : String} {others : List String}
    (hexpected : host.expected = first :: others) (data : Octets) (h : Hearing τ) :
    let r := host.send first data h.host
    send host data h =
      ⟨r.2, if r.1.failure? = none then some .ok else h.reported, r.1.failure?.or h.sendError⟩ := by
  intro r
  unfold send
  rw [hexpected]
  rcases hr : r with ⟨_ | e | panic, u⟩ <;> simp only [r] at hr <;> simp only [hr] <;> rfl

/-- What is known after reports, and what was sent. -/
structure Follows (host : TaskHost τ) (reports : List Report) (h : Hearing (τ × List Sending)) : Prop where
  sent : h.host.2.map (fun x => (x.result, x.data)) = host.due reports
  failed : h.sendError = (host.failures reports h.host.2).getLast?
  said : host.failures reports h.host.2 = [] →
    h.reported = (Report.heard reports).getLast?.map Report.told

theorem follows_nil (host : TaskHost τ) (u : τ) : Follows host [] ⟨(u, []), none, none⟩ := by
  constructor
  · unfold TaskHost.due
    split <;> rfl
  · unfold TaskHost.failures
    split <;> rfl
  · exact fun _ => rfl

section
variable {host : TaskHost τ} {reports : List Report} {h : Hearing (τ × List Sending)} {r : Report}

theorem Follows.unheard (hf : Follows host reports h) (hr : r.addressed = false) :
    Follows host (reports ++ [r]) (hear host.noting h r) := by
  have hhear : hear host.noting h r = h := by simp [hear, hr]
  have houtputs : Report.outputs (reports ++ [r]) = Report.outputs reports := by
    simp [Report.outputs_append, hr]
  have hheard : Report.heard (reports ++ [r]) = Report.heard reports := by
    simp [Report.heard_append, hr]
  rw [hhear]
  constructor
  · rw [hf.sent, TaskHost.due, TaskHost.due, houtputs]
  · rw [hf.failed, TaskHost.failures, TaskHost.failures, houtputs]
  · rw [TaskHost.failures, houtputs, hheard]
    exact hf.said

/-- A report of an error replaces what was said before. -/
theorem Follows.error (hf : Follows host reports h) (hr : r.addressed = true) (hok : r.isOk = false) :
    Follows host (reports ++ [r]) (hear host.noting h r) := by
  have hstatus : CallStatus.isOk r.status = false := hok
  have hhear : hear host.noting h r = { h with reported := some (.error r.text) } := by
    simp only [hear, hr, hstatus, if_true]
    rfl
  have houtputs : Report.outputs (reports ++ [r]) = Report.outputs reports := by
    simp [Report.outputs_append, hok]
  rw [hhear]
  constructor
  · rw [hf.sent, TaskHost.due, TaskHost.due, houtputs]
  · rw [hf.failed, TaskHost.failures, TaskHost.failures, houtputs]
  · intro _
    simp [Report.heard_append, hr, Report.told, hok]

/-- An output is sent, if there is someone to send it to. -/
theorem Follows.output (hf : Follows host reports h) (hr : r.addressed = true) (hok : r.isOk = true) :
    Follows host (reports ++ [r]) (hear host.noting h r) := by
  have hstatus : CallStatus.isOk r.status = true := hok
  have hhear : hear host.noting h r = send host.noting r.data.read h := by
    simp only [hear, hr, hstatus, if_true]
  have houtputs : Report.outputs (reports ++ [r]) = Report.outputs reports ++ [r.data.read] := by
    simp [Report.outputs_append, hr, hok]
  have hlast : (Report.heard (reports ++ [r])).getLast?.map Report.told = some .ok := by
    simp [Report.heard_append, hr, Report.told, hok]
  obtain ⟨hsent, hfailed, -⟩ := hf
  unfold TaskHost.due at hsent
  unfold TaskHost.failures at hfailed
  rw [hhear]
  cases hexpected : host.expected with
  | nil =>
    rw [hexpected] at hsent
    rw [send_of_nil host.noting hexpected]
    constructor
    · simpa only [TaskHost.due, hexpected] using hsent
    · simp only [TaskHost.failures, hexpected, houtputs, List.map_append, List.map_cons,
        List.map_nil, List.getLast?_concat]
    · intro hnone
      simp [TaskHost.failures, hexpected, houtputs] at hnone
  | cons first others =>
    rw [hexpected] at hsent hfailed
    have hdue : host.due (reports ++ [r]) =
        (Report.outputs reports).map (fun data => (first, data)) ++ [(first, r.data.read)] := by
      simp only [TaskHost.due, hexpected, houtputs, List.map_append, List.map_cons, List.map_nil]
    have hfailures (sendings : List Sending) : host.failures (reports ++ [r]) sendings =
        sendings.filterMap (·.outcome.failure?) := by
      simp only [TaskHost.failures, hexpected]
    obtain ⟨outcome, houtcome⟩ : ∃ o, (host.send first r.data.read h.host.1).1 = o := ⟨_, rfl⟩
    rw [send_of_cons host.noting hexpected]
    simp only [TaskHost.noting, houtcome]
    constructor
    · simp only [hdue, List.map_append, hsent]
      rfl
    · simp only [hfailures, List.filterMap_append]
      cases outcome <;> simp [SendOutcome.failure?, hfailed]
    · intro hnone
      simp only [hfailures, List.filterMap_append, List.append_eq_nil_iff] at hnone
      have hfailure : outcome.failure? = none := by simpa using hnone.2
      rw [hlast, if_pos hfailure]

end

theorem follows_hearAll (host : TaskHost τ) (reports : List Report) (u : τ) :
    Follows host reports (hearAll host.noting reports (u, [])) := by
  induction reports using List.reverseRecOn with
  | nil => exact follows_nil host u
  | append_singleton reports r ih =>
    unfold hearAll at ih ⊢
    rw [List.foldl_append, List.foldl_cons, List.foldl_nil]
    cases hr : r.addressed with
    | false => exact ih.unheard hr
    | true =>
      cases hok : r.isOk with
      | false => exact ih.error hr hok
      | true => exact ih.output hr hok

/-- Writing down what is sent changes nothing. -/
theorem hearAll_noting (host : TaskHost τ) (reports : List Report) (u : τ) :
    let h := hearAll host.noting reports (u, [])
    hearAll host reports u = ⟨h.host.1, h.reported, h.sendError⟩ := by
  induction reports using List.reverseRecOn with
  | nil => rfl
  | append_singleton reports r ih =>
    unfold hearAll at ih ⊢
    rw [List.foldl_append, List.foldl_append, ih]
    simp only [List.foldl_cons, List.foldl_nil]
    generalize reports.foldl (hear host.noting) ⟨(u, []), none, none⟩ = h
    have hsend : send host r.data.read ⟨h.host.1, h.reported, h.sendError⟩ =
        ⟨(send host.noting r.data.read h).host.1, (send host.noting r.data.read h).reported,
          (send host.noting r.data.read h).sendError⟩ := by
      cases hexpected : host.expected with
      | nil => rw [send_of_nil host hexpected, send_of_nil host.noting hexpected]
      | cons first others =>
        rw [send_of_cons host hexpected, send_of_cons host.noting hexpected]
        rfl
    unfold hear
    split_ifs
    · exact hsend
    · rfl
    · rfl

theorem verdict_of_failure {h : Hearing τ} {e : WorkerError} (he : h.sendError = some e)
    (status : CallStatus) : h.verdict status = .error e := by
  unfold verdict
  rw [he]

theorem verdict_of_arrival {h : Hearing τ} (he : h.sendError = none) (status : CallStatus) :
    h.verdict status = .ok (match h.reported with
      | some (.error message) => .error message
      | some .ok => if CallStatus.isOk status then .ok else .error unknownError
      | none => .error (if CallStatus.isOk status then noReport else unknownError)) := by
  obtain ⟨host, reported, _⟩ := h
  cases he
  rfl

section
variable {host : TaskHost τ} {reports : List Report} {h : Hearing (τ × List Sending)}

theorem Follows.verdict_eq_error_iff (hf : Follows host reports h) (status : CallStatus) (e : WorkerError) :
    h.verdict status = .error e ↔ (host.failures reports h.host.2).getLast? = some e := by
  rw [← hf.failed]
  cases he : h.sendError with
  | none => simp [verdict_of_arrival he]
  | some e' => simp [verdict_of_failure he]

/-- If every output arrived, the last report and the status say the rest. -/
theorem Follows.verdict_of_arrived (hf : Follows host reports h)
    (harrived : host.failures reports h.host.2 = []) (status : CallStatus) :
    h.verdict status = .ok (match (Report.heard reports).getLast? with
      | some r => if r.isOk then
          if CallStatus.isOk status then .ok else .error unknownError
        else .error r.text
      | none => .error (if CallStatus.isOk status then noReport else unknownError)) := by
  have hfailed := hf.failed
  rw [harrived] at hfailed
  rw [verdict_of_arrival hfailed, hf.said harrived]
  cases (Report.heard reports).getLast? with
  | none => rfl
  | some r => cases hok : r.isOk <;> simp [Report.told, hok]

/-- A success was reported last, confirmed by the status, and every output before it arrived too. -/
theorem Follows.verdict_eq_ok_iff (hf : Follows host reports h) (status : CallStatus) :
    h.verdict status = .ok .ok ↔ host.failures reports h.host.2 = [] ∧ CallStatus.isOk status = true ∧
      ∃ r, (Report.heard reports).getLast? = some r ∧ r.isOk = true := by
  cases hlast : (host.failures reports h.host.2).getLast? with
  | some e =>
    have hne : host.failures reports h.host.2 ≠ [] := by
      intro hnil
      simp [hnil] at hlast
    rw [(hf.verdict_eq_error_iff status e).mpr hlast]
    simp [hne]
  | none =>
    have harrived : host.failures reports h.host.2 = [] := List.getLast?_eq_none_iff.mp hlast
    rw [hf.verdict_of_arrived harrived]
    cases (Report.heard reports).getLast? with
    | none => simp
    | some r => cases hok : r.isOk <;> simp [harrived, hok]

/-- An output that did not fail to arrive was sent. -/
theorem Follows.exists_sent (hf : Follows host reports h)
    (harrived : host.failures reports h.host.2 = []) {r : Report}
    (hlast : (Report.heard reports).getLast? = some r) (hok : r.isOk = true) :
    ∃ x ∈ h.host.2, x.outcome = .sent := by
  have hmem : r.data.read ∈ Report.outputs reports :=
    List.mem_map_of_mem (List.mem_filter.mpr ⟨List.mem_of_getLast? hlast, hok⟩)
  have hsent := hf.sent
  unfold TaskHost.due at hsent
  unfold TaskHost.failures at harrived
  cases hexpected : host.expected with
  | nil =>
    rw [hexpected] at harrived
    rw [List.map_eq_nil_iff.mp harrived] at hmem
    cases hmem
  | cons first others =>
    rw [hexpected] at harrived hsent
    have hdue := List.mem_map_of_mem (f := fun data => (first, data)) hmem
    simp only at hsent harrived
    rw [← hsent] at hdue
    obtain ⟨x, hx, -⟩ := List.mem_map.mp hdue
    have hnone := List.filterMap_eq_nil_iff.mp harrived x hx
    refine ⟨x, hx, ?_⟩
    cases hx : x.outcome with
    | sent => rfl
    | failed e =>
      rw [hx] at hnone
      cases hnone
    | panicked p =>
      rw [hx] at hnone
      cases hnone

end
end Hearing

namespace ActiveService

/-- What a call in a session comes to. Every report of success is one sending of its bytes to the first result that is
expected, and nothing else is sent. The answer is the last failure to send, if there is one. Otherwise the last report
decides: an error is passed on, and a success stands if the status confirms it; without a report the call failed, with a
message of its own if the status is that of success. So a success means that a result arrived. -/
theorem answer_of_reports {s : ActiveService σ} {session : String × Context}
    (hsession : s.session = some session) {method : String} (hmethod : CText.nulPosition? method = none)
    (host : TaskHost τ) (arguments : Octets) (u : τ) (w : σ) :
    let reply := (s.entry.call s.context session.2 (CText.over method) (.ofOctets arguments) true w).1
    let noted := s.call host.noting method arguments (u, []) w
    let answer := (s.call host method arguments u w).1
    let sendings := noted.2.1.2
    let failures := host.failures reply.reports sendings
    let last := (Report.heard reply.reports).getLast?
    let succeeded := CallStatus.isOk reply.status
    s.call host method arguments u w = (noted.1, noted.2.1.1, noted.2.2) ∧
    sendings.map (fun x => (x.result, x.data)) = host.due reply.reports ∧
    (∀ e, answer = .error e ↔ failures.getLast? = some e) ∧
    (failures = [] → ∀ r, last = some r → r.isOk = false → answer = .ok (.error r.text)) ∧
    (answer = .ok .ok ↔ failures = [] ∧ succeeded = true ∧ ∃ r, last = some r ∧ r.isOk = true) ∧
    (failures = [] → (∀ r, last = some r → r.isOk = true) →
      (answer = .ok (.error Hearing.noReport) ↔ succeeded = true ∧ last = none) ∧
      (answer = .ok (.error Hearing.unknownError) ↔ succeeded = false)) ∧
    (answer = .ok .ok → ∃ x ∈ sendings, x.outcome = .sent) := by
  intro reply noted answer sendings failures last succeeded
  have hplain := call_of_session hsession hmethod host arguments u w
  have hnoted := call_of_session hsession hmethod host.noting arguments (u, []) w
  have hsame := Hearing.hearAll_noting host reply.reports u
  have hf := Hearing.follows_hearAll host reply.reports u
  simp only at hplain hnoted hsame
  generalize Hearing.hearAll host.noting reply.reports (u, []) = h at hnoted hsame hf
  have hwhole : s.call host method arguments u w = (noted.1, noted.2.1.1, noted.2.2) := by
    simp only [noted, hnoted]
    rw [hplain, hsame]
    rfl
  have hanswer : answer = h.verdict reply.status := by
    simp only [answer, hwhole, noted, hnoted]
    rfl
  have hsendings : sendings = h.host.2 := by
    simp only [sendings, noted, hnoted]
  have hfailures : failures = host.failures reply.reports h.host.2 := by
    simp only [failures, hsendings]
  rw [hanswer, hsendings, hfailures]
  refine ⟨hwhole, hf.sent, hf.verdict_eq_error_iff _, ?_, hf.verdict_eq_ok_iff _, ?_, ?_⟩
  · intro harrived r hlast hok
    rw [hf.verdict_of_arrived harrived]
    simp [last] at hlast
    simp [hlast, hok]
  · intro harrived hlast
    have hmessages : Hearing.noReport ≠ Hearing.unknownError := by decide
    rw [hf.verdict_of_arrived harrived]
    simp only [last, succeeded] at hlast ⊢
    cases hr : (Report.heard reply.reports).getLast? with
    | none => cases CallStatus.isOk reply.status <;> simp [hmessages, hmessages.symm]
    | some r =>
      have hok : r.isOk = true := hlast r hr
      cases CallStatus.isOk reply.status <;> simp [hok, hmessages.symm]
  · intro hok
    obtain ⟨harrived, -, r, hlast, hr⟩ := (hf.verdict_eq_ok_iff _).mp hok
    exact hf.exists_sent harrived hlast hr

/-- A service of the raw library, in a session. -/
def rawInSession : ActiveService (List String) where
  id := ⟨⟨"app", ""⟩, "group", "name"⟩
  entry := Library.raw
  context := none
  session := some ("s1", none)

/-- A host that expects two results and refuses what it is sent first; it counts what it is sent. -/
def refusingFirst : TaskHost Nat where
  expected := ["r1", "r2"]
  send result _ n := (if n = 0 then .failed (.sendFailed result "refused") else .sent, n + 1)

/-- Two successes around an error: the first one is refused, so nothing that comes later helps. -/
theorem answer_of_reports_refused :
    let method := "0:0=a,1=oops,0=b"
    (rawInSession.session = some ("s1", none) ∧ CText.nulPosition? method = none) ∧
      let noted := rawInSession.call refusingFirst.noting method [] (0, []) []
      noted.2.1.2.map (fun x => (x.result, x.data)) = [("r1", [97]), ("r1", [98])] ∧
      (rawInSession.call refusingFirst method [] 0 []).1 = .error (.sendFailed "r1" "refused") := by
  intro method
  have hmethod : CText.nulPosition? method = none := by decide +kernel
  refine ⟨⟨rfl, hmethod⟩, ?_⟩
  obtain ⟨-, hsent, herror, -⟩ :=
    answer_of_reports (s := rawInSession) rfl hmethod refusingFirst [] 0 []
  constructor
  · rw [hsent]
    decide +kernel
  · rw [herror]
    decide +kernel

end ActiveService
end TaskGrid
