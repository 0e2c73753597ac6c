import TaskGrid.Proofs.Remote.Exchange

/-! What a download answers. The data is there if its stream ends well; if not, what is known of the result tells a
task that failed from all else that can go wrong. -/
namespace TaskGrid

open Wire

theorem ResultStatus.ofInt_eq_aborted_iff {n : Int} : ofInt n = .aborted ↔ n = 3 := by
  unfold ofInt
  split <;> simp_all

namespace RemotePlane
variable {ω : Type}

abbrev Metadata := Rpc.Reply Message.getResultResponse.Value

/-- The result is known, and under which number its status is. -/
def Shows (info : Metadata) (owner : String) (status : Int32) : Prop :=
  ∃ session name id, info.first = .ok (some (session, name, owner, status, id, ()), ())

def taskDetails (output : Rpc.Reply Message.output.Value) : String :=
  match output.first with
  | .ok (some (.inr (.inl (details, ()))), ()) => details
  | .ok _ => "result is aborted"
  | .error status => "result is aborted, task error unavailable: gRPC error: " ++ status.text

def metadataExchange (result : String) (info : Metadata) : Exchange := ⟨⟨.getResult, [(result, ())]⟩, info⟩

def outputExchange (session task : String) (output : Rpc.Reply Message.output.Value) : Exchange :=
  ⟨⟨.tryGetTaskOutput, [(session, task, ())]⟩, output⟩

def streamExchange (session result : String) (stream : Rpc.Reply Message.downloadResultDataResponse.Value) :
    Exchange :=
  ⟨⟨.downloadResultData, [(session, result, ())]⟩, stream⟩

/-- Why a result cannot be had, from what is said of it and what is asked after that. -/
inductive Explained (session : String) (info : Metadata) : List Exchange → ClientError → Prop
  | unavailable {status : Rpc.Status} (refused : info.first = .error status) :
      Explained session info [] (.rpc status)
  | missing (details : String) (missing : info.first = .ok (none, ())) :
      Explained session info [] (.internal details)
  | other {owner : String} {status : Int32} (details : String) (shown : Shows info owner status)
      (other : status ≠ 3) : Explained session info [] (.internal details)
  | aborted {owner : String} (output : Rpc.Reply Message.output.Value) (shown : Shows info owner 3) :
      Explained session info [outputExchange session owner output] (.task owner (taskDetails output))

/-- What a download answers, from its stream and from what is asked after that. -/
inductive Downloaded (session result : String) (stream : Rpc.Reply Message.downloadResultDataResponse.Value) :
    List Exchange → Except ClientError Octets → Prop
  | whole (ended : stream.failure = none) :
      Downloaded session result stream [] (.ok (stream.messages.flatMap Prod.fst))
  | broken {info : Metadata} {asked : List Exchange} {e : ClientError} (failed : stream.failure ≠ none)
      (explained : Explained session info asked e) :
      Downloaded session result stream (metadataExchange result info :: asked) (.error e)

section Explained
variable {session owner owner' : String} {status status' : Int32} {info : Metadata} {asked : List Exchange}
  {e : ClientError}

theorem Shows.unique (h : Shows info owner status) (h' : Shows info owner' status') :
    owner = owner' ∧ status = status' := by
  obtain ⟨_, _, _, h⟩ := h
  obtain ⟨_, _, _, h'⟩ := h'
  cases h.symm.trans h'
  exact ⟨rfl, rfl⟩

theorem not_shows_of_error {refusal : Rpc.Status} (h : info.first = .error refusal) :
    ¬Shows info owner status := by
  rintro ⟨_, _, _, h'⟩
  cases h.symm.trans h'

theorem not_shows_of_none (h : info.first = .ok (none, ())) : ¬Shows info owner status := by
  rintro ⟨_, _, _, h'⟩
  cases h.symm.trans h'

theorem Explained.eq_rpc_iff (h : Explained session info asked e) {refusal : Rpc.Status} :
    e = .rpc refusal ↔ info.first = .error refusal := by
  cases h with
  | unavailable refused => rw [refused, ClientError.rpc.injEq, Except.error.injEq]
  | missing details missing => exact ⟨nofun, fun h => by cases missing.symm.trans h⟩
  | other details shown => exact ⟨nofun, fun h => absurd shown (not_shows_of_error h)⟩
  | aborted output shown => exact ⟨nofun, fun h => absurd shown (not_shows_of_error h)⟩

theorem Explained.isInternal_iff (h : Explained session info asked e) : (∃ details, e = .internal details) ↔
    info.first = .ok (none, ()) ∨ ∃ owner status, Shows info owner status ∧ status ≠ 3 := by
  cases h with
  | unavailable refused =>
    refine ⟨nofun, ?_⟩
    rintro (h | ⟨_, _, h, -⟩)
    · cases refused.symm.trans h
    · exact absurd h (not_shows_of_error refused)
  | missing details missing => exact ⟨fun _ => .inl missing, fun _ => ⟨details, rfl⟩⟩
  | other details shown other => exact ⟨fun _ => .inr ⟨_, _, shown, other⟩, fun _ => ⟨details, rfl⟩⟩
  | aborted output shown =>
    refine ⟨nofun, ?_⟩
    rintro (h | ⟨_, _, h, hother⟩)
    · exact absurd shown (not_shows_of_none h)
    · exact absurd (h.unique shown).2 hother

/-- A task that failed is asked for the reason, which is the answer then. -/
theorem Explained.of_aborted (h : Explained session info asked e) (haborted : Shows info owner 3) :
    ∃ output, asked = [outputExchange session owner output] ∧ e = .task owner (taskDetails output) := by
  cases h with
  | unavailable refused => exact absurd haborted (not_shows_of_error refused)
  | missing details missing => exact absurd haborted (not_shows_of_none missing)
  | other details shown other => exact absurd (shown.unique haborted).2 other
  | aborted output shown =>
    obtain ⟨rfl, -⟩ := shown.unique haborted
    exact ⟨output, rfl, rfl⟩

/-- No task is asked if the result is not aborted. -/
theorem Explained.of_not_aborted (h : Explained session info asked e) (hnone : ∀ owner, ¬Shows info owner 3) :
    asked = [] := by
  cases h with
  | aborted output shown => exact absurd shown (hnone _)
  | _ => rfl

theorem Explained.isTask_iff (h : Explained session info asked e) :
    (∃ owner details, e = .task owner details) ↔ ∃ owner, Shows info owner 3 := by
  constructor
  · rintro ⟨owner, details, rfl⟩
    cases h with
    | aborted output shown => exact ⟨owner, shown⟩
  · rintro ⟨owner, haborted⟩
    obtain ⟨output, -, he⟩ := h.of_aborted haborted
    exact ⟨owner, _, he⟩

end Explained

section Log
variable (service : Rpc.Service ω) (session result : String) (p : RemotePlane (Logged ω))

theorem ask_logs {α : Type} (m : Rpc.Method) (message : m.request.Value)
    (read : m.reply.Value → Except GridError α) : ∃ reply p',
    ask service.recorded m message read p =
        (((reply.first.mapError .rpc).bind read).mapError GridError.toClient, p') ∧
      Logs p [⟨⟨m, [message]⟩, reply⟩] p' :=
  exchange_logs service p m [message] _

theorem taskOutput_logs (task : String) : ∃ output answer p',
    taskOutput service.recorded session task p = (answer, p') ∧ failureDetails answer = taskDetails output ∧
      Logs p [outputExchange session task output] p' := by
  obtain ⟨output, p', hcall, hlogs⟩ := ask_logs service p .tryGetTaskOutput (session, task, ())
    fun output => .ok (TaskOutput.ofMessage output)
  refine ⟨output, _, p', hcall, ?_, hlogs⟩
  unfold taskDetails
  cases output.first with
  | error status => rfl
  | ok message =>
    obtain ⟨_ | (_ | ⟨⟨_, _⟩ | _⟩), _⟩ := message <;> rfl

theorem downloadFailure_of_refused {service : Rpc.Service ω} {p p' : RemotePlane ω} {e : ClientError}
    (hinfo : resultInfo service result p = (.error e, p')) :
    downloadFailure service session result p = (.error e, p') := by
  simp only [downloadFailure, hinfo]

theorem downloadFailure_of_aborted {service : Rpc.Service ω} {p p' p'' : RemotePlane ω} {info : ResultInfo}
    {answer : Except ClientError TaskOutput} (hinfo : resultInfo service result p = (.ok info, p'))
    (haborted : info.status = .aborted)
    (houtput : taskOutput service session info.ownerTask p' = (answer, p'')) :
    downloadFailure service session result p =
      (.ok (.task info.ownerTask (failureDetails answer)), p'') := by
  simp only [downloadFailure, hinfo, haborted, if_true, houtput]

theorem downloadFailure_of_other {service : Rpc.Service ω} {p p' : RemotePlane ω} {info : ResultInfo}
    (hinfo : resultInfo service result p = (.ok info, p')) (hother : info.status ≠ .aborted) :
    ∃ details, downloadFailure service session result p = (.ok (.internal details), p') := by
  simp only [downloadFailure, hinfo, hother, if_false]
  exact ⟨_, rfl⟩

/-- The question for a result is asked once, and its answer is read from what comes back. -/
theorem resultInfo_logs : ∃ read : Message.getResultResponse.Value → Except GridError ResultInfo,
    (∃ info p', resultInfo service.recorded result p =
        (((info.first.mapError .rpc).bind read).mapError GridError.toClient, p') ∧
      Logs p [metadataExchange result info] p') ∧
    (∀ raw, read (some raw, ()) = .ok (ResultInfo.ofMessage raw)) ∧
    read (none, ()) =
      .error (.unexpectedResponse ("no metadata returned for result " ++ result)) :=
  ⟨_, ask_logs service p .getResult (result, ()) _, fun _ => rfl, rfl⟩

theorem downloadFailure_logs : ∃ info asked e p',
    (downloadFailure service.recorded session result p = (.ok e, p') ∨
      downloadFailure service.recorded session result p = (.error e, p')) ∧
    Logs p (metadataExchange result info :: asked) p' ∧ Explained session info asked e := by
  obtain ⟨read, ⟨info, p', hinfo, hlogs⟩, hsome, hnone⟩ := resultInfo_logs service result p
  cases hfirst : info.first with
  | error status =>
    rw [hfirst] at hinfo
    have hrefused := downloadFailure_of_refused session result hinfo
    exact ⟨info, [], _, p', .inr hrefused, hlogs, .unavailable hfirst⟩
  | ok message =>
    rw [hfirst] at hinfo
    obtain ⟨_ | raw, ⟨⟩⟩ := message
    · have hnothing : resultInfo service.recorded result p = (.error _, p') :=
        hinfo.trans (congrArg (fun answer => (answer.mapError GridError.toClient, p')) hnone)
      have hrefused := downloadFailure_of_refused session result hnothing
      exact ⟨info, [], _, p', .inr hrefused, hlogs, .missing _ hfirst⟩
    · have hknown : resultInfo service.recorded result p = (.ok (ResultInfo.ofMessage raw), p') :=
        hinfo.trans (congrArg (fun answer => (answer.mapError GridError.toClient, p')) (hsome raw))
      obtain ⟨x, name, owner, status, id, ⟨⟩⟩ := raw
      have hshown : Shows info owner status := ⟨x, name, id, hfirst⟩
      by_cases haborted : status = 3
      · subst haborted
        obtain ⟨output, answer, p'', houtput, hdetails, hlogs'⟩ := taskOutput_logs service session p' owner
        refine ⟨info, _, _, p'', .inl ?_, hlogs.trans hlogs', .aborted output hshown⟩
        rw [← hdetails]
        exact downloadFailure_of_aborted session result hknown rfl houtput
      · obtain ⟨details, hfailure⟩ := downloadFailure_of_other session result hknown fun h =>
          haborted (Int32.toInt_inj.mp (ResultStatus.ofInt_eq_aborted_iff.mp h))
        exact ⟨info, [], _, p', .inl hfailure, hlogs, .other _ hshown haborted⟩

theorem downloadResult_logs : ∃ stream asked answer p',
    downloadResult service.recorded session result p = (answer, p') ∧
      Logs p (streamExchange session result stream :: asked) p' ∧
      Downloaded session result stream asked answer := by
  obtain ⟨stream, p', hcall, hlogs⟩ := exchange_logs service p .downloadResultData [(session, result, ())] readChunks
  cases hfailure : stream.failure with
  | none =>
    refine ⟨stream, [], _, p', ?_, hlogs, .whole hfailure⟩
    unfold downloadResult
    rw [hcall, readChunks, Rpc.Reply.all, hfailure]
    rfl
  | some status =>
    have hbroken : stream.failure ≠ none := hfailure ▸ Option.some_ne_none status
    have hcut : exchange service.recorded .downloadResultData [(session, result, ())] readChunks p =
        (.error (.rpc status), p') := by
      rw [hcall, readChunks, Rpc.Reply.all, hfailure]
      rfl
    obtain ⟨info, asked, e, p'', hcalled, hlogs', hexplained⟩ := downloadFailure_logs service session result p'
    refine ⟨stream, _, .error e, p'', ?_, hlogs.trans hlogs', .broken hbroken hexplained⟩
    unfold downloadResult
    rw [hcut]
    -- whether the failure could be looked up or not, it is what the download answers
    rcases hcalled with h | h
    all_goals
      dsimp only
      rw [h]

end Log

section Mirrors
variable (service : Rpc.Service ω)

theorem resultInfo_mirrors (result : String) :
    Mirrors (resultInfo service result) (resultInfo service.recorded result) :=
  ask_mirrors service .getResult _ _

theorem taskOutput_mirrors (session task : String) :
    Mirrors (taskOutput service session task) (taskOutput service.recorded session task) :=
  ask_mirrors service .tryGetTaskOutput _ _

theorem downloadFailure_mirrors (session result : String) :
    Mirrors (downloadFailure service session result) (downloadFailure service.recorded session result) := by
  intro p
  unfold downloadFailure
  rw [resultInfo_mirrors]
  obtain ⟨_ | info, p'⟩ := resultInfo service.recorded result p
  · rfl
  · dsimp only
    rw [taskOutput_mirrors]
    split <;> rfl

theorem downloadResult_mirrors (session result : String) :
    Mirrors (downloadResult service session result) (downloadResult service.recorded session result) := by
  intro p
  unfold downloadResult
  rw [exchange_mirrors]
  obtain ⟨e | data, p'⟩ := exchange service.recorded .downloadResultData [(session, result, ())] readChunks p
  · cases e
    case rpc status =>
      dsimp only
      rw [downloadFailure_mirrors]
      obtain ⟨_ | _, _⟩ := downloadFailure service.recorded session result p' <;> rfl
    all_goals rfl
  · rfl

end Mirrors

/-- Whatever the far side answers, a download answers with data if and only if its stream ends well, and then with
all chunks in order. If the stream fails, the metadata of the result is asked for. That call's own error is the
answer if it fails too; a result of which nothing is known, or that is not aborted, is an error of the client; and
only of a result that is aborted the task is to blame, which is asked for the reason. -/
theorem download_classified (service : Rpc.Service ω) (session result : String) (p : RemotePlane ω) :
    let run := downloadResult service.recorded session result p.recorded
    let answer := run.1
    downloadResult service session result p = (answer, run.2.forget) ∧ ∃ stream asked,
      run.2.world.log = streamExchange session result stream :: asked ∧
      (∀ data, answer = .ok data ↔ stream.failure = none ∧ data = stream.messages.flatMap Prod.fst) ∧
      (stream.failure = none → asked = []) ∧
      (stream.failure ≠ none → ∃ info after, asked = metadataExchange result info :: after ∧
        (∀ status, answer = .error (.rpc status) ↔ info.first = .error status) ∧
        ((∃ details, answer = .error (.internal details)) ↔
          info.first = .ok (none, ()) ∨ ∃ owner status, Shows info owner status ∧ status ≠ 3) ∧
        ((∃ owner details, answer = .error (.task owner details)) ↔ ∃ owner, Shows info owner 3) ∧
        (∀ owner, Shows info owner 3 → ∃ output, after = [outputExchange session owner output] ∧
          answer = .error (.task owner (taskDetails output))) ∧
        ((∀ owner, ¬Shows info owner 3) → after = [])) := by
  intro run answer
  refine ⟨downloadResult_mirrors service session result p.recorded, ?_⟩
  obtain ⟨stream, asked, answer', p', hrun, hlogs, hdownloaded⟩ :=
    downloadResult_logs service session result p.recorded
  have hanswer : answer = answer' := congrArg Prod.fst hrun
  have hlog : run.2.world.log = streamExchange session result stream :: asked := by
    have h : run = (answer', p') := hrun
    rw [h]
    exact hlogs
  refine ⟨stream, asked, hlog, ?_⟩
  clear_value answer
  subst hanswer
  cases hdownloaded with
  | whole ended =>
    refine ⟨fun data => ?_, fun _ => rfl, fun h => absurd ended h⟩
    rw [Except.ok.injEq, eq_comm, and_iff_right ended]
  | @broken info after e failed explained =>
    refine ⟨fun data => ⟨nofun, fun h => absurd h.1 failed⟩, fun h => absurd h failed, fun _ => ?_⟩
    refine ⟨info, after, rfl, fun status => ?_, ?_, ?_, ?_, ?_⟩
    · rw [Except.error.injEq]
      exact explained.eq_rpc_iff
    · simp only [Except.error.injEq]
      exact explained.isInternal_iff
    · simp only [Except.error.injEq]
      exact explained.isTask_iff
    · intro owner haborted
      obtain ⟨output, hafter, rfl⟩ := explained.of_aborted haborted
      exact ⟨output, hafter, rfl⟩
    · exact fun hnone => explained.of_not_aborted hnone

/-- A server with a result that was aborted, whose stream breaks off and whose task says nothing. -/
def cutServer : ScriptedServer where
  address := some "http://plane"
  replies
    | .downloadResultData => [fun _ => ⟨[([1, 2], ())], some ⟨.dataLoss, "cut"⟩⟩]
    | .getResult => [fun _ => ⟨[(some ("s", "", "owner", 3, "r", ()), ())], none⟩]
    | .tryGetTaskOutput => [fun _ => ⟨[(none, ())], none⟩]
    | _ => []

/-- The chunk that arrived is not answered. -/
example : (downloadResult ScriptedServer.service "s" "r" ⟨{ endpoint := "http://plane" }, cutServer⟩).1 =
    .error (.task "owner" "result is aborted") :=
  rfl

end RemotePlane
end TaskGrid
