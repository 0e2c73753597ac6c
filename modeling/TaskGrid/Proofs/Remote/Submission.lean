import TaskGrid.Proofs.Remote.Placement

/-! A whole submission, from the data limit to the tasks: nothing is submitted unless all payloads are in place. -/
namespace TaskGrid

open Wire
open scoped List

namespace PlacedPayload

/-- A list of payloads is numbered in order, each with the name in its place. -/
theorem number_spec (index : Nat) {names : List String} {data : List Octets} (h : names.length = data.length) :
    (number index names data).map (·.index) = List.range' index data.length ∧
      (number index names data).map (·.name) = names ∧ (number index names data).map (·.data) = data := by
  induction data generalizing index names with
  | nil =>
    cases names with
    | nil => exact ⟨rfl, rfl, rfl⟩
    | cons => cases h
  | cons x data ih =>
    cases names with
    | nil => cases h
    | cons name names =>
      obtain ⟨hindex, hname, hdata⟩ := ih (index + 1) (Nat.succ.inj h)
      simp only [number, List.map_cons, hindex, hname, hdata, List.length_cons, List.range'_succ, and_self]

/-- The id of a place is the one beside it, if no place is there twice. -/
theorem idAt_of_mem {given : List (Nat × String)} (h : (given.map Prod.fst).Nodup) {x : Nat × String}
    (hx : x ∈ given) : idAt given x.1 = x.2 := by
  induction given with
  | nil => cases hx
  | cons y r ih =>
    obtain ⟨hy, hr⟩ := List.nodup_cons.mp h
    rw [idAt, List.lookup_cons]
    rcases List.mem_cons.mp hx with rfl | hmem
    · simp
    · have hne : x.1 ≠ y.1 := ne_of_mem_of_not_mem (List.mem_map_of_mem hmem) hy
      rw [beq_false_of_ne hne]
      exact ih hr hmem

end PlacedPayload

namespace RemotePlane

def taskCreation (task : TaskSubmission) (payload : String) : Message.taskCreation.Value :=
  (task.outputs, task.dependencies, payload, none, ())

theorem taskCreations_eq (given : List (Nat × String)) (index : Nat) (tasks : List TaskSubmission) :
    taskCreations given index tasks = List.zipWith taskCreation tasks
      ((List.range' index tasks.length).map (PlacedPayload.idAt given)) := by
  induction tasks generalizing index with
  | nil => rfl
  | cons task r ih =>
    rw [taskCreations, ih, List.length_cons, List.range'_succ]
    rfl

/-- The ids by place are those of the data of the payloads in their order. -/
theorem perm_zip_idAt {payloads : List PlacedPayload} {pairs : List (PlacedPayload × String)}
    (hpairs : (pairs.map Prod.fst).Perm payloads) (hindex : (payloads.map (·.index)).Nodup)
    {given : List (Nat × String)} (hgiven : given = pairs.map fun x => (x.1.index, x.2)) :
    (pairs.map fun x => (x.2, x.1.data)).Perm
      (((payloads.map (·.index)).map (PlacedPayload.idAt given)).zip (payloads.map (·.data))) := by
  have hkeys : (given.map Prod.fst).Nodup := by
    have h : given.map Prod.fst = (pairs.map Prod.fst).map (·.index) := by
      rw [hgiven, List.map_map, List.map_map]
      rfl
    rw [h]
    exact (hpairs.map _).nodup_iff.mpr hindex
  have hids : ∀ x ∈ pairs, PlacedPayload.idAt given x.1.index = x.2 := fun x hx =>
    PlacedPayload.idAt_of_mem hkeys (by rw [hgiven]; exact List.mem_map_of_mem hx)
  calc pairs.map (fun x => (x.2, x.1.data))
    _ = (pairs.map Prod.fst).map fun q => (PlacedPayload.idAt given q.index, q.data) := by
      rw [List.map_map]
      exact List.map_congr_left fun x hx => by simp only [Function.comp_apply, hids x hx]
    _ ~ payloads.map fun q => (PlacedPayload.idAt given q.index, q.data) := hpairs.map _
    _ = ((payloads.map (·.index)).map (PlacedPayload.idAt given)).zip (payloads.map (·.data)) := by
      rw [List.map_map, List.zip_map']
      rfl

/-- When the payloads of tasks have been placed, in whatever order, each task refers to its own. -/
theorem exists_ids {session : String} {limit : Nat} {names : List String} {tasks : List TaskSubmission}
    (hlength : names.length = tasks.length) {parts : List PlacedPayload} {es : List Exchange}
    {given : List (Nat × String)} (hplaces : Places session limit parts es (.ok given))
    (hparts : parts ~ PlacedPayload.number 0 names (tasks.map (·.payload))) :
    ∃ ids, taskCreations given 0 tasks = List.zipWith taskCreation tasks ids ∧ ids.length = tasks.length ∧
      es.flatMap Exchange.stores ~ ids.zip (tasks.map (·.payload)) ∧
      ∀ x ∈ ids.zip (tasks.map (·.payload)), ∃ e ∈ es, e.Carries session x.1 limit x.2 := by
  obtain ⟨pairs, hfst, hgiven, hplaced⟩ := hplaces.placed given rfl
  obtain ⟨hindex, -, hdata⟩ := PlacedPayload.number_spec 0 (hlength.trans (List.length_map _).symm)
  -- The ids are looked up by place; the pairs stand in the order in which payloads were sent.
  let ids := (List.range' 0 tasks.length).map (PlacedPayload.idAt given)
  have hperm : (pairs.map fun x => (x.2, x.1.data)) ~ ids.zip (tasks.map (·.payload)) := by
    have h := perm_zip_idAt (hfst ▸ hparts) (by rw [hindex]; exact List.nodup_range') hgiven
    rwa [hindex, hdata, List.length_map] at h
  refine ⟨ids, taskCreations_eq given 0 tasks, by simp [ids], hplaced.stored.trans hperm, fun x hx => ?_⟩
  obtain ⟨y, hy, rfl⟩ := List.mem_map.mp (hperm.mem_iff.mpr hx)
  exact hplaced.carried y hy

section Submission
variable {ω : Type} (service : Rpc.Service ω)

theorem dataLimit_logs (p : RemotePlane (Logged ω)) : ∃ es p', dataLimit service.recorded p =
    ((dataLimit service.recorded p).1, p') ∧ Logs p es p' ∧ ∀ e ∈ es, e.method = .getServiceConfiguration := by
  unfold dataLimit
  cases hlimit : p.client.dataLimit with
  | some limit => exact ⟨[], p, rfl, .refl p, by simp⟩
  | none =>
    obtain ⟨reply, p', hcall, hlogs⟩ := exchange_logs service p .getServiceConfiguration [()]
      (fun reply => (reply.first.mapError .rpc).bind readDataLimit)
    have hask : ask service.recorded .getServiceConfiguration () readDataLimit p = _ := hcall
    rw [hask]
    cases ((reply.first.mapError .rpc).bind readDataLimit).mapError GridError.toClient with
    | error e => exact ⟨_, p', rfl, hlogs, by simp⟩
    | ok limit => exact ⟨_, _, rfl, hlogs, by simp⟩

end Submission
end RemotePlane

namespace Exchange

theorem failure?_eq_none {e : Exchange} (h : e.Answered) (hnames : e.resultNames.Nodup) :
    e.failure? = none := by
  have hmade {names : List String} {reply : Rpc.Reply Message.createResultsResponse.Value}
      (h : MadeAll names reply) (hnames : names.Nodup) : errorOf (RemotePlane.idsFrom names reply) = none := by
    obtain ⟨made, hfirst, hperm⟩ := h
    obtain ⟨ids, hids⟩ := Naming.exists_idsOf hnames hperm
    rw [RemotePlane.idsFrom, hfirst]
    exact congrArg errorOf hids
  obtain ⟨⟨m, messages⟩, reply⟩ := e
  cases m with
  | createResults => exact hmade (h.made reply rfl) hnames
  | createResultsMetaData => exact hmade (h.made reply rfl) hnames
  | uploadResultData =>
    obtain ⟨done, hdone⟩ := h.filled reply rfl
    exact congrArg (fun answer => errorOf (answer.mapError GridError.rpc)) hdone
  | _ => rfl

/-- A call that neither makes a result nor fills one. -/
structure Aside (e : Exchange) : Prop where
  failure? : e.failure? = none
  stores : e.stores = []
  resultNames : e.resultNames = []

theorem aside_of_method {e : Exchange} (h : e.method = .getServiceConfiguration ∨ e.method = .submitTasks) :
    e.Aside := by
  obtain ⟨⟨m, messages⟩, reply⟩ := e
  dsimp only at h
  rcases h with rfl | rfl <;> exact ⟨rfl, rfl, rfl⟩

end Exchange

/-- What the log of a submission comes to. Either a call failed, and the answer is its error, or all payloads were
placed and the tasks were submitted, in their order and with the ids of the payloads. -/
inductive Submitted (session : String) (options : Option TaskOptions) (tasks : List TaskSubmission)
    (limit : Nat) (log : List Exchange) (answer : Except ClientError (List SubmittedTask)) : Prop
  | failed {error : GridError} (hanswer : answer = .error error.toClient)
      (hothers : ∀ e ∈ log, e.method ≠ .submitTasks) (hlast : ∃ e ∈ log, e.failure? = some error)
      (honly : ∀ e ∈ log, ∀ error', e.failure? = some error' → error' = error)
  | submitted {before : List Exchange} {ids : List String} {reply : Rpc.Reply Message.submitTasksResponse.Value}
      (hlog : log = before ++ [⟨⟨.submitTasks, [(session, options.map TaskOptions.toMessage,
        List.zipWith RemotePlane.taskCreation tasks ids, ())]⟩, reply⟩])
      (hothers : ∀ e ∈ before, e.method ≠ .submitTasks) (hclean : ∀ e ∈ log, e.failure? = none)
      (hlength : ids.length = tasks.length)
      (hstored : (before.flatMap Exchange.stores).Perm (ids.zip (tasks.map (·.payload))))
      (hcarried : ∀ x ∈ ids.zip (tasks.map (·.payload)), ∃ e ∈ before, e.Carries session x.1 limit x.2)

namespace RemotePlane
variable {ω : Type} (service : Rpc.Service ω) {tasks : List TaskSubmission} {limit : Nat}

def givenNames (service : Rpc.Service ω) (n : Nat) (p : RemotePlane ω) : List String :=
  (freshNames (freshName service) n (dataLimit service p).2).1

theorem length_freshNames {σ : Type} (freshName : σ → String × σ) (n : Nat) (w : σ) :
    (freshNames freshName n w).1.length = n := by
  induction n generalizing w with
  | zero => rfl
  | succ n ih => exact congrArg Nat.succ (ih _)

theorem submitTasks_logs (session : String) (options : Option TaskOptions) (p : RemotePlane (Logged ω))
    (hlimit : (dataLimit service.recorded p).1 = .ok limit) (hpos : 0 < limit)
    (hnames : (givenNames service.recorded tasks.length p).Nodup) : ∃ log answer p',
    submitTasks service.recorded session options tasks p = (answer, p') ∧ Logs p log p' ∧
      (∀ e ∈ log, e.resultNames.Nodup) ∧ Submitted session options tasks limit log answer := by
  obtain ⟨asked, p₁, hasked, hlogs₁, hmethod⟩ := dataLimit_logs service p
  rw [hlimit] at hasked
  obtain ⟨names, p₂, hfresh, hlogs₂⟩ := freshNames_logs service p₁ tasks.length
  rw [givenNames, hasked, hfresh] at hnames
  have hlength : names.length = tasks.length := by
    have := length_freshNames (freshName service.recorded) tasks.length p₁
    rwa [hfresh] at this
  let payloads := PlacedPayload.number 0 names (tasks.map (·.payload))
  have hparts := List.filter_append_perm (·.fits limit) payloads
  obtain ⟨es, given, p₃, hplace, hlogs₃, hplaces⟩ := place_logs service session hpos payloads p₂
  have hlogs : Logs p (asked ++ es) p₃ := hlogs₁.trans (hlogs₂.trans hlogs₃)
  have hasides : ∀ e ∈ asked, e.Aside := fun e he => Exchange.aside_of_method (.inl (hmethod e he))
  -- No call asks for a name twice, so a call that was answered has not failed.
  have hdistinct : ∀ e ∈ asked ++ es, e.resultNames.Nodup := by
    obtain ⟨-, hname, -⟩ := PlacedPayload.number_spec 0 (hlength.trans (List.length_map (·.payload)).symm)
    refine List.forall_mem_append.mpr ⟨fun e he => ?_, fun e he => (hplaces.names e he).nodup ?_⟩
    · rw [(hasides e he).resultNames]
      exact List.nodup_nil
    · rw [(hparts.map _).nodup_iff, hname]
      exact hnames
  have hothers : ∀ e ∈ asked ++ es, e.method ≠ .submitTasks := by
    refine List.forall_mem_append.mpr ⟨fun e he => ?_, hplaces.others⟩
    rw [hmethod e he]
    decide
  rw [submitTasks, hasked]
  dsimp only
  rw [hfresh]
  dsimp only
  rw [hplace]
  cases given with
  | error error =>
    obtain ⟨cause, rfl, ⟨e, he, hcause⟩, honly⟩ := hplaces.went.exists_failure
    refine ⟨asked ++ es, _, p₃, rfl, hlogs, hdistinct, .failed rfl hothers ⟨e, by simp [he], hcause⟩ ?_⟩
    refine List.forall_mem_append.mpr ⟨fun e he cause' hcause' => ?_, honly⟩
    cases (hasides e he).failure?.symm.trans hcause'
  | ok given =>
    obtain ⟨ids, hcreations, hids, hstored, hcarried⟩ := exists_ids hlength hplaces hparts
    obtain ⟨reply, p₄, hcall, hlogs₄⟩ := exchange_logs service p₃ .submitTasks
      [(session, options.map TaskOptions.toMessage, taskCreations given 0 tasks, ())]
      (fun reply => (reply.first.mapError .rpc).bind fun reply => .ok (submittedTasks reply))
    let last (creations : List Message.taskCreation.Value) : Exchange :=
      ⟨⟨.submitTasks, [(session, options.map TaskOptions.toMessage, creations, ())]⟩, reply⟩
    have hlast (creations) : (last creations).Aside := Exchange.aside_of_method (.inr rfl)
    have hstores : (asked ++ es).flatMap Exchange.stores = es.flatMap Exchange.stores := by
      rw [List.flatMap_append, List.flatMap_eq_nil_iff.mpr fun e he => (hasides e he).stores, List.nil_append]
    have hclean : ∀ e ∈ asked ++ es ++ [last (taskCreations given 0 tasks)], e.failure? = none := by
      simp only [List.forall_mem_append, List.forall_mem_singleton]
      exact ⟨⟨fun e he => (hasides e he).failure?, hplaces.went.clean⟩, (hlast _).failure?⟩
    have hdistinct' : ∀ e ∈ asked ++ es ++ [last (taskCreations given 0 tasks)], e.resultNames.Nodup := by
      rw [List.forall_mem_append, List.forall_mem_singleton, (hlast _).resultNames]
      exact ⟨hdistinct, List.nodup_nil⟩
    exact ⟨_, _, p₄, hcall, hlogs.trans hlogs₄, hdistinct',
      .submitted (congrArg (fun creations => asked ++ es ++ [last creations]) hcreations) hothers hclean hids
        (hstores ▸ hstored) fun x hx => (hcarried x hx).imp fun e he => he.imp_left (List.mem_append_right _)⟩

/-- Payloads go where the tasks of a submission look for them. A far side that makes a result for each name, in any
order, is sent the tasks in their order and as they are, each with the id of a result that holds its own payload:
data up to the limit went with the request that made the result, and longer data followed it in parts. If a result
cannot be made or filled, its error is the answer, and no task is submitted. -/
theorem payloads_reach_tasks (session : String) (options : Option TaskOptions) (tasks : List TaskSubmission)
    (p : RemotePlane ω) {limit : Nat} (hlimit : (dataLimit service p).1 = .ok limit) (hpos : 0 < limit)
    (hnames : (givenNames service tasks.length p).Nodup) :
    let run := submitTasks service.recorded session options tasks p.recorded
    let log := run.2.world.log
    submitTasks service session options tasks p = (run.1, run.2.forget) ∧
    ((∀ e ∈ log, e.Answered) → ∃ before ids reply,
      log = before ++ [⟨⟨.submitTasks, [(session, options.map TaskOptions.toMessage,
        List.zipWith taskCreation tasks ids, ())]⟩, reply⟩] ∧
      (∀ e ∈ before, e.method ≠ .submitTasks) ∧ ids.length = tasks.length ∧
      before.flatMap Exchange.stores ~ ids.zip (tasks.map (·.payload)) ∧
      ∀ x ∈ ids.zip (tasks.map (·.payload)), ∃ e ∈ before, e.Carries session x.1 limit x.2) ∧
    ∀ e ∈ log, ∀ error, e.failure? = some error →
      run.1 = .error error.toClient ∧ ∀ e' ∈ log, e'.method ≠ .submitTasks := by
  have hlimit' : (dataLimit service.recorded p.recorded).1 = .ok limit := by
    rw [← hlimit, ← forget_recorded p, dataLimit_mirrors, forget_recorded]
  have hnames' : (givenNames service.recorded tasks.length p.recorded).Nodup := by
    rwa [givenNames, ← forget_recorded p, dataLimit_mirrors, freshNames_mirrors] at hnames
  obtain ⟨log, answer, p', hrun, hlogs, hdistinct, hsubmitted⟩ :=
    submitTasks_logs service session options p.recorded hlimit' hpos hnames'
  have hlog : p'.world.log = log := Eq.trans hlogs (List.nil_append log)
  intro run
  refine ⟨submitTasks_mirrors service session options tasks p.recorded, ?_⟩
  have hrun' : run = (answer, p') := hrun
  clear_value run
  subst hrun'
  simp only [hlog]
  cases hsubmitted with
  | @failed cause hanswer hothers hlast honly =>
    constructor
    · intro hall
      obtain ⟨e, he, hcause⟩ := hlast
      cases (Exchange.failure?_eq_none (hall e he) (hdistinct e he)).symm.trans hcause
    · intro e he error herror
      cases honly e he error herror
      exact ⟨hanswer, hothers⟩
  | @submitted before ids reply hlog hothers hclean hlength hstored hcarried =>
    constructor
    · exact fun _ => ⟨before, ids, reply, hlog, hothers, hlength, hstored, hcarried⟩
    · intro e he error herror
      cases (hclean e he).symm.trans herror

/-- A server with a limit of four bytes that makes results in the wrong order and takes some uploads. -/
def sampleServer (uploads : Nat) : ScriptedServer where
  address := some "http://plane"
  replies
    | .getServiceConfiguration => [fun _ => ⟨[((4 : Int32), ())], none⟩]
    | .createResults => [made]
    | .createResultsMetaData => [made]
    | .uploadResultData => List.replicate uploads fun _ => ⟨[(none, ())], none⟩
    | .submitTasks => [fun _ => ⟨[([("task", ["out"], [], "", ())], ())], none⟩]
    | _ => []
where
  made (names : List String) : Rpc.Reply Message.createResultsResponse.Value :=
    ⟨[(names.reverse.map fun name => ("s", name, "", (1 : Int32), "id of " ++ name, ()), ())], none⟩

def samplePlane (uploads : Nat) : RemotePlane ScriptedServer :=
  ⟨{ endpoint := "http://plane" }, sampleServer uploads⟩

/-- Short and long payloads by turns. -/
def sampleTasks : List TaskSubmission :=
  [⟨[1, 2, 3, 4], ["a"], []⟩, ⟨[1, 2, 3, 4, 5, 6, 7, 8, 9], ["b"], ["a"]⟩, ⟨[], [], []⟩,
    ⟨[5, 4, 3, 2, 1], ["c"], []⟩]

def sampleRun (uploads : Nat) : Except ClientError (List SubmittedTask) × RemotePlane (Logged ScriptedServer) :=
  submitTasks ScriptedServer.service.recorded "s" none sampleTasks (samplePlane uploads).recorded

theorem payloads_reach_tasks_sampleTasks :
    (∃ before ids reply, (sampleRun 2).2.world.log = before ++
        [⟨⟨.submitTasks, [("s", none, List.zipWith taskCreation sampleTasks ids, ())]⟩, reply⟩] ∧ ids.length = 4 ∧
      before.flatMap Exchange.stores ~ ids.zip (sampleTasks.map (·.payload))) ∧
    (sampleRun 1).1 = .error (.rpc (ScriptedServer.unscripted .uploadResultData)) ∧
      ∀ e ∈ (sampleRun 1).2.world.log, e.method ≠ .submitTasks := by
  have hlimit (uploads : Nat) : (dataLimit ScriptedServer.service (samplePlane uploads)).1 = .ok 4 := rfl
  have hnames (uploads : Nat) : (givenNames ScriptedServer.service 4 (samplePlane uploads)).Nodup := by
    have h : givenNames ScriptedServer.service 4 (samplePlane uploads) = (List.range 4).map Uuid.ofNat := rfl
    rw [h]
    decide +kernel
  have hanswered : ∀ e ∈ (sampleRun 2).2.world.log, e.Answered := by decide +kernel
  have hfailed : ∃ e ∈ (sampleRun 1).2.world.log,
      e.failure? = some (.rpc (ScriptedServer.unscripted .uploadResultData)) := by decide +kernel
  obtain ⟨-, hsubmitted, -⟩ := payloads_reach_tasks ScriptedServer.service "s" none sampleTasks (samplePlane 2)
    (hlimit 2) (by decide) (hnames 2)
  obtain ⟨-, -, hstopped⟩ := payloads_reach_tasks ScriptedServer.service "s" none sampleTasks (samplePlane 1)
    (hlimit 1) (by decide) (hnames 1)
  obtain ⟨before, ids, reply, hlog, -, hlength, hstored, -⟩ := hsubmitted hanswered
  obtain ⟨e, he, hfailure⟩ := hfailed
  exact ⟨⟨before, ids, reply, hlog, hlength, hstored⟩, hstopped e he _ hfailure⟩

end RemotePlane
end TaskGrid
