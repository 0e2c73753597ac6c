import Mathlib.Data.List.Forall2
import TaskGrid.Proofs.Plane.Naming
import TaskGrid.Proofs.Remote.Exchange

/-! Where the payloads of a submission go: each into a result of its own, whose id the task refers to. -/
namespace TaskGrid

open Wire

/-- The ids that a reply gives to names. -/
def RemotePlane.idsFrom (names : List String) (reply : Rpc.Reply Message.createResultsResponse.Value) :
    Except GridError (List String) :=
  (reply.first.mapError .rpc).bind fun made => Naming.idsOf names (madeResults made)

namespace Exchange

def errorOf {ε α : Type} : Except ε α → Option ε
  | .error e => some e
  | .ok _ => none

theorem errorOf_map {ε α β : Type} (answer : Except ε α) (f : α → β) :
    errorOf (answer.map f) = errorOf answer := by
  cases answer <;> rfl

def madeReply? : Exchange → Option (Rpc.Reply Message.createResultsResponse.Value)
  | ⟨⟨.createResultsMetaData, _⟩, reply⟩ => some reply
  | ⟨⟨.createResults, _⟩, reply⟩ => some reply
  | _ => none

def uploadReply? : Exchange → Option (Rpc.Reply Message.uploadResultDataResponse.Value)
  | ⟨⟨.uploadResultData, _⟩, reply⟩ => some reply
  | _ => none

/-- What is wrong with the answer to a call that makes results or fills one, if anything is. -/
def failure? (e : Exchange) : Option GridError :=
  match e.madeReply?, e.uploadReply? with
  | some reply, _ => errorOf (RemotePlane.idsFrom e.resultNames reply)
  | none, some reply => errorOf (reply.first.mapError GridError.rpc)
  | none, none => none

/-- A reply names results with ids: one for each name, in any order. -/
def MadeAll (names : List String) (reply : Rpc.Reply Message.createResultsResponse.Value) : Prop :=
  ∃ made, reply.first = .ok made ∧ ((RemotePlane.madeResults made).map (·.name)).Perm names

/-- A call that makes results has been answered with all of them, and one that fills a result has not failed. -/
structure Answered (e : Exchange) : Prop where
  made : ∀ reply ∈ e.madeReply?, MadeAll e.resultNames reply
  filled : ∀ reply ∈ e.uploadReply?, ∃ done, reply.first = .ok done

instance (names : List String) (reply : Rpc.Reply Message.createResultsResponse.Value) :
    Decidable (MadeAll names reply) :=
  match h : reply.first with
  | .ok made =>
    decidable_of_iff (((RemotePlane.madeResults made).map (·.name)).Perm names)
      ⟨fun hperm => ⟨made, h, hperm⟩, fun ⟨_, hmade, hperm⟩ => Except.ok.inj (h.symm.trans hmade) ▸ hperm⟩
  | .error _ => isFalse fun ⟨_, hmade, _⟩ => by cases h.symm.trans hmade

instance (reply : Rpc.Reply Message.uploadResultDataResponse.Value) :
    Decidable (∃ done, reply.first = .ok done) :=
  match h : reply.first with
  | .ok done => isTrue ⟨done, rfl⟩
  | .error _ => isFalse fun ⟨_, hdone⟩ => by cases hdone

instance : DecidablePred Answered := fun e =>
  decidable_of_iff ((∀ reply ∈ e.madeReply?, MadeAll e.resultNames reply) ∧
    ∀ reply ∈ e.uploadReply?, ∃ done, reply.first = .ok done) ⟨fun h => ⟨h.1, h.2⟩, fun h => ⟨h.made, h.filled⟩⟩

def namedData (messages : List Message.createResultsRequest.Value) : List (String × Octets) :=
  messages.flatMap fun (results, _) => results.map fun (name, data, ()) => (name, data)

def headMessage (session id : String) : Message.uploadResultDataRequest.Value :=
  (some (.inl (session, id, ())), ())

def partMessage (part : Octets) : Message.uploadResultDataRequest.Value := (some (.inr (.inl part)), ())

def partOf : Message.uploadResultDataRequest.Value → Octets
  | (some (.inr (.inl part)), ()) => part
  | _ => []

def streamedData : List Message.uploadResultDataRequest.Value → List (String × Octets)
  | (some (.inl (_, id, ())), ()) :: parts => [(id, parts.flatMap partOf)]
  | _ => []

/-- The ids of the results that a reply names, and their data. -/
def inlineData (data : List (String × Octets)) (reply : Rpc.Reply Message.createResultsResponse.Value) :
    List (String × Octets) :=
  match reply.first with
  | .ok made => (Naming.named (RemotePlane.madeResults made)).filterMap fun x =>
    (Table.find x.1 data).map fun data => (x.2, data)
  | .error _ => []

/-- The ids of the results that have data by a call, and the data. -/
def stores : Exchange → List (String × Octets)
  | ⟨⟨.createResults, messages⟩, reply⟩ => inlineData (namedData messages) reply
  | ⟨⟨.uploadResultData, messages⟩, _⟩ => streamedData messages
  | _ => []

/-- The call of an exchange makes results with their data, some data of them under an id. -/
def Inlines (session id : String) (data : Octets) (e : Exchange) : Prop :=
  (∃ results, e.toReceivedCall = ⟨.createResults, [(results, session, ())]⟩) ∧ (id, data) ∈ e.stores

/-- The call of an exchange names a result and then sends data in parts, none of them empty or too long. -/
def Streams (session id : String) (limit : Nat) (data : Octets) (e : Exchange) : Prop :=
  ∃ parts : List Octets,
    e.toReceivedCall = ⟨.uploadResultData, headMessage session id :: parts.map partMessage⟩ ∧
    (∀ part ∈ parts, part ≠ [] ∧ part.length ≤ limit) ∧ parts.flatten = data

/-- Data goes with the call that makes its result up to a limit, and in parts beyond it. -/
def Carries (session id : String) (limit : Nat) (data : Octets) (e : Exchange) : Prop :=
  if data.length ≤ limit then e.Inlines session id data else e.Streams session id limit data

end Exchange

/-- An answer after exchanges, the last of which may have failed. -/
inductive Went (es : List Exchange) {α : Type} : Except ClientError α → Prop
  | through {a : α} (h : ∀ e ∈ es, e.failure? = none) : Went es (.ok a)
  | stopped {init : List Exchange} {e : Exchange} {error : GridError} (hes : es = init ++ [e])
      (hinit : ∀ e ∈ init, e.failure? = none) (he : e.failure? = some error) :
      Went es (.error error.toClient)

/-- Payloads are the data of the results with the ids beside them, and no result has other data. -/
structure Placed (session : String) (limit : Nat) (es : List Exchange)
    (pairs : List (PlacedPayload × String)) : Prop where
  stored : (es.flatMap Exchange.stores).Perm (pairs.map fun x => (x.2, x.1.data))
  carried : ∀ x ∈ pairs, ∃ e ∈ es, e.Carries session x.2 limit x.1.data

/-- Exchanges that make results of payloads, and the answer with the ids by place. -/
structure Places (session : String) (limit : Nat) (payloads : List PlacedPayload) (es : List Exchange)
    (answer : Except ClientError (List (Nat × String))) : Prop where
  others : ∀ e ∈ es, e.method ≠ .submitTasks
  names : ∀ e ∈ es, e.resultNames.Sublist (payloads.map (·.name))
  went : Went es answer
  placed : ∀ given, answer = .ok given → ∃ pairs, pairs.map Prod.fst = payloads ∧
    given = pairs.map (fun x => (x.1.index, x.2)) ∧ Placed session limit es pairs

namespace Placed
variable {session : String} {limit : Nat}

theorem nil : Placed session limit [] [] := ⟨List.Perm.refl _, by simp⟩

theorem append {es es' : List Exchange} {pairs pairs' : List (PlacedPayload × String)}
    (h : Placed session limit es pairs) (h' : Placed session limit es' pairs') :
    Placed session limit (es ++ es') (pairs ++ pairs') where
  stored := by
    rw [List.flatMap_append, List.map_append]
    exact h.stored.append h'.stored
  carried := by
    intro x hx
    rcases List.mem_append.mp hx with hx | hx
    · obtain ⟨e, he, hcarries⟩ := h.carried x hx
      exact ⟨e, List.mem_append_left _ he, hcarries⟩
    · obtain ⟨e, he, hcarries⟩ := h'.carried x hx
      exact ⟨e, List.mem_append_right _ he, hcarries⟩

end Placed

theorem Places.nil {session : String} {limit : Nat} : Places session limit [] [] (.ok []) where
  others := by simp
  names := by simp
  went := .through (by simp)
  placed given h := ⟨[], rfl, by cases h; rfl, .nil⟩

namespace Went
variable {α β : Type} {es es' : List Exchange}

theorem failed {answer : Except GridError α} {e : Exchange} (h : e.failure? = Exchange.errorOf answer) :
    Went [e] (answer.mapError GridError.toClient) := by
  cases answer with
  | ok a => exact .through fun e' he' => List.mem_singleton.mp he' ▸ h
  | error error =>
    have hnone : ∀ e' ∈ ([] : List Exchange), e'.failure? = none := by simp
    exact .stopped (List.nil_append [e]).symm hnone h

theorem append {a : α} {answer : Except ClientError β} (h : Went es (.ok a)) (h' : Went es' answer) :
    Went (es ++ es') answer := by
  cases h with
  | through h =>
    cases h' with
    | through h' => exact .through (List.forall_mem_append.mpr ⟨h, h'⟩)
    | stopped hes hinit he =>
      subst hes
      exact .stopped (List.append_assoc ..).symm (List.forall_mem_append.mpr ⟨h, hinit⟩) he

theorem clean {a : α} (h : Went es (.ok a)) : ∀ e ∈ es, e.failure? = none := by
  cases h with
  | through h => exact h

theorem ok {a : α} {b : β} (h : Went es (.ok a)) : Went es (.ok b) := .through h.clean

/-- An error is that of the only exchange that failed. -/
theorem exists_failure {error : ClientError} (h : Went es (.error error : Except ClientError α)) :
    ∃ cause : GridError, error = cause.toClient ∧ (∃ e ∈ es, e.failure? = some cause) ∧
      ∀ e ∈ es, ∀ cause', e.failure? = some cause' → cause' = cause := by
  cases h with
  | @stopped init e cause hes hinit he =>
    subst hes
    refine ⟨cause, rfl, ⟨e, by simp, he⟩, fun e' he' cause' hcause => ?_⟩
    rcases List.mem_append.mp he' with hmem | hmem
    · cases (hinit e' hmem).symm.trans hcause
    · cases List.mem_singleton.mp hmem
      exact Option.some.inj (hcause.symm.trans he)

theorem error {error : ClientError} (h : Went es (.error error : Except ClientError α)) :
    Went es (.error error : Except ClientError β) := by
  cases h with
  | stopped hes hinit he => exact .stopped hes hinit he

end Went

namespace RemotePlane

variable {ω : Type} {limit : Nat}

theorem flatMap_partOf (parts : List Octets) :
    (parts.map Exchange.partMessage).flatMap Exchange.partOf = parts.flatten := by
  induction parts with
  | nil => rfl
  | cons part r ih =>
    rw [List.map_cons, List.flatMap_cons, ih]
    rfl

theorem streamedData_uploadMessages (session id : String) (limit : Nat) (data : Octets) :
    Exchange.streamedData (PlacedPayload.uploadMessages session id limit data) = [(id, data)] := by
  have hparts : ((chunks limit data).map Exchange.partMessage).flatMap Exchange.partOf = data := by
    rw [flatMap_partOf, flatten_chunks]
  exact congrArg (fun data => [(id, data)]) hparts

def uploadCall (session : String) (limit : Nat) (x : PlacedPayload × String) : ReceivedCall :=
  ⟨.uploadResultData, PlacedPayload.uploadMessages session x.2 limit x.1.data⟩

theorem stores_of_uploadCall {session : String} {x : PlacedPayload × String} {e : Exchange}
    (h : e.toReceivedCall = uploadCall session limit x) : e.stores = [(x.2, x.1.data)] := by
  obtain ⟨call, reply⟩ := e
  dsimp only at h
  subst h
  exact streamedData_uploadMessages session x.2 limit x.1.data

theorem streams_of_uploadCall {session : String} (hlimit : 0 < limit) {x : PlacedPayload × String}
    {e : Exchange} (h : e.toReceivedCall = uploadCall session limit x) :
    e.Streams session x.2 limit x.1.data := by
  refine ⟨chunks limit x.1.data, h, fun part hpart => ⟨ne_nil_of_mem_chunks hpart, ?_⟩, flatten_chunks ..⟩
  have := length_le_of_mem_chunks hpart
  omega

/-- Streaming keeps to the order of the payloads. -/
theorem placed_of_uploads {session : String} (hlimit : 0 < limit) {pairs : List (PlacedPayload × String)}
    {es : List Exchange} (hlong : ∀ x ∈ pairs, ¬ x.1.data.length ≤ limit)
    (h : List.Forall₂ (fun x e => e.toReceivedCall = uploadCall session limit x) pairs es) :
    Placed session limit es pairs := by
  induction h with
  | nil => exact .nil
  | @cons x e pairs es he _ ih =>
    obtain ⟨hx, hpairs⟩ := List.forall_mem_cons.mp hlong
    have hone : Placed session limit [e] [x] := by
      refine ⟨by simp [stores_of_uploadCall he], fun y hy => ⟨e, List.mem_singleton_self e, ?_⟩⟩
      rw [List.mem_singleton.mp hy, Exchange.Carries, if_neg hx]
      exact streams_of_uploadCall hlimit he
    exact hone.append (ih hpairs)

section Phases
variable (service : Rpc.Service ω) (session : String)

theorem resultNames_of_upload {call : ReceivedCall} (h : call.method = .uploadResultData) :
    call.resultNames = [] := by
  obtain ⟨m, messages⟩ := call
  cases h
  rfl

theorem upload_logs (limit : Nat) (pairs : List (PlacedPayload × String)) (p : RemotePlane (Logged ω)) :
    ∃ es answer p', upload service.recorded session limit pairs p = (answer, p') ∧ Logs p es p' ∧
      Went es answer ∧ (∀ e ∈ es, e.method = .uploadResultData) ∧
      (answer = .ok () → List.Forall₂ (fun x e => e.toReceivedCall = uploadCall session limit x) pairs es) := by
  induction pairs generalizing p with
  | nil => exact ⟨[], .ok (), p, rfl, .refl p, .through (by simp), by simp, fun _ => .nil⟩
  | cons x r ih =>
    let messages := PlacedPayload.uploadMessages session x.2 limit x.1.data
    let read (reply : Rpc.Reply Message.uploadResultDataResponse.Value) : Except GridError Unit :=
      (reply.first.mapError .rpc).map fun _ => ()
    obtain ⟨reply, p', hcall, hlogs⟩ := exchange_logs service p .uploadResultData messages read
    have hwent : Went [⟨⟨.uploadResultData, messages⟩, reply⟩] ((read reply).mapError GridError.toClient) :=
      .failed (Exchange.errorOf_map _ _).symm
    have hupload : upload service.recorded session limit (x :: r) p =
        match (read reply).mapError GridError.toClient with
        | .error e => (.error e, p')
        | .ok () => upload service.recorded session limit r p' := by
      rw [upload, hcall]
      cases read reply <;> rfl
    rw [hupload]
    cases hread : (read reply).mapError GridError.toClient with
    | error e => exact ⟨_, _, p', rfl, hlogs, hread ▸ hwent, by simp, by simp⟩
    | ok u =>
      obtain ⟨es, answer, p'', hrest, hlogs', hwent', hmethods, hcalls⟩ := ih p'
      rw [hread] at hwent
      exact ⟨_, answer, p'', hrest, hlogs.trans hlogs', hwent.append hwent', by simpa using hmethods,
        fun hok => .cons rfl (hcalls hok)⟩

def inlineCall (session : String) (payloads : List PlacedPayload) : ReceivedCall :=
  ⟨.createResults, [(payloads.map fun p => (p.name, p.data, ()), session, ())]⟩

def emptyCall (session : String) (names : List String) : ReceivedCall :=
  ⟨.createResultsMetaData, [(names.map fun name => (name, ()), session, ())]⟩

theorem resultNames_inlineCall (payloads : List PlacedPayload) :
    (inlineCall session payloads).resultNames = payloads.map (·.name) := by
  have h : (inlineCall session payloads).resultNames =
      ((payloads.map fun p => (p.name, p.data, ())).map fun x => x.1) ++ [] := rfl
  rw [h, List.append_nil, List.map_map]
  rfl

theorem resultNames_emptyCall (names : List String) : (emptyCall session names).resultNames = names := by
  have h : (emptyCall session names).resultNames =
      ((names.map fun name => (name, ())).map fun x => x.1) ++ [] := rfl
  rw [h, List.append_nil, List.map_map]
  exact List.map_id names

theorem namedData_inlineCall (payloads : List PlacedPayload) :
    Exchange.namedData (inlineCall session payloads).messages = payloads.map fun p => (p.name, p.data) := by
  have h : Exchange.namedData (inlineCall session payloads).messages =
      ((payloads.map fun p => (p.name, p.data, ())).map fun x => (x.1, x.2.1)) ++ [] := rfl
  rw [h, List.append_nil, List.map_map]
  rfl

theorem idsFrom_eq_ok {names ids : List String} {reply : Rpc.Reply Message.createResultsResponse.Value}
    (h : idsFrom names reply = .ok ids) : ∃ made, reply.first = .ok made ∧ names.Nodup ∧
      names.length = ids.length ∧ (Naming.named (madeResults made)).Perm (names.zip ids) := by
  unfold idsFrom at h
  cases hfirst : reply.first with
  | error status => rw [hfirst] at h; cases h
  | ok made =>
    rw [hfirst] at h
    exact ⟨made, rfl, Naming.idsOf_eq_ok_iff.mp h⟩

theorem stores_inlineCall {payloads : List PlacedPayload} {ids : List String}
    {reply : Rpc.Reply Message.createResultsResponse.Value}
    (h : idsFrom (payloads.map (·.name)) reply = .ok ids) :
    (Exchange.stores ⟨inlineCall session payloads, reply⟩).Perm
      ((payloads.zip ids).map fun x => (x.2, x.1.data)) := by
  obtain ⟨made, hfirst, hnodup, hlength, hperm⟩ := idsFrom_eq_ok h
  let data := payloads.map fun p => (p.name, p.data)
  have hstores : Exchange.stores ⟨inlineCall session payloads, reply⟩ =
      (Naming.named (madeResults made)).filterMap fun x =>
        (Table.find x.1 data).map fun data => (x.2, data) := by
    have h : Exchange.stores ⟨inlineCall session payloads, reply⟩ = Exchange.inlineData data reply :=
      congrArg (Exchange.inlineData · reply) (namedData_inlineCall session payloads)
    rw [h, Exchange.inlineData, hfirst]
  have hfind : ∀ x ∈ payloads.zip ids, Table.find x.1.name data = some x.1.data := by
    intro x hx
    have hkeys : (data.map Prod.fst).Nodup := by rwa [List.map_map]
    exact (Table.find_eq_some_iff hkeys).mpr (List.mem_map_of_mem (List.of_mem_zip hx).1)
  rw [hstores]
  -- The reply may be in any order; beside the names in theirs, every lookup finds its own data.
  refine (hperm.filterMap _).trans (List.Perm.of_eq ?_)
  rw [List.zip_map_left, List.filterMap_map, ← List.filterMap_eq_map]
  refine List.filterMap_congr fun x hx => ?_
  change (Table.find x.1.name data).map (fun data => (x.2, data)) = some (x.2, x.1.data)
  rw [hfind x hx, Option.map_some]

theorem map_pairs {payloads : List PlacedPayload} {ids : List String} (h : payloads.length = ids.length) :
    (payloads.zip ids).map Prod.fst = payloads ∧
      (payloads.map (·.index)).zip ids = (payloads.zip ids).map fun x => (x.1.index, x.2) := by
  refine ⟨List.map_fst_zip (Nat.le_of_eq h), ?_⟩
  rw [List.zip_map_left]
  rfl

/-- The results of payloads are made, or the answer is what is wrong with the reply. -/
theorem createResults_logs (payloads : List PlacedPayload) (p : RemotePlane (Logged ω)) : ∃ reply p',
    createResults service.recorded session payloads p =
      ((idsFrom (payloads.map (·.name)) reply).mapError GridError.toClient, p') ∧
      Logs p [⟨inlineCall session payloads, reply⟩] p' ∧
      Went [⟨inlineCall session payloads, reply⟩]
        ((idsFrom (payloads.map (·.name)) reply).mapError GridError.toClient) := by
  obtain ⟨reply, p', hcall, hlogs⟩ := exchange_logs service p .createResults
    (inlineCall session payloads).messages (idsFrom (payloads.map (·.name)))
  refine ⟨reply, p', hcall, hlogs, .failed ?_⟩
  exact congrArg (fun names => Exchange.errorOf (idsFrom names reply)) (resultNames_inlineCall session payloads)

theorem createEmptyResults_logs (names : List String) (p : RemotePlane (Logged ω)) : ∃ reply p',
    createEmptyResults service.recorded session names p =
      ((idsFrom names reply).mapError GridError.toClient, p') ∧
      Logs p [⟨emptyCall session names, reply⟩] p' ∧
      Went [⟨emptyCall session names, reply⟩] ((idsFrom names reply).mapError GridError.toClient) := by
  obtain ⟨reply, p', hcall, hlogs⟩ := exchange_logs service p .createResultsMetaData
    (emptyCall session names).messages (idsFrom names)
  refine ⟨reply, p', hcall, hlogs, .failed ?_⟩
  exact congrArg (fun names => Exchange.errorOf (idsFrom names reply)) (resultNames_emptyCall session names)

theorem placeInline_logs {payloads : List PlacedPayload} (hfits : ∀ x ∈ payloads, x.data.length ≤ limit)
    (p : RemotePlane (Logged ω)) : ∃ es answer p',
    placeInline service.recorded session payloads p = (answer, p') ∧ Logs p es p' ∧
      Places session limit payloads es answer := by
  unfold placeInline
  by_cases hnil : payloads = []
  · subst hnil
    rw [if_pos rfl]
    exact ⟨[], .ok [], p, rfl, .refl p, .nil⟩
  rw [if_neg hnil]
  let names := payloads.map (·.name)
  obtain ⟨reply, p', hcreate, hlogs, hwent⟩ := createResults_logs service session payloads p
  let e : Exchange := ⟨inlineCall session payloads, reply⟩
  rw [hcreate]
  have hothers : ∀ e' ∈ [e], e'.method ≠ .submitTasks := by simp [e, inlineCall]
  have hnames : ∀ e' ∈ [e], e'.resultNames.Sublist names := by
    rw [List.forall_mem_singleton]
    exact (resultNames_inlineCall session payloads).symm ▸ List.Sublist.refl names
  cases hids : idsFrom names reply with
  | error error =>
    rw [hids] at hwent
    exact ⟨[e], _, p', rfl, hlogs, hothers, hnames, hwent.error, by simp⟩
  | ok ids =>
    rw [hids] at hwent
    obtain ⟨-, -, -, hlength, -⟩ := idsFrom_eq_ok hids
    obtain ⟨hfst, hgiven⟩ := map_pairs ((List.length_map _).symm.trans hlength)
    have hperm := stores_inlineCall session hids
    have hplaced : Placed session limit [e] (payloads.zip ids) := by
      refine ⟨by simpa using hperm, fun x hx => ⟨e, List.mem_singleton_self e, ?_⟩⟩
      rw [Exchange.Carries, if_pos (hfits x.1 (List.of_mem_zip hx).1)]
      exact ⟨⟨_, rfl⟩, hperm.mem_iff.mpr (List.mem_map_of_mem hx)⟩
    refine ⟨[e], _, p', rfl, hlogs, hothers, hnames, hwent.ok, ?_⟩
    rintro given ⟨⟩
    exact ⟨payloads.zip ids, hfst, hgiven, hplaced⟩

theorem placeStreamed_logs (hlimit : 0 < limit) {payloads : List PlacedPayload}
    (hlong : ∀ x ∈ payloads, ¬ x.data.length ≤ limit) (p : RemotePlane (Logged ω)) : ∃ es answer p',
    placeStreamed service.recorded session limit payloads p = (answer, p') ∧ Logs p es p' ∧
      Places session limit payloads es answer := by
  unfold placeStreamed
  by_cases hnil : payloads = []
  · subst hnil
    rw [if_pos rfl]
    exact ⟨[], .ok [], p, rfl, .refl p, .nil⟩
  rw [if_neg hnil]
  let names := payloads.map (·.name)
  obtain ⟨reply, p', hcreate, hlogs, hwent⟩ := createEmptyResults_logs service session names p
  let e : Exchange := ⟨emptyCall session names, reply⟩
  rw [hcreate]
  have hname : e.resultNames.Sublist names :=
    (resultNames_emptyCall session names).symm ▸ List.Sublist.refl names
  cases hids : idsFrom names reply with
  | error error =>
    rw [hids] at hwent
    exact ⟨[e], _, p', rfl, hlogs, by simp [e, emptyCall], by simpa using hname, hwent.error, by simp⟩
  | ok ids =>
    rw [hids] at hwent
    obtain ⟨-, -, -, hlength, -⟩ := idsFrom_eq_ok hids
    obtain ⟨hfst, hgiven⟩ := map_pairs ((List.length_map _).symm.trans hlength)
    obtain ⟨es, answer, p'', hupload, hlogs', hwent', hmethods, hcalls⟩ :=
      upload_logs service session limit (payloads.zip ids) p'
    have hothers : ∀ e' ∈ e :: es, e'.method ≠ .submitTasks := by
      refine List.forall_mem_cons.mpr ⟨by simp [e, emptyCall], fun e' he' => ?_⟩
      rw [hmethods e' he']
      decide
    have hnames : ∀ e' ∈ e :: es, e'.resultNames.Sublist names := by
      refine List.forall_mem_cons.mpr ⟨hname, fun e' he' => ?_⟩
      rw [resultNames_of_upload (hmethods e' he')]
      exact List.nil_sublist names
    have hall := hwent.append hwent'
    dsimp only [Except.mapError]
    rw [hupload]
    cases answer with
    | error error => exact ⟨e :: es, _, p'', rfl, hlogs.trans hlogs', hothers, hnames, hall.error, by simp⟩
    | ok u =>
      have hempty : Placed session limit [e] [] := ⟨List.Perm.refl _, by simp⟩
      have hlong' : ∀ x ∈ payloads.zip ids, ¬ x.1.data.length ≤ limit := fun x hx =>
        hlong x.1 (List.of_mem_zip hx).1
      refine ⟨e :: es, _, p'', rfl, hlogs.trans hlogs', hothers, hnames, hall.ok, ?_⟩
      rintro given ⟨⟩
      exact ⟨payloads.zip ids, hfst, hgiven, hempty.append (placed_of_uploads hlimit hlong' (hcalls rfl))⟩

/-- Payloads are placed in two parts, those that fit first. -/
theorem place_logs (hlimit : 0 < limit) (payloads : List PlacedPayload) (p : RemotePlane (Logged ω)) :
    ∃ es answer p', place service.recorded session limit payloads p = (answer, p') ∧ Logs p es p' ∧
      Places session limit (payloads.filter (·.fits limit) ++ payloads.filter (!·.fits limit)) es answer := by
  have hfits : ∀ x ∈ payloads.filter (·.fits limit), x.data.length ≤ limit := fun x hx => by
    simpa [PlacedPayload.fits] using (List.mem_filter.mp hx).2
  have hlong : ∀ x ∈ payloads.filter (!·.fits limit), ¬ x.data.length ≤ limit := fun x hx => by
    simpa [PlacedPayload.fits] using (List.mem_filter.mp hx).2
  unfold place
  obtain ⟨es, answer, p', hinline, hlogs, hplaces⟩ := placeInline_logs service session hfits p
  rw [hinline]
  cases answer with
  | error error =>
    exact ⟨es, _, p', rfl, hlogs, hplaces.others, fun e he => (hplaces.names e he).trans (by simp),
      hplaces.went, by simp⟩
  | ok inline =>
    obtain ⟨es', answer', p'', hstreamed, hlogs', hplaces'⟩ :=
      placeStreamed_logs service session hlimit hlong p'
    have hothers := List.forall_mem_append.mpr ⟨hplaces.others, hplaces'.others⟩
    have hwent := hplaces.went.append hplaces'.went
    have hnames : ∀ e ∈ es ++ es', e.resultNames.Sublist
        ((payloads.filter (·.fits limit) ++ payloads.filter (!·.fits limit)).map (·.name)) := by
      rw [List.map_append]
      exact List.forall_mem_append.mpr ⟨fun e he => (hplaces.names e he).trans (List.sublist_append_left _ _),
        fun e he => (hplaces'.names e he).trans (List.sublist_append_right _ _)⟩
    dsimp only
    rw [hstreamed]
    cases answer' with
    | error error => exact ⟨es ++ es', _, p'', rfl, hlogs.trans hlogs', hothers, hnames, hwent, by simp⟩
    | ok streamed =>
      obtain ⟨pairs, hfst, rfl, hplaced⟩ := hplaces.placed inline rfl
      obtain ⟨pairs', hfst', rfl, hplaced'⟩ := hplaces'.placed streamed rfl
      refine ⟨es ++ es', _, p'', rfl, hlogs.trans hlogs', hothers, hnames, hwent.ok, ?_⟩
      rintro given ⟨⟩
      exact ⟨pairs ++ pairs', by rw [List.map_append, hfst, hfst'], (List.map_append ..).symm,
        hplaced.append hplaced'⟩

end Phases
end RemotePlane
end TaskGrid
