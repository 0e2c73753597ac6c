import TaskGrid.Plane.Remote
import TaskGrid.Scenario.Remote

/-! A far side that keeps a log of what is sent to it and of what it answers. One lemma per kind of call says what
it adds to the log and what becomes of the answer; keeping the log changes no answer. -/
namespace TaskGrid

/-- A call that reached the far side, and what came back. -/
structure Exchange extends ReceivedCall where
  reply : Rpc.Reply method.reply.Value

/-- The far side and a log of the calls that reached it, the first one first. -/
structure Logged (ω : Type) where
  world : ω
  log : List Exchange := []

variable {ω α β : Type}

def Rpc.Service.recorded (service : Rpc.Service ω) : Rpc.Service (Logged ω) where
  dial endpoint l :=
    let (number, world) := service.dial endpoint l.world
    (number, { l with world })
  call channel m messages l :=
    let (reply, world) := service.call channel m messages l.world
    (reply, ⟨world, l.log ++ [⟨⟨m, messages⟩, reply⟩]⟩)
  freshName l :=
    let (name, world) := service.freshName l.world
    (name, { l with world })

namespace RemotePlane

def recorded (p : RemotePlane ω) : RemotePlane (Logged ω) := ⟨p.client, { world := p.world }⟩

def forget (p : RemotePlane (Logged ω)) : RemotePlane ω := ⟨p.client, p.world.world⟩

@[simp] theorem forget_recorded (p : RemotePlane ω) : p.recorded.forget = p := rfl

/-- Some exchanges were added to the log. -/
def Logs (p : RemotePlane (Logged ω)) (es : List Exchange) (p' : RemotePlane (Logged ω)) : Prop :=
  p'.world.log = p.world.log ++ es

theorem Logs.refl (p : RemotePlane (Logged ω)) : Logs p [] p := (List.append_nil _).symm

theorem Logs.trans {p p' p'' : RemotePlane (Logged ω)} {es es' : List Exchange} (h : Logs p es p')
    (h' : Logs p' es' p'') : Logs p (es ++ es') p'' := by
  unfold Logs at h h' ⊢
  rw [h', h, List.append_assoc]

section Log
variable (service : Rpc.Service ω) (p : RemotePlane (Logged ω))

/-- Whatever the state of the pool, there is a channel to be had. -/
theorem acquire_recorded (pool : ChannelPool RemoteChannel) (endpoint : String) (l : Logged ω) :
    ∃ channel pool' l', pool.acquire (factory service.recorded endpoint) l = (.ok channel, pool', l') ∧
      l'.log = l.log := by
  unfold ChannelPool.acquire
  split
  · exact ⟨_, _, _, rfl, rfl⟩
  · exact ⟨_, _, _, rfl, rfl⟩

theorem exchange_logs (m : Rpc.Method) (messages : List m.request.Value)
    (read : Rpc.Reply m.reply.Value → Except GridError α) : ∃ reply p',
    exchange service.recorded m messages read p = ((read reply).mapError GridError.toClient, p') ∧
      Logs p [⟨⟨m, messages⟩, reply⟩] p' := by
  obtain ⟨channel, pool, l, hacquire, hlog⟩ :=
    acquire_recorded service p.client.channels p.client.endpoint p.world
  simp only [exchange, hacquire]
  exact ⟨_, _, rfl, congrArg (· ++ _) hlog⟩

theorem freshNames_logs (n : Nat) : ∃ names p', freshNames (freshName service.recorded) n p = (names, p') ∧
    Logs p [] p' := by
  induction n generalizing p with
  | zero => exact ⟨[], p, rfl, .refl p⟩
  | succ n ih =>
    obtain ⟨names, p', hnames, hlogs⟩ := ih (freshName service.recorded p).2
    rw [freshNames]
    simp only [hnames]
    exact ⟨_, _, rfl, hlogs⟩

end Log

/-- A call answers alike with a log and without, and leaves the same behind. -/
def Mirrors (c : Call (RemotePlane ω) α) (c' : Call (RemotePlane (Logged ω)) α) : Prop :=
  ∀ p, c p.forget = ((c' p).1, (c' p).2.forget)

section Mirrors
variable (service : Rpc.Service ω)

theorem exchange_mirrors (m : Rpc.Method) (messages : List m.request.Value)
    (read : Rpc.Reply m.reply.Value → Except GridError α) :
    Mirrors (exchange service m messages read) (exchange service.recorded m messages read) := by
  rintro ⟨⟨endpoint, ⟨free⟩, limit⟩, world, log⟩
  simp only [exchange, ChannelPool.acquire, factory, forget]
  cases ChannelPool.takeUsable (fun c : RemoteChannel => !c.failed) free <;> rfl

theorem ask_mirrors (m : Rpc.Method) (message : m.request.Value) (read : m.reply.Value → Except GridError α) :
    Mirrors (ask service m message read) (ask service.recorded m message read) :=
  exchange_mirrors service m [message] _

theorem createResults_mirrors (session : String) (payloads : List PlacedPayload) :
    Mirrors (createResults service session payloads) (createResults service.recorded session payloads) :=
  ask_mirrors service .createResults _ _

theorem createEmptyResults_mirrors (session : String) (names : List String) :
    Mirrors (createEmptyResults service session names) (createEmptyResults service.recorded session names) :=
  ask_mirrors service .createResultsMetaData _ _

theorem dataLimit_mirrors : Mirrors (dataLimit service) (dataLimit service.recorded) := by
  intro p
  unfold dataLimit
  cases hlimit : p.client.dataLimit with
  | some limit => simp only [forget, hlimit]
  | none =>
    rw [ask_mirrors service .getServiceConfiguration () readDataLimit p]
    simp only [forget, hlimit]
    obtain ⟨_ | _, _⟩ := ask service.recorded .getServiceConfiguration () readDataLimit p <;> rfl

theorem upload_mirrors (session : String) (limit : Nat) (pairs : List (PlacedPayload × String)) :
    Mirrors (upload service session limit pairs) (upload service.recorded session limit pairs) := by
  induction pairs with
  | nil => exact fun _ => rfl
  | cons x r ih =>
    intro p
    rw [upload, upload, exchange_mirrors]
    obtain ⟨_ | _, p'⟩ := exchange service.recorded .uploadResultData _ _ p
    · rfl
    · exact ih p'

theorem placeInline_mirrors (session : String) (payloads : List PlacedPayload) :
    Mirrors (placeInline service session payloads) (placeInline service.recorded session payloads) := by
  intro p
  unfold placeInline
  split
  · rfl
  · rw [createResults_mirrors]
    obtain ⟨_ | _, _⟩ := createResults service.recorded session payloads p <;> rfl

theorem placeStreamed_mirrors (session : String) (limit : Nat) (payloads : List PlacedPayload) :
    Mirrors (placeStreamed service session limit payloads)
      (placeStreamed service.recorded session limit payloads) := by
  intro p
  unfold placeStreamed
  split
  · rfl
  · rw [createEmptyResults_mirrors]
    obtain ⟨_ | ids, p'⟩ := createEmptyResults service.recorded session _ p
    · rfl
    · dsimp only
      rw [upload_mirrors]
      obtain ⟨_ | _, _⟩ := upload service.recorded session limit (payloads.zip ids) p' <;> rfl

theorem place_mirrors (session : String) (limit : Nat) (payloads : List PlacedPayload) :
    Mirrors (place service session limit payloads) (place service.recorded session limit payloads) := by
  intro p
  rw [place, place, placeInline_mirrors]
  obtain ⟨_ | _, p'⟩ := placeInline service.recorded session _ p
  · rfl
  · dsimp only
    rw [placeStreamed_mirrors]
    obtain ⟨_ | _, _⟩ := placeStreamed service.recorded session limit _ p' <;> rfl

theorem freshNames_mirrors (n : Nat) (p : RemotePlane (Logged ω)) :
    freshNames (freshName service) n p.forget =
      ((freshNames (freshName service.recorded) n p).1,
        (freshNames (freshName service.recorded) n p).2.forget) := by
  induction n generalizing p with
  | zero => rfl
  | succ n ih =>
    have h := ih (freshName service.recorded p).2
    rw [freshNames, freshNames]
    exact congrArg (fun x => ((freshName service.recorded p).1 :: x.1, x.2)) h

theorem submitTasks_mirrors (session : String) (options : Option TaskOptions) (tasks : List TaskSubmission) :
    Mirrors (submitTasks service session options tasks) (submitTasks service.recorded session options tasks) := by
  intro p
  rw [submitTasks, submitTasks, dataLimit_mirrors]
  obtain ⟨_ | limit, p'⟩ := dataLimit service.recorded p
  · rfl
  · dsimp only
    rw [freshNames_mirrors]
    dsimp only
    rw [place_mirrors]
    obtain ⟨_ | _, p''⟩ := place service.recorded session limit _ _
    · rfl
    · exact ask_mirrors service .submitTasks _ _ p''

end Mirrors
end RemotePlane
end TaskGrid
