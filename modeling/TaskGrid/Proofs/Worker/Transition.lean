import TaskGrid.Library.Loaders
import TaskGrid.Proofs.Payload.RoundTrip
import TaskGrid.Proofs.Worker.Mirror
import TaskGrid.Proofs.Worker.Steps

/-! What a worker does for a task, from any state it can reach: it keeps the levels that the task shares with
the task before, tears down the rest, and sets up what is missing, up to the first step that fails. -/
namespace TaskGrid

/-- What happens at the boundary, without the contexts. An attempt to load is one whether or not it
succeeds. -/
inductive Act where
  | load (path : String)
  | unload
  | create (group name : CText)
  | destroy
  | enter (session : CText)
  | leave
  | call (method : CText) (input : Data)
  deriving DecidableEq, Repr

def LibraryEvent.act : LibraryEvent → Act
  | .refused path | .loaded _ path => .load path
  | .unloaded _ => .unload
  | .created _ group name _ => .create group name
  | .destroyed _ _ => .destroy
  | .entered _ _ session _ => .enter session
  | .left _ _ _ => .leave
  | .called _ _ _ method input => .call method input

structure Request where
  app : AppId
  service : ServiceId
  session : String
  method : String
  arguments : Octets

namespace Request

def ofTask (task : Task) (payload : Payload) : Request where
  app := .ofOptions task.options
  service := .ofOptions task.options
  session := task.session
  method := payload.method
  arguments := payload.arguments

/-- The steps that a worker takes that has nothing in use. -/
def steps (q : Request) (path : String) : List Act :=
  [.load path, .create (CText.over q.service.group) (CText.over q.service.name),
    .enter (CText.over q.session), .call (CText.over q.method) (.ofOctets q.arguments)]

/-- Why a step fails, if it does; `refusal` is what the loader says. -/
def fault? (q : Request) (refusal : Option WorkerError) : Nat → Option WorkerError
  | 0 => refusal
  | 1 => q.service.nulPosition?.map .nulInText
  | 2 => (CText.nulPosition? q.session).map .nulInText
  | 3 => (CText.nulPosition? q.method).map .nulInText
  | _ => none

end Request

abbrev Held := Option AppId × Option ServiceId × Option String

namespace Request

def held (q : Request) : Held := (some q.app, some q.service, some q.session)

/-- What is in use once a step failed; `old` is the session that was in use before. -/
def heldAfter (q : Request) (old : Option String) : Nat → Held
  | 0 => (none, none, none)
  | 1 => (some q.app, none, none)
  | 2 => (some q.app, some q.service, old)
  | _ => q.held

end Request

namespace Worker

variable {σ τ : Type} {load : Loader σ} {w w' : Worker (Traced σ)}

def acts (w : Worker (Traced σ)) : List Act := w.world.events.map LibraryEvent.act

def held (w : Worker (Traced σ)) : Held := (w.application?, w.service?, w.session?)

/-- The number of levels, from the application down, that a request shares with what is in use. -/
def kept (w : Worker (Traced σ)) (q : Request) : Nat :=
  if w.application? ≠ some q.app then 0
  else if w.service? ≠ some q.service then 1
  else if w.session? ≠ some q.session then 2
  else 3

def teardown (w : Worker (Traced σ)) (k : Nat) : List Act :=
  (if k ≤ 2 then w.session?.elim [] fun _ => [.leave] else []) ++
    (if k ≤ 1 then w.service?.elim [] fun _ => [.destroy] else []) ++
    if k = 0 then w.application?.elim [] fun _ => [.unload] else []

/-- What the loader says of the application of a request, once nothing is in use any more. -/
def refusal? (w : Worker (Traced σ)) (load : Loader σ) (app : AppId) : Option WorkerError :=
  match (load (w.libraryPath app) w.dropApplication.world.world).1 with
  | .error e => some e
  | .ok _ => none

theorem acts_of_adds {t : Traced σ} {l : List LibraryEvent} (ht : w.world.Adds l t) :
    t.events.map LibraryEvent.act = w.acts ++ l.map LibraryEvent.act := by
  rw [ht.events, List.map_append]
  rfl

theorem map_act_leaving (n : Nat) {s : ActiveService (Traced σ)} (hs : w.service = some s) :
    (s.leaving n).map LibraryEvent.act = w.teardown 2 := by
  have hsession : w.session? = s.session? := by rw [session?, hs]; rfl
  simp only [teardown, hsession, ActiveService.leaving, ActiveService.session?]
  cases s.session <;> rfl

theorem map_act_closingService : w.closingService.map LibraryEvent.act = w.teardown 1 := by
  unfold closingService
  cases hs : w.service with
  | none => simp [teardown, session?, service?, hs]
  | some s =>
    have hleave := map_act_leaving w.number hs
    have hservice : w.service? = some s.id := by rw [service?, hs]; rfl
    simp only [Option.elim_some, ActiveService.closing, List.map_append, hleave]
    simp [teardown, hservice, LibraryEvent.act]

theorem map_act_closing : w.closing.map LibraryEvent.act = w.teardown 0 := by
  rw [closing, List.map_append, map_act_closingService]
  cases ha : w.application <;> simp [teardown, application?, ha, LibraryEvent.act]

/-- What comes of a request that shares some levels with what is in use. A session that cannot be named is
found out before the one in use is left. -/
structure Outcome (k : Nat) (w : Worker (Traced σ)) (q : Request) (refusal : Option WorkerError)
    (u : τ) (r : Except WorkerError ProcessStatus × τ × Worker (Traced σ)) : Prop where
  fails : ∀ j e, k ≤ j → (∀ i, k ≤ i → i < j → q.fault? refusal i = none) →
    q.fault? refusal j = some e →
    r.1 = .error e ∧ r.2.1 = u ∧
      r.2.2.acts = w.acts ++ (if k = 2 ∧ j = 2 then [] else w.teardown k) ++
        ((q.steps (w.libraryPath q.app)).take (max 1 j)).drop k ∧
      r.2.2.held = q.heldAfter (if k = 2 then w.session? else none) j
  succeeds : (∀ i, k ≤ i → q.fault? refusal i = none) →
    r.2.2.acts = w.acts ++ w.teardown k ++ (q.steps (w.libraryPath q.app)).drop k ∧
      r.2.2.held = q.held

variable {q : Request} {refusal : Option WorkerError} {u : τ} {k : Nat}
  {r : Except WorkerError ProcessStatus × τ × Worker (Traced σ)}

theorem fault?_eq_none_of_lt {j : Nat} (h : 3 < j) : q.fault? refusal j = none := by
  match j, h with
  | n + 4, _ => rfl

theorem drop_take_append {α : Type} (l : List α) {m : Nat} (h : k < m) :
    (l.take (k + 1)).drop k ++ (l.take m).drop (k + 1) = (l.take m).drop k := by
  have hsplit : ((l.take m).take (k + 1)).drop k ++ (l.take m).drop (k + 1) = (l.take m).drop k := by
    rw [List.drop_take, Nat.add_sub_cancel_left, ← List.drop_drop, List.take_append_drop]
  rwa [List.take_take, Nat.min_eq_left h] at hsplit

/-- The first step that is taken fails. -/
theorem Outcome.of_fault {e : WorkerError} (hf : q.fault? refusal k = some e)
    (hr : r = (.error e, u, w'))
    (hacts : w'.acts = w.acts ++ (if k = 2 then [] else w.teardown k) ++
      ((q.steps (w.libraryPath q.app)).take (max 1 k)).drop k)
    (hheld : w'.held = q.heldAfter (if k = 2 then w.session? else none) k) :
    Outcome k w q refusal u r := by
  subst hr
  constructor
  · intro j e' hj hbefore hfault
    obtain rfl | hlt := Nat.eq_or_lt_of_le hj
    · rw [hf] at hfault
      cases hfault
      exact ⟨rfl, rfl, by simpa using hacts, hheld⟩
    · have hnone := hbefore k (Nat.le_refl k) hlt
      rw [hf] at hnone
      cases hnone
  · intro hnone
    have hk := hnone k (Nat.le_refl k)
    rw [hf] at hk
    cases hk

/-- The first step that is taken succeeds, and leaves nothing to tear down. -/
theorem Outcome.of_step (h : Outcome (k + 1) w' q refusal u r) (hk : k < 3)
    (hnone : q.fault? refusal k = none) (hpath : w'.libraryPath q.app = w.libraryPath q.app)
    (hacts : w'.acts = w.acts ++ w.teardown k ++
      ((q.steps (w.libraryPath q.app)).take (k + 1)).drop k)
    (hclean : w'.teardown (k + 1) = []) (hsession : k ≤ 1 → w'.session? = none) :
    Outcome k w q refusal u r := by
  constructor
  · intro j e hj hbefore hfault
    obtain rfl | hlt := Nat.eq_or_lt_of_le hj
    · rw [hnone] at hfault
      cases hfault
    · obtain ⟨he, hu, ha, hh⟩ := h.fails j e hlt (fun i hi => hbefore i (by omega)) hfault
      refine ⟨he, hu, ?_, ?_⟩
      · rw [ha, hacts, hpath, hclean, ite_self, List.append_nil, List.append_assoc,
          drop_take_append _ (by omega), if_neg (by omega)]
      · rw [hh]
        -- the session from before matters only to a request that is refused for its session at once
        by_cases hk2 : k = 2
        · subst hk2
          have hj3 : j = 3 := by
            rcases Nat.lt_or_ge 3 j with hgt | hle
            · rw [fault?_eq_none_of_lt hgt] at hfault
              cases hfault
            · omega
          subst hj3
          rfl
        · rw [hsession (by omega), ite_self, if_neg hk2]
  · intro hall
    obtain ⟨ha, hh⟩ := h.succeeds fun i hi => hall i (by omega)
    refine ⟨?_, hh⟩
    have hdrop := drop_take_append (q.steps (w.libraryPath q.app)) (k := k) (m := 4) (by omega)
    have hall4 : (q.steps (w.libraryPath q.app)).take 4 = q.steps (w.libraryPath q.app) := rfl
    rw [hall4] at hdrop
    rw [ha, hacts, hpath, hclean, List.append_nil, List.append_assoc, hdrop]

section
variable (h : Sound load w) (host : TaskHost τ)
include h

theorem outcome_call {s : ActiveService (Traced σ)} {x : String × Context} (hs : w.service = some s)
    (hx : s.session = some x) (hheld : w.held = q.held) (refusal : Option WorkerError) (u : τ) :
    Outcome 3 w q refusal u (w.call host q.method q.arguments u) := by
  obtain ⟨id, c⟩ := x
  have hdown : w.teardown 3 = [] := rfl
  cases hp : CText.nulPosition? q.method with
  | some p =>
    refine .of_fault (e := .nulInText p) ?_ (call_of_nul hs host q.arguments u hx hp) ?_ hheld
    · simp [Request.fault?, hp]
    · simp [hdown, Request.steps]
  | none =>
    obtain ⟨answer, u', t, ht, hw⟩ := call_of_passes hs host q.arguments u hx h hp
    have hall (i : Nat) (hi : 3 ≤ i) : q.fault? refusal i = none := by
      obtain rfl | hlt := Nat.eq_or_lt_of_le hi
      · simp [Request.fault?, hp]
      · exact fault?_eq_none_of_lt hlt
    constructor
    · intro j e hj _ hfault
      rw [hall j hj] at hfault
      cases hfault
    · intro _
      rw [hw]
      refine ⟨?_, hheld⟩
      rw [hdown, List.append_nil]
      exact acts_of_adds ht

def fromSession (w : Worker (Traced σ)) (q : Request) (host : TaskHost τ) (u : τ) :
    Except WorkerError ProcessStatus × τ × Worker (Traced σ) :=
  match w.useSession q.session with
  | (.error e, w) => (.error e, u, w)
  | (.ok (), w) => w.call host q.method q.arguments u

def fromService (w : Worker (Traced σ)) (q : Request) (host : TaskHost τ) (u : τ) :
    Except WorkerError ProcessStatus × τ × Worker (Traced σ) :=
  match w.useService q.service with
  | (.error e, w) => (.error e, u, w)
  | (.ok (), w) => w.fromSession q host u

def fromApplication (w : Worker (Traced σ)) (q : Request) (host : TaskHost τ) (u : τ) :
    Except WorkerError ProcessStatus × τ × Worker (Traced σ) :=
  match w.useApplication q.app with
  | (.error e, w) => (.error e, u, w)
  | (.ok (), w) => w.fromService q host u

theorem outcome_session {s : ActiveService (Traced σ)} (hs : w.service = some s)
    (ha : w.application? = some q.app) (hid : s.id = q.service)
    (hne : s.session? ≠ some q.session) (refusal : Option WorkerError) (u : τ) :
    Outcome 2 w q refusal u (w.fromSession q host u) := by
  have hservice : w.service? = some q.service := by rw [service?, hs, ← hid]; rfl
  unfold fromSession
  cases hp : CText.nulPosition? q.session with
  | some p =>
    rw [useSession_of_nul hs hne hp]
    refine .of_fault (e := .nulInText p) (by simp [Request.fault?, hp]) rfl ?_ ?_
    · simp [Request.steps]
    · rw [held, ha, hservice]
      rfl
  | none =>
    obtain ⟨c, t, ht, hw⟩ := useSession_of_passes hs h hne hp
    rw [hw]
    have hheld : held { w with
        service := some { s with session := some (q.session, c) }, world := t } = q.held := by
      simp [held, Request.held, ← ha, ← hid, application?, service?, session?,
        ActiveService.session?]
    have hcall := outcome_call (h.move (.entered hs ht)) host rfl rfl hheld refusal u
    refine hcall.of_step (by omega) (by simp [Request.fault?, hp]) rfl ?_ rfl (by omega)
    rw [acts, acts_of_adds ht, List.map_append, map_act_leaving _ hs, List.append_assoc]
    rfl

theorem outcome_service {x : AppId × Library (Traced σ)} (hx : w.application = some x)
    (ha : x.1 = q.app) (hne : w.service? ≠ some q.service) (refusal : Option WorkerError) (u : τ) :
    Outcome 1 w q refusal u (w.fromService q host u) := by
  unfold fromService
  cases hp : q.service.nulPosition? with
  | some p =>
    obtain ⟨t, ht, hw⟩ := useService_of_nul hne h hx hp
    rw [hw]
    refine .of_fault (e := .nulInText p) (by simp [Request.fault?, hp]) rfl ?_ ?_
    · rw [acts, acts_of_adds ht, map_act_closingService]
      exact (List.append_nil _).symm
    · simp [held, Request.heldAfter, application?, service?, session?, hx, ha]
  | none =>
    obtain ⟨c, t, ht, hw⟩ := useService_of_passes hne h hx hp
    rw [hw]
    have ha' : application? { w with service := some ⟨q.service, x.2.entry, c, none⟩, world := t } =
        some q.app := by
      simp [application?, hx, ha]
    have hnone : none ≠ some q.session := (Option.some_ne_none _).symm
    have hsession := outcome_session (h.move (.created hx ht)) host rfl ha' rfl hnone refusal u
    refine hsession.of_step (by omega) (by simp [Request.fault?, hp]) rfl ?_ rfl fun _ => rfl
    rw [acts, acts_of_adds ht, List.map_append, map_act_closingService, List.append_assoc]
    rfl

theorem outcome_application (hne : w.application? ≠ some q.app) (u : τ) :
    Outcome 0 w q (w.refusal? load q.app) u (w.fromApplication q host u) := by
  unfold fromApplication refusal?
  rcases hl : load (w.libraryPath q.app) w.dropApplication.world.world with ⟨e | l, world⟩
  · obtain ⟨t, ht, hw⟩ := useApplication_of_refused hne h hl
    rw [hw]
    refine .of_fault rfl rfl ?_ rfl
    rw [acts, Traced.attempt, Traced.log, List.map_append, acts_of_adds ht, map_act_closing]
    rfl
  · obtain ⟨t, ht, hw⟩ := useApplication_of_loaded hne h hl
    have hm : Move w _ := .loaded q.app l world (w.libraryPath q.app) ht
    have hnone : none ≠ some q.service := (Option.some_ne_none _).symm
    have hservice := outcome_service (h.move hm) host rfl rfl hnone none u
    rw [hw]
    refine hservice.of_step (by omega) rfl rfl ?_ rfl fun _ => rfl
    rw [acts, Traced.attempt, Traced.log, List.map_append, acts_of_adds ht, map_act_closing]
    rfl

end

theorem attempt_eq (w : Worker (Traced σ)) {task : Task} {payload : Payload}
    (hp : Payload.decode task.payload = .ok payload) (host : TaskHost τ) (u : τ) :
    w.attempt task host u = w.fromApplication (.ofTask task payload) host u := by
  rw [attempt, hp]
  simp only [fromApplication, Request.ofTask]
  rcases w.useApplication (.ofOptions task.options) with ⟨_ | _, w⟩
  · rfl
  simp only [fromService]
  rcases w.useService (.ofOptions task.options) with ⟨_ | _, w⟩
  · rfl
  simp only [fromSession]
  rcases w.useSession task.session with ⟨_ | _, w⟩ <;> rfl

/-- A task is carried out from the first level that it does not share with what is in use. -/
theorem outcome_attempt (h : Sound load w) (q : Request) (host : TaskHost τ) (u : τ) :
    Outcome (w.kept q) w q (w.refusal? load q.app) u (w.fromApplication q host u) := by
  unfold kept
  split
  · next ha => exact outcome_application h host ha u
  · next ha =>
    have ha : w.application? = some q.app := Decidable.not_not.mp ha
    have happ : w.fromApplication q host u = w.fromService q host u := by
      rw [fromApplication, useApplication, if_pos ha]
    obtain ⟨x, hx, hxa⟩ := Option.map_eq_some_iff.mp ha
    rw [happ]
    split
    · next hs => exact outcome_service h host hx hxa hs _ u
    · next hs =>
      have hs : w.service? = some q.service := Decidable.not_not.mp hs
      have hservice : w.fromService q host u = w.fromSession q host u := by
        rw [fromService, useService, if_pos hs]
      obtain ⟨s, hw, hid⟩ := Option.map_eq_some_iff.mp hs
      have hsession : w.session? = s.session? := by
        rw [session?, hw]
        rfl
      rw [hservice, hsession]
      split
      · next hne => exact outcome_session h host hw ha hid hne _ u
      · next hne =>
        have hsame : s.session? = some q.session := Decidable.not_not.mp hne
        obtain ⟨y, hy, -⟩ := Option.map_eq_some_iff.mp hsame
        have hheld : w.held = q.held := by
          rw [held, ha, hs, hsession, hsame]
          rfl
        have hcall : w.fromSession q host u = w.call host q.method q.arguments u := by
          rw [fromSession, useSession_of_same hw hsame]
        rw [hcall]
        exact outcome_call h host hw hy hheld _ u

theorem process_of_error {task : Task} {host : TaskHost τ} {e : WorkerError}
    (he : (w.attempt task host u).1 = .error e) :
    (w.process task host u).1 = .error e.message ∧
      (w.process task host u).2 = (w.attempt task host u).2 := by
  rw [process_eq, he]
  exact ⟨rfl, rfl⟩

/-- What a worker does for a task, in any state it can be in, as the trace beside it tells. A malformed payload
changes nothing. Else the worker keeps the levels the task shares with what is in use, tears down the others,
and takes the missing steps in their order; the first that fails is the last, and the state says how far it
came. -/
theorem process_exact (settings : Settings) (load : Loader σ) (world : σ)
    (operations : List Operation) (task : Task) (host : TaskHost τ) (u : τ) :
    let w := (startTraced settings load world).run operations
    let r := w.process task host u
    let plain := ((start settings load world).run operations).process task host u
    (r.1 = plain.1 ∧ r.2.1 = plain.2.1 ∧ Mirrors plain.2.2 r.2.2) ∧
      (∀ flaw, Payload.decode task.payload = .error flaw →
        r = (.error (WorkerError.payload flaw.toGrid).message, u, w)) ∧
      ∀ payload, Payload.decode task.payload = .ok payload →
        let q := Request.ofTask task payload
        let k := w.kept q
        let steps := q.steps (w.libraryPath q.app)
        let fault? := q.fault? (w.refusal? load q.app)
        (∀ j e, k ≤ j → (∀ i, k ≤ i → i < j → fault? i = none) → fault? j = some e →
            r.1 = .error e.message ∧ r.2.1 = u ∧
              r.2.2.acts = w.acts ++ (if k = 2 ∧ j = 2 then [] else w.teardown k) ++
                (steps.take (max 1 j)).drop k ∧
              r.2.2.held = q.heldAfter (if k = 2 then w.session? else none) j) ∧
          ((∀ i, k ≤ i → fault? i = none) →
            r.2.2.acts = w.acts ++ w.teardown k ++ steps.drop k ∧ r.2.2.held = q.held) ∧
          (w.held = q.held → CText.nulPosition? q.method = none →
            r.2.2.acts = w.acts ++ [.call (CText.over q.method) (.ofOctets q.arguments)] ∧
              r.2.2.held = q.held) := by
  intro w r plain
  have hmirrors := (mirrors_run settings load world operations).process task host u
  obtain ⟨hs, -⟩ := (sound_startTraced settings load world).run (P := fun _ => True)
    (fun _ _ _ => trivial) trivial operations
  refine ⟨hmirrors, fun flaw hf => ?_, fun payload hp => ?_⟩
  · simp only [r, process, attempt, hf]
  intro q k steps fault?
  have hout := outcome_attempt hs q host u
  have hattempt : w.attempt task host u = w.fromApplication q host u := attempt_eq w hp host u
  have hworker : r.2.2 = (w.fromApplication q host u).2.2 := by
    rw [← hattempt]
    exact process_worker w task host u
  have hdone : (∀ i, k ≤ i → fault? i = none) →
      r.2.2.acts = w.acts ++ w.teardown k ++ steps.drop k ∧ r.2.2.held = q.held := by
    rw [hworker]
    exact hout.succeeds
  refine ⟨fun j e hj hbefore hfault => ?_, hdone, fun hheld hm => ?_⟩
  · obtain ⟨he, hu, hrest⟩ := hout.fails j e hj hbefore hfault
    rw [← hattempt] at he hu
    obtain ⟨h1, h2⟩ := process_of_error he
    refine ⟨h1, ?_, ?_⟩
    · rw [← hu]
      exact congrArg Prod.fst h2
    · rw [hworker]
      exact hrest
  · have hk : k = 3 := by
      simp only [held, Request.held, Prod.mk.injEq] at hheld
      simp [k, kept, hheld]
    have hnone (i : Nat) (hi : k ≤ i) : fault? i = none := by
      rw [hk] at hi
      obtain rfl | hlt := Nat.eq_or_lt_of_le hi
      · simp [fault?, Request.fault?, hm]
      · exact fault?_eq_none_of_lt hlt
    obtain ⟨ha, hh⟩ := hdone hnone
    refine ⟨?_, hh⟩
    rw [ha, hk]
    have hdown : w.teardown 3 = [] := rfl
    rw [hdown, List.append_nil]
    rfl

def recorded (session method : String) : Task where
  session := session
  payload := (Payload.encode ⟨method, [1], []⟩).toOption.getD []
  options := .forService "recorder" "1" "group" "name"

def accepting : TaskHost Unit := ⟨["r1"], fun _ _ u => (.sent, u)⟩

/-- After a task, one whose session cannot be named, and one that asks for what is in use. -/
theorem process_exact_recorded :
    let w := (startTraced ⟨{}⟩ Library.byName {}).run [.task (recorded "s1" "Echo") accepting ()]
    let bad := recorded "s\x002" "Echo"
    let good := recorded "s1" "Count"
    let q := Request.ofTask bad ⟨"Echo", [1], []⟩
    (Payload.decode [48] = .error (.truncatedLength 1) ∧
        w.process { good with payload := [48] } accepting () =
          (.error (WorkerError.payload (Payload.Flaw.truncatedLength 1).toGrid).message, (), w)) ∧
      (Payload.decode bad.payload = .ok ⟨"Echo", [1], []⟩ ∧ w.kept q = 2 ∧
        q.fault? (w.refusal? Library.byName q.app) 2 = some (.nulInText 1) ∧
        (w.process bad accepting ()).1 = .error (WorkerError.nulInText 1).message ∧
        (w.process bad accepting ()).2.2.held = q.heldAfter w.session? 2) ∧
      (Payload.decode good.payload = .ok ⟨"Count", [1], []⟩ ∧
        w.held = (Request.ofTask good ⟨"Count", [1], []⟩).held ∧
        (w.process good accepting ()).2.2.acts =
          w.acts ++ [.call (CText.over "Count") (.ofOctets [1])]) := by
  intro w bad good q
  obtain ⟨-, hmalformed, -⟩ := process_exact ⟨{}⟩ Library.byName {}
    [.task (recorded "s1" "Echo") accepting ()] { good with payload := [48] } accepting ()
  obtain ⟨-, -, hbad⟩ := process_exact ⟨{}⟩ Library.byName {}
    [.task (recorded "s1" "Echo") accepting ()] bad accepting ()
  obtain ⟨-, -, hgood⟩ := process_exact ⟨{}⟩ Library.byName {}
    [.task (recorded "s1" "Echo") accepting ()] good accepting ()
  have h1 : Payload.decode [48] = .error (.truncatedLength 1) := by rfl
  have h2 : Payload.decode bad.payload = .ok ⟨"Echo", [1], []⟩ := Payload.decode_of_encode rfl
  have h3 : Payload.decode good.payload = .ok ⟨"Count", [1], []⟩ := Payload.decode_of_encode rfl
  have hk : w.kept q = 2 := by decide +kernel
  have hf : q.fault? (w.refusal? Library.byName q.app) 2 = some (.nulInText 1) := by decide +kernel
  have hheld : w.held = (Request.ofTask good ⟨"Count", [1], []⟩).held := by decide +kernel
  have hm : CText.nulPosition? "Count" = none := by decide +kernel
  obtain ⟨hfail, -⟩ := hbad _ h2
  obtain ⟨he, -, -, hafter⟩ := hfail 2 (.nulInText 1) (Nat.le_of_eq hk)
    (fun i hi hlt => absurd (Nat.lt_of_le_of_lt hi hlt) (by rw [hk]; omega)) hf
  obtain ⟨-, -, hcall⟩ := hgood _ h3
  refine ⟨⟨h1, hmalformed _ h1⟩, ⟨h2, hk, hf, he, ?_⟩, h3, hheld, (hcall hheld hm).1⟩
  rwa [if_pos hk] at hafter

end Worker
end TaskGrid
