import Mathlib.Data.List.Perm.Basic
import TaskGrid.Plane.Remote
import TaskGrid.Proofs.Channel.Checkout
import TaskGrid.Scenario.Channels

/-! A channel pool in use. Every channel that was made is free, in the hands of one guard, or discarded, and one
that was discarded is not handed out again. -/
namespace TaskGrid

variable {ω γ κ α : Type}

namespace ChannelFactory

/-- A world, and what came of every channel that was to be made, the first one first. -/
structure Recorded (ω γ : Type) where
  world : ω
  made : List (Except ClientError γ) := []

def recorded (factory : ChannelFactory ω γ) : ChannelFactory (Recorded ω γ) γ where
  create r :=
    let (made, world) := factory.create r.world
    (made, ⟨world, r.made ++ [made]⟩)
  isUsable c r := factory.isUsable c r.world

end ChannelFactory

open ChannelFactory (Recorded)

/-- A use of a channel, which stays the same channel whatever is done to it. -/
structure ChannelUse (ω : Type) (key : γ → κ) (α : Type) where
  run : γ → ω → ChannelPool.Used ω γ α
  same : ∀ c w, key (run c w).channel = key c

def ChannelUse.recorded {key : γ → κ} (use : ChannelUse ω key α) (c : γ) (r : Recorded ω γ) :
    ChannelPool.Used (Recorded ω γ) γ α :=
  let used := use.run c r.world
  { used with world := { r with world := used.world } }

/-- A pool with the channels of its guards, that of the newest one first, and those that it threw away or did not take
back, the last one first. -/
structure ChannelTraffic (ω γ : Type) where
  pool : ChannelPool γ := {}
  world : Recorded ω γ
  held : List γ := []
  discarded : List γ := []

namespace ChannelTraffic

variable {key : γ → κ}

def start (w : ω) : ChannelTraffic ω γ where
  world := { world := w }

/-- The channels that were made, by what tells them apart. -/
def created (key : γ → κ) (t : ChannelTraffic ω γ) : List κ :=
  (t.world.made.filterMap Except.toOption).map key

/-- The channels by the places where they are: free, held, and discarded. -/
def placed (key : γ → κ) (t : ChannelTraffic ω γ) : List κ :=
  t.pool.free.map key ++ t.held.map key ++ t.discarded.map key

variable (factory : ChannelFactory ω γ)

def acquire (t : ChannelTraffic ω γ) : ChannelTraffic ω γ :=
  let (answer, pool, world) := t.pool.acquire factory.recorded t.world
  { pool, world
    held := answer.toOption.toList ++ t.held
    discarded := t.pool.rejected factory t.world.world ++ t.discarded }

def use (guard : Nat) (u : ChannelUse ω key α) (t : ChannelTraffic ω γ) : ChannelTraffic ω γ :=
  match t.held[guard]? with
  | none => t
  | some c =>
    let used := u.recorded c t.world
    { t with world := used.world, held := t.held.set guard used.channel }

def drop (guard : Nat) (t : ChannelTraffic ω γ) : ChannelTraffic ω γ :=
  match t.held[guard]? with
  | none => t
  | some c =>
    { t with
      pool := t.pool.release factory.recorded c t.world
      held := t.held.eraseIdx guard
      discarded := if factory.isUsable c t.world.world then t.discarded else c :: t.discarded }

/-- A guard is made for one use, and goes away after it, also when the use panics. -/
def lend (u : ChannelUse ω key α) (t : ChannelTraffic ω γ) : ChannelTraffic ω γ :=
  match (t.pool.acquire factory.recorded t.world).1 with
  | .error _ => t.acquire factory
  | .ok _ => ((t.acquire factory).use 0 u).drop factory 0

/-- Something runs with a channel of the pool: pool and world are what that leaves, and the rest is as after a
guard that is made for it. -/
def withChannel (u : ChannelUse ω key α) (t : ChannelTraffic ω γ) : ChannelTraffic ω γ :=
  let (_, pool, world) := t.pool.withChannel factory.recorded u.recorded t.world
  { t.lend factory u with pool, world }

/-- What is done with a pool and its guards. If what runs with a channel turns to the pool itself, then a
guard is acquired before and dropped after it. -/
inductive Deed (ω : Type) (key : γ → κ) : Type 1 where
  | acquire
  | use {α : Type} (guard : Nat) (u : ChannelUse ω key α)
  | drop (guard : Nat)
  | withChannel {α : Type} (u : ChannelUse ω key α)
  | elsewhere (f : ω → ω)

def step (t : ChannelTraffic ω γ) : Deed ω key → ChannelTraffic ω γ
  | .acquire => t.acquire factory
  | .use guard u => t.use guard u
  | .drop guard => t.drop factory guard
  | .withChannel u => t.withChannel factory u
  | .elsewhere f => { t with world := { t.world with world := f t.world.world } }

def run (t : ChannelTraffic ω γ) (deeds : List (Deed ω key)) : ChannelTraffic ω γ :=
  deeds.foldl (step factory) t

section
variable {factory : ChannelFactory ω γ} {t t' : ChannelTraffic ω γ} {guard : Nat} {c : γ}

theorem withChannel_eq (factory : ChannelFactory ω γ) (u : ChannelUse ω key α) (t : ChannelTraffic ω γ) :
    t.withChannel factory u = t.lend factory u := by
  unfold withChannel ChannelPool.withChannel lend acquire
  rcases t.pool.acquire factory.recorded t.world with ⟨e | c, pool, world⟩
  · rfl
  · rfl

/-- Keeping a record changes nothing. -/
theorem acquire_recorded (p : ChannelPool γ) (factory : ChannelFactory ω γ) (r : Recorded ω γ) :
    p.acquire factory r.world =
      ((p.acquire factory.recorded r).1, (p.acquire factory.recorded r).2.1,
        (p.acquire factory.recorded r).2.2.world) := by
  unfold ChannelPool.acquire
  cases h : ChannelPool.takeUsable (factory.isUsable · r.world) p.free <;>
    simp [ChannelFactory.recorded, h]

/-- What comes of asking for a channel, and what is left. -/
inductive Acquired (factory : ChannelFactory ω γ) (t : ChannelTraffic ω γ) :
    Except ClientError γ → ChannelTraffic ω γ → Prop where
  | reused {thrown rest : List γ} {c : γ} (free : t.pool.free = thrown ++ c :: rest)
      (useless : ∀ d ∈ thrown, factory.isUsable d t.world.world = false)
      (usable : factory.isUsable c t.world.world = true) :
      Acquired factory t (.ok c)
        { t with pool := ⟨rest⟩, held := c :: t.held, discarded := thrown ++ t.discarded }
  | made {c : γ} {w : ω} (useless : ∀ d ∈ t.pool.free, factory.isUsable d t.world.world = false)
      (create : factory.create t.world.world = (.ok c, w)) :
      Acquired factory t (.ok c)
        ⟨⟨[]⟩, ⟨w, t.world.made ++ [.ok c]⟩, c :: t.held, t.pool.free ++ t.discarded⟩
  | failed {e : ClientError} {w : ω}
      (useless : ∀ d ∈ t.pool.free, factory.isUsable d t.world.world = false)
      (create : factory.create t.world.world = (.error e, w)) :
      Acquired factory t (.error e)
        ⟨⟨[]⟩, ⟨w, t.world.made ++ [.error e]⟩, t.held, t.pool.free ++ t.discarded⟩

theorem acquired (factory : ChannelFactory ω γ) (t : ChannelTraffic ω γ) :
    Acquired factory t (t.pool.acquire factory t.world.world).1 (t.acquire factory) := by
  have h := t.pool.checkout_acquire factory.recorded t.world
  change ChannelPool.Checkout _ _ _ (t.pool.rejected factory t.world.world) _ at h
  unfold acquire
  rw [acquire_recorded]
  generalize t.pool.acquire factory.recorded t.world = outcome,
    t.pool.rejected factory t.world.world = thrown at h
  cases h with
  | reused free useless usable => exact .reused free useless usable
  | made useless create =>
    rcases hcreate : factory.create t.world.world with ⟨made, w⟩
    simp only [ChannelFactory.recorded, hcreate, Prod.mk.injEq] at create
    obtain ⟨rfl, rfl⟩ := create
    exact .made useless hcreate
  | failed useless create =>
    rcases hcreate : factory.create t.world.world with ⟨made, w⟩
    simp only [ChannelFactory.recorded, hcreate, Prod.mk.injEq] at create
    obtain ⟨rfl, rfl⟩ := create
    exact .failed useless hcreate

/-- Every channel that was made is in one place. -/
def Conserved (key : γ → κ) (t : ChannelTraffic ω γ) : Prop := (t.created key).Perm (t.placed key)

theorem conserved_start (key : γ → κ) (w : ω) : (start w : ChannelTraffic ω γ).Conserved key := .refl _

theorem Acquired.conserved {answer : Except ClientError γ} (acquired : Acquired factory t answer t')
    (h : t.Conserved key) : t'.Conserved key := by
  classical
  unfold Conserved placed at h ⊢
  rw [List.perm_iff_count] at h ⊢
  intro k
  have hk := h k
  cases acquired with
  | reused free useless usable =>
    rw [free] at hk
    simp only [List.map_append, List.map_cons, List.count_append, List.count_cons] at hk ⊢
    show (t.created key).count k = _
    omega
  | @made c w' useless create =>
    have hmade : created key { t with world := ⟨w', t.world.made ++ [.ok c]⟩ } = t.created key ++ [key c] := by
      simp [created, Except.toOption]
    show (created key { t with world := ⟨w', t.world.made ++ [.ok c]⟩ }).count k = _
    rw [hmade]
    simp only [List.map_append, List.map_cons, List.map_nil, List.count_append, List.count_cons,
      List.count_nil] at hk ⊢
    omega
  | @failed e w' useless create =>
    have hmade : created key { t with world := ⟨w', t.world.made ++ [.error e]⟩ } = t.created key := by
      simp [created, Except.toOption]
    show (created key { t with world := ⟨w', t.world.made ++ [.error e]⟩ }).count k = _
    rw [hmade]
    simp only [List.map_append, List.map_nil, List.count_append, List.count_nil] at hk ⊢
    omega

theorem conserved_use (h : t.Conserved key) (u : ChannelUse ω key α) : (t.use guard u).Conserved key := by
  unfold use
  cases hheld : t.held[guard]? with
  | none => exact h
  | some c =>
    obtain ⟨hlt, rfl⟩ := List.getElem?_eq_some_iff.mp hheld
    have hsame : key (u.recorded t.held[guard] t.world).channel = key t.held[guard] := u.same ..
    have hmap : (t.held.set guard (u.recorded t.held[guard] t.world).channel).map key = t.held.map key := by
      rw [List.map_set, hsame, ← List.map_set, List.set_getElem_self]
    unfold Conserved placed at h ⊢
    rw [hmap]
    exact h

theorem conserved_drop (h : t.Conserved key) : (t.drop factory guard).Conserved key := by
  unfold drop
  cases hheld : t.held[guard]? with
  | none => exact h
  | some c =>
    refine h.trans ?_
    obtain ⟨hlt, rfl⟩ := List.getElem?_eq_some_iff.mp hheld
    have hheld : (t.held.map key).Perm (key t.held[guard] :: (t.held.eraseIdx guard).map key) :=
      ((List.getElem_cons_eraseIdx_perm hlt).map key).symm
    have hplaced := (hheld.append_left (t.pool.free.map key)).append_right (t.discarded.map key)
    refine hplaced.trans ?_
    unfold placed ChannelPool.release
    cases husable : factory.isUsable t.held[guard] t.world.world with
    | true =>
      simp only [ChannelFactory.recorded, husable, if_true]
      exact List.perm_middle.append_right _
    | false =>
      simp only [ChannelFactory.recorded, husable, Bool.false_eq_true, if_false]
      exact (List.perm_middle.append_right _).trans List.perm_middle.symm

theorem conserved_lend (h : t.Conserved key) (u : ChannelUse ω key α) :
    (t.lend factory u).Conserved key := by
  have hacquire : (t.acquire factory).Conserved key := (acquired factory t).conserved h
  unfold lend
  split
  · exact hacquire
  · exact conserved_drop (conserved_use hacquire u)

theorem conserved_step (h : t.Conserved key) (deed : Deed ω key) : (t.step factory deed).Conserved key := by
  cases deed with
  | acquire => exact (acquired factory t).conserved h
  | use guard u => exact conserved_use h u
  | drop guard => exact conserved_drop h
  | withChannel u =>
    rw [step, withChannel_eq]
    exact conserved_lend h u
  | elsewhere f => exact h

theorem conserved_run (h : t.Conserved key) (deeds : List (Deed ω key)) :
    (t.run factory deeds).Conserved key := by
  induction deeds generalizing t with
  | nil => exact h
  | cons deed deeds ih => exact ih (conserved_step h deed)

theorem run_append (t : ChannelTraffic ω γ) (deeds later : List (Deed ω key)) :
    t.run factory (deeds ++ later) = (t.run factory deeds).run factory later :=
  List.foldl_append ..

/-- A channel that was discarded stays so. -/
theorem discarded_step (t : ChannelTraffic ω γ) (deed : Deed ω key) :
    t.discarded <:+ (t.step factory deed).discarded := by
  have hacquire (t : ChannelTraffic ω γ) : t.discarded <:+ (t.acquire factory).discarded :=
    List.suffix_append ..
  have huse {α : Type} (t : ChannelTraffic ω γ) (guard : Nat) (u : ChannelUse ω key α) :
      (t.use guard u).discarded = t.discarded := by
    unfold use
    split <;> rfl
  have hdrop (t : ChannelTraffic ω γ) (guard : Nat) : t.discarded <:+ (t.drop factory guard).discarded := by
    unfold drop
    split
    · exact List.suffix_rfl
    · dsimp only
      split
      · exact List.suffix_rfl
      · exact List.suffix_cons ..
  cases deed with
  | acquire => exact hacquire t
  | use guard u => exact (huse t guard u).symm ▸ List.suffix_rfl
  | drop guard => exact hdrop t guard
  | withChannel u =>
    rw [step, withChannel_eq, lend]
    split
    · exact hacquire t
    · exact (hacquire t).trans ((huse _ 0 u).symm ▸ hdrop _ 0)
  | elsewhere f => exact List.suffix_rfl

theorem discarded_run (t : ChannelTraffic ω γ) (deeds : List (Deed ω key)) :
    t.discarded <:+ (t.run factory deeds).discarded := by
  induction deeds generalizing t with
  | nil => exact List.suffix_rfl
  | cons deed deeds ih => exact (t.discarded_step deed).trans (ih _)

/-- What is handed out is not among what was discarded before. -/
theorem Acquired.ne_of_mem_discarded (acquired : Acquired factory t (.ok c) t') (h : t.Conserved key)
    (fresh : (t'.created key).Nodup) {d : γ} (hd : d ∈ t.discarded) : key c ≠ key d := by
  have hnodup : (t'.placed key).Nodup := (acquired.conserved h).nodup_iff.mp fresh
  have hc : c ∈ t'.held := by cases acquired <;> exact List.mem_cons_self
  have hd : d ∈ t'.discarded := by cases acquired <;> exact List.mem_append_right _ hd
  exact (List.nodup_append.mp hnodup).2.2 _
    (List.mem_append_right _ (List.mem_map_of_mem hc)) _ (List.mem_map_of_mem hd)

theorem Acquired.made_eq_iff {answer : Except ClientError γ} (acquired : Acquired factory t answer t') :
    t'.world.made = t.world.made ↔ ∃ c ∈ t.pool.free, factory.isUsable c t.world.world = true := by
  cases acquired with
  | reused free useless usable =>
    exact iff_of_true rfl ⟨_, by simp [free], usable⟩
  | made useless create | failed useless create =>
    refine iff_of_false (by simp) ?_
    rintro ⟨c, hc, husable⟩
    exact Bool.false_ne_true ((useless c hc).symm.trans husable)

theorem Acquired.made_eq_append_iff {answer : Except ClientError γ} (acquired : Acquired factory t answer t') :
    t'.world.made = t.world.made ++ [(factory.create t.world.world).1] ↔
      ∀ c ∈ t.pool.free, factory.isUsable c t.world.world = false := by
  cases acquired with
  | @reused thrown rest c free useless usable =>
    refine iff_of_false (by simp) fun h => ?_
    exact Bool.false_ne_true ((h c (by simp [free])).symm.trans usable)
  | made useless create | failed useless create =>
    refine iff_of_true ?_ useless
    rw [create]

/-- A guard that is made for one use leaves the others as they are. -/
theorem held_lend (t : ChannelTraffic ω γ) (u : ChannelUse ω key α) :
    (t.lend factory u).held = t.held := by
  have hacquired := acquired factory t
  unfold lend
  rw [acquire_recorded] at hacquired
  generalize (t.pool.acquire factory.recorded t.world).1 = answer, t.acquire factory = t' at hacquired
  cases hacquired with
  | reused | made | failed => rfl

theorem withChannel_recorded (p : ChannelPool γ) (factory : ChannelFactory ω γ) (u : ChannelUse ω key α)
    (r : Recorded ω γ) : p.withChannel factory u.run r.world =
      ((p.withChannel factory.recorded u.recorded r).1, (p.withChannel factory.recorded u.recorded r).2.1,
        (p.withChannel factory.recorded u.recorded r).2.2.world) := by
  unfold ChannelPool.withChannel
  rw [acquire_recorded]
  rcases p.acquire factory.recorded r with ⟨e | c, pool, world⟩ <;> rfl

end

/-- However guards come and go, and channels break: what was made is what is free, held by guards, or discarded,
and if each channel that is made is a new one, then each is in one place; without guards, all that were not
discarded are free. A search for a channel discards those that it finds to be of no use, and has its answer in
the round after the last of them. It makes a channel if no free one is of use, and only then; if that fails,
the guards are as before and nothing is lost but channels of no use. A guard that goes away discards a channel
of no use, a guard that is made for one use goes away whatever comes of the use, and no channel that was
discarded is handed out again. -/
theorem channels_accounted (factory : ChannelFactory ω γ) (key : γ → κ) (w : ω) (deeds : List (Deed ω key)) :
    let t := (start w).run factory deeds
    let useless (c : γ) : Prop := factory.isUsable c t.world.world = false
    let thrown := t.pool.rejected factory t.world.world
    let answer := t.pool.acquire factory t.world.world
    let asked := t.acquire factory
    (t.created key).Perm (t.placed key) ∧
      ((t.created key).Nodup → (t.placed key).Nodup) ∧
      (t.held = [] → t.pool.idleCount = (t.created key).length - t.discarded.length) ∧
      (asked.pool, asked.world.world) = answer.2 ∧
      (∀ rounds, ChannelPool.search factory t.world.world rounds t.pool =
        if thrown.length < rounds then some (thrown, answer) else none) ∧
      thrown.length ≤ t.pool.idleCount ∧
      (∀ c ∈ thrown, useless c ∧ c ∈ asked.discarded) ∧
      (asked.world.made = t.world.made ++ [(factory.create t.world.world).1] ↔ ∀ c ∈ t.pool.free, useless c) ∧
      (asked.world.made = t.world.made ↔ ∃ c ∈ t.pool.free, ¬useless c) ∧
      (∀ e, answer.1 = .error e → (factory.create t.world.world).1 = .error e ∧
        asked.held = t.held ∧ asked.created key = t.created key ∧
        asked.discarded = t.pool.free ++ t.discarded ∧ ∀ c ∈ t.pool.free, useless c) ∧
      (∀ guard c, t.held[guard]? = some c → useless c →
        (t.drop factory guard).pool = t.pool ∧ c ∈ (t.drop factory guard).discarded) ∧
      (∀ (α : Type) (u : ChannelUse ω key α),
        ((t.withChannel factory u).pool, (t.withChannel factory u).world.world) =
            (t.pool.withChannel factory u.run t.world.world).2 ∧
          t.withChannel factory u = t.lend factory u ∧ (t.withChannel factory u).held = t.held) ∧
      ∀ c ∈ t.discarded, ∀ later : List (Deed ω key), let t' := t.run factory later
        ∀ d, (t'.pool.acquire factory t'.world.world).1 = .ok d →
          ((t'.acquire factory).created key).Nodup → key d ≠ key c := by
  intro t useless thrown answer asked
  have hconserved : t.Conserved key := conserved_run (conserved_start key w) deeds
  have hacquired : Acquired factory t answer.1 asked := acquired factory t
  refine ⟨hconserved, hconserved.nodup_iff.mp, fun hheld => ?_, ?_, t.pool.search_eq factory t.world.world,
    t.pool.length_rejected_le factory t.world.world, fun c hc => ⟨?_, List.mem_append_left _ hc⟩,
    hacquired.made_eq_append_iff, ?_, fun e he => ?_, fun guard c hc hu => ?_, fun α u => ⟨?_, ?_, ?_⟩,
    fun c hc later d hd fresh => ?_⟩
  · have hlength := hconserved.length_eq
    simp only [placed, hheld, List.length_append, List.length_map, List.map_nil, List.length_nil] at hlength
    show t.pool.free.length = _
    omega
  · show (asked.pool, asked.world.world) = (t.pool.acquire factory t.world.world).2
    rw [acquire_recorded]
    rfl
  · exact (t.pool.checkout_acquire factory t.world.world).useless hc
  · rw [hacquired.made_eq_iff]
    simp [useless]
  · rw [he] at hacquired
    clear_value asked
    cases hacquired with
    | @failed e w' useless create => exact ⟨by rw [create], rfl, by simp [created, Except.toOption], rfl, useless⟩
  · have hu : factory.isUsable c t.world.world = false := hu
    simp [drop, hc, ChannelPool.release, ChannelFactory.recorded, hu]
  · rw [withChannel_recorded]
    rfl
  · exact withChannel_eq factory u t
  · rw [withChannel_eq, held_lend]
  · have hacquired := acquired factory (t.run factory later)
    rw [hd] at hacquired
    exact hacquired.ne_of_mem_discarded (conserved_run hconserved later) fresh
      ((t.discarded_run later).subset hc)

/-- A use of a numbered channel, which may break it or panic. -/
def numberedUse (breaks panics : Bool) : ChannelUse NumberedChannels (fun c : Nat => c) Nat where
  run := ChannelBench.useChannel breaks panics
  same _ _ := rfl

/-- Two guards are held when a third channel breaks and its user panics; then both go away, and the channel that
was released last breaks. -/
def brokenTwice : List (Deed NumberedChannels fun c : Nat => c) :=
  [.acquire, .acquire, .withChannel (numberedUse true true), .drop 0, .drop 0,
    .elsewhere fun n => { (n.breakChannel 1).2 with failures := 1 }]

/-- One of them is thrown away and one is handed out; then none can be made. -/
def exhausted : List (Deed NumberedChannels fun c : Nat => c) := [.acquire, .acquire]

theorem channels_accounted_brokenTwice :
    let t := run NumberedChannels.factory (start {}) brokenTwice
    let drained := run NumberedChannels.factory (start {}) (brokenTwice ++ [.acquire])
    let later := t.run NumberedChannels.factory exhausted
    ((t.created fun c => c) = [1, 2, 3] ∧ (t.placed fun c => c).Nodup) ∧
      (t.held = [] ∧ t.pool.idleCount = 3 - 1) ∧
      (1 ∈ t.pool.rejected NumberedChannels.factory t.world.world ∧
        1 ∈ (t.acquire NumberedChannels.factory).discarded) ∧
      ((drained.pool.acquire NumberedChannels.factory drained.world.world).1 =
          .error (.transport "cannot connect") ∧
        (drained.acquire NumberedChannels.factory).held = drained.held) ∧
      (3 ∈ t.discarded ∧
        (later.pool.acquire NumberedChannels.factory later.world.world).1 = .ok 4 ∧ 4 ≠ 3) := by
  intro t drained later
  obtain ⟨-, hplaced, hidle, -, -, -, hthrown, -, -, -, -, -, hlater⟩ :=
    channels_accounted NumberedChannels.factory (fun c => c) {} brokenTwice
  obtain ⟨-, -, -, -, -, -, -, -, -, hfailed, -⟩ :=
    channels_accounted NumberedChannels.factory (fun c => c) {} (brokenTwice ++ [.acquire])
  have hfailure : (drained.pool.acquire NumberedChannels.factory drained.world.world).1 =
      .error (.transport "cannot connect") := rfl
  have hbroken : 3 ∈ t.discarded := by decide
  have hnew : (later.pool.acquire NumberedChannels.factory later.world.world).1 = .ok 4 := rfl
  refine ⟨⟨rfl, hplaced (by decide)⟩, ⟨rfl, hidle rfl⟩, ⟨by decide, (hthrown 1 (by decide)).2⟩,
    ⟨hfailure, ?_⟩, hbroken, hnew, hlater 3 hbroken exhausted 4 hnew (by decide)⟩
  obtain ⟨-, hheld, -⟩ := hfailed _ hfailure
  exact hheld

end ChannelTraffic

namespace RemotePlane

variable (service : Rpc.Service ω) (m : Rpc.Method) (messages : List m.request.Value)
  (read : Rpc.Reply m.reply.Value → Except GridError α)

def channelUse : ChannelUse ω RemoteChannel.number (Except GridError α) where
  run channel w :=
    let (reply, w) := service.call channel.number m messages w
    let answer := read reply
    ⟨.ok answer, { channel with failed := losesChannel answer }, w⟩
  same _ _ := rfl

/-- A remote call is a use of a channel of the pool, so that what is said of uses holds of remote calls. -/
theorem exchange_eq (p : RemotePlane ω) :
    let left := p.client.channels.withChannel (factory service p.client.endpoint)
      (channelUse service m messages read).run p.world
    ∃ answer, left.1 = .ok (.ok answer) ∧
      exchange service m messages read p =
        (answer.mapError GridError.toClient, ⟨{ p.client with channels := left.2.1 }, left.2.2⟩) := by
  rcases p with ⟨⟨endpoint, ⟨free⟩, limit⟩, world⟩
  simp only [exchange, ChannelPool.withChannel, ChannelPool.acquire, factory]
  cases ChannelPool.takeUsable (fun c : RemoteChannel => !c.failed) free <;> exact ⟨_, rfl, rfl⟩

end RemotePlane
end TaskGrid
