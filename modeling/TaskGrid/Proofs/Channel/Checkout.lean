import TaskGrid.Channel.Pool

/-! One call of a channel pool: which channels are tried and thrown away before one is handed out, and when a
channel is made. -/
namespace TaskGrid

variable {ω γ α : Type}

namespace ChannelPool

/-- The free channels that are tried and thrown away before one of use is found. -/
def rejected (p : ChannelPool γ) (factory : ChannelFactory ω γ) (w : ω) : List γ :=
  p.free.takeWhile (!factory.isUsable · w)

/-- The search for a channel, in a number of rounds. A round takes the first free channel off the list, and
the search is over unless that one is of no use; without a free channel one is made. What is returned are the
channels that were thrown away, and what the search came to. -/
def search (factory : ChannelFactory ω γ) (w : ω) :
    (rounds : Nat) → ChannelPool γ → Option (List γ × Except ClientError γ × ChannelPool γ × ω)
  | 0, _ => none
  | _ + 1, ⟨[]⟩ => some ([], (factory.create w).1, ⟨[]⟩, (factory.create w).2)
  | rounds + 1, ⟨c :: rest⟩ =>
    if factory.isUsable c w then some ([], .ok c, ⟨rest⟩, w)
    else (search factory w rounds ⟨rest⟩).map fun (thrown, outcome) => (c :: thrown, outcome)

/-- What comes of asking a pool for a channel: the channels thrown away, the answer, the pool, and the world. -/
inductive Checkout (p : ChannelPool γ) (factory : ChannelFactory ω γ) (w : ω) :
    List γ → Except ClientError γ × ChannelPool γ × ω → Prop where
  | reused {thrown rest : List γ} {c : γ} (free : p.free = thrown ++ c :: rest)
      (useless : ∀ d ∈ thrown, factory.isUsable d w = false) (usable : factory.isUsable c w = true) :
      Checkout p factory w thrown (.ok c, ⟨rest⟩, w)
  | made {c : γ} {w' : ω} (useless : ∀ d ∈ p.free, factory.isUsable d w = false)
      (create : factory.create w = (.ok c, w')) : Checkout p factory w p.free (.ok c, ⟨[]⟩, w')
  | failed {e : ClientError} {w' : ω} (useless : ∀ d ∈ p.free, factory.isUsable d w = false)
      (create : factory.create w = (.error e, w')) : Checkout p factory w p.free (.error e, ⟨[]⟩, w')

section
variable {factory : ChannelFactory ω γ} {w : ω} {c : γ} {rest : List γ}

theorem rejected_of_usable (hc : factory.isUsable c w = true) : rejected ⟨c :: rest⟩ factory w = [] := by
  simp [rejected, hc]

theorem rejected_of_useless (hc : factory.isUsable c w = false) :
    rejected ⟨c :: rest⟩ factory w = c :: rejected ⟨rest⟩ factory w := by
  simp [rejected, hc]

theorem acquire_nil : acquire ⟨[]⟩ factory w = ((factory.create w).1, ⟨[]⟩, (factory.create w).2) := rfl

theorem acquire_of_useless (hc : factory.isUsable c w = false) :
    acquire ⟨c :: rest⟩ factory w = acquire ⟨rest⟩ factory w := by
  simp [acquire, takeUsable, hc]

theorem acquire_of_usable (hc : factory.isUsable c w = true) :
    acquire ⟨c :: rest⟩ factory w = (.ok c, ⟨rest⟩, w) := by
  simp [acquire, takeUsable, hc]

/-- One more channel is thrown away. -/
theorem Checkout.cons {thrown : List γ} {outcome : Except ClientError γ × ChannelPool γ × ω}
    (h : Checkout ⟨rest⟩ factory w thrown outcome) (hc : factory.isUsable c w = false) :
    Checkout ⟨c :: rest⟩ factory w (c :: thrown) outcome := by
  cases h with
  | reused free useless usable =>
    exact .reused (congrArg (c :: ·) free) (List.forall_mem_cons.mpr ⟨hc, useless⟩) usable
  | made useless create => exact .made (List.forall_mem_cons.mpr ⟨hc, useless⟩) create
  | failed useless create => exact .failed (List.forall_mem_cons.mpr ⟨hc, useless⟩) create

theorem Checkout.useless {p : ChannelPool γ} {thrown : List γ}
    {outcome : Except ClientError γ × ChannelPool γ × ω} (h : Checkout p factory w thrown outcome)
    (hc : c ∈ thrown) : factory.isUsable c w = false := by
  cases h with
  | reused free useless usable => exact useless c hc
  | made useless create | failed useless create => exact useless c hc

end

variable (p : ChannelPool γ) (factory : ChannelFactory ω γ) (w : ω)

theorem checkout_acquire : Checkout p factory w (p.rejected factory w) (p.acquire factory w) := by
  obtain ⟨free⟩ := p
  induction free with
  | nil =>
    rw [acquire_nil]
    rcases hcreate : factory.create w with ⟨e | c, w'⟩
    · exact .failed nofun hcreate
    · exact .made nofun hcreate
  | cons c rest ih =>
    cases hc : factory.isUsable c w with
    | false =>
      rw [rejected_of_useless hc, acquire_of_useless hc]
      exact ih.cons hc
    | true =>
      rw [acquire_of_usable hc, rejected_of_usable hc]
      exact .reused rfl nofun hc

/-- The search has its answer in the round after the last channel that is thrown away, and it is the one that
`acquire` gives. -/
theorem search_eq (rounds : Nat) : search factory w rounds p =
    if (p.rejected factory w).length < rounds then some (p.rejected factory w, p.acquire factory w)
    else none := by
  obtain ⟨free⟩ := p
  induction free generalizing rounds with
  | nil => cases rounds <;> simp [search, rejected, acquire_nil]
  | cons c rest ih =>
    cases rounds with
    | zero => rfl
    | succ rounds =>
      cases hc : factory.isUsable c w with
      | true => simp [search, rejected_of_usable, acquire_of_usable, hc]
      | false =>
        simp only [search, hc, ih, rejected_of_useless hc, acquire_of_useless hc, List.length_cons,
          Nat.add_lt_add_iff_right, Bool.false_eq_true, if_false]
        split <;> rfl

/-- The search is over after as many rounds as there are free channels, and one. -/
theorem length_rejected_le : (p.rejected factory w).length ≤ p.idleCount :=
  (List.takeWhile_prefix _).length_le

end ChannelPool
end TaskGrid
