import Mathlib.Data.List.Nodup
import TaskGrid.Proofs.Fleet.Custody

/-! A task that was taken is in one place at a time, and its handler is called once if it was delivered and
never otherwise. What a session waits for is what it was given less what has left it. -/
namespace TaskGrid
namespace Fleet

inductive Place where
  | tracked
  | delivered
  | discarded
  | forgotten
  deriving DecidableEq, Repr

/-- Where a task of session `i` is. -/
def Has (f : Fleet) (i : Nat) (t : Tracked) : Place → Prop
  | .tracked => t ∈ f.tracked i
  | .delivered => ∃ outcome, (i, ⟨t.handler, t.task, outcome⟩) ∈ f.ledger.delivered
  | .discarded => (i, t) ∈ f.ledger.discarded
  | .forgotten => (i, t) ∈ f.ledger.forgotten

def callbacks (f : Fleet) (task : String) : List (Nat × Delivery) :=
  f.ledger.delivered.filter (·.2.task = task)

variable {f : Fleet} {i : Nat} {t : Tracked}

theorem has_delivered_iff :
    f.Has i t .delivered ↔ t ∈ (Ledger.share i f.ledger.delivered).map Delivery.tracked := by
  simp only [Has, List.mem_map, Ledger.mem_share]
  constructor
  · rintro ⟨outcome, hm⟩
    exact ⟨_, hm, rfl⟩
  · rintro ⟨d, hm, rfl⟩
    exact ⟨d.outcome, hm⟩

theorem Sound.nodup_accepted (h : f.Sound) :
    (f.ledger.accepted.map fun e => e.2.task).Nodup := by
  rw [h.accounted, h.numbered]
  exact List.pairwise_map.mpr
    ((List.nodup_range' 1).imp fun h e => h (MemoryPlane.taskId_inj.mp e))

theorem Sound.eq_of_task_eq (h : f.Sound) {j : Nat} {u : Tracked}
    (ht : (i, t) ∈ f.ledger.accepted) (hu : (j, u) ∈ f.ledger.accepted) (e : u.task = t.task) :
    j = i ∧ u = t := by
  have he := List.inj_on_of_nodup_map h.nodup_accepted hu ht e
  cases he
  exact ⟨rfl, rfl⟩

theorem Sound.count_accepted (h : f.Sound) (ht : (i, t) ∈ f.ledger.accepted) :
    (Ledger.share i f.ledger.accepted).count t = 1 := by
  have hn : (Ledger.share i f.ledger.accepted).Nodup := by
    refine List.Nodup.of_map Tracked.task ?_
    refine h.nodup_accepted.sublist ?_
    simp only [Ledger.share, List.map_map]
    exact List.Sublist.map _ List.filter_sublist
  exact List.count_eq_one_of_mem hn (Ledger.mem_share.mpr ht)

/-- A task is counted in one place. -/
theorem Sound.count_places (h : f.Sound) (ht : (i, t) ∈ f.ledger.accepted) :
    (f.tracked i).count t + ((Ledger.share i f.ledger.delivered).map Delivery.tracked).count t +
      (Ledger.share i f.ledger.discarded).count t +
      (Ledger.share i f.ledger.forgotten).count t = 1 := by
  have hc := List.perm_iff_count.mp (h.conserved i) t
  rw [h.count_accepted ht] at hc
  simp only [Ledger.gone, List.count_append] at hc
  omega

theorem Sound.existsUnique_place (h : f.Sound) (ht : (i, t) ∈ f.ledger.accepted) :
    ∃! place, f.Has i t place := by
  have hc := h.count_places ht
  have htr : f.Has i t .tracked ↔ 0 < (f.tracked i).count t := List.count_pos_iff.symm
  have hde : f.Has i t .delivered ↔
      0 < ((Ledger.share i f.ledger.delivered).map Delivery.tracked).count t :=
    has_delivered_iff.trans List.count_pos_iff.symm
  have hdi : f.Has i t .discarded ↔ 0 < (Ledger.share i f.ledger.discarded).count t :=
    Ledger.mem_share.symm.trans List.count_pos_iff.symm
  have hfo : f.Has i t .forgotten ↔ 0 < (Ledger.share i f.ledger.forgotten).count t :=
    Ledger.mem_share.symm.trans List.count_pos_iff.symm
  have hsome : ∃ place, f.Has i t place := by
    by_contra hn
    simp only [not_exists] at hn
    have h1 := mt htr.mpr (hn .tracked)
    have h2 := mt hde.mpr (hn .delivered)
    have h3 := mt hdi.mpr (hn .discarded)
    have h4 := mt hfo.mpr (hn .forgotten)
    omega
  obtain ⟨place, hp⟩ := hsome
  refine ⟨place, hp, fun other ho => ?_⟩
  cases place <;> cases other <;> first
    | rfl
    | (simp only [htr, hde, hdi, hfo] at hp ho; omega)

theorem Sound.accepted_of_delivered (h : f.Sound) {e : Nat × Delivery}
    (he : e ∈ f.ledger.delivered) : (e.1, e.2.tracked) ∈ f.ledger.accepted := by
  rw [← Ledger.mem_share, (h.conserved e.1).mem_iff, List.mem_append, Ledger.gone]
  right
  refine List.mem_append_left _ (List.mem_append_left _ ?_)
  exact List.mem_map.mpr ⟨e.2, Ledger.mem_share.mpr he, rfl⟩

/-- The callbacks for a task are those of its session to its handler. -/
theorem Sound.callbacks_eq (h : f.Sound) (ht : (i, t) ∈ f.ledger.accepted) :
    f.callbacks t.task =
      f.ledger.delivered.filter fun e => decide (e.1 = i) && decide (e.2.tracked = t) := by
  apply List.filter_congr
  intro e he
  have ha := h.accepted_of_delivered he
  by_cases hte : e.2.task = t.task
  · obtain ⟨hi, hd⟩ := h.eq_of_task_eq ht ha hte
    simp [hte, hi, hd]
  · have hne : e.2.tracked ≠ t := fun hd => hte (hd ▸ rfl)
    simp [hte, hne]

theorem Sound.length_callbacks (h : f.Sound) (ht : (i, t) ∈ f.ledger.accepted) :
    (f.callbacks t.task).length =
      ((Ledger.share i f.ledger.delivered).map Delivery.tracked).count t := by
  rw [h.callbacks_eq ht, Ledger.share, List.map_map, List.count, List.countP_map,
    List.countP_filter, List.countP_eq_length_filter]
  refine congrArg List.length (List.filter_congr fun e _ => ?_)
  simp [Function.comp_def, Bool.and_comm, beq_eq_decide]

/-- Whoever is to hear of a task hears of it once, and once only. -/
theorem Sound.callbacks_cases (h : f.Sound) (ht : (i, t) ∈ f.ledger.accepted) :
    (f.Has i t .delivered ∧
        ∃ outcome, f.callbacks t.task = [(i, ⟨t.handler, t.task, outcome⟩)]) ∨
      (¬ f.Has i t .delivered ∧ f.callbacks t.task = []) := by
  have hl := h.length_callbacks ht
  by_cases hd : f.Has i t .delivered
  · left
    have hc := h.count_places ht
    have hpos := List.count_pos_iff.mpr (has_delivered_iff.mp hd)
    obtain ⟨e, he⟩ := List.length_eq_one_iff.mp (show (f.callbacks t.task).length = 1 by omega)
    have hm : e ∈ f.callbacks t.task := he ▸ List.mem_singleton_self e
    rw [h.callbacks_eq ht, List.mem_filter] at hm
    simp only [Bool.and_eq_true, decide_eq_true_eq] at hm
    obtain ⟨-, rfl, rfl⟩ := hm
    exact ⟨hd, e.2.outcome, he⟩
  · right
    have hz := List.count_eq_zero.mpr (mt has_delivered_iff.mpr hd)
    exact ⟨hd, List.length_eq_zero_iff.mp (hl.trans hz)⟩

/-- What a session still waits for, with what has left it, is what it was given. -/
theorem Sound.pendingCount_add (h : f.Sound) {s : Session} (hs : f.sessions[i]? = some s) :
    s.pendingCount + (Ledger.share i f.ledger.delivered).length +
      (Ledger.share i f.ledger.discarded).length + (Ledger.share i f.ledger.forgotten).length =
      (Ledger.share i f.ledger.accepted).length := by
  have hl := (h.conserved i).length_eq
  rw [tracked_of_getElem? hs] at hl
  simp only [Ledger.gone, List.length_append, List.length_map, Table.values] at hl
  rw [hl]
  simp only [Session.pendingCount, Tracker.size, Table.size]
  omega

/-- Over every run of any number of sessions, tasks are conserved: each one that the plane took is in
exactly one place, and the handler of its submission is called once if it was delivered and never
otherwise. -/
theorem tasks_conserved (pollDelay : Nat) (steps : List FleetStep) :
    let f := (start pollDelay).run steps
    (f.ledger.accepted.map fun e => e.2.task) = f.plane.submitted.map SubmittedRecord.task ∧
      (f.ledger.accepted.map fun e => e.2.task).Nodup ∧
      (∀ i t, (i, t) ∈ f.ledger.accepted → (∃! place, f.Has i t place) ∧
        ((f.Has i t .delivered ∧
            ∃ outcome, f.callbacks t.task = [(i, ⟨t.handler, t.task, outcome⟩)]) ∨
          (¬ f.Has i t .delivered ∧ f.callbacks t.task = []))) ∧
      (∀ e ∈ f.ledger.delivered, (e.1, e.2.tracked) ∈ f.ledger.accepted) ∧
      (∀ i s, f.sessions[i]? = some s →
        s.pendingCount + (Ledger.share i f.ledger.delivered).length +
          (Ledger.share i f.ledger.discarded).length +
          (Ledger.share i f.ledger.forgotten).length =
          (Ledger.share i f.ledger.accepted).length) := by
  have h := (sound_start pollDelay).run steps
  refine ⟨h.accounted, h.nodup_accepted, fun i t ht => ?_, fun e he => ?_, fun i s hs => ?_⟩
  · exact ⟨h.existsUnique_place ht, h.callbacks_cases ht⟩
  · exact h.accepted_of_delivered he
  · exact h.pendingCount_add hs

/-- Two sessions; of the three tasks of the first, one is delivered, one is unknown to the plane and one is
forgotten. -/
def sampleRun : List FleetStep :=
  [.attach "a" {}, .attach "b" {}, .setFate "r2" .notFound, .setFate "r3" .pending,
    .failNext .downloadResult .poolStopped,
    .call 0 (.submit [⟨"one", [], []⟩, ⟨"two", [], []⟩, ⟨"three", [], []⟩] ⟨"h", true⟩ none) 0
      fun _ => .listed,
    .call 1 (.submit [⟨"four", [], []⟩] ⟨"k", false⟩ none) 0 fun _ => .listed,
    .call 0 (.wait [] {} {}) 3 fun _ => .listed,
    .call 0 .drop 0 fun _ => .listed]

theorem tasks_conserved_sampleRun :
    let f := (start 1).run sampleRun
    ((0, ⟨"t1", ⟨"h", true⟩⟩) ∈ f.ledger.accepted ∧
      (∃! place, f.Has 0 ⟨"t1", ⟨"h", true⟩⟩ place) ∧
      ((f.Has 0 ⟨"t1", ⟨"h", true⟩⟩ .delivered ∧
          ∃ outcome, f.callbacks "t1" = [(0, ⟨⟨"h", true⟩, "t1", outcome⟩)]) ∨
        (¬ f.Has 0 ⟨"t1", ⟨"h", true⟩⟩ .delivered ∧ f.callbacks "t1" = []))) ∧
      ((0, ⟨⟨"h", true⟩, "t1", .failure .poolStopped⟩) ∈ f.ledger.delivered ∧
        (0, ⟨"t1", ⟨"h", true⟩⟩) ∈ f.ledger.accepted) ∧
      ∃ s, f.sessions[0]? = some s ∧
        s.pendingCount + (Ledger.share 0 f.ledger.delivered).length +
          (Ledger.share 0 f.ledger.discarded).length + (Ledger.share 0 f.ledger.forgotten).length =
          (Ledger.share 0 f.ledger.accepted).length := by
  obtain ⟨-, -, hplace, hdelivered, hcount⟩ := tasks_conserved 1 sampleRun
  have ha : (0, (⟨"t1", ⟨"h", true⟩⟩ : Tracked)) ∈ ((start 1).run sampleRun).ledger.accepted := by
    decide +kernel
  have hd : (0, (⟨⟨"h", true⟩, "t1", .failure .poolStopped⟩ : Delivery)) ∈
      ((start 1).run sampleRun).ledger.delivered := by
    decide +kernel
  have hs : ((start 1).run sampleRun).sessions[0]?.isSome := by decide +kernel
  obtain ⟨s, hs⟩ := Option.isSome_iff_exists.mp hs
  exact ⟨⟨ha, hplace 0 _ ha⟩, ⟨hd, hdelivered _ hd⟩, s, hs, hcount 0 s hs⟩

end Fleet
end TaskGrid
