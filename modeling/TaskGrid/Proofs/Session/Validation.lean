import TaskGrid.Proofs.Session.Creation

/-! The batch sizes are checked twice, for a session and for the way to the control plane. Both checks accept the
same settings, those that have batch sizes (`Settings.BatchSizes`), as long as there is an endpoint. -/
namespace TaskGrid

/-- The settings name an endpoint, though perhaps none that can be reached. -/
def Settings.HasEndpoint (s : Settings) : Prop := ∃ c ∈ (s.getD endpointKey "").toList, Text.isBlank c = false

-- By a search of the text, not of all characters.
instance : DecidablePred Settings.HasEndpoint := fun s =>
  List.decidableBEx (fun c => Text.isBlank c = false) (s.getD Settings.endpointKey "").toList

theorem Text.trimChars_ne_nil {cs : List Char} (h : ∃ c ∈ cs, isBlank c = false) : trimChars cs ≠ [] := by
  intro hnil
  obtain ⟨before, after, rfl, hbefore, hafter⟩ := (trimChars_eq_iff (by simp)).mp hnil
  obtain ⟨c, hc, hink⟩ := h
  rw [List.append_nil, List.mem_append] at hc
  rcases hc with hc | hc
  · rw [hbefore c hc] at hink
    cases hink
  · rw [hafter c hc] at hink
    cases hink

namespace Settings

variable {s : Settings}

theorem checkPlane_spec {endpoint : String} (h : ∃ c ∈ endpoint.toList, Text.isBlank c = false)
    (wait submit : Nat) :
    (checkPlane endpoint wait submit = .ok ⟨endpoint, wait, submit⟩ ∧ 0 < wait ∧ 0 < submit) ∨
      (∃ flaw details, checkPlane endpoint wait submit = .error flaw ∧ flaw.toGrid = .invalidSettings details) ∧
        ¬ (0 < wait ∧ 0 < submit) := by
  rw [checkPlane, if_neg (Text.trimChars_ne_nil h)]
  split
  · next hzero => exact .inr ⟨⟨_, _, rfl, rfl⟩, by omega⟩
  · next hwait =>
    split
    · next hzero => exact .inr ⟨⟨_, _, rfl, rfl⟩, by omega⟩
    · next hsubmit => exact .inl ⟨rfl, by omega, by omega⟩

/-- With an endpoint, the way to the control plane is known exactly if there are batch sizes. -/
theorem plane_spec (h : s.HasEndpoint) :
    (∃ submit wait, s.plane = .ok ⟨s.getD endpointKey "", wait, submit⟩ ∧ s.BatchSizes submit wait) ∨
      (∃ flaw details, s.plane = .error flaw ∧ flaw.toGrid = .invalidSettings details) ∧ ¬ s.HasBatchSizes := by
  unfold plane
  rcases s.count_spec waitBatchSizeKey defaultBatchSize with
    ⟨wait, hwait, hwaits⟩ | ⟨⟨flaw, details, hwait, hdetails⟩, hnone⟩
  · rcases s.count_spec submitBatchSizeKey defaultBatchSize with
      ⟨submit, hsubmit, hsubmits⟩ | ⟨⟨flaw, details, hsubmit, hdetails⟩, hnone⟩
    · rw [hwait, hsubmit]
      rcases checkPlane_spec h wait submit with ⟨hok, hpos⟩ | ⟨herror, hzero⟩
      · exact .inl ⟨submit, wait, hok, hsubmits, hwaits, hpos.2, hpos.1⟩
      · right
        refine ⟨herror, ?_⟩
        rintro ⟨submit', wait', hsizes⟩
        rw [hwaits.unique hsizes.waits, hsubmits.unique hsizes.submits] at hzero
        exact hzero ⟨hsizes.wait_pos, hsizes.submit_pos⟩
    · rw [hwait, hsubmit]
      right
      refine ⟨⟨flaw, details, rfl, hdetails⟩, ?_⟩
      rintro ⟨submit, wait', hsizes⟩
      exact hnone submit hsizes.submits
  · rw [hwait]
    right
    refine ⟨⟨flaw, details, rfl, hdetails⟩, ?_⟩
    rintro ⟨submit, wait', hsizes⟩
    exact hnone wait' hsizes.waits

theorem plane_sizes_iff (h : s.HasEndpoint) (submit wait : Nat) :
    (∃ way, s.plane = .ok way ∧ way.submitBatchSize = submit ∧ way.waitBatchSize = wait) ↔
      s.BatchSizes submit wait := by
  rcases plane_spec h with ⟨submit', wait', hplane, hsizes⟩ | ⟨⟨flaw, details, hflaw, -⟩, hnone⟩
  · constructor
    · rintro ⟨way, hway, rfl, rfl⟩
      cases hway.symm.trans hplane
      exact hsizes
    · intro hsizes'
      obtain ⟨rfl, rfl⟩ := hsizes.unique hsizes'
      exact ⟨_, hplane, rfl, rfl⟩
  · constructor
    · rintro ⟨way, hway, -⟩
      cases hway.symm.trans hflaw
    · intro hsizes
      exact absurd ⟨submit, wait, hsizes⟩ hnone

end Settings

namespace Session

theorem attach_sizes_iff (p : Properties) (id : String) (submit wait : Nat) :
    (∃ s, attach p id = .ok s ∧ s.submitBatchSize = submit ∧ s.waitBatchSize = wait) ↔
      p.settings.BatchSizes submit wait := by
  rcases attach_spec p id with ⟨s, hs, -, hsizes⟩ | ⟨⟨flaw, details, hflaw, -⟩, hnone⟩
  · constructor
    · rintro ⟨s', hs', rfl, rfl⟩
      cases hs'.symm.trans hs
      exact hsizes
    · intro hsizes'
      obtain ⟨hsubmit, hwait⟩ := hsizes.unique hsizes'
      exact ⟨s, hs, hsubmit, hwait⟩
  · constructor
    · rintro ⟨s, hs, -⟩
      cases hs.symm.trans hflaw
    · intro hsizes
      exact absurd ⟨submit, wait, hsizes⟩ hnone

/-- The two checks of the batch sizes agree when there is an endpoint. Both succeed, and with the same batch sizes,
if these are what the settings give: under each key nothing, an empty text, or a text that spells a number which is
positive and below two to the power of sixty-four. Otherwise both say that the settings are wrong. -/
theorem attach_agrees_with_plane (p : Properties) (id : String) (h : p.settings.HasEndpoint) :
    (∀ submit wait, (∃ s, attach p id = .ok s ∧ s.submitBatchSize = submit ∧ s.waitBatchSize = wait) ↔
      p.settings.BatchSizes submit wait) ∧
    (∀ submit wait, (∃ way, p.settings.plane = .ok way ∧ way.submitBatchSize = submit ∧ way.waitBatchSize = wait) ↔
      p.settings.BatchSizes submit wait) ∧
    (¬ p.settings.HasBatchSizes →
      (∃ flaw details, attach p id = .error flaw ∧ flaw.toGrid.toClient = .invalidSettings details) ∧
      ∃ flaw details, p.settings.plane = .error flaw ∧ flaw.toGrid = .invalidSettings details) := by
  constructor
  · exact attach_sizes_iff p id
  constructor
  · exact Settings.plane_sizes_iff h
  · intro hnone
    constructor
    · rcases attach_spec p id with ⟨s, -, -, hsizes⟩ | ⟨herror, -⟩
      · exact absurd ⟨_, _, hsizes⟩ hnone
      · exact herror
    · rcases Settings.plane_spec h with ⟨submit, wait, -, hsizes⟩ | ⟨herror, -⟩
      · exact absurd ⟨submit, wait, hsizes⟩ hnone
      · exact herror

/-- A number at the limit, and an empty text. -/
def sampleSizes : Properties where
  settings := .ofList [("GrpcClient:Endpoint", " grid "), ("GrpcClient:SubmitBatchSize", "\t+0018446744073709551615 "),
    ("GrpcClient:WaitBatchSize", "")]

/-- A number beyond the limit. -/
def sampleSizesBeyond : Properties where
  settings := .ofList [("GrpcClient:Endpoint", "grid"), ("GrpcClient:SubmitBatchSize", "18446744073709551616")]

theorem attach_agrees_with_plane_sampleSizes :
    sampleSizes.settings.HasEndpoint ∧ sampleSizesBeyond.settings.HasEndpoint ∧
      sampleSizes.settings.BatchSizes 18446744073709551615 200 ∧
      (∃ way, sampleSizes.settings.plane = .ok way ∧ way.submitBatchSize = 18446744073709551615 ∧
        way.waitBatchSize = 200) ∧
      ∃ flaw details, attach sampleSizesBeyond "session" = .error flaw ∧
        flaw.toGrid.toClient = .invalidSettings details := by
  have hendpoint : sampleSizes.settings.HasEndpoint := by decide +kernel
  have hendpoint' : sampleSizesBeyond.settings.HasEndpoint := by decide +kernel
  have hsubmit : sampleSizes.settings.get? Settings.submitBatchSizeKey = some "\t+0018446744073709551615 " := by
    decide +kernel
  have hwait : sampleSizes.settings.get? Settings.waitBatchSizeKey = some "" := by decide +kernel
  have hread : Settings.countOf? "\t+0018446744073709551615 " = some 18446744073709551615 := by decide +kernel
  obtain ⟨hspells, hmax⟩ := Settings.countOf?_eq_some_iff.mp hread
  have hsizes : sampleSizes.settings.BatchSizes 18446744073709551615 200 :=
    ⟨.spelled hsubmit hspells hmax, .empty hwait, by decide, by decide⟩
  have hbeyond : sampleSizesBeyond.settings.get? Settings.submitBatchSizeKey = some "18446744073709551616" := by
    decide +kernel
  have hnone : ¬ sampleSizesBeyond.settings.HasBatchSizes := by
    have hread : Settings.countOf? "18446744073709551616" = none := by decide +kernel
    rintro ⟨submit, wait, h⟩
    rcases h.submits with hget | hget | ⟨hget, hspells, hmax⟩
    · cases hbeyond.symm.trans hget
    · exact absurd (Option.some.inj (hbeyond.symm.trans hget)) (by decide)
    · obtain rfl := Option.some.inj (hbeyond.symm.trans hget)
      cases hread.symm.trans (Settings.countOf?_eq_some_iff.mpr ⟨hspells, hmax⟩)
  refine ⟨hendpoint, hendpoint', hsizes, ?_, ?_⟩
  · exact ((attach_agrees_with_plane sampleSizes "session" hendpoint).2.1 _ _).mpr hsizes
  · exact ((attach_agrees_with_plane sampleSizesBeyond "session" hendpoint').2.2 hnone).1

end Session
end TaskGrid
