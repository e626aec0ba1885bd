/-
This file proves when the cooldown of the chronological replay covers every
loss. The replay keeps the exit time of the loss applied last, production takes
the latest exit time; the two agree, and the cooldown of no applied loss is cut
short, exactly when the losses are applied in the order of their exit times.
-/

import BreezeTrading.Strategy.ReplayLimits

namespace BreezeTrading

open Stored

/-! ### Last and latest -/

section Latest

variable {Item : Type} [LinearOrder Item]

theorem getLast?_eq_max? {items : List Item} (ascending : items.Pairwise (· ≤ ·)) :
    items.getLast? = items.max? := by
  induction items using List.reverseRecOn with
  | nil => rfl
  | append_singleton items last _ =>
    rw [List.getLast?_concat]
    refine (List.max?_eq_some_iff.mpr ⟨by simp, fun item member => ?_⟩).symm
    rcases List.mem_append.mp member with before | same
    · exact (List.pairwise_append.mp ascending).2.2 item before last List.mem_cons_self
    · exact le_of_eq (List.mem_singleton.mp same)

theorem pairwise_concat {items : List Item} {last : Item} (ascending : items.Pairwise (· ≤ ·))
    (latest : (items ++ [last]).getLast? = (items ++ [last]).max?) :
    (items ++ [last]).Pairwise (· ≤ ·) := by
  rw [List.getLast?_concat] at latest
  refine List.pairwise_append.mpr ⟨ascending, List.pairwise_singleton _ _, ?_⟩
  intro item before other same
  rw [List.mem_singleton.mp same]
  exact (List.max?_eq_some_iff.mp latest.symm).2 item (List.mem_append_left _ before)

end Latest

namespace ChronologicalReplayExecutor

variable {World Cursor : Type}

/-! ### The losses applied -/

/-- The exit times of the losing records, in the order they were applied. -/
def lossTimes (calls : List (Call World)) : List Int :=
  (appliedRecords calls).filterMap lossExitTime

theorem lossTimes_concat (calls : List (Call World)) (call : Call World) :
    lossTimes (calls ++ [call]) = lossTimes calls ∨
      ∃ last, lossTimes (calls ++ [call]) = lossTimes calls ++ [last] := by
  simp only [lossTimes, appliedRecords, List.filterMap_append, acceptAll, List.foldl_append]
  cases asked : resolvedRecord call with
  | none => exact Or.inl (by simp [asked])
  | some record =>
    simp only [List.filterMap_cons, List.filterMap_nil, asked, List.foldl_cons, List.foldl_nil]
    rw [accept]
    split
    · exact Or.inl rfl
    · rw [List.filterMap_append]
      cases loss : lossExitTime record with
      | none => exact Or.inl (by simp [loss])
      | some last => exact Or.inr ⟨last, by simp [loss]⟩

theorem lossTimes_early {before calls : List (Call World)} (early : before <+: calls) :
    lossTimes before <+: lossTimes calls := by
  obtain ⟨later, rfl⟩ := early
  induction later using List.reverseRecOn with
  | nil => simp
  | append_singleton later call inductionHypothesis =>
    rw [← List.append_assoc]
    refine inductionHypothesis.trans ?_
    rcases lossTimes_concat (before ++ later) call with same | ⟨last, longer⟩
    · rw [same]
    · rw [longer]
      exact List.prefix_append _ _

/-! ### When the cooldown covers every loss -/

variable (collaborators : Collaborators World Cursor)

/-- At every moment of a run the last loss is the latest of those applied, as production has
it, the cooldown has not moved backwards, and an entry is accepted only after the cooldown of
every loss applied. -/
structure CooldownKept (riskConfig : RiskConfig) (world : World) (calls : List (Call World)) :
    Prop where
  latest : ∀ before, before <+: calls →
    (run collaborators (start riskConfig world) before).state.lastLossExitTime =
      (lossTimes before).max?
  forwards : ∀ before after, before <+: after → after <+: calls →
    ∀ earlier ∈ (run collaborators (start riskConfig world) before).state.lossCooldownUntil,
      ∃ later ∈ (run collaborators (start riskConfig world) after).state.lossCooldownUntil,
        earlier ≤ later
  covers : ∀ before, before <+: calls → ∀ signal bar sizing record,
    (acceptSignal collaborators (run collaborators (start riskConfig world) before) signal bar
      sizing).1 = .ok record →
    ∀ exitTime ∈ lossTimes before, cooldownEnd riskConfig exitTime ≤ bar.endTime

theorem step_riskConfig (executor : ChronologicalReplayExecutor World Cursor) (call : Call World) :
    (step collaborators executor call).riskConfig = executor.riskConfig := by
  rcases step_cases collaborators executor call with
    ⟨record, rfl⟩ | ⟨-, -, kept | ⟨signal, now, -, counted⟩⟩
  · exact (applyExecutionEconomics_frame executor record).1
  · exact kept.riskConfig
  · exact counted.riskConfig

theorem run_riskConfig (executor : ChronologicalReplayExecutor World Cursor)
    (calls : List (Call World)) :
    (run collaborators executor calls).riskConfig = executor.riskConfig := by
  induction calls generalizing executor with
  | nil => rfl
  | cons call rest inductionHypothesis =>
    exact (inductionHypothesis (step collaborators executor call)).trans
      (step_riskConfig collaborators executor call)

theorem run_lossCooldownUntil (riskConfig : RiskConfig) (world : World)
    (calls : List (Call World)) :
    (run collaborators (start riskConfig world) calls).state.lossCooldownUntil =
      (lossTimes calls).getLast?.map (cooldownEnd riskConfig) := by
  have booked := run_booked collaborators riskConfig world calls
  rw [booked.cooldown, booked.lastLoss, run_riskConfig]
  rfl

theorem ascending_of_latest (riskConfig : RiskConfig) (world : World) (calls : List (Call World))
    (latest : ∀ before, before <+: calls →
      (run collaborators (start riskConfig world) before).state.lastLossExitTime =
        (lossTimes before).max?) :
    (lossTimes calls).Pairwise (· ≤ ·) := by
  induction calls using List.reverseRecOn with
  | nil => exact List.Pairwise.nil
  | append_singleton calls call inductionHypothesis =>
    have ascending := inductionHypothesis fun before early =>
      latest before (early.trans (List.prefix_append _ _))
    rcases lossTimes_concat calls call with same | ⟨last, longer⟩
    · rw [same]
      exact ascending
    · have now := latest (calls ++ [call]) List.prefix_rfl
      rw [(run_booked collaborators riskConfig world (calls ++ [call])).lastLoss] at now
      change (lossTimes (calls ++ [call])).getLast? = _ at now
      rw [longer] at now ⊢
      exact pairwise_concat ascending now

/-- The cooldown covers every loss exactly when the losses are applied in the order of their
exit times. -/
theorem cooldownKept_iff (riskConfig : RiskConfig) (world : World) (calls : List (Call World)) :
    CooldownKept collaborators riskConfig world calls ↔
      (lossTimes calls).Pairwise (· ≤ ·) := by
  constructor
  · exact fun kept => ascending_of_latest collaborators riskConfig world calls kept.latest
  intro ascending
  have ordered : ∀ before, before <+: calls → (lossTimes before).Pairwise (· ≤ ·) :=
    fun before early => ascending.sublist (lossTimes_early early).sublist
  have latest : ∀ before, before <+: calls →
      (run collaborators (start riskConfig world) before).state.lastLossExitTime =
        (lossTimes before).max? := by
    intro before early
    rw [(run_booked collaborators riskConfig world before).lastLoss]
    exact getLast?_eq_max? (ordered before early)
  refine ⟨latest, ?_, ?_⟩
  · intro before after early late earlier
    rw [run_lossCooldownUntil, run_lossCooldownUntil, getLast?_eq_max? (ordered after late),
      getLast?_eq_max? (ordered before (early.trans late))]
    intro held
    obtain ⟨first, greatest, rfl⟩ := Option.mem_map.mp held
    have inside : first ∈ lossTimes after :=
      (lossTimes_early early).subset (List.max?_eq_some_iff.mp greatest).1
    obtain ⟨last, lastGreatest⟩ : ∃ last, (lossTimes after).max? = some last :=
      Option.isSome_iff_exists.mp (List.isSome_max?_of_mem inside)
    refine ⟨cooldownEnd riskConfig last, by simp [lastGreatest], ?_⟩
    have order := (List.max?_eq_some_iff.mp lastGreatest).2 first inside
    unfold cooldownEnd
    omega
  · intro before early signal bar sizing record accepted exitTime member
    rcases acceptSignal_cases collaborators (run collaborators (start riskConfig world) before)
      signal bar sizing with ⟨⟨raised, refused⟩, -⟩ | ⟨admits, -⟩
    · rw [accepted] at refused
      cases refused
    · obtain ⟨last, greatest⟩ : ∃ last, (lossTimes before).max? = some last :=
        Option.isSome_iff_exists.mp (List.isSome_max?_of_mem member)
      have elapsed := admits.cooldown last ((latest before early).trans greatest)
      rw [run_riskConfig] at elapsed
      have elapsed : cooldownEnd riskConfig last ≤ bar.endTime := elapsed
      have order := (List.max?_eq_some_iff.mp greatest).2 exitTime member
      unfold cooldownEnd at elapsed ⊢
      omega

/-! ### A cooldown cut short -/

/-- A replayer under which every entry becomes an active position, and a registry without
adapters that refuse. -/
def quietCollaborators : Collaborators Unit Unit where
  startRecord _ _ := (.ok (some ()), none, ())
  advanceRecord _ _ _ _ := (.ok true, none, (), ())
  finalizeRecord _ _ := (.ok (), none, ())
  confirmEntry _ _ _ := (.ok (), ())
  notifyExit _ _ _ _ := (.ok (), ())

/-- A resolved loss that ended at a minute. -/
def lossAt (signalId : String) (minute : Int) : ReplayManifestRecord where
  replaySignalId := signalId
  strategyId := "TREND_PULLBACK"
  direction := .call
  lifecycleStatus := .resolved
  exitTimestamp := some (minute * microsPerMinute)
  exitReason := some "STRUCTURAL_STOP"
  realizedR := some (-1)

/-- The loss of minute 100 is applied before the loss of minute 95. -/
def reversedLosses : List (Call Unit) :=
  [.applyExecutionEconomics (lossAt "S1" 100), .applyExecutionEconomics (lossAt "S2" 95)]

/-- The last loss on record is then the earlier one, and an entry six minutes after the later
one is accepted, though the cooldown is ten minutes. -/
theorem cooldown_cut_short :
    (run quietCollaborators (start .standard ()) reversedLosses).state.lastLossExitTime =
        some (95 * microsPerMinute) ∧
      (lossTimes reversedLosses).max? = some (100 * microsPerMinute) ∧
      RiskConfig.standard.cooldownAfterLossMin = 10 ∧
      (acceptSignal quietCollaborators (run quietCollaborators (start .standard ()) reversedLosses)
        ⟨"S3", .volatilityBreakout, .bullish⟩
        ⟨105 * microsPerMinute, 106 * microsPerMinute, 0, 0, 0, 0⟩
        ⟨"APPLIED", some 1, some 75⟩).1.toOption.isSome = true := by
  decide +kernel

end ChronologicalReplayExecutor

end BreezeTrading
