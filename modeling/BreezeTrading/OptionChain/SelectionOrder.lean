/-
This file proves what the selection of a contract is the best of: the first eligible contract of
the nearest expiry under a ranking with eight keys. The delta-aware ranking reads a spread of
nought as none at all, so its choice is best exactly where the contracts that lead otherwise have
a spread of nought all together or not at all.
-/

import BreezeTrading.Lib.Fallible
import BreezeTrading.Lib.Ranking
import BreezeTrading.OptionChain.ContractSelector
import BreezeTrading.Strategy.Rounding
import Mathlib.Data.String.Basic

namespace BreezeTrading

namespace OptionChain

open Ranking

/-! ### Ranks -/

theorem isLT_then_iff {first rest : Ordering} :
    (first.then rest).isLT = true ↔ first = .lt ∨ first = .eq ∧ rest.isLT = true := by
  cases first <;> cases rest <;> decide

theorem isLT_compare_iff {Key : Type} [LinearOrder Key] {first second : Key} :
    (compare first second).isLT = true ↔ first < second :=
  Ordering.isLT_iff_eq_lt.trans compare_lt_iff_lt

namespace Candidate

/-- The spread in percent, as it is reported. -/
def reportedSpread (candidate : Candidate) : ℚ := roundTo 4 candidate.spreadPct

/-- Band, distance and freshness. -/
def leadRank (config : OptionSelectionConfig) (now : Int) (candidate : Candidate) :
    Boolᵒᵈ ×ₗ ℚ ×ₗ Int :=
  toLex (.toDual (candidate.preferred config),
    toLex (candidate.deltaDistance config, (candidate.age now).getD 0))

/-- Open interest, volume, strike and id. -/
def liquidityRank (candidate : Candidate) : Intᵒᵈ ×ₗ Intᵒᵈ ×ₗ ℚ ×ₗ String :=
  toLex (.toDual candidate.leg.openInterest, toLex (.toDual candidate.leg.volume,
    toLex (candidate.strike, candidate.leg.instrumentId)))

/-- The delta-aware ranking as it is documented. -/
def deltaRank (config : OptionSelectionConfig) (now : Int) (candidate : Candidate) :
    (Boolᵒᵈ ×ₗ ℚ ×ₗ Int) ×ₗ ℚ ×ₗ Intᵒᵈ ×ₗ Intᵒᵈ ×ₗ ℚ ×ₗ String :=
  toLex (candidate.leadRank config now,
    toLex (candidate.reportedSpread, candidate.liquidityRank))

/-- The spread as the delta-aware ranking reads it. -/
def seenSpread (candidate : Candidate) : WithTop ℚ := candidate.rankedSpread

theorem seenSpread_eq (candidate : Candidate) :
    candidate.seenSpread =
      if candidate.reportedSpread = 0 then ⊤ else (candidate.reportedSpread : WithTop ℚ) := rfl

/-- The delta-aware ranking as it is computed. -/
def seenRank (config : OptionSelectionConfig) (now : Int) (candidate : Candidate) :
    (Boolᵒᵈ ×ₗ ℚ ×ₗ Int) ×ₗ WithTop ℚ ×ₗ Intᵒᵈ ×ₗ Intᵒᵈ ×ₗ ℚ ×ₗ String :=
  toLex (candidate.leadRank config now, toLex (candidate.seenSpread, candidate.liquidityRank))

/-- The legacy ranking: the dearest, spread, open interest, strike and id. -/
def legacyRank (candidate : Candidate) : ℚᵒᵈ ×ₗ ℚ ×ₗ Intᵒᵈ ×ₗ ℚ ×ₗ String :=
  toLex (.toDual candidate.leg.ask, toLex (candidate.reportedSpread,
    toLex (.toDual candidate.leg.openInterest,
      toLex (candidate.strike, candidate.leg.instrumentId))))

/-- The strike and the id, which come last in each ranking. -/
def contract (candidate : Candidate) : ℚ ×ₗ String :=
  toLex (candidate.strike, candidate.leg.instrumentId)

def contractOfSeenRank
    (rank : (Boolᵒᵈ ×ₗ ℚ ×ₗ Int) ×ₗ WithTop ℚ ×ₗ Intᵒᵈ ×ₗ Intᵒᵈ ×ₗ ℚ ×ₗ String) : ℚ ×ₗ String :=
  (ofLex (ofLex (ofLex (ofLex rank).2).2).2).2

def contractOfLegacyRank (rank : ℚᵒᵈ ×ₗ ℚ ×ₗ Intᵒᵈ ×ₗ ℚ ×ₗ String) : ℚ ×ₗ String :=
  (ofLex (ofLex (ofLex rank).2).2).2

end Candidate

theorem compareOrInf_eq_lt_iff {first second : Candidate} :
    compareOrInf first.rankedSpread second.rankedSpread = .lt ↔
      first.seenSpread < second.seenSpread := by
  unfold Candidate.seenSpread
  cases first.rankedSpread <;> cases second.rankedSpread
  · exact iff_of_false (by decide) (lt_irrefl _)
  · exact iff_of_false (by simp [compareOrInf]) not_top_lt
  · exact iff_of_true rfl (WithTop.coe_lt_top _)
  · exact compare_lt_iff_lt.trans WithTop.coe_lt_coe.symm

theorem compareOrInf_eq_eq_iff {first second : Candidate} :
    compareOrInf first.rankedSpread second.rankedSpread = .eq ↔
      first.seenSpread = second.seenSpread := by
  unfold Candidate.seenSpread
  cases first.rankedSpread <;> cases second.rankedSpread
  · exact iff_of_true rfl rfl
  · exact iff_of_false (by simp [compareOrInf]) WithTop.coe_ne_top.symm
  · exact iff_of_false (by simp [compareOrInf]) WithTop.coe_ne_top
  · exact compare_eq_iff_eq.trans WithTop.coe_inj.symm

theorem deltaBefore_iff (config : OptionSelectionConfig) (now : Int) (first second : Candidate) :
    deltaBefore config now first second = true ↔
      first.seenRank config now < second.seenRank config now := by
  unfold deltaBefore Candidate.seenRank Candidate.leadRank Candidate.liquidityRank
  simp only [isLT_then_iff, isLT_compare_iff, Prod.Lex.toLex_lt_toLex, compare_lt_iff_lt,
    compare_eq_iff_eq, OrderDual.toDual_lt_toDual, OrderDual.toDual_inj, toLex_inj, Prod.mk.injEq,
    compareOrInf_eq_lt_iff, compareOrInf_eq_eq_iff, eq_comm (a := second.preferred config),
    eq_comm (a := second.leg.openInterest), eq_comm (a := second.leg.volume), and_or_left,
    or_assoc, and_assoc]

theorem legacyBefore_iff (first second : Candidate) :
    legacyBefore first second = true ↔ first.legacyRank < second.legacyRank := by
  unfold legacyBefore Candidate.legacyRank Candidate.reportedSpread
  simp only [isLT_then_iff, isLT_compare_iff, Prod.Lex.toLex_lt_toLex, compare_lt_iff_lt,
    compare_eq_iff_eq, OrderDual.toDual_lt_toDual, OrderDual.toDual_inj,
    eq_comm (a := second.leg.ask), eq_comm (a := second.leg.openInterest)]

theorem firstBy_eq_argmin {Element Rank : Type} [LinearOrder Rank]
    {before : Element → Element → Bool} {rank : Element → Rank}
    (ranked : ∀ first second, before first second = true ↔ rank first < rank second)
    (elements : List Element) : firstBy before elements = elements.argmin rank := by
  induction elements with
  | nil => rfl
  | cons element rest inductionHypothesis =>
    rw [List.argmin_cons, firstBy, inductionHypothesis]
    cases rest.argmin rank with
    | none => rfl
    | some best => simp only [ranked]

/-! ### Requests -/

/-- A call of the selection. -/
structure SelectionRequest where
  config : OptionSelectionConfig
  direction : TradeDirection
  underlying : ℚ
  chain : Chain
  cap : Option ℚ
  asOf : Option SelectionTime
  strategyA : Bool
  deriving DecidableEq

namespace SelectionRequest

def select (request : SelectionRequest) : Except String Selected :=
  selectContract request.config request.direction request.underlying request.chain request.cap
    request.asOf request.strategyA

/-- The contract that is chosen: its id, strike, expiry and kind. -/
def choice (request : SelectionRequest) : Option (String × ℚ × Int × OptionType) :=
  request.select.toOption.map fun selected =>
    (selected.instrumentId, selected.strike, selected.expiry, selected.optionType)

/-- The same call with the strikes in another order. -/
def withStrikes (request : SelectionRequest) (strikes : List StrikeRow) : SelectionRequest :=
  { request with chain := { request.chain with strikes } }

def candidates (request : SelectionRequest) : List Candidate :=
  candidatesOf request.chain (optionTypeFor request.direction)

/-- The call has a price and a time, and the mode has the deltas that it needs. -/
def Accepted (request : SelectionRequest) : Prop :=
  0 < request.underlying ∧ request.asOf.isSome = true ∧
    request.chain.capabilities.all (fun capabilities =>
      !request.strategyA || capabilities.verifiedDeltaAvailable) = true

/-- An expiry has enough sessions left. -/
def EnoughSessions (request : SelectionRequest) (day expiry : Int) : Prop :=
  request.config.minimumExpirySessionsRemaining ≤ tradingSessionsRemaining day expiry
    (request.config.exchangeHolidays ++ request.chain.holidays)

instance (request : SelectionRequest) (day expiry : Int) :
    Decidable (request.EnoughSessions day expiry) :=
  inferInstanceAs (Decidable (_ ≤ _))

/-- The nearest of the expiries with enough sessions left. -/
structure IsNearest (request : SelectionRequest) (day expiry : Int) : Prop where
  listed : expiry ∈ expiriesOf request.chain (optionTypeFor request.direction)
  enough : request.EnoughSessions day expiry
  nearest : ∀ other ∈ expiriesOf request.chain (optionTypeFor request.direction),
    request.EnoughSessions day other → expiry ≤ other

/-- The filters of the mode, on the nearest expiry. -/
def passes (request : SelectionRequest) (now nearest : Int) (candidate : Candidate) : Bool :=
  if request.strategyA then candidate.deltaEligible request.config now nearest
  else candidate.legacyEligible request.config request.cap nearest

/-- A candidate of the chain that passes the filters of the mode. -/
def Eligible (request : SelectionRequest) (candidate : Candidate) : Prop :=
  candidate ∈ request.candidates ∧ ∃ asOf nearest, request.asOf = some asOf ∧
    request.IsNearest asOf.day nearest ∧ request.passes asOf.moment nearest candidate = true

def now (request : SelectionRequest) : Int := request.asOf.elim 0 SelectionTime.moment

/-- The documented ranking of the mode. -/
def Better (request : SelectionRequest) (first second : Candidate) : Prop :=
  if request.strategyA then
    first.deltaRank request.config request.now < second.deltaRank request.config request.now
  else first.legacyRank < second.legacyRank

/-- An eligible candidate that no other one surpasses in band, distance and freshness. -/
def Leads (request : SelectionRequest) (candidate : Candidate) : Prop :=
  request.Eligible candidate ∧ ∀ other, request.Eligible other →
    candidate.leadRank request.config request.now ≤ other.leadRank request.config request.now

/-- The candidates that lead have a spread of nought all together or not at all. -/
def SpreadsComparable (request : SelectionRequest) : Prop :=
  ∀ first second, request.Leads first → request.Leads second →
    (first.reportedSpread = 0 ↔ second.reportedSpread = 0)

/-- What is selected is eligible and the best, nothing is selected only where nothing is eligible,
and the order of the strikes does not matter. -/
structure SelectionLaw (request : SelectionRequest) : Prop where
  best : ∀ selected, request.select = .ok selected →
    ∃ candidate, request.Eligible candidate ∧ candidate.expiry = some selected.expiry ∧
      candidate.select (optionTypeFor request.direction) selected.expiry = selected ∧
      ∀ other, request.Eligible other → ¬request.Better other candidate
  refusal : ∀ reason, request.select = .error reason →
    ¬request.Accepted ∨ ∀ candidate, ¬request.Eligible candidate
  order : ∀ strikes : List StrikeRow, strikes.Perm request.chain.strikes →
    (request.withStrikes strikes).choice = request.choice
  /-- where a contract is listed once, all of its data are the same -/
  whole : (∀ first second, request.Eligible first → request.Eligible second →
      first.strike = second.strike → first.leg.instrumentId = second.leg.instrumentId →
        first = second) →
    ∀ strikes : List StrikeRow, strikes.Perm request.chain.strikes →
      (request.withStrikes strikes).select = request.select

/-! ### What is compared -/

/-- The time and the expiry for which contracts are compared, or why there are none. -/
def gate (request : SelectionRequest) : Except String (SelectionTime × Int) :=
  if request.underlying ≤ 0 then .error "INVALID_UNDERLYING_PRICE"
  else
    match request.asOf with
    | none => .error "NAIVE_SELECTION_TIMESTAMP"
    | some asOf =>
        match request.chain.capabilities.filter fun capabilities =>
            request.strategyA && !capabilities.verifiedDeltaAvailable with
        | some capabilities =>
            .error (if capabilities.rejectionReason = "" then "VERIFIED_OPTION_DELTA_UNAVAILABLE"
              else capabilities.rejectionReason)
        | none =>
            if request.chain.strikes = [] then .error "NO_STRIKES_IN_OPTION_CHAIN"
            else
              match nearestExpiry request.config request.chain (optionTypeFor request.direction)
                  asOf.day with
              | none => .error "NO_ELIGIBLE_EXPIRY_TWO_TRADING_SESSIONS"
              | some nearest => .ok (asOf, nearest)

/-- The first of candidates under the ranking of the mode. -/
def firstOf (request : SelectionRequest) (now : Int) (passing : List Candidate) :
    Option Candidate :=
  if request.strategyA then leastBy (Candidate.seenRank request.config now) passing
  else leastBy Candidate.legacyRank passing

/-- The first of the candidates that pass. -/
def first (request : SelectionRequest) (now nearest : Int) : Option Candidate :=
  request.firstOf now (request.candidates.filter (request.passes now nearest))

variable {request : SelectionRequest} {asOf : SelectionTime} {now nearest : Int}
  {candidate best : Candidate} {strikes : List StrikeRow}

theorem bestCandidate_eq_first :
    bestCandidate request.config request.chain (optionTypeFor request.direction) request.cap
      request.strategyA now nearest = request.first now nearest := by
  unfold bestCandidate first firstOf passes candidates
  cases request.strategyA with
  | true => exact firstBy_eq_argmin (deltaBefore_iff _ _) _
  | false => exact firstBy_eq_argmin legacyBefore_iff _

theorem select_eq : request.select = request.gate.bind fun found =>
    (request.first found.1.moment found.2).elim (.error "NO_ELIGIBLE_DELTA_AWARE_CONTRACT")
      fun best => .ok (best.select (optionTypeFor request.direction) found.2) := by
  unfold select selectContract gate
  by_cases unusable : request.underlying ≤ 0
  · rw [if_pos unusable, if_pos unusable]
    rfl
  rw [if_neg unusable, if_neg unusable]
  cases request.asOf with
  | none => rfl
  | some asOf =>
    generalize request.chain.capabilities.filter (fun capabilities =>
      request.strategyA && !capabilities.verifiedDeltaAvailable) = refusing
    cases refusing with
    | some capabilities => rfl
    | none =>
      dsimp only
      by_cases empty : request.chain.strikes = []
      · rw [if_pos empty, if_pos empty]
        rfl
      rw [if_neg empty, if_neg empty]
      cases nearestExpiry request.config request.chain (optionTypeFor request.direction)
        asOf.day with
      | none => rfl
      | some nearest =>
        dsimp only
        rw [Except.bind, ← bestCandidate_eq_first]
        cases bestCandidate request.config request.chain (optionTypeFor request.direction)
          request.cap request.strategyA asOf.moment nearest <;> rfl

theorem choice_eq : request.choice = request.gate.toOption.bind fun found =>
    ((request.first found.1.moment found.2).map Candidate.contract).map fun contract =>
      ((ofLex contract).2, (ofLex contract).1, found.2, optionTypeFor request.direction) := by
  unfold choice
  rw [select_eq]
  cases request.gate with
  | error reason => rfl
  | ok found =>
    change _ = (((request.first found.1.moment found.2).map Candidate.contract).map _)
    rw [Except.bind]
    cases request.first found.1.moment found.2 <;> rfl

theorem nearestExpiry_eq_some_iff {day : Int} :
    nearestExpiry request.config request.chain (optionTypeFor request.direction) day =
      some nearest ↔ request.IsNearest day nearest := by
  unfold nearestExpiry
  rw [List.min?_eq_some_iff]
  simp only [List.mem_filter, decide_eq_true_eq]
  constructor
  · rintro ⟨⟨listed, enough⟩, first⟩
    exact ⟨listed, enough, fun other isOther otherEnough => first other ⟨isOther, otherEnough⟩⟩
  · rintro ⟨listed, enough, first⟩
    exact ⟨⟨listed, enough⟩, fun other isOther => first other isOther.1 isOther.2⟩

theorem gate_eq_ok_iff :
    request.gate = .ok (asOf, nearest) ↔ request.Accepted ∧ request.asOf = some asOf ∧
      request.IsNearest asOf.day nearest := by
  unfold gate Accepted
  by_cases unusable : request.underlying ≤ 0
  · rw [if_pos unusable]
    exact iff_of_false (fun same => by cases same) fun both => not_lt.mpr unusable both.1.1
  rw [if_neg unusable, and_iff_right (not_le.mp unusable)]
  cases isTime : request.asOf with
  | none => exact iff_of_false (fun same => by cases same) fun both => by cases both.2.1
  | some known =>
    rw [Option.some.injEq, Option.isSome_some, and_iff_right rfl]
    cases refusing : request.chain.capabilities.filter fun capabilities =>
        request.strategyA && !capabilities.verifiedDeltaAvailable with
    | some capabilities =>
      obtain ⟨known, refuses⟩ := Option.filter_eq_some_iff.mp refusing
      refine iff_of_false (fun same => by cases same) fun both => ?_
      have verified := both.1
      rw [known, Option.all_some] at verified
      rw [Bool.and_eq_true, Bool.not_eq_true'] at refuses
      rw [refuses.1, refuses.2] at verified
      cases verified
    | none =>
      have accepts : request.chain.capabilities.all (fun capabilities =>
          !request.strategyA || capabilities.verifiedDeltaAvailable) = true := by
        rw [Option.all_eq_true]
        intro capabilities known
        simpa [or_iff_not_imp_left] using Option.filter_eq_none_iff.mp refusing capabilities known
      rw [and_iff_right accepts]
      dsimp only
      by_cases empty : request.chain.strikes = []
      · rw [if_pos empty]
        refine iff_of_false (fun same => by cases same) fun both => ?_
        have listed := both.2.listed
        rw [expiriesOf, empty] at listed
        exact List.not_mem_nil listed
      rw [if_neg empty]
      cases nearby : nearestExpiry request.config request.chain
        (optionTypeFor request.direction) known.day with
      | none =>
        refine iff_of_false (fun same => by cases same) ?_
        rintro ⟨rfl, isNearest⟩
        rw [nearestExpiry_eq_some_iff.mpr isNearest] at nearby
        cases nearby
      | some found =>
        rw [Except.ok.injEq, Prod.mk.injEq]
        refine and_congr_right ?_
        rintro rfl
        rw [← nearestExpiry_eq_some_iff, nearby, Option.some.injEq]

section Compared

variable (opened : request.gate = .ok (asOf, nearest))
include opened

theorem now_eq : request.now = asOf.moment := by
  rw [now, (gate_eq_ok_iff.mp opened).2.1]
  rfl

theorem eligible_iff :
    request.Eligible candidate ↔
      candidate ∈ request.candidates.filter (request.passes asOf.moment nearest) := by
  obtain ⟨-, isTime, isNearest⟩ := gate_eq_ok_iff.mp opened
  rw [List.mem_filter, Eligible]
  refine and_congr_right fun _ => ⟨?_, fun passing => ⟨asOf, nearest, isTime, isNearest, passing⟩⟩
  rintro ⟨known, other, sameTime, otherNearest, passing⟩
  obtain rfl := Option.some.inj (sameTime.symm.trans isTime)
  have same := nearestExpiry_eq_some_iff.mpr otherNearest
  rw [nearestExpiry_eq_some_iff.mpr isNearest] at same
  exact Option.some.inj same ▸ passing

theorem select_of_gate : request.select =
    (request.first asOf.moment nearest).elim (.error "NO_ELIGIBLE_DELTA_AWARE_CONTRACT")
      fun best => .ok (best.select (optionTypeFor request.direction) nearest) := by
  rw [select_eq, opened]
  rfl

theorem not_eligible_of_first (nothing : request.first asOf.moment nearest = none) :
    ¬request.Eligible candidate := by
  rw [eligible_iff opened]
  unfold first firstOf at nothing
  split at nothing
  · rw [List.argmin_eq_none.mp nothing]
    exact List.not_mem_nil
  · rw [List.argmin_eq_none.mp nothing]
    exact List.not_mem_nil

theorem eligible_of_first (isFirst : request.first asOf.moment nearest = some best) :
    request.Eligible best := by
  rw [eligible_iff opened]
  unfold first firstOf at isFirst
  split at isFirst
  · exact List.argmin_mem isFirst
  · exact List.argmin_mem isFirst

theorem eligible_quoted (eligible : request.Eligible candidate) :
    candidate.expiry = some nearest ∧ candidate.quoted = true := by
  have passing := (List.mem_filter.mp ((eligible_iff opened).mp eligible)).2
  have both : candidate.listed nearest = true ∧ candidate.quoted = true := by
    unfold passes Candidate.deltaEligible Candidate.legacyEligible at passing
    split at passing <;> simp only [Bool.and_eq_true, and_assoc] at passing <;>
      exact ⟨passing.1, passing.2.1⟩
  exact ⟨(of_decide_eq_true both.1).1, both.2⟩

theorem reportedSpread_nonneg (eligible : request.Eligible candidate) :
    0 ≤ candidate.reportedSpread := by
  obtain ⟨bidPositive, uncrossed⟩ := of_decide_eq_true (eligible_quoted opened eligible).2
  have spread : 0 ≤ candidate.spreadPct := by
    unfold Candidate.spreadPct
    have middle := (add_pos bidPositive (bidPositive.trans_le uncrossed)).le
    positivity
  calc (0 : ℚ) = roundTo 4 0 := by decide +kernel
    _ ≤ candidate.reportedSpread := roundTo_mono 4 spread

theorem least_of_first (isFirst : request.first asOf.moment nearest = some best)
    (eligible : request.Eligible candidate) :
    if request.strategyA then
      best.seenRank request.config request.now ≤ candidate.seenRank request.config request.now
    else best.legacyRank ≤ candidate.legacyRank := by
  have passing := (eligible_iff opened).mp eligible
  unfold first firstOf at isFirst
  rw [now_eq opened]
  cases mode : request.strategyA with
  | true =>
    rw [mode, if_pos rfl] at isFirst
    exact List.le_of_mem_argmin passing isFirst
  | false =>
    rw [mode, if_neg Bool.false_ne_true] at isFirst
    exact List.le_of_mem_argmin passing isFirst

theorem leads_of_first (mode : request.strategyA = true)
    (isFirst : request.first asOf.moment nearest = some best) : request.Leads best := by
  refine ⟨eligible_of_first opened isFirst, fun other isOther => ?_⟩
  have least := least_of_first opened isFirst isOther
  rw [mode, if_pos rfl] at least
  rcases Prod.Lex.toLex_le_toLex.mp least with leads | ⟨same, -⟩
  · exact leads.le
  · exact same.le

theorem best_of_first (comparable : request.strategyA = true → request.SpreadsComparable)
    (isFirst : request.first asOf.moment nearest = some best)
    (eligible : request.Eligible candidate) : ¬request.Better candidate best := by
  unfold Better
  cases mode : request.strategyA with
  | false =>
    have least := least_of_first opened isFirst eligible
    rw [mode, if_neg Bool.false_ne_true] at least
    exact not_lt.mpr least
  | true =>
    have isLeader := leads_of_first opened mode isFirst
    have sameNought {other : Candidate} (isOther : request.Eligible other)
        (sameLead : other.leadRank request.config request.now =
          best.leadRank request.config request.now) :
        best.reportedSpread = 0 ↔ other.reportedSpread = 0 :=
      comparable mode best other isLeader
        ⟨isOther, fun third isThird => sameLead ▸ isLeader.2 third isThird⟩
    have passing := (eligible_iff opened).mp eligible
    refine not_lt.mpr (@least_of_leaders _
      (request.candidates.filter (request.passes asOf.moment nearest)) _ _ _ _ _ _ _ _
      (Candidate.leadRank request.config request.now) Candidate.reportedSpread
      Candidate.seenSpread Candidate.liquidityRank best (fun other member => ?_)
      (fun other member sameLead less => ?_) (fun other member sameLead same => ?_)
      candidate passing)
    · have least := least_of_first opened isFirst ((eligible_iff opened).mpr member)
      rw [mode, if_pos rfl] at least
      exact least
    · have nought := sameNought ((eligible_iff opened).mpr member) sameLead
      rw [Candidate.seenSpread_eq, Candidate.seenSpread_eq] at less
      split_ifs at less with isNought otherNought otherNought
      · exact absurd less (lt_irrefl _)
      · exact absurd less not_top_lt
      · exact absurd (nought.mpr otherNought) isNought
      · exact WithTop.coe_lt_coe.mp less
    · have nought := sameNought ((eligible_iff opened).mpr member) sameLead
      rw [Candidate.seenSpread_eq, Candidate.seenSpread_eq] at same
      split_ifs at same with isNought otherNought otherNought
      · rw [isNought, otherNought]
      · exact absurd (nought.mp isNought) otherNought
      · exact absurd (nought.mpr otherNought) isNought
      · exact WithTop.coe_inj.mp same

theorem reportedSpread_ne_zero (mode : request.strategyA = true)
    (isFirst : request.first asOf.moment nearest = some best) {wide : Candidate}
    (isWide : request.Leads wide) (spread : wide.reportedSpread ≠ 0) :
    best.reportedSpread ≠ 0 := by
  intro nought
  have least := least_of_first opened isFirst isWide.1
  rw [mode, if_pos rfl] at least
  rcases Prod.Lex.toLex_le_toLex.mp least with leads | ⟨-, rest⟩
  · exact absurd leads (not_lt.mpr (isWide.2 best (eligible_of_first opened isFirst)))
  · have seen : best.seenSpread ≤ wide.seenSpread := by
      rcases Prod.Lex.toLex_le_toLex.mp rest with less | ⟨same, -⟩
      · exact less.le
      · exact same.le
    rw [Candidate.seenSpread_eq, Candidate.seenSpread_eq, if_pos nought, if_neg spread] at seen
    exact absurd seen (not_le.mpr (WithTop.coe_lt_top _))

theorem better_of_nought (mode : request.strategyA = true) (eligible : request.Eligible candidate)
    (spread : candidate.reportedSpread ≠ 0) {tight : Candidate} (isTight : request.Leads tight)
    (nought : tight.reportedSpread = 0) : request.Better tight candidate := by
  unfold Better
  rw [mode, if_pos rfl]
  unfold Candidate.deltaRank
  rw [Prod.Lex.toLex_lt_toLex, Prod.Lex.toLex_lt_toLex]
  rcases (isTight.2 candidate eligible).lt_or_eq with less | same
  · exact .inl less
  · refine .inr ⟨same, .inl ?_⟩
    rw [nought]
    exact lt_of_le_of_ne (reportedSpread_nonneg opened eligible) spread.symm

end Compared

/-! ### The order of the strikes -/

section Order

variable (permuted : strikes.Perm request.chain.strikes)
include permuted

theorem candidates_withStrikes : (request.withStrikes strikes).candidates.Perm request.candidates :=
  permuted.filterMap _

theorem nearestExpiry_withStrikes (day : Int) :
    nearestExpiry request.config (request.withStrikes strikes).chain
        (optionTypeFor request.direction) day =
      nearestExpiry request.config request.chain (optionTypeFor request.direction) day := by
  have sameExpiries (expiry : Int) :
      expiry ∈ expiriesOf (request.withStrikes strikes).chain (optionTypeFor request.direction) ↔
        expiry ∈ expiriesOf request.chain (optionTypeFor request.direction) :=
    (permuted.filterMap _).mem_iff
  refine Option.ext fun expiry => ?_
  refine (@nearestExpiry_eq_some_iff (request.withStrikes strikes) expiry day).trans
    (Iff.trans ?_ nearestExpiry_eq_some_iff.symm)
  constructor
  · rintro ⟨listed, enough, first⟩
    exact ⟨(sameExpiries expiry).mp listed, enough,
      fun other isOther => first other ((sameExpiries other).mpr isOther)⟩
  · rintro ⟨listed, enough, first⟩
    exact ⟨(sameExpiries expiry).mpr listed, enough,
      fun other isOther => first other ((sameExpiries other).mp isOther)⟩

theorem gate_withStrikes : (request.withStrikes strikes).gate = request.gate := by
  have sameEmpty : strikes = [] ↔ request.chain.strikes = [] := by
    rw [← List.length_eq_zero_iff, permuted.length_eq, List.length_eq_zero_iff]
  have sameNearest := fun day => nearestExpiry_withStrikes permuted day
  unfold gate
  unfold withStrikes at *
  simp only [sameEmpty, sameNearest]

theorem passing_withStrikes (now nearest : Int) :
    ((request.withStrikes strikes).candidates.filter (request.passes now nearest)).Perm
      (request.candidates.filter (request.passes now nearest)) :=
  (candidates_withStrikes permuted).filter _

theorem first_withStrikes (now nearest : Int) :
    ((request.withStrikes strikes).first now nearest).map Candidate.contract =
      (request.first now nearest).map Candidate.contract := by
  have passing := passing_withStrikes permuted now nearest
  change (request.firstOf now ((request.withStrikes strikes).candidates.filter
    (request.passes now nearest))).map Candidate.contract = _
  unfold first firstOf
  split
  · have sameRank := congrArg (Option.map Candidate.contractOfSeenRank)
      (@map_argmin_of_perm _ _ _ (Candidate.seenRank request.config now) _ _ passing)
    rw [Option.map_map, Option.map_map] at sameRank
    exact sameRank
  · have sameRank := congrArg (Option.map Candidate.contractOfLegacyRank)
      (@map_argmin_of_perm _ _ _ Candidate.legacyRank _ _ passing)
    rw [Option.map_map, Option.map_map] at sameRank
    exact sameRank

theorem first_withStrikes_of_listed_once (now nearest : Int)
    (once : ∀ first ∈ request.candidates.filter (request.passes now nearest),
      ∀ second ∈ request.candidates.filter (request.passes now nearest),
        first.contract = second.contract → first = second) :
    (request.withStrikes strikes).first now nearest = request.first now nearest := by
  have passing := (passing_withStrikes permuted now nearest).symm
  change request.firstOf now ((request.withStrikes strikes).candidates.filter
    (request.passes now nearest)) = _
  unfold SelectionRequest.first firstOf
  split
  · refine (argmin_of_perm passing fun first isFirst second isSecond same => ?_).symm
    exact once first isFirst second isSecond (congrArg Candidate.contractOfSeenRank same)
  · refine (argmin_of_perm passing fun first isFirst second isSecond same => ?_).symm
    exact once first isFirst second isSecond (congrArg Candidate.contractOfLegacyRank same)

theorem choice_withStrikes : (request.withStrikes strikes).choice = request.choice := by
  rw [choice_eq, choice_eq, gate_withStrikes permuted]
  exact congrArg _ (funext fun found =>
    congrArg (Option.map _) (first_withStrikes permuted found.1.moment found.2))

theorem select_withStrikes
    (once : ∀ first second, request.Eligible first → request.Eligible second →
      first.contract = second.contract → first = second) :
    (request.withStrikes strikes).select = request.select := by
  rw [select_eq, select_eq, gate_withStrikes permuted]
  cases opened : request.gate with
  | error reason => rfl
  | ok found =>
    rw [Except.bind, Except.bind, first_withStrikes_of_listed_once permuted]
    · rfl
    · exact fun first isFirst second isSecond =>
        once first second ((eligible_iff opened).mpr isFirst) ((eligible_iff opened).mpr isSecond)

end Order

/-! ### The best contract -/

theorem refusal (reason : String) (refused : request.select = .error reason) :
    ¬request.Accepted ∨ ∀ candidate, ¬request.Eligible candidate := by
  refine or_iff_not_imp_left.mpr fun accepted candidate eligible => ?_
  obtain ⟨-, asOf, nearest, isTime, isNearest, -⟩ := id eligible
  have opened := gate_eq_ok_iff.mpr ⟨not_not.mp accepted, isTime, isNearest⟩
  rw [select_of_gate opened] at refused
  cases nothing : request.first asOf.moment nearest with
  | none => exact not_eligible_of_first opened nothing eligible
  | some best =>
    rw [nothing] at refused
    cases refused

theorem select_eq_ok_iff {selected : Selected} :
    request.select = .ok selected ↔ ∃ asOf nearest best, request.gate = .ok (asOf, nearest) ∧
      request.first asOf.moment nearest = some best ∧
      best.select (optionTypeFor request.direction) nearest = selected := by
  rw [select_eq]
  constructor
  · intro selects
    obtain ⟨⟨asOf, nearest⟩, opened, rest⟩ := Fallible.ok_of_bind selects
    cases isFirst : request.first asOf.moment nearest with
    | none =>
      rw [isFirst] at rest
      cases rest
    | some best =>
      rw [isFirst] at rest
      exact ⟨asOf, nearest, best, opened, isFirst, Except.ok.inj rest⟩
  · rintro ⟨asOf, nearest, best, opened, isFirst, rfl⟩
    rw [opened, Except.bind, isFirst]
    rfl

/-- The selection is the best eligible contract, in any order of the strikes, exactly where the
delta-aware ranking has no contract without a spread beside one with a spread among those that lead
in band, distance and freshness. -/
theorem selection_law_iff (request : SelectionRequest) :
    request.SelectionLaw ↔
      (request.Accepted → request.strategyA = true → request.SpreadsComparable) := by
  constructor
  · intro law accepted mode
    -- a candidate without a spread surpasses the choice, which has one
    have impossible (tight wide : Candidate) (isTight : request.Leads tight)
        (isWide : request.Leads wide) (nought : tight.reportedSpread = 0)
        (spread : wide.reportedSpread ≠ 0) : False := by
      obtain ⟨-, asOf, nearest, isTime, isNearest, -⟩ := isTight.1
      have opened := gate_eq_ok_iff.mpr ⟨accepted, isTime, isNearest⟩
      cases isFirst : request.first asOf.moment nearest with
      | none => exact not_eligible_of_first opened isFirst isTight.1
      | some best =>
        obtain ⟨candidate, eligible, -, same, optimal⟩ :=
          law.best _ (select_eq_ok_iff.mpr ⟨asOf, nearest, best, opened, isFirst, rfl⟩)
        have sameSpread : candidate.reportedSpread = best.reportedSpread :=
          congrArg Selected.spreadPct same
        have hasSpread := reportedSpread_ne_zero opened mode isFirst isWide spread
        rw [← sameSpread] at hasSpread
        exact optimal tight isTight.1
          (better_of_nought opened mode eligible hasSpread isTight nought)
    intro first second isFirst isSecond
    constructor
    · intro nought
      by_contra spread
      exact impossible first second isFirst isSecond nought spread
    · intro nought
      by_contra spread
      exact impossible second first isSecond isFirst nought spread
  · intro comparable
    refine ⟨fun selected selects => ?_, refusal, fun strikes => choice_withStrikes,
      fun once strikes permuted => select_withStrikes permuted ?_⟩
    · obtain ⟨asOf, nearest, best, opened, isFirst, rfl⟩ := select_eq_ok_iff.mp selects
      have accepted := (gate_eq_ok_iff.mp opened).1
      have eligible := eligible_of_first opened isFirst
      exact ⟨best, eligible, (eligible_quoted opened eligible).1, rfl, fun other isOther =>
        best_of_first opened (comparable accepted) isFirst isOther⟩
    · intro first second isFirst isSecond same
      obtain ⟨sameStrike, sameId⟩ := Prod.mk.inj (toLex_inj.mp same)
      exact once first second isFirst isSecond sameStrike sameId

/-- A call at 25400 with a delta in the preferred band, at one price on both sides. -/
def tightLeg : OptionLeg where
  instrumentId := "INST-NIFTY-25400-CE"
  symbol := "NIFTY25400CE"
  ltp := 150
  bid := 150
  ask := 150
  volume := 5000
  openInterest := 50000
  lotSize := 75
  delta := some (62 / 100)
  quoteTimestamp := .at 1790229600000000

/-- A call at 25450 with the same delta, at a spread of four points. -/
def wideLeg : OptionLeg :=
  { tightLeg with
    instrumentId := "INST-NIFTY-25450-CE", symbol := "NIFTY25450CE", bid := 148, ask := 152 }

/-- A bullish call with both of them. -/
def tightAndWide : SelectionRequest where
  config := {}
  direction := .bullish
  underlying := 25430
  chain :=
    { source := "KITE"
      strikes := [⟨25400, some tightLeg, none, none⟩, ⟨25450, some wideLeg, none, none⟩]
      expiry := some 20726 }
  cap := none
  asOf := some ⟨1790229600000000, 20720⟩
  strategyA := true

def tightCandidate : Candidate := ⟨25400, tightLeg, some 20726, .at 1790229600000000⟩

def wideCandidate : Candidate := ⟨25450, wideLeg, some 20726, .at 1790229600000000⟩

/-- The contract without a spread comes after the one with a spread. -/
theorem tight_spread_last : ¬∀ request : SelectionRequest, request.SelectionLaw := by
  intro law
  have selects : tightAndWide.select = .ok (wideCandidate.select .call 20726) := by decide +kernel
  obtain ⟨candidate, eligible, -, same, optimal⟩ := (law tightAndWide).best _ selects
  have tightEligible : tightAndWide.Eligible tightCandidate :=
    ⟨by decide +kernel, ⟨1790229600000000, 20720⟩, 20726, rfl,
      ⟨by decide +kernel, by decide +kernel, by decide +kernel⟩, by decide +kernel⟩
  have isWide : candidate = wideCandidate := by
    have listed : tightAndWide.candidates = [tightCandidate, wideCandidate] := by decide +kernel
    have member := eligible.1
    rw [listed, List.mem_pair] at member
    rcases member with rfl | rfl
    · exact absurd (congrArg Selected.strike same) (by decide +kernel)
    · rfl
  refine optimal tightCandidate tightEligible ?_
  rw [isWide]
  exact Prod.Lex.toLex_lt_toLex.mpr (.inr ⟨by decide +kernel,
    Prod.Lex.toLex_lt_toLex.mpr (.inl (by decide +kernel))⟩)

end SelectionRequest

end OptionChain

end BreezeTrading
