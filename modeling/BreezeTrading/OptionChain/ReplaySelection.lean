/-
This file compares the selection of a contract in a replay with the one in production. A snapshot
stores the rows that production inspected, as they were read, and the replay selects from them
again. It stores no rows of a selection that is refused before it inspects one, nor the holidays of
the chain, and the replay does not look at the source of the chain.
-/

import BreezeTrading.OptionChain.Provenance
import BreezeTrading.OptionChain.SelectionOrder

namespace BreezeTrading

namespace OptionChain

open SelectionRequest

/-! ### The snapshot -/

/-- A time as it is stored: one that does not parse is stored as none. -/
def RawTimestamp.parsed : RawTimestamp → RawTimestamp
  | .at moment => .at moment
  | _ => .missing

/-- What is read of a row without a leg. -/
def noLeg : OptionLeg := ⟨"", "", 0, 0, 0, 0, 0, 0, none, none, .missing⟩

/-- What a snapshot stores of an inspected row. -/
structure StoredCandidate where
  strike : ℚ
  leg : OptionLeg
  greekSource : String

/-- The row has a delta, and a source of it that is not unavailable. -/
def StoredCandidate.verified (item : StoredCandidate) : Bool :=
  item.leg.delta.isSome && decide (upper item.greekSource ≠ "UNAVAILABLE")

/-- The row that the replay builds of it. -/
def StoredCandidate.row (item : StoredCandidate) : OptionType → StrikeRow
  | .call => ⟨item.strike, some item.leg, none, item.leg.expiry⟩
  | .put => ⟨item.strike, none, some item.leg, item.leg.expiry⟩

/-- A signal that a cycle selects a contract for, with its chain. A delta-aware signal without an
entry of its own is refused before. -/
structure RecordedCall where
  strategy : StrategyName
  direction : TradeDirection
  underlyingEntry : Option ℚ
  spot : ℚ
  asOf : SelectionTime
  config : OptionSelectionConfig
  /-- the override of the premium cap, in production and in the replay -/
  cap : Option ℚ
  replayCap : Option ℚ
  /-- the chain but for its rows, and the rows, with the source their leg states for its delta -/
  chain : Chain
  rows : List (StrikeRow × String)
  /-- when the snapshot is stored -/
  storedAt : Int

namespace RecordedCall

variable (call : RecordedCall)

def optionType : OptionType := optionTypeFor call.direction

def deltaAware : Bool := usesDeltaAwareSelector call.strategy

/-- The selection of a cycle. -/
def production : SelectionRequest where
  config := call.config
  direction := call.direction
  underlying := if call.deltaAware then call.underlyingEntry.getD call.spot else call.spot
  chain := { call.chain with strikes := call.rows.map Prod.fst }
  cap := call.cap
  asOf := some call.asOf
  strategyA := call.deltaAware

/-- The contract of a cycle, after the check of the source, or why there is none. -/
def produced : Except String Selected :=
  if cycleChecksSource call.strategy = true ∧ call.chain.source ∉ realSources then
    .error (call.chain.validationRejection.getD "NO_REAL_OPTION_QUOTE")
  else call.production.select

def stored (row : StrikeRow × String) : StoredCandidate :=
  let leg := (row.1.leg call.optionType).getD noLeg
  { strike := row.1.strike
    leg := { leg with
      expiry := leg.expiry <|> row.1.expiry <|> call.chain.expiry
      quoteTimestamp := (if leg.quoteTimestamp = .missing then call.chain.timestamp
        else leg.quoteTimestamp).parsed }
    greekSource := upper (if row.2 ≠ "" then row.2
      else if leg.delta.isSome then "BROKER" else "UNAVAILABLE") }

/-- `_capture_option_chain_snapshot`: the rows that were inspected. -/
def snapshot : List StoredCandidate :=
  match call.production.gate with
  | .ok _ => call.rows.map call.stored
  | .error _ => []

def snapshotChain : Chain where
  source := call.chain.source
  strikes := call.snapshot.map fun item => item.row call.optionType
  expiry := call.chain.expiry
  timestamp := .at call.storedAt
  capabilities :=
    let verified := call.snapshot.any StoredCandidate.verified
    some ⟨verified, verified, if verified then "" else "VERIFIED_OPTION_DELTA_UNAVAILABLE"⟩

def replay : SelectionRequest where
  config := call.config
  direction := call.direction
  underlying := orPrice call.underlyingEntry call.spot
  chain := call.snapshotChain
  cap := call.replayCap
  asOf := some call.asOf
  strategyA := call.deltaAware

/-- What a snapshot keeps: the source is real where production checks it, the selection comes to
inspect rows, on an expiry that is also the nearest without the holidays of the chain, a delta-aware
one has a delta to verify and stores its quotes with a time or after the signal, and a legacy one
has the same cap. -/
structure Kept : Prop where
  real : cycleChecksSource call.strategy = true → call.chain.source ∈ realSources
  accepted : call.production.Accepted
  price : 0 < orPrice call.underlyingEntry call.spot
  nearest : ∃ expiry,
    nearestExpiry call.config call.production.chain call.optionType call.asOf.day = some expiry ∧
      nearestExpiry call.config { call.production.chain with holidays := [] } call.optionType
        call.asOf.day = some expiry
  verified : call.deltaAware = true → (call.rows.map call.stored).any StoredCandidate.verified = true
  timed : call.deltaAware = true → ∀ row ∈ call.rows,
    (call.stored row).leg.quoteTimestamp = .missing → call.asOf.moment < call.storedAt
  caps : call.deltaAware = false →
    call.replayCap.getD call.config.maxOptionPremium = call.cap.getD call.config.maxOptionPremium

/-! ### The rows that are stored -/

/-- A candidate of production, as the replay reads it. -/
def replayedAs (candidate : Candidate) : Candidate where
  strike := candidate.strike
  leg := { candidate.leg with
    expiry := candidate.expiry
    quoteTimestamp := candidate.quoteTimestamp.parsed }
  expiry := candidate.expiry
  quoteTimestamp := if candidate.quoteTimestamp.parsed = .missing then .at call.storedAt
    else candidate.quoteTimestamp.parsed

/-- A row of production, as the selection inspects it. -/
def candidateOf (row : StrikeRow) (leg : OptionLeg) : Candidate where
  strike := row.strike
  leg := leg
  expiry := leg.expiry <|> row.expiry <|> call.chain.expiry
  quoteTimestamp := if leg.quoteTimestamp = .missing then call.chain.timestamp else leg.quoteTimestamp

variable {call}

variable (item : StoredCandidate) (optionType : OptionType)

@[simp] theorem leg_row :
    (item.row optionType).leg optionType = some item.leg := by cases optionType <;> rfl

@[simp] theorem strike_row :
    (item.row optionType).strike = item.strike := by cases optionType <;> rfl

@[simp] theorem expiry_row :
    (item.row optionType).expiry = item.leg.expiry := by cases optionType <;> rfl

theorem snapshotChain_strikes (opened : ∃ found, call.production.gate = .ok found) :
    call.snapshotChain.strikes = call.rows.map fun row => (call.stored row).row call.optionType := by
  obtain ⟨found, opens⟩ := opened
  unfold snapshotChain snapshot
  rw [opens, List.map_map]
  rfl

theorem expiriesOf_snapshotChain (opened : ∃ found, call.production.gate = .ok found) :
    expiriesOf call.snapshotChain call.optionType =
      expiriesOf call.production.chain call.optionType := by
  unfold expiriesOf production
  rw [snapshotChain_strikes opened, List.filterMap_map, List.filterMap_map]
  refine List.filterMap_congr fun row _ => ?_
  have chained : call.snapshotChain.expiry = call.chain.expiry := rfl
  simp only [Function.comp_apply, leg_row, expiry_row, stored, Option.bind_some, chained]
  cases row.1.leg call.optionType with
  | none => cases row.1.expiry <;> cases call.chain.expiry <;> rfl
  | some leg =>
    simp only [Option.bind_some, Option.getD_some]
    cases leg.expiry <;> cases row.1.expiry <;> cases call.chain.expiry <;> rfl

theorem age_replayedAs {candidate : Candidate} {now : Int}
    (timed : candidate.quoteTimestamp.parsed = .missing → now < call.storedAt) :
    (call.replayedAs candidate).age now = candidate.age now := by
  unfold Candidate.age replayedAs
  cases stamp : candidate.quoteTimestamp with
  | «at» moment => rfl
  | missing | malformed =>
    rw [stamp] at timed
    exact if_pos (timed rfl)

theorem passes_replayedAs {candidate : Candidate} {nearest : Int} (kept : call.Kept)
    (timed : call.deltaAware = true → candidate.quoteTimestamp.parsed = .missing →
      call.asOf.moment < call.storedAt) :
    call.replay.passes call.asOf.moment nearest (call.replayedAs candidate) =
      call.production.passes call.asOf.moment nearest candidate := by
  cases mode : call.deltaAware with
  | true =>
    simp only [passes, replay, production, mode, if_true]
    unfold Candidate.deltaEligible
    rw [age_replayedAs (timed mode)]
    rfl
  | false =>
    simp only [passes, replay, production, mode, Bool.false_eq_true, if_false]
    unfold Candidate.legacyEligible
    rw [kept.caps mode]
    rfl

/-- The rows that pass in the replay are those of production. -/
theorem passing_replayed (kept : call.Kept)
    (opened : ∃ found, call.production.gate = .ok found) (nearest : Int) :
    call.replay.candidates.filter (call.replay.passes call.asOf.moment nearest) =
      (call.production.candidates.filter
        (call.production.passes call.asOf.moment nearest)).map call.replayedAs := by
  unfold SelectionRequest.candidates candidatesOf
  rw [show call.replay.chain.strikes = _ from snapshotChain_strikes opened,
    show call.production.chain.strikes = call.rows.map Prod.fst from rfl, List.filterMap_map,
    List.filterMap_map, List.filter_filterMap, List.filter_filterMap, List.map_filterMap]
  refine List.filterMap_congr fun row member => ?_
  have chained : call.replay.chain.expiry = call.chain.expiry := rfl
  have side : optionTypeFor call.replay.direction = call.optionType := rfl
  have sameSide : optionTypeFor call.production.direction = call.optionType := rfl
  simp only [Function.comp_apply, side, sameSide, leg_row, expiry_row, strike_row, Option.map_some]
  cases known : row.1.leg call.optionType with
  | none =>
    have unlisted : (call.stored row).leg.instrumentId = "" := by rw [stored, known]; rfl
    refine Option.filter_eq_none_iff.mpr fun candidate isCandidate => ?_
    obtain rfl := Option.some.inj isCandidate
    unfold SelectionRequest.passes Candidate.deltaEligible Candidate.legacyEligible Candidate.listed
    simp [unlisted]
  | some leg =>
    have again : ∀ first second last : Option Int, ((first <|> second <|> last) <|>
        (first <|> second <|> last) <|> last) = (first <|> second <|> last) := by
      intro first second last
      cases first <;> cases second <;> cases last <;> rfl
    have timed : call.deltaAware = true →
        (call.candidateOf row.1 leg).quoteTimestamp.parsed = .missing →
          call.asOf.moment < call.storedAt := by
      intro mode missing
      refine kept.timed mode row member ?_
      rw [stored, known]
      exact missing
    have whole : ∀ read, read = call.replayedAs (call.candidateOf row.1 leg) →
        (some read).filter (call.replay.passes call.asOf.moment nearest) =
          ((some (call.candidateOf row.1 leg)).filter
            (call.production.passes call.asOf.moment nearest)).map call.replayedAs := by
      rintro _ rfl
      rw [Option.filter_some, Option.filter_some, passes_replayedAs kept timed]
      split <;> rfl
    refine whole _ ?_
    rw [stored, known]
    exact (Candidate.mk.injEq ..).mpr
      ⟨rfl, rfl, again leg.expiry row.1.expiry call.chain.expiry, rfl⟩

theorem firstBy_map {Element : Type} {before : Element → Element → Bool} {image : Element → Element}
    {elements : List Element} (same : ∀ first ∈ elements, ∀ second ∈ elements,
      before (image first) (image second) = before first second) :
    firstBy before (elements.map image) = (firstBy before elements).map image := by
  induction elements with
  | nil => rfl
  | cons element rest inductionHypothesis =>
    have among := inductionHypothesis fun first isFirst second isSecond =>
      same first (List.mem_cons_of_mem _ isFirst) second (List.mem_cons_of_mem _ isSecond)
    rw [List.map_cons, firstBy, firstBy, among]
    cases found : firstBy before rest with
    | none => rfl
    | some best =>
      simp only [Option.map_some]
      rw [same best (List.mem_cons_of_mem _ (mem_of_firstBy found)) element List.mem_cons_self]
      split <;> rfl

theorem age_of_eligible {candidate : Candidate} {config : OptionSelectionConfig} {now nearest : Int}
    (eligible : candidate.deltaEligible config now nearest = true) :
    (call.replayedAs candidate).age now = candidate.age now := by
  refine age_replayedAs fun missing => ?_
  have ageless : candidate.age now = none := by
    unfold Candidate.age
    cases stamp : candidate.quoteTimestamp with
    | «at» moment =>
      rw [stamp] at missing
      cases missing
    | _ => rfl
  simp [Candidate.deltaEligible, ageless] at eligible

/-- The best of the rows that pass is the same. -/
theorem first_replayed (kept : call.Kept)
    (opened : ∃ found, call.production.gate = .ok found) (nearest : Int) :
    call.replay.first call.asOf.moment nearest =
      (call.production.first call.asOf.moment nearest).map call.replayedAs := by
  rw [← bestCandidate_eq_first, ← bestCandidate_eq_first]
  have passing := passing_replayed kept opened nearest
  cases mode : call.deltaAware with
  | true =>
    simp only [candidates, replay, production, mode, if_true] at passing ⊢
    refine (congrArg (firstBy _) passing).trans
      (firstBy_map fun first isFirst second isSecond => ?_)
    unfold deltaBefore
    rw [age_of_eligible (List.mem_filter.mp isFirst).2,
      age_of_eligible (List.mem_filter.mp isSecond).2]
    rfl
  | false =>
    simp only [candidates, replay, production, mode, Bool.false_eq_true, if_false] at passing ⊢
    exact (congrArg (firstBy _) passing).trans (firstBy_map fun _ _ _ _ => rfl)

/-! ### The replay -/

/-- The reason that the replay gives where no row was stored. -/
def blankReason (call : RecordedCall) : String :=
  if orPrice call.underlyingEntry call.spot ≤ 0 then "INVALID_UNDERLYING_PRICE"
  else if call.deltaAware then "VERIFIED_OPTION_DELTA_UNAVAILABLE"
  else "NO_STRIKES_IN_OPTION_CHAIN"

theorem select_of_kept (kept : call.Kept) : call.replay.select = call.produced := by
  obtain ⟨expiry, nearest, still⟩ := kept.nearest
  have opens : call.production.gate = .ok (call.asOf, expiry) := gate_eq_ok_iff.mpr
    ⟨kept.accepted, rfl, nearestExpiry_eq_some_iff.mp nearest⟩
  have opened : ∃ found, call.production.gate = .ok found := ⟨_, opens⟩
  have replays : call.replay.gate = .ok (call.asOf, expiry) := by
    refine gate_eq_ok_iff.mpr ⟨⟨kept.price, rfl, ?_⟩, rfl, nearestExpiry_eq_some_iff.mp ?_⟩
    · show (!call.deltaAware || call.snapshot.any StoredCandidate.verified) = true
      rw [snapshot, opens]
      cases mode : call.deltaAware with
      | true => exact kept.verified mode
      | false => rfl
    · unfold nearestExpiry at still ⊢
      exact (expiriesOf_snapshotChain opened).symm ▸ still
  unfold produced
  rw [if_neg (not_and_not_right.mpr kept.real), select_of_gate opens, select_of_gate replays,
    first_replayed kept opened]
  cases call.production.first call.asOf.moment expiry with
  | none => rfl
  | some best => rfl

theorem select_of_refused {reason : String} (refused : call.production.gate = .error reason) :
    call.replay.select = .error call.blankReason := by
  have nothing : call.snapshot = [] := by
    unfold snapshot
    rw [refused]
  have empty : call.snapshotChain = { call.snapshotChain with
      strikes := []
      capabilities := some ⟨false, false, "VERIFIED_OPTION_DELTA_UNAVAILABLE"⟩ } := by
    unfold snapshotChain
    rw [nothing]
    rfl
  unfold select
  rw [show call.replay.chain = _ from empty]
  unfold selectContract blankReason
  simp only [replay]
  split
  · rfl
  · cases call.deltaAware <;> rfl

/-- The replay reproduces the selection of production from a snapshot that keeps what it rests on,
and a refusal before any row is inspected exactly where an empty snapshot gives its reason. -/
theorem replay_reproduces (call : RecordedCall) :
    (call.Kept → call.replay.select = call.produced) ∧
      ∀ reason, (cycleChecksSource call.strategy = true → call.chain.source ∈ realSources) →
        call.production.gate = .error reason →
          (call.replay.select = call.produced ↔ reason = call.blankReason) := by
  refine ⟨select_of_kept, fun reason real refused => ?_⟩
  rw [select_of_refused refused, produced, if_neg (not_and_not_right.mpr real), select_eq, refused]
  exact (Except.error.injEq ..).to_iff.trans eq_comm

/-- A bullish signal of Strategy C; the chain lists one contract, which expires tomorrow. -/
def expiringCall : RecordedCall where
  strategy := .diContinuation
  direction := .bullish
  underlyingEntry := some 25000
  spot := 25000
  asOf := ⟨1000000, 0⟩
  config := {}
  cap := none
  replayCap := none
  chain := { source := "KITE", strikes := [] }
  rows := [(⟨25000, some ⟨"INST-NIFTY-25000-CE", "NIFTY25000CE", 100, 99, 100, 10000, 50000, 65, some 1,
    some (6 / 10), .at 0⟩, none, none⟩, "")]
  storedAt := 2000000

/-- What is compared of a contract. -/
def evidence (selected : Selected) : String × ℚ × ℚ × Option ℚ :=
  (selected.instrumentId, selected.bidPrice, selected.askPrice, selected.delta)

/-- Production refuses the expiry, and the replay misses a delta. -/
theorem refusal_not_reproduced :
    expiringCall.produced = .error "NO_ELIGIBLE_EXPIRY_TWO_TRADING_SESSIONS" ∧
      expiringCall.replay.select = .error "VERIFIED_OPTION_DELTA_UNAVAILABLE" ∧
      ¬∀ call : RecordedCall, call.replay.select.map evidence = call.produced.map evidence := by
  have produced : expiringCall.produced = .error "NO_ELIGIBLE_EXPIRY_TWO_TRADING_SESSIONS" := by
    decide +kernel
  have replayed : expiringCall.replay.select = .error "VERIFIED_OPTION_DELTA_UNAVAILABLE" := by
    decide +kernel
  refine ⟨produced, replayed, fun every => ?_⟩
  have same := every expiringCall
  rw [produced, replayed] at same
  exact absurd same (by decide)

end RecordedCall

end OptionChain

end BreezeTrading
