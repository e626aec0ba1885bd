/-
This file follows the position read of the broker gateway into its consumers: the LIVE
checks of the risk service, and the reports that the preflight and the startup build
from it. It proves that none of them takes an unseen book for an empty one exactly
when the gateway can read the positions of its broker.
-/

import BreezeTrading.BrokerGateway.Positions
import BreezeTrading.Risk.Soundness
import BreezeTrading.Strategy.Reconciliation

namespace BreezeTrading

open Async BrokerGateway RiskService Soundness

/-! ### The reports -/

/-- `type(exc).__name__`. -/
def BrokerGateway.BrokerError.name : BrokerError → String
  | .sessionExpired _ => "BrokerSessionExpiredError"
  | .validation _ => "BrokerValidationError"
  | .submissionUnknown _ => "BrokerSubmissionUnknownError"
  | .base _ => "BrokerBaseError"
  | .orderRejected _ => "BrokerOrderRejectedError"
  | .timeout _ => "TimeoutError"
  | .other name _ => name

namespace LiveBooks

/-- The error a report is given: that of the broker, or that there was no session to ask it. -/
def sessionError (connected : Bool) (brokerError : Option String) : Option String :=
  orText brokerError (if connected then none else some "BROKER_SESSION_NOT_CONNECTED")

/-- What the preflight builds its report from: with a connected session the positions and then the
funds are read, and an exception of either leaves the broker unverified. -/
def preflight (books : LiveBooks) (connected : Bool)
    (positions : Except BrokerError (List BrokerPositionResponse))
    (funds : Except BrokerError BrokerFunds) : LiveBooks :=
  let (brokerPositions, brokerError) :=
    if connected then
      match positions, funds with
      | .ok positions, .ok _ => (positions, none)
      | .ok positions, .error error => (positions, some error.name)
      | .error error, _ => ([], some error.name)
    else ([], none)
  { books with
    brokerPositions
    brokerVerified := connected && brokerError.isNone
    brokerError := sessionError connected brokerError }

/-- What the startup builds its report from. -/
def startup (books : LiveBooks) (connected aiOnlyMode : Bool)
    (positions : Except BrokerError (List BrokerPositionResponse)) : LiveBooks :=
  if connected && !aiOnlyMode then
    match positions with
    | .ok positions =>
      { books with brokerPositions := positions, brokerVerified := true, brokerError := none }
    | .error error =>
      { books with brokerPositions := [], brokerVerified := false, brokerError := some error.name }
  else
    { books with
      brokerPositions := []
      brokerVerified := false
      brokerError := some "BROKER_SESSION_NOT_CONNECTED" }

end LiveBooks

/-! ### Failing closed -/

section

variable (gateway : BrokerGatewayService)

/-- The positions the risk service is answered. -/
def seenByRisk : Except RiskError (List BrokerPositionResponse) :=
  (gateway.getPositions .live).mapError fun error => ⟨error.name⟩

/-- The broker reported its positions, and the read returned one for each of them. -/
def Seen : Prop :=
  ∃ rows positions, gateway.reported = some rows ∧ gateway.getPositions .live = .ok positions ∧
    rows.length = positions.length

/-- An empty book is one the broker reported, and no consumer decides on an unseen one. -/
structure FailsClosed : Prop where
  empty : gateway.getPositions .live = .ok [] → gateway.reported = some []
  entries : ∀ (service : RiskService) (environment : RiskEnvironment) (intent : OrderIntent)
    (decisions more : List Decision), environment.positions = seenByRisk gateway →
    intent.tradingMode = .live → isReduceOnlyExit intent = false →
    ((service.evaluateIntent intent).eval environment.answer decisions).2 = decisions ++ more →
    ∀ decision ∈ more, decision.approved = true → Seen gateway
  exits : ∀ (service : RiskService) (environment : RiskEnvironment) (intent : OrderIntent)
    (decisions : List Decision) (verdict : Option Refusal),
    environment.positions = seenByRisk gateway →
    intent.tradingMode = .live → isReduceOnlyExit intent = true →
    ((checkReduceOnlyPosition service intent).eval environment.answer decisions).1 = .ok verdict →
    (∃ reason, verdict = some ⟨"REDUCE_ONLY_POSITION_UNVERIFIED", reason⟩) ∨ Seen gateway
  preflight : ∀ (books : LiveBooks) (connected : Bool) (funds : Except BrokerError BrokerFunds)
    (now : Int),
    ((books.preflight connected (gateway.getPositions .live) funds).buildLiveReconciliationReport
      now).status = "CLEAN" → Seen gateway
  startup : ∀ (books : LiveBooks) (connected aiOnlyMode : Bool) (now : Int),
    ((books.startup connected aiOnlyMode
      (gateway.getPositions .live)).buildLiveReconciliationReport now).status = "CLEAN" →
    Seen gateway

variable {gateway}

theorem LiveBooks.verified_of_clean {books : LiveBooks} {now : Int}
    (clean : (books.buildLiveReconciliationReport now).status = "CLEAN") :
    books.brokerVerified = true := by
  have none : books.issues = [] := by
    by_contra issues
    simp [buildLiveReconciliationReport, issues] at clean
  exact (issues_eq_nil_iff_flat.mp none).1.verified

variable {positions : Except BrokerError (List BrokerPositionResponse)}

theorem LiveBooks.answered_of_preflight {books : LiveBooks} {connected : Bool}
    {funds : Except BrokerError BrokerFunds}
    (verified : (books.preflight connected positions funds).brokerVerified = true) :
    ∃ answered, positions = .ok answered := by
  unfold preflight at verified
  cases connected with
  | false => simp at verified
  | true =>
    cases positions with
    | ok answered => exact ⟨answered, rfl⟩
    | error error => simp at verified

theorem LiveBooks.answered_of_startup {books : LiveBooks} {connected aiOnlyMode : Bool}
    (verified : (books.startup connected aiOnlyMode positions).brokerVerified = true) :
    ∃ answered, positions = .ok answered := by
  unfold startup at verified
  split at verified
  · cases positions with
    | ok answered => exact ⟨answered, rfl⟩
    | error error => simp at verified
  · simp at verified

theorem returned_of_seenByRisk {positions : List BrokerPositionResponse}
    (seen : seenByRisk gateway = .ok positions) : gateway.getPositions .live = .ok positions := by
  unfold seenByRisk at seen
  cases read : gateway.getPositions .live with
  | error error =>
    rw [read] at seen
    exact nomatch seen
  | ok answered =>
    rw [read] at seen
    cases seen
    rfl

/-- A LIVE exit whose check ends otherwise than unverified is judged by positions the broker
answered. -/
theorem answered_of_verdict {service : RiskService} {environment : RiskEnvironment}
    {intent : OrderIntent} {decisions : List Decision} {verdict : Option Refusal}
    (live : intent.tradingMode = .live) (exits : isReduceOnlyExit intent = true)
    (ended : ((checkReduceOnlyPosition service intent).eval environment.answer decisions).1 =
      .ok verdict) :
    (∃ reason, verdict = some ⟨"REDUCE_ONLY_POSITION_UNVERIFIED", reason⟩) ∨
      ∃ positions, environment.positions = .ok positions := by
  unfold checkReduceOnlyPosition at ended
  rw [if_neg (by simp [exits]), if_pos live] at ended
  split at ended
  · cases ended
    exact .inl ⟨_, rfl⟩
  · have reads : Reads .getBrokerPositions := True.intro
    rw [brokerPositions_eq, Coroutine.eval_bind, eval_asked reads] at ended
    have asked : (environment.answer [] .getBrokerPositions).1 = environment.positions := rfl
    rw [asked] at ended
    cases answered : environment.positions with
    | ok positions => exact .inr ⟨positions, rfl⟩
    | error error =>
      rw [answered] at ended
      cases ended
      exact .inl ⟨_, rfl⟩

theorem seen_of_readable (readable : Readable gateway) {positions : List BrokerPositionResponse}
    (returned : gateway.getPositions .live = .ok positions) : Seen gateway :=
  let ⟨rows, reported, length⟩ := readable.reported returned
  ⟨rows, positions, reported, returned, length⟩

end

/-- An unavailable broker is never an empty book, for the gateway and for every consumer of its
positions, exactly when the gateway is readable. -/
theorem getPositions_failsClosed_iff (gateway : BrokerGatewayService) :
    FailsClosed gateway ↔ Readable gateway := by
  constructor
  · intro failsClosed
    by_contra unreadable
    obtain ⟨returned, reported⟩ := empty_of_not_readable unreadable
    exact nomatch reported ▸ failsClosed.empty returned
  intro readable
  refine ⟨?_, ?_, ?_, ?_, ?_⟩
  · intro returned
    obtain ⟨rows, reported, length⟩ := readable.reported returned
    rw [reported, List.length_eq_zero_iff.mp length]
  · intro service environment intent decisions more answers live enters recorded decision added
      approved
    obtain ⟨systemMode, mode, passed⟩ := passes_of_approved recorded added approved
    rcases (rests_of_passes live mode passed).2 with ⟨sell, reduceOnly, _, _⟩ | entry
    · simp [isReduceOnlyExit, sell, reduceOnly] at enters
    · obtain ⟨positions, answered, _⟩ := entry.positions
      exact seen_of_readable readable (returned_of_seenByRisk (answers ▸ answered))
  · intro service environment intent decisions verdict answers live exits ended
    refine (answered_of_verdict live exits ended).imp_right ?_
    rintro ⟨positions, answered⟩
    exact seen_of_readable readable (returned_of_seenByRisk (answers ▸ answered))
  · intro books connected funds now clean
    obtain ⟨positions, returned⟩ :=
      LiveBooks.answered_of_preflight (LiveBooks.verified_of_clean clean)
    exact seen_of_readable readable returned
  · intro books connected aiOnlyMode now clean
    obtain ⟨positions, returned⟩ :=
      LiveBooks.answered_of_startup (LiveBooks.verified_of_clean clean)
    exact seen_of_readable readable returned

/-- A gateway to Kite whose access token was cleared, and whose client would answer one position. -/
def offline : BrokerGatewayService where
  brokerBackend := .kite
  kiteAdapter := ⟨"NRML", false⟩
  breezeAdapter := ⟨"", fun _ => "", id, fun _ => ""⟩
  builtins :=
    { int := fun value => match value with | .int number => return number | _ => return 0
      float := fun value => match value with | .float number => return number | _ => return 0
      str := fun value => match value with | .text text => text | _ => ""
      decimal := fun _ => return 0
      strip := id
      strptime := fun _ _ => none
      fromisoformat := fun _ => none }
  kitePositions := .ok (.dict [("net", .list [.dict
    [("tradingsymbol", .text "NIFTY25JAN24000CE"), ("quantity", .int 75)]])])
  breezeReads := ⟨.ok (), .unconfigured, false, .error (.other "RuntimeError" "")⟩
  paperPositions := []

/-- A LIVE exit of the position the client would answer. -/
def offlineExit : OrderIntent :=
  { exampleIntent with side := .sell, reduceOnly := true, symbol := "NIFTY25JAN24000CE" }

/-- Books without anything of their own. -/
def bareBooks : LiveBooks where
  texts := ⟨upper, id⟩
  provider := "kite"
  trades := []
  orders := []
  brokerPositions := []
  brokerVerified := false
  brokerError := none
  protectiveOrder := fun _ => none
  portfolioPositions := []

/-- Without its session the gateway returns an empty book: the exit of a held position is refused
for exceeding it, and the preflight is clean. -/
theorem offline_reads_empty_book :
    offline.getPositions .live = .ok [] ∧ offline.reported = none ∧
      ((checkReduceOnlyPosition { exampleService with brokerGateway := some "kite" }
        offlineExit).eval { exampleEnvironment with positions := seenByRisk offline }.answer
          []).1 = .ok (some ⟨"REDUCE_ONLY_QUANTITY_EXCEEDED",
            "Reduce-only exit quantity 75 exceeds verified long position 0"⟩) ∧
      ((bareBooks.preflight true (offline.getPositions .live)
        (.ok ⟨0, 0, 0⟩)).buildLiveReconciliationReport 0).status = "CLEAN" ∧
      ¬ ∀ gateway, FailsClosed gateway := by
  refine ⟨rfl, rfl, by decide +kernel, by decide +kernel, fun closed => ?_⟩
  exact nomatch (closed offline).empty rfl

end BreezeTrading
