/-
This file defines the LIVE trading gate and proves what its authorization rests on. The gate is
opened by a challenge and its confirmation, for a window of time, and closed by its end or a
revocation. The authorization names no account: it holds for every account on the allowlist.
-/

import BreezeTrading.Contracts.Models
import Mathlib.Algebra.Order.Ring.Int
import Mathlib.Data.List.Nodup

namespace BreezeTrading

/-! ### Text and time -/

/-- A character that `str.strip` removes. -/
def isSpace (character : Char) : Bool :=
  let code := character.toNat
  (9 ≤ code ∧ code ≤ 13) ∨ (28 ≤ code ∧ code ≤ 32) ∨ code = 0x85 ∨ code = 0xA0 ∨
    code = 0x1680 ∨ (0x2000 ≤ code ∧ code ≤ 0x200A) ∨ code = 0x2028 ∨ code = 0x2029 ∨
    code = 0x202F ∨ code = 0x205F ∨ code = 0x3000

/-- `str.strip`. -/
def strip (text : String) : String :=
  String.ofList (((text.toList.dropWhile isSpace).reverse.dropWhile isSpace).reverse)

/-- A minute; points in time are in microseconds. -/
def minute : Int := 60000000

/-! ### The gate -/

/-- A pending activation challenge. -/
structure Challenge where
  challengeToken : String
  operatorId : String
  accountId : String
  durationMinutes : Int
  expiresAt : Int

/-- Server-side authorization for LIVE broker execution. -/
structure LiveTradingGate where
  configuredEnabled : Bool
  localSingleUserMode : Bool
  authorized : Bool
  expiresAt : Option Int
  allowedAccounts : List String
  pendingChallenges : String → Option Challenge

namespace LiveTradingGate

def new (configuredEnabled localSingleUserMode : Bool) (allowedAccounts : List String) :
    LiveTradingGate :=
  ⟨configuredEnabled, localSingleUserMode, false, none, allowedAccounts, fun _ => none⟩

/-- Whether the server currently permits LIVE broker execution. -/
def isLiveActive (gate : LiveTradingGate) (now : Int) : Bool :=
  if gate.localSingleUserMode then gate.configuredEnabled
  else if gate.configuredEnabled = false ∨ gate.authorized = false then false
  else
    match gate.expiresAt with
    | none => false
    | some expiresAt => decide (now < expiresAt)

/-- Fail-closed validation before any LIVE order intent or execution is processed. -/
def validateLiveOrder (gate : LiveTradingGate) (accountId : String) (now : Int) :
    Bool × String :=
  if gate.isLiveActive now = false then
    (false, "LIVE trading is not authorized or active window has expired.")
  else if gate.allowedAccounts ≠ [] ∧ accountId ∉ gate.allowedAccounts then
    (false, "Account '" ++ accountId ++ "' is not in the approved LIVE allowlist.")
  else
    (true, if gate.localSingleUserMode then "Local single-user LIVE capability enabled"
      else "Authorized")

/-- The pending challenges with one of them set or deleted. -/
def setChallenge (gate : LiveTradingGate) (challengeId : String) (challenge : Option Challenge) :
    LiveTradingGate :=
  { gate with
    pendingChallenges := fun other =>
      if other = challengeId then challenge else gate.pendingChallenges other }

/-- Step 1 of the confirmation: request an activation challenge, under its generated id and
token. -/
def requestActivationChallenge (gate : LiveTradingGate) (now : Int)
    (operatorId accountId : String) (durationMinutes : Int)
    (challengeId challengeToken : String) : Except String LiveTradingGate :=
  if gate.configuredEnabled = false then
    .error "LIVE_TRADING_ENABLED is false; server LIVE capability is disabled."
  else if accountId ∉ gate.allowedAccounts then
    .error ("Account '" ++ accountId ++ "' is not in LIVE_ALLOWED_ACCOUNTS.")
  else
    .ok (gate.setChallenge challengeId (some
      { challengeToken := challengeToken
        operatorId := operatorId
        accountId := accountId
        durationMinutes := min durationMinutes 480
        expiresAt := now + 5 * minute }))

/-- Step 2 of the confirmation: submit the token to open the LIVE window. The clock is read
before the checks, and again when the window opens. -/
def confirmActivation (gate : LiveTradingGate) (now opened : Int)
    (challengeId challengeToken operatorId : String) : Bool × LiveTradingGate :=
  match gate.pendingChallenges challengeId with
  | none => (false, gate)
  | some challenge =>
    if challenge.expiresAt < now then (false, gate.setChallenge challengeId none)
    else if challenge.challengeToken ≠ strip challengeToken then (false, gate)
    else if challenge.operatorId ≠ operatorId then (false, gate)
    else if gate.configuredEnabled = false then (false, gate)
    else if challenge.accountId ∉ gate.allowedAccounts then (false, gate)
    else
      (true, { gate.setChallenge challengeId none with
        authorized := true
        expiresAt := some (opened + challenge.durationMinutes * minute) })

/-- Emergency immediate revocation of LIVE authority. -/
def revokeLiveMode (gate : LiveTradingGate) : LiveTradingGate :=
  { gate with authorized := false, expiresAt := none, pendingChallenges := fun _ => none }

end LiveTradingGate

/-! ### Runs -/

/-- A challenge that was issued, under its number. -/
structure Issue where
  number : Nat
  time : Int
  operatorId : String
  accountId : String
  durationMinutes : Int
  challengeToken : String
  deriving DecidableEq

/-- A confirmation that opened the window, with the number of the challenge it confirmed. -/
structure Activation where
  number : Nat
  time : Int
  opened : Int
  operatorId : String
  challengeToken : String
  deriving DecidableEq

/-- What happened at a gate. -/
inductive GateEntry where
  | issued (issue : Issue)
  | activated (activation : Activation)
  | revoked
  deriving DecidableEq

/-- A gate and its clock. The log has the newest entry first; `issued` counts the challenges and
`numbers` has the number of the last one issued under an id. -/
structure GateRun where
  gate : LiveTradingGate
  clock : Int
  issued : Nat
  numbers : String → Nat
  log : List GateEntry

/-- What may happen. The clock may move on while an activation is confirmed. -/
inductive GateEvent where
  | tick (elapsed : Nat)
  | request (operatorId accountId : String) (durationMinutes : Int)
      (challengeId challengeToken : String)
  | confirm (challengeId challengeToken operatorId : String) (elapsed : Nat)
  | revoke

namespace GateRun

def start (gate : LiveTradingGate) (clock : Int) : GateRun := ⟨gate, clock, 0, fun _ => 0, []⟩

def step (run : GateRun) : GateEvent → GateRun
  | .tick elapsed => { run with clock := run.clock + elapsed }
  | .request operatorId accountId durationMinutes challengeId challengeToken =>
      match run.gate.requestActivationChallenge run.clock operatorId accountId durationMinutes
          challengeId challengeToken with
      | .error _ => run
      | .ok gate =>
        { run with
          gate := gate
          issued := run.issued + 1
          numbers := fun other => if other = challengeId then run.issued else run.numbers other
          log := .issued ⟨run.issued, run.clock, operatorId, accountId, durationMinutes,
            challengeToken⟩ :: run.log }
  | .confirm challengeId challengeToken operatorId elapsed =>
      let opened := run.clock + elapsed
      let outcome := run.gate.confirmActivation run.clock opened challengeId challengeToken
        operatorId
      { run with
        gate := outcome.2
        clock := opened
        log := if outcome.1 then .activated ⟨run.numbers challengeId, run.clock, opened,
            operatorId, challengeToken⟩ :: run.log
          else run.log }
  | .revoke => { run with gate := run.gate.revokeLiveMode, log := .revoked :: run.log }

def after (run : GateRun) (events : List GateEvent) : GateRun := events.foldl step run

/-- The numbers of the challenges that were confirmed. -/
def activations : List GateEntry → List Nat
  | [] => []
  | .activated activation :: rest => activation.number :: activations rest
  | _ :: rest => activations rest

end GateRun

/-! ### Authorization -/

/-- An activation confirms a challenge: the same operator, the right token, and not more than
five minutes after the challenge was issued. -/
structure Confirms (activation : Activation) (issue : Issue) : Prop where
  number : activation.number = issue.number
  operator : activation.operatorId = issue.operatorId
  token : issue.challengeToken = strip activation.challengeToken
  prompt : activation.time ≤ issue.time + 5 * minute
  opened : activation.time ≤ activation.opened

/-- Since the last revocation a challenge for one of the accounts was issued and confirmed, and
its window, which is not longer than 480 minutes, ends at `expiresAt`. -/
def Authorized (accounts : List String) (log : List GateEntry) (clock expiresAt : Int) : Prop :=
  ∃ later earlier activation issue, log = later ++ .activated activation :: earlier ∧
    .revoked ∉ later ∧ .issued issue ∈ earlier ∧ Confirms activation issue ∧
    issue.accountId ∈ accounts ∧ activation.opened ≤ clock ∧
    expiresAt = activation.opened + min issue.durationMinutes 480 * minute

namespace GateRun

/-- What every step keeps, of a gate with this capability and these accounts: a pending
challenge was issued and not yet confirmed, no challenge is confirmed twice, and an open window
rests on a confirmation. -/
structure Sound (configuredEnabled : Bool) (accounts : List String) (run : GateRun) : Prop where
  enabled : run.gate.configuredEnabled = configuredEnabled
  remote : run.gate.localSingleUserMode = false
  allowed : run.gate.allowedAccounts = accounts
  pending : ∀ challengeId challenge,
    run.gate.pendingChallenges challengeId = some challenge →
    ∃ issue, .issued issue ∈ run.log ∧ issue.number = run.numbers challengeId ∧
      challenge = ⟨issue.challengeToken, issue.operatorId, issue.accountId,
        min issue.durationMinutes 480, issue.time + 5 * minute⟩
  unused : ∀ challengeId challenge,
    run.gate.pendingChallenges challengeId = some challenge →
    run.numbers challengeId < run.issued ∧ run.numbers challengeId ∉ activations run.log
  distinct : ∀ first second one two, run.gate.pendingChallenges first = some one →
    run.gate.pendingChallenges second = some two →
    run.numbers first = run.numbers second → first = second
  counted : ∀ number ∈ activations run.log, number < run.issued
  once : (activations run.log).Nodup
  window : run.gate.authorized = true → ∀ expiresAt, run.gate.expiresAt = some expiresAt →
    Authorized accounts run.log run.clock expiresAt

theorem sound_start (configuredEnabled : Bool) (accounts : List String) (clock : Int) :
    Sound configuredEnabled accounts (start (.new configuredEnabled false accounts) clock) where
  enabled := rfl
  remote := rfl
  allowed := rfl
  pending _ _ found := nomatch found
  unused _ _ found := nomatch found
  distinct _ _ _ _ found := nomatch found
  counted := nofun
  once := List.nodup_nil
  window authorized := nomatch authorized

variable {configuredEnabled : Bool} {accounts : List String} {run : GateRun}

/-! ### One step -/

theorem Authorized.later {log : List GateEntry} {clock now expiresAt : Int}
    (authorized : Authorized accounts log clock expiresAt) (passed : clock ≤ now)
    (entries : List GateEntry) (unrevoked : .revoked ∉ entries) :
    Authorized accounts (entries ++ log) now expiresAt := by
  obtain ⟨later, earlier, activation, issue, split, since, issued, confirms, account, opened,
    window⟩ := authorized
  refine ⟨entries ++ later, earlier, activation, issue, ?_, ?_, issued, confirms, account,
    opened.trans passed, window⟩
  · rw [split, List.append_assoc]
  · rw [List.mem_append, not_or]
    exact ⟨unrevoked, since⟩

section

variable (sound : Sound configuredEnabled accounts run)

include sound

theorem Sound.tick (elapsed : Nat) :
    Sound configuredEnabled accounts { run with clock := run.clock + elapsed } :=
  have passed : run.clock ≤ run.clock + elapsed := by omega
  { sound with
    window := fun authorized expiresAt closes =>
      Authorized.later (sound.window authorized expiresAt closes) passed [] List.not_mem_nil }

theorem Sound.forget (challengeId : String) :
    Sound configuredEnabled accounts { run with gate := run.gate.setChallenge challengeId none } := by
  have kept : ∀ other challenge,
      (run.gate.setChallenge challengeId none).pendingChallenges other = some challenge →
      run.gate.pendingChallenges other = some challenge := by
    intro other challenge found
    simp only [LiveTradingGate.setChallenge] at found
    split at found
    · cases found
    · exact found
  exact { sound with
    pending := fun other challenge found => sound.pending other challenge (kept _ _ found)
    unused := fun other challenge found => sound.unused other challenge (kept _ _ found)
    distinct := fun first second one two inFirst inSecond =>
      sound.distinct first second one two (kept _ _ inFirst) (kept _ _ inSecond) }

theorem Sound.request (operatorId accountId : String) (durationMinutes : Int)
    (challengeId challengeToken : String) : Sound configuredEnabled accounts
      (run.step (.request operatorId accountId durationMinutes challengeId challengeToken)) := by
  simp only [step, LiveTradingGate.requestActivationChallenge]
  split
  · exact sound
  · rename_i gate requested
    split at requested
    · cases requested
    · split at requested
      · cases requested
      · cases requested
        refine ⟨sound.enabled, sound.remote, sound.allowed, ?_, ?_, ?_, ?_, sound.once, ?_⟩
        · intro other challenge found
          simp only [LiveTradingGate.setChallenge] at found
          simp only
          split at found
          · rename_i same
            rw [if_pos same]
            cases found
            exact ⟨_, List.mem_cons_self, rfl, rfl⟩
          · rename_i different
            rw [if_neg different]
            obtain ⟨issue, logged, numbered, rfl⟩ := sound.pending other challenge found
            exact ⟨issue, List.mem_cons_of_mem _ logged, numbered, rfl⟩
        · intro other challenge found
          simp only [LiveTradingGate.setChallenge] at found
          simp only [activations]
          split at found
          · rename_i same
            rw [if_pos same]
            exact ⟨Nat.lt_succ_self _, fun used => (sound.counted _ used).false⟩
          · rename_i different
            rw [if_neg different]
            obtain ⟨below, unused⟩ := sound.unused other challenge found
            exact ⟨below.trans (Nat.lt_succ_self _), unused⟩
        · intro first second one two inFirst inSecond
          simp only [LiveTradingGate.setChallenge] at inFirst inSecond
          simp only
          intro equal
          split at inFirst <;> split at inSecond
          · rename_i same sameToo
            exact same.trans sameToo.symm
          · rename_i same different
            rw [if_pos same, if_neg different] at equal
            exact absurd equal (sound.unused second two inSecond).1.ne'
          · rename_i different same
            rw [if_neg different, if_pos same] at equal
            exact absurd equal (sound.unused first one inFirst).1.ne
          · rename_i different differentToo
            rw [if_neg different, if_neg differentToo] at equal
            exact sound.distinct first second one two inFirst inSecond equal
        · intro number used
          exact (sound.counted number used).trans (Nat.lt_succ_self _)
        · intro authorized expiresAt closes
          exact Authorized.later (sound.window authorized expiresAt closes) (le_refl run.clock)
            [.issued _] (by simp)

end

/-- What a confirmation does: it refuses, perhaps dropping an expired challenge, or it opens the
window of a pending challenge. -/
theorem confirmActivation_cases (gate : LiveTradingGate) (now opened : Int)
    (challengeId challengeToken operatorId : String) :
    gate.confirmActivation now opened challengeId challengeToken operatorId = (false, gate) ∨
      gate.confirmActivation now opened challengeId challengeToken operatorId =
        (false, gate.setChallenge challengeId none) ∨
      ∃ challenge, gate.pendingChallenges challengeId = some challenge ∧
        now ≤ challenge.expiresAt ∧ challenge.challengeToken = strip challengeToken ∧
        challenge.operatorId = operatorId ∧ challenge.accountId ∈ gate.allowedAccounts ∧
        gate.confirmActivation now opened challengeId challengeToken operatorId =
          (true, { gate.setChallenge challengeId none with
            authorized := true
            expiresAt := some (opened + challenge.durationMinutes * minute) }) := by
  unfold LiveTradingGate.confirmActivation
  cases found : gate.pendingChallenges challengeId with
  | none => exact Or.inl rfl
  | some challenge =>
    simp only
    split
    · exact Or.inr (Or.inl rfl)
    · rename_i alive
      split
      · exact Or.inl rfl
      · rename_i token
        split
        · exact Or.inl rfl
        · rename_i operator
          split
          · exact Or.inl rfl
          · split
            · exact Or.inl rfl
            · rename_i account
              exact Or.inr (Or.inr ⟨challenge, rfl, not_lt.mp alive, not_not.mp token,
                not_not.mp operator, not_not.mp account, rfl⟩)

section

variable (sound : Sound configuredEnabled accounts run)

include sound

theorem Sound.confirm (challengeId challengeToken operatorId : String) (elapsed : Nat) :
    Sound configuredEnabled accounts
      (run.step (.confirm challengeId challengeToken operatorId elapsed)) := by
  have ticked := sound.tick elapsed
  simp only [step]
  rcases confirmActivation_cases run.gate run.clock (run.clock + elapsed) challengeId
    challengeToken operatorId with refused | expired | ⟨challenge, found, alive, token, operator,
      account, confirmed⟩
  · rw [refused]
    exact ticked
  · rw [expired]
    exact ticked.forget challengeId
  · rw [confirmed]
    simp only [if_true]
    have forgotten := ticked.forget challengeId
    obtain ⟨below, unused⟩ := sound.unused challengeId challenge found
    obtain ⟨issue, logged, numbered, rfl⟩ := sound.pending challengeId challenge found
    have others : ∀ other pending,
        (run.gate.setChallenge challengeId none).pendingChallenges other = some pending →
        run.gate.pendingChallenges other = some pending ∧ other ≠ challengeId := by
      intro other pending inside
      simp only [LiveTradingGate.setChallenge] at inside
      split at inside
      · cases inside
      · rename_i different
        exact ⟨inside, different⟩
    refine ⟨sound.enabled, sound.remote, sound.allowed, ?_, ?_, forgotten.distinct, ?_, ?_, ?_⟩
    · intro other pending inside
      obtain ⟨entry, inLog, number, rfl⟩ := forgotten.pending other pending inside
      exact ⟨entry, List.mem_cons_of_mem _ inLog, number, rfl⟩
    · intro other pending inside
      obtain ⟨still, different⟩ := others other pending inside
      obtain ⟨fresh, free⟩ := sound.unused other pending still
      refine ⟨fresh, ?_⟩
      rw [activations, List.mem_cons, not_or]
      exact ⟨fun equal => different
        (sound.distinct other challengeId pending _ still found equal), free⟩
    · intro number used
      rcases List.mem_cons.mp used with rfl | before
      · exact below
      · exact sound.counted number before
    · exact List.nodup_cons.mpr ⟨unused, sound.once⟩
    · intro _ expiresAt closes
      cases closes
      refine ⟨[], run.log, _, issue, rfl, List.not_mem_nil, logged,
        ⟨numbered.symm, operator.symm, token, alive, ?_⟩, sound.allowed ▸ account,
        le_refl (run.clock + elapsed), rfl⟩
      show run.clock ≤ run.clock + elapsed
      omega

theorem Sound.revoke : Sound configuredEnabled accounts (run.step .revoke) where
  enabled := sound.enabled
  remote := sound.remote
  allowed := sound.allowed
  pending _ _ found := nomatch found
  unused _ _ found := nomatch found
  distinct _ _ _ _ found := nomatch found
  counted := sound.counted
  once := sound.once
  window authorized := nomatch authorized

theorem Sound.step (event : GateEvent) : Sound configuredEnabled accounts (run.step event) := by
  cases event with
  | tick elapsed => exact sound.tick elapsed
  | request operatorId accountId durationMinutes challengeId challengeToken =>
    exact sound.request operatorId accountId durationMinutes challengeId challengeToken
  | confirm challengeId challengeToken operatorId elapsed =>
    exact sound.confirm challengeId challengeToken operatorId elapsed
  | revoke => exact sound.revoke

/-! ### Every run -/

theorem Sound.after (events : List GateEvent) :
    Sound configuredEnabled accounts (run.after events) := by
  induction events generalizing run with
  | nil => exact sound
  | cons event rest inductionHypothesis => exact inductionHypothesis (sound.step event)

end

end GateRun

open GateRun in
/-- In every run of a gate that is not in local single-user mode, an account is validated only
if the capability is configured, the account is allowed, and the window of a challenge for an
allowed account, confirmed since the last revocation, is open; and no challenge is confirmed
twice. -/
theorem validateLiveOrder_authorized (configuredEnabled : Bool) (accounts : List String)
    (clock : Int) (events : List GateEvent) :
    let run := (start (.new configuredEnabled false accounts) clock).after events
    (∀ accountId, (run.gate.validateLiveOrder accountId run.clock).1 = true →
      configuredEnabled = true ∧ accountId ∈ accounts ∧ ∃ expiresAt, run.clock < expiresAt ∧
        Authorized accounts run.log run.clock expiresAt) ∧
    (activations run.log).Nodup := by
  intro run
  have sound : Sound configuredEnabled accounts run :=
    (sound_start configuredEnabled accounts clock).after events
  refine ⟨fun accountId valid => ?_, sound.once⟩
  unfold LiveTradingGate.validateLiveOrder at valid
  split at valid
  · cases valid
  · rename_i active
    split at valid
    · cases valid
    · rename_i listed
      rw [Bool.not_eq_false, LiveTradingGate.isLiveActive, if_neg (by rw [sound.remote]; decide)]
        at active
      split at active
      · cases active
      · rename_i permitted
        rw [not_or, Bool.not_eq_false, Bool.not_eq_false] at permitted
        split at active
        · cases active
        · rename_i expiresAt closes
          have window := sound.window permitted.2 expiresAt closes
          refine ⟨sound.enabled.symm.trans permitted.1, ?_, expiresAt, of_decide_eq_true active,
            window⟩
          obtain ⟨-, -, -, issue, -, -, -, -, account, -, -⟩ := window
          rw [sound.allowed, not_and, not_not] at listed
          exact listed (List.ne_nil_of_mem account)

namespace GateRun

/-! ### A window for one of two accounts -/

/-- A challenge for the ICICI account is issued and confirmed a minute later. -/
def activated : List GateEvent :=
  [.request "ADMIN_ALICE" "ICICI_PRIMARY" 30 "CHAL-1" "CONFIRM-1", .tick 60000000,
    .confirm "CHAL-1" " CONFIRM-1 " "ADMIN_ALICE" 0, .tick 60000000]

/-- A gate with both accounts on its allowlist. -/
def twoAccounts : GateRun :=
  start (.new true false ["ICICI_PRIMARY", "ZERODHA_PRIMARY"]) 0

end GateRun

open GateRun in
/-- The window opened for the ICICI account validates orders of the other account. -/
theorem validateLiveOrder_other_account :
    ¬ ∀ (configuredEnabled : Bool) (accounts : List String) (clock : Int) (events : List GateEvent),
      let run := (start (.new configuredEnabled false accounts) clock).after events
      ∀ accountId, (run.gate.validateLiveOrder accountId run.clock).1 = true →
        ∃ expiresAt, run.clock < expiresAt ∧
          Authorized [accountId] run.log run.clock expiresAt := by
  intro bound
  have valid : ((twoAccounts.after activated).gate.validateLiveOrder "ZERODHA_PRIMARY"
      (twoAccounts.after activated).clock).1 = true := by decide +kernel
  obtain ⟨expiresAt, -, later, earlier, activation, issue, split, -, issued, -, account, -⟩ :=
    bound true ["ICICI_PRIMARY", "ZERODHA_PRIMARY"] 0 activated "ZERODHA_PRIMARY" valid
  have logged : .issued issue ∈ (twoAccounts.after activated).log := by
    rw [show (twoAccounts.after activated).log = later ++ .activated activation :: earlier from
      split]
    exact List.mem_append_right _ (List.mem_cons_of_mem _ issued)
  have only : ∀ entry ∈ (twoAccounts.after activated).log, ∀ issue : Issue,
      entry = .issued issue → issue.accountId = "ICICI_PRIMARY" := by
    have log : (twoAccounts.after activated).log =
        [.activated ⟨0, 60000000, 60000000, "ADMIN_ALICE", " CONFIRM-1 "⟩,
          .issued ⟨0, 0, "ADMIN_ALICE", "ICICI_PRIMARY", 30, "CONFIRM-1"⟩] := by decide +kernel
    rw [log]
    rintro entry member issue rfl
    simp only [List.mem_cons, reduceCtorEq, List.not_mem_nil, or_false, false_or,
      GateEntry.issued.injEq] at member
    rw [member]
  rw [List.mem_singleton, only _ logged issue rfl] at account
  exact absurd account (by decide)

open GateRun in
/-- The window is open for the account it was requested for. -/
theorem validateLiveOrder_authorized_open :
    ((twoAccounts.after activated).gate.validateLiveOrder "ICICI_PRIMARY"
        (twoAccounts.after activated).clock).1 = true ∧
      ∃ expiresAt, (twoAccounts.after activated).clock < expiresAt ∧
        Authorized ["ICICI_PRIMARY", "ZERODHA_PRIMARY"] (twoAccounts.after activated).log
          (twoAccounts.after activated).clock expiresAt := by
  have valid : ((twoAccounts.after activated).gate.validateLiveOrder "ICICI_PRIMARY"
      (twoAccounts.after activated).clock).1 = true := by decide +kernel
  have window := (validateLiveOrder_authorized true ["ICICI_PRIMARY", "ZERODHA_PRIMARY"] 0
    activated).1 "ICICI_PRIMARY" valid
  exact ⟨valid, window.2.2⟩

end BreezeTrading
