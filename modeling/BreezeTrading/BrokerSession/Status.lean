/-
This file proves when the reported status of a broker session is truthful and isolated. An
activation stores its credentials and an active row before the broker is asked, under an account
id that may be the one the other broker's status is read from. The condition is that no session is
filed so, and that a failed activation changes nothing that is read.
-/

import BreezeTrading.BrokerSession.Service
import BreezeTrading.Lib.Run

namespace BreezeTrading

open Stored Run

namespace BrokerSession

namespace SessionWorld

/-! ### What is observed of a broker -/

/-- The status of a broker: what a request for it would be answered now. -/
def status (world : SessionWorld) (broker : SessionBroker) : Except String SessionReport :=
  (world.getSessionStatus broker .works).1

/-- The credentials stored for a broker; those without a broker are the execution broker's. -/
def storedCredentials (world : SessionWorld) (broker : SessionBroker) :
    Option BrokerCredentials × Option (Option String × Option String × Option String) :=
  (world.credentialsByBroker broker,
    if broker = world.executionBroker then
      some (world.activeApiKey, world.activeSecretKey, world.activeToken)
    else none)

/-- The latest activation of exactly a broker and an account. -/
def latestActivation (world : SessionWorld) (broker : SessionBroker) (accountId : String) :
    Option SessionActivation :=
  world.activations.find? fun activation =>
    decide (activation.broker = broker ∧ activation.accountId = accountId)

/-- CONNECTED is reported only where the latest activation of the broker and the account
authenticated and has not expired. -/
def Truthful (world : SessionWorld) : Prop :=
  ∀ broker report, world.status broker = .ok report → report.status = .connected →
    ∃ account activation, report.accountId = some account ∧
      world.latestActivation broker account = some activation ∧
      activation.authenticated = true ∧ world.clock < activation.expiresAt

/-- Neither the credentials nor the status of a broker differ. -/
def SameFor (broker : SessionBroker) (world next : SessionWorld) : Prop :=
  next.storedCredentials broker = world.storedCredentials broker ∧
    next.status broker = world.status broker

/-- A failed activation leaves its broker as it was. -/
def FailsWithoutTrace (world : SessionWorld) (op : SessionOp) : Prop :=
  match op with
  | .activate sessionId request outcome =>
      connected (world.activateSession sessionId request outcome).1 = false →
        SameFor request.broker world (world.step op)
  | _ => True

/-- An operation on one broker leaves the other as it was. -/
def Isolated (world : SessionWorld) (op : SessionOp) : Prop :=
  match op with
  | .activate _ request _ => SameFor request.broker.other world (world.step op)
  | .status broker _ => SameFor (broker.getD world.executionBroker).other world (world.step op)
  | _ => True

/-! ### The condition -/

/-- The database stores the session, and the broker authenticates it. -/
def Accepted (world : SessionWorld) (sessionId : String) (outcome : ActivationOutcome) : Prop :=
  outcome.asksBroker ∧ sessionId ∉ world.sessions.rows.map SessionRow.sessionId ∧
    outcome.authenticates = .ok true

/-- A failing activation has no traces: its credentials are the stored ones, its session is not
filed where the status is read from, and the adapter stays as active as it was. -/
def Traceless (world : SessionWorld) (request : ActivationRequest) (outcome : ActivationOutcome) :
    Prop :=
  world.credentialsByBroker request.broker = some request.credentials ∧
    request.account ≠ request.broker.primaryAccount ∧
    (outcome.asksBroker → outcome.adapterActive = world.adapterActive request.broker)

/-- No session is filed under the account the other broker's status is read from, and an
activation is accepted or traceless. -/
def Admitted (world : SessionWorld) : SessionOp → Prop
  | .activate sessionId request outcome =>
      request.account ≠ request.broker.other.primaryAccount ∧
        (world.Accepted sessionId outcome ∨ world.Traceless request outcome)
  | _ => True

instance (world : SessionWorld) (sessionId : String) (outcome : ActivationOutcome) :
    Decidable (world.Accepted sessionId outcome) := inferInstanceAs (Decidable (_ ∧ _ ∧ _))

instance (world : SessionWorld) (request : ActivationRequest) (outcome : ActivationOutcome) :
    Decidable (world.Traceless request outcome) := inferInstanceAs (Decidable (_ ∧ _ ∧ (_ → _)))

instance (world : SessionWorld) : ∀ op, Decidable (world.Admitted op)
  | .activate _ _ _ => inferInstanceAs (Decidable (_ ∧ (_ ∨ _)))
  | .status _ _ => inferInstanceAs (Decidable True)
  | .tick _ => inferInstanceAs (Decidable True)
  | .adapter _ _ => inferInstanceAs (Decidable True)
  | .restart => inferInstanceAs (Decidable True)

/-! ### What the operations do -/

variable {row : SessionRow} {world : SessionWorld} {accountId : String} {broker : SessionBroker}

theorem mem_of_latestLogin {rows : List SessionRow} (latest : latestLogin rows = some row) :
    row ∈ rows := by
  induction rows with
  | nil => cases latest
  | cons head rest inductionHypothesis =>
    unfold latestLogin at latest
    split at latest
    · rename_i later found
      split at latest
      · exact List.mem_cons_of_mem _ (inductionHypothesis (latest ▸ found))
      · exact Option.some.inj latest ▸ List.mem_cons_self
    · exact Option.some.inj latest ▸ List.mem_cons_self

theorem getActiveSession_spec (found : world.getActiveSession accountId = some row) :
    row ∈ world.sessions.rows ∧ row.accountId = accountId := by
  obtain ⟨stored, chosen⟩ := List.mem_filter.mp (mem_of_latestLogin found)
  exact ⟨stored, (of_decide_eq_true chosen).2⟩

theorem getActiveSession_insert {next : SessionWorld}
    (inserted : world.sessions.insert row = some next.sessions)
    (foreign : row.accountId ≠ accountId) :
    next.getActiveSession accountId = world.getActiveSession accountId := by
  unfold getActiveSession
  rw [Keyed.rows_insert inserted, List.filter_append, List.filter_cons_of_neg (by simp [foreign]),
    List.filter_nil, List.append_nil]

theorem getActiveSession_expireSession {active : SessionRow} (stored : active ∈ world.sessions.rows)
    (foreign : active.accountId ≠ accountId) :
    (world.expireSession active.sessionId).getActiveSession accountId =
      world.getActiveSession accountId := by
  have untouched : ∀ row ∈ world.sessions.rows, row.accountId = accountId →
      row.sessionId ≠ active.sessionId := fun row member named same =>
    foreign (eq_of_mem world.sessions.unique member stored same ▸ named)
  refine congrArg latestLogin ?_
  show (world.sessions.rows.map fun row => if decide (row.sessionId = active.sessionId) then
    { row with status := .expired } else row).filter _ = _
  generalize world.sessions.rows = rows at untouched
  induction rows with
  | nil => rfl
  | cons row rest inductionHypothesis =>
    have later := inductionHypothesis fun other member =>
      untouched other (List.mem_cons_of_mem _ member)
    by_cases named : row.accountId = accountId
    · have different := untouched row List.mem_cons_self named
      rw [List.map_cons, if_neg (by simpa using different), List.filter_cons, List.filter_cons,
        later]
    · rw [List.map_cons, List.filter_cons_of_neg (by split <;> simp [named]),
        List.filter_cons_of_neg (by simp [named]), later]

/-- The status of a broker is a function of its credentials, its active session, its adapter and
the time. -/
theorem status_congr {next : SessionWorld}
    (credentials : next.credentialsByBroker broker = world.credentialsByBroker broker) (session :
      next.getActiveSession broker.primaryAccount = world.getActiveSession broker.primaryAccount)
    (adapter : next.adapterActive broker = world.adapterActive broker)
    (clock : next.clock = world.clock) : next.status broker = world.status broker := by
  unfold status getSessionStatus StatusOutcome.works
  rw [credentials, session, adapter, clock]
  cases world.getActiveSession broker.primaryAccount with
  | none => rfl
  | some active =>
    cases world.credentialsByBroker broker with
    | none => rfl
    | some stored =>
      dsimp only
      split
      · rfl
      · split <;> rfl

section

variable (world : SessionWorld) (sessionId : String) (request : ActivationRequest)
  (outcome : ActivationOutcome)

/-- An activation stores the credentials, inserts its row unless that fails, and leaves the other
broker's adapter alone. -/
theorem activateSession_world : ∃ sessions adapterActive,
      (world.activateSession sessionId request outcome).2 =
        { world.retain request.broker request.credentials with
          sessions := sessions, adapterActive := adapterActive } ∧
      (sessions = world.sessions ∨
        world.sessions.insert (world.activationRow sessionId request) = some sessions) ∧
      (adapterActive = world.adapterActive ∨ outcome.asksBroker ∧
        adapterActive = Function.update world.adapterActive request.broker
          outcome.adapterActive) := by
  unfold activateSession
  dsimp only
  split
  · exact ⟨_, _, rfl, Or.inl rfl, Or.inl rfl⟩
  · exact ⟨_, _, rfl, Or.inl rfl, Or.inl rfl⟩
  · rename_i rows saves inserted
    split
    · exact ⟨_, _, rfl, Or.inr inserted, Or.inl rfl⟩
    · exact ⟨_, _, rfl, Or.inr inserted, Or.inl rfl⟩
    · rename_i health publishes
      split <;> exact ⟨_, _, rfl, Or.inr inserted, Or.inr ⟨⟨saves, health, publishes⟩, rfl⟩⟩

theorem connected_activateSession :
    connected (world.activateSession sessionId request outcome).1 = true ↔
      world.Accepted sessionId outcome := by
  have taken : (world.retain request.broker request.credentials).sessions.insert
      (world.activationRow sessionId request) = none ↔
        sessionId ∈ world.sessions.rows.map SessionRow.sessionId := Keyed.insert_eq_none
  unfold activateSession Accepted ActivationOutcome.asksBroker
  dsimp only
  split
  · rename_i text saves
    simp [connected, saves]
  · rename_i saves refused
    simp [connected, taken.mp refused]
  · rename_i rows saves inserted
    have fresh : sessionId ∉ world.sessions.rows.map SessionRow.sessionId := fun member => by
      rw [taken.mpr member] at inserted
      cases inserted
    split
    · rename_i text health
      simp [connected, health]
    · rename_i text health publishes
      simp [connected, publishes]
    · rename_i health publishes
      split
      · rename_i authenticates
        simp [connected, saves, health, publishes, fresh, authenticates]
      · rename_i failed _ rejected
        exact ⟨fun ended => absurd ended Bool.false_ne_true,
          fun accepted => (rejected accepted.2.2).elim⟩
      · rename_i authenticates _
        simp [connected, authenticates]
      · rename_i text authenticates _
        simp [connected, authenticates]

end

theorem getSessionStatus_world (world : SessionWorld) (broker : SessionBroker)
    (outcome : StatusOutcome) :
    (world.getSessionStatus broker outcome).2 = world ∨
      ∃ active activeToken, world.getActiveSession broker.primaryAccount = some active ∧
        (broker ≠ world.executionBroker → activeToken = world.activeToken) ∧
        (world.getSessionStatus broker outcome).2 = { world.expireSession active.sessionId with
            credentialsByBroker := Function.update world.credentialsByBroker broker none
            activeToken := activeToken } := by
  unfold getSessionStatus
  split
  · exact Or.inl rfl
  · split
    · rename_i active stored found _
      split
      · split
        · exact Or.inl rfl
        · exact Or.inr ⟨active, _, found, fun foreign => if_neg foreign, rfl⟩
      · dsimp only
        split <;> exact Or.inl rfl
    · exact Or.inl rfl

/-! ### The invariant -/

/-- The fields without a broker mirror the execution broker, every session filed under an account
that a status is read from is backed by the latest activation of that broker and account, and no
activation outlasts a session that begins now. -/
structure Backed (world : SessionWorld) : Prop where
  mirrored : ∀ credentials, world.credentialsByBroker world.executionBroker = some credentials →
    world.activeApiKey = some credentials.apiKey ∧
      world.activeSecretKey = some credentials.secretKey ∧
      world.activeToken = some credentials.sessionToken
  backed : ∀ row ∈ world.sessions.rows, ∀ broker : SessionBroker,
    row.accountId = broker.primaryAccount →
      ∃ activation, world.latestActivation broker row.accountId = some activation ∧
        activation.authenticated = true ∧ row.expiresAt ≤ activation.expiresAt
  bounded : ∀ activation ∈ world.activations, activation.expiresAt ≤ world.clock + sessionLifetime

theorem backed_initial (executionBroker : SessionBroker) (clock : Int) :
    (initial executionBroker clock).Backed where
  mirrored := nofun
  backed := nofun
  bounded := nofun

theorem session_of_connected {report : SessionReport} (reported : world.status broker = .ok report)
    (isConnected : report.status = .connected) :
    ∃ row ∈ world.sessions.rows, row.accountId = broker.primaryAccount ∧
      report.accountId = some row.accountId ∧ world.clock < row.expiresAt := by
  unfold status getSessionStatus StatusOutcome.works at reported
  dsimp only at reported
  split at reported
  · rename_i active stored found _
    obtain ⟨member, named⟩ := getActiveSession_spec found
    split at reported
    · cases reported
      cases isConnected
    · rename_i unexpired
      split at reported
      · cases reported
        cases isConnected
      · cases reported
        exact ⟨active, member, named, rfl, Int.not_le.mp unexpired⟩
  · cases reported
    cases isConnected

theorem Backed.truthful (backed : world.Backed) : world.Truthful := by
  intro broker report reported isConnected
  obtain ⟨row, member, named, account, unexpired⟩ := session_of_connected reported isConnected
  obtain ⟨activation, latest, authenticated, outlasts⟩ := backed.backed row member broker named
  exact ⟨row.accountId, activation, account, latest, authenticated,
    Int.lt_of_lt_of_le unexpired outlasts⟩

theorem primaryAccount_injective {first second : SessionBroker}
    (same : first.primaryAccount = second.primaryAccount) : first = second := by
  cases first <;> cases second <;> first | rfl | (revert same; decide)

theorem other_ne (broker : SessionBroker) : broker.other ≠ broker := by
  cases broker <;> decide

theorem eq_of_ne_other {owner : SessionBroker} (different : broker ≠ owner.other) :
    broker = owner := by
  cases broker <;> cases owner <;> first | rfl | exact absurd rfl different

theorem Backed.activate (backed : world.Backed) (sessionId : String) (request : ActivationRequest)
    (outcome : ActivationOutcome) (admitted : world.Admitted (.activate sessionId request outcome))
    : (world.step (.activate sessionId request outcome)).Backed := by
  obtain ⟨foreign, ends⟩ := admitted
  obtain ⟨sessions, adapterActive, reached, stored, -⟩ :=
    activateSession_world world sessionId request outcome
  have ended : connected (world.activateSession sessionId request outcome).1 = true ↔ _ :=
    connected_activateSession world sessionId request outcome
  -- an activation of an account that a status is read from is accepted
  have accepted (broker : SessionBroker) (named : request.account = broker.primaryAccount) :
      broker = request.broker ∧
        connected (world.activateSession sessionId request outcome).1 = true := by
    have own : broker = request.broker := eq_of_ne_other fun same => foreign (same ▸ named)
    refine ⟨own, ended.mpr (ends.resolve_right fun traceless => ?_)⟩
    exact traceless.2.1 (own ▸ named)
  unfold step
  dsimp only
  generalize connected (world.activateSession sessionId request outcome).1 = isConnected at accepted
  rw [reached]
  refine ⟨?_, ?_, ?_⟩
  · intro credentials found
    by_cases execution : world.executionBroker = request.broker
    · have same : request.credentials = credentials := by
        simpa [retain, execution] using found
      subst same
      simp [retain, execution]
    · have old : world.credentialsByBroker world.executionBroker = some credentials := by
        simpa [retain, Function.update_of_ne execution] using found
      have mirrored := backed.mirrored credentials old
      simpa [retain, Ne.symm execution] using mirrored
  · intro row member broker named
    by_cases same : request.broker = broker ∧ request.account = row.accountId
    · obtain ⟨own, filed⟩ := same
      obtain ⟨-, authenticated⟩ := accepted broker (filed.trans named)
      refine ⟨⟨request.broker, request.account, isConnected, world.clock + sessionLifetime⟩,
        ?_, authenticated, ?_⟩
      · exact List.find?_cons_of_pos (by simp [own, filed])
      · have old : row ∈ world.sessions.rows → row.expiresAt ≤ world.clock + sessionLifetime := by
          intro inside
          obtain ⟨activation, latest, -, outlasts⟩ := backed.backed row inside broker named
          exact Int.le_trans outlasts
            (backed.bounded activation (List.mem_of_find?_eq_some latest))
        rcases stored with unchanged | inserted
        · exact old (unchanged ▸ member)
        · have listed : row ∈ sessions.rows := member
          rw [Keyed.rows_insert inserted] at listed
          rcases List.mem_append.mp listed with inside | last
          · exact old inside
          · exact Int.le_of_eq (congrArg SessionRow.expiresAt (List.mem_singleton.mp last))
    · have inside : row ∈ world.sessions.rows := by
        rcases stored with unchanged | inserted
        · exact unchanged ▸ member
        · have listed : row ∈ sessions.rows := member
          rw [Keyed.rows_insert inserted] at listed
          refine (List.mem_append.mp listed).resolve_right fun last => same ?_
          obtain rfl := List.mem_singleton.mp last
          exact ⟨(accepted broker named).1.symm, rfl⟩
      obtain ⟨activation, latest, authenticated, outlasts⟩ := backed.backed row inside broker named
      refine ⟨activation, ?_, authenticated, outlasts⟩
      refine (List.find?_cons_of_neg ?_).trans latest
      simpa using same
  · intro activation member
    rcases List.mem_cons.mp member with rfl | before
    · exact Int.le_refl _
    · exact backed.bounded activation before

theorem Backed.status (backed : world.Backed) (broker : SessionBroker) (outcome : StatusOutcome) :
    (world.getSessionStatus broker outcome).2.Backed := by
  rcases getSessionStatus_world world broker outcome with
    same | ⟨active, activeToken, -, mirror, reached⟩
  · rw [same]
    exact backed
  · rw [reached]
    refine ⟨?_, ?_, backed.bounded⟩
    · intro credentials found
      by_cases execution : world.executionBroker = broker
      · simp [expireSession, execution] at found
      · have old : world.credentialsByBroker world.executionBroker = some credentials := by
          simpa [expireSession, Function.update_of_ne execution] using found
        obtain ⟨apiKey, secretKey, token⟩ := backed.mirrored credentials old
        exact ⟨apiKey, secretKey, (mirror (Ne.symm execution)).trans token⟩
    · intro row member owner named
      obtain ⟨old, inside, rfl⟩ := List.mem_map.mp member
      have accountId : (if decide (old.sessionId = active.sessionId) then
          { old with status := .expired } else old).accountId = old.accountId := by
        split <;> rfl
      have expiresAt : (if decide (old.sessionId = active.sessionId) then
          { old with status := .expired } else old).expiresAt = old.expiresAt := by
        split <;> rfl
      rw [accountId] at named ⊢
      rw [expiresAt]
      exact backed.backed old inside owner named

theorem Backed.step (backed : world.Backed) (op : SessionOp) (admitted : world.Admitted op) :
    (world.step op).Backed := by
  cases op with
  | activate sessionId request outcome =>
    exact backed.activate sessionId request outcome admitted
  | status broker outcome => exact backed.status (broker.getD world.executionBroker) outcome
  | tick elapsed =>
    refine ⟨backed.mirrored, backed.backed, fun activation member => ?_⟩
    have bound := backed.bounded activation member
    show activation.expiresAt ≤ world.clock + elapsed + sessionLifetime
    omega
  | adapter broker active => exact ⟨backed.mirrored, backed.backed, backed.bounded⟩
  | restart => exact ⟨nofun, backed.backed, backed.bounded⟩

/-! ### What a step leaves alone -/

/-- Where an activation files its session, and what it does to the adapter, decides what a status
that is read elsewhere sees of it. -/
theorem status_activate {sessionId : String} {request : ActivationRequest}
    {outcome : ActivationOutcome} (credentials : Function.update world.credentialsByBroker
      request.broker (some request.credentials) broker = world.credentialsByBroker broker)
    (filed : request.account ≠ broker.primaryAccount) (adapter : outcome.asksBroker →
      Function.update world.adapterActive request.broker outcome.adapterActive broker =
      world.adapterActive broker) :
    (world.step (.activate sessionId request outcome)).status broker = world.status broker := by
  obtain ⟨sessions, adapterActive, reached, stored, adapted⟩ :=
    activateSession_world world sessionId request outcome
  unfold step
  dsimp only
  rw [reached]
  refine status_congr credentials ?_ ?_ rfl
  · rcases stored with rfl | inserted
    · rfl
    · exact getActiveSession_insert inserted filed
  · rcases adapted with rfl | ⟨asked, rfl⟩
    · rfl
    · exact adapter asked

theorem storedCredentials_activate (world : SessionWorld) (sessionId : String)
    (request : ActivationRequest) (outcome : ActivationOutcome) (broker : SessionBroker) :
    (world.step (.activate sessionId request outcome)).storedCredentials broker =
      (world.retain request.broker request.credentials).storedCredentials broker := by
  obtain ⟨sessions, adapterActive, reached, -, -⟩ :=
    activateSession_world world sessionId request outcome
  unfold step
  dsimp only
  rw [reached]
  rfl

theorem isolated_activate (world : SessionWorld) (sessionId : String)
    {request : ActivationRequest} (outcome : ActivationOutcome)
    (foreign : request.account ≠ request.broker.other.primaryAccount) :
    world.Isolated (.activate sessionId request outcome) := by
  refine ⟨?_, ?_⟩
  · rw [storedCredentials_activate]
    unfold storedCredentials retain
    dsimp only
    rw [Function.update_of_ne (other_ne request.broker)]
    by_cases execution : request.broker.other = world.executionBroker
    · have own : ¬ request.broker = world.executionBroker := fun same =>
        other_ne request.broker (execution.trans same.symm)
      rw [if_neg own, if_neg own, if_neg own]
    · rw [if_neg execution, if_neg execution]
  · refine status_activate ?_ foreign fun _ => ?_
    · exact Function.update_of_ne (other_ne request.broker) _ _
    · exact Function.update_of_ne (other_ne request.broker) _ _

theorem Backed.failsWithoutTrace (backed : world.Backed) (sessionId : String)
    (request : ActivationRequest) (outcome : ActivationOutcome)
    (traceless : world.Traceless request outcome) :
    SameFor request.broker world (world.step (.activate sessionId request outcome)) := by
  obtain ⟨stored, filed, adapter⟩ := traceless
  refine ⟨?_, ?_⟩
  · rw [storedCredentials_activate]
    unfold storedCredentials retain
    dsimp only
    rw [Function.update_self, stored]
    by_cases execution : request.broker = world.executionBroker
    · obtain ⟨apiKey, secretKey, token⟩ := backed.mirrored _ (execution ▸ stored)
      rw [if_pos execution, if_pos execution, if_pos execution, if_pos execution, if_pos execution,
        apiKey, secretKey, token]
    · rw [if_neg execution, if_neg execution]
  · refine status_activate ?_ filed fun asked => ?_
    · rw [Function.update_self, stored]
    · rw [Function.update_self]
      exact adapter asked

theorem isolated_status (world : SessionWorld) (broker : Option SessionBroker)
    (outcome : StatusOutcome) : world.Isolated (.status broker outcome) := by
  unfold Isolated step
  dsimp only
  generalize broker.getD world.executionBroker = asked
  rcases getSessionStatus_world world asked outcome with
    same | ⟨active, activeToken, found, mirror, reached⟩
  · rw [same]
    exact ⟨rfl, rfl⟩
  · obtain ⟨stored, named⟩ := getActiveSession_spec found
    rw [reached]
    refine ⟨?_, ?_⟩
    · unfold storedCredentials expireSession
      dsimp only
      rw [Function.update_of_ne (other_ne asked)]
      by_cases execution : asked.other = world.executionBroker
      · rw [mirror fun same => other_ne asked (execution.trans same.symm)]
      · rw [if_neg execution, if_neg execution]
    · refine status_congr (Function.update_of_ne (other_ne asked) _ _) ?_ rfl rfl
      refine getActiveSession_expireSession stored fun same => ?_
      exact other_ne asked (primaryAccount_injective (named.symm.trans same)).symm

/-- What each step of a run leaves behind, and leaves alone. -/
structure Honest (world : SessionWorld) (op : SessionOp) : Prop where
  truthful : (world.step op).Truthful
  failsWithoutTrace : world.FailsWithoutTrace op
  isolated : world.Isolated op

theorem Backed.honest (backed : world.Backed) {op : SessionOp} (admitted : world.Admitted op) :
    world.Honest op := by
  refine ⟨(backed.step op admitted).truthful, ?_, ?_⟩
  · cases op with
    | activate sessionId request outcome =>
      intro failed
      refine backed.failsWithoutTrace sessionId request outcome
        (admitted.2.resolve_left fun accepted => ?_)
      rw [(connected_activateSession world sessionId request outcome).mpr accepted] at failed
      cases failed
    | status broker outcome => trivial
    | tick elapsed => trivial
    | adapter broker active => trivial
    | restart => trivial
  · cases op with
    | activate sessionId request outcome =>
      exact isolated_activate world sessionId outcome admitted.1
    | status broker outcome => exact isolated_status world broker outcome
    | tick elapsed => trivial
    | adapter broker active => trivial
    | restart => trivial

/-! ### Every run -/

/-- In every run of admitted steps, each step leaves CONNECTED reported only for what the latest
activation authenticated, and leaves alone what it must: the broker of a failed activation, and the
other broker. -/
theorem session_status_honest (executionBroker : SessionBroker) (clock : Int)
    (ops : List SessionOp) (admitted : Along step Admitted (initial executionBroker clock) ops) :
    Along step Honest (initial executionBroker clock) ops :=
  admitted.of_invariant (fun _ op backed isAdmitted => Backed.step backed op isAdmitted)
    (fun _ _ backed isAdmitted => Backed.honest backed isAdmitted)
    (backed_initial executionBroker clock)

namespace StatusRuns

/-- A login of a broker, under the default account unless another one is given. -/
def login (broker : SessionBroker) (secretKey : String) (accountId : String) : ActivationRequest where
  apiKey := "key"
  secretKey := secretKey
  sessionToken := "session-token"
  accountId := accountId
  brokerBackend := some broker

/-- Everything works, and the broker authenticates the session. -/
def succeeds : ActivationOutcome where
  savesSession := .ok ()
  recordsHealth := .ok ()
  publishes := .ok ()
  authenticates := .ok true
  adapterActive := true
  recordsFailure := .ok ()

/-- The broker rejects the session, and the adapter is as active as given. -/
def rejected (adapterActive : Bool) : ActivationOutcome :=
  { succeeds with authenticates := .ok false, adapterActive := adapterActive }

/-- Both brokers log in, a retry under a secondary account is rejected, and the first session
expires. -/
def admittedRun : List SessionOp :=
  [.activate "s1" (login .breeze "secret" "ICICI_PRIMARY") succeeds,
    .tick 1, .activate "s2" (login .kite "secret" "ZERODHA_PRIMARY") succeeds,
    .activate "s3" (login .kite "secret" "ZERODHA_SECONDARY") (rejected true),
    .status (some .kite) .works, .tick 86399999999, .status none .works]

/-- A Breeze session, and a Kite login under the default account. -/
def sharedAccount : List SessionOp :=
  [.activate "s1" (login .breeze "secret" "ICICI_PRIMARY") succeeds, .tick 1,
    .activate "s2" (login .kite "secret" "ICICI_PRIMARY") succeeds]

/-- A Kite session, and a Kite login without a secret key, which the adapter refuses before it
touches its session. -/
def refusedLogin : List SessionOp :=
  [.activate "s1" (login .kite "secret" "ZERODHA_PRIMARY") succeeds, .tick 1,
    .activate "s2" (login .kite "" "ZERODHA_PRIMARY") (rejected true)]

end StatusRuns

open StatusRuns in
/-- A run that meets the condition. -/
theorem session_status_honest_two_brokers :
    Along step Honest (initial .breeze 0) admittedRun :=
  session_status_honest .breeze 0 admittedRun (by decide +kernel)

open StatusRuns in
/-- Without the condition no part of it holds: a Kite login under the default account changes the
status of Breeze, and a refused login replaces the credentials and leaves CONNECTED reported. -/
theorem session_status_dishonest :
    (¬ ∀ executionBroker clock ops, Along step Isolated (initial executionBroker clock) ops) ∧
    (¬ ∀ executionBroker clock ops,
      Along step FailsWithoutTrace (initial executionBroker clock) ops) ∧
    ¬ ∀ executionBroker clock ops,
      Along step (fun world op => (world.step op).Truthful) (initial executionBroker clock) ops := by
  refine ⟨fun isolated => ?_, fun traceless => ?_, fun truthful => ?_⟩
  · obtain ⟨-, -, ⟨-, status⟩, -⟩ := isolated .breeze 0 sharedAccount
    exact absurd status (by decide +kernel)
  · obtain ⟨-, -, failed, -⟩ := traceless .breeze 0 refusedLogin
    exact absurd (failed (by decide +kernel)).1 (by decide +kernel)
  · obtain ⟨-, -, last, -⟩ := truthful .breeze 0 refusedLogin
    have reported : ((refusedLogin.foldl step (initial .breeze 0)).status .kite).toOption.map
        (fun report => (report.status, report.accountId)) =
          some (.connected, some "ZERODHA_PRIMARY") := by decide +kernel
    obtain ⟨report, found, shown⟩ := Option.map_eq_some_iff.mp reported
    obtain ⟨isConnected, named⟩ := Prod.mk.inj shown
    have isOk : (refusedLogin.foldl step (initial .breeze 0)).status .kite = .ok report := by
      cases answered : (refusedLogin.foldl step (initial .breeze 0)).status .kite with
      | error text =>
        rw [answered] at found
        cases found
      | ok other =>
        rw [answered] at found
        exact congrArg _ (Option.some.inj found)
    obtain ⟨account, activation, accounted, latest, authenticated, -⟩ :=
      last .kite report isOk isConnected
    rw [named] at accounted
    cases accounted
    have refused : ((refusedLogin.foldl step (initial .breeze 0)).latestActivation .kite
        "ZERODHA_PRIMARY").map SessionActivation.authenticated = some false := by decide +kernel
    have latestToo : (refusedLogin.foldl step (initial .breeze 0)).latestActivation .kite
        "ZERODHA_PRIMARY" = some activation := latest
    rw [latestToo] at refused
    rw [Option.some.inj refused] at authenticated
    cases authenticated

end SessionWorld

end BrokerSession

end BreezeTrading
