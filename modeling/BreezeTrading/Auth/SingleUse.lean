/-
This file proves when credentials are used once. Tickets and refresh tokens are read first and
updated later, by an update that does not say what it found. In every run in which each such
update finds its credential unspent, at most one request consumes a credential and only it is
honoured; otherwise two requests that both read it are.
-/

import BreezeTrading.Auth.Service
import BreezeTrading.Lib.Ownership
import BreezeTrading.Lib.Spending

namespace BreezeTrading

open Async Stored

abbrev AuthCondition := Condition AuthOp AuthWorld AuthAnswer AuthStart AuthDisturbance

/-! ### Credentials of a world -/

/-- What a row says about its credential. -/
structure Credential where
  hash : String
  expiresAt : Int
  spent : Bool

namespace Credential

def ofToken (row : RefreshTokenRow) : Credential :=
  ⟨row.tokenHash, row.expiresAt, row.revokedAt.isSome⟩

def ofTicket (row : WsTicketRow) : Credential :=
  ⟨row.ticketHash, row.expiresAt, row.usedAt.isSome⟩

/-- A credential may be spent, and changes in no other way. -/
structure Evolves (before after : Credential) : Prop where
  hash : after.hash = before.hash
  expiresAt : after.expiresAt = before.expiresAt
  spent : before.spent = true → after.spent = true

theorem Evolves.refl (credential : Credential) : credential.Evolves credential :=
  ⟨rfl, rfl, id⟩

theorem Evolves.trans {first second third : Credential} (earlier : first.Evolves second)
    (later : second.Evolves third) : first.Evolves third :=
  ⟨later.hash.trans earlier.hash, later.expiresAt.trans earlier.expiresAt,
    later.spent ∘ earlier.spent⟩

/-- The credential, spent if a condition holds. -/
def spentIf (condition : Prop) [Decidable condition] (credential : Credential) : Credential :=
  if condition then { credential with spent := true } else credential

theorem evolves_spentIf (condition : Prop) [Decidable condition] (credential : Credential) :
    credential.Evolves (credential.spentIf condition) := by
  unfold spentIf
  split
  · exact ⟨rfl, rfl, fun _ => rfl⟩
  · exact .refl credential

end Credential

namespace AuthWorld

/-- The credential a kind and an id name. -/
def credential (world : AuthWorld) : CredentialKind × String → Option Credential
  | (.refreshToken, id) => (world.refreshTokens.find id).map Credential.ofToken
  | (.wsTicket, id) => (world.wsTickets.find id).map Credential.ofTicket

/-- The credential of a presentation is stored and not spent. -/
def unspent (world : AuthWorld) (presentation : Presentation) : Bool :=
  (world.credential presentation.credential).any fun credential => !credential.spent

def Spent (world : AuthWorld) (key : CredentialKind × String) : Prop :=
  ∃ credential, world.credential key = some credential ∧ credential.spent = true

/-- The credential is stored under the hash, and was presented before it expired. -/
def Timely (world : AuthWorld) (hash : String) (presentation : Presentation) : Prop :=
  ∃ credential, world.credential presentation.credential = some credential ∧
    credential.hash = hash ∧ presentation.presentedAt < credential.expiresAt

/-- No credential is lost, and none changes but to be spent. -/
def Succeeds (world next : AuthWorld) : Prop :=
  ∀ key credential, world.credential key = some credential →
    ∃ evolved, next.credential key = some evolved ∧ credential.Evolves evolved

theorem Succeeds.refl (world : AuthWorld) : world.Succeeds world :=
  fun _ credential found => ⟨credential, found, .refl credential⟩

theorem Succeeds.trans {first second third : AuthWorld} (earlier : first.Succeeds second)
    (later : second.Succeeds third) : first.Succeeds third := by
  intro key credential found
  obtain ⟨middle, foundMiddle, evolves⟩ := earlier key credential found
  obtain ⟨last, foundLast, evolvesToo⟩ := later key middle foundMiddle
  exact ⟨last, foundLast, evolves.trans evolvesToo⟩

variable {world next : AuthWorld} {presentation : Presentation} {credit : Multiset Presentation}
  {choice : AuthAnswer}

theorem Succeeds.of_eq (tokens : next.refreshTokens = world.refreshTokens)
    (tickets : next.wsTickets = world.wsTickets) : world.Succeeds next := by
  have same : next.credential = world.credential := by
    funext key
    rcases key with ⟨kind | kind, id⟩ <;> simp only [credential, tokens, tickets]
  intro key credential found
  exact ⟨credential, same ▸ found, .refl credential⟩

theorem Succeeds.of_spentIf {condition : CredentialKind × String → Credential → Prop}
    [∀ key credential, Decidable (condition key credential)] (changed : ∀ key, next.credential key =
      (world.credential key).map fun credential => credential.spentIf (condition key credential)) :
    world.Succeeds next := by
  intro key credential found
  refine ⟨credential.spentIf (condition key credential), ?_, Credential.evolves_spentIf _ _⟩
  rw [changed, found]
  rfl

theorem Spent.later {key : CredentialKind × String} (late : world.Succeeds next)
    (spent : world.Spent key) : next.Spent key := by
  obtain ⟨credential, found, isSpent⟩ := spent
  obtain ⟨evolved, foundToo, evolves⟩ := late key credential found
  exact ⟨evolved, foundToo, evolves.spent isSpent⟩

theorem Timely.later {hash : String} (late : world.Succeeds next)
    (timely : world.Timely hash presentation) : next.Timely hash presentation := by
  obtain ⟨credential, found, hashed, early⟩ := timely
  obtain ⟨evolved, foundToo, evolves⟩ := late _ credential found
  exact ⟨evolved, foundToo, evolves.hash.trans hashed, evolves.expiresAt.symm ▸ early⟩

theorem not_spent_of_unspent (unspent : world.unspent presentation = true) :
    ¬ world.Spent presentation.credential := by
  rintro ⟨credential, found, isSpent⟩
  rw [AuthWorld.unspent, found] at unspent
  simp [isSpent] at unspent

/-! ### What a statement does to the credentials -/

theorem credential_of_token {row : RefreshTokenRow} (member : row ∈ world.refreshTokens.rows) :
    world.credential (.refreshToken, row.tokenId) = some (.ofToken row) := by
  rw [credential, Keyed.find_of_mem member]
  rfl

theorem credential_of_ticket {row : WsTicketRow} (member : row ∈ world.wsTickets.rows) :
    world.credential (.wsTicket, row.ticketId) = some (.ofTicket row) := by
  rw [credential, Keyed.find_of_mem member]
  rfl

theorem credential_revoke (world : AuthWorld) (tokenHash : String) (now : Int)
    (rotating : Option Presentation) (key : CredentialKind × String) :
    (world.revoke tokenHash now rotating).credential key =
      (world.credential key).map fun credential =>
        credential.spentIf (key.1 = .refreshToken ∧ credential.hash = tokenHash) := by
  rcases key with ⟨kind | kind, id⟩
  · simp only [credential, revoke, Keyed.find_update, Option.map_map]
    refine congrArg (fun change => Option.map change _) (funext fun row => ?_)
    by_cases hashed : row.tokenHash = tokenHash
    · cases revoked : row.revokedAt with
      | none | some => simp [revocable, Credential.ofToken, Credential.spentIf, hashed, revoked]
    · simp [revocable, Credential.ofToken, Credential.spentIf, hashed]
  · simp only [credential, revoke, Credential.spentIf, reduceCtorEq, false_and, if_false]
    exact Option.map_id'.symm

theorem credential_markUsed (world : AuthWorld) (ticketId : String) (now : Int)
    (presentation : Presentation) (key : CredentialKind × String) :
    (world.markUsed ticketId now presentation).credential key =
      (world.credential key).map fun credential =>
        credential.spentIf (key = (.wsTicket, ticketId)) := by
  rcases key with ⟨kind | kind, id⟩
  · simp only [credential, markUsed, Credential.spentIf, Prod.mk.injEq, reduceCtorEq, false_and,
      if_false]
    exact Option.map_id'.symm
  · cases found : world.wsTickets.find id with
    | none => simp [credential, markUsed, found]
    | some row =>
      obtain ⟨-, named⟩ := Keyed.mem_of_find found
      by_cases same : id = ticketId
      · subst same
        simp [credential, markUsed, found, named, Credential.ofTicket, Credential.spentIf]
      · simp [credential, markUsed, found, named, same, Credential.spentIf]

/-! ### The condition and the invariant -/

/-- An update that claims a credential for a request finds it unspent. -/
def claimsUnspent : AuthCondition where
  answer := fun world op choice => match op, choice with
    | .markWsTicketUsed _ _ presentation, .ok => world.unspent presentation
    | .revokeRefreshToken _ _ (some presentation), .ok => world.unspent presentation
    | _, _ => true

/-- What was consumed was timely and is spent, and no token that a logout withdrew was
consumed. -/
structure Kept (world : AuthWorld) (credit : Multiset Presentation) : Prop where
  spending : Spending Presentation.credential world.consumed world.honoured credit
  timely : ∀ presentation ∈ world.consumed, ∃ hash, world.Timely hash presentation
  spent : ∀ presentation ∈ world.consumed, world.Spent presentation.credential
  withdrawn : ∀ id ∈ world.loggedOut, world.Spent (.refreshToken, id) ∧
    ∀ presentation ∈ world.consumed, presentation.credential ≠ (.refreshToken, id)

def spendingDiscipline : Discipline AuthWorld (Multiset Presentation) where
  later := Succeeds
  refl := Succeeds.refl
  trans := Succeeds.trans
  holds := Kept

theorem Kept.frame (kept : world.Kept credit) (late : world.Succeeds next)
    (consumed : next.consumed = world.consumed) (honoured : next.honoured = world.honoured)
    (loggedOut : next.loggedOut = world.loggedOut) : next.Kept credit := by
  refine ⟨?_, ?_, ?_, ?_⟩
  · rw [consumed, honoured]
    exact kept.spending
  · rw [consumed]
    intro presentation member
    obtain ⟨hash, timely⟩ := kept.timely presentation member
    exact ⟨hash, timely.later late⟩
  · rw [consumed]
    exact fun presentation member => (kept.spent presentation member).later late
  · rw [consumed, loggedOut]
    exact fun id member =>
      ⟨(kept.withdrawn id member).1.later late, (kept.withdrawn id member).2⟩

theorem Kept.consume {rest : Multiset Presentation} {hash : String} (kept : world.Kept rest)
    (timely : world.Timely hash presentation) (unspent : world.unspent presentation = true)
    (late : world.Succeeds next) (spends : next.Spent presentation.credential)
    (consumed : next.consumed = presentation :: world.consumed)
    (honoured : next.honoured = world.honoured) (loggedOut : next.loggedOut = world.loggedOut) :
    next.Kept ({presentation} + rest) := by
  have fresh := not_spent_of_unspent unspent
  refine ⟨?_, ?_, ?_, ?_⟩
  · rw [consumed, honoured]
    exact kept.spending.consume fun other member same => fresh (same ▸ kept.spent other member)
  · rw [consumed]
    intro other member
    rcases List.mem_cons.mp member with rfl | before
    · exact ⟨hash, timely.later late⟩
    · obtain ⟨otherHash, otherTimely⟩ := kept.timely other before
      exact ⟨otherHash, otherTimely.later late⟩
  · rw [consumed]
    intro other member
    rcases List.mem_cons.mp member with rfl | before
    · exact spends
    · exact (kept.spent other before).later late
  · rw [consumed, loggedOut]
    intro id member
    obtain ⟨isSpent, foreign⟩ := kept.withdrawn id member
    refine ⟨isSpent.later late, fun other inside => ?_⟩
    rcases List.mem_cons.mp inside with rfl | before
    · exact fun same => fresh (same ▸ isSpent)
    · exact foreign other before

theorem Kept.withdraw (kept : world.Kept credit) (tokenHash : String) (now : Int) :
    (world.revoke tokenHash now none).Kept credit := by
  have changed := credential_revoke world tokenHash now none
  have late : world.Succeeds (world.revoke tokenHash now none) := .of_spentIf changed
  refine ⟨kept.spending, ?_, ?_, ?_⟩
  · intro presentation member
    obtain ⟨hash, timely⟩ := kept.timely presentation member
    exact ⟨hash, timely.later late⟩
  · exact fun presentation member => (kept.spent presentation member).later late
  · intro id member
    rcases List.mem_append.mp member with new | old
    · obtain ⟨row, inside, rfl⟩ := List.mem_map.mp new
      obtain ⟨stored, chosen⟩ := List.mem_filter.mp inside
      obtain ⟨hashed, active⟩ := of_decide_eq_true chosen
      have found := credential_of_token stored
      refine ⟨⟨_, by rw [changed, found]; rfl, ?_⟩, fun presentation consumed same => ?_⟩
      · simp [Credential.spentIf, Credential.ofToken, hashed]
      · obtain ⟨credential, foundToo, isSpent⟩ := kept.spent presentation consumed
        rw [same, found] at foundToo
        cases foundToo
        rw [Credential.ofToken, active] at isSpent
        exact absurd isSpent Bool.false_ne_true
    · exact ⟨(kept.withdrawn id old).1.later late, (kept.withdrawn id old).2⟩

/-! ### What an operation may do -/

theorem statement_cases {Value : Type} {committed : AuthWorld} {value : Value}
    {reply : Except String Value}
    (answered : world.statement value committed choice = some (reply, next)) :
    (choice = .ok ∧ reply = .ok value ∧ next = committed) ∨
      (∃ text, reply = .error text ∧ next = world) := by
  cases choice with
  | ok =>
    cases answered
    exact Or.inl ⟨rfl, rfl, rfl⟩
  | raises text =>
    cases answered
    exact Or.inr ⟨text, rfl, rfl⟩
  | text | principal | frame => cases answered

theorem statement_same {Value : Type} {value : Value} {reply : Except String Value}
    (answered : world.statement value world choice = some (reply, next)) : next = world := by
  rcases statement_cases answered with ⟨-, -, rfl⟩ | ⟨text, -, rfl⟩ <;> rfl

theorem choosing_same {reply : Except String String}
    (answered : world.choosing choice = some (reply, next)) : next = world := by
  cases choice with
  | ok | principal | frame => cases answered
  | raises | text => exact (Prod.mk.inj (Option.some.inj answered)).2.symm

theorem inserting_cases {known : Bool} {inserted : Option AuthWorld} {reply : Except String Unit}
    (answered : world.inserting known inserted choice = some (reply, next)) :
    next = world ∨ inserted = some next := by
  cases choice with
  | ok =>
    cases known with
    | false => exact Or.inl (Prod.mk.inj (Option.some.inj answered)).2.symm
    | true =>
      cases inserted with
      | none => exact Or.inl (Prod.mk.inj (Option.some.inj answered)).2.symm
      | some after => exact Or.inr (congrArg some (Prod.mk.inj (Option.some.inj answered)).2)
  | raises text => exact Or.inl (Prod.mk.inj (Option.some.inj answered)).2.symm
  | text | principal | frame => cases answered

/-- An operation that neither consumes nor honours a credential. -/
def Idle : AuthOp → Prop
  | .revokeRefreshToken _ _ (some _) => False
  | .markWsTicketUsed _ _ _ => False
  | .honour _ => False
  | _ => True

theorem idle_answer {op : AuthOp} {reply : Except String (AuthReply op)} (idle : Idle op)
    (kept : world.Kept credit) (answered : world.answer op choice = some (reply, next)) :
    world.Succeeds next ∧ next.Kept credit := by
  have unchanged : next = world → world.Succeeds next ∧ next.Kept credit := by
    rintro rfl
    exact ⟨.refl _, kept⟩
  have framed : next.refreshTokens = world.refreshTokens → next.wsTickets = world.wsTickets →
      next.consumed = world.consumed → next.honoured = world.honoured →
      next.loggedOut = world.loggedOut → world.Succeeds next ∧ next.Kept credit :=
    fun tokens tickets consumed honoured loggedOut =>
      ⟨.of_eq tokens tickets, kept.frame (.of_eq tokens tickets) consumed honoured loggedOut⟩
  cases op with
  | utcNow | selectUserByUsername | selectUserById | publishAudit | accept | register | reject =>
    exact unchanged (statement_same answered)
  | generateOpaqueToken | generateId | createAccessToken => exact unchanged (choosing_same answered)
  | verifyAccessToken token =>
    refine unchanged ?_
    cases choice with
    | ok | text | frame => cases answered
    | raises | principal => exact (Prod.mk.inj (Option.some.inj answered)).2.symm
  | insertRefreshToken row =>
    rcases inserting_cases answered with same | inserted
    · exact unchanged same
    · obtain ⟨rows, insertedRow, rfl⟩ := Option.map_eq_some_iff.mp inserted
      have late : world.Succeeds { world with refreshTokens := rows } := by
        rintro ⟨kind | kind, id⟩ credential found
        · obtain ⟨old, foundOld, rfl⟩ := Option.map_eq_some_iff.mp found
          exact ⟨_, congrArg (Option.map Credential.ofToken)
            (Keyed.find_insert insertedRow foundOld), .refl _⟩
        · exact ⟨credential, found, .refl _⟩
      exact ⟨late, kept.frame late rfl rfl rfl⟩
  | selectActiveRefreshToken | selectWsTicket =>
    rcases statement_cases answered with ⟨-, -, rfl⟩ | ⟨text, -, same⟩
    · exact framed rfl rfl rfl rfl rfl
    · exact unchanged same
  | revokeRefreshToken tokenHash now rotating =>
    cases rotating with
    | some presentation => exact idle.elim
    | none =>
      rcases statement_cases answered with ⟨-, -, rfl⟩ | ⟨text, -, same⟩
      · exact ⟨.of_spentIf (credential_revoke world tokenHash now none),
          kept.withdraw tokenHash now⟩
      · exact unchanged same
  | insertWsTicket row =>
    rcases inserting_cases answered with same | inserted
    · exact unchanged same
    · obtain ⟨rows, insertedRow, rfl⟩ := Option.map_eq_some_iff.mp inserted
      have late : world.Succeeds { world with wsTickets := rows } := by
        rintro ⟨kind | kind, id⟩ credential found
        · exact ⟨credential, found, .refl _⟩
        · obtain ⟨old, foundOld, rfl⟩ := Option.map_eq_some_iff.mp found
          exact ⟨_, congrArg (Option.map Credential.ofTicket)
            (Keyed.find_insert insertedRow foundOld), .refl _⟩
      exact ⟨late, kept.frame late rfl rfl rfl⟩
  | markWsTicketUsed | honour => exact idle.elim
  | receiveAuthFrame =>
    refine unchanged ?_
    cases choice with
    | ok | text | principal => cases answered
    | raises | frame => exact (Prod.mk.inj (Option.some.inj answered)).2.symm

section Steps

variable {primitives : AuthPrimitives} {settings : AuthSettings}

variable (primitives settings) in
abbrev Answering (op : AuthOp) := Answers (system primitives settings) claimsUnspent
  spendingDiscipline op

variable (primitives settings) in
/-- A task that keeps account of the presentations it owns. -/
abbrev Owning {Result : Type} (task : AuthTask Result) :=
  Owns (system primitives settings) claimsUnspent spendingDiscipline task

theorem answers_idle {op : AuthOp} (idle : Idle op) {seen : AuthWorld} :
    Answering primitives settings op credit seen (leaving credit) := by
  intro world rest choice reply next _ kept _ answered
  obtain ⟨late, keptNext⟩ := idle_answer idle kept answered
  exact ⟨credit, late, keptNext, rfl⟩

theorem answers_utcNow {seen : AuthWorld} :
    Answering primitives settings .utcNow 0 seen (leaving 0) := by
  have idle : Idle .utcNow := True.intro
  exact answers_idle idle

theorem answers_selectActiveRefreshToken {tokenHash : String} {now : Int} {seen : AuthWorld} :
    Answering primitives settings
      (.selectActiveRefreshToken tokenHash now) 0 seen fun reply left next =>
        left = 0 ∧ ∀ row number, reply = .ok (some (row, number)) →
          next.Timely tokenHash ⟨.refreshToken, row.tokenId, now, number⟩ := by
  intro world rest choice reply next _ kept _ answered
  have idle : Idle (.selectActiveRefreshToken tokenHash now) := True.intro
  obtain ⟨late, keptNext⟩ := idle_answer idle kept answered
  refine ⟨0, late, keptNext, rfl, fun row number found => ?_⟩
  rcases statement_cases answered with ⟨-, replied, -⟩ | ⟨text, replied, -⟩
  · rw [replied] at found
    obtain ⟨_, foundRow, same⟩ := Option.map_eq_some_iff.mp (Except.ok.inj found)
    cases same
    have chosen := List.find?_some foundRow
    obtain ⟨revocable, early⟩ := of_decide_eq_true chosen
    have timely : world.Timely tokenHash ⟨.refreshToken, row.tokenId, now, world.readings⟩ :=
      ⟨_, credential_of_token (List.mem_of_find?_eq_some foundRow),
        (of_decide_eq_true revocable).1, early⟩
    exact timely.later late
  · rw [replied] at found
    cases found

theorem answers_selectWsTicket {ticketHash : String} {seen : AuthWorld} :
    Answering primitives settings (.selectWsTicket ticketHash) 0 seen fun reply left next =>
        left = 0 ∧ ∀ row number now, reply = .ok (some (row, number)) → now < row.expiresAt →
          next.Timely ticketHash ⟨.wsTicket, row.ticketId, now, number⟩ := by
  intro world rest choice reply next _ kept _ answered
  have idle : Idle (.selectWsTicket ticketHash) := True.intro
  obtain ⟨late, keptNext⟩ := idle_answer idle kept answered
  refine ⟨0, late, keptNext, rfl, fun row number now found early => ?_⟩
  rcases statement_cases answered with ⟨-, replied, -⟩ | ⟨text, replied, -⟩
  · rw [replied] at found
    obtain ⟨_, foundRow, same⟩ := Option.map_eq_some_iff.mp (Except.ok.inj found)
    cases same
    have named := List.find?_some foundRow
    have timely : world.Timely ticketHash ⟨.wsTicket, row.ticketId, now, world.readings⟩ :=
      ⟨_, credential_of_ticket (List.mem_of_find?_eq_some foundRow), of_decide_eq_true named, early⟩
    exact timely.later late
  · rw [replied] at found
    cases found

variable {seen : AuthWorld}

theorem answers_rotate {tokenHash : String} {now : Int}
    (isToken : presentation.kind = .refreshToken) (timely : seen.Timely tokenHash presentation) :
    Answering primitives settings
      (.revokeRefreshToken tokenHash now (some presentation)) 0 seen fun reply left _ =>
        (∀ rowcount, reply = .ok rowcount → left = {presentation}) := by
  intro world rest choice reply next late kept met answered
  rw [zero_add] at kept
  rcases statement_cases answered with ⟨rfl, -, rfl⟩ | ⟨text, replied, rfl⟩
  · have changed := credential_revoke world tokenHash now (some presentation)
    have succeeds : world.Succeeds (world.revoke tokenHash now (some presentation)) :=
      .of_spentIf changed
    obtain ⟨credential, found, hashed, -⟩ := timely.later late
    refine ⟨{presentation}, succeeds, ?_, fun _ _ => rfl⟩
    refine kept.consume (timely.later late) met succeeds ⟨_, by rw [changed, found]; rfl, ?_⟩ rfl rfl rfl
    simp [Credential.spentIf, Presentation.credential, isToken, hashed]
  · refine ⟨0, .refl _, (zero_add rest).symm ▸ kept, fun rowcount isOk => ?_⟩
    rw [replied] at isOk
    cases isOk

theorem answers_markWsTicketUsed {ticketHash : String} {now : Int}
    (isTicket : presentation.kind = .wsTicket) (timely : seen.Timely ticketHash presentation) :
    Answering primitives settings
      (.markWsTicketUsed presentation.credentialId now presentation) 0 seen fun reply left _ =>
        (reply = .ok () → left = {presentation}) := by
  intro world rest choice reply next late kept met answered
  rw [zero_add] at kept
  rcases statement_cases answered with ⟨rfl, -, rfl⟩ | ⟨text, replied, rfl⟩
  · have changed := credential_markUsed world presentation.credentialId now presentation
    have succeeds : world.Succeeds
        (world.markUsed presentation.credentialId now presentation) := .of_spentIf changed
    obtain ⟨credential, found, -, -⟩ := timely.later late
    refine ⟨{presentation}, succeeds, ?_, fun _ => rfl⟩
    refine kept.consume (timely.later late) met succeeds ⟨_, by rw [changed, found]; rfl, ?_⟩ rfl rfl rfl
    simp [Credential.spentIf, Presentation.credential, isTicket]
  · refine ⟨0, .refl _, (zero_add rest).symm ▸ kept, fun isOk => ?_⟩
    rw [replied] at isOk
    cases isOk

theorem answers_honour :
    Answering primitives settings (.honour presentation) {presentation} seen fun _ _ _ => True := by
  intro world rest choice reply next _ kept _ answered
  rcases statement_cases answered with ⟨-, -, rfl⟩ | ⟨text, -, rfl⟩
  · refine ⟨0, .of_eq rfl rfl, ?_, True.intro⟩
    rw [zero_add]
    exact
      { kept with
        spending := kept.spending.honour }
  · exact ⟨{presentation}, .refl _, kept, True.intro⟩

/-! ### Requests that consume nothing -/

theorem owns_idle {Result : Type} {task : AuthTask Result} (within : task.Within Idle) :
    Owning primitives settings task credit seen (leaving credit) :=
  Owns.of_within seen (fun _ _ _ idle => answers_idle idle)
    within

theorem within_auditAuthEvent (eventType : String) : (Auth.auditAuthEvent eventType).Within Idle :=
  (Coroutine.within_perform True.intro).catching fun _ => True.intro

theorem within_principalOf (user : UserRow) : (Auth.principalOf user).Within Idle := by
  unfold Auth.principalOf
  split <;> exact True.intro

theorem within_storeRefreshToken (tokenId userId tokenHash : String) (expiresAt : Int) :
    (Auth.storeRefreshToken tokenId userId tokenHash expiresAt).Within Idle := by
  refine Coroutine.Within.bind (Coroutine.within_perform ?_) fun now => ?_
  · exact True.intro
  · exact Coroutine.within_perform True.intro

theorem within_issueTokens (principal : UserPrincipal) :
    (Auth.issueTokens primitives settings principal).Within Idle := by
  refine (Coroutine.within_perform ?_).bind fun access => ?_
  · exact True.intro
  refine (Coroutine.within_perform ?_).bind fun rawRefresh => ?_
  · exact True.intro
  refine (Coroutine.within_perform ?_).bind fun now => ?_
  · exact True.intro
  refine (Coroutine.within_perform ?_).bind fun tokenId => ?_
  · exact True.intro
  · exact (within_storeRefreshToken _ _ _ _).bind fun _ => True.intro

theorem within_authenticate (username password : String) :
    (Auth.authenticate primitives settings username password).Within Idle := by
  refine (Coroutine.within_perform True.intro).bind fun user => ?_
  cases user with
  | none => exact (within_auditAuthEvent _).bind fun _ => True.intro
  | some user =>
    dsimp only
    split
    · exact (within_auditAuthEvent _).bind fun _ => True.intro
    · split
      · exact (within_auditAuthEvent _).bind fun _ => True.intro
      · exact (within_principalOf user).bind fun principal =>
          (within_issueTokens principal).bind fun _ =>
            (within_auditAuthEvent _).bind fun _ => True.intro

theorem within_logout (rawRefreshToken : String) :
    (Auth.logout primitives rawRefreshToken).Within Idle := by
  have revokes : (Auth.revokeRefreshToken (primitives.hashToken rawRefreshToken) none).Within
      Idle := by
    refine (Coroutine.within_perform ?_).bind fun now => ?_
    · exact True.intro
    · exact (Coroutine.within_perform True.intro).bind fun _ => True.intro
  refine revokes.bind fun revoked => ?_
  split
  · exact (within_auditAuthEvent _).bind fun _ => True.intro
  · exact True.intro

theorem within_storeWsTicket (ticketId ticketHash userId role : String) (expiresAt : Int) :
    (Auth.storeWsTicket ticketId ticketHash userId role expiresAt).Within Idle := by
  refine Coroutine.Within.bind (Coroutine.within_perform ?_) fun now => ?_
  · exact True.intro
  · exact Coroutine.within_perform True.intro

theorem within_createWsTicket (user : UserPrincipal) :
    (Auth.createWsTicket primitives settings user).Within Idle := by
  refine (Coroutine.within_perform ?_).bind fun opaqueToken => ?_
  · exact True.intro
  refine (Coroutine.within_perform ?_).bind fun now => ?_
  · exact True.intro
  refine (Coroutine.within_perform ?_).bind fun ticketId => ?_
  · exact True.intro
  exact (within_storeWsTicket _ _ _ _ _).bind fun _ =>
    (within_auditAuthEvent _).bind fun _ => True.intro

/-! ### Requests that consume a credential -/

theorem owns_idle_bind {First Second : Type} {task : AuthTask First}
    {next : First → AuthTask Second} (within : task.Within Idle)
    (follows : ∀ value world, seen.Succeeds world →
      Owning primitives settings (next value) credit world fun _ _ _ => True) :
    Owning primitives settings (task >>= next) credit seen fun _ _ _ => True := by
  refine Owns.call (owns_idle within) ?_
  rintro result left world late rfl
  cases result with
  | ok value => exact follows value world late
  | error error => exact True.intro

theorem owns_honour {Result : Type} {result : Result} :
    Owning primitives settings
      (Auth.ask (.honour presentation) >>= fun _ => pure result) {presentation} seen
      fun _ _ _ => True := by
  refine Owns.await answers_honour ?_
  intro reply left world _ _
  cases reply <;> exact True.intro

theorem owns_refreshTokens {rawRefreshToken : String} :
    Owning primitives settings
      (Auth.refreshTokens primitives settings rawRefreshToken) 0 seen fun _ _ _ => True := by
  let tokenHash := primitives.hashToken rawRefreshToken
  have active : Owning primitives settings
      (Auth.getActiveRefreshToken tokenHash) 0 seen fun result left world =>
        ∀ found, result = .ok found → left = 0 ∧ ∀ row presentation,
          found = some (row, presentation) →
            presentation.kind = .refreshToken ∧ world.Timely tokenHash presentation := by
    refine Owns.await answers_utcNow ?_
    rintro (error | now) left world _ rfl
    · exact nofun
    refine Owns.await
      answers_selectActiveRefreshToken ?_
    rintro (error | read) left next _ ⟨rfl, timely⟩
    · exact nofun
    cases read with
    | none =>
      rintro found ⟨⟩
      exact ⟨rfl, nofun⟩
    | some read =>
      rintro found ⟨⟩
      refine ⟨rfl, ?_⟩
      rintro row presentation ⟨⟩
      exact ⟨rfl, timely _ _ rfl⟩
  refine Owns.call active ?_
  rintro (error | found) left world _ post
  · exact True.intro
  obtain ⟨rfl, known⟩ := post found rfl
  cases found with
  | none => exact True.intro
  | some pair =>
    obtain ⟨row, presentation⟩ := pair
    obtain ⟨isToken, timely⟩ := known row presentation rfl
    -- the revocation: whatever it changed, the request goes on with the presentation in hand
    have rotated : Owning primitives settings
        (Auth.revokeRefreshToken tokenHash (some presentation)) 0 world fun result left _ =>
          ∀ revoked, result = .ok revoked → left = {presentation} := by
      refine Owns.await answers_utcNow ?_
      rintro (error | now) left next late rfl
      · exact nofun
      refine Owns.await
        (answers_rotate isToken (timely.later late)) ?_
      rintro (error | rowcount) left last _ consumed
      · exact nofun
      · exact fun _ _ => consumed rowcount rfl
    refine Owns.call rotated ?_
    rintro (error | revoked) left next _ owned
    · exact True.intro
    obtain rfl := owned revoked rfl
    refine owns_idle_bind (Coroutine.within_perform True.intro)
      fun user last _ => ?_
    cases user with
    | none => exact True.intro
    | some user =>
      dsimp only
      split
      · exact True.intro
      · exact owns_idle_bind (within_principalOf user) fun principal _ _ =>
          owns_idle_bind (within_issueTokens principal)
            fun _ _ _ => owns_idle_bind (within_auditAuthEvent _)
              fun _ final _ => owns_honour

theorem owns_validateAndConsumeWsTicket (rawTicket : String) (seen : AuthWorld) :
    Owning primitives settings
      (Auth.validateAndConsumeWsTicket primitives rawTicket) 0 seen fun _ _ _ => True := by
  let ticketHash := primitives.hashToken rawTicket
  have claimed : Owning primitives settings
      (Auth.consumeWsTicket ticketHash) 0 seen fun result left _ =>
        ∀ row presentation, result = .ok (some (row, presentation)) →
          left = {presentation} := by
    refine Owns.await answers_utcNow ?_
    rintro (error | now) left world _ rfl
    · exact nofun
    refine Owns.await
      answers_selectWsTicket ?_
    rintro (error | read) left next _ ⟨rfl, timely⟩
    · exact nofun
    cases read with
    | none => exact nofun
    | some read =>
      obtain ⟨row, number⟩ := read
      dsimp only
      split
      · exact nofun
      · rename_i usable
        rw [not_or, not_le] at usable
        refine Owns.await (answers_markWsTicketUsed rfl
          (timely row number now rfl usable.2)) ?_
        rintro (error | marked) left last _ consumed
        · exact nofun
        · rintro row presentation ⟨⟩
          exact consumed rfl
  refine Owns.call claimed ?_
  rintro (error | ticket) left world _ owned
  · exact True.intro
  cases ticket with
  | none => exact owns_idle_bind (within_auditAuthEvent _) fun _ _ _ => True.intro
  | some pair =>
    obtain ⟨row, presentation⟩ := pair
    obtain rfl := owned row presentation rfl
    refine owns_idle_bind (Coroutine.within_perform True.intro)
      fun user next _ => ?_
    cases user with
    | none => exact True.intro
    | some user =>
      dsimp only
      split
      · exact True.intro
      · exact owns_idle_bind (within_principalOf user) fun principal _ _ =>
          owns_idle_bind (within_auditAuthEvent _)
            fun _ final _ => owns_honour

theorem owns_then {First Second : Type} {task : AuthTask First} {next : First → AuthTask Second}
    (owns : Owning primitives settings task credit seen fun _ _ _ => True)
    (follows : ∀ value left world,
      Owning primitives settings (next value) left world fun _ _ _ => True) :
    Owning primitives settings (task >>= next) credit seen fun _ _ _ => True := by
  refine Owns.call owns ?_
  rintro (error | value) left world _ _
  · exact True.intro
  · exact follows value left world

theorem owns_validate_framed {rawTicket : String} :
    Owning primitives settings
      (Auth.validateAndConsumeWsTicket primitives rawTicket) credit seen fun _ _ _ => True := by
  have framed := (@owns_validateAndConsumeWsTicket primitives settings rawTicket seen).frame credit
  rw [zero_add] at framed
  exact framed.weaken fun _ _ _ _ _ => True.intro

theorem owns_authenticateByFrame :
    Owning primitives settings
      (Auth.authenticateByFrame primitives) credit seen fun _ _ _ => True := by
  refine Owns.catching (Owns.weaken (?_ : Owns _ _ _ _ _ _ fun _ _ _ => True) ?_)
  · refine owns_idle_bind (Coroutine.within_perform True.intro)
      fun frame world _ => ?_
    cases frame with
    | ticket ticket => exact owns_validate_framed
    | token token =>
      exact owns_idle_bind (Coroutine.within_perform True.intro)
        fun _ _ _ => True.intro
    | other => exact True.intro
  · rintro (error | user) left world _ _ <;> exact True.intro

theorem owns_websocketLiveEndpoint {ticket : Option String} :
    Owning primitives settings
      (Auth.websocketLiveEndpoint primitives settings ticket) 0 seen fun _ _ _ => True := by
  have idle {Result : Type} {task : AuthTask Result} (within : task.Within Idle)
      (credit : Multiset Presentation) (world : AuthWorld) :
      Owning primitives settings task credit world fun _ _ _ => True :=
    (owns_idle within).weaken fun _ _ _ _ _ => True.intro
  have query : Owning primitives settings
      (Auth.authenticateByQuery primitives ticket) 0 seen fun _ _ _ => True := by
    cases ticket with
    | none => exact True.intro
    | some ticket =>
      rw [Auth.authenticateByQuery]
      split
      · exact True.intro
      · exact owns_validate_framed
  refine owns_then query fun queried left world => ?_
  refine owns_idle_bind (Coroutine.within_perform True.intro)
    fun _ world _ => ?_
  have framed : Owning primitives settings
      (Auth.authenticateUnless primitives queried) left world fun _ _ _ => True := by
    cases queried with
    | some user => exact True.intro
    | none => exact owns_authenticateByFrame
  refine owns_then framed fun user left world => ?_
  have registers (user : UserPrincipal) : (Auth.ask (.register user)).Within Idle :=
    Coroutine.within_perform True.intro
  have rejects : (Auth.ask .reject).Within Idle := Coroutine.within_perform True.intro
  cases user with
  | some user => exact idle (registers user) left world
  | none =>
    rw [Auth.registerOrReject]
    split
    · exact idle (registers Auth.developmentViewer) left world
    · refine idle ?_ left world
      exact rejects.catching fun _ => True.intro

/-! ### Every run -/

theorem spending_sound :
    Sound (system primitives settings) claimsUnspent spendingDiscipline where
  start world total kind task next kept _ started := by
    have idle {Result : Type} {request : AuthTask Result} (within : request.Within Idle) :
        (request >>= fun _ => (pure () : AuthTask Unit)).Within Idle :=
      within.bind fun _ => True.intro
    have given {request : AuthTask Unit}
        (owns : Owning primitives settings request 0 world fun _ _ _ => True) :
        world.Succeeds world ∧ ∃ credit, world.Kept (credit + total) ∧
          Owning primitives settings request credit world fun _ _ _ => True :=
      ⟨.refl world, 0, (zero_add total).symm ▸ kept, owns⟩
    cases kind with
    | login username password =>
      cases started
      exact given ((owns_idle (idle (within_authenticate username password))).weaken
          fun _ _ _ _ _ => True.intro)
    | refresh refreshToken =>
      cases started
      exact given (owns_then
        owns_refreshTokens fun _ _ _ => True.intro)
    | logout refreshToken =>
      cases started
      exact given ((owns_idle (idle (within_logout refreshToken))).weaken
          fun _ _ _ _ _ => True.intro)
    | wsTicket user =>
      cases started
      exact given ((owns_idle (idle (within_createWsTicket user))).weaken
          fun _ _ _ _ _ => True.intro)
    | webSocket ticket =>
      cases started
      exact given owns_websocketLiveEndpoint
  disturb world total cause next kept _ disturbed := by
    cases cause with
    | tick | users =>
      cases disturbed
      exact ⟨.of_eq rfl rfl, kept.frame (.of_eq rfl rfl) rfl rfl rfl⟩
  restart world total kept _ :=
    { kept with
      spending := by
        have forfeited : Spending Presentation.credential world.consumed world.honoured
            (total + 0) := (add_zero total).symm ▸ kept.spending
        exact forfeited.forfeit }

end Steps

theorem kept_initial (users : List UserRow) (clock : Int) : (initial users clock).Kept 0 where
  spending := .none
  timely := nofun
  spent := nofun
  withdrawn := nofun

/-- Credentials are used once: every credential is consumed by at most one request, only the
request that consumed it is honoured, once, and it was neither expired when it was presented nor
withdrawn by a logout. -/
structure SingleUse (world : AuthWorld) : Prop where
  consumedOnce : (world.consumed.map Presentation.credential).Nodup
  honouredOnce : (world.honoured.map Presentation.credential).Nodup
  honouredConsumed : ∀ presentation ∈ world.honoured, presentation ∈ world.consumed
  timely : ∀ presentation ∈ world.honoured, ∃ credential,
    world.credential presentation.credential = some credential ∧ credential.spent = true ∧
      presentation.presentedAt < credential.expiresAt
  notWithdrawn : ∀ presentation ∈ world.honoured, presentation.kind = .refreshToken →
    presentation.credentialId ∉ world.loggedOut

theorem Kept.singleUse (kept : world.Kept credit) : world.SingleUse where
  consumedOnce := kept.spending.once
  honouredOnce := kept.spending.honoured_once
  honouredConsumed _ member := kept.spending.consumed_of_honoured member
  timely presentation member := by
    have inside := kept.spending.consumed_of_honoured member
    obtain ⟨hash, credential, found, -, early⟩ := kept.timely presentation inside
    obtain ⟨same, foundToo, isSpent⟩ := kept.spent presentation inside
    rw [found] at foundToo
    cases foundToo
    exact ⟨credential, found, isSpent, early⟩
  notWithdrawn presentation member isToken withdrawn := by
    refine (kept.withdrawn _ withdrawn).2 presentation
      (kept.spending.consumed_of_honoured member) ?_
    rw [Presentation.credential, isToken]

end AuthWorld

/-- In every run in which each update that claims a credential finds it unspent, credentials are
used once. -/
theorem credentials_used_once (primitives : AuthPrimitives) (settings : AuthSettings)
    (users : List UserRow) (clock : Int)
    {last : Config AuthOp AuthReply String AuthWorld}
    (reaches : (AuthWorld.system primitives settings).Reaches AuthWorld.claimsUnspent
      ⟨AuthWorld.initial users clock, []⟩ last) :
    last.world.SingleUse := by
  obtain ⟨credits, kept, -⟩ := Owned.reaches AuthWorld.spending_sound
    (owned_idle (AuthWorld.kept_initial users clock)) reaches
  exact kept.singleUse

/-! ### Two concurrent presentations -/

namespace SingleUseRuns

/-- The digests of the tokens of the runs below, and of the password. -/
def primitives : AuthPrimitives where
  hashToken token :=
    if token = "a" then "ca978112ca1bbdcafac231b39a23dc4da786eff8147c4e72b9807785afee48bb"
    else if token = "b" then "3e23e8160039594a33894f6564e1b1348bbd7a0088d42c4acb73eeaed59c009d"
    else if token = "c" then "2e7d2c03a9507ae265ecf5b5356885a53393a2029d241394997265a1a25aefc6"
    else if token = "wst_t" then "44295ecb6172f40a8597e02c8cc382813f36dca358ae34ad0c3df115aad6e4b1"
    else ""
  verifyPassword password passwordHash salt :=
    password = "secret" ∧ salt = "00000000000000000000000000000000" ∧
      passwordHash = "b8bcebf153887cf80a24ccb9cbf2c84a5b5a402e8244434400c2224fc918b5ff"
  normalised := id

def settings : AuthSettings where
  accessTokenExpireMinutes := 15
  refreshTokenExpireDays := 7
  wsTicketExpireSeconds := 60
  isDevelopment := false

def user : UserRow where
  userId := "user-1"
  username := "trader"
  passwordHash := "b8bcebf153887cf80a24ccb9cbf2c84a5b5a402e8244434400c2224fc918b5ff"
  salt := "00000000000000000000000000000000"
  role := "TRADER"
  isActive := true

abbrev Events := List (Event AuthAnswer AuthStart AuthDisturbance)

/-- The steps of one task that the environment answers one after another. -/
def resumed (task : Nat) (choices : List AuthAnswer) : Events := choices.map (.resume task)

/-- Tokens are issued and stored under an id. -/
def issued (rawRefresh tokenId : String) : List AuthAnswer :=
  [.text "access", .text rawRefresh, .ok, .text tokenId, .ok, .ok]

/-- The user logs in and gets the refresh token `a`. -/
def loggedIn : Events :=
  .start (.login "trader" "secret") :: resumed 0 (.ok :: issued "a" "token-1" ++ [.ok])

/-- A request reads the refresh token `a`. -/
def presented (task : Nat) : Events := .start (.refresh "a") :: resumed task [.ok, .ok]

/-- It revokes what it read, and is honoured with a new token. -/
def rotated (task : Nat) (rawRefresh tokenId : String) : Events :=
  resumed task ([.ok, .ok, .ok] ++ issued rawRefresh tokenId ++ [.ok, .ok])

/-- The user gets the ticket `wst_t`. -/
def ticketed (task : Nat) : Events :=
  .start (.wsTicket ⟨"user-1", "trader", .trader, true⟩) ::
    resumed task [.text "t", .ok, .text "ticket-1", .ok, .ok, .ok]

/-- A connection reads the ticket. -/
def connecting (task : Nat) : Events := .start (.webSocket (some "wst_t")) :: resumed task [.ok, .ok]

/-- It marks the ticket, and is accepted and registered. -/
def connected (task : Nat) : Events := resumed task [.ok, .ok, .ok, .ok, .ok, .ok]

/-- A connection whose ticket was not honoured sends no frame and is rejected. -/
def rejected (task : Nat) : Events := resumed task [.ok, .ok, .raises "timed out", .ok]

end SingleUseRuns

open SingleUseRuns in
/-- A run that meets the condition: the token and the ticket are presented twice each, and honoured
once; the new token is withdrawn by a logout. -/
theorem credentials_used_once_sequential :
    ∃ last, (AuthWorld.system primitives settings).Reaches AuthWorld.claimsUnspent
        ⟨AuthWorld.initial [user] 0, []⟩ last ∧
      last.world.honoured = [⟨.wsTicket, "ticket-1", 0, 2⟩, ⟨.refreshToken, "token-1", 0, 0⟩] ∧
      last.world.loggedOut = ["token-2"] ∧ last.world.SingleUse := by
  have ran : ((AuthWorld.system primitives settings).run AuthWorld.claimsUnspent
      ⟨AuthWorld.initial [user] 0, []⟩
      (loggedIn ++ presented 1 ++ rotated 1 "b" "token-2" ++ presented 2 ++ ticketed 3 ++
        connecting 4 ++ connected 4 ++ connecting 5 ++ rejected 5 ++
        .start (.logout "b") :: resumed 6 [.ok, .ok, .ok])).map
      (fun last => (last.world.honoured, last.world.loggedOut)) =
        some ([⟨.wsTicket, "ticket-1", 0, 2⟩, ⟨.refreshToken, "token-1", 0, 0⟩],
          ["token-2"]) := by decide +kernel
  obtain ⟨last, reaches, shown⟩ := System.reaches_of_map ran
  obtain ⟨honoured, loggedOut⟩ := Prod.mk.inj shown
  exact ⟨last, reaches, honoured, loggedOut,
    credentials_used_once primitives settings [user] 0 reaches⟩

open SingleUseRuns in
/-- Without the condition they are not: two requests read the token before either revokes it, and
two connections read the ticket before either marks it. -/
theorem credential_honoured_twice :
    ¬ ∀ (primitives : AuthPrimitives) (settings : AuthSettings) (users : List UserRow)
      (clock : Int) (last : Config AuthOp AuthReply String AuthWorld),
      (AuthWorld.system primitives settings).Reaches Condition.unrestricted
        ⟨AuthWorld.initial users clock, []⟩ last → last.world.SingleUse := by
  intro once
  have ran : ((AuthWorld.system primitives settings).run Condition.unrestricted
      ⟨AuthWorld.initial [user] 0, []⟩
      (loggedIn ++ presented 1 ++ presented 2 ++ rotated 1 "b" "token-2" ++
        rotated 2 "c" "token-3" ++ ticketed 3 ++ connecting 4 ++ connecting 5 ++ connected 4 ++
        connected 5)).map (fun last => last.world.honoured.map Presentation.credential) =
        some [(.wsTicket, "ticket-1"), (.wsTicket, "ticket-1"), (.refreshToken, "token-1"),
          (.refreshToken, "token-1")] := by decide +kernel
  obtain ⟨last, reaches, honoured⟩ := System.reaches_of_map ran
  have distinct := (once primitives settings [user] 0 last
    reaches).honouredOnce
  rw [honoured] at distinct
  exact absurd distinct (by decide)

end BreezeTrading
