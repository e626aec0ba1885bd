/-
This file proves when a closed trade stays closed and is closed once. A cycle and every manual
exit save copies of a stored trade whatever is stored by then, so two of them may both close it. A
trade in hand is owned by the task that read it; nobody may read it while another task has it in
hand.
-/

import BreezeTrading.Lib.Custody
import BreezeTrading.Strategy.EntryRules

namespace BreezeTrading

open Async Async.Coroutine StrategyService

/-! ### One close -/

/-- How often the final sale of a trade is recorded in the execution ledger. -/
def finalSales (ledger : List LedgerEntry) (tradeId : String) : Nat :=
  ledger.countP fun entry => decide (entry.tradeId = tradeId ∧ entry.kind = .finalExit)

/-- What a save of a trade leaves to a later save of the same trade: once closed it stays closed,
with what it made, and it is not closed again. -/
structure ClosedOnce (first second : SaveRecord) : Prop where
  staysClosed : first.trade.state = .closed →
    second.trade.state = .closed ∧ second.trade.settlement = first.trade.settlement
  once : ¬(first.closing = true ∧ second.closing = true)

/-- Every trade is closed once and stays closed, and one that is not live is sold once for it: the
sale is recorded before the trade is put down. -/
structure SingleClose (world : StrategyWorld) : Prop where
  saves : world.saves.Pairwise fun first second =>
    second.trade.tradeId = first.trade.tradeId → ClosedOnce first second
  soldOnce : ∀ tradeId, finalSales world.ledger tradeId ≤ 1
  sold : ∀ save ∈ world.saves, save.closing = true → save.trade.mode ≠ .live →
    save.trade.tradeId ∉ world.held → finalSales world.ledger save.trade.tradeId = 1

/-! ### The condition -/

namespace StrategyWorld

/-- Every trade that was closed, a live one apart, has its final sale in the ledger. -/
def closesRecorded (world : StrategyWorld) : Bool :=
  world.saves.all fun save => !save.closing || decide (save.trade.mode = .live) ||
    decide (finalSales world.ledger save.trade.tradeId = 1)

/-- Nobody reads an open trade to save it while another task has it in hand, a new trade has an id
of its own, and what follows the close of a simulated trade is written. -/
def closeUndisturbed (world : StrategyWorld) : StrategyOp → StrategyAnswer → Bool
  | .getActiveTrades .management, _ =>
      (getActiveTrades world.trades).all fun trade => decide (trade.tradeId ∉ world.held)
  | .getActiveTrades (.exit tradeId), _ => decide (tradeId ∉ world.held)
  | .saveTrade trade .entry, _ | .saveTrade trade .forcedEntry, _ =>
      decide (trade.tradeId ∉ world.trades.map ActiveTrade.tradeId ∧ trade.tradeId ∉ world.held)
  | .logClose trade, .raises _ => decide (trade.mode = .live)
  | .recordExecution entry, .raises _ => decide (entry.kind ≠ .finalExit)
  | _, _ => true

end StrategyWorld

open StrategyWorld

/-- The closes are undisturbed, and no task or process ends between a close and its sale. -/
def closesUndisturbed :
    Condition StrategyOp StrategyWorld StrategyAnswer StrategyStart Empty where
  answer := StrategyWorld.closeUndisturbed
  cancel := StrategyWorld.closesRecorded
  restart := StrategyWorld.closesRecorded

/-! ### Phases of a trade in hand -/

/-- How far the close of a trade has come: it is not closed, it is stored as closed and its sale is
still to be recorded, or nothing is left to do. -/
inductive ClosePhase where
  | unclosed
  | closed (settlement : Option Settlement)
  | done (settlement : Option Settlement)

namespace ClosePhase

/-- What the trade was stored as closed with. -/
def closedWith : ClosePhase → Option (Option Settlement)
  | .unclosed => none
  | .closed settlement | .done settlement => some settlement

/-- No sale is still to be recorded. -/
def Settled (phase : ClosePhase) : Prop := ∀ settlement, phase ≠ .closed settlement

/-- The sale is not recorded yet. -/
def Unsold (phase : ClosePhase) : Prop := ∀ settlement, phase ≠ .done settlement

/-- A copy of the trade that tells what is stored. -/
def Fits (phase : ClosePhase) (trade : ActiveTrade) : Prop :=
  match phase.closedWith with
  | none => trade.state ≠ .closed
  | some settlement => trade.state = .closed ∧ trade.settlement = settlement

theorem Settled.unclosed : Settled .unclosed := fun _ same => by cases same

theorem Settled.done (settlement : Option Settlement) : Settled (.done settlement) :=
  fun _ same => by cases same

theorem Fits.unclosed {phase : ClosePhase} {trade : ActiveTrade} (fits : phase.Fits trade)
    (isOpen : trade.state ≠ .closed) : phase = .unclosed := by
  cases phase with
  | unclosed => rfl
  | closed settlement | done settlement => exact absurd fits.1 isOpen

end ClosePhase

/-- What is stored, saved and sold of a trade in a phase. -/
structure InPhase (world : StrategyWorld) (tradeId : String) (phase : ClosePhase) : Prop where
  rows : ∀ row ∈ world.trades, row.tradeId = tradeId →
    (row.state = .closed ↔ phase ≠ .unclosed)
  stored : phase ≠ .unclosed → ∃ row ∈ world.trades, row.tradeId = tradeId
  saves : ∀ save ∈ world.saves, save.trade.tradeId = tradeId → save.trade.state = .closed →
    phase.closedWith = some save.trade.settlement
  unsold : phase.Unsold → finalSales world.ledger tradeId = 0
  soldOnce : finalSales world.ledger tradeId ≤ 1
  sold : phase.Settled → ∀ save ∈ world.saves, save.trade.tradeId = tradeId →
    save.closing = true → save.trade.mode ≠ .live → finalSales world.ledger tradeId = 1

/-- The trades in hand are owned, each by one task, in the phase it is in; for the others nothing is
left to do. -/
structure ClosesOwned (world : StrategyWorld) (credit : Multiset (String × ClosePhase)) :
    Prop where
  custody : Custody (InPhase world) ClosePhase.Settled world.held credit
  keys : (world.trades.map ActiveTrade.tradeId).Nodup
  closes : ∀ save ∈ world.saves, save.closing = true → save.trade.state = .closed
  saves : world.saves.Pairwise fun first second =>
    second.trade.tradeId = first.trade.tradeId → ClosedOnce first second

def closesDiscipline : Discipline StrategyWorld (Multiset (String × ClosePhase)) where
  later _ _ := True
  refl _ := trivial
  trans _ _ := trivial
  holds := ClosesOwned

section Phases

variable {world next : StrategyWorld} {tradeId : String} {phase : ClosePhase}

theorem InPhase.congr (inPhase : InPhase world tradeId phase) (trades : next.trades = world.trades)
    (saves : next.saves = world.saves)
    (sales : finalSales next.ledger tradeId = finalSales world.ledger tradeId) :
    InPhase next tradeId phase := by
  refine ⟨?_, ?_, ?_, ?_, ?_, ?_⟩
  · rw [trades]
    exact inPhase.rows
  · rw [trades]
    exact inPhase.stored
  · rw [saves]
    exact inPhase.saves
  · rw [sales]
    exact inPhase.unsold
  · rw [sales]
    exact inPhase.soldOnce
  · rw [sales, saves]
    exact inPhase.sold

theorem InPhase.save_other {saved : SaveRecord} (inPhase : InPhase world tradeId phase)
    (other : saved.trade.tradeId ≠ tradeId)
    (trades : next.trades = putTrade world.trades saved.trade)
    (saves : next.saves = world.saves ++ [saved]) (ledger : next.ledger = world.ledger) :
    InPhase next tradeId phase := by
  have old : ∀ save ∈ next.saves, save.trade.tradeId = tradeId → save ∈ world.saves := by
    intro save member same
    rw [saves, List.mem_append, List.mem_singleton] at member
    rcases member with before | rfl
    · exact before
    · exact absurd same other
  refine ⟨fun row member same => ?_, fun closed => ?_, fun save member same => ?_, ?_, ?_, ?_⟩
  · rw [trades, mem_putTrade] at member
    rcases member with ⟨before, _⟩ | rfl
    · exact inPhase.rows row before same
    · exact absurd same other
  · obtain ⟨row, member, same⟩ := inPhase.stored closed
    refine ⟨row, ?_, same⟩
    rw [trades, mem_putTrade]
    exact Or.inl ⟨member, same.trans_ne other.symm⟩
  · exact inPhase.saves save (old save member same) same
  · rw [ledger]
    exact inPhase.unsold
  · rw [ledger]
    exact inPhase.soldOnce
  · rw [ledger]
    exact fun settled save member same => inPhase.sold settled save (old save member same) same

theorem InPhase.save {saved : ActiveTrade} (inPhase : InPhase world saved.tradeId phase)
    (fits : phase.Fits saved) (trades : next.trades = putTrade world.trades saved)
    (saves : next.saves = world.saves ++ [⟨saved, false⟩]) (ledger : next.ledger = world.ledger) :
    InPhase next saved.tradeId phase := by
  have mem_put : saved ∈ next.trades := by
    rw [trades, mem_putTrade]
    exact Or.inr rfl
  refine ⟨fun row member same => ?_, fun _ => ⟨saved, mem_put, rfl⟩,
    fun save member same closed => ?_, ?_, ?_, ?_⟩
  · rw [trades, mem_putTrade] at member
    rcases member with ⟨_, other⟩ | rfl
    · exact absurd same other
    · cases phase with
      | unclosed => exact ⟨fun closed => absurd closed fits, fun other => absurd rfl other⟩
      | closed settlement | done settlement => exact ⟨fun _ => (by rintro ⟨⟩), fun _ => fits.1⟩
  · rw [saves, List.mem_append, List.mem_singleton] at member
    rcases member with before | rfl
    · exact inPhase.saves save before same closed
    · cases phase with
      | unclosed => exact absurd closed fits
      | closed settlement | done settlement => exact congrArg some fits.2.symm
  · rw [ledger]
    exact inPhase.unsold
  · rw [ledger]
    exact inPhase.soldOnce
  · rw [ledger, saves]
    intro settled save member same closing
    rw [List.mem_append, List.mem_singleton] at member
    rcases member with before | rfl
    · exact inPhase.sold settled save before same closing
    · exact absurd closing Bool.false_ne_true

theorem InPhase.close {saved : ActiveTrade} {closing : Bool}
    (inPhase : InPhase world saved.tradeId .unclosed) (closed : saved.state = .closed)
    (reached : phase.closedWith = some saved.settlement)
    (due : phase.Settled → closing = true → saved.mode = .live)
    (trades : next.trades = putTrade world.trades saved)
    (saves : next.saves = world.saves ++ [⟨saved, closing⟩]) (ledger : next.ledger = world.ledger)
    (closes : ∀ save ∈ world.saves, save.closing = true → save.trade.state = .closed) :
    InPhase next saved.tradeId phase := by
  have unsold : finalSales world.ledger saved.tradeId = 0 :=
    inPhase.unsold fun _ same => by cases same
  have isOpen : ∀ save ∈ world.saves, save.trade.tradeId = saved.tradeId →
      save.trade.state ≠ .closed := fun save member same closed => by
    cases inPhase.saves save member same closed
  refine ⟨fun row member same => ?_, fun _ => ⟨saved, ?_, rfl⟩,
    fun save member same saveClosed => ?_, ?_, ?_, ?_⟩
  · rw [trades, mem_putTrade] at member
    rcases member with ⟨_, other⟩ | rfl
    · exact absurd same other
    · refine ⟨fun _ unclosed => ?_, fun _ => closed⟩
      rw [unclosed] at reached
      cases reached
  · rw [trades, mem_putTrade]
    exact Or.inr rfl
  · rw [saves, List.mem_append, List.mem_singleton] at member
    rcases member with before | rfl
    · exact absurd saveClosed (isOpen save before same)
    · exact reached
  · rw [ledger]
    exact fun _ => unsold
  · rw [ledger, unsold]
    exact Nat.zero_le 1
  · rw [saves]
    intro settled save member same saveCloses notLive
    rw [List.mem_append, List.mem_singleton] at member
    rcases member with before | rfl
    · exact absurd (closes save before saveCloses) (isOpen save before same)
    · exact absurd (due settled saveCloses) notLive

variable {entry : LedgerEntry}

theorem finalSales_append_other {ledger : List LedgerEntry}
    (other : ¬(entry.tradeId = tradeId ∧ entry.kind = .finalExit)) :
    finalSales (ledger ++ [entry]) tradeId = finalSales ledger tradeId := by
  unfold finalSales
  rw [List.countP_append, List.countP_singleton, if_neg]
  · rfl
  · rw [decide_eq_true_eq]
    exact other

theorem finalSales_append {ledger : List LedgerEntry} (kind : entry.kind = .finalExit) :
    finalSales (ledger ++ [entry]) entry.tradeId = finalSales ledger entry.tradeId + 1 := by
  unfold finalSales
  rw [List.countP_append, List.countP_singleton, if_pos]
  exact decide_eq_true ⟨rfl, kind⟩

theorem InPhase.sell {settlement : Option Settlement}
    (inPhase : InPhase world entry.tradeId (.closed settlement)) (kind : entry.kind = .finalExit)
    (trades : next.trades = world.trades) (saves : next.saves = world.saves)
    (ledger : next.ledger = world.ledger ++ [entry]) :
    InPhase next entry.tradeId (.done settlement) := by
  have sales : finalSales next.ledger entry.tradeId = 1 := by
    have unsold : finalSales world.ledger entry.tradeId = 0 :=
      inPhase.unsold fun _ same => by cases same
    rw [ledger, finalSales_append kind, unsold]
  refine ⟨fun row member same => ?_, fun _ => ?_, ?_, fun unsold => absurd rfl (unsold settlement),
    sales.le, fun _ _ _ _ _ _ => sales⟩
  · rw [trades] at member
    exact (inPhase.rows row member same).trans
      ⟨fun _ => (by rintro ⟨⟩), fun _ => (by rintro ⟨⟩)⟩
  · rw [trades]
    exact inPhase.stored (by rintro ⟨⟩)
  · rw [saves]
    exact inPhase.saves

theorem InPhase.settle (inPhase : InPhase world tradeId phase)
    (recorded : world.closesRecorded = true) :
    ∃ settled : ClosePhase, settled.Settled ∧ InPhase world tradeId settled := by
  cases phase with
  | unclosed => exact ⟨_, .unclosed, inPhase⟩
  | done settlement => exact ⟨_, .done settlement, inPhase⟩
  | closed settlement =>
    refine ⟨.done settlement, .done settlement, fun row member same => ?_,
      fun _ => inPhase.stored (by rintro ⟨⟩), inPhase.saves, fun unsold => absurd rfl (unsold settlement), inPhase.soldOnce,
      fun _ save member same closing notLive => ?_⟩
    · exact (inPhase.rows row member same).trans
        ⟨fun _ => (by rintro ⟨⟩), fun _ => (by rintro ⟨⟩)⟩
    · have sale := List.all_eq_true.mp recorded save member
      rw [closing, decide_eq_false notLive, Bool.not_true, Bool.false_or, Bool.false_or,
        decide_eq_true_eq, same] at sale
      exact sale

end Phases

/-! ### Steps -/

section Steps

variable {world next : StrategyWorld} {tradeId : String} {phase : ClosePhase}
  {rest : Multiset (String × ClosePhase)}

namespace ClosesOwned

theorem save (owned : ClosesOwned world ({(tradeId, phase)} + rest)) (saved : SaveRecord)
    (same : saved.trade.tradeId = tradeId) {reached : ClosePhase}
    (inPhase : InPhase next tradeId reached) (held : next.held = world.held)
    (trades : next.trades = putTrade world.trades saved.trade)
    (saves : next.saves = world.saves ++ [saved]) (ledger : next.ledger = world.ledger)
    (closes : saved.closing = true → saved.trade.state = .closed)
    (once : ∀ save ∈ world.saves, save.trade.tradeId = tradeId → ClosedOnce save saved) :
    ClosesOwned next ({(tradeId, reached)} + rest) := by
  subst same
  refine ⟨?_, ?_, fun save member closing => ?_, ?_⟩
  · rw [held]
    exact owned.custody.move inPhase fun other phase different inOther =>
      inOther.save_other different.symm trades saves ledger
  · rw [trades]
    exact nodup_putTrade owned.keys saved.trade
  · rw [saves, List.mem_append, List.mem_singleton] at member
    rcases member with before | rfl
    · exact owned.closes save before closing
    · exact closes closing
  · rw [saves]
    refine List.pairwise_append.mpr ⟨owned.saves, List.pairwise_singleton _ _, ?_⟩
    intro save before latest member same
    obtain rfl := List.mem_singleton.mp member
    exact once save before same.symm

theorem saveCopy {saved : ActiveTrade}
    (owned : ClosesOwned world ({(saved.tradeId, phase)} + rest)) (fits : phase.Fits saved)
    (held : next.held = world.held) (trades : next.trades = putTrade world.trades saved)
    (saves : next.saves = world.saves ++ [⟨saved, false⟩]) (ledger : next.ledger = world.ledger) :
    ClosesOwned next ({(saved.tradeId, phase)} + rest) := by
  refine owned.save ⟨saved, false⟩ rfl
    (owned.custody.own_phase.save fits trades saves ledger) held trades saves ledger nofun
    fun save member same => ⟨fun closed => ?_, fun both => Bool.false_ne_true both.2⟩
  have settled := owned.custody.own_phase.saves save member same closed
  unfold ClosePhase.Fits at fits
  rw [settled] at fits
  exact fits

theorem saveClosed {saved : ActiveTrade} {closing : Bool} {reached : ClosePhase}
    (owned : ClosesOwned world ({(saved.tradeId, .unclosed)} + rest))
    (closed : saved.state = .closed) (settles : reached.closedWith = some saved.settlement)
    (due : reached.Settled → closing = true → saved.mode = .live)
    (held : next.held = world.held) (trades : next.trades = putTrade world.trades saved)
    (saves : next.saves = world.saves ++ [⟨saved, closing⟩]) (ledger : next.ledger = world.ledger) :
    ClosesOwned next ({(saved.tradeId, reached)} + rest) := by
  refine owned.save ⟨saved, closing⟩ rfl
    (owned.custody.own_phase.close closed settles due trades saves ledger owned.closes) held trades saves
    ledger (fun _ => closed) fun save member same => ?_
  have isOpen : save.trade.state ≠ .closed := fun saveClosed => by
    cases owned.custody.own_phase.saves save member same saveClosed
  exact ⟨fun saveClosed => absurd saveClosed isOpen,
    fun both => isOpen (owned.closes save member both.1)⟩

theorem sell {settlement : Option Settlement} {entry : LedgerEntry}
    (owned : ClosesOwned world ({(entry.tradeId, .closed settlement)} + rest))
    (kind : entry.kind = .finalExit) :
    ClosesOwned { world with ledger := world.ledger ++ [entry] }
      ({(entry.tradeId, .done settlement)} + rest) :=
  ⟨owned.custody.move (owned.custody.own_phase.sell kind rfl rfl rfl)
    fun _ _ different inOther => inOther.congr rfl rfl
      (finalSales_append_other fun both => different both.1.symm),
    owned.keys, owned.closes, owned.saves⟩

variable {credit : Multiset (String × ClosePhase)}

section

variable (owned : ClosesOwned world credit)

include owned

theorem take {tradeIds : List String} (distinct : tradeIds.Nodup)
    (untaken : ∀ tradeId ∈ tradeIds, tradeId ∉ world.held)
    (unclosed : ∀ tradeId ∈ tradeIds, InPhase world tradeId .unclosed)
    (held : next.held = tradeIds ++ world.held) (trades : next.trades = world.trades)
    (saves : next.saves = world.saves) (ledger : next.ledger = world.ledger) :
    ClosesOwned next (tokensIn .unclosed tradeIds + credit) := by
  refine ⟨?_, trades ▸ owned.keys, saves ▸ owned.closes, saves ▸ owned.saves⟩
  rw [held]
  exact (owned.custody.take distinct untaken unclosed).imp fun _ _ inPhase =>
    inPhase.congr trades saves (by rw [ledger])

theorem unclosed_of_open {trade : ActiveTrade} (active : trade ∈ getActiveTrades world.trades)
    (untaken : trade.tradeId ∉ world.held) : InPhase world trade.tradeId .unclosed := by
  obtain ⟨stored, isOpen⟩ := mem_getActiveTrades.mp active
  obtain ⟨phase, _, inPhase⟩ := owned.custody.free trade.tradeId untaken
  have unclosed : phase = .unclosed := by
    by_contra closed
    exact isOpen ((inPhase.rows trade stored rfl).mpr closed)
  exact unclosed ▸ inPhase

theorem unclosed_of_fresh (fresh : tradeId ∉ world.trades.map ActiveTrade.tradeId)
    (untaken : tradeId ∉ world.held) : InPhase world tradeId .unclosed := by
  obtain ⟨phase, _, inPhase⟩ := owned.custody.free tradeId untaken
  have unclosed : phase = .unclosed := by
    by_contra closed
    obtain ⟨row, member, same⟩ := inPhase.stored closed
    exact fresh (List.mem_map.mpr ⟨row, member, same⟩)
  exact unclosed ▸ inPhase

end

theorem putDown {tokens : Multiset (String × ClosePhase)} {tradeIds : List String}
    (owned : ClosesOwned world (tokens + rest))
    (settled : AllSettled ClosePhase.Settled tradeIds tokens)
    (held : next.held = world.held.diff tradeIds) (trades : next.trades = world.trades)
    (saves : next.saves = world.saves) (ledger : next.ledger = world.ledger) :
    ClosesOwned next rest := by
  refine ⟨?_, trades ▸ owned.keys, saves ▸ owned.closes, saves ▸ owned.saves⟩
  rw [held]
  exact (owned.custody.putDown settled).imp fun _ _ inPhase =>
    inPhase.congr trades saves (by rw [ledger])

end ClosesOwned

end Steps

/-! ### Operations -/

/-- The operation records the final sale of a trade. -/
def StrategyOp.sells : StrategyOp → Prop
  | .recordExecution entry => entry.kind = .finalExit
  | _ => False

/-- An operation that neither saves, nor takes, nor puts down a trade, and sells none. -/
structure KeepsCloses (op : StrategyOp) : Prop where
  saves : ¬op.saves
  held : ¬op.movesHeld
  sells : ¬op.sells

section Operations

variable {world next : StrategyWorld} {op : StrategyOp} {choice : StrategyAnswer}
  {reply : Except Raised (StrategyReply op)} {credit : Multiset (String × ClosePhase)}

theorem finalSales_answer (keeps : ¬op.sells) (answered : world.answer op choice = some (reply, next))
    (tradeId : String) : finalSales next.ledger tradeId = finalSales world.ledger tradeId := by
  by_cases records : op.records
  · cases op with
    | recordExecution entry =>
      obtain ⟨_, rfl | rfl⟩ := recordExecution_cases answered
      · exact finalSales_append_other fun both => keeps both.2
      · rfl
    | _ => exact records.elim
  · rw [(answer_frame answered).ledger records]

theorem ClosesOwned.answer (owned : ClosesOwned world credit) (keeps : KeepsCloses op)
    (answered : world.answer op choice = some (reply, next)) : ClosesOwned next credit := by
  have frame := answer_frame answered
  have trades := frame.trades keeps.saves
  have saves := frame.saves keeps.saves
  have held := frame.held keeps.held
  refine ⟨held ▸ owned.custody.imp fun tradeId _ inPhase => ?_, trades ▸ owned.keys,
    saves ▸ owned.closes, saves ▸ owned.saves⟩
  exact inPhase.congr trades saves (finalSales_answer keeps.sells answered tradeId)

abbrev AnswersClose := Answers strategySystem closesUndisturbed closesDiscipline

abbrev OwnsClose {Result : Type} :=
  @Owns _ _ _ _ _ _ _ _ _ strategySystem closesUndisturbed closesDiscipline Result

variable {seen : StrategyWorld}

theorem closes_quiet (keeps : KeepsCloses op) :
    AnswersClose op credit seen (leaving credit) :=
  fun _ _ _ _ _ _ owned _ answered => ⟨credit, trivial, owned.answer keeps answered, rfl⟩

theorem closes_saveCopy {saved : ActiveTrade} {purpose : SavePurpose} {phase : ClosePhase}
    (fits : phase.Fits saved) (kind : purpose = .managed ∨ purpose = .reference) :
    AnswersClose (.saveTrade saved purpose)
      {(saved.tradeId, phase)} seen fun _ left _ => left = {(saved.tradeId, phase)} := by
  refine answers_committing (fun world rest _ owned _ => ?_) fun _ _ => ⟨trivial, rfl⟩
  refine ⟨_, trivial, ?_, rfl⟩
  rcases kind with rfl | rfl
  · exact ClosesOwned.saveCopy owned fits rfl rfl rfl rfl
  · exact ClosesOwned.saveCopy owned fits rfl rfl rfl rfl

theorem closes_saveUnfilled {saved : ActiveTrade} (closed : saved.state = .closed) :
    AnswersClose (.saveTrade saved .managed) {(saved.tradeId, .unclosed)} seen fun _ left _ =>
        ∃ phase : ClosePhase, phase.Settled ∧ left = {(saved.tradeId, phase)} := by
  intro world rest choice reply next _ owned _ answered
  rcases committing_cases answered with ⟨_, rfl⟩ | ⟨_, rfl⟩
  · have noClose : (ClosePhase.done saved.settlement).Settled → false = true → saved.mode = .live :=
      fun _ => nofun
    exact ⟨_, trivial, ClosesOwned.saveClosed owned closed rfl noClose rfl rfl rfl rfl,
      .done saved.settlement, .done _, rfl⟩
  · exact ⟨_, trivial, owned, .unclosed, .unclosed, rfl⟩

/-- What the close of a trade leaves to do: a live trade is sold at the broker. -/
def ClosePhase.afterClose (closed : ActiveTrade) : ClosePhase :=
  if closed.mode = .live then .done closed.settlement else .closed closed.settlement

theorem closes_saveClosed {closed : ActiveTrade} (isClosed : closed.state = .closed) :
    AnswersClose (.saveTrade closed .closing)
      {(closed.tradeId, .unclosed)} seen fun reply left _ => match reply with
        | .ok _ => left = {(closed.tradeId, .afterClose closed)}
        | .error _ => left = {(closed.tradeId, .unclosed)} := by
  refine answers_committing (fun world rest _ owned _ => ?_) fun _ _ => ⟨trivial, rfl⟩
  refine ⟨_, trivial, ClosesOwned.saveClosed owned isClosed ?_ (fun settled _ => ?_) rfl rfl rfl
    rfl, rfl⟩
  · unfold ClosePhase.afterClose
    split <;> rfl
  · by_contra notLive
    exact settled closed.settlement (if_neg notLive)

theorem closes_logClose {closed : ActiveTrade} : AnswersClose (.logClose closed) credit seen
      fun reply left _ => left = credit ∧ ∀ error, reply = .error error → closed.mode = .live := by
  intro world rest choice reply next _ owned met answered
  have keeps : KeepsCloses (.logClose closed) := ⟨id, id, id⟩
  refine ⟨credit, trivial, owned.answer keeps answered, rfl, fun error raised => ?_⟩
  subst raised
  cases choice with
  | raises text => exact of_decide_eq_true met
  | _ => cases answered

theorem closes_recordSale {entry : LedgerEntry} (kind : entry.kind = .finalExit)
    {settlement : Option Settlement} : AnswersClose (.recordExecution entry)
      {(entry.tradeId, .closed settlement)} seen fun reply left _ =>
        reply = .ok () ∧ left = {(entry.tradeId, .done settlement)} := by
  intro world rest choice reply next _ owned met answered
  cases choice with
  | ok =>
    cases answered
    exact ⟨_, trivial, ClosesOwned.sell owned kind, rfl, rfl⟩
  | raises text => exact absurd kind (of_decide_eq_true met)
  | _ => cases answered

end Operations

/-! ### The management of a trade in hand -/

structure OpenCopy (tradeId : String) (trade : ActiveTrade) : Prop where
  id : trade.tradeId = tradeId
  isOpen : trade.state ≠ .closed

/-- What management awaits before it closes a trade: it saves open copies of it. -/
def IsUpkeep (tradeId : String) (op : StrategyOp) : Prop :=
  KeepsCloses op ∨ ∃ saved, op = .saveTrade saved .managed ∧ OpenCopy tradeId saved

/-- Nothing is left to do for the trade with an id. -/
def Settles (tradeId : String) (credit : Multiset (String × ClosePhase)) : Prop :=
  ∃ phase : ClosePhase, phase.Settled ∧ credit = {(tradeId, phase)}

/-- Nothing is left to do for the trade with an id, and a copy of it tells what is stored. -/
def SettlesCopy (tradeId : String) (trade : ActiveTrade)
    (credit : Multiset (String × ClosePhase)) : Prop :=
  trade.tradeId = tradeId ∧
    ∃ phase : ClosePhase, phase.Settled ∧ phase.Fits trade ∧ credit = {(tradeId, phase)}

/-- What a task owns of a trade when a part of it returned, with a copy, or failed. -/
def returnsCopy {Result : Type} (tradeId : String) (copy : Result → ActiveTrade)
    (result : Except Raised Result) (left : Multiset (String × ClosePhase))
    (_ : StrategyWorld) : Prop :=
  match result with
  | .ok value => SettlesCopy tradeId (copy value) left
  | .error _ => Settles tradeId left

section Managing

variable {tradeId : String} {trade : ActiveTrade}

theorem OpenCopy.track (copy : OpenCopy tradeId trade) (tracking : Tracking) :
    OpenCopy tradeId (trade.track tracking) := ⟨copy.id, tracking.notClosed⟩

theorem settles_unclosed (tradeId : String) : Settles tradeId {(tradeId, .unclosed)} :=
  ⟨_, .unclosed, rfl⟩

theorem OpenCopy.settles (copy : OpenCopy tradeId trade) :
    SettlesCopy tradeId trade {(tradeId, .unclosed)} :=
  ⟨copy.id, .unclosed, .unclosed, copy.isOpen, rfl⟩

theorem SettlesCopy.settles {credit : Multiset (String × ClosePhase)}
    (settles : SettlesCopy tradeId trade credit) : Settles tradeId credit := by
  obtain ⟨_, phase, settled, _, same⟩ := settles
  exact ⟨phase, settled, same⟩

variable {seen : StrategyWorld}

theorem closes_upkeep {op : StrategyOp} (upkeep : IsUpkeep tradeId op) :
    AnswersClose op {(tradeId, .unclosed)} seen
      fun _ left _ => left = {(tradeId, .unclosed)} := by
  rcases upkeep with keeps | ⟨saved, rfl, copy⟩
  · exact closes_quiet keeps
  · obtain rfl := copy.id
    have fits : ClosePhase.unclosed.Fits saved := copy.isOpen
    exact closes_saveCopy fits (Or.inl rfl)

theorem owns_upkeep {Result : Type} {post : Result → Prop} {task : StrategyTask Result}
    (stays : task.Stays (IsUpkeep tradeId) post) : OwnsClose task {(tradeId, .unclosed)} seen
      fun result left _ =>
        left = {(tradeId, .unclosed)} ∧ ∀ value, result = .ok value → post value :=
  Owns.of_within_yields (fun _ _ upkeep => closes_upkeep upkeep) stays.within stays.yields
    seen

theorem stays_carryOutStep_upkeep (copy : OpenCopy tradeId trade) (step : ManagementStep) :
    (carryOutStep trade step).Stays (IsUpkeep tradeId) (OpenCopy tradeId) := by
  have quiet : ∀ {op}, KeepsCloses op → IsUpkeep tradeId op := Or.inl
  cases step with
  | track tracking => exact copy.track tracking
  | save => exact Stays.perform_bind (Or.inr ⟨trade, rfl, copy⟩) fun _ => copy
  | elsewhere | sell => exact Stays.perform_bind (quiet ⟨id, id, id⟩) fun _ => copy
  | record isPartialExit price quantity reason =>
    refine Stays.perform_bind (quiet ⟨id, id, fun sells => ?_⟩) fun _ => copy
    cases isPartialExit <;> cases sells
  | escalate =>
    refine Stays.perform_bind (quiet ⟨id, id, id⟩) fun object => ?_
    cases object with
    | some object =>
      exact Stays.perform_bind (quiet ⟨id, id, id⟩) fun _ =>
        Stays.perform_bind (quiet ⟨id, id, id⟩) fun _ => copy
    | none => exact Stays.perform_bind (quiet ⟨id, id, id⟩) fun _ => copy

theorem stays_carryOut_upkeep (copy : OpenCopy tradeId trade) (steps : List ManagementStep) :
    (carryOut steps trade).Stays (IsUpkeep tradeId) (OpenCopy tradeId) := by
  induction steps generalizing trade with
  | nil => exact copy
  | cons step rest inductionHypothesis =>
    exact (stays_carryOutStep_upkeep copy step).bind fun _ tracked => inductionHypothesis tracked

theorem owns_afterClose {closed : ActiveTrade} {sale : LedgerEntry}
    (isClosed : closed.state = .closed) (sameTrade : sale.tradeId = closed.tradeId)
    (kind : sale.kind = .finalExit) : OwnsClose (do
      suspendIf (closed.strategy = .trendPullback) (.logClose closed)
      suspendIf (closed.mode ≠ .live) (.recordExecution sale)
      let _ ← suspend .elsewhere
      return closed : StrategyTask ActiveTrade) {(closed.tradeId, .afterClose closed)} seen
      (returnsCopy closed.tradeId id) := by
  have settles : Settles closed.tradeId {(closed.tradeId, .done closed.settlement)} :=
    ⟨_, .done _, rfl⟩
  have copied : SettlesCopy closed.tradeId closed
      {(closed.tradeId, .done closed.settlement)} :=
    ⟨rfl, _, .done _, ⟨isClosed, rfl⟩, rfl⟩
  have ends : ∀ world, OwnsClose (do
      let _ ← suspend .elsewhere
      return closed : StrategyTask ActiveTrade) {(closed.tradeId, .done closed.settlement)} world
      (returnsCopy closed.tradeId id) := by
    intro world
    have quiet : KeepsCloses .elsewhere := ⟨id, id, id⟩
    refine Owns.await (closes_quiet quiet) ?_
    rintro reply left last _ rfl
    cases reply with
    | error error => exact settles
    | ok done => exact copied
  have logged : OwnsClose
      (suspendIf (closed.strategy = .trendPullback) (.logClose closed))
      {(closed.tradeId, .afterClose closed)} seen fun result left _ =>
        left = {(closed.tradeId, .afterClose closed)} ∧
          ∀ error, result = .error error → closed.mode = .live := by
    refine owns_suspendIf (fun _ => Answers.weaken closes_logClose
      fun reply left world _ post => ?_) fun _ => ⟨rfl, nofun⟩
    cases reply with
    | ok done => exact ⟨post.1, nofun⟩
    | error error => exact ⟨post.1, fun _ _ => post.2 error rfl⟩
  refine Owns.call logged ?_
  rintro result left world _ ⟨rfl, fails⟩
  cases result with
  | error error =>
    have live := fails error rfl
    rw [ClosePhase.afterClose, if_pos live]
    exact settles
  | ok done =>
    refine Owns.bind (owns_suspendIf (fun notLive => ?_) fun live => ?_)
    · rw [ClosePhase.afterClose, if_neg notLive, ← sameTrade]
      refine Answers.weaken (closes_recordSale kind) ?_
      rintro reply left last _ ⟨rfl, rfl⟩
      rw [sameTrade]
      exact ends last
    · rw [ClosePhase.afterClose, if_pos (not_not.mp live)]
      exact ends world

theorem owns_closeTrade (copy : OpenCopy tradeId trade) (futuresPrice price : ℚ)
    {reason : Option String} :
    OwnsClose (closeTrade trade futuresPrice price reason) {(tradeId, .unclosed)} seen
      (returnsCopy tradeId id) := by
  obtain rfl := copy.id
  have unclosed := settles_unclosed trade.tradeId
  have closes : KeepsCloses (.closeInMemory trade futuresPrice price reason) := ⟨id, id, id⟩
  have quiet : KeepsCloses .elsewhere := ⟨id, id, id⟩
  refine Owns.await (closes_quiet closes) ?_
  rintro reply left world _ rfl
  cases reply with
  | error error => exact unclosed
  | ok settled =>
    refine Owns.await (closes_quiet quiet) ?_
    rintro reply left world _ rfl
    cases reply with
    | error error => exact unclosed
    | ok done =>
      refine Owns.await (closes_saveClosed rfl) fun reply left world _ saved => ?_
      cases reply with
      | error error => exact saved ▸ unclosed
      | ok done =>
        obtain rfl := saved
        exact owns_afterClose rfl rfl rfl

theorem owns_manage (copy : OpenCopy tradeId trade) :
    OwnsClose (manage trade) {(tradeId, .unclosed)} seen fun result left world =>
        returnsCopy tradeId Prod.fst result left world ∧
          ∀ managed, result = .ok (managed, true) → managed.state ≠ .closed := by
  have unclosed := settles_unclosed tradeId
  have plans : KeepsCloses (.planManagement trade.tradeId) := ⟨id, id, id⟩
  refine Owns.await (closes_quiet plans) ?_
  rintro reply left world _ rfl
  cases reply with
  | error error => exact ⟨unclosed, fun _ same => by cases same⟩
  | ok plan =>
    refine Owns.call (owns_upkeep (stays_carryOut_upkeep copy plan.steps)) ?_
    rintro result left last _ ⟨rfl, yields⟩
    cases result with
    | error error => exact ⟨unclosed, fun _ same => by cases same⟩
    | ok tracked =>
      have tracks := yields tracked rfl
      dsimp only
      split
      · refine ⟨tracks.settles, fun managed same => ?_⟩
        cases same
        exact tracks.isOpen
      · rename_i futuresPrice price reason savedAgain _
        refine Owns.call (owns_closeTrade tracks futuresPrice price)
          fun result left world _ closed => ?_
        cases result with
        | error error => exact ⟨closed, fun _ same => by cases same⟩
        | ok closed' =>
          obtain ⟨rfl, phase, settled, fits, rfl⟩ := closed
          have settles : SettlesCopy closed'.tradeId closed' {(closed'.tradeId, phase)} :=
            ⟨rfl, phase, settled, fits, rfl⟩
          have ends : returnsCopy closed'.tradeId Prod.fst (.ok (closed', false))
              {(closed'.tradeId, phase)} world ∧ ∀ managed,
                (.ok (closed', false) : Except Raised (ActiveTrade × Bool)) = .ok (managed, true) →
                  managed.state ≠ .closed := ⟨settles, fun _ same => by cases same⟩
          refine Owns.bind (owns_suspendIf (fun _ => Answers.weaken
            (closes_saveCopy fits (Or.inl rfl)) fun reply left last _ same => ?_)
            fun _ => ends)
          subst same
          cases reply with
          | ok saved => exact ends
          | error error => exact ⟨settles.settles, fun _ same => by cases same⟩

/-- What is left once the entry order of a trade was looked up. -/
def confirms (tradeId : String) (result : Except Raised (Option ActiveTrade))
    (left : Multiset (String × ClosePhase)) (_ : StrategyWorld) : Prop :=
  match result with
  | .ok (some opened) => OpenCopy tradeId opened ∧ left = {(tradeId, .unclosed)}
  | _ => Settles tradeId left

section

variable (copy : OpenCopy tradeId trade)

include copy

theorem owns_closeUnfilled {status : String} : OwnsClose (do
      let exitTime ← suspend (.closeUnfilledInMemory trade status)
      let _ ← suspend .elsewhere
      let _ ← suspend (.saveTrade (trade.closeUnfilled status exitTime) .managed)
      return none : StrategyTask (Option ActiveTrade)) {(tradeId, .unclosed)} seen
      (confirms tradeId) := by
  obtain rfl := copy.id
  have unclosed := settles_unclosed trade.tradeId
  have quiet : KeepsCloses .elsewhere := ⟨id, id, id⟩
  have closes : KeepsCloses (.closeUnfilledInMemory trade status) := ⟨id, id, id⟩
  refine Owns.await (closes_quiet closes) ?_
  rintro reply left world _ rfl
  cases reply with
  | error error => exact unclosed
  | ok exitTime =>
    refine Owns.await (closes_quiet quiet) ?_
    rintro reply left last _ rfl
    cases reply with
    | error error => exact unclosed
    | ok done =>
      refine Owns.await (closes_saveUnfilled rfl) fun reply left world _ settles => ?_
      cases reply with
      | error | ok => exact settles

theorem owns_open {fill : LedgerEntry} (kind : fill.kind ≠ .finalExit) : OwnsClose (do
      let _ ← suspend (.saveTrade trade .managed)
      let _ ← suspend (.recordExecution fill)
      let _ ← suspend .elsewhere
      return some trade : StrategyTask (Option ActiveTrade)) {(tradeId, .unclosed)} seen
      (confirms tradeId) := by
  have stays : (do
      let _ ← suspend (.saveTrade trade .managed)
      let _ ← suspend (.recordExecution fill)
      let _ ← suspend .elsewhere
      return some trade : StrategyTask (Option ActiveTrade)).Stays (IsUpkeep tradeId)
        fun opened => opened = some trade :=
    Stays.perform_bind (Or.inr ⟨trade, rfl, copy⟩) fun _ =>
      Stays.perform_bind (Or.inl ⟨id, id, kind⟩) fun _ =>
        Stays.perform_bind (Or.inl ⟨id, id, id⟩) fun _ => rfl
  refine Owns.weaken (owns_upkeep stays) ?_
  rintro result left world _ ⟨rfl, yields⟩
  cases result with
  | error error => exact settles_unclosed tradeId
  | ok opened =>
    obtain rfl := yields opened rfl
    exact ⟨copy, rfl⟩

theorem owns_confirmEntry {orderId : String} :
    OwnsClose (confirmEntry trade orderId) {(tradeId, .unclosed)} seen (confirms tradeId) := by
  have unclosed := settles_unclosed tradeId
  have quiet : KeepsCloses .elsewhere := ⟨id, id, id⟩
  have looks : KeepsCloses (.getOrder orderId) := ⟨id, id, id⟩
  refine Owns.await (closes_quiet looks) ?_
  rintro reply left world _ rfl
  cases reply with
  | error error => exact unclosed
  | ok order =>
    cases order with
    | none => exact unclosed
    | some order =>
      have progressed : OpenCopy tradeId
          (if 0 < order.filledQuantity then withEntryFill trade order else trade) := by
        split
        · exact ⟨copy.id, copy.isOpen⟩
        · exact copy
      refine Owns.call (owns_upkeep (stays_suspendIf _ (Or.inr ⟨_, rfl, progressed⟩))) ?_
      rintro result left last _ ⟨rfl, _⟩
      cases result with
      | error error => exact unclosed
      | ok done =>
        dsimp only
        split
        · refine Owns.await (closes_quiet quiet) ?_
          rintro reply left world _ rfl
          cases reply with
          | error | ok => exact unclosed
        · split
          · exact owns_closeUnfilled progressed
          · have opened : OpenCopy tradeId (openedBy
                (if 0 < order.filledQuantity then withEntryFill trade order else trade) order) :=
              ⟨progressed.id, fun same => by cases same⟩
            exact owns_open opened (fun same => by cases same)

theorem owns_evaluateActiveTrade : OwnsClose (evaluateActiveTrade trade)
      {(tradeId, .unclosed)} seen fun _ left _ => Settles tradeId left := by
  have manages : ∀ {managed : ActiveTrade} (world : StrategyWorld), OpenCopy tradeId managed →
      OwnsClose (do
        let _ ← manage managed : StrategyTask Unit) {(tradeId, .unclosed)} world
        fun _ left _ => Settles tradeId left := by
    intro managed world opened
    refine Owns.call (owns_manage opened) fun result left last _ post => ?_
    cases result with
    | ok value => exact post.1.settles
    | error error => exact post.1
  unfold evaluateActiveTrade
  split
  · split
    · have reports : (do
          let _ ← suspend .elsewhere : StrategyTask Unit).Stays (IsUpkeep tradeId) fun _ => True :=
        Stays.perform_bind (Or.inl ⟨id, id, id⟩) fun _ => trivial
      exact Owns.weaken (owns_upkeep reports) fun _ left _ _ post =>
        post.1 ▸ settles_unclosed tradeId
    · rename_i orderId _
      refine Owns.call (owns_confirmEntry copy) fun result left world _ post => ?_
      cases result with
      | error error => exact post
      | ok opened =>
        cases opened with
        | none => exact post
        | some opened =>
          obtain ⟨opened, rfl⟩ := post
          exact manages world opened
  · exact manages seen copy

end

/-- The evaluation of the open trades in hand leaves nothing to do for them: each is evaluated with
its own token, the others aside. -/
theorem owns_evaluateActiveTrades {trades : List ActiveTrade}
    (isOpen : ∀ trade ∈ trades, trade.state ≠ .closed) (seen : StrategyWorld) :
    OwnsClose (evaluateActiveTrades trades)
      (tokensIn .unclosed (trades.map ActiveTrade.tradeId)) seen fun _ left _ =>
        AllSettled ClosePhase.Settled (trades.map ActiveTrade.tradeId) left := by
  induction trades generalizing seen with
  | nil => exact allSettled_nil
  | cons trade rest inductionHypothesis =>
    have copy : OpenCopy trade.tradeId trade := ⟨rfl, isOpen trade List.mem_cons_self⟩
    have others := fun world => inductionHypothesis
      (fun other member => isOpen other (List.mem_cons_of_mem _ member)) world
    rw [List.map_cons, tokensIn_cons]
    refine Owns.call ((owns_evaluateActiveTrade copy).frame _) ?_
    rintro result left world _ ⟨own, rfl, phase, settled, rfl⟩
    cases result with
    | error error => exact .cons settled (allSettled_tokensIn .unclosed _)
    | ok done =>
      rw [add_comm]
      refine Owns.weaken ((others world).frame _) ?_
      rintro result left last _ ⟨left, rfl, all⟩
      rw [add_comm]
      exact .cons settled all

theorem owns_cancelProtectiveStopForExit (copy : OpenCopy tradeId trade) :
    OwnsClose (cancelProtectiveStopForExit trade)
      {(tradeId, .unclosed)} seen fun result left world =>
        returnsCopy tradeId Prod.fst result left world ∧
          ∀ managed, result = .ok (managed, true) → managed.state ≠ .closed := by
  unfold cancelProtectiveStopForExit
  split
  · refine ⟨copy.settles, fun managed same => ?_⟩
    cases same
    exact copy.isOpen
  · exact owns_manage copy

theorem owns_orderExit (copy : OpenCopy tradeId trade) {intent : IntentRequest} {reason : String} :
    OwnsClose (do
      let orderId ← suspend (.createOrderIntent intent)
      let _ ← suspend (.saveTrade { trade with
          exitOrderId := some orderId
          pendingExitReason := some reason
          state := .exitPending } .managed) : StrategyTask Unit) {(tradeId, .unclosed)} seen
      fun _ left _ => Settles tradeId left := by
  have stays : (do
      let orderId ← suspend (.createOrderIntent intent)
      let _ ← suspend (.saveTrade { trade with
          exitOrderId := some orderId
          pendingExitReason := some reason
          state := .exitPending } .managed) : StrategyTask Unit).Stays (IsUpkeep tradeId)
        fun _ => True := by
    refine Stays.perform_bind (Or.inl ⟨id, id, id⟩) fun orderId => ?_
    exact Stays.perform_bind (Or.inr ⟨_, rfl, copy.id, fun same => by cases same⟩) fun _ => trivial
  exact Owns.weaken (owns_upkeep stays) fun _ left _ _ post =>
    post.1 ▸ settles_unclosed tradeId

theorem owns_exitTrade (copy : OpenCopy tradeId trade) {reason : String} :
    OwnsClose (exitTrade trade reason)
      {(tradeId, .unclosed)} seen fun _ left _ => Settles tradeId left := by
  have unclosed := settles_unclosed tradeId
  have closes : ∀ futuresPrice price world, OwnsClose
      (do
        let _ ← closeTrade trade futuresPrice price (some reason) : StrategyTask Unit)
      {(tradeId, .unclosed)} world fun _ left _ => Settles tradeId left := by
    intro futuresPrice price world
    refine Owns.call (owns_closeTrade copy futuresPrice price)
      fun result left last _ post => ?_
    cases result with
    | ok closed => exact post.settles
    | error error => exact post
  have gathers : KeepsCloses .gatherFeatures := ⟨id, id, id⟩
  have quotes : KeepsCloses (.resolveOptionQuote trade.tradeId) := ⟨id, id, id⟩
  have reads : KeepsCloses .readMemory := ⟨id, id, id⟩
  refine Owns.await (closes_quiet gathers) ?_
  rintro reply left world _ rfl
  cases reply with
  | error error => exact unclosed
  | ok market =>
  refine Owns.await (closes_quiet quotes) ?_
  rintro reply left world _ rfl
  cases reply with
  | error error => exact unclosed
  | ok quote =>
  dsimp only
  split
  · refine Owns.await (closes_quiet reads) ?_
    rintro reply left world _ rfl
    cases reply with
    | error error => exact unclosed
    | ok memory =>
    dsimp only
    split
    · exact closes _ _ world
    · refine Owns.call (owns_cancelProtectiveStopForExit copy) ?_
      rintro result left last _ ⟨returned, mayGoOn⟩
      cases result with
      | error error => exact returned
      | ok result =>
      obtain ⟨managed, mayExit⟩ := result
      obtain ⟨rfl, phase, settled, fits, rfl⟩ := returned
      dsimp only
      split
      · rename_i exits
        have isOpen := mayGoOn managed (by rw [exits])
        obtain rfl := ClosePhase.Fits.unclosed fits isOpen
        exact owns_orderExit ⟨rfl, isOpen⟩
      · have keeps : phase.Fits { managed with pendingExitReason := some reason } := fits
        refine Owns.await (closes_saveCopy keeps (Or.inl rfl)) ?_
        rintro reply left world _ rfl
        cases reply with
        | ok | error => exact ⟨phase, settled, rfl⟩
  · split
    · exact closes _ _ world
    · have saves : (do
          let _ ← suspend (.saveTrade trade .managed) : StrategyTask Unit).Stays
            (IsUpkeep tradeId) fun _ => True :=
        Stays.perform_bind (Or.inr ⟨trade, rfl, copy⟩) fun _ => trivial
      exact Owns.weaken (owns_upkeep saves) fun _ left _ _ post => post.1 ▸ unclosed

end Managing

/-! ### Entries and exits -/

/-- What a task owns in each phase. -/
def closesOwn : Phase → Multiset (String × ClosePhase) → Prop
  | .managing active, credit => (∀ trade ∈ active, trade.state ≠ .closed) ∧
      credit = tokensIn .unclosed (active.map ActiveTrade.tradeId)
  | .managed active, credit =>
      AllSettled ClosePhase.Settled (active.map ActiveTrade.tradeId) credit
  | .entered _ trade, credit | .ordered _ trade _, credit | .completed _ trade, credit
  | .failed _ trade, credit => trade.state ≠ .closed ∧ credit = {(trade.tradeId, .unclosed)}
  | .started, credit | .seeking _, credit | .entering _, credit | .finished _, credit => credit = 0

section Entries

variable {credit : Multiset (String × ClosePhase)}

variable {seen : StrategyWorld}

theorem closes_readManaged : AnswersClose (.getActiveTrades .management) 0 seen
      fun reply left _ => match reply with
        | .ok active => closesOwn (.managing active) left
        | .error _ => left = 0 := by
  refine answers_committing (fun world rest _ owned met => ?_) fun _ _ => ⟨trivial, rfl⟩
  rw [zero_add] at owned
  have untaken : ∀ trade ∈ getActiveTrades world.trades, trade.tradeId ∉ world.held :=
    fun trade active => of_decide_eq_true (List.all_eq_true.mp met trade active)
  refine ⟨_, trivial, ClosesOwned.take owned (nodup_getActiveTrades owned.keys)
    (fun tradeId member => ?_) (fun tradeId member => ?_) rfl rfl rfl rfl,
    fun trade active => (mem_getActiveTrades.mp active).2, rfl⟩
  · obtain ⟨trade, active, rfl⟩ := List.mem_map.mp member
    exact untaken trade active
  · obtain ⟨trade, active, rfl⟩ := List.mem_map.mp member
    exact owned.unclosed_of_open active (untaken trade active)

theorem closes_readExit {tradeId : String} : AnswersClose (.getActiveTrades (.exit tradeId)) 0
      seen fun reply left _ => ∀ active target, reply = .ok active →
        active.find? (fun trade => decide (trade.tradeId = tradeId)) = some target →
          OpenCopy tradeId target ∧ left = {(tradeId, .unclosed)} := by
  intro world rest choice reply next _ owned met answered
  rw [zero_add] at owned
  rcases committing_cases answered with ⟨rfl, rfl⟩ | ⟨⟨error, rfl⟩, rfl⟩
  · by_cases listed : tradeId ∈ (getActiveTrades world.trades).map ActiveTrade.tradeId
    · have untaken : tradeId ∉ world.held := of_decide_eq_true met
      have unclosed : InPhase world tradeId .unclosed := by
        obtain ⟨trade, active, rfl⟩ := List.mem_map.mp listed
        exact owned.unclosed_of_open active untaken
      have held : (world.afterRead (.exit tradeId)).held = [tradeId] ++ world.held := by
        rw [afterRead, if_pos listed]
        rfl
      have frame := Frame.of_afterRead world (.exit tradeId)
      have taken := ClosesOwned.take owned (List.nodup_singleton tradeId)
        (fun other member => List.mem_singleton.mp member ▸ untaken)
        (fun other member => List.mem_singleton.mp member ▸ unclosed) held (frame.trades id)
        (frame.saves id) (frame.ledger id)
      refine ⟨_, trivial, taken, fun active target same found => ⟨?_, rfl⟩⟩
      cases same
      have member := mem_getActiveTrades.mp (List.mem_of_find?_eq_some found)
      have named := List.find?_some found
      exact ⟨of_decide_eq_true named, member.2⟩
    · rw [afterRead, if_neg listed]
      refine ⟨0, trivial, (zero_add rest).symm ▸ owned, fun active target same found => ?_⟩
      cases same
      have named := List.find?_some found
      exact absurd (List.mem_map.mpr
        ⟨target, List.mem_of_find?_eq_some found, of_decide_eq_true named⟩) listed
  · exact ⟨0, trivial, (zero_add rest).symm ▸ owned, fun _ _ same => by cases same⟩

theorem closes_enter {trade : ActiveTrade} (isOpen : trade.state ≠ .closed) {path : EntryPath} :
    AnswersClose (.saveTrade trade path.purpose) 0 seen
      fun reply left _ => match reply with
        | .ok _ => left = {(trade.tradeId, .unclosed)}
        | .error _ => left = 0 := by
  refine answers_committing (fun world rest _ owned met => ?_) fun _ _ => ⟨trivial, rfl⟩
  rw [zero_add] at owned
  have fresh : trade.tradeId ∉ world.trades.map ActiveTrade.tradeId ∧
      trade.tradeId ∉ world.held := by
    cases path with
    | cycle | forced => exact of_decide_eq_true met
  have taken : ClosesOwned { world with held := trade.tradeId :: world.held }
      ({(trade.tradeId, .unclosed)} + rest) :=
    ClosesOwned.take owned (List.nodup_singleton trade.tradeId)
      (fun other member => List.mem_singleton.mp member ▸ fresh.2)
      (fun other member => List.mem_singleton.mp member ▸
        owned.unclosed_of_fresh fresh.1 fresh.2) rfl rfl rfl rfl
  have fits : ClosePhase.unclosed.Fits trade := isOpen
  refine ⟨_, trivial, ?_, rfl⟩
  cases path with
  | cycle | forced => exact taken.saveCopy fits rfl rfl rfl rfl

theorem closes_putDown {tradeIds : List String}
    (settled : AllSettled ClosePhase.Settled tradeIds credit) :
    AnswersClose (.putDown tradeIds) credit seen (leaving 0) := by
  intro world rest choice reply next _ owned _ answered
  obtain rfl := always_next answered
  refine ⟨0, trivial, ?_, rfl⟩
  rw [zero_add]
  exact ClosesOwned.putDown owned settled rfl rfl rfl rfl

theorem closes_endEntry {tradeId : String} :
    AnswersClose (.endEntry tradeId) {(tradeId, .unclosed)} seen (leaving 0) := by
  intro world rest choice reply next _ owned _ answered
  obtain rfl := always_next answered
  refine ⟨0, trivial, ?_, rfl⟩
  rw [zero_add]
  refine ClosesOwned.putDown owned (allSettled_singleton tradeId .unclosed) ?_ rfl rfl rfl
  rw [List.diff_cons, List.diff_nil]

theorem keepsCloses_of_isIncidental {op : StrategyOp} (incidental : IsIncidental op) :
    KeepsCloses op := by
  cases op with
  | _ => first | exact ⟨id, id, id⟩ | exact incidental.elim

theorem keepsCloses_of_isDispatch {trade : ActiveTrade} {op : StrategyOp}
    (dispatch : IsDispatch trade op) : KeepsCloses op := by
  cases op with
  | recordExecution entry =>
    refine ⟨id, id, fun sells => ?_⟩
    have entered : entry.kind = .entry := dispatch.2
    rw [show entry.kind = .finalExit from sells] at entered
    cases entered
  | logEntry | appendActiveTrade => exact ⟨id, id, id⟩
  | _ => exact dispatch.elim

theorem keepsCloses_of_isControl {op : StrategyOp} (control : IsControl op) :
    KeepsCloses op := by
  cases op with
  | getActiveTrades reader =>
    obtain rfl : reader = .looking := control
    exact ⟨id, fun moves => moves.2 rfl, id⟩
  | _ => first | exact ⟨id, id, id⟩ | exact control.elim

def closesRules : EntryRules closesUndisturbed closesDiscipline where
  owns := closesOwn
  knows _ _ := True
  gated _ _ := True
  lists _ _ := True
  incidental seen kind := closes_quiet (keepsCloses_of_isIncidental kind)
  mayEnd := by
    intro phase path credit owned mayEnd
    cases mayEnd with
    | managed => exact AllSettled.none owned
    | started | seeking | entering | finished => exact owned
  acquire seen := Answers.weaken (closes_quiet ⟨id, id, id⟩) fun _ _ _ _ same _ _ => same
  readManaged := by
    rintro _ seen rfl
    exact closes_readManaged
  manage := by
    rintro _ active seen ⟨isOpen, rfl⟩
    have caches : KeepsCloses (.cacheActiveTrades active) := ⟨id, id, id⟩
    refine Owns.await (closes_quiet caches) ?_
    rintro reply left world _ rfl
    cases reply with
    | ok cached => exact owns_evaluateActiveTrades isOpen world
    | error error => exact allSettled_tokensIn .unclosed _
  putDown seen owned := Answers.weaken (closes_putDown owned)
    fun _ _ _ _ none => none ▸ allSettled_nil
  readRemaining := by
    intro credit seen owned
    obtain rfl := AllSettled.none owned
    have reads : KeepsCloses (.getActiveTrades .entry) := ⟨id, fun moves => moves.1 rfl, id⟩
    refine Answers.weaken (closes_quiet reads) fun reply left world _ same => ?_
    cases reply with
    | ok remaining => exact same
    | error error => exact same
  gate := by
    rintro _ remaining feedHealthy seen rfl
    exact Answers.weaken (closes_quiet ⟨id, id, id⟩) fun _ _ _ _ same =>
      ⟨same, fun _ _ _ _ => ⟨same, trivial⟩⟩
  list seen _ := Answers.weaken (closes_quiet ⟨id, id, id⟩)
    fun _ _ _ _ same => ⟨same, fun _ _ => trivial⟩
  read seen _ := Answers.weaken (closes_quiet ⟨id, id, id⟩)
    fun _ _ _ _ same => ⟨same, fun _ _ => trivial⟩
  enter := by
    rintro _ path trade seen rfl evidence
    refine Answers.weaken (closes_enter evidence.isOpen) fun reply left world _ entered => ?_
    cases reply with
    | ok saved => exact ⟨evidence.isOpen, entered⟩
    | error error => exact entered
  dispatch := by
    intro credit path trade op seen owned kind
    refine Answers.weaken (closes_quiet (keepsCloses_of_isDispatch kind)) ?_
    rintro reply left world _ rfl
    cases reply with
    | ok value => exact owned
    | error error => exact owned
  order := by
    intro credit path trade intent seen owned _ _ _
    refine Answers.weaken (closes_quiet ⟨id, id, id⟩) ?_
    rintro reply left world _ rfl
    cases reply with
    | ok orderId => exact owned
    | error error => exact owned
  refer := by
    rintro _ path trade orderId seen ⟨isOpen, rfl⟩
    have fits : ClosePhase.unclosed.Fits
        { trade with entryOrderId := some orderId, state := .entryPending } :=
      fun same => by cases same
    refine Answers.weaken (closes_saveCopy fits (Or.inr rfl)) fun reply left world _ same => ?_
    cases reply with
    | ok saved => exact ⟨isOpen, same⟩
    | error error => exact ⟨isOpen, same⟩
  simulated owned _ := owned
  endEntry := by
    intro credit path trade seen owned
    obtain ⟨_, rfl⟩ : trade.state ≠ .closed ∧ credit = {(trade.tradeId, .unclosed)} :=
      owned.elim id id
    exact closes_endEntry
  release seen _ := Answers.weaken (closes_quiet ⟨id, id, id⟩) fun _ _ _ _ _ => trivial
  beginForced seen :=
    Answers.weaken (closes_quiet ⟨id, id, id⟩) fun _ _ _ _ same _ _ => same
  endForced seen _ := Answers.weaken (closes_quiet ⟨id, id, id⟩) fun _ _ _ _ _ => trivial

theorem closes_manualExitTrade (tradeId reason : String) :
    OwnsClose (manualExitTrade tradeId reason) 0 seen
      fun _ _ _ => True := by
  refine Owns.await closes_readExit fun reply left world _ read => ?_
  cases reply with
  | error error => trivial
  | ok active =>
    dsimp only
    split
    · refine Owns.weaken (Owns.of_within world (fun op next _ keeps => closes_quiet keeps)
        ((within_perform ⟨id, id, id⟩).bind fun _ => trivial)) fun _ _ _ _ _ => trivial
    · rename_i target found
      obtain ⟨copy, rfl⟩ := read active target rfl found
      refine owns_finallyDo (Owns.weaken (owns_exitTrade copy) ?_)
      rintro result left last _ ⟨phase, settled, rfl⟩
      exact Answers.weaken (closes_putDown (copy.id ▸ allSettled_singleton _ settled))
        fun _ _ _ _ _ => trivial

theorem closes_sound : Sound strategySystem closesUndisturbed closesDiscipline := by
  refine closesRules.sound (fun world tradeId reason _ => closes_manualExitTrade tradeId reason)
    (fun op world control => closes_quiet (keepsCloses_of_isControl control))
    fun world total owned recorded => ?_
  refine ⟨.none fun tradeId => ?_, owned.keys, owned.closes, owned.saves⟩
  obtain ⟨phase, inPhase⟩ := owned.custody.exists_phase tradeId
  obtain ⟨phase, settled, settles⟩ := inPhase.settle recorded
  exact ⟨phase, settled, settles.congr rfl rfl rfl⟩

end Entries

/-! ### Every run -/

theorem ClosesOwned.singleClose {world : StrategyWorld} {credit : Multiset (String × ClosePhase)}
    (owned : ClosesOwned world credit) : SingleClose world := by
  refine ⟨owned.saves, fun tradeId => ?_, fun save member closing notLive untaken => ?_⟩
  · obtain ⟨phase, inPhase⟩ := owned.custody.exists_phase tradeId
    exact inPhase.soldOnce
  · obtain ⟨phase, settled, inPhase⟩ := owned.custody.free save.trade.tradeId untaken
    exact inPhase.sold settled save member rfl closing notLive

theorem settles_firstStart {stored : StrategyWorld}
    (keys : (stored.trades.map ActiveTrade.tradeId).Nodup) (tradeId : String) :
    ∃ phase : ClosePhase, phase.Settled ∧ InPhase stored.firstStart tradeId phase := by
  have noSaves : ∀ save ∈ stored.firstStart.saves, False := fun _ member =>
    absurd member List.not_mem_nil
  by_cases closed : ∃ row ∈ stored.trades, row.tradeId = tradeId ∧ row.state = .closed
  · obtain ⟨row, member, rfl, closed⟩ := closed
    refine ⟨.done none, .done none, fun other found same => ?_, fun _ => ⟨row, member, rfl⟩,
      fun save member => (noSaves save member).elim, fun _ => rfl, Nat.zero_le 1,
      fun _ save member => (noSaves save member).elim⟩
    obtain rfl := List.inj_on_of_nodup_map keys found member same
    exact ⟨fun _ => (by rintro ⟨⟩), fun _ => closed⟩
  · refine ⟨.unclosed, .unclosed, fun row member same => ?_, fun other => absurd rfl other,
      fun save member => (noSaves save member).elim, fun _ => rfl, Nat.zero_le 1,
      fun _ save member => (noSaves save member).elim⟩
    exact ⟨fun isClosed => absurd ⟨row, member, same, isClosed⟩ closed, fun other => absurd rfl other⟩

/-- From the first start on, every trade is closed once and stays closed, as long as nobody reads an
open trade that another task has in hand. -/
theorem single_close (stored : StrategyWorld) (keys : (stored.trades.map ActiveTrade.tradeId).Nodup)
    {last : Config StrategyOp StrategyReply Raised StrategyWorld}
    (reaches : strategySystem.Reaches closesUndisturbed ⟨stored.firstStart, []⟩ last) :
    SingleClose last.world := by
  have first : ClosesOwned stored.firstStart 0 :=
    ⟨.none (settles_firstStart keys), keys, fun _ member => absurd member List.not_mem_nil,
      List.Pairwise.nil⟩
  obtain ⟨credits, owned, _⟩ := (owned_idle first).reaches closes_sound reaches
  exact owned.singleClose

/-- A simulated trade: one lot of a call, bought at 100. -/
def paperTrade : ActiveTrade where
  tradeId := "TRD-1"
  mode := .paper
  strategy := .volatilityBreakout
  direction := .bullish
  optionType := .call
  contractSymbol := "NIFTY-25000-CE"
  contractInstrumentId := "INST-NIFTY-25000-CE"
  expiry := "2026-01-01"
  strike := 25000
  quantity := 75
  entryTime := 0
  entryOptionPrice := 100
  entrySpotPrice := 25000
  initialRPoints := 20
  contractCaptured := true
  initialQuantity := some 75

/-- A manual exit that has read its trade sells it at a bid, and puts it down. -/
def exitAt (task : Nat) (bid : ℚ) : List (Event StrategyAnswer StrategyStart Empty) :=
  [.resume task (.market openMarket), .resume task (.quote ⟨"VALID", some bid⟩),
    .resume task .ok, .resume task (.time 1), .resume task .ok, .resume task .ok,
    .resume task .ok, .resume task .ok, .resume task .ok]

/-- What a run that ends shows of the closes: what each close made, and how often the trade is
sold. -/
def closesShown (config : Config StrategyOp StrategyReply Raised StrategyWorld) :
    List (Option ℚ) × Nat :=
  ((config.world.saves.filter SaveRecord.closing).map fun save =>
      save.trade.settlement.map Settlement.grossPnl,
    finalSales config.world.ledger paperTrade.tradeId)

/-- A trade is exited, and a second exit finds it closed. -/
theorem single_close_exited :
    ∃ last, strategySystem.Reaches closesUndisturbed
      ⟨(storedWorld {} [paperTrade]).firstStart, []⟩ last ∧ closesShown last = ([some 750], 1) ∧
        SingleClose last.world := by
  have runs : (strategySystem.run closesUndisturbed ⟨(storedWorld {} [paperTrade]).firstStart, []⟩
      ([.start (.manualExit "TRD-1" "MANUAL_UI_EXIT"), .resume 0 .ok] ++ exitAt 0 110 ++
        [.start (.manualExit "TRD-1" "MANUAL_UI_EXIT"), .resume 1 .ok, .resume 1 .ok])).map
          closesShown = some ([some 750], 1) := by
    decide +kernel
  obtain ⟨last, reaches, shown⟩ := System.reaches_of_map runs
  exact ⟨last, reaches, shown,
    single_close (storedWorld {} [paperTrade]) (List.nodup_singleton _) reaches⟩

/-- Two manual exits read the open trade before either closes it: the trade is closed twice, with
different results, and sold twice. -/
theorem trade_closed_twice :
    ∃ last, strategySystem.Reaches Condition.unrestricted
      ⟨(storedWorld {} [paperTrade]).firstStart, []⟩ last ∧
        closesShown last = ([some 750, some (-750)], 2) ∧ ¬SingleClose last.world := by
  have runs : (strategySystem.run Condition.unrestricted
      ⟨(storedWorld {} [paperTrade]).firstStart, []⟩
      ([.start (.manualExit "TRD-1" "MANUAL_UI_EXIT"), .start (.manualExit "TRD-1" "MANUAL_UI_EXIT"),
        .resume 0 .ok, .resume 1 .ok] ++ exitAt 0 110 ++ exitAt 1 90)).map closesShown =
          some ([some 750, some (-750)], 2) := by
    decide +kernel
  obtain ⟨last, reaches, shown⟩ := System.reaches_of_map runs
  refine ⟨last, reaches, shown, fun single => ?_⟩
  have sales : finalSales last.world.ledger paperTrade.tradeId = 2 := congrArg Prod.snd shown
  have once := single.soldOnce paperTrade.tradeId
  rw [sales] at once
  exact absurd once (by decide)

end BreezeTrading
