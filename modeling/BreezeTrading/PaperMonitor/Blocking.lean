/-
This file proves when a finished observation of the Strategy D paper monitor stops blocking later
signals. A row is managed until its underlying lifecycle resolves, but suppresses signals while
its paper position counts as open. The two agree where each row is settled in the observation that
resolves it; a row left waiting for its exit quote is never managed again.
-/

import BreezeTrading.PaperMonitor.Service
import BreezeTrading.Lib.Run

namespace BreezeTrading

open Run

namespace PaperMonitor

/-! ### What is claimed of a run -/

/-- The monitor, with the observations it has made. -/
structure Watch where
  monitor : Monitor
  observed : List Observation

def Watch.step (config : MonitorConfig) (watch : Watch) (op : MonitorOp) : Watch :=
  { monitor := PaperMonitor.step config watch.monitor op
    observed :=
      match op with
      | .observe view => view :: watch.observed
      | .restart => watch.observed }

/-- An observation at which a resolved row has a timely valid quote, or its exit lies more than two
minutes back. -/
def Due (view : Observation) (row : PaperRow) : Prop :=
  ∃ exit, row.underlyingExitTime = some exit ∧ (tooLate view.now exit = true ∨
    ∃ data quote, view.market = some data ∧
      (data.rows row.signal.signalId).quote row view.now = .ok quote ∧ timely quote exit = true)

/-- A resolved row no longer counts as open after the first observation at which it is due. -/
def Settled (watch : Watch) : Prop :=
  ∀ row ∈ watch.monitor.runtime.tracked, row.resolved = true →
    (∃ view ∈ watch.observed, Due view row) → row.blocks = false

/-- A row whose paper entry was skipped never becomes a position. -/
def SkippedStays (watch : Watch) : Prop :=
  ∀ row ∈ watch.monitor.runtime.tracked, row.enteredAs = .skipped →
    row.status ≠ .opened ∧ row.status ≠ .exitQuotePending ∧ row.status ≠ .closed

/-- A fresh signal is suppressed as overlapping only while the underlying position of some row is
open. -/
def OverlapsOnlyOpen (config : MonitorConfig) (watch : Watch) : MonitorOp → Prop
  | .observe view =>
      (observe config watch.monitor view).2.suppressed ≠ [] →
        ∃ row ∈ (observe config watch.monitor view).1.runtime.tracked,
          row.blocks = true ∧ row.resolved = false
  | .restart => True

/-- A finished observation never blocks later signals: the three hold after a step. -/
def NeverBlocks (config : MonitorConfig) (watch : Watch) (op : MonitorOp) : Prop :=
  Settled (watch.step config op) ∧ SkippedStays (watch.step config op) ∧
    OverlapsOnlyOpen config watch op

/-! ### The condition -/

/-- The partial exit of the row has not been decided. -/
def partialPending (row : PaperRow) : Prop :=
  row.partialStatus = .notReached ∨ row.partialStatus = .t1QuotePending

/-- The quote fills the partial exit of the row. -/
def FillsT1 (config : MonitorConfig) (row : PaperRow) (lifecycle : Lifecycle)
    (quote : PaperQuote) : Prop :=
  partialPending row ∧ 1 ≤ scaleOutLots row.lots ∧ 0 < sellFill config quote ∧
    lifecycle.scaleOutTime.any (timely quote) = true

/-- The partial exit of the row is, or is now, given up for want of a quote. -/
def MissesT1 (config : MonitorConfig) (row : PaperRow) (lifecycle : Lifecycle)
    (quote : PaperQuote) (now : Int) : Prop :=
  2 ≤ row.lots ∧ (row.partialStatus = .incompleteT1Quote ∨ partialPending row ∧
    lifecycle.scaleOutTime.any (fun scaleTime =>
      if timely quote scaleTime then decide (sellFill config quote ≤ 0)
      else tooLate now scaleTime) = true)

/-- An observation settles a row whose lifecycle it resolves. A position is settled by a timely
quote, by the end of the time for one, or by a missed partial exit, if the ledger row of the
partial exit is written; a skipped entry only by the end of the time. -/
def Settles (config : MonitorConfig) (row : PaperRow) (view : RowView) (now : Int)
    (lifecycle : Lifecycle) : Prop :=
  match view.quote row now with
  | .error _ => row.status = .skipped
  | .ok quote =>
      if row.status = .skipped then
        timely quote lifecycle.exitTime = false ∧ tooLate now lifecycle.exitTime = true
      else
        (FillsT1 config row lifecycle quote → view.partialWritten = .ok ()) ∧
          (MissesT1 config row lifecycle quote now ∨ timely quote lifecycle.exitTime = true ∨
            tooLate now lifecycle.exitTime = true)

/-- The rows an observation comes to manage. -/
def managedRows (config : MonitorConfig) (data : MarketData) (now : Int) :
    List PaperRow → List PaperRow
  | [] => []
  | row :: rest =>
      if row.resolved then managedRows config data now rest
      else row ::
        match (manageOpenTrade config data now row).2 with
        | .ok () => managedRows config data now rest
        | .error _ => []

/-- If the replay of the row comes to the end of its lifecycle, the observation settles it. -/
def SettlesIfResolved (config : MonitorConfig) (row : PaperRow) (view : RowView) (now : Int) :
    Prop :=
  match view.lifecycle with
  | some (.ok lifecycle) => lifecycle.resolved = true → Settles config row view now lifecycle
  | _ => True

/-- Each row that an observation manages, and whose lifecycle has resolved, is settled by it. -/
def Admitted (config : MonitorConfig) (monitor : Monitor) : MonitorOp → Prop
  | .observe view =>
      match view.market with
      | none => True
      | some data =>
          ∀ row ∈ managedRows config data view.now
              (restoreRuntime monitor view.restored).runtime.tracked,
            row.signal.riskPoints ≠ 0 →
              SettlesIfResolved config row (data.rows row.signal.signalId) view.now
  | .restart => True

section Decidable

variable (config : MonitorConfig) (row : PaperRow) (view : RowView) (now : Int)

instance : Decidable (partialPending row) := inferInstanceAs (Decidable (_ ∨ _))

instance (lifecycle : Lifecycle) (quote : PaperQuote) :
    Decidable (FillsT1 config row lifecycle quote) := inferInstanceAs (Decidable (_ ∧ _ ∧ _ ∧ _))

instance (lifecycle : Lifecycle) (quote : PaperQuote) :
    Decidable (MissesT1 config row lifecycle quote now) :=
  inferInstanceAs (Decidable (_ ∧ (_ ∨ _ ∧ _)))

instance (lifecycle : Lifecycle) : Decidable (Settles config row view now lifecycle) :=
  match read : view.quote row now with
  | .error _ => decidable_of_iff (row.status = .skipped) (by rw [Settles, read])
  | .ok quote =>
      decidable_of_iff
        (if row.status = .skipped then
          timely quote lifecycle.exitTime = false ∧ tooLate now lifecycle.exitTime = true
        else
          (FillsT1 config row lifecycle quote → view.partialWritten = .ok ()) ∧
            (MissesT1 config row lifecycle quote now ∨ timely quote lifecycle.exitTime = true ∨
              tooLate now lifecycle.exitTime = true))
        (by rw [Settles, read])

instance : Decidable (SettlesIfResolved config row view now) :=
  match replayed : view.lifecycle with
  | some (.ok lifecycle) =>
      decidable_of_iff (lifecycle.resolved = true → Settles config row view now lifecycle)
        (by rw [SettlesIfResolved, replayed])
  | some (.error _) => decidable_of_iff True (by rw [SettlesIfResolved, replayed])
  | none => decidable_of_iff True (by rw [SettlesIfResolved, replayed])

instance (monitor : Monitor) : ∀ op, Decidable (Admitted config monitor op)
  | .observe view =>
      match market : view.market with
      | none => decidable_of_iff True (by rw [Admitted, market])
      | some data =>
          decidable_of_iff
            (∀ row ∈ managedRows config data view.now
                (restoreRuntime monitor view.restored).runtime.tracked,
              row.signal.riskPoints ≠ 0 →
                SettlesIfResolved config row (data.rows row.signal.signalId) view.now)
            (by rw [Admitted, market])
  | .restart => inferInstanceAs (Decidable True)

end Decidable

/-! ### The invariant of a row -/

/-- A resolved row is not open, an unresolved one has the status it was entered with, and a skipped
entry has not become a position. -/
structure PaperRow.Sound (row : PaperRow) : Prop where
  released : row.resolved = true → row.blocks = false
  untouched : row.resolved = false → row.status = row.enteredAs
  skipped : row.enteredAs = .skipped →
    row.status ≠ .opened ∧ row.status ≠ .exitQuotePending ∧ row.status ≠ .closed

theorem PaperRow.Sound.congr {row other : PaperRow} (sound : row.Sound)
    (status : other.status = row.status) (enteredAs : other.enteredAs = row.enteredAs)
    (reason : other.underlyingExitReason = row.underlyingExitReason) : other.Sound := by
  have resolved : other.resolved = row.resolved := congrArg Option.isSome reason
  have blocks : other.blocks = row.blocks := by
    unfold PaperRow.blocks
    rw [status]
  refine ⟨?_, ?_, ?_⟩
  · rw [resolved, blocks]
    exact sound.released
  · rw [resolved, status, enteredAs]
    exact sound.untouched
  · rw [status, enteredAs]
    exact sound.skipped

section Partial

variable (config : MonitorConfig) (row : PaperRow) (lifecycle : Lifecycle) (quote : PaperQuote)
  (now : Int) (written : Except Raised Unit)

theorem applyPartialIfDue_keeps :
    let after := (applyPartialIfDue config row lifecycle quote now written).1
    after.status = row.status ∧ after.enteredAs = row.enteredAs ∧ after.lots = row.lots ∧
      after.underlyingExitReason = row.underlyingExitReason := by
  unfold applyPartialIfDue fillPartial
  split
  · exact ⟨rfl, rfl, rfl, rfl⟩
  · split
    · exact ⟨rfl, rfl, rfl, rfl⟩
    · split
      · exact ⟨rfl, rfl, rfl, rfl⟩
      · split
        · exact ⟨rfl, rfl, rfl, rfl⟩
        · split <;> exact ⟨rfl, rfl, rfl, rfl⟩

theorem one_le_scaleOutLots {lots : Int} (two : 2 ≤ lots) : 1 ≤ scaleOutLots lots := by
  unfold scaleOutLots
  omega

theorem applyPartialIfDue_ok (writes : FillsT1 config row lifecycle quote → written = .ok ()) :
    (applyPartialIfDue config row lifecycle quote now written).2 = .ok () := by
  unfold applyPartialIfDue
  split
  · rfl
  · rename_i scaleTime scaled
    split
    · rfl
    · rename_i undecided
      split
      · rfl
      · rename_i enough
        split
        · rfl
        · rename_i inTime
          split
          · rfl
          · rename_i positive
            refine writes ⟨?_, Int.not_lt.mp enough, not_le.mp positive, ?_⟩
            · unfold partialPending
              tauto
            · rw [scaled]
              simpa using inTime

theorem applyPartialIfDue_missed (misses : MissesT1 config row lifecycle quote now) :
    (applyPartialIfDue config row lifecycle quote now written).1.partialStatus =
      .incompleteT1Quote := by
  obtain ⟨two, missed⟩ := misses
  have enough : ¬ scaleOutLots row.lots < 1 := Int.not_lt.mpr (one_le_scaleOutLots two)
  unfold applyPartialIfDue
  rcases missed with already | ⟨pending, missed⟩
  · split
    · exact already
    · rw [if_pos ⟨by rw [already]; decide, by rw [already]; decide⟩]
      exact already
  · cases scaled : lifecycle.scaleOutTime with
    | none =>
      rw [scaled] at missed
      cases missed
    | some scaleTime =>
      rw [scaled] at missed
      have undecided :
          ¬ (row.partialStatus ≠ .notReached ∧ row.partialStatus ≠ .t1QuotePending) := by
        unfold partialPending at pending
        tauto
      dsimp only
      rw [if_neg undecided, if_neg enough]
      dsimp only [Option.any_some] at missed
      by_cases inTime : timely quote scaleTime = true
      · rw [if_pos inTime] at missed
        rw [if_neg (by simp [inTime]), if_pos (of_decide_eq_true missed)]
      · rw [if_neg inTime] at missed
        rw [if_pos (by simp [inTime])]
        rw [if_pos missed]

end Partial

section Close

variable (config : MonitorConfig) (row : PaperRow) (lifecycle : Lifecycle) (quote : PaperQuote)
  (now : Int) (written : Except Raised Unit)

theorem closeIfResolved_keeps :
    let after := (closeIfResolved config row lifecycle quote now written).1
    after.enteredAs = row.enteredAs ∧ after.underlyingExitReason = row.underlyingExitReason := by
  unfold closeIfResolved closePosition
  split
  · exact ⟨rfl, rfl⟩
  · split
    · exact ⟨rfl, rfl⟩
    · split
      · split <;> exact ⟨rfl, rfl⟩
      · split
        · exact ⟨rfl, rfl⟩
        · split <;> exact ⟨rfl, rfl⟩

theorem closeIfResolved_open (isOpen : lifecycle.resolved = false) :
    closeIfResolved config row lifecycle quote now written = (row, .ok ()) := by
  unfold closeIfResolved
  rw [if_pos (Or.inl (by rw [isOpen]; rfl))]

theorem closeIfResolved_settles (ended : lifecycle.resolved = true)
    (settles : row.partialStatus = .incompleteT1Quote ∧ 2 ≤ row.lots ∨
      timely quote lifecycle.exitTime = true ∨ tooLate now lifecycle.exitTime = true) :
    (closeIfResolved config row lifecycle quote now written).1.blocks = false := by
  unfold closeIfResolved PaperRow.blocks
  split
  · rename_i unchanged
    have closed : row.status = .closed := unchanged.resolve_left (by rw [ended]; decide)
    rw [closed]
    decide
  · split
    · rfl
    · rename_i noPartial
      split
      · rename_i notTimely
        have late : tooLate now lifecycle.exitTime = true :=
          (settles.resolve_left noPartial).resolve_left fun timely => by simp [timely] at notTimely
        rw [if_pos late]
        rfl
      · split
        · rfl
        · split <;> rfl

theorem closeIfResolved_skipped (ended : lifecycle.resolved = true) (skipped : row.status = .skipped)
    (late : timely quote lifecycle.exitTime = false ∧ tooLate now lifecycle.exitTime = true) :
    (closeIfResolved config row lifecycle quote now written).1.status = .incompleteT1Quote ∨
      (closeIfResolved config row lifecycle quote now written).1.status = .incompleteExitQuote := by
  unfold closeIfResolved
  rw [if_neg (by rw [ended, skipped]; decide)]
  split
  · exact Or.inl rfl
  · rw [if_pos (by rw [late.1]; rfl), if_pos late.2]
    exact Or.inr rfl

end Close

/-! ### Management keeps the invariant -/

/-- The statuses a skipped entry can have. -/
def PaperStatus.isNoPosition (status : PaperStatus) : Prop :=
  status = .skipped ∨ status = .incompleteT1Quote ∨ status = .incompleteExitQuote

theorem PaperStatus.isNoPosition.spec {status : PaperStatus} (none : status.isNoPosition) :
    status ≠ .opened ∧ status ≠ .exitQuotePending ∧ status ≠ .closed := by
  rcases none with rfl | rfl | rfl <;> decide

section Manage

variable {config : MonitorConfig} {row : PaperRow} {view : RowView} {now : Int}

theorem settle_keeps (config : MonitorConfig) (row : PaperRow) (view : RowView) (now : Int)
    (lifecycle : Option Lifecycle)
    (isOpen : ∀ replayed, lifecycle = some replayed → replayed.resolved = false) :
    let after := (settle config row lifecycle view now).1
    after.status = row.status ∧ after.enteredAs = row.enteredAs ∧
      after.underlyingExitReason = row.underlyingExitReason := by
  unfold settle
  split
  · exact ⟨rfl, rfl, rfl⟩
  · rename_i quote _
    split
    · exact ⟨rfl, rfl, rfl⟩
    · rename_i replayed
      have kept := applyPartialIfDue_keeps config (quoted row quote) replayed quote now
        view.partialWritten
      split
      · rename_i partialled _ applied
        rw [applied] at kept
        exact ⟨kept.1, kept.2.1, kept.2.2.2⟩
      · rename_i partialled applied
        rw [applied] at kept
        rw [closeIfResolved_open _ _ _ _ _ _ (isOpen replayed rfl)]
        exact ⟨kept.1, kept.2.1, kept.2.2.2⟩

/-- A row whose lifecycle has resolved, and which the observation settles, is not left open, and a
skipped entry has not become a position. -/
theorem settle_resolved (config : MonitorConfig) (row : PaperRow)
    {lifecycle : Lifecycle} (ended : lifecycle.resolved = true)
    (settles : Settles config row view now lifecycle) :
    let after := (settle config row (some lifecycle) view now).1
    after.enteredAs = row.enteredAs ∧
      after.underlyingExitReason = row.underlyingExitReason ∧ after.blocks = false ∧
      (row.status = .skipped → after.status.isNoPosition) := by
  unfold Settles at settles
  unfold settle
  split
  · rename_i error unread
    rw [unread] at settles
    have skipped : row.status = .skipped := settles
    refine ⟨rfl, rfl, ?_, fun _ => Or.inl skipped⟩
    unfold PaperRow.blocks
    rw [skipped]
    decide
  · rename_i quote read
    rw [read] at settles
    dsimp only at settles ⊢
    have kept := applyPartialIfDue_keeps config (quoted row quote) lifecycle quote now
      view.partialWritten
    by_cases skipped : row.status = .skipped
    · rw [if_pos skipped] at settles
      split
      · rename_i partialled _ applied
        rw [applied] at kept
        have unchanged : partialled.status = .skipped := kept.1.trans skipped
        refine ⟨kept.2.1, kept.2.2.2, ?_, fun _ => Or.inl unchanged⟩
        unfold PaperRow.blocks
        rw [unchanged]
        decide
      · rename_i partialled applied
        rw [applied] at kept
        have keptByClose := closeIfResolved_keeps config partialled lifecycle quote now
          view.closeWritten
        have givenUp := closeIfResolved_skipped config partialled lifecycle quote now
          view.closeWritten ended (kept.1.trans skipped) settles
        refine ⟨keptByClose.1.trans kept.2.1, keptByClose.2.trans kept.2.2.2, ?_,
          fun _ => Or.inr givenUp⟩
        unfold PaperRow.blocks
        rcases givenUp with given | given <;> rw [given] <;> decide
    · rw [if_neg skipped] at settles
      obtain ⟨writes, settles⟩ := settles
      have written := applyPartialIfDue_ok config (quoted row quote) lifecycle quote now
        view.partialWritten writes
      split
      · rename_i applied
        rw [applied] at written
        cases written
      · rename_i partialled applied
        rw [applied] at kept
        have keptByClose := closeIfResolved_keeps config partialled lifecycle quote now
          view.closeWritten
        refine ⟨keptByClose.1.trans kept.2.1, keptByClose.2.trans kept.2.2.2, ?_,
          fun isSkipped => absurd isSkipped skipped⟩
        refine closeIfResolved_settles config partialled lifecycle quote now view.closeWritten ended
          (settles.imp_left fun misses => ?_)
        have missed := applyPartialIfDue_missed config (quoted row quote) lifecycle quote now
          view.partialWritten misses
        rw [applied] at missed
        exact ⟨missed, kept.2.2.1 ▸ misses.1⟩

theorem PaperRow.Sound.manageOpenTrade {data : MarketData} (sound : row.Sound)
    (unresolved : row.resolved = false)
    (settles : row.signal.riskPoints ≠ 0 →
      SettlesIfResolved config row (data.rows row.signal.signalId) now) :
    (PaperMonitor.manageOpenTrade config data now row).1.Sound := by
  have noReason : row.underlyingExitReason = none := by
    unfold PaperRow.resolved at unresolved
    exact Option.isNone_iff_eq_none.mp (by simpa using unresolved)
  unfold PaperMonitor.manageOpenTrade
  dsimp only
  split
  · exact sound
  · rename_i divides
    split
    · exact sound.congr rfl rfl rfl
    · rename_i lifecycle replayed
      have settled := settles divides
      unfold SettlesIfResolved at settled
      rw [replayed] at settled
      by_cases ended : lifecycle.resolved = true
      · obtain ⟨entered, reason, released, skipped⟩ := settle_resolved config
          (followLifecycle (marked row data) lifecycle) ended (settled ended)
        refine ⟨fun _ => released, fun isOpen => ?_, fun wasSkipped => ?_⟩
        · unfold PaperRow.resolved at isOpen
          rw [reason] at isOpen
          simp [followLifecycle, ended] at isOpen
        · refine (skipped ?_).spec
          exact (sound.untouched unresolved).trans (entered.symm.trans wasSkipped)
      · have isOpen : lifecycle.resolved = false := Bool.not_eq_true _ ▸ ended
        obtain ⟨status, entered, reason⟩ := settle_keeps config
          (followLifecycle (marked row data) lifecycle) (data.rows row.signal.signalId) now
          (some lifecycle)
          (fun same found => by rw [← Option.some.inj found]; exact isOpen)
        refine sound.congr status entered (reason.trans ?_)
        rw [noReason]
        simp [followLifecycle, isOpen]
    · obtain ⟨status, entered, reason⟩ := settle_keeps config
        { marked row data with
          currentUnderlyingStop := row.signal.initialStop
          lifecycleState := .openInitialRisk } (data.rows row.signal.signalId) now none
        (fun same found => by cases found)
      exact sound.congr status entered reason

end Manage

/-! ### An observation keeps the invariant -/

section Observe

variable {config : MonitorConfig} {data : MarketData} {now : Int}

theorem sound_manageAll {rows : List PaperRow} (sound : ∀ row ∈ rows, row.Sound)
    (settles : ∀ row ∈ managedRows config data now rows, row.signal.riskPoints ≠ 0 →
      SettlesIfResolved config row (data.rows row.signal.signalId) now) :
    ∀ row ∈ (manageAll config data now rows).1, row.Sound := by
  induction rows with
  | nil => exact fun row member => absurd member List.not_mem_nil
  | cons row rest inductionHypothesis =>
    have soundRest := fun other member => sound other (List.mem_cons_of_mem _ member)
    unfold manageAll
    unfold managedRows at settles
    split
    · rename_i isResolved
      rw [if_pos isResolved] at settles
      intro other member
      rcases List.mem_cons.mp member with rfl | later
      · exact sound _ List.mem_cons_self
      · exact inductionHypothesis soundRest settles other later
    · rename_i unresolved
      rw [if_neg unresolved] at settles
      have managed := (sound row List.mem_cons_self).manageOpenTrade (Bool.not_eq_true _ ▸ unresolved)
        (settles row List.mem_cons_self)
      split
      · rename_i after error began
        rw [began] at managed
        intro other member
        rcases List.mem_cons.mp member with rfl | later
        · exact managed
        · exact soundRest other later
      · rename_i after began
        rw [began] at managed
        intro other member
        rcases List.mem_cons.mp member with rfl | later
        · exact managed
        · refine inductionHypothesis soundRest (fun reached inside => ?_) other later
          refine settles reached (List.mem_cons_of_mem _ ?_)
          rw [began]
          exact inside

theorem sound_captureEntry {signal : PaperSignal} {view : CaptureView} {row : PaperRow}
    (captured : captureEntry config signal now view = .ok row) :
    row.Sound ∧ row.resolved = false := by
  have noPosition : ∀ latency, (captureContract config latency view).2.2.1 = .opened ∨
      (captureContract config latency view).2.2.1 = .skipped := by
    intro latency
    unfold captureContract
    split
    · exact Or.inr rfl
    · dsimp only
      split
      · exact Or.inr rfl
      · split
        · exact Or.inr rfl
        · exact Or.inl rfl
  unfold captureEntry at captured
  dsimp only at captured
  rcases shape : captureContract config (ageAt now signal.timestamp) view with
    ⟨entryFill, ⟨lots, quantity⟩, status, rejection⟩
  have statuses := noPosition (ageAt now signal.timestamp)
  rw [shape] at captured statuses
  split at captured
  · cases captured
  · have same : row.status = status ∧ row.enteredAs = status ∧
        row.underlyingExitReason = none := by
      split at captured
      · cases wrote : view.written with
        | error error =>
          rw [wrote] at captured
          cases captured
        | ok _ =>
          rw [wrote] at captured
          cases captured
          exact ⟨rfl, rfl, rfl⟩
      · cases captured
        exact ⟨rfl, rfl, rfl⟩
    obtain ⟨status_eq, entered, reason⟩ := same
    have unresolved : row.resolved = false := by
      unfold PaperRow.resolved
      rw [reason]
      rfl
    refine ⟨⟨fun isResolved => ?_, fun _ => status_eq.trans entered.symm, fun skipped => ?_⟩,
      unresolved⟩
    · rw [unresolved] at isResolved
      cases isResolved
    · rw [status_eq, ← entered, skipped]
      decide

theorem mem_putRow {rows : List PaperRow} {row other : PaperRow} (member : other ∈ putRow rows row) :
    other ∈ rows ∨ other = row := by
  unfold putRow at member
  split at member
  · obtain ⟨stored, inside, rfl⟩ := List.mem_map.mp member
    split
    · exact Or.inr rfl
    · exact Or.inl inside
  · exact (List.mem_append.mp member).imp_right List.mem_singleton.mp

theorem putRow_self (rows : List PaperRow) (row : PaperRow) : row ∈ putRow rows row := by
  unfold putRow
  split
  · rename_i present
    obtain ⟨stored, inside, same⟩ := List.any_eq_true.mp present
    exact List.mem_map.mpr ⟨stored, inside, if_pos (of_decide_eq_true same)⟩
  · exact List.mem_concat_self

/-- While the signals are gone through, the rows are sound, the open tracks are rows whose
lifecycle is open, and a signal is suppressed only beside one of them. -/
structure Search.Sound (search : Search) : Prop where
  rows : ∀ row ∈ search.tracked, row.Sound
  openTracks : ∀ row ∈ search.openTracks, row ∈ search.tracked ∧ row.blocks = true
  suppressed : search.suppressed ≠ [] → search.openTracks ≠ []

theorem PaperRow.Sound.unresolved {row : PaperRow} (sound : row.Sound)
    (blocking : row.blocks = true) : row.resolved = false := by
  cases resolved : row.resolved with
  | false => rfl
  | true => exact absurd (sound.released resolved) (by rw [blocking]; decide)

section

variable {search : Search} (sound : search.Sound) (config : MonitorConfig) (now : Int)
  (captures : String → CaptureView)

include sound

theorem Search.Sound.considerSignal (signal : PaperSignal) :
    (PaperMonitor.considerSignal config captures now search signal).1.Sound := by
  unfold PaperMonitor.considerSignal
  dsimp only
  split
  · exact sound
  · split
    · rename_i overlapping
      exact ⟨sound.rows, sound.openTracks, fun _ => overlapping⟩
    · rename_i free
      have noTracks : search.openTracks = [] := not_not.mp free
      have noneSuppressed : search.suppressed = [] :=
        not_not.mp fun some => sound.suppressed some noTracks
      split
      · exact ⟨sound.rows, sound.openTracks, sound.suppressed⟩
      · split
        · exact ⟨sound.rows, sound.openTracks, sound.suppressed⟩
        · split
          · exact ⟨sound.rows, sound.openTracks, sound.suppressed⟩
          · rename_i row captured
            refine ⟨?_, ?_, fun some => absurd noneSuppressed some⟩
            · intro other member
              rcases mem_putRow member with inside | rfl
              · exact sound.rows other inside
              · exact (sound_captureEntry captured).1
            · intro other member
              split at member
              · rename_i isOpen
                obtain rfl := List.mem_singleton.mp member
                refine ⟨putRow_self _ _, ?_⟩
                unfold PaperRow.blocks
                rw [isOpen]
                decide
              · exact absurd (noTracks ▸ member) List.not_mem_nil

theorem Search.Sound.considerAll (signals : List PaperSignal) :
    (PaperMonitor.considerAll config captures now signals search).1.Sound := by
  induction signals generalizing search with
  | nil => exact sound
  | cons signal rest inductionHypothesis =>
    have considered := sound.considerSignal config now captures signal
    unfold PaperMonitor.considerAll
    split
    · rename_i after error first
      rw [first] at considered
      exact considered
    · rename_i after first
      rw [first] at considered
      exact inductionHypothesis considered

end

end Observe

/-- The rows in memory and the stored ones are sound. -/
structure Monitor.Sound (monitor : Monitor) : Prop where
  runtime : ∀ row ∈ monitor.runtime.tracked, row.Sound
  stored : ∀ runtime, monitor.stored = some runtime → ∀ row ∈ runtime.tracked, row.Sound

variable {monitor : Monitor}

theorem Monitor.Sound.restoreRuntime (sound : monitor.Sound)
    (restored : Except Raised Unit) : (PaperMonitor.restoreRuntime monitor restored).Sound := by
  unfold PaperMonitor.restoreRuntime
  split
  · exact sound
  · split
    · refine ⟨fun row member => ?_, sound.stored⟩
      cases stored : monitor.stored with
      | none =>
        rw [stored] at member
        exact absurd member List.not_mem_nil
      | some runtime =>
        rw [stored] at member
        exact sound.stored runtime stored row member
    · exact ⟨sound.runtime, sound.stored⟩

theorem Monitor.Sound.conclude {search : Search} (sound : monitor.Sound)
    (searched : search.Sound) (saved : Except Raised Unit) :
    (PaperMonitor.conclude monitor search saved).1.Sound ∧
      (PaperMonitor.conclude monitor search saved).1.runtime.tracked = search.tracked ∧
      (PaperMonitor.conclude monitor search saved).2.suppressed = search.suppressed := by
  unfold PaperMonitor.conclude
  split
  · exact ⟨⟨searched.rows, sound.stored⟩, rfl, rfl⟩
  · dsimp only
    split
    · refine ⟨⟨searched.rows, fun runtime same => ?_⟩, rfl, rfl⟩
      rw [← Option.some.inj same]
      exact searched.rows
    · exact ⟨⟨searched.rows, sound.stored⟩, rfl, rfl⟩

theorem Search.Sound.overlaps {search : Search} (searched : search.Sound)
    (some : search.suppressed ≠ []) :
    ∃ row ∈ search.tracked, row.blocks = true ∧ row.resolved = false := by
  obtain ⟨row, member⟩ := List.exists_mem_of_ne_nil _ (searched.suppressed some)
  obtain ⟨tracked, blocking⟩ := searched.openTracks row member
  exact ⟨row, tracked, blocking, (searched.rows row tracked).unresolved blocking⟩

/-- An admitted observation keeps the rows sound, and suppresses a signal only for a row whose
lifecycle is open. -/
theorem Monitor.Sound.observe {config : MonitorConfig} {view : Observation}
    (sound : monitor.Sound) (admitted : Admitted config monitor (.observe view)) :
    (PaperMonitor.observe config monitor view).1.Sound ∧
      ((PaperMonitor.observe config monitor view).2.suppressed ≠ [] →
        ∃ row ∈ (PaperMonitor.observe config monitor view).1.runtime.tracked,
          row.blocks = true ∧ row.resolved = false) := by
  have restored := sound.restoreRuntime view.restored
  unfold PaperMonitor.observe
  dsimp only
  split
  · exact ⟨restored, fun some => absurd rfl some⟩
  · rename_i data market
    simp only [Admitted, market] at admitted
    have managed := sound_manageAll restored.runtime admitted
    split
    · rename_i rows error stopped
      rw [stopped] at managed
      exact ⟨⟨managed, restored.stored⟩, fun some => absurd rfl some⟩
    · rename_i rows changed finished
      rw [finished] at managed
      unfold searchFor
      dsimp only
      have begins : Search.Sound
          { tracked := rows
            seen := (PaperMonitor.restoreRuntime monitor view.restored).runtime.seen
            usedLevels := (PaperMonitor.restoreRuntime monitor view.restored).runtime.usedLevels
            openTracks := rows.filter PaperRow.blocks
            changed := changed } :=
        ⟨managed, fun row member => List.mem_filter.mp member, fun some => absurd rfl some⟩
      have searched := begins.considerAll config view.now view.captures data.discovered
      split
      · rename_i search error stopped
        rw [stopped] at searched
        exact ⟨⟨searched.rows, restored.stored⟩, searched.overlaps⟩
      · rename_i search ended
        rw [ended] at searched
        obtain ⟨concluded, tracked, suppressed⟩ := restored.conclude searched view.saved
        refine ⟨concluded, ?_⟩
        rw [tracked, suppressed]
        exact searched.overlaps

/-! ### Runs -/

theorem Monitor.Sound.step {config : MonitorConfig} (sound : monitor.Sound)
    (op : MonitorOp) (admitted : Admitted config monitor op) :
    (PaperMonitor.step config monitor op).Sound := by
  cases op with
  | observe view => exact (sound.observe admitted).1
  | restart => exact ⟨fun row member => absurd member List.not_mem_nil, sound.stored⟩

theorem Monitor.Sound.neverBlocks {config : MonitorConfig} {watch : Watch}
    (sound : watch.monitor.Sound) (op : MonitorOp)
    (admitted : Admitted config watch.monitor op) : NeverBlocks config watch op := by
  have after := sound.step op admitted
  refine ⟨fun row member resolved _ => (after.runtime row member).released resolved,
    fun row member skipped => (after.runtime row member).skipped skipped, ?_⟩
  cases op with
  | observe view => exact (sound.observe admitted).2
  | restart => trivial

/-- A finished observation never blocks later signals, in every run of observations and restarts
in which each row is settled by the observation that resolves its lifecycle. -/
theorem finished_observation_never_blocks (config : MonitorConfig) (ops : List MonitorOp)
    (admitted : Along (Watch.step config) (fun watch op => Admitted config watch.monitor op)
      ⟨.fresh, []⟩ ops) :
    Along (Watch.step config) (NeverBlocks config) ⟨.fresh, []⟩ ops := by
  have fresh : Monitor.fresh.Sound :=
    ⟨fun row member => absurd member List.not_mem_nil, fun runtime none => by cases none⟩
  exact admitted.of_invariant
    (fun _ op (sound : Monitor.Sound _) isAdmitted => sound.step op isAdmitted)
    (fun _ op sound isAdmitted => sound.neverBlocks op isAdmitted) fresh

namespace BlockingRuns

def config : MonitorConfig := ⟨.standard, ⟨50000, 500000, 1, 30, 5⟩⟩

/-- A bullish signal on a level of the day. -/
def signal (signalId level : String) (timestamp : Int) : PaperSignal :=
  ⟨signalId, .bullish, "CALL", timestamp, level, 21700, 21650, 50⟩

def contract : PaperContract := ⟨"INST-CE", .call, 75, 100, 99, 100⟩

def captured : CaptureView := ⟨some contract, none, .ok (), .ok ()⟩

/-- The lifecycle hits its hard stop at ten minutes. -/
def stopped : Lifecycle := ⟨600000000, .atrHardStop, 21650, -1, none, none, 21650⟩

/-- What a row is answered: its lifecycle, and a quote of its contract, if there is one. -/
def answers (lifecycle : Option Lifecycle) (quote : Option LiveQuote) : RowView :=
  { lifecycle := lifecycle.map .ok
    latestQuote := .ok quote
    chain := .error ⟨"chain is not available"⟩
    partialWritten := .ok ()
    closeWritten := .ok () }

/-- An observation that discovers signals and answers every row alike. -/
def observation (now : Int) (discovered : List PaperSignal) (view : RowView) : MonitorOp :=
  .observe
    { now := now
      restored := .ok ()
      market := some ⟨21700, 21690, fun _ => view, discovered⟩
      captures := fun _ => captured
      saved := .ok () }

def first : PaperSignal := signal "STRAT-D-1" "R1" 0

def second : PaperSignal := signal "STRAT-D-2" "PDH" 900000000

/-- A signal is captured, the process restarts, the position is closed with a quote of the time of
its exit, and the next signal is captured. -/
def settledRun : List MonitorOp :=
  [observation 10000000 [first] (answers none none), .restart,
    observation 605000000 [first]
      (answers (some stopped) (some ⟨some 604000000, "KITE", 80, 81, 80⟩)),
    observation 910000000 [first, second] (answers none none)]

/-- The same position finds no quote when its lifecycle resolves. -/
def stuckRun : List MonitorOp :=
  [observation 10000000 [first] (answers none none),
    observation 605000000 [first] (answers (some stopped) none),
    observation 910000000 [first, second] (answers (some stopped) none)]

/-- What is seen of the rows after a run. -/
def rowsAfter (ops : List MonitorOp) : List (PaperStatus × Bool × Option Int) :=
  (ops.foldl (Watch.step config) ⟨.fresh, []⟩).monitor.runtime.tracked.map fun row =>
    (row.status, row.resolved, row.underlyingExitTime)

end BlockingRuns

open BlockingRuns in
/-- A position closed in time leaves the way free for the next signal. -/
theorem settled_position_frees_the_monitor :
    Along (Watch.step config) (NeverBlocks config) ⟨.fresh, []⟩ settledRun ∧
      rowsAfter settledRun = [(.closed, true, some 600000000), (.opened, false, none)] :=
  ⟨finished_observation_never_blocks config settledRun (by decide +kernel), by decide +kernel⟩

open BlockingRuns in
/-- A row left waiting for its exit quote is never managed again: five minutes after the exit it
still counts as open, and suppresses the next signal. -/
theorem pending_exit_blocks_forever :
    ¬ ∀ config ops, Along (Watch.step config) (NeverBlocks config) ⟨.fresh, []⟩ ops := by
  intro every
  obtain ⟨-, -, ⟨settles, -, -⟩, -⟩ := every config stuckRun
  have shown : rowsAfter stuckRun = [(.exitQuotePending, true, some 600000000)] := by
    decide +kernel
  obtain ⟨row, rest, tracked, seen, -⟩ := List.map_eq_cons_iff.mp shown
  have member : row ∈ (stuckRun.foldl (Watch.step config) ⟨.fresh, []⟩).monitor.runtime.tracked :=
    tracked ▸ List.mem_cons_self
  simp only [Prod.mk.injEq] at seen
  obtain ⟨pending, resolved, exit⟩ := seen
  have released := settles row member resolved
    ⟨_, List.mem_cons_self, 600000000, exit, Or.inl (by decide)⟩
  unfold PaperRow.blocks at released
  rw [pending] at released
  exact absurd released (by decide)

end PaperMonitor

end BreezeTrading
