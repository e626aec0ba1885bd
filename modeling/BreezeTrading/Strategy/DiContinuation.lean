/-
This file models the lifecycle of a trade of Strategy C on completed minutes, up to a point in time,
and compares what it reports with the ticks behind the minutes. Stops are booked at their level:
what is reported was earned exactly where the first tick at or beyond a stop is at the stop.
-/

import BreezeTrading.Lib.EarlyReturn
import BreezeTrading.Strategy.ReplayPaths

namespace BreezeTrading.StrategyC

open EarlyReturn ReplayIntrabar TickPath

/-! ### The lifecycle -/

/-- The fields of `DiscoveryConfig` that the lifecycle reads. -/
structure DiscoveryConfig where
  hardTargetR : ℚ
  breakevenArmR : ℚ
  trailArmR : ℚ
  trailOffsetR : ℚ

def DiscoveryConfig.standard : DiscoveryConfig := ⟨2, 1, 3 / 2, 3 / 4⟩

/-- A trigger; a `CALL` is bullish. -/
structure Trigger where
  direction : TradeDirection
  entryBar : Candle
  entryPrice : ℚ
  initialStop : ℚ

inductive ShadowStatus where
  | active
  | resolved
  deriving DecidableEq, Repr

inductive ShadowExitReason where
  | stopOrTrail
  | hardTarget
  | forcedExit
  deriving DecidableEq, Repr

structure ShadowLifecycle where
  status : ShadowStatus
  exitTime : Option Int
  exitPrice : Option ℚ
  exitReason : Option ShadowExitReason
  realizedR : Option ℚ
  currentStop : ℚ
  currentR : ℚ
  mfeR : ℚ
  maeR : ℚ
  deriving DecidableEq

/-- What the loop over the minutes carries. -/
structure Standing where
  activeStop : ℚ
  mfe : ℚ
  mae : ℚ
  bestPrice : ℚ
  latestPrice : ℚ

section Lifecycle

variable (trigger : Trigger) (config : DiscoveryConfig)

def Trigger.risk : ℚ := |trigger.entryPrice - trigger.initialStop|

def Trigger.r (price : ℚ) : ℚ :=
  favorablePoints trigger.direction trigger.entryPrice price / trigger.risk

def Trigger.target : ℚ :=
  levelAbove trigger.direction trigger.entryPrice (config.hardTargetR * trigger.risk)

/-- The prices of a bar that are best and worst for a direction. -/
def bestOf (direction : TradeDirection) (bar : Candle) : ℚ :=
  if direction = .bullish then bar.high else bar.low

def worstOf (direction : TradeDirection) (bar : Candle) : ℚ :=
  if direction = .bullish then bar.low else bar.high

/-- `FORCED_EXIT` on the day a trade is entered. -/
def Trigger.cutoff : Int :=
  istDay trigger.entryBar.endTime * 86400000000 - 19800000000 + 54900000000

def Trigger.start : Standing where
  activeStop := trigger.initialStop
  mfe := 0
  mae := 0
  bestPrice := trigger.entryPrice
  latestPrice := trigger.entryPrice

def Standing.track (standing : Standing) (bar : Candle) : Standing :=
  { standing with
    latestPrice := bar.close
    mfe := max standing.mfe (trigger.r (bestOf trigger.direction bar))
    mae := max standing.mae (-trigger.r (worstOf trigger.direction bar)) }

/-- The stop that is active in the next minute. -/
def Standing.trail (standing : Standing) (bar : Candle) : Standing :=
  let bestPrice := tighterStop trigger.direction standing.bestPrice (bestOf trigger.direction bar)
  let bestR := trigger.r bestPrice
  let armed := if config.breakevenArmR ≤ bestR
    then tighterStop trigger.direction standing.activeStop trigger.entryPrice
    else standing.activeStop
  { standing with
    bestPrice
    activeStop := if config.trailArmR ≤ bestR
      then tighterStop trigger.direction armed
        (levelAbove trigger.direction bestPrice (-(config.trailOffsetR * trigger.risk)))
      else armed }

def Standing.resolve (standing : Standing) (time : Int) (price realized : ℚ)
    (reason : ShadowExitReason) : ShadowLifecycle where
  status := .resolved
  exitTime := some time
  exitPrice := some price
  exitReason := some reason
  realizedR := some realized
  currentStop := standing.activeStop
  currentR := realized
  mfeR := standing.mfe
  maeR := standing.mae

/-- One minute: a stop wins over the target. -/
def lifecycleBar (standing : Standing) (bar : Candle) : Except ShadowLifecycle Standing :=
  let tracked := standing.track trigger bar
  if stopHit trigger.direction bar standing.activeStop = true then
    .error (tracked.resolve bar.endTime standing.activeStop (trigger.r standing.activeStop)
      .stopOrTrail)
  else if levelHit trigger.direction bar (trigger.target config) = true then
    .error (tracked.resolve bar.endTime (trigger.target config) config.hardTargetR .hardTarget)
  else .ok (tracked.trail trigger config bar)

/-- A minute after the entry that has ended by a point in time, and by the forced exit. -/
def isPost (asOf startTime endTime : Int) : Bool :=
  decide (trigger.entryBar.endTime ≤ startTime ∧ endTime ≤ asOf ∧ endTime ≤ trigger.cutoff)

/-- What is left open is closed from the forced exit on. -/
def Standing.finish (standing : Standing) (last : Option Candle) (asOf : Int) : ShadowLifecycle :=
  if trigger.cutoff ≤ asOf then
    let price := (last.map Candle.close).getD trigger.entryPrice
    standing.resolve ((last.map Candle.endTime).getD trigger.entryBar.endTime) price
      (trigger.r price) .forcedExit
  else
    { status := .active
      exitTime := none
      exitPrice := none
      exitReason := none
      realizedR := none
      currentStop := standing.activeStop
      currentR := trigger.r standing.latestPrice
      mfeR := standing.mfe
      maeR := standing.mae }

def runLifecycleToAsOf (oneMinute : List Candle) (asOf : Int) : Except String ShadowLifecycle :=
  if trigger.risk ≤ 0 then .error "Strategy C trigger risk must be positive"
  else
    let post := oneMinute.filter fun bar => isPost trigger asOf bar.startTime bar.endTime
    .ok (match loop (lifecycleBar trigger config) trigger.start post with
      | .error resolved => resolved
      | .ok standing => standing.finish trigger post.getLast? asOf)

end Lifecycle

/-! ### What the ticks say -/

section Ticks

variable (trigger : Trigger) (config : DiscoveryConfig)

def firstBeyond (direction : TradeDirection) (stop : ℚ) (ticks : List ℚ) : Option ℚ :=
  ticks.find? fun tick => hitsStop direction tick stop

/-- The minute in which the loop exits, with what it has carried there. -/
def exitOf : Standing → List TickMinute → Option (Standing × TickMinute)
  | _, [] => none
  | standing, minute :: rest =>
      match lifecycleBar trigger config standing minute.candle with
      | .error _ => some (standing, minute)
      | .ok next => exitOf next rest

/-- The minutes that a run reads. -/
def postOf (minutes : List TickMinute) (asOf : Int) : List TickMinute :=
  minutes.filter fun minute => isPost trigger asOf minute.startTime minute.endTime

/-- A lifecycle reports no more than its minutes have earned. -/
structure Earned (post : List TickMinute) (lifecycle : ShadowLifecycle) : Prop where
  stopped : lifecycle.exitReason = some .stopOrTrail →
    ∃ exit ∈ exitOf trigger config trigger.start post, ∃ price ∈ lifecycle.exitPrice,
      ∃ first ∈ firstBeyond trigger.direction lifecycle.currentStop exit.2.ticks,
        favorablePoints trigger.direction trigger.entryPrice price ≤
          favorablePoints trigger.direction trigger.entryPrice first
  reached : lifecycle.exitReason = some .hardTarget →
    ∃ exit ∈ exitOf trigger config trigger.start post,
      Touched (AtLevel trigger.direction (trigger.target config)) exit.2.ticks ∧
        ¬Touched (AtStop trigger.direction exit.1.activeStop) exit.2.ticks
  realized : ∀ realized ∈ lifecycle.realizedR, ∃ price ∈ lifecycle.exitPrice,
    realized = trigger.r price
  within : ∀ realized ∈ lifecycle.realizedR,
    -lifecycle.maeR ≤ realized ∧ realized ≤ lifecycle.mfeR

/-- The minute that touches the stop in force trades at it before it trades beyond, and a target on
the losing side of the entry is not passed over at once. -/
structure Fair (post : List TickMinute) : Prop where
  stops : ∀ exit ∈ exitOf trigger config trigger.start post,
    ∀ first ∈ firstBeyond trigger.direction exit.1.activeStop exit.2.ticks,
      first = exit.1.activeStop
  target : config.hardTargetR < 0 → ∀ minute ∈ post.head?,
    stopHit trigger.direction minute.candle trigger.initialStop = true ∨
      trigger.r (worstOf trigger.direction minute.candle) ≤ config.hardTargetR

/-- What the loop has carried past the bars up to the last one. -/
structure Sound (standing : Standing) (last : Option Candle) : Prop where
  mfe : 0 ≤ standing.mfe
  mae : 0 ≤ standing.mae
  latest : standing.latestPrice = (last.map Candle.close).getD trigger.entryPrice
  within : -standing.mae ≤ trigger.r standing.latestPrice ∧
    trigger.r standing.latestPrice ≤ standing.mfe
  fresh : last = none → standing = trigger.start
  passed : last ≠ none → -standing.mae < config.hardTargetR

variable {trigger config} {standing next : Standing} {minute : TickMinute} {last : Option Candle}
  {post : List TickMinute}

theorem r_entry : trigger.r trigger.entryPrice = 0 := by
  unfold Trigger.r favorablePoints
  split <;> simp

theorem sound_start : Sound trigger config trigger.start none where
  mfe := le_refl _
  mae := le_refl _
  latest := rfl
  within := by
    show -0 ≤ trigger.r trigger.entryPrice ∧ trigger.r trigger.entryPrice ≤ 0
    rw [r_entry]
    simp
  fresh _ := rfl
  passed some := absurd rfl some

/-- A tick of a minute is between the worst and the best price of its candle. -/
theorem r_tick_within (risk : 0 < trigger.risk) {tick : ℚ} (member : tick ∈ minute.ticks) :
    trigger.r (worstOf trigger.direction minute.candle) ≤ trigger.r tick ∧
      trigger.r tick ≤ trigger.r (bestOf trigger.direction minute.candle) := by
  have high : tick ≤ minute.candle.high := by
    refine (le_foldl_max_iff tick minute.first minute.rest).mpr ?_
    exact (List.mem_cons.mp member).imp le_of_eq fun inRest => ⟨tick, inRest, le_refl _⟩
  have low : minute.candle.low ≤ tick := by
    refine (foldl_min_le_iff tick minute.first minute.rest).mpr ?_
    exact (List.mem_cons.mp member).imp ge_of_eq fun inRest => ⟨tick, inRest, le_refl _⟩
  unfold Trigger.r favorablePoints worstOf bestOf
  split
  · exact ⟨div_le_div_of_nonneg_right (by linarith) risk.le,
      div_le_div_of_nonneg_right (by linarith) risk.le⟩
  · exact ⟨div_le_div_of_nonneg_right (by linarith) risk.le,
      div_le_div_of_nonneg_right (by linarith) risk.le⟩

theorem close_mem_ticks (minute : TickMinute) : minute.candle.close ∈ minute.ticks := by
  show minute.rest.getLastD minute.first ∈ minute.first :: minute.rest
  cases minute.rest with
  | nil => exact List.mem_cons_self
  | cons tick rest => exact List.mem_cons_of_mem _ (List.getLast_mem _)

theorem levelHit_target_iff (risk : 0 < trigger.risk) {bar : Candle} :
    levelHit trigger.direction bar (trigger.target config) = true ↔
      config.hardTargetR ≤ trigger.r (bestOf trigger.direction bar) := by
  unfold levelHit reachesLevel Trigger.target levelAbove Trigger.r favorablePoints bestOf
  split
  · rw [decide_eq_true_eq, le_div_iff₀ risk, le_sub_iff_add_le']
  · rw [decide_eq_true_eq, le_div_iff₀ risk, le_sub_comm]

theorem r_target (risk : 0 < trigger.risk) :
    config.hardTargetR = trigger.r (trigger.target config) := by
  unfold Trigger.r Trigger.target favorablePoints levelAbove
  split
  · rw [add_sub_cancel_left, mul_div_cancel_right₀ _ risk.ne']
  · rw [sub_sub_cancel, mul_div_cancel_right₀ _ risk.ne']

/-- What a minute does to what is carried. -/
theorem lifecycleBar_cases (trigger : Trigger) (config : DiscoveryConfig) (standing : Standing)
    (bar : Candle) :
    (stopHit trigger.direction bar standing.activeStop = true ∧
      lifecycleBar trigger config standing bar = .error ((standing.track trigger bar).resolve
        bar.endTime standing.activeStop (trigger.r standing.activeStop) .stopOrTrail)) ∨
    (stopHit trigger.direction bar standing.activeStop = false ∧
      levelHit trigger.direction bar (trigger.target config) = true ∧
      lifecycleBar trigger config standing bar = .error ((standing.track trigger bar).resolve
        bar.endTime (trigger.target config) config.hardTargetR .hardTarget)) ∨
    (levelHit trigger.direction bar (trigger.target config) = false ∧
      lifecycleBar trigger config standing bar =
        .ok ((standing.track trigger bar).trail trigger config bar)) := by
  unfold lifecycleBar
  split_ifs with stops reaches
  · exact .inl ⟨stops, rfl⟩
  · exact .inr (.inl ⟨Bool.eq_false_iff.mpr stops, reaches, rfl⟩)
  · exact .inr (.inr ⟨Bool.eq_false_iff.mpr reaches, rfl⟩)

section

variable (risk : 0 < trigger.risk) (sound : Sound trigger config standing last)

include risk sound

theorem Sound.step (carries : lifecycleBar trigger config standing minute.candle = .ok next) :
    Sound trigger config next (some minute.candle) := by
  obtain ⟨-, ran⟩ | ⟨-, -, ran⟩ | ⟨short, ran⟩ :=
    lifecycleBar_cases trigger config standing minute.candle
  · rw [ran] at carries
    cases carries
  · rw [ran] at carries
    cases carries
  rw [ran] at carries
  cases carries
  have close := r_tick_within risk (close_mem_ticks minute)
  have below : trigger.r (bestOf trigger.direction minute.candle) < config.hardTargetR := by
    rw [← not_le, ← levelHit_target_iff risk, short]
    decide
  exact
    { mfe := le_max_of_le_left sound.mfe
      mae := le_max_of_le_left sound.mae
      latest := rfl
      within := ⟨neg_le.mp (le_max_of_le_right (neg_le_neg close.1)), le_max_of_le_right close.2⟩
      fresh := nofun
      passed := fun _ => neg_lt.mp (lt_max_of_lt_right
        (neg_lt_neg ((close.1.trans close.2).trans_lt below))) }

/-- The loop exits in a minute that it reached soundly, or carries on soundly past all of them. -/
theorem loop_exitOf :
    (∃ reached minute before, exitOf trigger config standing post = some (reached, minute) ∧
      Sound trigger config reached before ∧ (before = none → last = none ∧ post.head? = some minute) ∧
      loop (lifecycleBar trigger config) standing (post.map TickMinute.candle) =
        lifecycleBar trigger config reached minute.candle ∧
      ∃ resolved, lifecycleBar trigger config reached minute.candle = .error resolved) ∨
    exitOf trigger config standing post = none ∧ ∃ final,
      loop (lifecycleBar trigger config) standing (post.map TickMinute.candle) = .ok final ∧
        Sound trigger config final ((post.map TickMinute.candle).getLast?.or last) := by
  induction post generalizing standing last with
  | nil => exact .inr ⟨rfl, standing, rfl, sound⟩
  | cons minute rest inductionHypothesis =>
    rw [List.map_cons, loop_cons]
    unfold exitOf
    cases ran : lifecycleBar trigger config standing minute.candle with
    | error resolved =>
      exact .inl ⟨standing, minute, last, rfl, sound, fun fresh => ⟨fresh, rfl⟩, ran.symm,
        resolved, ran⟩
    | ok next =>
      have carried := sound.step risk ran
      obtain ⟨reached, other, before, exits, soundly, first, returns⟩ |
          ⟨none, final, ran, soundly⟩ := inductionHypothesis carried
      · exact .inl ⟨reached, other, before, exits, soundly, fun fresh =>
          absurd (first fresh).1 (Option.some_ne_none _), returns⟩
      · refine .inr ⟨none, final, ran, ?_⟩
        rw [List.getLast?_cons]
        cases last' : (rest.map TickMinute.candle).getLast? with
        | none | some => simpa [last'] using soundly

end

theorem worst_le_best (risk : 0 < trigger.risk) :
    trigger.r (worstOf trigger.direction minute.candle) ≤
      trigger.r (bestOf trigger.direction minute.candle) :=
  (r_tick_within risk (close_mem_ticks minute)).1.trans
    (r_tick_within risk (close_mem_ticks minute)).2

/-- A stop is booked for no more than the first tick at or beyond it exactly where that is at it. -/
theorem favorable_le_iff {first stop : ℚ} (beyond : hitsStop trigger.direction first stop = true) :
    favorablePoints trigger.direction trigger.entryPrice stop ≤
      favorablePoints trigger.direction trigger.entryPrice first ↔ first = stop := by
  unfold favorablePoints
  unfold hitsStop at beyond
  split at beyond
  · rename_i isCall
    have below := of_decide_eq_true beyond
    rw [if_pos isCall, if_pos isCall, sub_le_sub_iff_right]
    exact ⟨below.antisymm, ge_of_eq⟩
  · rename_i isPut
    have above := of_decide_eq_true beyond
    rw [if_neg isPut, if_neg isPut, sub_le_sub_iff_left]
    exact ⟨fun le => le.antisymm above, le_of_eq⟩

theorem firstBeyond_spec {direction : TradeDirection} {stop first : ℚ} {ticks : List ℚ}
    (isFirst : first ∈ firstBeyond direction stop ticks) :
    hitsStop direction first stop = true ∧ first ∈ ticks := by
  exact ⟨@List.find?_some _ (fun tick => hitsStop direction tick stop) first ticks isFirst,
    List.mem_of_find?_eq_some isFirst⟩

section

variable (risk : 0 < trigger.risk)
  (exits : exitOf trigger config trigger.start post = some (standing, minute))

include risk exits

/-- A stop that is touched is earned exactly where the first tick at or beyond it is at it. -/
theorem earned_stopped_iff
    (touched : stopHit trigger.direction minute.candle standing.activeStop = true) :
    Earned trigger config post ((standing.track trigger minute.candle).resolve
        minute.candle.endTime standing.activeStop (trigger.r standing.activeStop) .stopOrTrail) ↔
      ∀ first ∈ firstBeyond trigger.direction standing.activeStop minute.ticks,
        first = standing.activeStop := by
  constructor
  · intro earned first isFirst
    obtain ⟨exit, isExit, price, isPrice, other, isOther, le⟩ := earned.stopped rfl
    obtain rfl := Option.some.inj (exits.symm.trans isExit)
    cases isPrice
    obtain rfl := Option.some.inj (isFirst.symm.trans isOther)
    exact (favorable_le_iff (firstBeyond_spec isFirst).1).mp le
  · intro atStop
    obtain ⟨first, isFirst⟩ : ∃ first,
        firstBeyond trigger.direction standing.activeStop minute.ticks = some first := by
      obtain ⟨tick, member, isAt⟩ := (stopHit_candle_iff _ _ minute).mp touched
      exact Option.isSome_iff_exists.mp (List.find?_isSome.mpr ⟨tick, member, isAt⟩)
    have member := (firstBeyond_spec isFirst).2
    rw [atStop first isFirst] at member
    have between := r_tick_within risk member
    exact
      { stopped := fun _ => ⟨_, exits, _, rfl, first, isFirst,
          (favorable_le_iff (firstBeyond_spec isFirst).1).mpr (atStop first isFirst)⟩
        reached := nofun
        realized := by
          rintro _ ⟨⟩
          exact ⟨_, rfl, rfl⟩
        within := by
          rintro _ ⟨⟩
          exact ⟨neg_le.mp (le_max_of_le_right (neg_le_neg between.1)),
            le_max_of_le_right between.2⟩ }

/-- A target that is touched is earned where it is not short of all prices before. -/
theorem earned_reached_iff
    (untouched : stopHit trigger.direction minute.candle standing.activeStop = false)
    (touched : levelHit trigger.direction minute.candle (trigger.target config) = true) :
    Earned trigger config post ((standing.track trigger minute.candle).resolve
        minute.candle.endTime (trigger.target config) config.hardTargetR .hardTarget) ↔
      -max standing.mae (-trigger.r (worstOf trigger.direction minute.candle)) ≤
        config.hardTargetR := by
  refine ⟨fun earned => (earned.within _ rfl).1, fun least => ?_⟩
  exact
    { stopped := nofun
      reached := fun _ => ⟨_, exits, (levelHit_candle_iff _ _ minute).mp touched, by
        rw [← stopHit_candle_iff, untouched]
        decide⟩
      realized := by
        rintro _ ⟨⟩
        exact ⟨_, rfl, r_target risk⟩
      within := by
        rintro _ ⟨⟩
        exact ⟨least, le_max_of_le_right ((levelHit_target_iff risk).mp touched)⟩ }

end

/-- What is left open is closed at a price that was traded. -/
theorem earned_finish (sound : Sound trigger config standing last) (asOf : Int) :
    Earned trigger config post (standing.finish trigger last asOf) := by
  unfold Standing.finish
  split
  · exact
      { stopped := nofun
        reached := nofun
        realized := by
          rintro _ ⟨⟩
          exact ⟨_, rfl, rfl⟩
        within := by
          rintro _ ⟨⟩
          rw [← sound.latest]
          exact sound.within }
  · exact ⟨nofun, nofun, nofun, nofun⟩

/-- Of the minutes that a run reads the first decides whether a target that is short of the entry
is passed over. -/
theorem target_of_least (sound : Sound trigger config standing last)
    (first : last = none → post.head? = some minute)
    (untouched : stopHit trigger.direction minute.candle standing.activeStop = false)
    (fair : config.hardTargetR < 0 → ∀ minute ∈ post.head?,
      stopHit trigger.direction minute.candle trigger.initialStop = true ∨
        trigger.r (worstOf trigger.direction minute.candle) ≤ config.hardTargetR) :
    -max standing.mae (-trigger.r (worstOf trigger.direction minute.candle)) ≤
      config.hardTargetR := by
  rw [neg_le]
  rcases le_or_gt 0 config.hardTargetR with ahead | behind
  · exact le_max_of_le_left ((neg_nonpos.mpr ahead).trans sound.mae)
  cases last with
  | some bar => exact le_max_of_le_left (neg_lt.mp (sound.passed (Option.some_ne_none bar))).le
  | none =>
    rw [sound.fresh rfl] at untouched
    rcases fair behind minute (first rfl) with stops | short
    · rw [show trigger.start.activeStop = trigger.initialStop from rfl, stops] at untouched
      cases untouched
    · exact le_max_of_le_right (neg_le_neg short)

/-- The first minute exits, or is short of the target. -/
theorem exitOf_head (risk : 0 < trigger.risk) (isHead : minute ∈ post.head?) :
    exitOf trigger config trigger.start post = some (trigger.start, minute) ∨
      trigger.r (worstOf trigger.direction minute.candle) ≤ config.hardTargetR := by
  cases post with
  | nil => cases isHead
  | cons head rest =>
    obtain rfl : head = minute := Option.some.inj isHead
    unfold exitOf
    obtain ⟨-, ran⟩ | ⟨-, -, ran⟩ | ⟨short, -⟩ :=
      lifecycleBar_cases trigger config trigger.start head.candle
    · exact .inl (by rw [ran])
    · exact .inl (by rw [ran])
    · refine .inr ((worst_le_best risk).trans (le_of_not_ge fun reached => ?_))
      rw [(levelHit_target_iff risk).mpr reached] at short
      cases short

/-- What the loop over the minutes that are read reports. -/
def reportOf (trigger : Trigger) (config : DiscoveryConfig) (post : List TickMinute)
    (asOf : Int) : ShadowLifecycle :=
  match loop (lifecycleBar trigger config) trigger.start (post.map TickMinute.candle) with
  | .error resolved => resolved
  | .ok standing => standing.finish trigger (post.map TickMinute.candle).getLast? asOf

theorem runLifecycleToAsOf_eq (risk : 0 < trigger.risk) (minutes : List TickMinute) (asOf : Int) :
    runLifecycleToAsOf trigger config (minutes.map TickMinute.candle) asOf =
      .ok (reportOf trigger config (postOf trigger minutes asOf) asOf) := by
  unfold runLifecycleToAsOf
  rw [if_neg (not_le.mpr risk), List.filter_map]
  rfl

theorem earned_reportOf_iff (risk : 0 < trigger.risk) (asOf : Int) :
    Earned trigger config post (reportOf trigger config post asOf) ↔ Fair trigger config post := by
  unfold reportOf
  obtain ⟨reached, minute, before, exits, sound, first, ran, resolved, errs⟩ |
      ⟨stays, final, ran, sound⟩ := @loop_exitOf trigger config trigger.start none post risk sound_start
  · have only {exit : Standing × TickMinute}
        (isExit : exit ∈ exitOf trigger config trigger.start post) : (reached, minute) = exit :=
      Option.some.inj (exits.symm.trans isExit)
    rw [ran]
    obtain ⟨touched, returns⟩ | ⟨untouched, touched, returns⟩ | ⟨-, carries⟩ :=
      lifecycleBar_cases trigger config reached minute.candle
    · rw [returns]
      refine (earned_stopped_iff risk exits touched).trans ⟨fun atStop => ?_, fun fair => ?_⟩
      · refine ⟨fun exit isExit => ?_, fun _ other isHead => ?_⟩
        · obtain rfl := only isExit
          exact atStop
        · refine (exitOf_head risk isHead).imp_left fun isExit => ?_
          obtain ⟨rfl, rfl⟩ := Prod.mk.inj (only isExit)
          exact touched
      · exact fair.stops _ exits
    · rw [returns]
      refine (earned_reached_iff risk exits untouched touched).trans
        ⟨fun least => ?_, fun fair => ?_⟩
      · refine ⟨fun exit isExit other isFirst => ?_, fun behind other isHead => ?_⟩
        · obtain rfl := only isExit
          have hits := (stopHit_candle_iff trigger.direction reached.activeStop minute).mpr
            ⟨other, (firstBeyond_spec isFirst).2, (firstBeyond_spec isFirst).1⟩
          rw [untouched] at hits
          cases hits
        · refine (exitOf_head risk isHead).elim (fun isExit => .inr ?_) .inr
          obtain ⟨rfl, rfl⟩ := Prod.mk.inj (only isExit)
          rcases le_max_iff.mp (neg_le.mp least) with atStart | below
          · exact absurd behind (not_lt.mpr (neg_nonpos.mp atStart))
          · exact neg_le_neg_iff.mp below
      · exact target_of_least sound (fun fresh => (first fresh).2) untouched fair.target
    · rw [errs] at carries
      cases carries
  · rw [ran]
    rw [Option.or_none] at sound
    have noExit {exit : Standing × TickMinute}
        (isExit : exit ∈ exitOf trigger config trigger.start post) : False :=
      Option.not_mem_none exit (stays ▸ isExit)
    refine iff_of_true (earned_finish sound asOf) ⟨fun exit isExit => (noExit isExit).elim,
      fun _ other isHead => .inr ?_⟩
    exact (exitOf_head risk isHead).resolve_left fun isExit => noExit isExit

/-- Every trade on minutes of ticks reports no more than was earned exactly where the stop is traded
at before it is traded beyond, and no target short of the entry is passed over at once. -/
theorem lifecycle_earned_iff (trigger : Trigger) (config : DiscoveryConfig)
    (minutes : List TickMinute) (asOf : Int) :
    (∀ lifecycle, runLifecycleToAsOf trigger config (minutes.map TickMinute.candle) asOf =
        .ok lifecycle → Earned trigger config (postOf trigger minutes asOf) lifecycle) ↔
      trigger.risk = 0 ∨ Fair trigger config (postOf trigger minutes asOf) := by
  have nonneg : 0 ≤ trigger.risk := abs_nonneg _
  rcases nonneg.eq_or_lt with zero | risk
  · refine iff_of_true (fun lifecycle ran => ?_) (.inl zero.symm)
    unfold runLifecycleToAsOf at ran
    rw [if_pos zero.ge] at ran
    cases ran
  · rw [or_iff_right risk.ne', runLifecycleToAsOf_eq risk, ← earned_reportOf_iff risk asOf]
    exact ⟨fun all => all _ rfl, fun earned lifecycle same => Except.ok.inj same ▸ earned⟩

end Ticks

/-- A trade entered at 100 on a bar that ends at 09:46 of a day, with its stop two points below. -/
def longTrigger : Trigger where
  direction := .bullish
  entryBar := ⟨15300000000, 15360000000, 99, 100, 99, 100⟩
  entryPrice := 100
  initialStop := 98

/-- A minute after it that opens three points below the stop. -/
def gapMinute : TickMinute := ⟨15360000000, 15420000000, 95, [96]⟩

/-- The stop is booked at 98, where the first price that was traded is 95. -/
theorem gap_booked_at_stop :
    (∃ lifecycle ∈ (runLifecycleToAsOf longTrigger .standard [gapMinute.candle]
        15420000000).toOption, lifecycle.exitReason = some .stopOrTrail ∧
        lifecycle.exitPrice = some 98) ∧
      firstBeyond longTrigger.direction 98 gapMinute.ticks = some 95 ∧
      ¬∀ (trigger : Trigger) (config : DiscoveryConfig) (minutes : List TickMinute) (asOf : Int)
        (lifecycle : ShadowLifecycle),
        runLifecycleToAsOf trigger config (minutes.map TickMinute.candle) asOf = .ok lifecycle →
          Earned trigger config (postOf trigger minutes asOf) lifecycle := by
  refine ⟨by decide +kernel, by decide +kernel, fun always => ?_⟩
  have earned := always longTrigger .standard [gapMinute] 15420000000 _
    (runLifecycleToAsOf_eq (by decide +kernel) [gapMinute] 15420000000)
  have exits : exitOf longTrigger .standard longTrigger.start
      (postOf longTrigger [gapMinute] 15420000000) = some (longTrigger.start, gapMinute) := rfl
  have fair := ((earned_reportOf_iff (by decide +kernel) 15420000000).mp earned).stops _ exits 95
    (by decide +kernel)
  exact absurd fair (by decide +kernel)

end BreezeTrading.StrategyC
