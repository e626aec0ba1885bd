/-
This file keeps track of things that are taken in hand, worked on in phases, and put down. Who has
a thing in hand owns a token with its key and phase. Each key in hand has exactly one token, and a
key in no hands is in a phase in which nothing is left to do.
-/

import Mathlib.Algebra.Order.Group.Multiset

namespace Async

variable {Key Phase : Type}

/-- The keys in hand are owned, each by one token in a phase that holds of it, and of every other
key a settled phase holds. -/
structure Custody (inPhase : Key → Phase → Prop) (settled : Phase → Prop) (held : List Key)
    (credit : Multiset (Key × Phase)) : Prop where
  names : credit.map Prod.fst = held
  distinct : held.Nodup
  phases : ∀ token ∈ credit, inPhase token.1 token.2
  free : ∀ key, key ∉ held → ∃ phase, settled phase ∧ inPhase key phase

/-- Tokens of some keys, for none of which anything is left to do. -/
structure AllSettled (settled : Phase → Prop) (keys : List Key) (tokens : Multiset (Key × Phase)) :
    Prop where
  names : tokens.map Prod.fst = keys
  settled : ∀ token ∈ tokens, settled token.2

/-- The tokens of some keys in one phase. -/
def tokensIn (phase : Phase) (keys : List Key) : Multiset (Key × Phase) :=
  keys.map (·, phase)

section Tokens

variable {phase : Phase} {keys : List Key} {settled : Phase → Prop}

@[simp] theorem map_fst_tokensIn (phase : Phase) (keys : List Key) :
    (tokensIn phase keys).map Prod.fst = keys := by
  unfold tokensIn
  rw [Multiset.map_coe, List.map_map]
  exact congrArg _ (List.map_id keys)

theorem mem_tokensIn {token : Key × Phase} :
    token ∈ tokensIn phase keys ↔ token.1 ∈ keys ∧ token.2 = phase := by
  unfold tokensIn
  rw [Multiset.mem_coe, List.mem_map]
  constructor
  · rintro ⟨key, member, rfl⟩
    exact ⟨member, rfl⟩
  · rintro ⟨member, rfl⟩
    exact ⟨token.1, member, rfl⟩

theorem tokensIn_cons (phase : Phase) (key : Key) (keys : List Key) :
    tokensIn phase (key :: keys) = {(key, phase)} + tokensIn phase keys := rfl

theorem allSettled_tokensIn (isSettled : settled phase) (keys : List Key) :
    AllSettled settled keys (tokensIn phase keys) :=
  ⟨map_fst_tokensIn phase keys, fun _ member => (mem_tokensIn.mp member).2 ▸ isSettled⟩

theorem allSettled_nil : AllSettled settled ([] : List Key) 0 :=
  ⟨rfl, fun token member => absurd member (Multiset.notMem_zero token)⟩

theorem AllSettled.none {tokens : Multiset (Key × Phase)} (all : AllSettled settled [] tokens) :
    tokens = 0 := Multiset.map_eq_zero.mp all.names

theorem AllSettled.cons {key : Key} {others : Multiset (Key × Phase)} (isSettled : settled phase)
    (rest : AllSettled settled keys others) :
    AllSettled settled (key :: keys) ({(key, phase)} + others) := by
  refine ⟨?_, fun token member => ?_⟩
  · rw [Multiset.map_add, rest.names, Multiset.map_singleton, Multiset.singleton_add,
      Multiset.cons_coe]
  · rcases Multiset.mem_add.mp member with same | other
    · exact Multiset.mem_singleton.mp same ▸ isSettled
    · exact rest.settled token other

theorem allSettled_singleton (key : Key) (isSettled : settled phase) :
    AllSettled settled [key] {(key, phase)} := .cons isSettled allSettled_nil

end Tokens

namespace Custody

variable {inPhase other : Key → Phase → Prop} {settled : Phase → Prop} {held : List Key}
  {credit rest : Multiset (Key × Phase)} {key : Key} {phase : Phase}

/-- Nothing is in hand. -/
theorem none (free : ∀ key, ∃ phase, settled phase ∧ inPhase key phase) :
    Custody inPhase settled [] 0 :=
  ⟨rfl, List.nodup_nil, fun token member => absurd member (Multiset.notMem_zero token),
    fun key _ => free key⟩

/-- Every key is in some phase. -/
theorem exists_phase (custody : Custody inPhase settled held credit) (key : Key) :
    ∃ phase, inPhase key phase := by
  by_cases taken : key ∈ held
  · rw [← Multiset.mem_coe, ← custody.names] at taken
    obtain ⟨token, member, rfl⟩ := Multiset.mem_map.mp taken
    exact ⟨token.2, custody.phases token member⟩
  · obtain ⟨phase, _, holds⟩ := custody.free key taken
    exact ⟨phase, holds⟩

/-- What holds in the phase of a key may change, as long as nobody leaves the phase. -/
theorem imp (custody : Custody inPhase settled held credit)
    (keeps : ∀ key phase, inPhase key phase → other key phase) :
    Custody other settled held credit := by
  refine ⟨custody.names, custody.distinct,
    fun token member => keeps _ _ (custody.phases token member), fun key untaken => ?_⟩
  obtain ⟨phase, isSettled, holds⟩ := custody.free key untaken
  exact ⟨phase, isSettled, keeps key phase holds⟩

section

variable (custody : Custody inPhase settled held ({(key, phase)} + rest))

include custody

theorem own_phase : inPhase key phase :=
  custody.phases _ (Multiset.mem_add.mpr (Or.inl (Multiset.mem_singleton_self _)))

theorem own_held : key ∈ held := by
  rw [← Multiset.mem_coe, ← custody.names, Multiset.map_add, Multiset.map_singleton]
  exact Multiset.mem_add.mpr (Or.inl (Multiset.mem_singleton_self _))

/-- No key has two tokens. -/
theorem notMem_rest : key ∉ rest.map Prod.fst := by
  have distinct : (({(key, phase)} + rest).map Prod.fst).Nodup := by
    rw [custody.names]
    exact Multiset.coe_nodup.mpr custody.distinct
  rw [Multiset.map_add, Multiset.map_singleton, Multiset.singleton_add] at distinct
  exact (Multiset.nodup_cons.mp distinct).1

/-- A key in hand reaches another phase, and the other keys stay in theirs. -/
theorem move {reached : Phase} (reaches : other key reached)
    (others : ∀ otherKey phase, otherKey ≠ key → inPhase otherKey phase → other otherKey phase) :
    Custody other settled held ({(key, reached)} + rest) := by
  refine ⟨?_, custody.distinct, fun token member => ?_, fun otherKey untaken => ?_⟩
  · rw [← custody.names, Multiset.map_add, Multiset.map_add, Multiset.map_singleton,
      Multiset.map_singleton]
  · rcases Multiset.mem_add.mp member with same | member
    · obtain rfl := Multiset.mem_singleton.mp same
      exact reaches
    · refine others _ _ (fun same => custody.notMem_rest ?_)
        (custody.phases token (Multiset.mem_add.mpr (Or.inr member)))
      exact same ▸ Multiset.mem_map_of_mem Prod.fst member
  · obtain ⟨phase, isSettled, holds⟩ := custody.free otherKey untaken
    exact ⟨phase, isSettled, others otherKey phase
      (fun same => untaken (same ▸ custody.own_held)) holds⟩

end

/-- Keys in no hands are taken, in a phase that holds of them. -/
theorem take (custody : Custody inPhase settled held credit) {keys : List Key}
    (distinct : keys.Nodup) (untaken : ∀ key ∈ keys, key ∉ held)
    (holds : ∀ key ∈ keys, inPhase key phase) :
    Custody inPhase settled (keys ++ held) (tokensIn phase keys + credit) := by
  refine ⟨?_, ?_, fun token member => ?_, fun key free => ?_⟩
  · rw [Multiset.map_add, map_fst_tokensIn, custody.names, Multiset.coe_add]
  · exact List.Nodup.append distinct custody.distinct fun key taken inHand =>
      untaken key taken inHand
  · rcases Multiset.mem_add.mp member with taken | member
    · obtain ⟨listed, same⟩ := mem_tokensIn.mp taken
      exact same ▸ holds token.1 listed
    · exact custody.phases token member
  · rw [List.mem_append, not_or] at free
    exact custody.free key free.2

/-- Keys for which nothing is left to do are put down. -/
theorem putDown [DecidableEq Key] {tokens : Multiset (Key × Phase)} {keys : List Key}
    (custody : Custody inPhase settled held (tokens + rest))
    (all : AllSettled settled keys tokens) :
    Custody inPhase settled (held.diff keys) rest := by
  have remaining : rest.map Prod.fst = held.diff keys := by
    rw [← Multiset.coe_sub, ← custody.names, Multiset.map_add, all.names, add_tsub_cancel_left]
  refine ⟨remaining, custody.distinct.sublist (List.diff_sublist _ _), fun token member =>
    custody.phases token (Multiset.mem_add.mpr (Or.inr member)), fun key free => ?_⟩
  by_cases taken : key ∈ held
  · rw [← Multiset.mem_coe, ← custody.names] at taken
    obtain ⟨token, member, rfl⟩ := Multiset.mem_map.mp taken
    rcases Multiset.mem_add.mp member with own | others
    · exact ⟨token.2, all.settled token own, custody.phases token member⟩
    · refine absurd (Multiset.mem_map_of_mem Prod.fst others) ?_
      rw [remaining, Multiset.mem_coe]
      exact free
  · exact custody.free key taken

end Custody

end Async
