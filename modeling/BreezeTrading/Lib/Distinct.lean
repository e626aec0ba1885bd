/-
This file defines deduplication by key: an item is accepted to a list unless an
item with its key is there already. When equal keys mean equal items, every
delivery of the same items, in any order and with any repetition, accepts the
same items, so any sum over what was accepted is a function of the set delivered.
-/

import Mathlib.Data.List.Induction
import Mathlib.Data.List.Nodup

namespace Stored

section Distinct

variable {Item Key : Type} [DecidableEq Key] {key : Item → Key}

/-- Accept an item, unless one with its key is kept. -/
def accept (key : Item → Key) (kept : List Item) (item : Item) : List Item :=
  if key item ∈ kept.map key then kept else kept ++ [item]

/-- Accept the items of a list one after another. -/
def acceptAll (key : Item → Key) (kept items : List Item) : List Item :=
  items.foldl (accept key) kept

theorem acceptAll_cons (kept : List Item) (item : Item) (items : List Item) :
    acceptAll key kept (item :: items) = acceptAll key (accept key kept item) items := rfl

variable {kept items : List Item} {item : Item}

theorem mem_accept {other : Item} (inside : other ∈ accept key kept item) :
    other ∈ kept ∨ other = item := by
  unfold accept at inside
  split at inside
  · exact Or.inl inside
  · rcases List.mem_append.mp inside with before | last
    · exact Or.inl before
    · exact Or.inr (List.mem_singleton.mp last)

theorem subset_accept (kept : List Item) (item : Item) : kept ⊆ accept key kept item := by
  intro other inside
  unfold accept
  split
  · exact inside
  · exact List.mem_append_left _ inside

/-- The key of an item is kept once the item was accepted, or another with its key before. -/
theorem key_mem_accept (key : Item → Key) (kept : List Item) (item : Item) :
    key item ∈ (accept key kept item).map key := by
  unfold accept
  split
  · assumption
  · exact List.mem_map_of_mem List.mem_concat_self

theorem nodup_accept (unique : (kept.map key).Nodup) (item : Item) :
    ((accept key kept item).map key).Nodup := by
  unfold accept
  split
  · exact unique
  · rename_i fresh
    rw [List.map_append]
    exact unique.append (List.nodup_singleton _) (List.disjoint_singleton.mpr fresh)

theorem nodup_acceptAll (unique : (kept.map key).Nodup) (items : List Item) :
    ((acceptAll key kept items).map key).Nodup := by
  induction items generalizing kept with
  | nil => exact unique
  | cons item rest inductionHypothesis => exact inductionHypothesis (nodup_accept unique item)

theorem subset_acceptAll (key : Item → Key) (kept items : List Item) : kept ⊆ acceptAll key kept items := by
  induction items generalizing kept with
  | nil => exact fun _ inside => inside
  | cons item rest inductionHypothesis =>
    exact fun _ inside => inductionHypothesis _ (subset_accept kept item inside)

theorem mem_acceptAll {other : Item} (inside : other ∈ acceptAll key kept items) :
    other ∈ kept ∨ other ∈ items := by
  induction items generalizing kept with
  | nil => exact Or.inl inside
  | cons item rest inductionHypothesis =>
    rcases inductionHypothesis inside with before | later
    · rcases mem_accept before with old | rfl
      · exact Or.inl old
      · exact Or.inr List.mem_cons_self
    · exact Or.inr (List.mem_cons_of_mem _ later)

theorem key_mem_acceptAll (key : Item → Key) (kept : List Item) (delivered : item ∈ items) :
    key item ∈ (acceptAll key kept items).map key := by
  induction items generalizing kept with
  | nil => cases delivered
  | cons head rest inductionHypothesis =>
    rcases List.mem_cons.mp delivered with rfl | later
    · obtain ⟨found, inside, same⟩ := List.mem_map.mp (key_mem_accept key kept item)
      exact List.mem_map.mpr ⟨found, subset_acceptAll key _ rest inside, same⟩
    · exact inductionHypothesis _ later

/-- Equal keys mean equal items. -/
def Consistent (key : Item → Key) (items : List Item) : Prop :=
  ∀ first ∈ items, ∀ second ∈ items, key first = key second → first = second

/-- Of consistent items, exactly those delivered are accepted. -/
theorem mem_acceptAll_nil_iff (consistent : Consistent key items) (item : Item) :
    item ∈ acceptAll key [] items ↔ item ∈ items := by
  constructor
  · intro inside
    exact (mem_acceptAll inside).resolve_left List.not_mem_nil
  · intro delivered
    obtain ⟨found, inside, same⟩ := List.mem_map.mp (key_mem_acceptAll key [] delivered)
    have deliveredToo : found ∈ items :=
      (mem_acceptAll inside).resolve_left List.not_mem_nil
    rwa [consistent found deliveredToo item delivered same] at inside

/-- What is accepted is, up to its order, a function of the set of items delivered. -/
theorem acceptAll_perm {first second : List Item} (consistent : Consistent key first)
    (same : ∀ item, item ∈ first ↔ item ∈ second) :
    (acceptAll key [] first).Perm (acceptAll key [] second) := by
  have consistentToo : Consistent key second := fun one inOne two inTwo =>
    consistent one ((same one).mpr inOne) two ((same two).mpr inTwo)
  have keys : ∀ items, ((acceptAll key [] items).map key).Nodup :=
    nodup_acceptAll (show (([] : List Item).map key).Nodup from List.nodup_nil)
  have unique : ∀ items, (acceptAll key [] items).Nodup := fun items => (keys items).of_map key
  refine (List.perm_ext_iff_of_nodup (unique first) (unique second)).mpr fun item => ?_
  rw [mem_acceptAll_nil_iff consistent, mem_acceptAll_nil_iff consistentToo, same]

theorem acceptAll_append (kept first second : List Item) :
    acceptAll key kept (first ++ second) = acceptAll key (acceptAll key kept first) second :=
  List.foldl_append

/-- The first item with its key is the first among any items it is chosen with. -/
theorem mem_acceptAll_filter {keep : Item → Bool} (kept : keep item = true)
    (inside : item ∈ acceptAll key [] items) : item ∈ acceptAll key [] (items.filter keep) := by
  induction items using List.reverseRecOn with
  | nil => exact absurd inside List.not_mem_nil
  | append_singleton items last inductionHypothesis =>
    rw [acceptAll_append] at inside
    rw [List.filter_append, acceptAll_append]
    by_cases before : item ∈ acceptAll key [] items
    · exact subset_acceptAll key _ _ (inductionHypothesis before)
    · have chosen : item = last := (mem_accept inside).resolve_left before
      subst chosen
      rw [List.filter_cons_of_pos kept, List.filter_nil]
      have fresh : key item ∉ (acceptAll key [] (items.filter keep)).map key := by
        intro known
        obtain ⟨other, member, same⟩ := List.mem_map.mp known
        have delivered : other ∈ items :=
          List.mem_of_mem_filter ((mem_acceptAll member).resolve_left List.not_mem_nil)
        have seen := key_mem_acceptAll key [] delivered
        rw [same] at seen
        change item ∈ accept key (acceptAll key [] items) item at inside
        rw [accept, if_pos seen] at inside
        exact before inside
      change item ∈ accept key (acceptAll key [] (items.filter keep)) item
      rw [accept, if_neg fresh]
      exact List.mem_concat_self

/-- When items with one key are chosen together, choosing and accepting commute. -/
theorem acceptAll_filter (keep : Item → Bool) (together : ∀ first ∈ items, ∀ second ∈ items, key
      first = key second → keep first = keep second) :
    acceptAll key [] (items.filter keep) = (acceptAll key [] items).filter keep := by
  induction items using List.reverseRecOn with
  | nil => rfl
  | append_singleton items last inductionHypothesis =>
    have earlier := inductionHypothesis fun first inFirst second inSecond =>
      together first (List.mem_append_left _ inFirst) second (List.mem_append_left _ inSecond)
    rw [List.filter_append, acceptAll_append, acceptAll_append, earlier]
    change _ = (accept key (acceptAll key [] items) last).filter keep
    rw [accept]
    by_cases kept : keep last = true
    · rw [List.filter_cons_of_pos kept, List.filter_nil]
      change accept key ((acceptAll key [] items).filter keep) last = _
      have known : key last ∈ ((acceptAll key [] items).filter keep).map key ↔
          key last ∈ (acceptAll key [] items).map key := by
        constructor
        · intro inside
          obtain ⟨other, member, same⟩ := List.mem_map.mp inside
          exact List.mem_map.mpr ⟨other, List.mem_of_mem_filter member, same⟩
        · intro inside
          obtain ⟨other, member, same⟩ := List.mem_map.mp inside
          have delivered : other ∈ items :=
            (mem_acceptAll member).resolve_left List.not_mem_nil
          have keptToo := together other (List.mem_append_left _ delivered) last
            List.mem_concat_self same
          exact List.mem_map.mpr
            ⟨other, List.mem_filter.mpr ⟨member, keptToo.trans kept⟩, same⟩
      rw [accept]
      by_cases seen : key last ∈ (acceptAll key [] items).map key
      · rw [if_pos seen, if_pos (known.mpr seen)]
      · rw [if_neg seen, if_neg fun inside => seen (known.mp inside), List.filter_append,
          List.filter_cons_of_pos kept, List.filter_nil]
    · rw [List.filter_cons_of_neg kept, List.filter_nil]
      split
      · rfl
      · rw [List.filter_append, List.filter_cons_of_neg kept, List.filter_nil, List.append_nil]
        rfl

end Distinct

end Stored
