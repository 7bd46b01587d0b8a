import Mathlib.Algebra.Order.Monoid.Defs
import Mathlib.Data.Int.CardIntervalMod
import Mathlib.Data.List.Count
import Mathlib.Logic.Function.Basic

/-!
# Reserved slots

A table holds, for every slot, when it is free again. A reservation is granted where its slot is
free, and moves the entry to the end of its interval. Of a log of grants the entry covers the last
of each slot (`Covers`), so that grants of one slot stay an interval apart (`Spaced`), whatever
order they come in.

Slots that are handed out in rotation are handed out evenly (`count_rotation_le`).
-/

set_option autoImplicit false

namespace Foundation.Reservation

section Spacing

variable {Slot Time : Type*} [Add Time] [Preorder Time] {interval : Time}
variable {log : List (Slot × Time)} {free : Slot → Time}

/-- Later grants of a slot come at least an interval after earlier ones. -/
def Spaced (interval : Time) (log : List (Slot × Time)) : Prop :=
  log.Pairwise fun earlier later =>
    earlier.1 = later.1 → earlier.2 + interval ≤ later.2

/-- A slot is free no earlier than the interval after each of its grants. -/
def Covers (interval : Time) (log : List (Slot × Time)) (free : Slot → Time) : Prop :=
  ∀ grant ∈ log, grant.2 + interval ≤ free grant.1

theorem spaced_nil : Spaced interval ([] : List (Slot × Time)) := List.Pairwise.nil

theorem covers_nil (free : Slot → Time) : Covers interval [] free := by
  intro grant member
  cases member

variable {slot : Slot} {now : Time}

/-- **A grant of a free slot keeps the grants spaced.** -/
theorem Spaced.grant (spaced : Spaced interval log) (covers : Covers interval log free)
    (ready : free slot ≤ now) : Spaced interval (log ++ [(slot, now)]) := by
  rw [Spaced, List.pairwise_append]
  refine ⟨spaced, List.pairwise_singleton _ _, ?_⟩
  intro earlier member later last same
  obtain rfl := List.mem_singleton.mp last
  calc
    earlier.2 + interval ≤ free earlier.1 := covers earlier member
    _ = free slot := by rw [same]
    _ ≤ now := ready

/-- **The table covers a grant once the slot's entry is at the end of its interval.** -/
theorem Covers.grant [DecidableEq Slot] (covers : Covers interval log free)
    (ready : free slot ≤ now) (forward : now ≤ now + interval) :
    Covers interval (log ++ [(slot, now)]) (Function.update free slot (now + interval)) := by
  intro grant member
  rcases List.mem_append.mp member with earlier | last
  · by_cases same : grant.1 = slot
    · rw [same, Function.update_self]
      calc
        grant.2 + interval ≤ free grant.1 := covers grant earlier
        _ = free slot := by rw [same]
        _ ≤ now := ready
        _ ≤ now + interval := forward
    · rw [Function.update_of_ne same]
      exact covers grant earlier
  · obtain rfl := List.mem_singleton.mp last
    rw [Function.update_self]

end Spacing

/-! ## Rotation -/

section Rotation

variable {m : ℕ}

/-- The slot that a ticket falls on. -/
def slotOf (occupied : 0 < m) (ticket : ℕ) : Fin m := ⟨ticket % m, Nat.mod_lt ticket occupied⟩

/-- The slots of the first tickets, in order. -/
def rotation (occupied : 0 < m) (t : ℕ) : List (Fin m) := (List.range t).map (slotOf occupied)

theorem rotation_succ (occupied : 0 < m) (t : ℕ) :
    rotation occupied (t + 1) = rotation occupied t ++ [slotOf occupied t] := by
  rw [rotation, List.range_succ, List.map_append]
  rfl

@[simp] theorem length_rotation (occupied : 0 < m) (t : ℕ) : (rotation occupied t).length = t := by
  rw [rotation, List.length_map, List.length_range]

/-- A slot gets one ticket of every round, and one more if it comes early in the last. -/
theorem count_rotation (occupied : 0 < m) (t : ℕ) (slot : Fin m) :
    (rotation occupied t).count slot = t / m + if slot.val < t % m then 1 else 0 := by
  have counted : (rotation occupied t).count slot = t.count (· ≡ slot.val [MOD m]) := by
    rw [rotation, List.count_eq_countP, List.countP_map, Nat.count, List.countP_eq_length_filter,
      List.countP_eq_length_filter]
    refine congrArg List.length (List.filter_congr fun ticket _ => ?_)
    have same : slotOf occupied ticket = slot ↔ ticket ≡ slot.val [MOD m] := by
      rw [Nat.ModEq, Nat.mod_eq_of_lt slot.isLt, Fin.ext_iff]
      rfl
    simp only [Function.comp_apply, beq_eq_decide, same]
  rw [counted, Nat.count_modEq_card t occupied, Nat.mod_eq_of_lt slot.isLt]

/-- **A rotation is even:** two slots differ by one ticket at most. -/
theorem count_rotation_le (occupied : 0 < m) (t : ℕ) (i j : Fin m) :
    (rotation occupied t).count i ≤ (rotation occupied t).count j + 1 := by
  rw [count_rotation, count_rotation]
  split
  · omega
  · omega

end Rotation

end Foundation.Reservation
