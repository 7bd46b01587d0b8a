import Mathlib.Data.Multiset.AddSub
import PumpSwapSdk.Foundation.Reservation
import PumpSwapSdk.Foundation.StaleRead
import PumpSwapSdk.Jito

/-!
# Concurrent reservations

Any number of calls of `next_client` run at once. A call takes its ticket in one atomic step, and
then goes around its loop until the client of its ticket is granted to it; each round holds the
lock, at an instant that is not before that of the round before it, of whichever call
(`PoolStep`). Calls with the same endpoint can overtake each other: a round may come at any time
after the call was told to wait.

In every interleaving the grants of an endpoint are an interval apart, and the tickets are spread
evenly (`reservations_spaced_and_balanced`).
-/

set_option autoImplicit false

namespace PumpSwapSdk

open Foundation.Reservation
open Foundation.StaleRead
open Relation (ReflTransGen)

/-! ## The calls of a pool -/

/-- A pool under concurrent calls: its cells, the instant of the last round, and of the calls the
endpoints of their tickets: of all in the order they took them, of those that still wait, and of
those that panicked. Grants come with their instants, in their order. -/
structure PoolRun (pool : JitoPool) where
  cells : JitoPool.Cells pool
  clock : ℕ
  tickets : List (Fin pool.clients.length)
  waiting : Multiset (Fin pool.clients.length)
  panicked : Multiset (Fin pool.clients.length)
  grants : List (Fin pool.clients.length × ℕ)

variable {pool : JitoPool} {lastInstant built now : ℕ} {run next : PoolRun pool}
variable {i : Fin pool.clients.length}

namespace PoolRun

/-- A pool that was just built. -/
def initial (pool : JitoPool) (built : ℕ) : PoolRun pool where
  cells := pool.fresh built
  clock := built
  tickets := []
  waiting := 0
  panicked := 0
  grants := []

/-- A new call takes its ticket. -/
def arrive (run : PoolRun pool) : PoolRun pool :=
  let (i, cells) := JitoPool.takeTicket run.cells
  { run with
    cells := cells
    tickets := run.tickets ++ [i]
    waiting := i ::ₘ run.waiting }

/-- A call that waits for an endpoint goes around its loop. -/
def round (lastInstant now : ℕ) (i : Fin pool.clients.length) (run : PoolRun pool) :
    PoolRun pool :=
  match JitoPool.reserve lastInstant now i run.cells with
  | .ok (none, cells) =>
      { run with
        cells := cells
        clock := now
        waiting := run.waiting.erase i
        grants := run.grants ++ [(i, now)] }
  | .ok (some _, cells) => { run with cells := cells, clock := now }
  | .error _ =>
      { run with
        clock := now
        waiting := run.waiting.erase i
        panicked := i ::ₘ run.panicked }

end PoolRun

/-- One step of some call. -/
inductive PoolStep (lastInstant : ℕ) : PoolRun pool → PoolRun pool → Prop where
  | arrival (run : PoolRun pool) : PoolStep lastInstant run run.arrive
  | round (run : PoolRun pool) (now : ℕ) (i : Fin pool.clients.length)
      (waits : i ∈ run.waiting) (forward : run.clock ≤ now) :
      PoolStep lastInstant run (run.round lastInstant now i)

/-! ## One step -/

/-- **What a round does:** it grants the endpoint at the end of the wait, tells to wait on, or
panics at the end of time. -/
theorem PoolRun.round_cases (lastInstant now : ℕ) (i : Fin pool.clients.length)
    (run : PoolRun pool) :
    (run.cells.last i ≤ now ∧ run.round lastInstant now i =
      { run with
        cells := ⟨Function.update run.cells.last i (now + pool.interval), run.cells.rr⟩
        clock := now
        waiting := run.waiting.erase i
        grants := run.grants ++ [(i, now)] }) ∨
    run.round lastInstant now i = { run with clock := now } ∨
    run.round lastInstant now i =
      { run with
        clock := now
        waiting := run.waiting.erase i
        panicked := i ::ₘ run.panicked } := by
  by_cases ready : run.cells.last i ≤ now
  · by_cases representable : now + pool.interval ≤ lastInstant
    · refine Or.inl ⟨ready, ?_⟩
      simp only [round, JitoPool.reserve, if_pos ready, if_pos representable]
    · refine Or.inr (Or.inr ?_)
      simp only [round, JitoPool.reserve, if_pos ready, if_neg representable]
  · refine Or.inr (Or.inl ?_)
    simp only [round, JitoPool.reserve, if_neg ready]

/-- Grants that are spaced, under a table of slots that covers them. -/
structure Orderly (run : PoolRun pool) : Prop where
  spaced : Spaced pool.interval run.grants
  covers : Covers pool.interval run.grants run.cells.last

/-- **No step of any call breaks the order of the grants.** -/
theorem stable_orderly (lastInstant : ℕ) :
    Stable (PoolStep lastInstant) (@Orderly pool) := by
  intro run next orderly step
  cases step with
  | arrival => exact ⟨orderly.spaced, orderly.covers⟩
  | round now i waits forward =>
      obtain ⟨ready, granted⟩ | waited | stuck := run.round_cases lastInstant now i
      · rw [granted]
        exact ⟨orderly.spaced.grant orderly.covers ready,
          orderly.covers.grant ready (Nat.le_add_right now pool.interval)⟩
      · rw [waited]
        exact ⟨orderly.spaced, orderly.covers⟩
      · rw [stuck]
        exact ⟨orderly.spaced, orderly.covers⟩

/-- The counter counts the tickets, which follow it around. -/
structure Rotated (run : PoolRun pool) : Prop where
  counted : run.cells.rr = BitVec.ofNat 64 run.tickets.length
  followed : run.tickets =
    (List.range run.tickets.length).map fun ticket => pool.endpointOf (ticket % 2 ^ 64)

/-- **Every ticket is the next in rotation.** -/
theorem stable_rotated (lastInstant : ℕ) :
    Stable (PoolStep lastInstant) (@Rotated pool) := by
  intro run next rotated step
  cases step with
  | arrival =>
      have counter : run.cells.rr.toNat = run.tickets.length % 2 ^ 64 := by
        rw [rotated.counted, BitVec.toNat_ofNat]
      refine ⟨?_, ?_⟩
      · simp only [PoolRun.arrive, JitoPool.takeTicket, rotated.counted, List.length_append,
          List.length_singleton, BitVec.ofNat_add]
        rfl
      · simp only [PoolRun.arrive, JitoPool.takeTicket, counter, List.length_append,
          List.length_singleton, List.range_succ, List.map_append, List.map_singleton,
          ← rotated.followed]
  | round now i waits forward =>
      obtain ⟨-, granted⟩ | waited | stuck := run.round_cases lastInstant now i
      · rw [granted]
        exact ⟨rotated.counted, rotated.followed⟩
      · rw [waited]
        exact ⟨rotated.counted, rotated.followed⟩
      · rw [stuck]
        exact ⟨rotated.counted, rotated.followed⟩

/-- Every call waits, was granted its endpoint or panicked. -/
def Accounted (run : PoolRun pool) : Prop :=
  ∀ i, run.tickets.count i =
    run.waiting.count i + (run.grants.map Prod.fst).count i + run.panicked.count i

/-- **No reservation is lost, and none is granted twice.** -/
theorem stable_accounted (lastInstant : ℕ) :
    Stable (PoolStep lastInstant) (@Accounted pool) := by
  intro run next accounted step j
  have before := accounted j
  cases step with
  | arrival =>
      simp only [PoolRun.arrive, List.count_append, List.count_singleton, Multiset.count_cons,
        beq_iff_eq, eq_comm (a := j)]
      omega
  | round now i waits forward =>
      obtain ⟨others, waiting⟩ := Multiset.exists_cons_of_mem waits
      rw [waiting, Multiset.count_cons] at before
      obtain ⟨-, granted⟩ | waited | stuck := run.round_cases lastInstant now i
      · simp only [granted, waiting, Multiset.erase_cons_head, List.map_append, List.map_cons,
          List.map_nil, List.count_append, List.count_singleton, beq_iff_eq, eq_comm (a := j)] at *
        omega
      · rw [waited]
        exact accounted j
      · simp only [stuck, waiting, Multiset.erase_cons_head, Multiset.count_cons]
        omega

/-! ## Every interleaving -/

/-- Tickets taken before the counter wraps are a rotation. -/
theorem Rotated.eq_rotation (rotated : Rotated run) (unwrapped : run.tickets.length ≤ 2 ^ 64) :
    run.tickets = rotation pool.occupied run.tickets.length := by
  rw [rotated.followed, List.length_map, List.length_range]
  refine List.map_congr_left fun ticket member => ?_
  rw [Nat.mod_eq_of_lt (Nat.lt_of_lt_of_le (List.mem_range.mp member) unwrapped)]
  rfl

/-- **Every call that took a ticket** waits, was granted its endpoint once or panicked. -/
theorem calls_accounted
    (reached : ReflTransGen (PoolStep lastInstant) (PoolRun.initial pool built) run) :
    Accounted run := by
  have none_yet : Accounted (PoolRun.initial pool built) := fun _ => rfl
  exact (stable_accounted lastInstant).of_run none_yet reached

/-- **Reservations are spaced and balanced.** Whatever order the calls of a pool take their steps
in, two grants of an endpoint are at least an interval apart, and until the ticket counter wraps
no endpoint is ahead of another by more than one ticket. -/
theorem reservations_spaced_and_balanced (pool : JitoPool) (lastInstant built : ℕ)
    (run : PoolRun pool)
    (reached : ReflTransGen (PoolStep lastInstant) (PoolRun.initial pool built) run) :
    Spaced pool.interval run.grants ∧
      (run.tickets.length ≤ 2 ^ 64 →
        ∀ i j, run.tickets.count i ≤ run.tickets.count j + 1) := by
  constructor
  · have orderly : Orderly (PoolRun.initial pool built) := ⟨spaced_nil, covers_nil _⟩
    exact ((stable_orderly lastInstant).of_run orderly reached).spaced
  · intro unwrapped i j
    have rotated : Rotated (PoolRun.initial pool built) := ⟨rfl, rfl⟩
    rw [((stable_rotated lastInstant).of_run rotated reached).eq_rotation unwrapped]
    exact count_rotation_le pool.occupied _ i j

namespace Recorded

/-- Two clients with a cooldown of five nanoseconds. -/
def twoClients : JitoPool where
  clients := [⟨"first/api/v1", none⟩, ⟨"second/api/v1", none⟩]
  interval := 5
  occupied := by decide

/-- Three calls that have their tickets. -/
def threeTickets : PoolRun twoClients := (PoolRun.initial twoClients 0).arrive.arrive.arrive

/-- The rounds of the three, of which the second has to wait for the first client. -/
def threeCalls : PoolRun twoClients :=
  (((threeTickets.round 100 2 (twoClients.endpointOf 0)).round 100 3
    (twoClients.endpointOf 0)).round 100 3 (twoClients.endpointOf 1)).round 100 7
      (twoClients.endpointOf 0)

theorem threeCalls_reached :
    ReflTransGen (PoolStep 100) (PoolRun.initial twoClients 0) threeCalls := by
  have arrives : ReflTransGen (PoolStep 100) (PoolRun.initial twoClients 0) threeTickets :=
    ((ReflTransGen.single (.arrival _)).tail (.arrival _)).tail (.arrival _)
  have granted := arrives.tail
    (.round _ 2 (twoClients.endpointOf 0) (by decide +kernel) (by decide +kernel))
  have waits := granted.tail
    (.round _ 3 (twoClients.endpointOf 0) (by decide +kernel) (by decide +kernel))
  have other := waits.tail
    (.round _ 3 (twoClients.endpointOf 1) (by decide +kernel) (by decide +kernel))
  exact other.tail
    (.round _ 7 (twoClients.endpointOf 0) (by decide +kernel) (by decide +kernel))

end Recorded

/-- Of three calls on two clients, the first and the third are granted the same one, five
nanoseconds apart. -/
theorem reservations_spaced_and_balanced_three :
    Recorded.threeCalls.grants.map (fun grant => (grant.1.val, grant.2)) =
        [(0, 2), (1, 3), (0, 7)] ∧
      Spaced 5 Recorded.threeCalls.grants ∧
      ∀ i j, Recorded.threeCalls.tickets.count i ≤ Recorded.threeCalls.tickets.count j + 1 := by
  obtain ⟨spaced, balanced⟩ := reservations_spaced_and_balanced Recorded.twoClients 100 0
    Recorded.threeCalls Recorded.threeCalls_reached
  exact ⟨by decide +kernel, spaced, balanced (by decide +kernel)⟩

end PumpSwapSdk
