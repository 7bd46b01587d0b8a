import PumpSwapSdk.Basic
import Mathlib.Data.Fintype.EquivFin
import Mathlib.Logic.Function.Basic

/-!
# Jito bundles

A pool of Jito clients that hands out one reservation for each bundle, and the sending of a bundle
with retries. The parts of a pool that concurrent calls share, its table of slots and its counter,
are the pool's cells. Instants and durations are nanoseconds.
-/

set_option autoImplicit false

namespace PumpSwapSdk

/-! ## Clients and answers -/

/-- A client of a Jito endpoint. -/
structure JitoJsonRpcSDK where
  baseUrl : String
  uuid : Option String
deriving DecidableEq

/-- A value of an answer. -/
inductive Json where
  | null
  | bool (value : Bool)
  | number (text : String)
  | string (text : String)
  | array (items : List Json)
  | object (fields : List (String × Json))

namespace Json

/-- `value[key]`: null when it is no object, or has no such field. -/
def get (key : String) : Json → Json
  | .object fields => (fields.lookup key).getD .null
  | _ => .null

def asStr : Json → Option String
  | .string text => some text
  | _ => none

end Json

/-! ## The pool -/

/-- A pool of clients that share a cooldown. It has at least one. -/
structure JitoPool where
  clients : List JitoJsonRpcSDK
  interval : ℕ
  occupied : 0 < clients.length

namespace JitoPool

/-- What concurrent calls share: when each client's next slot begins, and the ticket counter. -/
structure Cells (pool : JitoPool) where
  last : Fin pool.clients.length → ℕ
  rr : U64

/-- A pool over endpoints, of which there must be one. -/
def new (endpoints : List String) (uuid : Option String) (interval : ℕ) : Result JitoPool :=
  match endpoints with
  | [] => bail "JitoPool requires at least one endpoint"
  | first :: rest =>
      .ok
        { clients := (first :: rest).map fun endpoint => ⟨endpoint ++ "/api/v1", uuid⟩
          interval := interval
          occupied := by rw [List.length_map]; exact Nat.succ_pos rest.length }

/-- The cells of a pool that is built at an instant. -/
def fresh (pool : JitoPool) (now : ℕ) : Cells pool := ⟨fun _ => now, 0⟩

variable {pool : JitoPool}

/-- The endpoint of a ticket. -/
def endpointOf (pool : JitoPool) (ticket : ℕ) : Fin pool.clients.length :=
  ⟨ticket % pool.clients.length, Nat.mod_lt ticket pool.occupied⟩

/-- The start of `next_client`: takes a ticket, and steps the counter, which wraps. -/
def takeTicket (cells : Cells pool) : Fin pool.clients.length × Cells pool :=
  (pool.endpointOf cells.rr.toNat, { cells with rr := cells.rr + 1 })

/-- One round of the loop of `next_client`, under the lock, at the instant `now`: either moves the
client's slot on, or tells how long to wait for it. The sum of an instant and a duration panics
beyond the last instant that the clock can represent. -/
def reserve (lastInstant now : ℕ) (i : Fin pool.clients.length) (cells : Cells pool) :
    Result (Option ℕ × Cells pool) :=
  if cells.last i ≤ now then
    if now + pool.interval ≤ lastInstant then
      .ok (none, { cells with last := Function.update cells.last i (now + pool.interval) })
    else .error (.panicked "overflow when adding duration to instant")
  else .ok (some (cells.last i - now), cells)

end JitoPool

/-! ## Sending -/

/-- The crates that encode a transaction for a bundle, and a client's request for one. -/
structure JitoCrates (Transaction : Type) where
  /-- `bincode::serde::encode_to_vec`. -/
  encodeToVec : Transaction → Except String (List U8)
  /-- The standard base-64 encoding. -/
  base64Encode : List U8 → String

/-- The parameters of the request that sends a bundle. -/
def bundleParams {Transaction : Type} (crates : JitoCrates Transaction)
    (txs : List Transaction) : Except String Json := do
  let serializedTxs ← txs.mapM fun tx => (crates.encodeToVec tx).map crates.base64Encode
  let bundle := Json.array (serializedTxs.map .string)
  .ok (.array [bundle, .object [("encoding", .string "base64")]])

/-- Submits a bundle. The client's answer depends on the request. -/
def sendJitoBundle {Transaction : Type} (crates : JitoCrates Transaction) (txs : List Transaction)
    (sendBundle : Json → Except String Json) : Except String Unit := do
  let params ← bundleParams crates txs
  let response ← sendBundle params
  match (response.get "result").asStr with
  | some _ => .ok ()
  | none => .error "Failed to get bundle UUID from response"

/-- The outcomes of a bundle's sends, when the clients answer as given at each attempt. -/
def bundleOutcomes {Transaction : Type} (crates : JitoCrates Transaction)
    (bundle : List Transaction) (sendBundle : ℕ → Json → Except String Json) (attempt : ℕ) :
    Except String Unit :=
  sendJitoBundle crates bundle (sendBundle attempt)

/-- The error after the last attempt. -/
def failedToSend (maxRetries : U64) (error : String) : Fault :=
  .err s!"Failed to send after {maxRetries.toNat} retries: {error}"

/-- The loop of `send_bundle_with_retry` from an attempt on, given the outcome of each attempt's
send: how many sends it makes altogether, and what it returns. The count of attempts stays within
a word, since it is compared with one after each step. -/
def sendLoop (outcomes : ℕ → Except String Unit) (maxRetries : U64) (attempt : ℕ) :
    ℕ × Result Unit :=
  match outcomes attempt with
  | .ok _ => (attempt, .ok ())
  | .error error =>
      if maxRetries.toNat ≤ attempt + 1 then (attempt, .error (failedToSend maxRetries error))
      else sendLoop outcomes maxRetries (attempt + 1)
termination_by maxRetries.toNat - attempt

/-- Sends a bundle, again after each failure, as often as the retries allow. The outcomes are
those of `sendJitoBundle` with the client that the pool grants to each attempt
(`bundleOutcomes`). -/
def sendBundleWithRetry (outcomes : ℕ → Except String Unit) (maxRetries : U64) :
    ℕ × Result Unit :=
  sendLoop outcomes maxRetries 1

end PumpSwapSdk
