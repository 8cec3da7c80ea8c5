import Mathlib.Data.String.Basic

namespace SelfCheckout

/-! # What the completion events say

The payloads of `checkout.completions.v1` and `inventory.stock.v1`.  Every one
names an attempt: the transaction and the epoch of its completion.
-/

abbrev Sku := String
abbrev TxId := Nat
abbrev Time := Nat

/-- What a `text` value can hold: every character but NUL. -/
def isText (value : String) : Bool := decide ('\x00' ∉ value.toList)

/-- One completion attempt, the key of Inventory's idempotency record. -/
structure Attempt where
  transactionId : TxId
  epoch : Nat
deriving DecidableEq, Repr

/-- What Checkout publishes on `checkout.completions.v1`. -/
inductive Request where
  | stockReservationRequested (attempt : Attempt) (lines : List (Sku × Nat))
  | stockReleaseRequested (attempt : Attempt)
deriving DecidableEq, Repr

/-- What Inventory publishes on `inventory.stock.v1`. -/
inductive Outcome where
  | stockReserved (attempt : Attempt) (replayed : Bool)
  | stockRejected (attempt : Attempt) (shortSkus : List Sku)
  | reservationRefused (attempt : Attempt)
  | stockReleased (attempt : Attempt) (unitsRestored : Nat) (alreadyReleased : Bool)
deriving DecidableEq, Repr

def Request.attempt : Request → Attempt
  | .stockReservationRequested attempt _ => attempt
  | .stockReleaseRequested attempt => attempt

def Outcome.attempt : Outcome → Attempt
  | .stockReserved attempt _ => attempt
  | .stockRejected attempt _ => attempt
  | .reservationRefused attempt => attempt
  | .stockReleased attempt _ _ => attempt

end SelfCheckout
