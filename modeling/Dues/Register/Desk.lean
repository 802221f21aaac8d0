import Dues.Store.Basic

/-! # The desk

Where the society's business is done: the store, whether it can be reached, and the numbers of the
profile fields that were looked up before. An action on the desk may fail, and what it did until
then stays done unless it ran in a transaction. The looked up numbers stay in any case.
-/

namespace Dues

structure Desk where
  store : Store
  connected : Bool := true
  /-- Numbers of profile fields by internal name. -/
  fieldIds : List (String × Int) := []

abbrev Action (ε α : Type) : Type := EStateM ε Desk α

namespace Action

variable {ε ε' α : Type}

/-- Reports failures of `act` as `f` says. -/
def orFail (act : Action ε α) (f : ε → ε') : Action ε' α := EStateM.adaptExcept f act

/-- Reads from the store. -/
def read (f : Store → Except StoreError α) : Action StoreError α := fun desk =>
  if desk.connected then
    match f desk.store with
    | .ok a => .ok a desk
    | .error e => .error e desk
  else .error .closed desk

/-- Writes to the store, which stays as it is if that fails. What the transaction has done until then
stays done, and it can go on. This is how SQLite has it; Postgres would let such a transaction do
nothing more. -/
def write (f : Store → Except StoreError (α × Store)) : Action StoreError α := fun desk =>
  if desk.connected then
    match f desk.store with
    | .ok (a, store) => .ok a { desk with store }
    | .error e => .error e desk
  else .error .closed desk

/-- Runs `act` as a whole: if it fails, the store is what it was before. -/
def transaction (onClosed : ε) (act : Action ε α) : Action ε α := fun desk =>
  if desk.connected then
    match act desk with
    | .ok a after => .ok a after
    | .error e after => .error e { after with store := desk.store }
  else .error onClosed desk

end Action

end Dues
