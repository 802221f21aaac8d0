import Dues.Register.Desk

/-! # Sessions at the desk

Actions run one after the other, each in a transaction of its own, unless a transaction is opened
for several of them. Inside it, an action that fails does not end the transaction, which is so with
SQLite. With Postgres there could only be a rollback behind the failure.
-/

namespace Dues

structure Session where
  desk : Desk
  /-- The store at the start of the open transaction, if there is one. -/
  saved : Option Store := none

inductive SessionError where
  | transactionOpen
  | noTransaction
  | store (e : StoreError)
  deriving DecidableEq

namespace Session

variable {ε α : Type}

def isOpen (s : Session) : Bool := s.saved.isSome

def openTransaction (s : Session) : Except SessionError Session :=
  if s.isOpen then .error .transactionOpen
  else if s.desk.connected then .ok { s with saved := some s.desk.store }
  else .error (.store .closed)

/-- Keeps what was done in the open transaction. -/
def commit (s : Session) : Except SessionError Session :=
  if s.isOpen then .ok { s with saved := none } else .error .noTransaction

/-- Undoes what was done in the open transaction. -/
def rollback (s : Session) : Except SessionError Session :=
  match s.saved with
  | some store => .ok { desk := { s.desk with store }, saved := none }
  | none => .error .noTransaction

/-- Runs one action. -/
def run (onClosed : ε) (act : Action ε α) (s : Session) : Except ε α × Session :=
  match (if s.isOpen then act else act.transaction onClosed) s.desk with
  | .ok a desk => (.ok a, { s with desk })
  | .error e desk => (.error e, { s with desk })

end Session

end Dues
