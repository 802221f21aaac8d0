import Dues.Store.Basic

/-! # Listings

Whole tables, in order of their numbers.
-/

namespace Dues.Store

def allUsers (s : Store) : Except StoreError (List (Int × User)) := do
  s.require .users
  return s.users.rows

def allMembers (s : Store) : Except StoreError (List (Int × Member)) := do
  s.require .members
  return s.members.rows

def allValues (s : Store) : Except StoreError (List (Int × ValueRow)) := do
  s.require .values
  return s.values.rows

/-- A row as it is stored, and as the sale that it is read as. -/
def readRow (row : Int × SaleRecord) : Except StoreError (SaleRecord × Sale) :=
  match row.2.sale? row.1 with
  | some sale => .ok (row.2, sale)
  | none => .error (.unreadable .sales)

/-- One sale that cannot be read spoils the listing. -/
def allSales (s : Store) : Except StoreError (List (SaleRecord × Sale)) := do
  s.require .sales
  s.sales.rows.mapM readRow

end Dues.Store
