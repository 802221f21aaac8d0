import Dues.Register.Desk

/-! # The book of sales

Every sale is entered in the book before anyone is asked to pay for it, and found there again when
the payment is reported. Changing or striking out an entry must hit exactly one.
-/

namespace Dues

inductive SaleError where
  | store (e : StoreError)
  | notFound (saleId : Int)
  | rowsAffected (operation : String) (saleId : Int) (rows : Nat)
  deriving DecidableEq

def SaleError.message : SaleError → String
  | .store e => e.message
  | .notFound saleId => "sale " ++ String.ofList (Text.digitsOfInt saleId) ++ " not found"
  | .rowsAffected operation saleId rows =>
      operation ++ " of sale " ++ String.ofList (Text.digitsOfInt saleId) ++ " affected " ++
        String.ofList (Text.digitsOfNat rows) ++ " rows instead of one"

namespace SaleBook

/-- Enters a sale, which gets the number of its row. -/
def add (sale : Sale) : Action SaleError Sale := do
  let id ← (Action.write fun s => s.insertSale sale.record).orFail .store
  return { sale with id }

def find (saleId : Int) : Action SaleError Sale := do
  match ← (Action.read fun s => s.sale? saleId).orFail .store with
  | some sale => return sale
  | none => throw (.notFound saleId)

def expectOne (operation : String) (saleId : Int) (rows : Nat) : Action SaleError Unit :=
  if rows = 1 then return () else throw (.rowsAffected operation saleId rows)

/-- Overwrites the entry of a sale. -/
def replace (sale : Sale) : Action SaleError Unit := do
  let rows ← (Action.write fun s => s.updateSale sale.id sale.record).orFail .store
  expectOne "update" sale.id rows

/-- Strikes a sale out, which then has no row any more. -/
def remove (sale : Sale) : Action SaleError Sale := do
  let rows ← (Action.write fun s => s.deleteSale sale.id).orFail .store
  expectOne "delete" sale.id rows
  return { sale with id := 0 }

end SaleBook

end Dues
