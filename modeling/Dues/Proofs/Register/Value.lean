import Dues.Proofs.Money.Written
import Dues.Proofs.Time.Written
import Dues.Register.Value

/-! # Kept values can be read

Whatever is written as a profile value is read again at its type. All types but one give back the
value itself; of an amount there remain pounds and pence.
-/

namespace Dues.Register

open Dues.Text (trimChars)
open Dues.Money (Decimal)

namespace ValueType

/-- What the type has room for: whole numbers have 32 bits. -/
def Fits : (t : ValueType) → t.Value → Prop
  | .integer, (n : Int) => Text.fitsSigned 32 n = true
  | .text, _ => True
  | .flag, _ => True
  | .decimal, _ => True
  | .date, _ => True
  | .moment, _ => True

theorem decode_integer {n : Int} (fits : Text.fitsSigned 32 n = true) :
    integer.decode (integer.encode n) = some n := by
  change Text.readSigned? 32 (trimChars (String.ofList (Text.digitsOfInt n)).toList) = some n
  rw [String.toList_ofList, Text.trimChars_digitsOfInt]
  exact Text.readSigned?_digitsOfInt fits

theorem decode_decimal (d : Decimal) : ∃ r : Decimal, decimal.decode (decimal.encode d) = some r ∧
    r.scale ≤ 2 ∧ r.coefficientAt 2 = if d.isNegative then -(d.cutOff : Int) else d.cutOff := by
  obtain ⟨r, read, places, value⟩ := d.read?_pence
  refine ⟨r, ?_, places, value⟩
  change Decimal.read? (trimChars d.pence.toList) = some r
  rw [Decimal.pence, String.toList_ofList,
    Text.trimChars_of_not_blank fun c => Decimal.not_blank_of_mem_chars]
  exact read

theorem decode_encode_exact {t : ValueType} {v : t.Value} (notAmount : t ≠ .decimal)
    (fits : t.Fits v) : t.decode (t.encode v) = some v := by
  cases t with
  | text => rfl
  | flag =>
      cases v with
      | true => rfl
      | false => rfl
  | integer => exact decode_integer fits
  | decimal => exact absurd rfl notAmount
  | date => exact Time.Written.readDate?_date v
  | moment => exact Time.Written.readMoment?_moment v

/-- Every value that there is room for can be read once it is written. -/
theorem decode_encode_isSome {t : ValueType} {value : t.Value} (fits : t.Fits value) :
    (t.decode (t.encode value)).isSome = true := by
  by_cases amount : t = .decimal
  · subst amount
    obtain ⟨r, read, _⟩ := decode_decimal value
    rw [read]
    rfl
  · rw [decode_encode_exact amount fits]
    rfl

end ValueType

end Dues.Register
