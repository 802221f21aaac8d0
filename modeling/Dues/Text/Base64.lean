/-! # Base 64

Three octets become four letters; a last group of one or two octets is filled up with `=`.
-/

namespace Dues.Text.Base64

def alphabet : List Char :=
  "ABCDEFGHIJKLMNOPQRSTUVWXYZabcdefghijklmnopqrstuvwxyz0123456789+/".toList

def letter (n : Nat) : Char := alphabet.getD (n % 64) 'A'

def encode : List Nat → List Char
  | [] => []
  | [a] => [letter (a / 4), letter (a * 16), '=', '=']
  | [a, b] => [letter (a / 4), letter (a * 16 + b / 16), letter (b * 4), '=']
  | a :: b :: c :: rest =>
      letter (a / 4) :: letter (a * 16 + b / 16) :: letter (b * 4 + c / 64) :: letter c ::
        encode rest

end Dues.Text.Base64
