/-! # Base 64

Octets as text: three octets are written as four letters of an alphabet of 64, and a shorter group
at the end is filled up with `=`.
-/

namespace MemberDiscovery.Text

/-- The letters that stand for the numbers below 64. -/
def base64Alphabet : List Char :=
  "ABCDEFGHIJKLMNOPQRSTUVWXYZabcdefghijklmnopqrstuvwxyz0123456789+/".toList

def base64Letter (n : Nat) : Char :=
  base64Alphabet.getD (n % 64) 'A'

def base64Octets : List Nat → List Char
  | [] => []
  | [a] => [base64Letter (a / 4), base64Letter (a % 4 * 16), '=', '=']
  | [a, b] =>
    [base64Letter (a / 4), base64Letter (a % 4 * 16 + b / 16), base64Letter (b % 16 * 4), '=']
  | a :: b :: c :: rest =>
    base64Letter (a / 4) :: base64Letter (a % 4 * 16 + b / 16)
      :: base64Letter (b % 16 * 4 + c / 64) :: base64Letter (c % 64) :: base64Octets rest

def base64 (text : String) : String :=
  String.ofList (base64Octets (text.toUTF8.toList.map UInt8.toNat))

end MemberDiscovery.Text
