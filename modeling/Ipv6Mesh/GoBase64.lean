import Mathlib

/-!
# Base64 texts of the Go runtime

`decodeStd` is `base64.StdEncoding.DecodeString`: line breaks are skipped
wherever they stand, padding is required, and the bits that a padded quantum
leaves over are not checked. `encodeStd` is `base64.StdEncoding.EncodeToString`
and `encodeRawURL` is `base64.RawURLEncoding`.
-/

namespace Ipv6Mesh.GoBase64

def stdValue (character : Char) : Option Nat :=
  if 'A' ≤ character ∧ character ≤ 'Z' then some (character.toNat - 'A'.toNat)
  else if 'a' ≤ character ∧ character ≤ 'z' then some (character.toNat - 'a'.toNat + 26)
  else if '0' ≤ character ∧ character ≤ '9' then some (character.toNat - '0'.toNat + 52)
  else if character = '+' then some 62
  else if character = '/' then some 63
  else none

def quantumBytes (value : Nat) : List UInt8 :=
  [UInt8.ofNat (value / 2 ^ 16), UInt8.ofNat (value / 2 ^ 8), UInt8.ofNat value]

def decodeQuanta : List Char → Option (List UInt8)
  | [] => some []
  | first :: second :: third :: fourth :: rest => do
      let a ← stdValue first
      let b ← stdValue second
      if fourth = '=' then
        -- padding ends the text; after two characters it must be doubled
        if rest ≠ [] then none
        else if third = '=' then some ((quantumBytes (a * 2 ^ 18 + b * 2 ^ 12)).take 1)
        else do
          let c ← stdValue third
          some ((quantumBytes (a * 2 ^ 18 + b * 2 ^ 12 + c * 2 ^ 6)).take 2)
      else do
        let c ← stdValue third
        let d ← stdValue fourth
        let tail ← decodeQuanta rest
        some (quantumBytes (a * 2 ^ 18 + b * 2 ^ 12 + c * 2 ^ 6 + d) ++ tail)
  | _ => none

def decodeStd (source : String) : Option (List UInt8) :=
  decodeQuanta (source.toList.filter fun character => character ≠ '\n' ∧ character ≠ '\r')

def stdAlphabet : List Char :=
  "ABCDEFGHIJKLMNOPQRSTUVWXYZabcdefghijklmnopqrstuvwxyz0123456789+/".toList

def stdDigit (value : Nat) : Char := stdAlphabet.getD (value % 64) 'A'

def encodeStdQuanta : List UInt8 → List Char
  | first :: second :: third :: rest =>
    let value := first.toNat * 2 ^ 16 + second.toNat * 2 ^ 8 + third.toNat
    stdDigit (value / 2 ^ 18) :: stdDigit (value / 2 ^ 12) :: stdDigit (value / 2 ^ 6) ::
      stdDigit value :: encodeStdQuanta rest
  | [first, second] =>
    let value := first.toNat * 2 ^ 16 + second.toNat * 2 ^ 8
    [stdDigit (value / 2 ^ 18), stdDigit (value / 2 ^ 12), stdDigit (value / 2 ^ 6), '=']
  | [first] =>
    let value := first.toNat * 2 ^ 16
    [stdDigit (value / 2 ^ 18), stdDigit (value / 2 ^ 12), '=', '=']
  | [] => []

def encodeStd (bytes : List UInt8) : String := String.ofList (encodeStdQuanta bytes)

def urlAlphabet : List Char :=
  "ABCDEFGHIJKLMNOPQRSTUVWXYZabcdefghijklmnopqrstuvwxyz0123456789-_".toList

def urlDigit (value : Nat) : Char := urlAlphabet.getD (value % 64) 'A'

def encodeQuanta : List UInt8 → List Char
  | first :: second :: third :: rest =>
    let value := first.toNat * 2 ^ 16 + second.toNat * 2 ^ 8 + third.toNat
    urlDigit (value / 2 ^ 18) :: urlDigit (value / 2 ^ 12) :: urlDigit (value / 2 ^ 6) ::
      urlDigit value :: encodeQuanta rest
  | [first, second] =>
    let value := first.toNat * 2 ^ 16 + second.toNat * 2 ^ 8
    [urlDigit (value / 2 ^ 18), urlDigit (value / 2 ^ 12), urlDigit (value / 2 ^ 6)]
  | [first] =>
    let value := first.toNat * 2 ^ 16
    [urlDigit (value / 2 ^ 18), urlDigit (value / 2 ^ 12)]
  | [] => []

def encodeRawURL (bytes : List UInt8) : String := String.ofList (encodeQuanta bytes)

end Ipv6Mesh.GoBase64
