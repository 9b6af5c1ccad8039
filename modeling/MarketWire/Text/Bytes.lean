/-!
# Bytes as text

Texts become bytes by their UTF-8 form. Bytes become text in two ways: two lowercase hexadecimal
digits a byte, or four characters of the 64-letter alphabet for three bytes, with padding at the
end.
-/
namespace MarketWire
namespace Bytes

def ofText (s : String) : List UInt8 := s.toUTF8.toList

def hexByte (b : UInt8) : List Char :=
  [Nat.digitChar (b.toNat / 16), Nat.digitChar (b.toNat % 16)]

def hex (bytes : List UInt8) : String := .ofList (bytes.flatMap hexByte)

/-- The letter for six bits. -/
def letter (n : Nat) : Char :=
  let n := n % 64
  if n < 26 then Char.ofNat (n + 'A'.toNat)
  else if n < 52 then Char.ofNat (n - 26 + 'a'.toNat)
  else if n < 62 then Char.ofNat (n - 52 + '0'.toNat)
  else if n = 62 then '+' else '/'

def base64Chars : List UInt8 → List Char
  | a :: b :: c :: rest =>
    let n := (a.toNat * 256 + b.toNat) * 256 + c.toNat
    letter (n / 262144) :: letter (n / 4096) :: letter (n / 64) :: letter n :: base64Chars rest
  | [a, b] =>
    let n := (a.toNat * 256 + b.toNat) * 256
    [letter (n / 262144), letter (n / 4096), letter (n / 64), '=']
  | [a] =>
    let n := a.toNat * 65536
    [letter (n / 262144), letter (n / 4096), '=', '=']
  | [] => []

def base64 (bytes : List UInt8) : String := .ofList (base64Chars bytes)

end Bytes
end MarketWire
