import MarketWire.Text.Bytes
import MarketWire.Text.Hex

/-!
# Percent signs

A character that may not stand in some place is written as the bytes of its UTF-8 form, each by a
percent sign and two hexadecimal digits. Read back, a percent sign without two digits stands for
itself.
-/
namespace MarketWire
namespace Percent

def encodeChar (c : Char) : List Char :=
  (Bytes.ofText c.toString).flatMap fun b => '%' :: (Bytes.hexByte b).map Char.toUpper

/-- Encodes control characters, all beyond ASCII, and those of `also`. -/
def encode (also : List Char) (cs : List Char) : List Char :=
  cs.flatMap fun c =>
    if c.toNat < 0x20 || 0x7E < c.toNat || also.contains c then encodeChar c else [c]

/-- The bytes of a text in which percent signs are read. -/
def bytes : List Char → List UInt8
  | [] => []
  | '%' :: a :: b :: cs =>
    match Text.hexDigit? a, Text.hexDigit? b with
    | some x, some y => .ofNat (16 * x + y) :: bytes cs
    | _, _ => '%'.toUInt8 :: bytes (a :: b :: cs)
  | c :: cs => Bytes.ofText c.toString ++ bytes cs

/-- The text that is meant, if its bytes are one. -/
def decode? (cs : List Char) : Option (List Char) :=
  (String.fromUTF8? ⟨(bytes cs).toArray⟩).map String.toList

end Percent
end MarketWire
