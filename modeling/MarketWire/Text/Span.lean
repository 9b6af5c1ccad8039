/-!
# Spans of time

Spans are counted in milliseconds. They are shown in the largest unit of which there is at least
one, without zeros at the end of the fraction; no time at all is shown in the smallest unit.
-/
namespace MarketWire

structure Span where
  millis : Nat
deriving DecidableEq

namespace Span

def ofSeconds (n : Nat) : Span := ⟨1000 * n⟩

/-- Three places without the zeros at the end. -/
def places (n : Nat) : List Char :=
  let ds := Nat.toDigits 10 (1000 + n)
  ((ds.drop 1).reverse.dropWhile (· == '0')).reverse

def text (t : Span) : String :=
  if t.millis = 0 then "0ns"
  else if t.millis < 1000 then toString t.millis ++ "ms"
  else
    let fraction := places (t.millis % 1000)
    toString (t.millis / 1000) ++
      (if fraction.isEmpty then "" else "." ++ String.ofList fraction) ++ "s"

end Span
end MarketWire
