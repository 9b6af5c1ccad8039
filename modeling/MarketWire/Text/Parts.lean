/-!
# Parts between separators

A text with `n` separators has `n + 1` parts, some of them empty. Parts are put together with a
separator between them.
-/
namespace MarketWire
namespace Text

def parts (sep : Char → Bool) : List Char → List (List Char)
  | [] => [[]]
  | c :: cs =>
    if sep c then [] :: parts sep cs
    else match parts sep cs with
      | p :: ps => (c :: p) :: ps
      | [] => [[c]]

/-- The parts that are not empty. -/
def fullParts (sep : Char → Bool) (cs : List Char) : List (List Char) :=
  (parts sep cs).filter (!·.isEmpty)

/-- Puts a separator between parts. -/
def joined (sep : List Char) : List (List Char) → List Char
  | [] => []
  | [p] => p
  | p :: ps => p ++ sep ++ joined sep ps

end Text
end MarketWire
