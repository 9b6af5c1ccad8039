/-!
# Phrases

Messages are put together from parts that are known and parts that are not.
-/
namespace MarketWire
namespace Text

def phrase : List String → String
  | [] => ""
  | [s] => s
  | s :: ss => s ++ phrase ss

/-- What a text is about, a colon, and the text. -/
def labelled (label text : String) : String := phrase [label, ": ", text]

end Text
end MarketWire
