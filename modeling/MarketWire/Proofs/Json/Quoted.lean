import MarketWire.Json.Printer

/-!
# Reading quoted strings

A string is read back from its quoted form, whatever its characters are. A control character
without a letter of its own comes back through its number, every other character as itself.
-/
namespace MarketWire
namespace Json

/-- How a character is found in the quoted form of a string. -/
def unitOf (c : Char) : TextUnit :=
  if c.toNat < 0x20 ∧ c ∉ ['\x08', '\t', '\n', '\x0c', '\r'] then .code c.toNat else .char c

theorem hexDigit?_hexChar (n : Nat) : Text.hexDigit? (hexChar n) = some (n % 16) := by
  have hdigit : ∀ d < 16, Text.hexDigit? (Nat.digitChar d) = some d := by decide
  exact hdigit (n % 16) (Nat.mod_lt n (by decide))

theorem code?_control {n : Nat} (h : n < 0x20) :
    code? '0' '0' (hexChar (n / 16)) (hexChar n) = some n := by
  have hzero : Text.hexDigit? '0' = some 0 := by decide
  simp only [code?, hzero, hexDigit?_hexChar, Option.some.injEq]
  omega

theorem units?_plain {c : Char} (hquote : c ≠ '"') (hslash : c ≠ '\\') (hc : ¬c.toNat < 0x20)
    (cs : List Char) : units? (c :: cs) = (units? cs).map (push (.char c)) := by
  simp [units?, hslash, hc]

theorem units?_escaped (c : Char) (cs : List Char) :
    units? (escaped c ++ cs) = (units? cs).map (push (unitOf c)) := by
  unfold escaped
  split
  case h_8 hquote hslash hb ht hn hf hr =>
    have hletter : c ∉ ['\x08', '\t', '\n', '\x0c', '\r'] := by
      simpa using ⟨hb, ht, hn, hf, hr⟩
    split
    case isTrue hc =>
      simp [units?, code?_control hc, unitOf, hc, hletter]
    case isFalse hc =>
      simp [units?_plain hquote hslash hc, unitOf, hc]
  all_goals simp [units?, escape?, unitOf]

theorem units?_quoted (cs rest : List Char) :
    units? (cs.flatMap escaped ++ '"' :: rest) = some (cs.map unitOf, rest) := by
  induction cs with
  | nil => simp [units?]
  | cons c cs ih =>
    rw [List.flatMap_cons, List.append_assoc, units?_escaped, ih]
    rfl

theorem textChars?_code {n : Nat} (h : n < 0xD800) (us : List TextUnit) :
    textChars? (.code n :: us) = (textChars? us).map (Char.ofNat n :: ·) := by
  have hhigh : isHighSurrogate n = false := by simp [isHighSurrogate]; omega
  have hlow : isLowSurrogate n = false := by simp [isLowSurrogate]; omega
  cases us with
  | nil => simp [textChars?, hhigh, hlow]
  | cons u us => cases u <;> simp [textChars?, hhigh, hlow]

theorem textChars?_unitOf (cs : List Char) : textChars? (cs.map unitOf) = some cs := by
  induction cs with
  | nil => rfl
  | cons c cs ih =>
    rw [List.map_cons, unitOf]
    split
    case isTrue hc =>
      rw [textChars?_code (by omega), ih, Char.ofNat_toNat]
      rfl
    case isFalse =>
      rw [textChars?, ih]
      rfl

theorem textOf?_unitOf (s : String) : textOf? (s.toList.map unitOf) = some s := by
  simp [textOf?, textChars?_unitOf]

theorem token?_quoted (s : String) (rest : List Char) :
    token? (quotedChars s ++ rest) = some (.text (s.toList.map unitOf), rest) := by
  have hunits := units?_quoted s.toList rest
  simp [quotedChars, token?, mark?, hunits]

end Json
end MarketWire
