import MarketWire.Number.Decimal.Notation
import MarketWire.Proofs.Json.Notation

/-!
# Spellings of number tokens

A token may be spelled in a few ways: the mark of its exponent is small or capital, and a plus sign of
the exponent may be left away. Whatever is read as a token is a spelling of it, followed by the rest.
-/
namespace MarketWire
namespace Json
namespace NumberToken

open Decimal (isMark)

/-- How an exponent, with true for minus, may be spelled. -/
inductive SpellsExponent : Option (Bool × List Char) → List Char → Prop where
  | none : SpellsExponent none []
  | down {c : Char} (hc : isMark c = true) (ds : List Char) :
    SpellsExponent (some (true, ds)) (c :: '-' :: ds)
  | plus {c : Char} (hc : isMark c = true) (ds : List Char) :
    SpellsExponent (some (false, ds)) (c :: '+' :: ds)
  | bare {c : Char} (hc : isMark c = true) (ds : List Char) :
    SpellsExponent (some (false, ds)) (c :: ds)

/-- How a token may be spelled. -/
def Spells (cs : List Char) (t : NumberToken) : Prop :=
  ∃ exponent, SpellsExponent t.exponent exponent ∧
    cs = Binary64.signed t.negative (t.whole ++ (fractionChars t.fraction ++ exponent))

theorem spellsExponent_exponentChars (e : Option (Bool × List Char)) :
    SpellsExponent e (exponentChars e) := by
  cases e with
  | none => exact .none
  | some p =>
    obtain ⟨down, ds⟩ := p
    cases down with
    | true => exact .down rfl ds
    | false => exact .plus rfl ds

/-- A token is written in one of its spellings. -/
theorem spells_chars (t : NumberToken) : t.Spells t.chars :=
  ⟨_, spellsExponent_exponentChars t.exponent, rfl⟩

end NumberToken

open NumberToken

variable {cs rest : List Char}

theorem splitDigits_eq {ds : List Char} (h : splitDigits cs = (ds, rest)) :
    cs = ds ++ rest ∧ ∀ c ∈ ds, c.isDigit = true := by
  obtain ⟨rfl, rfl⟩ := Prod.mk.inj h
  exact ⟨List.takeWhile_append_dropWhile.symm, List.all_eq_true.mp List.all_takeWhile⟩

theorem fraction?_eq {ds : List Char} (h : fraction? cs = some (ds, rest)) :
    cs = fractionChars ds ++ rest ∧ ∀ c ∈ ds, c.isDigit = true := by
  unfold fraction? at h
  split at h
  case h_1 cs =>
    simp only at h
    cases hsplit : splitDigits cs with
    | mk ds' rest' =>
      obtain ⟨hcs, hdigits⟩ := splitDigits_eq hsplit
      rw [hsplit] at h
      cases ds' with
      | nil => cases h
      | cons d ds' =>
        cases h
        exact ⟨by rw [hcs]; rfl, hdigits⟩
  case h_2 =>
    cases h
    exact ⟨rfl, by simp⟩

/-- The digits of an exponent, behind its sign. -/
theorem exponentDigits_eq {down : Bool} {e : Option (Bool × List Char)}
    (h : (let (ds, rest) := splitDigits cs
      if ds.isEmpty then none else some (some (down, ds), rest)) = some (e, rest)) :
    ∃ ds, e = some (down, ds) ∧ cs = ds ++ rest ∧ ds ≠ [] ∧ ∀ c ∈ ds, c.isDigit = true := by
  cases hsplit : splitDigits cs with
  | mk ds rest' =>
    obtain ⟨hcs, hdigits⟩ := splitDigits_eq hsplit
    rw [hsplit] at h
    simp only [List.isEmpty_iff] at h
    split at h
    case isTrue => cases h
    case isFalse hne =>
      cases h
      exact ⟨ds, rfl, hcs, hne, hdigits⟩

theorem exponent?_eq {e : Option (Bool × List Char)} (h : exponent? cs = some (e, rest)) :
    ∃ exponent, SpellsExponent e exponent ∧ cs = exponent ++ rest ∧
      ∀ p ∈ e, p.2 ≠ [] ∧ ∀ c ∈ p.2, c.isDigit = true := by
  unfold exponent? at h
  split at h
  case h_1 =>
    cases h
    exact ⟨[], .none, rfl, by simp⟩
  case h_2 c cs =>
    split at h
    case isTrue hmark =>
      -- The sign is split off the digits, and none is a plus sign.
      split at h
      case h_1 down ds hsign =>
        obtain ⟨digits, rfl, hcs, hne, hdigits⟩ := exponentDigits_eq h
        split at hsign <;> cases hsign <;> rw [hcs]
        · exact ⟨_, .down hmark digits, rfl, by simpa using ⟨hne, hdigits⟩⟩
        · exact ⟨_, .plus hmark digits, rfl, by simpa using ⟨hne, hdigits⟩⟩
        · exact ⟨_, .bare hmark digits, rfl, by simpa using ⟨hne, hdigits⟩⟩
    case isFalse =>
      cases h
      exact ⟨[], .none, rfl, by simp⟩

theorem unsigned?_eq {negative : Bool} {t : NumberToken} (h : unsigned? negative cs = some (t, rest)) :
    t.negative = negative ∧ t.Legal ∧ ∃ exponent, SpellsExponent t.exponent exponent ∧
      cs = t.whole ++ (fractionChars t.fraction ++ (exponent ++ rest)) := by
  unfold unsigned? at h
  cases hsplit : splitDigits cs with
  | mk whole rest' =>
    obtain ⟨hcs, hwhole⟩ := splitDigits_eq hsplit
    rw [hsplit] at h
    simp only at h
    split at h
    case isTrue => cases h
    case isFalse hlegal =>
      obtain ⟨⟨fraction, rest₁⟩, hfraction, h⟩ := Option.bind_eq_some_iff.mp h
      obtain ⟨⟨exponent, rest₂⟩, hexponent, h⟩ := Option.map_eq_some_iff.mp h
      obtain ⟨hcs₁, hfraction⟩ := fraction?_eq hfraction
      obtain ⟨spelled, hspells, hcs₂, hexponent⟩ := exponent?_eq hexponent
      replace hcs₂ : rest₁ = spelled ++ rest₂ := hcs₂
      cases h
      have hzero : whole ≠ [] ∧ (whole.head? = some '0' → whole.length = 1) := by
        simpa using hlegal
      exact ⟨rfl, ⟨hwhole, hzero.1, hzero.2, hfraction, hexponent⟩, spelled, hspells,
        by rw [hcs, hcs₁, hcs₂]⟩

/-- What is read as a token spells it. -/
theorem token?_eq {t : NumberToken} (h : token? cs = some (.number t, rest)) :
    t.Legal ∧ ∃ w, t.Spells w ∧ cs = w ++ rest := by
  unfold token? at h
  split at h
  case h_1 => cases h
  case h_2 c cs =>
    split at h
    case h_1 t' hmark =>
      cases h
      unfold mark? at hmark
      split at hmark <;> cases hmark
    case h_2 =>
      split at h
      case isTrue =>
        obtain ⟨p, -, hp⟩ := Option.map_eq_some_iff.mp h
        cases hp
      case isFalse =>
        split at h
        case isTrue hminus =>
          obtain ⟨p, hp, heq⟩ := Option.map_eq_some_iff.mp h
          cases heq
          obtain ⟨hsign, hlegal, exponent, hspells, hcs⟩ := unsigned?_eq hp
          refine ⟨hlegal, _, ⟨exponent, hspells, rfl⟩, ?_⟩
          rw [hsign, beq_iff_eq.mp hminus, hcs]
          simp [Binary64.signed]
        case isFalse =>
          split at h
          case isTrue =>
            obtain ⟨p, hp, heq⟩ := Option.map_eq_some_iff.mp h
            cases heq
            obtain ⟨hsign, hlegal, exponent, hspells, hcs⟩ := unsigned?_eq hp
            refine ⟨hlegal, _, ⟨exponent, hspells, rfl⟩, ?_⟩
            rw [hsign, hcs]
            simp [Binary64.signed]
          case isFalse =>
            unfold literal? at h
            split at h <;> cases h

end Json
end MarketWire
