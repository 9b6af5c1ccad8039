import Mathlib.Tactic.SplitIfs
import MarketWire.Text.Bytes

/-!
# Bytes back from text

The letters of the 64-letter alphabet are read back four at a time. Padding only stands at the end,
and the bits that it leaves over have to be zero. So every list of bytes has a text of its own, and
so has every text a list of bytes. Texts are in the order of their bytes.
-/
namespace MarketWire
namespace Bytes

/-! ## Four letters for three bytes -/

/-- The six bits of a letter. -/
def sixBits? (c : Char) : Option Nat :=
  if 'A' ≤ c ∧ c ≤ 'Z' then some (c.toNat - 'A'.toNat)
  else if 'a' ≤ c ∧ c ≤ 'z' then some (c.toNat - 'a'.toNat + 26)
  else if '0' ≤ c ∧ c ≤ '9' then some (c.toNat - '0'.toNat + 52)
  else if c = '+' then some 62
  else if c = '/' then some 63
  else none

/-- The bytes that letters and padding stand for. -/
def ofBase64Chars? : List Char → Option (List UInt8)
  | [] => some []
  | [a, b, '=', '='] => do
    let n := (← sixBits? a) * 64 + (← sixBits? b)
    if n % 16 = 0 then some [UInt8.ofNat (n / 16)] else none
  | [a, b, c, '='] => do
    let n := ((← sixBits? a) * 64 + (← sixBits? b)) * 64 + (← sixBits? c)
    if n % 4 = 0 then some [UInt8.ofNat (n / 1024), UInt8.ofNat (n / 4)] else none
  | a :: b :: c :: d :: rest => do
    let n := (((← sixBits? a) * 64 + (← sixBits? b)) * 64 + (← sixBits? c)) * 64 + (← sixBits? d)
    let bytes ← ofBase64Chars? rest
    some (UInt8.ofNat (n / 65536) :: UInt8.ofNat (n / 256) :: UInt8.ofNat n :: bytes)
  | _ => none

def ofBase64? (s : String) : Option (List UInt8) := ofBase64Chars? s.toList

theorem letter_mod (n : Nat) : letter (n % 64) = letter n := by
  simp only [letter, Nat.mod_mod]

/-- What holds of the 64 letters holds of all that are ever written. -/
theorem forall_letter {P : Char → Nat → Prop} (h : ∀ d < 64, P (letter d) d) (n : Nat) :
    P (letter n) (n % 64) := by
  rw [← letter_mod]
  exact h _ (Nat.mod_lt n (by decide))

theorem sixBits?_letter (n : Nat) : sixBits? (letter n) = some (n % 64) :=
  forall_letter (P := fun c d => sixBits? c = some d) (by decide) n

theorem letter_ne_pad (n : Nat) : letter n ≠ '=' :=
  forall_letter (P := fun c _ => c ≠ '=') (by decide) n

theorem ofNat_eq {a : UInt8} {n : Nat} (h : n % 256 = a.toNat) : UInt8.ofNat n = a := by
  rw [← UInt8.toNat_inj, UInt8.toNat_ofNat', ← h]

theorem ofBase64Chars?_base64Chars (bytes : List UInt8) :
    ofBase64Chars? (base64Chars bytes) = some bytes := by
  fun_induction base64Chars bytes with
  | case1 a b c rest n ih =>
    have hn : n = (a.toNat * 256 + b.toNat) * 256 + c.toNat := rfl
    have ha := a.toNat_lt
    have hb := b.toNat_lt
    have hc := c.toNat_lt
    -- The pieces of six bits, put together, are the word again.
    have hjoin : ((n / 262144 % 64 * 64 + n / 4096 % 64) * 64 + n / 64 % 64) * 64 + n % 64 = n := by
      omega
    simp only [ofBase64Chars?, letter_ne_pad, sixBits?_letter, ih, hjoin, Option.bind_eq_bind,
      Option.bind_some, false_implies, implies_true]
    rw [ofNat_eq (a := a) (by omega), ofNat_eq (a := b) (by omega), ofNat_eq (a := c) (by omega)]
  | case2 a b n =>
    have hn : n = (a.toNat * 256 + b.toNat) * 256 := rfl
    have ha := a.toNat_lt
    have hb := b.toNat_lt
    have hjoin : (n / 262144 % 64 * 64 + n / 4096 % 64) * 64 + n / 64 % 64 = n / 64 := by omega
    simp only [ofBase64Chars?, letter_ne_pad, sixBits?_letter, hjoin, Option.bind_eq_bind,
      Option.bind_some, imp_self]
    rw [if_pos (by omega), ofNat_eq (a := a) (by omega), ofNat_eq (a := b) (by omega)]
  | case3 a n =>
    have hn : n = a.toNat * 65536 := rfl
    have ha := a.toNat_lt
    have hjoin : n / 262144 % 64 * 64 + n / 4096 % 64 = n / 4096 := by omega
    simp only [ofBase64Chars?, sixBits?_letter, hjoin, Option.bind_eq_bind, Option.bind_some]
    rw [if_pos (by omega), ofNat_eq (a := a) (by omega)]
  | case4 => rfl

theorem ofBase64?_base64 (bytes : List UInt8) : ofBase64? (base64 bytes) = some bytes := by
  rw [ofBase64?, base64, String.toList_ofList, ofBase64Chars?_base64Chars]

theorem base64_injective {bs cs : List UInt8} (h : base64 bs = base64 cs) : bs = cs := by
  have hread := ofBase64?_base64 bs
  rw [h, ofBase64?_base64] at hread
  exact (Option.some.inj hread).symm

/-- The first letter tells the upper six bits of the first byte. -/
theorem head?_base64Chars (a : UInt8) (rest : List UInt8) :
    (base64Chars (a :: rest)).head? = some (letter (a.toNat / 4)) := by
  have hword : ∀ m, m < 65536 → (a.toNat * 65536 + m) / 262144 = a.toNat / 4 := by omega
  rcases rest with _ | ⟨b, _ | ⟨c, rest⟩⟩
  · simp [base64Chars, ← hword 0]
  · have hb := b.toNat_lt
    simp [base64Chars, ← hword (b.toNat * 256) (by omega), Nat.add_mul, Nat.mul_assoc]
  · have hb := b.toNat_lt
    have hc := c.toNat_lt
    simp [base64Chars, ← hword (b.toNat * 256 + c.toNat) (by omega), Nat.add_mul, Nat.mul_assoc,
      Nat.add_assoc]

theorem eq_of_mem_base64Chars {bytes : List UInt8} {c : Char} (h : c ∈ base64Chars bytes) :
    c = '=' ∨ ∃ n, c = letter n := by
  fun_induction base64Chars bytes <;> grind

/-! ## Texts -/

theorem toList_loop (b : ByteArray) (i : Nat) (r : List UInt8) :
    ByteArray.toList.loop b i r = r.reverse ++ b.data.toList.drop i := by
  fun_induction ByteArray.toList.loop b i r with
  | case1 i r hi ih =>
    have hlt : i < b.data.size := hi
    have hget : b.get! i = b.data[i] := getElem!_pos b.data i hlt
    have hdrop : b.data.toList.drop i = b.data[i] :: b.data.toList.drop (i + 1) :=
      List.drop_eq_getElem_cons hlt
    rw [ih, hget, hdrop, List.reverse_cons, List.append_assoc]
    rfl
  | case2 i r hi => rw [List.drop_eq_nil_of_le (Nat.le_of_not_lt hi), List.append_nil]

theorem byteArray_toList (b : ByteArray) : b.toList = b.data.toList := by
  rw [ByteArray.toList, toList_loop, List.reverse_nil, List.nil_append, List.drop_zero]

theorem ofText_eq (s : String) : ofText s = s.toList.flatMap String.utf8EncodeChar := by
  rw [ofText, byteArray_toList, String.toUTF8_eq_toByteArray]
  have hbytes := String.toByteArray_ofList (l := s.toList)
  rw [String.ofList_toList, List.utf8Encode] at hbytes
  rw [hbytes, List.toList_data_toByteArray]

theorem ofText_injective {s t : String} (h : ofText s = ofText t) : s = t := by
  rw [ofText, ofText, byteArray_toList, byteArray_toList, Array.toList_inj] at h
  exact String.toByteArray_inj.mp (ByteArray.ext h)

/-! ## Order -/

theorem cons_ofNat_lt {i j : Nat} (hj : j < 256) (hle : i ≤ j) {l l' : List UInt8}
    (h : i = j → l < l') : UInt8.ofNat i :: l < UInt8.ofNat j :: l' := by
  rw [List.cons_lt_cons_iff]
  rcases Nat.lt_or_eq_of_le hle with hlt | rfl
  · refine .inl (UInt8.lt_iff_toNat_lt.mpr ?_)
    rw [UInt8.toNat_ofNat', UInt8.toNat_ofNat']
    omega
  · exact .inr ⟨rfl, h rfl⟩

/-- A greater character has greater bytes, whatever follows. -/
theorem utf8EncodeChar_lt {c d : Char} (h : c < d) (rest rest' : List UInt8) :
    String.utf8EncodeChar c ++ rest < String.utf8EncodeChar d ++ rest' := by
  have hlt : c.val.toNat < d.val.toNat := h
  have hd : d.val.toNat < 0x110000 := by
    rcases d.valid with hd | hd <;> omega
  simp only [String.utf8EncodeChar]
  generalize c.val.toNat = m at hlt ⊢
  generalize d.val.toNat = n at hlt hd ⊢
  -- Byte by byte from the first one on, as long as they agree.
  split_ifs
  all_goals
    repeat refine cons_ofNat_lt (by omega) (by omega) fun _ => ?_
    omega

theorem flatMap_utf8EncodeChar_lt {cs ds : List Char} (h : cs < ds) :
    cs.flatMap String.utf8EncodeChar < ds.flatMap String.utf8EncodeChar := by
  induction cs generalizing ds with
  | nil =>
    cases ds with
    | nil => exact absurd h (List.lt_irrefl [])
    | cons d ds =>
      obtain ⟨b, bs, hb⟩ := List.exists_cons_of_ne_nil (String.utf8EncodeChar_ne_nil (c := d))
      rw [List.flatMap_nil, List.flatMap_cons, hb]
      exact List.nil_lt_cons b _
  | cons c cs ih =>
    cases ds with
    | nil => exact absurd h (List.not_lt_nil _)
    | cons d ds =>
      rw [List.flatMap_cons, List.flatMap_cons]
      rcases List.cons_lt_cons_iff.mp h with hlt | ⟨rfl, hlt⟩
      · exact utf8EncodeChar_lt hlt _ _
      · exact List.append_left_lt (ih hlt)

theorem ofText_lt {s t : String} (h : s < t) : ofText s < ofText t := by
  rw [ofText_eq, ofText_eq]
  exact flatMap_utf8EncodeChar_lt h

end Bytes
end MarketWire
