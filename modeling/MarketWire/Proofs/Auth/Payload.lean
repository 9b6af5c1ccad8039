import MarketWire.Auth.Signer
import MarketWire.Proofs.Json.Fields
import MarketWire.Proofs.Json.RoundTrip
import MarketWire.Proofs.Text.Bytes

/-!
# Signed texts

One secret signs three kinds of text. Their first characters keep the kinds apart: a path starts with
a slash, an envelope in base64 with the letter of its brace, and the text of a connection with its
word. Within a kind the text says what was signed, up to where a path, a nonce and a body meet.
-/
namespace MarketWire

open Json (Fields Value)

namespace Signature

/-- What requests of the second version sign. -/
def v2Payload (path : String) (nonce : UInt64) (body : String) : String :=
  payload (v2Path path) nonce body

/-- What requests of the first version sign. -/
def v1Payload (request : String) (nonce : UInt64) (extra : Fields) : String :=
  Bytes.base64 (Bytes.ofText (envelope request nonce extra))

/-- What connections sign. -/
def wsPayload (nonce : UInt64) : String := payload wsWord nonce ""

section Headers

variable {key key' name u v value : String} {kvs : List (String × String)} {nonce : UInt64}
  {body : String}

theorem get?_second (h : Text.sameLetters key name = false) :
    SignedHeaders.get? ⟨(key, u) :: (name, value) :: kvs, nonce, body⟩ name = some value := by
  have hself : Text.sameLetters name name = true := by simp [Text.sameLetters]
  simp [SignedHeaders.get?, h, hself]

theorem get?_third (h : Text.sameLetters key name = false)
    (h' : Text.sameLetters key' name = false) :
    SignedHeaders.get? ⟨(key, u) :: (key', v) :: (name, value) :: kvs, nonce, body⟩ name =
      some value := by
  have hself : Text.sameLetters name name = true := by simp [Text.sameLetters]
  simp [SignedHeaders.get?, h, h', hself]

end Headers

theorem get?_v2_nonce (c : Credentials) (path body : String) (nonce : UInt64) :
    (v2 c path body nonce).get? "bfx-nonce" = some (nonceText nonce) :=
  get?_second (by decide)

theorem get?_v2_signature (c : Credentials) (path body : String) (nonce : UInt64) :
    (v2 c path body nonce).get? "bfx-signature" = some (c.sign (v2Payload path nonce body)) :=
  get?_third (by decide) (by decide)

theorem get?_v1_payload (c : Credentials) (request : String) (extra : Fields) (nonce : UInt64) :
    (v1 c request extra nonce).get? "X-BFX-PAYLOAD" = some (v1Payload request nonce extra) :=
  get?_second (by decide)

theorem get?_v1_signature (c : Credentials) (request : String) (extra : Fields) (nonce : UInt64) :
    (v1 c request extra nonce).get? "X-BFX-SIGNATURE" =
      some (c.sign (v1Payload request nonce extra)) :=
  get?_third (by decide) (by decide)

/-! ## First characters -/

theorem toList_v2Payload (path : String) (nonce : UInt64) (body : String) :
    (v2Payload path nonce body).toList =
      "/api/v2/".toList ++ ((withoutLeadingSlashes path).toList ++
        ((nonceText nonce).toList ++ body.toList)) := by
  simp [v2Payload, payload, v2Path]

theorem toList_wsPayload (nonce : UInt64) :
    (wsPayload nonce).toList = "AUTH".toList ++ (nonceText nonce).toList := by
  simp [wsPayload, payload, wsWord]

theorem head?_v1Payload (request : String) (nonce : UInt64) (extra : Fields) :
    (v1Payload request nonce extra).toList.head? = some 'e' := by
  have hbrace : String.utf8EncodeChar '\x7b' = [0x7b] := by decide
  have hletter : Bytes.letter (UInt8.toNat 0x7b / 4) = 'e' := by decide
  rw [v1Payload, Bytes.base64, String.toList_ofList, Bytes.ofText_eq, envelope, Value.toText,
    String.toList_ofList, Value.chars, List.flatMap_cons, hbrace, List.singleton_append,
    Bytes.head?_base64Chars, hletter]

/-! ## Nonces -/

theorem nonceText_injective {m n : UInt64} (h : nonceText m = nonceText n) : m = n := by
  have hdigits := congrArg String.toList h
  simp only [nonceText, Nat.toString_eq_ofList_toDigits, String.toList_ofList] at hdigits
  have hvalue := congrArg (Nat.ofDigitChars 10 · 0) hdigits
  simp only [Nat.ofDigitChars_ten_toDigits] at hvalue
  exact UInt64.toNat_inj.mp hvalue

theorem wsPayload_inj {m n : UInt64} : wsPayload m = wsPayload n ↔ m = n := by
  refine ⟨fun h => ?_, fun h => by rw [h]⟩
  have hchars := congrArg String.toList h
  rw [toList_wsPayload, toList_wsPayload, List.append_cancel_left_eq, String.toList_inj] at hchars
  exact nonceText_injective hchars

/-! ## Envelopes -/

theorem ofUInt64_injective {m n : UInt64} (h : Value.ofUInt64 m = Value.ofUInt64 n) : m = n := by
  simp only [Value.ofUInt64, Value.number.injEq, Json.Number.whole.injEq, Int.natCast_inj] at h
  exact UInt64.toNat_inj.mp h

variable (request : String) (nonce : UInt64) (extra : Fields)

theorem sorted_envelopeFields : (envelopeFields request nonce extra).Sorted :=
  ((Fields.sorted_ofList extra).insert _ _).insert _ _

theorem get?_request :
    (envelopeFields request nonce extra).get? "request" = some (.text request) := by
  rw [envelopeFields, Fields.get?_insert_of_ne (by decide), Fields.get?_insert_self]

theorem get?_nonce :
    (envelopeFields request nonce extra).get? "nonce" = some (.ofUInt64 nonce) := by
  rw [envelopeFields, Fields.get?_insert_self]

theorem get?_extra {k : String} (hr : k ≠ "request") (hn : k ≠ "nonce") :
    (envelopeFields request nonce extra).get? k = (Fields.ofList extra).get? k := by
  rw [envelopeFields, Fields.get?_insert_of_ne hn.symm, Fields.get?_insert_of_ne hr.symm]

variable {request nonce extra} {request' : String} {nonce' : UInt64} {extra' : Fields}

theorem envelopeFields_inj :
    envelopeFields request nonce extra = envelopeFields request' nonce' extra' ↔
      request = request' ∧ nonce = nonce' ∧ ∀ k, k ≠ "request" → k ≠ "nonce" →
        (Fields.ofList extra).get? k = (Fields.ofList extra').get? k := by
  constructor
  · intro h
    have hrequest := get?_request request nonce extra
    have hnonce := get?_nonce request nonce extra
    rw [h, get?_request] at hrequest
    rw [h, get?_nonce] at hnonce
    refine ⟨?_, ofUInt64_injective (Option.some.inj hnonce).symm, fun k hr hn => ?_⟩
    · simpa using hrequest.symm
    · rw [← get?_extra request nonce extra hr hn, h, get?_extra _ _ _ hr hn]
  · rintro ⟨rfl, rfl, hextra⟩
    -- Both are in order, so they are equal if every name finds the same.
    refine (sorted_envelopeFields _ _ _).ext (sorted_envelopeFields _ _ _) fun k => ?_
    by_cases hr : k = "request"
    · rw [hr, get?_request, get?_request]
    · by_cases hn : k = "nonce"
      · rw [hn, get?_nonce, get?_nonce]
      · rw [get?_extra _ _ _ hr hn, get?_extra _ _ _ hr hn, hextra k hr hn]

theorem v1Payload_inj :
    v1Payload request nonce extra = v1Payload request' nonce' extra' ↔
      request = request' ∧ nonce = nonce' ∧ ∀ k, k ≠ "request" → k ≠ "nonce" →
        (Fields.ofList extra).get? k = (Fields.ofList extra').get? k := by
  rw [← envelopeFields_inj]
  refine ⟨fun h => ?_, fun h => by rw [v1Payload, v1Payload, envelope, envelope, h]⟩
  have hvalue := Value.toText_injective (Bytes.ofText_injective (Bytes.base64_injective h))
  simpa using hvalue

/-! ## Paths, nonces and bodies -/

/-- Whether exactly one of path, nonce and body is another one. -/
def DifferInOne : String × UInt64 × String → String × UInt64 × String → Prop
  | (path, nonce, body), (path', nonce', body') =>
    (path ≠ path' ∧ nonce = nonce' ∧ body = body') ∨
    (path = path' ∧ nonce ≠ nonce' ∧ body = body') ∨
    (path = path' ∧ nonce = nonce' ∧ body ≠ body')

/-- A single change shows, although the text does not say where the path ends. -/
theorem v2Payload_ne {path path' body body' : String}
    (h : DifferInOne (withoutLeadingSlashes path, nonce, body)
      (withoutLeadingSlashes path', nonce', body')) :
    v2Payload path nonce body ≠ v2Payload path' nonce' body' := by
  intro heq
  have hchars := congrArg String.toList heq
  rw [toList_v2Payload, toList_v2Payload, List.append_cancel_left_eq] at hchars
  rcases h with ⟨hne, rfl, rfl⟩ | ⟨hpath, hne, rfl⟩ | ⟨hpath, rfl, hne⟩
  · rw [List.append_cancel_right_eq, String.toList_inj] at hchars
    exact hne hchars
  · rw [hpath, List.append_cancel_left_eq, List.append_cancel_right_eq, String.toList_inj] at hchars
    exact hne (nonceText_injective hchars)
  · rw [hpath, List.append_cancel_left_eq, List.append_cancel_left_eq, String.toList_inj] at hchars
    exact hne hchars

/-- No text is signed for two purposes: the three kinds never agree, a connection's text tells its
nonce, an envelope's text all that the envelope says, and a path's text any single change. -/
theorem payloads_separate (c : Credentials) (path path' request request' body body' : String)
    (nonce nonce' : UInt64) (extra extra' : Fields) :
    (v2 c path body nonce).get? "bfx-signature" = some (c.sign (v2Payload path nonce body)) ∧
    (v1 c request extra nonce).get? "X-BFX-SIGNATURE" =
      some (c.sign (v1Payload request nonce extra)) ∧
    (ws c nonce).authSig = c.sign (wsPayload nonce) ∧
    v2Payload path nonce body ≠ v1Payload request nonce' extra ∧
    v2Payload path nonce body ≠ wsPayload nonce' ∧
    v1Payload request nonce extra ≠ wsPayload nonce' ∧
    (wsPayload nonce = wsPayload nonce' ↔ nonce = nonce') ∧
    (v1Payload request nonce extra = v1Payload request' nonce' extra' ↔
      request = request' ∧ nonce = nonce' ∧ ∀ k, k ≠ "request" → k ≠ "nonce" →
        (Fields.ofList extra).get? k = (Fields.ofList extra').get? k) ∧
    (DifferInOne (withoutLeadingSlashes path, nonce, body)
        (withoutLeadingSlashes path', nonce', body') →
      v2Payload path nonce body ≠ v2Payload path' nonce' body') := by
  have hv2 : (v2Payload path nonce body).toList.head? = some '/' := by
    rw [toList_v2Payload]
    rfl
  have hws : (wsPayload nonce').toList.head? = some 'A' := by
    rw [toList_wsPayload]
    rfl
  refine ⟨get?_v2_signature .., get?_v1_signature .., rfl, fun h => ?_, fun h => ?_, fun h => ?_,
    wsPayload_inj, v1Payload_inj, v2Payload_ne⟩
  -- No two of the three kinds share their first character.
  · rw [h, head?_v1Payload] at hv2
    exact absurd hv2 (by decide)
  · rw [h, hws] at hv2
    exact absurd hv2 (by decide)
  · rw [← h, head?_v1Payload] at hws
    exact absurd hws (by decide)

end Signature
end MarketWire
