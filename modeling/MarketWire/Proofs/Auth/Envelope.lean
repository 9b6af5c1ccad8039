import MarketWire.Proofs.Auth.Payload
import MarketWire.Proofs.Auth.Verification

/-!
# Envelopes

The envelope of a request of the first version is one text for what it says: an object whose keys
ascend, byte by byte, with the request and the nonce of the signer and whatever else the caller adds.
The caller's own request and nonce leave no trace. The header that is signed is that text in base64.
-/
namespace MarketWire

open Json (Fields Value Tree memberOf?)

namespace Json

/-- An object written out of its keys and of the texts of their values. -/
def objectText (members : List (String × String)) : String :=
  .ofList ('{' :: (joined [','] (members.map fun m => quotedChars m.1 ++ ':' :: m.2.toList) ++ ['}']))

/-- The text is read as one object of these members, with each value read as its text is. -/
def ReadsAsObject (text : String) (members : List (String × String)) : Prop :=
  ∃ trees, Tree.ofText? text = some (.object trees) ∧
    members.Forall₂ (fun m t => textOf? t.1 = some m.1 ∧ Tree.ofText? m.2 = some t.2) trees

namespace Value

theorem fieldChars_eq (fs : List (String × Value)) :
    fieldChars fs = fs.map fun f => quotedChars f.1 ++ ':' :: f.2.chars := by
  induction fs with
  | nil => rfl
  | cons f fs ih => rw [fieldChars, ih, List.map_cons]

theorem toText_object (fs : List (String × Value)) :
    (object fs).toText = objectText (fs.map fun f => (f.1, f.2.toText)) := by
  simp [toText, chars, objectText, fieldChars_eq, Function.comp_def]

theorem readsAsObject_toText (fs : List (String × Value)) :
    ReadsAsObject (object fs).toText (fs.map fun f => (f.1, f.2.toText)) := by
  refine ⟨memberTrees fs, treeOfText?_toText _, ?_⟩
  induction fs with
  | nil => exact .nil
  | cons f fs ih => exact .cons ⟨textOf?_unitOf f.1, treeOfText?_toText f.2⟩ ih

theorem toText_ofUInt64 (n : UInt64) : (ofUInt64 n).toText = toString n.toNat := by
  have hnonneg : ¬(n.toNat : Int) < 0 := by omega
  rw [toText, ofUInt64, chars, Number.chars, Number.wholeChars, if_neg hnonneg, Int.natAbs_natCast,
    Nat.toString_eq_ofList_toDigits]

end Value

/-- Of members with different keys each is kept. -/
theorem Fields.get?_ofList_iff {l : List (String × Value)} (h : (l.map Prod.fst).Nodup) {k : String}
    {v : Value} : get? k (ofList l) = some v ↔ (k, v) ∈ l := by
  have hkept : ∀ {w}, (k, w) ∈ l → get? k (ofList l) = some w := fun hw =>
    get?_ofList_of_unique hw fun w' hw' =>
      congrArg Prod.snd (List.inj_on_of_nodup_map h hw' hw rfl)
  refine ⟨fun hget => ?_, hkept⟩
  by_cases hin : ∃ w, (k, w) ∈ l
  · obtain ⟨w, hw⟩ := hin
    obtain rfl : w = v := Option.some.inj ((hkept hw).symm.trans hget)
    exact hw
  · rw [get?_ofList_of_forall_ne fun w hw => hin ⟨w, hw⟩] at hget
    cases hget

end Json

namespace Signature

variable {request : String} {nonce : UInt64} {extra : Fields}

/-- What the envelope says. -/
theorem mem_envelopeFields (hextra : (extra.map Prod.fst).Nodup) (k : String) (v : Value) :
    (k, v) ∈ envelopeFields request nonce extra ↔
      (k = "request" ∧ v = .text request) ∨ (k = "nonce" ∧ v = .ofUInt64 nonce) ∨
      (k ≠ "request" ∧ k ≠ "nonce" ∧ (k, v) ∈ extra) := by
  rw [(sorted_envelopeFields request nonce extra).mem_iff]
  by_cases hr : k = "request"
  · subst hr
    simp [get?_request, eq_comm]
  · by_cases hn : k = "nonce"
    · subst hn
      simp [get?_nonce, eq_comm]
    · simp [get?_extra _ _ _ hr hn, Fields.get?_ofList_iff hextra, hr, hn]

end Signature

/-- The headers carry what they sign as one object, and as base64. -/
structure SignedHeaders.Enveloped (h : SignedHeaders) (request : String) (nonce : UInt64)
    (extra : Fields) (members : List (String × String)) : Prop where
  text : h.body = Json.objectText members
  read : Json.ReadsAsObject h.body members
  ascending : (members.map fun m => Bytes.ofText m.1).Pairwise (· < ·)
  mem_iff : ∀ k t, (k, t) ∈ members ↔
    (k = "request" ∧ t = Json.quoted request) ∨ (k = "nonce" ∧ t = toString nonce.toNat) ∨
    (k ≠ "request" ∧ k ≠ "nonce" ∧ ∃ v, (k, v) ∈ extra ∧ t = v.toText)
  request : (memberOf? h.body "request").bind Tree.text? = some request
  nonce : (memberOf? h.body "nonce").bind Tree.integer? = some (nonce.toNat : Int)
  payload : ∃ payload, h.get? "X-BFX-PAYLOAD" = some payload ∧
    payload = Bytes.base64 (Bytes.ofText h.body) ∧
    Bytes.ofBase64? payload = some (Bytes.ofText h.body)

namespace Signature

variable {request : String} {nonce : UInt64} {extra : Fields}

theorem enveloped_v1 (c : Credentials) (hextra : (extra.map Prod.fst).Nodup) :
    (v1 c request extra nonce).Enveloped request nonce extra
      ((envelopeFields request nonce extra).map fun f => (f.1, f.2.toText)) where
  text := Value.toText_object _
  read := Value.readsAsObject_toText _
  ascending := by
    rw [List.map_map, List.pairwise_map]
    exact (sorted_envelopeFields request nonce extra).imp Bytes.ofText_lt
  mem_iff k t := by
    have hrequest : (Value.text request).toText = Json.quoted request := rfl
    simp only [List.mem_map, Prod.mk.injEq, Prod.exists, mem_envelopeFields hextra]
    constructor
    · rintro ⟨k', v, hv, rfl, rfl⟩
      rcases hv with ⟨rfl, rfl⟩ | ⟨rfl, rfl⟩ | ⟨hr, hn, hv⟩
      · exact .inl ⟨rfl, hrequest⟩
      · exact .inr (.inl ⟨rfl, Value.toText_ofUInt64 nonce⟩)
      · exact .inr (.inr ⟨hr, hn, v, hv, rfl⟩)
    · rintro (⟨rfl, rfl⟩ | ⟨rfl, rfl⟩ | ⟨hr, hn, v, hv, rfl⟩)
      · exact ⟨_, _, .inl ⟨rfl, rfl⟩, rfl, hrequest⟩
      · exact ⟨_, _, .inr (.inl ⟨rfl, rfl⟩), rfl, Value.toText_ofUInt64 nonce⟩
      · exact ⟨k, v, .inr (.inr ⟨hr, hn, hv⟩), rfl, rfl⟩
  request := request_envelope request nonce extra
  nonce := nonce_envelope request nonce extra
  payload := ⟨_, get?_v1_payload c request extra nonce, rfl, Bytes.ofBase64?_base64 _⟩

/-- The caller's own request and nonce leave no trace. -/
theorem envelope_congr {extra' : Fields} (hextra : (extra.map Prod.fst).Nodup)
    (hextra' : (extra'.map Prod.fst).Nodup)
    (hsame : ∀ k v, k ≠ "request" → k ≠ "nonce" → ((k, v) ∈ extra ↔ (k, v) ∈ extra')) :
    envelope request nonce extra = envelope request nonce extra' := by
  have hfields : envelopeFields request nonce extra = envelopeFields request nonce extra' := by
    refine envelopeFields_inj.mpr ⟨rfl, rfl, fun k hr hn => Option.ext fun v => ?_⟩
    rw [Fields.get?_ofList_iff hextra, Fields.get?_ofList_iff hextra', hsame k v hr hn]
  rw [envelope, envelope, hfields]

end Signature

/-- With credentials a request of the first version is signed over its envelope, whether its nonce is
given or drawn, and what the caller adds under the names of the signer makes no difference. -/
theorem Signer.v1_enveloped (s : Signer) (c : Credentials) (hc : s.credentials = some c)
    (request : String) (nonce : UInt64) (extra : Fields)
    (hextra : (extra.map Prod.fst).Nodup) :
    ∃ h members, s.v1HeadersAt nonce request extra = .ok h ∧
      (∀ (σ : Type) (source : NonceSource σ) (st : σ), (source st).1 = nonce →
        s.v1Headers source st request extra = (.ok h, (source st).2)) ∧
      h.Enveloped request nonce extra members ∧
      ∀ extra' : Fields, (extra'.map Prod.fst).Nodup →
        (∀ k v, k ≠ "request" → k ≠ "nonce" → ((k, v) ∈ extra ↔ (k, v) ∈ extra')) →
        ∃ h', s.v1HeadersAt nonce request extra' = .ok h' ∧ h'.body = h.body := by
  refine ⟨Signature.v1 c request extra nonce, _, ?_, ?_, Signature.enveloped_v1 c hextra, ?_⟩
  · simp only [v1HeadersAt, signing, hc]
  · rintro σ source st rfl
    simp only [v1Headers, drawing, hc]
  · intro extra' hextra' hsame
    refine ⟨Signature.v1 c request extra' nonce, by simp only [v1HeadersAt, signing, hc], ?_⟩
    exact (Signature.envelope_congr hextra hextra' hsame).symm

/-- A caller that tries to sign another request. -/
theorem Signer.v1_enveloped_reserved :
    let s : Signer := ⟨some ⟨"abc", "123", by decide, by decide⟩⟩
    let extra : Fields := [("request", .text "/v1/other"), ("nonce", .text "spoofed"),
      ("é\"", .array [.null, .object [("z", .bool true), ("a", .text "\n")]])]
    (extra.map Prod.fst).Nodup ∧
    ∃ h members, s.v1HeadersAt 7 "/v1/balances" extra = .ok h ∧
      h.Enveloped "/v1/balances" 7 extra members ∧
      (s.v1HeadersAt 7 "/v1/balances" (extra.drop 2)).map (·.body) = .ok h.body := by
  intro s extra
  have hextra : (extra.map Prod.fst).Nodup := by decide
  obtain ⟨h, members, hat, -, henveloped, hsame⟩ :=
    Signer.v1_enveloped s _ rfl "/v1/balances" 7 extra hextra
  refine ⟨hextra, h, members, hat, henveloped, ?_⟩
  obtain ⟨h', hat', hbody⟩ := hsame (extra.drop 2) (by decide) fun k v hr hn => by
    simp [extra, hr, hn]
  rw [hat', ← hbody]
  rfl

end MarketWire
