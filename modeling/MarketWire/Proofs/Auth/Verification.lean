import Mathlib.Data.List.DropRight
import MarketWire.Proofs.Auth.Payload
import MarketWire.Proofs.Record.ObjectText
import MarketWire.Proofs.Session.Challenge
import MarketWire.Rest.Client

/-!
# Signatures of what is sent

Whoever sees what is sent and knows the secret can check the signature: all that has been signed is
found in the address, in the headers and in the body of a request, or in the text that authenticates
a connection, and it is found there as it was signed.
-/
namespace MarketWire

open Json (Fields Value Tree memberOf?)

/-- What anybody computes who knows the secret. -/
def Signature.ofSecret (secret message : String) : String :=
  Bytes.hex (Hmac.sha384 (Bytes.ofText secret) (Bytes.ofText message))

/-! ## What the other side checks -/

namespace HttpRequest

/-- A header by name, whatever the case of its letters. -/
def header? (r : HttpRequest) (name : String) : Option String :=
  (r.headers.find? fun kv => Text.sameLetters kv.1 name).map (·.2)

/-- The request goes where the text says; a login goes into a header instead. -/
def GoesTo (r : HttpRequest) (target : String) : Prop :=
  ∃ u, Url.ofText? target = some u ∧ r.url = if u.login?.isSome then u.withoutLogin else u

/-- A request of the second version is signed as it is sent. -/
structure SignedV2 (r : HttpRequest) (secret base path : String) (nonce : UInt64)
    (body : Value) : Prop where
  method : r.method = .post
  target : r.GoesTo (Client.withoutTrailingSlashes base ++ "/v2/" ++ withoutLeadingSlashes path)
  number : r.header? "bfx-nonce" = some (toString nonce.toNat)
  content : r.body = some body.toText
  signature : ∃ sentNonce sentBody, r.header? "bfx-nonce" = some sentNonce ∧
    r.body = some sentBody ∧
    r.header? "bfx-signature" = some (Signature.ofSecret secret
      ("/api/v2/" ++ withoutLeadingSlashes path ++ sentNonce ++ sentBody))

/-- A request of the first version is signed as it is sent: a header holds the body, and the body
says where the request goes. -/
structure SignedV1 (r : HttpRequest) (secret base path : String) (nonce : UInt64) : Prop where
  method : r.method = .post
  signature : ∃ payload, r.header? "X-BFX-PAYLOAD" = some payload ∧
    r.header? "X-BFX-SIGNATURE" = some (Signature.ofSecret secret payload) ∧
    ∃ body, r.body = some body ∧ Bytes.ofBase64? payload = some (Bytes.ofText body) ∧
      (memberOf? body "nonce").bind Tree.integer? = some (nonce.toNat : Int) ∧
      ∃ request, (memberOf? body "request").bind Tree.text? = some request ∧
        request = "/v1/" ++ withoutLeadingSlashes path ∧
        r.GoesTo (Client.withoutTrailingSlashes base ++ request)

end HttpRequest

/-- The text that authenticates a connection is signed as it is sent. -/
structure Outbound.Signed (o : Outbound) (apiKey secret : String) (nonce : UInt64) : Prop where
  key : (memberOf? o.wire "apiKey").bind Tree.text? = some apiKey
  number : (memberOf? o.wire "authNonce").bind Tree.integer? = some (nonce.toNat : Int)
  signature : ∃ payload, (memberOf? o.wire "authPayload").bind Tree.text? = some payload ∧
    payload = "AUTH" ++ toString nonce.toNat ∧
    (memberOf? o.wire "authSig").bind Tree.text? = some (Signature.ofSecret secret payload)

/-! ## Bodies -/

namespace Signature

variable (request : String) (nonce : UInt64) (extra : Fields)

theorem memberOf?_envelope (name : String) :
    memberOf? (envelope request nonce extra) name =
      ((envelopeFields request nonce extra).get? name).map Value.tree := by
  rw [envelope, Json.memberOf?_toText (sorted_envelopeFields request nonce extra).nodup,
    Fields.lookup_eq_get?]

theorem request_envelope :
    (memberOf? (envelope request nonce extra) "request").bind Tree.text? = some request := by
  rw [memberOf?_envelope, get?_request]
  exact Value.text?_tree request

theorem nonce_envelope :
    (memberOf? (envelope request nonce extra) "nonce").bind Tree.integer? =
      some (nonce.toNat : Int) := by
  rw [memberOf?_envelope, get?_nonce]
  exact Value.integer?_tree nonce.toNat _

end Signature

/-! ## Headers -/

section Headers

variable {name value : String} {r : HttpRequest}

theorem HttpRequest.header?_addressed (hname : Text.sameLetters "authorization" name = false)
    (method : HttpMethod) (u : Url) (headers : List (String × String)) (body : Option String) :
    (Client.addressed method u headers body).header? name =
      (headers.find? fun kv => Text.sameLetters kv.1 name).map (·.2) := by
  unfold Client.addressed header?
  split
  · rfl
  · simp [Client.loginHeader, hname]

theorem HttpRequest.header?_named (c : Client) (h : r.header? name = some value) :
    (c.named r).header? name = some value := by
  unfold header? at h ⊢
  obtain ⟨kv, hkv, hvalue⟩ := Option.map_eq_some_iff.mp h
  simp [Client.named, List.find?_append, hkv, hvalue]

/-- Headers of the signer are found among those of the request. -/
theorem HttpRequest.header?_sent (c : Client) {h : SignedHeaders} (hget : h.get? name = some value)
    (hauth : Text.sameLetters "authorization" name = false)
    (htype : Text.sameLetters "content-type" name = false) (u : Url) :
    (c.named (Client.addressed .post u (("content-type", "application/json") :: h.headers)
      (some h.body))).header? name = some value := by
  refine header?_named c ?_
  rw [header?_addressed hauth, List.find?_cons_of_neg (by simp [htype])]
  exact hget

theorem isHeaderText_ofList {cs : List Char}
    (h : ∀ c ∈ cs, 0x20 ≤ c.toNat ∧ c.toNat ≠ 0x7F) : isHeaderText (.ofList cs) = true := by
  simp only [isHeaderText, String.toList_ofList, List.all_eq_true, Bool.or_eq_true,
    Bool.and_eq_true, decide_eq_true_eq, bne_iff_ne]
  exact fun c hc => .inl (h c hc)

theorem isHeaderText_nonceText (nonce : UInt64) :
    isHeaderText (Signature.nonceText nonce) = true := by
  rw [Signature.nonceText, Nat.toString_eq_ofList_toDigits]
  refine isHeaderText_ofList fun c hc => ?_
  have hdigit := Json.isDigit_of_mem_digits c hc
  simp only [Char.isDigit, Bool.and_eq_true, decide_eq_true_eq, UInt32.le_iff_toNat_le] at hdigit
  have hlow : 48 ≤ c.toNat := hdigit.1
  have hhigh : c.toNat ≤ 57 := hdigit.2
  omega

theorem isHeaderText_hex (bytes : List UInt8) : isHeaderText (Bytes.hex bytes) = true := by
  have hdigit : ∀ d < 16, 0x20 ≤ (Nat.digitChar d).toNat ∧ (Nat.digitChar d).toNat ≠ 0x7F := by
    decide
  refine isHeaderText_ofList fun c hc => ?_
  obtain ⟨b, -, hc⟩ := List.mem_flatMap.mp hc
  have hb := b.toNat_lt
  simp only [Bytes.hexByte, List.mem_cons, List.not_mem_nil, or_false] at hc
  rcases hc with rfl | rfl <;> exact hdigit _ (by omega)

theorem isHeaderText_base64 (bytes : List UInt8) : isHeaderText (Bytes.base64 bytes) = true := by
  have hletter : ∀ n, 0x20 ≤ (Bytes.letter n).toNat ∧ (Bytes.letter n).toNat ≠ 0x7F :=
    Bytes.forall_letter (P := fun c _ => 0x20 ≤ c.toNat ∧ c.toNat ≠ 0x7F) (by decide)
  refine isHeaderText_ofList fun c hc => ?_
  rcases Bytes.eq_of_mem_base64Chars hc with rfl | ⟨n, rfl⟩
  · decide
  · exact hletter n

end Headers

/-! ## Requests -/

namespace Client

variable {k : Credentials}

theorem signedRequest_eq_ok_iff {url : String} {h : SignedHeaders} {r : HttpRequest} :
    signedRequest url (.ok h) = .ok r ↔ ∃ u, Url.ofText? url = some u ∧
      (h.headers.all fun kv => isHeaderText kv.2) = true ∧
      addressed .post u (("content-type", "application/json") :: h.headers) (some h.body) = r := by
  have htype : isHeaderText "application/json" = true := by decide
  unfold signedRequest build
  cases Url.ofText? url with
  | none => simp
  | some u =>
    simp only [List.all_cons, htype, Bool.true_and, Option.some.injEq, exists_eq_left']
    split
    case isTrue hall => simp [hall]
    case isFalse hall => simp [hall]

theorem goesTo_addressed (method : HttpMethod) {target : String} {u : Url}
    (hu : Url.ofText? target = some u) (headers : List (String × String)) (body : Option String) :
    (addressed method u headers body).GoesTo target := by
  refine ⟨u, hu, ?_⟩
  unfold addressed
  cases u.login? <;> rfl

theorem method_addressed (method : HttpMethod) (u : Url) (headers : List (String × String))
    (body : Option String) : (addressed method u headers body).method = method := by
  unfold addressed
  split <;> rfl

theorem body_addressed (method : HttpMethod) (u : Url) (headers : List (String × String))
    (body : Option String) : (addressed method u headers body).body = body := by
  unfold addressed
  split <;> rfl

theorem withoutLeadingSlashes_idem (s : String) :
    withoutLeadingSlashes (withoutLeadingSlashes s) = withoutLeadingSlashes s := by
  simp [withoutLeadingSlashes, List.dropWhile_idempotent]

theorem v2Url_eq (c : Client) (path : String) :
    c.v2Url path =
      withoutTrailingSlashes c.config.authUrl ++ "/v2/" ++ withoutLeadingSlashes path := by
  rw [← String.toList_inj]
  simp [v2Url, join, withoutLeadingSlashes]

theorem join_v1Path (base path : String) :
    join base (v1Path path) = withoutTrailingSlashes base ++ v1Path path := by
  rw [← String.toList_inj]
  simp [join, v1Path, withoutLeadingSlashes]

/-- A request of the second version goes out exactly if its address is one and its key can stand in
a header; the nonce is drawn in any case, and what goes out is signed as it is sent. -/
theorem v2Request_signed (c : Client) (hk : c.signer.credentials = some k) {σ : Type}
    (source : NonceSource σ) (st : σ) (path : String) (body : Value) :
    (c.v2Request source st path body).2 = (source st).2 ∧
    ((∃ r, (c.v2Request source st path body).1 = .ok r) ↔
      (Url.ofText? (withoutTrailingSlashes c.config.authUrl ++ "/v2/" ++
        withoutLeadingSlashes path)).isSome = true ∧ isHeaderText k.apiKey = true) ∧
    ∀ r, (c.v2Request source st path body).1 = .ok r →
      (c.named r).SignedV2 k.secret c.config.authUrl path (source st).1 body := by
  have hrequest : c.v2Request source st path body =
      (signedRequest (c.v2Url path)
        (.ok (Signature.v2 k (withoutLeadingSlashes path) body.toText (source st).1)),
        (source st).2) := by
    simp only [v2Request, Signer.v2Headers, Signer.drawing, hk]
  rw [hrequest]
  simp only [signedRequest_eq_ok_iff, v2Url_eq]
  refine ⟨trivial, ?_, ?_⟩
  · simp [Option.isSome_iff_exists, Signature.v2, isHeaderText_nonceText, Credentials.sign,
      isHeaderText_hex]
  · rintro r ⟨u, hu, -, rfl⟩
    have hnonce := HttpRequest.header?_sent c
      (Signature.get?_v2_nonce k (withoutLeadingSlashes path) body.toText (source st).1)
      (by decide) (by decide) u
    have hsignature := HttpRequest.header?_sent c
      (Signature.get?_v2_signature k (withoutLeadingSlashes path) body.toText (source st).1)
      (by decide) (by decide) u
    have hbody := body_addressed .post u (("content-type", "application/json") ::
      (Signature.v2 k (withoutLeadingSlashes path) body.toText (source st).1).headers)
      (some body.toText)
    refine ⟨method_addressed .., goesTo_addressed .post hu _ _, hnonce, hbody,
      _, _, hnonce, hbody, ?_⟩
    rw [hsignature, Signature.v2Payload, Signature.v2Path, withoutLeadingSlashes_idem]
    rfl

/-- A request of the first version goes out exactly if its address is one and its key can stand in
a header; the nonce is drawn in any case, and what goes out is signed as it is sent. -/
theorem v1Request_signed (c : Client) (hk : c.signer.credentials = some k) {σ : Type}
    (source : NonceSource σ) (st : σ) (path : String) (extra : Fields) :
    (c.v1Request source st path extra).2 = (source st).2 ∧
    ((∃ r, (c.v1Request source st path extra).1 = .ok r) ↔
      (Url.ofText? (withoutTrailingSlashes c.config.authUrl ++ "/v1/" ++
        withoutLeadingSlashes path)).isSome = true ∧ isHeaderText k.apiKey = true) ∧
    ∀ r, (c.v1Request source st path extra).1 = .ok r →
      (c.named r).SignedV1 k.secret c.config.authUrl path (source st).1 := by
  have hrequest : c.v1Request source st path extra =
      (signedRequest (withoutTrailingSlashes c.config.authUrl ++ v1Path path)
        (.ok (Signature.v1 k (v1Path path) extra (source st).1)), (source st).2) := by
    simp only [v1Request, Signer.v1Headers, Signer.drawing, hk, join_v1Path]
  have htarget : withoutTrailingSlashes c.config.authUrl ++ "/v1/" ++ withoutLeadingSlashes path =
      withoutTrailingSlashes c.config.authUrl ++ v1Path path := by
    rw [v1Path, String.append_assoc]
  rw [hrequest, htarget]
  simp only [signedRequest_eq_ok_iff]
  refine ⟨trivial, ?_, ?_⟩
  · simp [Option.isSome_iff_exists, Signature.v1, isHeaderText_base64, Credentials.sign,
      isHeaderText_hex]
  · rintro r ⟨u, hu, -, rfl⟩
    have hpayload := HttpRequest.header?_sent c
      (Signature.get?_v1_payload k (v1Path path) extra (source st).1) (by decide) (by decide) u
    have hsignature := HttpRequest.header?_sent c
      (Signature.get?_v1_signature k (v1Path path) extra (source st).1) (by decide) (by decide) u
    refine ⟨method_addressed .., _, hpayload, hsignature, _, body_addressed .., ?_, ?_, _, ?_, rfl,
      goesTo_addressed .post hu _ _⟩
    · exact Bytes.ofBase64?_base64 _
    · exact Signature.nonce_envelope ..
    · exact Signature.request_envelope ..

end Client

/-! ## Connections -/

theorem AuthRequest.memberOf?_wire (r : AuthRequest) (name : String) :
    memberOf? r.wire name = (r.members.lookup name).map Value.tree := by
  have hnodup : (r.members.map Prod.fst).Nodup := by
    cases hdms : r.deadManSwitch <;> cases hfilter : r.filter <;>
      simp [members, optionalMember, hdms, hfilter]
  rw [wire, Value.orderedObject_eq, Json.memberOf?_toText hnodup]

theorem AuthRequest.text?_wire {r : AuthRequest} {name value : String}
    (h : r.members.lookup name = some (.text value)) :
    (memberOf? r.wire name).bind Tree.text? = some value := by
  rw [memberOf?_wire, h, Option.map_some, Option.bind_some, Value.text?_tree]

theorem Outbound.signed_auth (c : ConnectionConfig) (k : Credentials) (nonce : UInt64) :
    (Outbound.auth (Session.authRequest c (Signature.ws k nonce))).Signed k.apiKey k.secret
      nonce where
  key := AuthRequest.text?_wire rfl
  number := by
    rw [Outbound.wire, AuthRequest.memberOf?_wire]
    exact Value.integer?_tree nonce.toNat _
  signature := by
    have hpayload : Signature.payload Signature.wsWord nonce "" = "AUTH" ++ toString nonce.toNat := by
      simp [Signature.payload, Signature.wsWord, Signature.nonceText]
    have hsig : (Signature.ws k nonce).authSig =
        Signature.ofSecret k.secret ("AUTH" ++ toString nonce.toNat) := by
      rw [← hpayload]
      rfl
    refine ⟨"AUTH" ++ toString nonce.toNat, AuthRequest.text?_wire rfl, rfl, ?_⟩
    rw [← hsig]
    exact AuthRequest.text?_wire rfl

namespace Session

variable {s s' : Session}

/-- Where the loop asks, it sends what the credentials sign with the nonce that it draws. -/
theorem sent_authenticate (s : Session) (p : Purpose) :
    (s.authenticate p).sent = s.sent ∨ ∃ k, s.signer.credentials = some k ∧
      (s.authenticate p).sent =
        s.sent ++ [.auth (authRequest s.config (Signature.ws k s.counter.next))] ∧
      (s.authenticate p).counter = (Counter.draw s.counter).2 := by
  unfold authenticate
  simp only [setState_eq, Signer.wsAuth, Signer.drawing]
  cases hk : s.signer.credentials with
  | none => simp [fail, conclude_eq]
  | some k =>
    cases hl : s.link.send with
    | error e => simp [send, hl, fail, conclude_eq]
    | ok u =>
      simp only [send, hl]
      exact .inr ⟨k, rfl, rfl, trivial⟩

/-- Only where the loop asks does it send an authentication. -/
theorem auth_mem_of_act {a : Act} (ha : s.asks a = 0) {r : AuthRequest}
    (h : .auth r ∈ (s.act a).sent) : .auth r ∈ s.sent := by
  have hmore : ∀ {s' : Session} {out : List Outbound}, s'.sent = s.sent ++ out →
      (∀ o ∈ out, o.isAuth = false) → .auth r ∈ s'.sent → .auth r ∈ s.sent := by
    intro s' out hs hout hr
    rw [hs] at hr
    exact (List.mem_append.mp hr).resolve_right fun ho => Bool.noConfusion (hout _ ho)
  rcases s.course_act a with ⟨hk, -⟩ | ⟨rfl, hc⟩
  · exact hk.sent ▸ h
  · generalize s.act .step = s' at hc h
    cases hc with
    | asked hp => simp [asks, hp, Phase.stage] at ha
    | ended _ _ hs | granted _ _ _ _ hs => exact hs ▸ h
    | connected _ _ hk | privately _ _ _ hk | publicly _ _ _ hk | asks _ _ _ hk =>
      exact hk.sent ▸ h
    | waits _ _ hs hout => exact hmore hs (fun o ho => (hout o ho).1) h
    | serves _ _ hs hout => exact hmore hs hout h

/-- Before the loop asks, the counter stands where it stood and nothing has been authenticated; what
authenticates the connection then was signed with the nonce that the counter gave. -/
structure Authentic (k? : Option Credentials) (config : ConnectionConfig) (counter : Counter)
    (s : Session) : Prop where
  undrawn : (s.counter = counter ∧ ∀ r, .auth r ∉ s.sent) ∨ s.Challenged
  signed : ∀ r, .auth r ∈ s.sent → s.counter = (Counter.draw counter).2 ∧
    ∃ k, k? = some k ∧ r = authRequest config (Signature.ws k counter.next)

theorem Authentic.act {k? : Option Credentials} {config : ConnectionConfig} {counter : Counter}
    (h : s.Authentic k? config counter) (hk : s.signer.credentials = k?)
    (hc : s.config = config) (a : Act) : (s.act a).Authentic k? config counter := by
  -- Only the act that asks draws a nonce, and once it has asked the loop asks no more.
  rcases s.asks_cases a with ha | ⟨rfl, ha⟩
  · have hcounter : (s.act a).counter = s.counter :=
      (s.counter_act a).resolve_right fun hasks => by rw [ha] at hasks; cases hasks.1
    refine ⟨?_, fun r hr => ?_⟩
    · refine h.undrawn.imp (fun ⟨hsame, hno⟩ => ?_) (·.act a)
      exact ⟨hcounter.trans hsame, fun r hr => hno r (auth_mem_of_act ha hr)⟩
    · rw [hcounter]
      exact h.signed r (auth_mem_of_act ha hr)
  · obtain ⟨hsame, hno⟩ := h.undrawn.resolve_right fun hdone => hdone.not_asking ha
    refine ⟨.inr (challenged_of_asking ha), fun r hr => ?_⟩
    obtain ⟨p, hs⟩ := step?_of_asking ha
    rw [act_step hs] at hr ⊢
    rcases s.sent_authenticate p with hsent | ⟨k, hcred, hsent, hcounter⟩
    · rw [hsent] at hr
      exact absurd hr (hno r)
    · rw [hsent] at hr
      rcases List.mem_append.mp hr with hr | hr
      · exact absurd hr (hno r)
      · simp only [List.mem_singleton, Outbound.auth.injEq] at hr
        rw [hcounter, hr, hsame, hc]
        exact ⟨rfl, k, hk ▸ hcred, rfl⟩

/-- Whatever authenticates a connection was signed with the nonce that the connection has drawn. -/
theorem authentic_run (config : ConnectionConfig) (signer : Signer) (counter : Counter)
    (link : Link) (acts : List Act) :
    ((create config signer counter link).run acts).Authentic signer.credentials config counter := by
  refine (run_induction
    (P := fun s => s.Authentic signer.credentials config counter ∧ s.givens = (config, signer))
    ⟨⟨.inl ⟨rfl, fun _ => List.not_mem_nil⟩, fun _ hr => absurd hr List.not_mem_nil⟩, rfl⟩
    (fun s a ⟨h, hg⟩ => ⟨?_, (s.givens_act a).trans hg⟩) acts).1
  have hsigner : s.signer = signer := congrArg Prod.snd hg
  exact h.act (by rw [hsigner]) (congrArg Prod.fst hg) a

end Session

/-- All that is sent can be checked by who knows the secret. Requests of either version and the text
that authenticates a connection carry, along with the signature, everything that has been signed, and
the nonce that has been drawn for them; requests go out unless the address is none or the key cannot
stand in a header. -/
theorem sent_verifies (c : Client) (k : Credentials) (hk : c.signer.credentials = some k)
    {σ : Type} (source : NonceSource σ) (st : σ) (path : String) (body : Value) (extra : Fields)
    (config : ConnectionConfig) (counter : Counter) (link : Link) (acts : List Session.Act) :
    let base := Client.withoutTrailingSlashes c.config.authUrl
    let v2 := c.v2Request source st path body
    let v1 := c.v1Request source st path extra
    let session := (Session.create config c.signer counter link).run acts
    (v2.2 = (source st).2 ∧
      ((∃ r, v2.1 = .ok r) ↔
        (Url.ofText? (base ++ "/v2/" ++ withoutLeadingSlashes path)).isSome = true ∧
          isHeaderText k.apiKey = true) ∧
      ∀ r, v2.1 = .ok r →
        (c.named r).SignedV2 k.secret c.config.authUrl path (source st).1 body) ∧
    (v1.2 = (source st).2 ∧
      ((∃ r, v1.1 = .ok r) ↔
        (Url.ofText? (base ++ "/v1/" ++ withoutLeadingSlashes path)).isSome = true ∧
          isHeaderText k.apiKey = true) ∧
      ∀ r, v1.1 = .ok r → (c.named r).SignedV1 k.secret c.config.authUrl path (source st).1) ∧
    (∃ a, c.signer.wsAuth source st = (.ok a, (source st).2) ∧
      (Outbound.auth (Session.authRequest config a)).Signed k.apiKey k.secret (source st).1) ∧
    ∀ r, .auth r ∈ session.sent → session.counter = (Counter.draw counter).2 ∧
      (Outbound.auth r).Signed k.apiKey k.secret (Counter.draw counter).1 := by
  refine ⟨Client.v2Request_signed c hk source st path body,
    Client.v1Request_signed c hk source st path extra, ?_, fun r hr => ?_⟩
  · refine ⟨Signature.ws k (source st).1, ?_, Outbound.signed_auth config k (source st).1⟩
    simp only [Signer.wsAuth, Signer.drawing, hk]
  · obtain ⟨hcounter, k', hk', rfl⟩ :=
      (Session.authentic_run config c.signer counter link acts).signed r hr
    rw [hk] at hk'
    cases hk'
    exact ⟨hcounter, Outbound.signed_auth config k counter.next⟩

/-- A connection with an account feed asks, and both versions of a request go out. -/
theorem sent_verifies_orders :
    let c : Client := ⟨{ ClientConfig.standard with authUrl := "http://[::1]//" },
      ⟨some ⟨"abc", "123", by decide, by decide⟩⟩, by decide⟩
    let acts : List Session.Act := [.start, .register .account, .announce, .step, .step, .step]
    let session := (Session.create .standard c.signer ⟨1000⟩ (.create "" true none none)).run acts
    (∃ r, (c.v2Request Counter.draw ⟨7⟩ "//orders" (.object [])).1 = .ok r ∧
      (c.named r).SignedV2 "123" "http://[::1]//" "//orders" 7 (.object [])) ∧
    (∃ r, (c.v1Request Counter.draw ⟨7⟩ "//orders" [("request", .null)]).1 = .ok r ∧
      (c.named r).SignedV1 "123" "http://[::1]//" "//orders" 7) ∧
    ∃ r, .auth r ∈ session.sent ∧ (Outbound.auth r).Signed "abc" "123" 1000 := by
  intro c acts session
  obtain ⟨⟨-, hv2, hsigned2⟩, ⟨-, hv1, hsigned1⟩, -, hsession⟩ :=
    sent_verifies c ⟨"abc", "123", by decide, by decide⟩ rfl Counter.draw ⟨7⟩ "//orders"
      (.object []) [("request", .null)] .standard ⟨1000⟩ (.create "" true none none) acts
  obtain ⟨r2, hr2⟩ := hv2.mpr ⟨by decide +kernel, by decide⟩
  obtain ⟨r1, hr1⟩ := hv1.mpr ⟨by decide +kernel, by decide⟩
  have hasked : session.sent.any Outbound.isAuth = true := by decide +kernel
  obtain ⟨o, ho, hauth⟩ := List.any_eq_true.mp hasked
  cases o with
  | auth r =>
    exact ⟨⟨r2, hr2, hsigned2 r2 hr2⟩, ⟨r1, hr1, hsigned1 r1 hr1⟩, r, ho, (hsession r ho).2⟩
  | subscribe id r => cases hauth
  | unsubscribe chanId => cases hauth

end MarketWire
