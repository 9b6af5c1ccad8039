import Mathlib.Data.List.Nodup
import MarketWire.Auth.Signer
import MarketWire.Rest.Client

/-!
# Spending nonces

Signers and clients may share one source of nonces, while each has credentials of its own. A call
that has to sign asks for the credentials before it draws. So nothing is drawn for a call that is
refused, and exactly one nonce for any other that is not given one. A counter thus hands out its
numbers in the order of the calls, whoever they are made to, and repeats none until it has handed
out all.
-/
namespace MarketWire

/-- How a call is answered. -/
inductive Answer where
  | headers (r : Except AuthError SignedHeaders)
  | auth (r : Except AuthError WsAuth)
  | request (r : Except RestError HttpRequest)
  | nonce (n : UInt64)
  | done

namespace Answer

/-- There were no credentials to sign with. -/
def IsRefused : Answer → Prop
  | .headers r => r = .error .credentialsNotSet
  | .auth r => r = .error .credentialsNotSet
  | .request r => r = .error (.auth .credentialsNotSet)
  | .nonce _ | .done => False

/-- The answer is made of a nonce. A request may still fail to be built from what has been signed. -/
inductive Spends (n : UInt64) : Answer → Prop where
  | headers (h : SignedHeaders) (hn : h.nonce = n) : Spends n (.headers (.ok h))
  | auth (a : WsAuth) (hn : a.authNonce = n) : Spends n (.auth (.ok a))
  | request (url : String) (h : SignedHeaders) (hn : h.nonce = n) :
    Spends n (.request (Client.signedRequest url (.ok h)))
  | nonce : Spends n (.nonce n)

end Answer

theorem Client.build_ne_auth {method : HttpMethod} {url : String}
    {headers : List (String × String)} {body : Option String} {e : AuthError} :
    build method url headers body ≠ .error (.auth e) := by
  unfold build
  split
  · simp
  · split <;> simp

theorem Answer.Spends.not_isRefused {n : UInt64} {a : Answer} (h : a.Spends n) : ¬a.IsRefused := by
  cases h with
  | headers h hn => simp [IsRefused]
  | auth a hn => simp [IsRefused]
  | request url h hn => exact Client.build_ne_auth
  | nonce => exact id

/-! ## Calls -/

namespace Signer

/-- What a signer can be asked for, with a nonce of its own or with one that is given. -/
inductive Call where
  | v2 (path body : String)
  | v2At (nonce : UInt64) (path body : String)
  | v1 (request : String) (extra : Json.Fields)
  | v1At (nonce : UInt64) (request : String) (extra : Json.Fields)
  | ws
  | wsAt (nonce : UInt64)
  | nonce
  | set (k : Credentials)

namespace Call

def signs : Call → Bool
  | .nonce | .set _ => false
  | _ => true

/-- Whether the call needs a nonce and is given none. -/
def draws : Call → Bool
  | .v2 .. | .v1 .. | .ws | .nonce => true
  | _ => false

def sets? : Call → Option Credentials
  | .set k => some k
  | _ => none

end Call

def call (s : Signer) (source : NonceSource σ) (st : σ) : Call → Answer × Signer × σ
  | .v2 path body =>
    let (r, st) := s.v2Headers source st path body
    (.headers r, s, st)
  | .v2At nonce path body => (.headers (s.v2HeadersAt nonce path body), s, st)
  | .v1 request extra =>
    let (r, st) := s.v1Headers source st request extra
    (.headers r, s, st)
  | .v1At nonce request extra => (.headers (s.v1HeadersAt nonce request extra), s, st)
  | .ws =>
    let (r, st) := s.wsAuth source st
    (.auth r, s, st)
  | .wsAt nonce => (.auth (s.wsAuthAt nonce), s, st)
  | .nonce =>
    let (n, st) := source st
    (.nonce n, s, st)
  | .set k => (.done, ⟨some k⟩, st)

end Signer

namespace Client

inductive Call where
  | v2 (path : String) (body : Json.Value)
  | v1 (path : String) (extra : Json.Fields)
  | set (k : Credentials)

namespace Call

/-- Whoever signs for a client draws a nonce for it. -/
def signs : Call → Bool
  | .set _ => false
  | _ => true

def sets? : Call → Option Credentials
  | .set k => some k
  | _ => none

end Call

def call (c : Client) (source : NonceSource σ) (st : σ) : Call → Answer × Client × σ
  | .v2 path body =>
    let (r, st) := c.v2Request source st path body
    (.request r, c, st)
  | .v1 path extra =>
    let (r, st) := c.v1Request source st path extra
    (.request r, c, st)
  | .set k => (.done, c.withCredentials k, st)

end Client

/-! ## One call -/

/-- What a call that signs, or draws, means for the source. -/
inductive Accounted (source : NonceSource σ) (credentials : Option Credentials) (st : σ) :
    (signs draws : Bool) → Answer → σ → Prop where
  | refused {draws : Bool} {a : Answer} (hnone : credentials = none) (ha : a.IsRefused) :
    Accounted source credentials st true draws a st
  | undrawn {signs : Bool} {a : Answer} (hsome : signs = true → credentials ≠ none)
    (ha : ¬a.IsRefused) : Accounted source credentials st signs false a st
  | drawn {signs : Bool} {a : Answer} (hsome : signs = true → credentials ≠ none)
    (ha : a.Spends (source st).1) : Accounted source credentials st signs true a (source st).2

theorem Accounted.isRefused_iff {source : NonceSource σ} {credentials : Option Credentials}
    {st st' : σ} {signs draws : Bool} {a : Answer}
    (h : Accounted source credentials st signs draws a st') :
    a.IsRefused ↔ signs = true ∧ credentials = none := by
  cases h with
  | refused hnone ha => exact iff_of_true ha ⟨rfl, hnone⟩
  | undrawn hsome ha => exact iff_of_false ha fun h => hsome h.1 h.2
  | drawn hsome ha => exact iff_of_false ha.not_isRefused fun h => hsome h.1 h.2

namespace Signer

section
variable {s : Signer} {source : NonceSource σ} {st : σ}

theorem accounted_signing {f : Credentials → α} (answer : Except AuthError α → Answer)
    (hnone : (answer (.error .credentialsNotSet)).IsRefused)
    (hsome : ∀ k, ¬(answer (.ok (f k))).IsRefused) :
    Accounted source s.credentials st true false (answer (s.signing f)) st := by
  unfold signing
  split
  case h_1 hk => exact .refused hk hnone
  case h_2 k hk => exact .undrawn (fun _ => by simp [hk]) (hsome k)

theorem accounted_drawing {f : Credentials → UInt64 → α} (answer : Except AuthError α → Answer)
    (hnone : (answer (.error .credentialsNotSet)).IsRefused)
    (hsome : ∀ k n, (answer (.ok (f k n))).Spends n) :
    Accounted source s.credentials st true true (answer (s.drawing source st f).1)
      (s.drawing source st f).2 := by
  unfold drawing
  split
  case h_1 hk => exact .refused hk hnone
  case h_2 k hk => exact .drawn (fun _ => by simp [hk]) (hsome k _)

end

theorem accounted_call (s : Signer) (source : NonceSource σ) (st : σ) (c : Call) :
    Accounted source s.credentials st c.signs c.draws (s.call source st c).1
      (s.call source st c).2.2 := by
  cases c with
  | v2 | v1 => exact accounted_drawing .headers rfl fun _ _ => .headers _ rfl
  | ws => exact accounted_drawing .auth rfl fun _ _ => .auth _ rfl
  | v2At | v1At => exact accounted_signing .headers rfl fun _ => by simp [Answer.IsRefused]
  | wsAt => exact accounted_signing .auth rfl fun _ => by simp [Answer.IsRefused]
  | nonce => exact .drawn (fun h => absurd h Bool.false_ne_true) .nonce
  | set k => exact .undrawn (fun h => absurd h Bool.false_ne_true) id

theorem signer_call (s : Signer) (source : NonceSource σ) (st : σ) (c : Call) :
    (s.call source st c).2.1 = (c.sets?.map fun k => ⟨some k⟩).getD s := by
  cases c <;> rfl

section
variable {source : NonceSource σ} {source' : NonceSource τ} {f : σ → τ}
  (hf : ∀ st, source' (f st) = ((source st).1, f (source st).2))
include hf

theorem drawing_map (s : Signer) (st : σ) (g : Credentials → UInt64 → α) :
    s.drawing source' (f st) g = ((s.drawing source st g).1, f (s.drawing source st g).2) := by
  unfold drawing
  split
  case h_1 => rfl
  case h_2 => rw [hf]

/-- A call sees no more of a source than the nonce that it draws. -/
theorem call_map (s : Signer) (st : σ) (c : Call) :
    s.call source' (f st) c =
      ((s.call source st c).1, (s.call source st c).2.1, f (s.call source st c).2.2) := by
  cases c with
  | v2 | v1 | ws => simp only [call, v2Headers, v1Headers, wsAuth, drawing_map hf]
  | nonce => simp only [call, hf]
  | v2At | v1At | wsAt | set => rfl

end
end Signer

namespace Client

theorem accounted_signedRequest (s : Signer) (source : NonceSource σ) (st : σ) (url : String)
    {f : Credentials → UInt64 → SignedHeaders} (hf : ∀ k n, (f k n).nonce = n) :
    Accounted source s.credentials st true true
      (.request (signedRequest url (s.drawing source st f).1)) (s.drawing source st f).2 :=
  Signer.accounted_drawing (fun r => .request (signedRequest url r)) rfl
    fun k n => .request url (f k n) (hf k n)

theorem accounted_call (c : Client) (source : NonceSource σ) (st : σ) (call : Call) :
    Accounted source c.signer.credentials st call.signs call.signs (c.call source st call).1
      (c.call source st call).2.2 := by
  cases call with
  | v2 | v1 => exact accounted_signedRequest _ source st _ fun _ _ => rfl
  | set k => exact .undrawn (fun h => absurd h Bool.false_ne_true) id

theorem signer_call (c : Client) (source : NonceSource σ) (st : σ) (call : Call) :
    (c.call source st call).2.1.signer =
      (call.sets?.map fun k => ⟨some k⟩).getD c.signer := by
  cases call <;> rfl

theorem call_map {source : NonceSource σ} {source' : NonceSource τ} {f : σ → τ}
    (hf : ∀ st, source' (f st) = ((source st).1, f (source st).2)) (c : Client) (st : σ)
    (call : Call) :
    c.call source' (f st) call =
      ((c.call source st call).1, (c.call source st call).2.1, f (c.call source st call).2.2) := by
  cases call with
  | v2 | v1 =>
    simp only [Client.call, v2Request, v1Request, Signer.v2Headers, Signer.v1Headers,
      Signer.drawing_map hf]
  | set => rfl

end Client

/-! ## Signers that share a source -/

/-- Signers and clients that draw from one source. -/
structure Desk (σ : Type) where
  state : σ
  signers : List Signer
  clients : List Client

namespace Desk

/-- Who has credentials. -/
inductive Holder where
  | signer (i : Nat)
  | client (i : Nat)
deriving DecidableEq

inductive Move where
  | signer (i : Nat) (c : Signer.Call)
  | client (i : Nat) (c : Client.Call)
  | cloneSigner (i : Nat)
  | cloneClient (i : Nat)
  /-- A client is made that has a clone of a signer. -/
  | connect (i : Nat) (config : ClientConfig)

namespace Move

/-- Who is called. -/
def holder? : Move → Option Holder
  | .signer i _ => some (.signer i)
  | .client i _ => some (.client i)
  | _ => none

def signs : Move → Bool
  | .signer _ c => c.signs
  | .client _ c => c.signs
  | _ => false

def draws : Move → Bool
  | .signer _ c => c.draws
  | .client _ c => c.signs
  | _ => false

def sets? : Move → Option Credentials
  | .signer _ c => c.sets?
  | .client _ c => c.sets?
  | _ => none

/-- What becomes of somebody's signer. -/
def leaves (m : Move) (h : Holder) (s : Signer) : Signer :=
  if m.holder? = some h then (m.sets?.map fun k => ⟨some k⟩).getD s else s

end Move

variable {σ τ : Type}

def opened (st : σ) (s : Signer) : Desk σ := ⟨st, [s], []⟩

/-- The same signers and clients with another source. -/
def map (f : σ → τ) (d : Desk σ) : Desk τ := ⟨f d.state, d.signers, d.clients⟩

def signer? (d : Desk σ) : Holder → Option Signer
  | .signer i => d.signers[i]?
  | .client i => d.clients[i]?.map (·.signer)

/-- A call is answered by whoever it is made to. -/
def step (source : NonceSource σ) (d : Desk σ) : Move → Option Answer × Desk σ
  | .signer i c =>
    match d.signers[i]? with
    | none => (none, d)
    | some s =>
      let (a, s, st) := s.call source d.state c
      (some a, ⟨st, d.signers.set i s, d.clients⟩)
  | .client i c =>
    match d.clients[i]? with
    | none => (none, d)
    | some client =>
      let (a, client, st) := client.call source d.state c
      (some a, ⟨st, d.signers, d.clients.set i client⟩)
  | .cloneSigner i => (none, { d with signers := d.signers ++ d.signers[i]?.toList })
  | .cloneClient i => (none, { d with clients := d.clients ++ d.clients[i]?.toList })
  | .connect i config =>
    let client := d.signers[i]?.bind fun s => (Client.create config s).toOption
    (none, { d with clients := d.clients ++ client.toList })

def run (source : NonceSource σ) (d : Desk σ) (ms : List Move) : Desk σ :=
  ms.foldl (fun d m => (d.step source m).2) d

def answers (source : NonceSource σ) (d : Desk σ) : List Move → List (Option Answer)
  | [] => []
  | m :: ms => (d.step source m).1 :: answers source (d.step source m).2 ms

section
variable (source : NonceSource σ) (d : Desk σ)

theorem step_signer {i : Nat} {s : Signer} (h : d.signers[i]? = some s) (c : Signer.Call) :
    d.step source (.signer i c) = (some (s.call source d.state c).1,
      ⟨(s.call source d.state c).2.2, d.signers.set i (s.call source d.state c).2.1,
        d.clients⟩) := by
  rw [step, h]

theorem step_signer_of_none {i : Nat} (h : d.signers[i]? = none) (c : Signer.Call) :
    d.step source (.signer i c) = (none, d) := by
  rw [step, h]

theorem step_client {i : Nat} {client : Client} (h : d.clients[i]? = some client)
    (c : Client.Call) :
    d.step source (.client i c) = (some (client.call source d.state c).1,
      ⟨(client.call source d.state c).2.2, d.signers,
        d.clients.set i (client.call source d.state c).2.1⟩) := by
  rw [step, h]

theorem step_client_of_none {i : Nat} (h : d.clients[i]? = none) (c : Client.Call) :
    d.step source (.client i c) = (none, d) := by
  rw [step, h]

/-- Whoever is called answers, and nothing else concerns the source. -/
theorem accounted_step (m : Move) :
    (m.holder?.bind d.signer? = none ∧ (d.step source m).2.state = d.state) ∨
    ∃ s a, m.holder?.bind d.signer? = some s ∧ (d.step source m).1 = some a ∧
      Accounted source s.credentials d.state m.signs m.draws a (d.step source m).2.state := by
  cases m with
  | signer i c =>
    cases hs : d.signers[i]? with
    | none =>
      rw [step_signer_of_none source d hs]
      exact .inl ⟨hs, rfl⟩
    | some s =>
      rw [step_signer source d hs]
      exact .inr ⟨s, _, hs, rfl, s.accounted_call source d.state c⟩
  | client i c =>
    have hsigner : d.signer? (.client i) = d.clients[i]?.map (·.signer) := rfl
    cases hc : d.clients[i]? with
    | none =>
      rw [step_client_of_none source d hc]
      exact .inl ⟨by rw [Move.holder?, Option.bind_some, hsigner, hc, Option.map_none], rfl⟩
    | some client =>
      rw [step_client source d hc]
      refine .inr ⟨client.signer, _, ?_, rfl, client.accounted_call source d.state c⟩
      rw [Move.holder?, Option.bind_some, hsigner, hc, Option.map_some]
  | cloneSigner | cloneClient | connect => exact .inl ⟨rfl, rfl⟩

theorem signers_step {j : Nat} {s : Signer} (hs : d.signers[j]? = some s) (m : Move) :
    (d.step source m).2.signers[j]? = some (m.leaves (.signer j) s) := by
  obtain ⟨hj, -⟩ := List.getElem?_eq_some_iff.mp hs
  cases m with
  | signer i c =>
    by_cases hij : i = j
    · subst hij
      rw [step_signer source d hs, List.getElem?_set_self hj, s.signer_call]
      simp [Move.leaves, Move.holder?, Move.sets?]
    · have hother : Move.leaves (.signer i c) (.signer j) s = s := by
        simp [Move.leaves, Move.holder?, hij]
      rw [hother]
      cases hi : d.signers[i]? with
      | none => rw [step_signer_of_none source d hi, hs]
      | some t => rw [step_signer source d hi, List.getElem?_set_ne hij, hs]
  | client i c =>
    have hother : Move.leaves (.client i c) (.signer j) s = s := by
      simp [Move.leaves, Move.holder?]
    rw [hother]
    cases hi : d.clients[i]? with
    | none => rw [step_client_of_none source d hi, hs]
    | some t => rw [step_client source d hi, hs]
  | cloneSigner i => exact (List.getElem?_append_left hj).trans hs
  | cloneClient | connect => exact hs

theorem clients_step {j : Nat} {client : Client} (hc : d.clients[j]? = some client) (m : Move) :
    (d.step source m).2.clients[j]?.map (·.signer) =
      some (m.leaves (.client j) client.signer) := by
  obtain ⟨hj, -⟩ := List.getElem?_eq_some_iff.mp hc
  cases m with
  | signer i c =>
    have hother : Move.leaves (.signer i c) (.client j) client.signer = client.signer := by
      simp [Move.leaves, Move.holder?]
    rw [hother]
    cases hi : d.signers[i]? with
    | none => rw [step_signer_of_none source d hi, hc, Option.map_some]
    | some t => rw [step_signer source d hi, hc, Option.map_some]
  | client i c =>
    by_cases hij : i = j
    · subst hij
      rw [step_client source d hc, List.getElem?_set_self hj, Option.map_some, client.signer_call]
      simp [Move.leaves, Move.holder?, Move.sets?]
    · have hother : Move.leaves (.client i c) (.client j) client.signer = client.signer := by
        simp [Move.leaves, Move.holder?, hij]
      rw [hother]
      cases hi : d.clients[i]? with
      | none => rw [step_client_of_none source d hi, hc, Option.map_some]
      | some t => rw [step_client source d hi, List.getElem?_set_ne hij, hc, Option.map_some]
  | cloneSigner i =>
    rw [step, hc]
    rfl
  | cloneClient i | connect i config =>
    rw [step, List.getElem?_append_left hj, hc]
    rfl

/-- Nobody has other credentials after a move, but for the one whose credentials are set. -/
theorem signer?_step {h : Holder} {s : Signer} (hs : d.signer? h = some s) (m : Move) :
    (d.step source m).2.signer? h = some (m.leaves h s) := by
  cases h with
  | signer j => exact signers_step source d hs m
  | client j =>
    obtain ⟨client, hc, rfl⟩ := Option.map_eq_some_iff.mp hs
    exact clients_step source d hc m

end

section
variable {source : NonceSource σ} {source' : NonceSource τ} {f : σ → τ}
  (hf : ∀ st, source' (f st) = ((source st).1, f (source st).2))
include hf

theorem step_map (d : Desk σ) (m : Move) :
    (d.map f).step source' m = ((d.step source m).1, (d.step source m).2.map f) := by
  cases m with
  | signer i c =>
    cases hs : d.signers[i]? with
    | none => rw [step_signer_of_none source d hs, step_signer_of_none source' (d.map f) hs]
    | some s =>
      rw [step_signer source d hs, step_signer source' (d.map f) hs]
      simp only [map, Signer.call_map hf]
  | client i c =>
    cases hc : d.clients[i]? with
    | none => rw [step_client_of_none source d hc, step_client_of_none source' (d.map f) hc]
    | some client =>
      rw [step_client source d hc, step_client source' (d.map f) hc]
      simp only [map, Client.call_map hf]
  | cloneSigner | cloneClient | connect => rfl

theorem answers_map (d : Desk σ) (ms : List Move) :
    (d.map f).answers source' ms = d.answers source ms := by
  induction ms generalizing d with
  | nil => rfl
  | cons m ms ih => rw [answers, answers, step_map hf, ih]

end
end Desk

/-! ## What a counter hands out -/

/-- A counter, and what it has handed out so far. -/
structure Ledger where
  counter : Counter
  drawn : List UInt64

namespace Ledger

variable {l : Ledger} {first : UInt64}

def opened (first : UInt64) : Ledger := ⟨⟨first⟩, []⟩

def draw : NonceSource Ledger := fun l =>
  let (n, c) := Counter.draw l.counter
  (n, ⟨c, l.drawn ++ [n]⟩)

/-- The numbers that follow one another from the first on, over the end of 64 bits. -/
def sequence (first : UInt64) (k : Nat) : List UInt64 :=
  (List.range k).map fun i => first + .ofNat i

theorem sequence_succ (first : UInt64) (k : Nat) :
    sequence first (k + 1) = sequence first k ++ [first + .ofNat k] := by
  simp [sequence, List.range_succ]

theorem nodup_sequence {k : Nat} (h : k ≤ 0x10000000000000000) : (sequence first k).Nodup := by
  refine List.Nodup.map_on (fun i hi j hj hij => ?_) List.nodup_range
  have hwords : UInt64.ofNat i = UInt64.ofNat j := by simpa using hij
  have hvalues := congrArg UInt64.toNat hwords
  rw [List.mem_range] at hi hj
  rw [UInt64.toNat_ofNat', UInt64.toNat_ofNat'] at hvalues
  omega

/-- What has been handed out is the sequence, and the counter is at its end. -/
structure Exact (first : UInt64) (l : Ledger) : Prop where
  drawn : l.drawn = sequence first l.drawn.length
  next : l.counter.next = first + .ofNat l.drawn.length

theorem exact_opened (first : UInt64) : (opened first).Exact first where
  drawn := rfl
  next := by simp [opened]

theorem Exact.draw (h : l.Exact first) : (draw l).2.Exact first := by
  have hdrawn : (Ledger.draw l).2.drawn = l.drawn ++ [first + .ofNat l.drawn.length] := by
    rw [← h.next]
    rfl
  have hlength : (Ledger.draw l).2.drawn.length = l.drawn.length + 1 := by simp [hdrawn]
  constructor
  · rw [hlength, sequence_succ, hdrawn, ← h.drawn]
  · have hnext : (Ledger.draw l).2.counter.next = l.counter.next + 1 := rfl
    rw [hnext, hlength, h.next, UInt64.ofNat_add, ← UInt64.add_assoc]
    rfl

theorem drawn_of_accounted {credentials : Option Credentials} {l' : Ledger} {signs draws : Bool}
    {a : Answer} (h : Accounted Ledger.draw credentials l signs draws a l') :
    (a.IsRefused ∨ draws = false → l'.drawn = l.drawn) ∧
      (¬a.IsRefused → draws = true → ∃ n, l'.drawn = l.drawn ++ [n] ∧ a.Spends n) := by
  cases h with
  | refused hnone ha => exact ⟨fun _ => rfl, fun hnot => absurd ha hnot⟩
  | undrawn hsome ha => exact ⟨fun _ => rfl, fun _ h => absurd h Bool.false_ne_true⟩
  | drawn hsome ha =>
    refine ⟨?_, fun _ _ => ⟨_, rfl, ha⟩⟩
    rintro (h | h)
    · exact absurd h ha.not_isRefused
    · cases h

theorem Exact.of_accounted (h : l.Exact first) {credentials : Option Credentials} {l' : Ledger}
    {signs draws : Bool} {a : Answer}
    (hcall : Accounted Ledger.draw credentials l signs draws a l') : l'.Exact first := by
  cases hcall with
  | refused | undrawn => exact h
  | drawn => exact h.draw

end Ledger

namespace Desk

theorem exact_step {d : Desk Ledger} {first : UInt64} (h : d.state.Exact first) (m : Move) :
    (d.step Ledger.draw m).2.state.Exact first := by
  rcases accounted_step Ledger.draw d m with ⟨-, hstate⟩ | ⟨s, a, -, -, hcall⟩
  · exact hstate ▸ h
  · exact h.of_accounted hcall

theorem exact_run {d : Desk Ledger} {first : UInt64} (h : d.state.Exact first) (ms : List Move) :
    (d.run Ledger.draw ms).state.Exact first := by
  induction ms generalizing d with
  | nil => exact h
  | cons m ms ih => exact ih (exact_step h m)

/-- After any calls to a signer over a counter, to its clones, and to clients that hold one, the
numbers drawn are the sequence, of which the first `2^64` all differ. Writing them down changes no
answer. The next call is refused exactly if it has to sign and lacks credentials. If it is refused, or
needs no nonce of its own, it draws nothing, and otherwise one number, which its answer is made of.
Credentials that are set reach nobody but the one who is called. -/
theorem drawn_in_order (first : UInt64) (s : Signer) (ms : List Move) (m : Move) :
    let d := (opened (Ledger.opened first) s).run Ledger.draw ms
    let d' := (d.step Ledger.draw m).2
    d.state.drawn = Ledger.sequence first d.state.drawn.length ∧
    (d.state.drawn.length ≤ 0x10000000000000000 → d.state.drawn.Nodup) ∧
    (opened (Ledger.opened first) s).answers Ledger.draw ms =
      (opened ⟨first⟩ s).answers Counter.draw ms ∧
    (m.holder?.bind d.signer? = none → d'.state.drawn = d.state.drawn) ∧
    (∀ s, m.holder?.bind d.signer? = some s → ∃ a, (d.step Ledger.draw m).1 = some a ∧
      (a.IsRefused ↔ m.signs = true ∧ s.credentials = none) ∧
      (a.IsRefused ∨ m.draws = false → d'.state.drawn = d.state.drawn) ∧
      (¬a.IsRefused → m.draws = true → ∃ n, d'.state.drawn = d.state.drawn ++ [n] ∧ a.Spends n)) ∧
    ∀ h s, d.signer? h = some s →
      (m.holder? ≠ some h ∨ m.sets? = none → d'.signer? h = some s) ∧
      ∀ k, m.holder? = some h → m.sets? = some k → d'.signer? h = some ⟨some k⟩ := by
  intro d d'
  have hexact : d.state.Exact first := exact_run (Ledger.exact_opened first) ms
  refine ⟨hexact.drawn, fun hle => ?_, ?_, fun hnobody => ?_, fun s hs => ?_, fun h s hs => ?_⟩
  · rw [hexact.drawn]
    exact Ledger.nodup_sequence hle
  · exact (answers_map (f := Ledger.counter) (fun _ => rfl) _ ms).symm
  · rcases accounted_step Ledger.draw d m with ⟨-, hstate⟩ | ⟨s, a, hs, -⟩
    · rw [hstate]
    · rw [hs] at hnobody
      cases hnobody
  · rcases accounted_step Ledger.draw d m with ⟨hnone, -⟩ | ⟨t, a, ht, ha, hcall⟩
    · rw [hnone] at hs
      cases hs
    · obtain rfl : t = s := Option.some.inj (ht.symm.trans hs)
      exact ⟨a, ha, hcall.isRefused_iff, Ledger.drawn_of_accounted hcall⟩
  · rw [signer?_step Ledger.draw d hs m, Move.leaves]
    refine ⟨?_, fun k hh hk => by rw [if_pos hh, hk]; rfl⟩
    rintro (hh | hk)
    · rw [if_neg hh]
    · rw [hk]
      exact congrArg some (ite_self s)

end Desk
end MarketWire
