import MarketWire.Proofs.Session.History
import MarketWire.Proofs.Session.Inbox

/-!
# Noise

The other side sends more than a session has a use for, and the loop drops what it cannot use. Two
runs are compared, with the same acts in the same order: in one of them, stray texts have been put
among what comes in, and the loop makes one more step for each of them that it reads. While what it
reads there is noise, the two sessions differ in their inboxes alone.
-/
namespace MarketWire

/-- Whether a frame has nothing for a session: a heartbeat, data of a channel that nobody owns, an
event that is no answer, or an answer to an authentication that is not under way. -/
def Frame.isNoise (r : Registry) (l : Listening) : Frame → Bool
  | .event (.pong ..) | .event (.conf ..) | .event .unknown => true
  | .event (.auth _) => l = .serving
  | .event _ => false
  | .data d => d.payload.isHeartbeat || (r.owner? d.chanId).isNone

/-- Texts that are no frames are noise everywhere. -/
def isNoise (r : Registry) (l : Listening) (t : String) : Bool :=
  (Frame.parse t).toOption.all (·.isNoise r l)

/-- What waits in an inbox, with strays told apart. -/
inductive Parcel where
  | own (i : Inbound)
  | stray (t : String)

namespace Parcel

def inbound : Parcel → Inbound
  | .own i => i
  | .stray t => .text t

def own? : Parcel → Option Inbound
  | .own i => some i
  | .stray _ => none

end Parcel

namespace Session

/-- What happens in a run with strays. -/
inductive Happening where
  | own (a : Act)
  /-- A stray comes in. -/
  | stray (t : String)
  /-- The loop reads a stray. -/
  | skip

namespace Happening

def act : Happening → Act
  | .own a => a
  | .stray t => .push (.text t)
  | .skip => .step

def own? : Happening → Option Act
  | .own a => some a
  | _ => none

def isSkip : Happening → Bool
  | .skip => true
  | _ => false

/-- What can be seen of a run from outside: a step is a step. -/
def seen : Happening → Happening
  | .skip => .own .step
  | x => x

end Happening

/-- The skips are the steps that read strays, and `w` tells what waits in the inbox. -/
inductive Strewn : Session → List Parcel → List Happening → Prop where
  | done {s : Session} {w : List Parcel} : Strewn s w []
  | stray {s : Session} {w : List Parcel} {t : String} {hs : List Happening}
      (h : Strewn (s.act (.push (.text t))) (w ++ [.stray t]) hs) : Strewn s w (.stray t :: hs)
  | skip {s : Session} {w : List Parcel} {t : String} {hs : List Happening}
      (hr : s.reading? ≠ none) (h : Strewn (s.act .step) w hs) :
      Strewn s (.stray t :: w) (.skip :: hs)
  | read {s : Session} {w : List Parcel} {i : Inbound} {hs : List Happening}
      (hr : s.reading? ≠ none) (h : Strewn (s.act .step) w hs) :
      Strewn s (.own i :: w) (.own .step :: hs)
  | push {s : Session} {w : List Parcel} {i : Inbound} {hs : List Happening}
      (h : Strewn (s.act (.push i)) (w ++ [.own i]) hs) : Strewn s w (.own (.push i) :: hs)
  | act {s : Session} {w : List Parcel} {a : Act} {hs : List Happening}
      (ha : a = .step → s.reading? = none) (hpush : ∀ i, a ≠ .push i)
      (h : Strewn (s.act a) w hs) : Strewn s w (.own a :: hs)

def hearsNoise (s : Session) : Bool :=
  match s.reading? with
  | some (l, .text t) => isNoise s.registry l t
  | _ => false

/-- What is skipped in a run is noise where it is read. -/
def ignores (s : Session) : List Happening → Bool
  | [] => true
  | x :: hs => (!x.isSkip || s.hearsNoise) && (s.act x.act).ignores hs

/-- The session without the strays that wait. -/
def quiet (s : Session) (w : List Parcel) : Session := s.withInbox (w.filterMap Parcel.own?)

variable {s : Session} {w : List Parcel} {hs : List Happening}

/-! ## One stray -/

theorem handleData_of_unbound {d : DataFrame} (h : s.registry.owner? d.chanId = none)
    (l : Listening) : s.handleData d l = s := by
  have hb : s.batch? d = none := by simp [batch?, h]
  unfold handleData
  rw [hb]
  split <;> rfl

theorem handleFrame_of_noise {l : Listening} {f : Frame} (h : f.isNoise s.registry l = true) :
    s.handleFrame l f = s := by
  cases f with
  | data d =>
    have hdata : s.handleData d l = s := by
      rcases (Bool.or_eq_true _ _).mp h with hb | ho
      · unfold handleData
        rw [if_pos hb]
      · exact handleData_of_unbound (Option.isNone_iff_eq_none.mp ho) l
    cases l <;> exact hdata
  | event c =>
    cases c with
    | auth r =>
      cases of_decide_eq_true h
      rfl
    | pong | conf | unknown => cases l <;> rfl
    | info | subscribed | unsubscribed | error => cases h

theorem handleInbound_of_noise {l : Listening} {t : String}
    (h : isNoise s.registry l t = true) : s.handleInbound l (.text t) = s := by
  unfold isNoise at h
  simp only [handleInbound]
  cases hf : Frame.parse t with
  | error e => rfl
  | ok f =>
    rw [hf] at h
    exact handleFrame_of_noise h

theorem act_step_of_noise (h : s.hearsNoise = true) :
    ∃ i is, s.link.inbox = i :: is ∧ s.act .step = s.withInbox is := by
  unfold hearsNoise at h
  split at h
  · rename_i l t hr
    obtain ⟨is, hreads⟩ := reads_of_reading? hr
    refine ⟨.text t, is, hreads.inbox, ?_⟩
    rw [act_step hreads.step?]
    exact handleInbound_of_noise (s := s.withInbox is) h
  · cases h

theorem ignores_cons {x : Happening} : s.ignores (x :: hs) = true ↔
    (x.isSkip = true → s.hearsNoise = true) ∧ (s.act x.act).ignores hs = true := by
  simp only [ignores, Bool.and_eq_true, Bool.or_eq_true]
  cases x.isSkip <;> simp

/-! ## Without the strays -/

theorem quiet_stray (s : Session) (w : List Parcel) (t : String) :
    (s.act (.push (.text t))).quiet (w ++ [.stray t]) = s.quiet w := by
  unfold quiet
  rw [List.filterMap_append]
  exact congrArg s.withInbox (List.append_nil _)

theorem quiet_push (s : Session) (w : List Parcel) (i : Inbound) :
    (s.quiet w).act (.push i) = (s.act (.push i)).quiet (w ++ [.own i]) := by
  unfold quiet
  rw [List.filterMap_append]
  rfl

theorem inbox_push (hw : s.link.inbox = w.map Parcel.inbound) (p : Parcel) :
    (s.act (.push p.inbound)).link.inbox = (w ++ [p]).map Parcel.inbound := by
  rw [List.map_append, ← hw]
  rfl

theorem taken_quiet (s : Session) (w : List Parcel) (id : Nat) (a : Act) :
    (s.quiet w).taken id a = s.taken id a := by
  cases a <;> rfl

theorem Strewn.run_quiet (h : s.Strewn w hs) (hw : s.link.inbox = w.map Parcel.inbound)
    (hi : s.ignores hs = true) :
    ∃ w', (s.quiet w).run (hs.filterMap Happening.own?) =
        (s.run (hs.map Happening.act)).quiet w' ∧
      ∀ id, (s.quiet w).received id (hs.filterMap Happening.own?) =
        s.received id (hs.map Happening.act) := by
  induction h with
  | done => exact ⟨_, rfl, fun _ => rfl⟩
  | @stray s w t hs _ ih =>
    have hs := ih (inbox_push hw (.stray t)) (ignores_cons.mp hi).2
    rw [quiet_stray] at hs
    exact hs
  | @skip s w t hs _ _ ih =>
    -- the stray leaves the inbox, and without it nothing moves
    obtain ⟨hnoise, hi⟩ := ignores_cons.mp hi
    obtain ⟨i, is, hinbox, hstep⟩ := act_step_of_noise (hnoise rfl)
    have hq : (s.act .step).quiet w = s.quiet (.stray t :: w) := by
      rw [hstep]
      rfl
    have hrest : (s.act .step).link.inbox = w.map Parcel.inbound := by
      rw [hstep]
      exact (List.cons.inj (hinbox.symm.trans hw)).2
    have hs := ih hrest hi
    rw [hq] at hs
    exact hs
  | @read s w o hs hr _ ih =>
    obtain ⟨l, i, is, hr⟩ := exists_reads hr
    obtain ⟨rfl, hrest⟩ := List.cons.inj (hr.inbox.symm.trans hw)
    have hs := ih (hr.inbox_act.trans hrest) (ignores_cons.mp hi).2
    have hq : (s.quiet (.own i :: w)).act .step = (s.act .step).quiet w := hr.act_withInbox _
    rw [← hq] at hs
    exact hs
  | @push s w i hs _ ih =>
    have hs := ih (inbox_push hw (.own i)) (ignores_cons.mp hi).2
    rw [← quiet_push] at hs
    exact hs
  | @act s w a hs ha hpush _ ih =>
    have hs := ih ((inbox_act ha hpush).trans hw) (ignores_cons.mp hi).2
    have hq : (s.quiet w).act a = (s.act a).quiet w := by
      refine act_withInbox (fun hstep => ⟨ha hstep, fun hnil => ?_⟩) hpush
      rw [List.map_eq_nil_iff.mp (hw.symm.trans hnil)]
      rfl
    rw [← hq] at hs
    obtain ⟨w', hrun, hrec⟩ := hs
    refine ⟨w', hrun, fun id => ?_⟩
    simp only [List.filterMap_cons, Happening.own?, List.map_cons, Happening.act, received,
      taken_quiet, hrec]

/-! ## Runs for every insertion -/

theorem strewn_own (hw : s.link.inbox = w.map Parcel.inbound) {a : Act} (ha : a ≠ .step) :
    ∃ w', (s.act a).link.inbox = w'.map Parcel.inbound ∧
      ∀ hs, (s.act a).Strewn w' hs → s.Strewn w (.own a :: hs) := by
  have hstep : a = .step → s.reading? = none := fun h => absurd h ha
  by_cases hpush : ∃ i, a = .push i
  · obtain ⟨i, rfl⟩ := hpush
    exact ⟨w ++ [Parcel.own i], inbox_push hw (.own i), fun _ => .push⟩
  · have hpush : ∀ i, a ≠ .push i := fun i h => hpush ⟨i, h⟩
    exact ⟨w, (inbox_act hstep hpush).trans hw, fun _ => .act hstep hpush⟩

/-- A step is an own one, unless a stray lies in front of it. -/
theorem strewn_step (hw : s.link.inbox = w.map Parcel.inbound) :
    (∃ w', (s.act .step).link.inbox = w'.map Parcel.inbound ∧
      ∀ hs, (s.act .step).Strewn w' hs → s.Strewn w (.own .step :: hs)) ∨
    ∃ t w', w = .stray t :: w' ∧ (s.act .step).link.inbox = w'.map Parcel.inbound ∧
      ∀ hs, (s.act .step).Strewn w' hs → s.Strewn w (.skip :: hs) := by
  by_cases hr : s.reading? = none
  · have hinbox : (s.act .step).link.inbox = s.link.inbox := inbox_act (fun _ => hr) (by nofun)
    exact .inl ⟨w, hinbox.trans hw, fun _ => .act (fun _ => hr) (by nofun)⟩
  · obtain ⟨l, i, is, hreads⟩ := exists_reads hr
    cases w with
    | nil => cases hreads.inbox.symm.trans hw
    | cons p w =>
      have hw' := hreads.inbox_act.trans (List.cons.inj (hreads.inbox.symm.trans hw)).2
      cases p with
      | own o => exact .inl ⟨w, hw', fun _ => .read hr⟩
      | stray t => exact .inr ⟨t, w, rfl, hw', fun _ => .skip hr⟩

/-- Every run with strays tells which of its steps are skips. -/
theorem exists_seen (hskip : .skip ∉ hs) (hw : s.link.inbox = w.map Parcel.inbound) :
    ∃ hs', s.Strewn w hs' ∧ hs'.map Happening.seen = hs := by
  induction hs generalizing s w with
  | nil => exact ⟨[], .done, rfl⟩
  | cons x hs ih =>
    obtain ⟨hx, htail⟩ := not_or.mp (mt List.mem_cons.mpr hskip)
    cases x with
    | skip => exact absurd rfl hx
    | stray t =>
      obtain ⟨hs', hstrewn, rfl⟩ := ih htail (inbox_push hw (.stray t))
      exact ⟨.stray t :: hs', .stray hstrewn, rfl⟩
    | own a =>
      by_cases ha : a = .step
      · subst ha
        rcases strewn_step hw with ⟨w', hw', hcons⟩ | ⟨t, w', -, hw', hcons⟩
        · obtain ⟨hs', hstrewn, rfl⟩ := ih htail hw'
          exact ⟨.own .step :: hs', hcons hs' hstrewn, rfl⟩
        · obtain ⟨hs', hstrewn, rfl⟩ := ih htail hw'
          exact ⟨.skip :: hs', hcons hs' hstrewn, rfl⟩
      · obtain ⟨w', hw', hcons⟩ := strewn_own hw ha
        obtain ⟨hs', hstrewn, rfl⟩ := ih htail hw'
        exact ⟨.own a :: hs', hcons hs' hstrewn, rfl⟩

/-- Before an own step, the loop reads the strays that lie in front of it. -/
theorem exists_strewn_step (hs : List Happening)
    (hrest : ∀ {s : Session} {w : List Parcel}, s.link.inbox = w.map Parcel.inbound →
      ∃ hs', s.Strewn w hs' ∧ hs'.filter (!·.isSkip) = hs)
    (hw : s.link.inbox = w.map Parcel.inbound) :
    ∃ hs', s.Strewn w hs' ∧ hs'.filter (!·.isSkip) = .own .step :: hs := by
  induction w generalizing s with
  | nil =>
    rcases strewn_step hw with ⟨w', hw', hcons⟩ | ⟨t, w', hnil, -⟩
    · obtain ⟨hs', hstrewn, rfl⟩ := hrest hw'
      exact ⟨.own .step :: hs', hcons hs' hstrewn, rfl⟩
    · cases hnil
  | cons p w ih =>
    rcases strewn_step hw with ⟨w', hw', hcons⟩ | ⟨t, w', he, hw', hcons⟩
    · obtain ⟨hs', hstrewn, rfl⟩ := hrest hw'
      exact ⟨.own .step :: hs', hcons hs' hstrewn, rfl⟩
    · cases he
      obtain ⟨hs', hstrewn, hfilter⟩ := ih hw'
      exact ⟨.skip :: hs', hcons hs' hstrewn, hfilter⟩

/-- Wherever strays come in among the acts of a run, the loop can read them in between. -/
theorem exists_strewn (hskip : .skip ∉ hs) (hw : s.link.inbox = w.map Parcel.inbound) :
    ∃ hs', s.Strewn w hs' ∧ hs'.filter (!·.isSkip) = hs := by
  induction hs generalizing s w with
  | nil => exact ⟨[], .done, rfl⟩
  | cons x hs ih =>
    obtain ⟨hx, htail⟩ := not_or.mp (mt List.mem_cons.mpr hskip)
    cases x with
    | skip => exact absurd rfl hx
    | stray t =>
      obtain ⟨hs', hstrewn, rfl⟩ := ih htail (inbox_push hw (.stray t))
      exact ⟨.stray t :: hs', .stray hstrewn, rfl⟩
    | own a =>
      by_cases ha : a = .step
      · subst ha
        exact exists_strewn_step hs (ih htail) hw
      · obtain ⟨w', hw', hcons⟩ := strewn_own hw ha
        obtain ⟨hs', hstrewn, rfl⟩ := ih htail hw'
        exact ⟨.own a :: hs', hcons hs' hstrewn, rfl⟩

/-! ## Two runs -/

/-- Noise changes nothing. Strays may come in at any places of a run, and in every run with strays
the loop reads them somewhere between the steps that it makes without them; if they are noise where
they are read, the session comes to the same result and the same state, with the same events and
requests, every subscription is where it would be, and its subscriber has been told the same. -/
theorem noise_unnoticed (config : ConnectionConfig) (signer : Signer) (counter : Counter)
    (link : Link) (w : List Parcel) :
    let s₀ := create config signer counter { link with inbox := w.map Parcel.inbound }
    let q₀ := create config signer counter { link with inbox := w.filterMap Parcel.own? }
    (∀ hs, .skip ∉ hs → (∃ hs', s₀.Strewn w hs' ∧ hs'.filter (!·.isSkip) = hs) ∧
      ∃ hs', s₀.Strewn w hs' ∧ hs'.map Happening.seen = hs) ∧
    ∀ hs, s₀.Strewn w hs → s₀.ignores hs = true →
      let acts := hs.map Happening.act
      let own := hs.filterMap Happening.own?
      let s := s₀.run acts
      let q := q₀.run own
      s.phase = q.phase ∧ s.state = q.state ∧ s.events = q.events ∧ s.sent = q.sent ∧
      s.registry = q.registry ∧ (∀ id, s.registry.state? id = q.registry.state? id) ∧
      ∀ id, s₀.received id acts = q₀.received id own ∧
        s₀.history id acts = q₀.history id own := by
  intro s₀ q₀
  have hw : s₀.link.inbox = w.map Parcel.inbound := rfl
  refine ⟨fun hs hskip => ⟨exists_strewn hskip hw, exists_seen hskip hw⟩, fun hs h hi => ?_⟩
  intro acts own s q
  obtain ⟨w', hrun, hreceived⟩ := h.run_quiet hw hi
  have hq : q = s.quiet w' := hrun
  rw [hq]
  refine ⟨rfl, rfl, rfl, rfl, rfl, fun _ => rfl, fun id => ?_⟩
  have hrec : q₀.received id own = s₀.received id acts := hreceived id
  refine ⟨hrec.symm, ?_⟩
  change s₀.received id acts ++ s.registry.queued id =
    q₀.received id own ++ q.registry.queued id
  rw [hrec, hq]
  rfl

/-- A heartbeat before the acknowledgement of a subscription, and a pong behind it. -/
theorem noise_unnoticed_candles :
    let feed := Feed.candles "trade:1m:tBTCUSD"
    let link := Link.create "" true none none
    let s := create .standard ⟨none⟩ ⟨1⟩ link
    let answer := "\x7b\"event\":\"subscribed\",\"channel\":\"candles\",\"chanId\":5,\"key\":\"trade:1m:tBTCUSD\"\x7d"
    let hs : List Happening := [.own (.register feed), .own .start, .own .step, .own .step,
      .own .step, .own .step, .own .step, .stray "[7,\"hb\"]", .own (.push (.text answer)),
      .stray "\x7b\"event\":\"pong\"\x7d", .skip, .own .step, .skip]
    s.Strewn [] hs ∧ s.ignores hs = true ∧
      (s.run (hs.map Happening.act)).registry.state? 0 = some .active ∧
      (s.run (hs.filterMap Happening.own?)).registry.state? 0 = some .active := by
  intro feed link s answer hs
  have hstrewn : s.Strewn [] hs := by
    refine .act (by nofun) (by nofun) (.act (by nofun) (by nofun) ?_)
    iterate 5 refine .act (fun _ => by decide +kernel) (by nofun) ?_
    refine .stray (.push (.stray ?_))
    refine .skip (by decide +kernel) (.read (by decide +kernel) ?_)
    exact .skip (by decide +kernel) .done
  have hi : s.ignores hs = true := by decide +kernel
  have hactive : (s.run (hs.map Happening.act)).registry.state? 0 = some .active := by
    decide +kernel
  obtain ⟨-, hrun⟩ := noise_unnoticed .standard ⟨none⟩ ⟨1⟩ link []
  obtain ⟨-, -, -, -, -, hstate, -⟩ := hrun hs hstrewn hi
  exact ⟨hstrewn, hi, hactive, (hstate 0).symm.trans hactive⟩

end Session
end MarketWire
