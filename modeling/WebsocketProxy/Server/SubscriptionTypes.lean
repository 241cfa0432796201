import WebsocketProxy.Library.Observed
import WebsocketProxy.Server.Bookkeeping

/-!
# The types of subscriptions

The types of a subscription are those that the remote server was asked for since the subscription
was created (`reachable_asked`). A request to subscribe adds its types and is passed on when none
of them is there yet. A request whose types are there in part, though, is not passed on, and the
others of its types are not added (`subscription_types_iff`).
-/

namespace SubscriptionType

/-- The bit `i` of a mask is set. -/
def Has (t : SubscriptionType) (i : ℕ) : Prop := t.toNat.testBit i = true

instance (t : SubscriptionType) (i : ℕ) : Decidable (t.Has i) :=
  inferInstanceAs (Decidable (_ = true))

theorem has_or_iff (t t' : SubscriptionType) (i : ℕ) :
  Has (t ||| t') i ↔ t.Has i ∨ t'.Has i
  := by rw [Has, UInt8.toNat_or, Nat.testBit_or, Bool.or_eq_true]; rfl

theorem has_and_iff (t t' : SubscriptionType) (i : ℕ) :
  Has (t &&& t') i ↔ t.Has i ∧ t'.Has i
  := by rw [Has, UInt8.toNat_and, Nat.testBit_and, Bool.and_eq_true]; rfl

/-- A mask keeps all its bits in a meet with the masks that have them. -/
theorem and_eq_left_iff (t t' : SubscriptionType) :
  t &&& t' = t ↔ ∀ i, t.Has i → t'.Has i
  := by
  constructor
  · intro h i hi
    rw [← h] at hi
    exact ((has_and_iff t t' i).mp hi).2
  · intro h
    apply UInt8.toNat_inj.mp
    apply Nat.eq_of_testBit_eq
    intro i
    apply Bool.eq_iff_iff.mpr
    apply (has_and_iff t t' i).trans
    apply and_iff_left_of_imp (h i)

end SubscriptionType

namespace SymbolRequest

/-- The types of the requests to subscribe that are passed on. -/
def asked (trace : List (SymbolRequest × Bool)) : List SubscriptionType :=
  trace.filterMap fun e =>
    match e with
    | (subscribe _ type, true) => some type
    | _ => none

/-- A request that leaves a subscription adds the types that it asks for. -/
theorem apply_type {sub : Option Subscription} {q : SymbolRequest} {s : Subscription}
    (h : (q.apply sub).1 = some s) (i : ℕ) :
  s.type.Has i ↔ (∃ old ∈ sub, old.type.Has i) ∨
    ∃ t ∈ asked [(q, (q.apply sub).2)], SubscriptionType.Has t i
  := by
  cases q with
  | subscribe pid type =>
      cases sub with
      | none =>
          obtain rfl := Option.some.inj h
          simp [apply, asked]
      | some old =>
          rw [apply] at h ⊢
          split at h
          case isTrue hnew =>
            obtain rfl := Option.some.inj h
            rw [if_pos hnew]
            simp [asked, SubscriptionType.has_or_iff]
          case isFalse hold =>
            obtain rfl := Option.some.inj h
            rw [if_neg hold]
            simp [asked]
  | unsubscribe pid =>
      cases sub with
      | none => cases h
      | some old =>
          rw [apply] at h
          split at h
          case isTrue => cases h
          case isFalse hstay =>
            obtain rfl := Option.some.inj h
            rw [apply, if_neg hstay]
            simp [asked]

end SymbolRequest

namespace WebsocketProxy

open SymbolRequest

/-! ### What was asked for -/

/-- The types asked for since the subscription of a symbol was created, after a step. When there
is no subscription before the step, it starts anew. -/
def askedAfter (r : ℕ) (symbol : Bytes) (px : WebsocketProxy) (ev : Event) (px' : WebsocketProxy)
    (types : List SubscriptionType) : List SubscriptionType :=
  (if (px.subscriptionOf r symbol).isSome then types else [])
    ++ asked (symbolTrace r symbol px ev px')

/-- The server, observed for the types asked for since the subscription of a symbol at the
connection at `r` was created. -/
def asking (r : ℕ) (symbol : Bytes) :
    TransitionSystem (Observed WebsocketProxy (List SubscriptionType)) Event :=
  system.observed [] (askedAfter r symbol)

/-- The types of a subscription are those that were asked for. -/
def AskedFor (r : ℕ) (symbol : Bytes) (w : Observed WebsocketProxy (List SubscriptionType)) :
    Prop :=
  ∀ s ∈ w.state.subscriptionOf r symbol, ∀ i, s.type.Has i ↔ ∃ t ∈ w.notes, SubscriptionType.Has t i

theorem reachable_asked {r : ℕ} {symbol : Bytes}
    {w : Observed WebsocketProxy (List SubscriptionType)} (h : (asking r symbol).Reachable w) :
  AskedFor r symbol w
  := by
  apply h.invariant
  · rintro ⟨px, notes⟩ ⟨⟨pid, clock, rfl⟩, -⟩ s hs
    cases hs
  · intro w ev w' hreach ih _ hstep s hs i
    obtain ⟨hstep, hnotes⟩ := TransitionSystem.observed_step.mp hstep
    have hwf : w.state.WellFormed := reachable_wellFormed hreach.observed
    rw [hnotes, askedAfter]
    rcases step_symbolTrace hwf hstep r symbol with ⟨htrace, hsame⟩ | ⟨q, htrace, hafter⟩
    · rw [hsame] at hs
      rw [htrace, hs, Option.isSome_some, if_pos rfl, ih s hs i]
      simp [asked]
    · rw [hafter] at hs
      rw [htrace, apply_type hs i]
      cases hsub : w.state.subscriptionOf r symbol with
      | none => simp
      | some old =>
          have hold := ih old hsub i
          simp only [Option.mem_some_iff, exists_eq_left', Option.isSome_some, if_true,
            List.mem_append, or_and_right, exists_or]
          rw [hold]

/-! ### Requests that are answered with `SUCCESS` -/

/-- What a request to subscribe makes of the subscription of its symbol. -/
theorem subscribe_subscriptionOf {px px' : WebsocketProxy} {m : Message} {req : WsSubscription}
    {r : ℕ} (hwf : px.WellFormed) (h : px.step (.processClientMessage (some m)) = some px')
    (hm : m.data = .subscribe req) (hpid : m.pid ∈ px.clients)
    (hid : px.websocketsById.lookup req.id = some r) :
  px'.subscriptionOf r (Message.symbolView req)
    = ((subscribe m.pid req.type).apply (px.subscriptionOf r (Message.symbolView req))).1
  := by
  have hreceived : px.received (.processClientMessage (some m)) = some (m.pid, .subscribe req) :=
    received_of_mem hpid hm
  rcases step_symbolTrace hwf h r (Message.symbolView req) with ⟨htrace, -⟩ | ⟨q, htrace, hafter⟩
  · simp only [symbolTrace, hreceived, hid, and_self, if_true] at htrace
    cases htrace
  · simp only [symbolTrace, hreceived, hid, and_self, if_true, List.cons.injEq, Prod.mk.injEq,
      and_true] at htrace
    obtain ⟨rfl, -⟩ := htrace
    exact hafter

/-- The types of a request are there, and the remote server was asked for each since the
subscription was created. -/
def Extended (w : Observed WebsocketProxy (List SubscriptionType)) (r : ℕ) (symbol : Bytes)
    (types : SubscriptionType) : Prop :=
  ∃ s ∈ w.state.subscriptionOf r symbol, ∀ i, types.Has i →
    s.type.Has i ∧ ∃ t ∈ w.notes, SubscriptionType.Has t i

/-- A request to subscribe that is answered with `SUCCESS` leaves its types there and asked for
exactly when there was no subscription, or none of its types was there, or all of them were. -/
theorem subscription_types_iff {r : ℕ} {w w' : Observed WebsocketProxy (List SubscriptionType)}
    {m : Message} {req : WsSubscription}
    (h : (asking r (Message.symbolView req)).Reachable w)
    (hstep : (asking r (Message.symbolView req)).step w (.processClientMessage (some m)) = some w')
    (hm : m.data = .subscribe req) (hid : w.state.websocketsById.lookup req.id = some r)
    (hsuccess : (w'.state.slots w.state.taken).status = .success) :
  Extended w' r (Message.symbolView req) req.type ↔
    ∀ s ∈ w.state.subscriptionOf r (Message.symbolView req),
      s.type &&& req.type = 0 ∨ req.type &&& s.type = req.type
  := by
  have hasked : AskedFor r (Message.symbolView req) w' := by
    apply reachable_asked
    apply h.step trivial hstep
  obtain ⟨hpx, -⟩ := TransitionSystem.observed_step.mp hstep
  have hwf : w.state.WellFormed := reachable_wellFormed h.observed
  have hpid : m.pid ∈ w.state.clients := by
    rw [subscribe_slot hpx hm, handleSubscribe_success_iff] at hsuccess
    apply hsuccess.1
  have hafter := subscribe_subscriptionOf hwf hpx hm hpid hid
  have hextended : Extended w' r (Message.symbolView req) req.type ↔
      ∃ s ∈ w'.state.subscriptionOf r (Message.symbolView req), req.type &&& s.type = req.type := by
    constructor
    · rintro ⟨s, hs, hall⟩
      use s, hs
      apply (SubscriptionType.and_eq_left_iff req.type s.type).mpr
      exact fun i hi => (hall i hi).1
    · rintro ⟨s, hs, hcontained⟩
      use s, hs
      intro i hi
      have hthere := (SubscriptionType.and_eq_left_iff req.type s.type).mp hcontained i hi
      exact ⟨hthere, (hasked s hs i).mp hthere⟩
  rw [hextended, hafter]
  cases hsub : w.state.subscriptionOf r (Message.symbolView req) with
  | none =>
      apply iff_of_true
      · exact ⟨_, rfl, UInt8.and_self⟩
      · rintro s ⟨⟩
  | some s =>
      rw [apply]
      split
      case isTrue hnew =>
        apply iff_of_true
        · refine ⟨_, rfl, ?_⟩
          apply (SubscriptionType.and_eq_left_iff ..).mpr
          intro i hi
          exact (SubscriptionType.has_or_iff ..).mpr (Or.inr hi)
        · rintro s' ⟨⟩
          apply Or.inl hnew
      case isFalse hold =>
        constructor
        · rintro ⟨s', ⟨⟩, hcontained⟩ s'' ⟨⟩
          apply Or.inr hcontained
        · intro hall
          refine ⟨_, rfl, ?_⟩
          exact (hall s rfl).resolve_left hold

/-- A client subscribes to the quotes of a symbol. -/
def subscribeQuotes : List Event := openOne ++ [.subscribe 1 70001 [65]]

/-- A request for types of that symbol. -/
def requestTypes (type : SubscriptionType) : WsSubscription := { symbol := [65], id := 70001, type }

def subscribeTypes (type : SubscriptionType) : Message :=
  { pid := 1, data := .subscribe (requestTypes type) }

theorem subscription_types_iff_trades :
  ∃ w w', (asking 0 [65]).Run { state := start 7 fun _ => 1, notes := [] } subscribeQuotes w ∧
    (asking 0 [65]).step w
      (.processClientMessage (some (subscribeTypes SubscriptionType.trades))) = some w' ∧
    Extended w' 0 [65] SubscriptionType.trades
  := by
  have hexec : ∃ w ∈ (asking 0 [65]).exec { state := start 7 fun _ => 1, notes := [] }
      subscribeQuotes,
      w.state.websocketsById.lookup 70001 = some 0 ∧
      w.state.subscriptionOf 0 [65]
        = some { type := SubscriptionType.quotes, clients := {1} } ∧
      ∃ w' ∈ (asking 0 [65]).step w
        (.processClientMessage (some (subscribeTypes SubscriptionType.trades))),
        (w'.state.slots w.state.taken).status = .success := by
    decide +kernel
  obtain ⟨w, hrun, hid, hsub, w', hstep, hsuccess⟩ := TransitionSystem.exists_runUnder hexec
  use w, w', hrun, hstep
  have hreachable : (asking 0 [65]).Reachable w := ⟨_, _, ⟨⟨7, _, rfl⟩, rfl⟩, hrun⟩
  have hiff := @subscription_types_iff 0 w w' (subscribeTypes SubscriptionType.trades)
    (requestTypes SubscriptionType.trades) hreachable hstep rfl hid hsuccess
  apply hiff.mpr
  intro s hs
  obtain rfl := Option.some.inj (hsub.symm.trans hs)
  left
  rfl

/-- A client that subscribed to the quotes of a symbol subscribes to its quotes and trades. It is
answered with `SUCCESS`, but the trades are not asked for. -/
theorem not_subscription_types :
  ∃ w, (asking 0 [65]).Run { state := start 7 fun _ => 1, notes := [] } subscribeQuotes w ∧
    ∃ w' ∈ (asking 0 [65]).step w (.processClientMessage (some (subscribeTypes 3))),
      (w'.state.slots w.state.taken).status = .success ∧
      SubscriptionType.Has 3 1 ∧
      (∀ s ∈ w'.state.subscriptionOf 0 [65], ¬ s.type.Has 1) ∧
      ∀ t ∈ w'.notes, ¬ SubscriptionType.Has t 1
  := TransitionSystem.exists_runUnder (by decide +kernel)

end WebsocketProxy
