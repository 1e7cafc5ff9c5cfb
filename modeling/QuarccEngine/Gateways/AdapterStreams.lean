import QuarccEngine.Core.FeedRegistry
import QuarccEngine.Library.Trajectory

/-!
# The streams of the adapter feeds

`grpc_market_data_feed.cpp`: every adapter feed has a thread that builds a request from the
subscriptions of the feed, opens the stream with it, reads until the stream ends, and starts over.
`feed_registry.cpp` starts the thread, with `start_all` or, later, as soon as the feed is
registered.

A registration goes on in steps while the threads run: the feed is registered, and then one
subscription after the other.  It holds `managers_mu_`, so that there is one at a time.
-/

namespace Quarcc

/-! ## Subscriptions in a list -/

/-- The subscriptions include the ticks, or the bars of the period, of the symbol. -/
def Covers (subs : List SymbolSubscription) (symbol : String) (period : Option String) : Prop :=
  ∃ sub ∈ subs, sub.symbol = symbol ∧ ∀ p ∈ period, p ∈ sub.barPeriods

instance (subs : List SymbolSubscription) (symbol : String) (period : Option String) :
    Decidable (Covers subs symbol period) :=
  inferInstanceAs (Decidable (∃ sub ∈ subs, sub.symbol = symbol ∧ ∀ p ∈ period, p ∈ sub.barPeriods))

/-- The subscriptions include all of the others. -/
def CoversAll (subs others : List SymbolSubscription) : Prop :=
  ∀ sub ∈ others, Covers subs sub.symbol none ∧ ∀ p ∈ sub.barPeriods,
    Covers subs sub.symbol (some p)

instance (subs others : List SymbolSubscription) : Decidable (CoversAll subs others) :=
  inferInstanceAs (Decidable (∀ sub ∈ others, _ ∧ ∀ p ∈ sub.barPeriods, _))

/-- What the others include is included. -/
lemma CoversAll.covers {subs others : List SymbolSubscription} (h : CoversAll subs others)
    {symbol : String} {period : Option String} (hcovers : Covers others symbol period) :
    Covers subs symbol period := by
  obtain ⟨sub, hsub, rfl, hperiod⟩ := hcovers
  cases period with
  | none => exact (h sub hsub).1
  | some p => exact (h sub hsub).2 p (hperiod p rfl)

namespace GrpcMarketDataFeed

variable (f : GrpcMarketDataFeed) (symbol : String) (period : Option String)

/-- `subscribe` keeps what is there. -/
lemma covers_subscribe_of_covers {symbol' : String} {period' : Option String}
    (h : Covers f.subscriptions symbol' period') :
    Covers (f.subscribe symbol period).subscriptions symbol' period' := by
  obtain ⟨sub, hsub, hsymbol, hperiod⟩ := h
  unfold subscribe
  cases f.subscriptions.findIdx? fun s => s.symbol = symbol with
  | none => exact ⟨sub, List.mem_append_left _ hsub, hsymbol, hperiod⟩
  | some k =>
    obtain ⟨i, hi⟩ := List.getElem?_of_mem hsub
    have hmodified := List.getElem?_modify (fun s : SymbolSubscription =>
      { s with barPeriods := s.barPeriods ++ period.toList.filter fun p => p ∉ s.barPeriods })
      k f.subscriptions i
    rw [hi, Option.map_eq_map, Option.map_some] at hmodified
    refine ⟨_, List.mem_of_getElem? hmodified, ?_, fun p hp => ?_⟩
    · split_ifs
      · exact hsymbol
      · exact hsymbol
    · split_ifs
      · exact List.mem_append_left _ (hperiod p hp)
      · exact hperiod p hp

/-- `subscribe` adds what it is called with. -/
lemma covers_subscribe : Covers (f.subscribe symbol period).subscriptions symbol period := by
  unfold subscribe
  cases hindex : f.subscriptions.findIdx? fun s => s.symbol = symbol with
  | none =>
    refine ⟨⟨symbol, period.toList⟩, List.mem_append_right _ (List.mem_singleton_self _), rfl, ?_⟩
    exact fun p hp => Option.mem_toList.mpr hp
  | some k =>
    obtain ⟨hk, hfound, -⟩ := List.findIdx?_eq_some_iff_getElem.mp hindex
    have hmodified := List.getElem?_modify (fun s : SymbolSubscription =>
      { s with barPeriods := s.barPeriods ++ period.toList.filter fun p => p ∉ s.barPeriods })
      k f.subscriptions k
    rw [List.getElem?_eq_getElem hk, Option.map_eq_map, Option.map_some, if_pos rfl] at hmodified
    refine ⟨_, List.mem_of_getElem? hmodified, of_decide_eq_true hfound, fun p hp => ?_⟩
    by_cases hthere : p ∈ f.subscriptions[k].barPeriods
    · exact List.mem_append_left _ hthere
    · refine List.mem_append_right _ (List.mem_filter.mpr ⟨Option.mem_toList.mpr hp, ?_⟩)
      exact decide_eq_true hthere

end GrpcMarketDataFeed

/-- `register_subscription` on the feed of an adapter. -/
lemma FeedRegistry.registerSubscription_grpc (r : FeedRegistry) (key : FeedKey) (symbol : String)
    (period : Option String) (m : ManagerId) {feed : GrpcMarketDataFeed}
    (h : r.feeds.lookup key = some (.grpc feed)) :
    r.registerSubscription key symbol period m =
      (({ r with
          feeds := r.feeds.insert key (.grpc (feed.subscribe symbol period)) } :
        FeedRegistry).route key symbol period m, .ok ()) := by
  unfold FeedRegistry.registerSubscription
  rw [h]
  rfl

/-! ## The thread of a feed -/

/-- Where `run_stream` is. -/
inductive StreamPosition where
  /-- At the head of the loop. -/
  | head
  /-- The request is built. -/
  | built (req : List SymbolSubscription)
  /-- The stream is open and is read. -/
  | opened (req : List SymbolSubscription)
  /-- `Read` has returned `false`. -/
  | closed
  /-- In the wait before the next attempt. -/
  | waiting
  | exited
  deriving DecidableEq

/-- The thread of a feed that was started. -/
structure StreamThread where
  position : StreamPosition := .head
  stopRequested : Bool := false

namespace StreamThread

/-- The request that was built, until the stream has ended. -/
def request? (t : StreamThread) : Option (List SymbolSubscription) :=
  match t.position with
  | .built req => some req
  | .opened req => some req
  | _ => none

/-- The loop begins another attempt, with the subscriptions of the feed as they are now. -/
def build (t : StreamThread) (subscriptions : List SymbolSubscription) : StreamThread :=
  if t.position = .head then
    { t with position := if t.stopRequested then .exited else .built subscriptions }
  else t

/-- `StreamMarketData` is called. -/
def openStream (t : StreamThread) : StreamThread :=
  match t.position with
  | .built req => { t with position := .opened req }
  | _ => t

/-- The stream ends: it was cancelled, or the adapter has ended it. -/
def close (t : StreamThread) : StreamThread :=
  match t.position with
  | .opened _ => { t with position := .closed }
  | _ => t

/-- `Finish`, and then the wait unless the thread was asked to stop. -/
def finish (t : StreamThread) : StreamThread :=
  if t.position = .closed then { t with position := if t.stopRequested then .exited else .waiting }
  else t

/-- The wait is over. -/
def wake (t : StreamThread) : StreamThread :=
  if t.position = .waiting then { t with position := .head } else t

/-- `stop`. -/
def stop (t : StreamThread) : StreamThread := { t with stopRequested := true }

end StreamThread

/-! ## The registry and its threads -/

/-- The market data of a strategy while it is registered. -/
structure Registering where
  key : FeedKey
  manager : ManagerId
  /-- The subscriptions that are still to be made. -/
  todo : List V1.MarketDataSubscriptionMessage

/-- The feed registry, the threads of the adapter feeds that were started, and the registration that
holds `managers_mu_`. -/
structure StreamingRegistry where
  registry : FeedRegistry := {}
  running : Bool := false
  threads : AList fun _ : FeedKey => StreamThread := ∅
  registering : Option Registering := none

/-- What happens next. -/
inductive StreamAction where
  /-- A registration has got to its market data, which is an adapter feed on the connection. -/
  | register (accountId : String) (conn : ConnectionId) (m : ManagerId)
      (subs : List V1.MarketDataSubscriptionMessage)
  /-- The registration makes its next subscription, or is through. -/
  | subscribeNext
  | startAll
  | stopAll
  | build (key : FeedKey)
  | openStream (key : FeedKey)
  | close (key : FeedKey)
  | finish (key : FeedKey)
  | wake (key : FeedKey)

namespace StreamingRegistry

/-- The subscriptions of an adapter feed. -/
def subscriptionsOf (s : StreamingRegistry) (key : FeedKey) : List SymbolSubscription :=
  match s.registry.feeds.lookup key with
  | some (.grpc feed) => feed.subscriptions
  | _ => []

/-- The thread of one feed makes a step. -/
def moveThread (s : StreamingRegistry) (key : FeedKey) (f : StreamThread → StreamThread) :
    StreamingRegistry :=
  match s.threads.lookup key with
  | some t => { s with threads := s.threads.insert key (f t) }
  | none => s

/-- The market data of a new strategy: `has_feed`, and `register_feed` when there is none, which
starts the feed when the registry runs. -/
def register (s : StreamingRegistry) (key : FeedKey) (conn : ConnectionId) (m : ManagerId)
    (subs : List V1.MarketDataSubscriptionMessage) : StreamingRegistry :=
  if s.registering.isSome then s
  else if s.registry.hasFeed key then { s with registering := some ⟨key, m, subs⟩ }
  else
    { s with
      registry := s.registry.registerFeed key (.grpc { conn := conn })
      threads := if s.running then s.threads.insert key {} else s.threads
      registering := some ⟨key, m, subs⟩ }

/-- `register_subscription` for the next subscription of the registration; one that throws ends the
registration. -/
def subscribeNext (s : StreamingRegistry) : StreamingRegistry :=
  match s.registering with
  | none => s
  | some ⟨_, _, []⟩ => { s with registering := none }
  | some ⟨key, m, sub :: rest⟩ =>
    let registered := s.registry.registerSubscription key sub.symbol sub.period m
    match registered.2 with
    | .error _ => { s with registry := registered.1, registering := none }
    | .ok () => { s with registry := registered.1, registering := some ⟨key, m, rest⟩ }

/-- `start_all`: every feed gets its thread. -/
def startAll (s : StreamingRegistry) : StreamingRegistry :=
  if s.running then s
  else
    { s with
      running := true
      threads := FiniteMap.mapValues (fun _ => {}) s.registry.feeds }

/-- `stop_all`. -/
def stopAll (s : StreamingRegistry) : StreamingRegistry :=
  { s with running := false, threads := FiniteMap.mapValues StreamThread.stop s.threads }

/-- The registry and its threads after a step. -/
def step (s : StreamingRegistry) : StreamAction → StreamingRegistry
  | .register accountId conn m subs => s.register ⟨.adapterFeed, accountId⟩ conn m subs
  | .subscribeNext => s.subscribeNext
  | .startAll => s.startAll
  | .stopAll => s.stopAll
  | .build key => s.moveThread key fun t => t.build (s.subscriptionsOf key)
  | .openStream key => s.moveThread key StreamThread.openStream
  | .close key => s.moveThread key StreamThread.close
  | .finish key => s.moveThread key StreamThread.finish
  | .wake key => s.moveThread key StreamThread.wake

/-! ## Coverage -/

/-- The registry has order managers for the ticks, or the bars of the period, of the symbol. -/
def Registered (s : StreamingRegistry) (key : FeedKey) (symbol : String) :
    Option String → Prop
  | some period => (⟨key, symbol, period⟩ : BarSubKey) ∈ s.registry.barSubs
  | none => (⟨key, symbol⟩ : TickSubKey) ∈ s.registry.tickSubs

/-- When no registration is in progress, every stream that is open was opened with everything that
is registered for its feed. -/
def OpenCovers (s : StreamingRegistry) : Prop :=
  s.registering = none → ∀ key t req, s.threads.lookup key = some t → t.position = .opened req →
    ∀ symbol period, s.Registered key symbol period → Covers req symbol period

/-- A registration is not over while the thread of its feed has a request that was built without one
of the subscriptions. -/
def NotLate (s : StreamingRegistry) : StreamAction → Prop
  | .subscribeNext => ∀ r ∈ s.registering, r.todo = [] → ∀ t ∈ s.threads.lookup r.key,
      ∀ req ∈ t.request?, CoversAll req (s.subscriptionsOf r.key)
  | _ => True

instance (s : StreamingRegistry) : DecidablePred s.NotLate
  | .subscribeNext => inferInstanceAs (Decidable (∀ r ∈ s.registering, r.todo = [] →
      ∀ t ∈ s.threads.lookup r.key, ∀ req ∈ t.request?, CoversAll req (s.subscriptionsOf r.key)))
  | .register _ _ _ _ | .startAll | .stopAll | .build _ | .openStream _ | .close _ | .finish _
  | .wake _ => isTrue trivial

/-- What is registered is in the subscriptions of its feed, and, unless a registration on the feed
is in progress, in a request that was built. -/
structure Prepared (s : StreamingRegistry) : Prop where
  grpc : ∀ key f, s.registry.feeds.lookup key = some f → ∃ feed, f = .grpc feed
  registering : ∀ r, s.registering = some r → s.registry.hasFeed r.key
  subscribed : ∀ key symbol period, s.Registered key symbol period →
    Covers (s.subscriptionsOf key) symbol period
  requested : ∀ key t req, s.threads.lookup key = some t → t.request? = some req →
    (∀ r ∈ s.registering, r.key ≠ key) →
      ∀ symbol period, s.Registered key symbol period → Covers req symbol period

variable {s : StreamingRegistry}

/-- Without strategies. -/
lemma prepared_start : Prepared {} where
  grpc := by
    intro key f h
    cases h
  registering := by
    intro r h
    cases h
  subscribed := by
    intro key symbol period h
    cases period with
    | none => exact absurd h (AList.notMem_empty _)
    | some period => exact absurd h (AList.notMem_empty _)
  requested := by
    intro key t req h
    cases h

/-- The requests after a step of a thread are those before, or the subscriptions of the feed. -/
lemma Prepared.moveThread (h : s.Prepared) (key : FeedKey) {f : StreamThread → StreamThread}
    (hf : ∀ t req, (f t).request? = some req →
      t.request? = some req ∨ req = s.subscriptionsOf key) : (s.moveThread key f).Prepared := by
  unfold StreamingRegistry.moveThread
  cases hlookup : s.threads.lookup key with
  | none => exact h
  | some t =>
    refine ⟨h.grpc, h.registering, h.subscribed,
      fun key' t' req ht' hreq hfree symbol period hreg => ?_⟩
    dsimp only at ht'
    rw [FiniteMap.lookup_insert_eq] at ht'
    split_ifs at ht' with hkey
    · obtain rfl := Option.some.inj ht'
      subst hkey
      obtain hold | rfl := hf t req hreq
      · exact h.requested key' t req hlookup hold hfree symbol period hreg
      · exact h.subscribed key' symbol period hreg
    · exact h.requested key' t' req ht' hreq hfree symbol period hreg

/-- A registration gets to its market data. -/
lemma Prepared.register (h : s.Prepared) (key : FeedKey) (conn : ConnectionId) (m : ManagerId)
    (subs : List V1.MarketDataSubscriptionMessage) : (s.register key conn m subs).Prepared := by
  unfold StreamingRegistry.register
  by_cases hbusy : s.registering.isSome = true
  · rw [if_pos hbusy]
    exact h
  rw [if_neg hbusy]
  have hfree : ∀ key', ∀ r ∈ s.registering, r.key ≠ key' := by
    intro key' r hr
    rw [Option.mem_def.mp hr] at hbusy
    exact absurd rfl hbusy
  by_cases hfeed : s.registry.hasFeed key
  · rw [if_pos hfeed]
    refine ⟨h.grpc, fun r hr => ?_, h.subscribed,
      fun key' t req ht hreq _ => h.requested key' t req ht hreq (hfree key')⟩
    obtain rfl := Option.some.inj hr
    exact hfeed
  · rw [if_neg hfeed]
    have hfeeds : ∀ key', (s.registry.registerFeed key (.grpc { conn := conn })).feeds.lookup key' =
        if key' = key then some (.grpc { conn := conn }) else s.registry.feeds.lookup key' := by
      intro key'
      unfold FeedRegistry.registerFeed
      rw [if_neg hfeed]
      exact FiniteMap.lookup_insert_eq _ _ _ _
    have htables : (s.registry.registerFeed key (.grpc { conn := conn })).barSubs =
          s.registry.barSubs ∧
        (s.registry.registerFeed key (.grpc { conn := conn })).tickSubs = s.registry.tickSubs := by
      unfold FeedRegistry.registerFeed
      rw [if_neg hfeed]
      exact ⟨rfl, rfl⟩
    have hregistered : ∀ (threads : AList fun _ : FeedKey => StreamThread)
        (registering : Option Registering) key' symbol period,
        Registered ⟨s.registry.registerFeed key (.grpc { conn := conn }), s.running, threads,
          registering⟩ key' symbol period ↔ s.Registered key' symbol period := by
      intro threads registering key' symbol period
      cases period with
      | none =>
        unfold StreamingRegistry.Registered
        rw [htables.2]
      | some period =>
        unfold StreamingRegistry.Registered
        rw [htables.1]
    refine ⟨fun key' f hf => ?_, fun r hr => ?_, fun key' symbol period hreg => ?_,
      fun key' t req ht hreq _ symbol period hreg => ?_⟩
    · dsimp only at hf
      rw [hfeeds] at hf
      split_ifs at hf
      · exact ⟨_, (Option.some.inj hf).symm⟩
      · exact h.grpc key' f hf
    · obtain rfl := Option.some.inj hr
      exact FiniteMap.mem_of_lookup ((hfeeds key).trans (if_pos rfl))
    · have hcovered := h.subscribed key' symbol period ((hregistered _ _ _ _ _).mp hreg)
      unfold StreamingRegistry.subscriptionsOf at hcovered ⊢
      dsimp only
      rw [hfeeds]
      split_ifs with hkey
      · -- nothing is registered for a feed that is not there
        rw [hkey, AList.lookup_eq_none.mpr hfeed] at hcovered
        obtain ⟨sub, hsub, -⟩ := hcovered
        exact absurd hsub List.not_mem_nil
      · exact hcovered
    · have hreg' := (hregistered _ _ _ _ _).mp hreg
      dsimp only at ht
      split_ifs at ht
      · rw [FiniteMap.lookup_insert_eq] at ht
        split_ifs at ht
        · obtain rfl := Option.some.inj ht
          cases hreq
        · exact h.requested key' t req ht hreq (hfree key') symbol period hreg'
      · exact h.requested key' t req ht hreq (hfree key') symbol period hreg'

/-- What is registered after an order manager was put into its table. -/
lemma registered_route (s s' : StreamingRegistry) (feeds : AList fun _ : FeedKey => MarketDataFeed)
    (key key' : FeedKey) (symbol symbol' : String) (period period' : Option String) (m : ManagerId)
    (hs' : s'.registry = ({ s.registry with feeds := feeds } : FeedRegistry).route key
      symbol period m)
    (h : s'.Registered key' symbol' period') :
    s.Registered key' symbol' period' ∨ key' = key ∧ symbol' = symbol ∧ period' = period := by
  unfold StreamingRegistry.Registered at h ⊢
  rw [hs'] at h
  unfold FeedRegistry.route at h
  cases period' with
  | none =>
    cases period with
    | some period => exact Or.inl h
    | none =>
      obtain hnew | hold := AList.mem_insert _ |>.mp h
      · obtain ⟨rfl, rfl⟩ := TickSubKey.mk.inj hnew
        exact Or.inr ⟨rfl, rfl, rfl⟩
      · exact Or.inl hold
  | some period' =>
    cases period with
    | none => exact Or.inl h
    | some period =>
      obtain hnew | hold := AList.mem_insert _ |>.mp h
      · obtain ⟨rfl, rfl, rfl⟩ := BarSubKey.mk.inj hnew
        exact Or.inr ⟨rfl, rfl, rfl⟩
      · exact Or.inl hold

/-- The registration makes its next subscription, or is over. -/
lemma Prepared.subscribeNext (h : s.Prepared) (hlate : s.NotLate .subscribeNext) :
    s.subscribeNext.Prepared := by
  unfold StreamingRegistry.subscribeNext
  cases hregistering : s.registering with
  | none => exact h
  | some r =>
    obtain ⟨key, m, todo⟩ := r
    cases todo with
    | nil =>
      refine ⟨h.grpc, fun r hr => ?_, h.subscribed,
        fun key' t req ht hreq _ symbol period hreg => ?_⟩
      · cases hr
      · by_cases hkey : key = key'
        · subst hkey
          exact (hlate _ hregistering rfl t ht req hreq).covers
            (h.subscribed key symbol period hreg)
        · refine h.requested key' t req ht hreq (fun r hr => ?_) symbol period hreg
          obtain rfl := Option.some.inj (hregistering.symm.trans hr)
          exact hkey
    | cons sub rest =>
      have hfeed := h.registering _ hregistering
      obtain ⟨f, hlookup⟩ := Option.isSome_iff_exists.mp (AList.lookup_isSome.mpr hfeed)
      obtain ⟨feed, rfl⟩ := h.grpc key f hlookup
      dsimp only
      rw [s.registry.registerSubscription_grpc key sub.symbol sub.period m hlookup]
      dsimp only
      have hsubscriptions : s.subscriptionsOf key = feed.subscriptions := by
        unfold StreamingRegistry.subscriptionsOf
        rw [hlookup]
      refine ⟨fun key' f hf => ?_, fun r hr => ?_, fun key' symbol period hreg => ?_,
        fun key' t req ht hreq hfree symbol period hreg => ?_⟩
      · dsimp only at hf
        rw [FeedRegistry.route_feeds, FiniteMap.lookup_insert_eq] at hf
        split_ifs at hf
        · exact ⟨_, (Option.some.inj hf).symm⟩
        · exact h.grpc key' f hf
      · obtain rfl := Option.some.inj hr
        unfold FeedRegistry.hasFeed
        dsimp only
        rw [FeedRegistry.route_feeds]
        exact (AList.mem_insert _).mpr (Or.inl rfl)
      · have hreg' := registered_route s _ _ key key' sub.symbol symbol sub.period period m rfl hreg
        unfold StreamingRegistry.subscriptionsOf
        dsimp only
        rw [FeedRegistry.route_feeds, FiniteMap.lookup_insert_eq]
        by_cases hkey : key' = key
        · subst hkey
          rw [if_pos rfl]
          obtain hold | ⟨-, rfl, rfl⟩ := hreg'
          · have hthere := h.subscribed key' symbol period hold
            rw [hsubscriptions] at hthere
            exact feed.covers_subscribe_of_covers sub.symbol sub.period hthere
          · exact feed.covers_subscribe sub.symbol sub.period
        · rw [if_neg hkey]
          obtain hold | ⟨hsame, -⟩ := hreg'
          · exact h.subscribed key' symbol period hold
          · exact absurd hsame hkey
      · have hkey : key ≠ key' := hfree _ rfl
        obtain hold | ⟨rfl, -⟩ :=
          registered_route s _ _ key key' sub.symbol symbol sub.period period m rfl hreg
        · refine h.requested key' t req ht hreq (fun r hr => ?_) symbol period hold
          obtain rfl := Option.some.inj (hregistering.symm.trans hr)
          exact hkey
        · exact absurd rfl hkey

/-- **Step lemma.**  A step that ends no registration too early. -/
theorem Prepared.step (h : s.Prepared) {a : StreamAction} (hlate : s.NotLate a) :
    (s.step a).Prepared := by
  cases a with
  | register accountId conn m subs => exact h.register ⟨.adapterFeed, accountId⟩ conn m subs
  | subscribeNext => exact h.subscribeNext hlate
  | startAll =>
    change s.startAll.Prepared
    unfold StreamingRegistry.startAll
    split_ifs
    · exact h
    · refine ⟨h.grpc, h.registering, h.subscribed, fun key t req ht hreq _ => ?_⟩
      dsimp only at ht
      rw [FiniteMap.lookup_mapValues] at ht
      obtain ⟨feed, -, rfl⟩ := Option.map_eq_some_iff.mp ht
      cases hreq
  | stopAll =>
    refine ⟨h.grpc, h.registering, h.subscribed, fun key t req ht hreq => ?_⟩
    change (s.stopAll.threads.lookup key) = some t at ht
    unfold StreamingRegistry.stopAll at ht
    dsimp only at ht
    rw [FiniteMap.lookup_mapValues] at ht
    obtain ⟨t₀, ht₀, rfl⟩ := Option.map_eq_some_iff.mp ht
    exact h.requested key t₀ req ht₀ hreq
  | build key =>
    refine h.moveThread key fun t req hreq => ?_
    unfold StreamThread.build at hreq
    split_ifs at hreq with hhead hstop
    · cases hreq
    · exact Or.inr (Option.some.inj hreq).symm
    · exact Or.inl hreq
  | openStream key =>
    refine h.moveThread key fun t req hreq => Or.inl ?_
    unfold StreamThread.openStream at hreq
    split at hreq
    · rename_i req' hbuilt
      unfold StreamThread.request?
      rw [hbuilt]
      exact hreq
    · exact hreq
  | close key =>
    refine h.moveThread key fun t req hreq => Or.inl ?_
    unfold StreamThread.close at hreq
    split at hreq
    · cases hreq
    · exact hreq
  | finish key =>
    refine h.moveThread key fun t req hreq => Or.inl ?_
    unfold StreamThread.finish at hreq
    split_ifs at hreq
    · cases hreq
    · cases hreq
    · exact hreq
  | wake key =>
    refine h.moveThread key fun t req hreq => Or.inl ?_
    unfold StreamThread.wake at hreq
    split_ifs at hreq
    · cases hreq
    · exact hreq

end StreamingRegistry

/-- **When an open stream covers every subscription.**  In a run in which no registration is over
while the thread of its feed has a request without one of the subscriptions, every stream that is
open in a state without a registration was opened with everything that is registered for its
feed. -/
theorem open_streams_cover (actions : List StreamAction)
    (hlate : Trajectory.AllSteps StreamingRegistry.step StreamingRegistry.NotLate {} actions) :
    Trajectory.EveryState StreamingRegistry.step StreamingRegistry.OpenCovers {} actions := by
  have hprepared := Trajectory.everyState_of_invariant
    (I := StreamingRegistry.Prepared) (fun s a h ha => h.step ha)
    StreamingRegistry.prepared_start hlate
  refine hprepared.mono fun s h hfree key t req ht hopen symbol period hreg => ?_
  have hrequest : t.request? = some req := by
    unfold StreamThread.request?
    rw [hopen]
  refine h.requested key t req ht hrequest (fun r hr => ?_) symbol period hreg
  rw [hfree] at hr
  cases hr

/-- A strategy that is registered while the registry runs, on an adapter: its thread builds the
request with the given number of subscriptions made, and opens the stream after the registration. -/
def lateStrategy (before : ℕ) (subs : List V1.MarketDataSubscriptionMessage) : List StreamAction :=
  [.startAll, .register "ACC" 0 0 subs] ++ List.replicate before .subscribeNext ++
    [.build ⟨.adapterFeed, "ACC"⟩] ++ List.replicate (subs.length + 1 - before) .subscribeNext ++
    [.openStream ⟨.adapterFeed, "ACC"⟩]

/-- A strategy that is registered while the registry runs; the adapter ends the first stream of its
thread, which was opened too early, before the registration is over. -/
def endedEarly : List StreamAction :=
  [.startAll, .register "ACC" 0 0 [{ symbol := "AAPL" }], .build ⟨.adapterFeed, "ACC"⟩,
    .openStream ⟨.adapterFeed, "ACC"⟩, .subscribeNext, .close ⟨.adapterFeed, "ACC"⟩, .subscribeNext,
    .finish ⟨.adapterFeed, "ACC"⟩, .wake ⟨.adapterFeed, "ACC"⟩, .build ⟨.adapterFeed, "ACC"⟩,
    .openStream ⟨.adapterFeed, "ACC"⟩]

/-- The streams of a strategy whose thread is slow enough, and of one whose first stream ends
early. -/
theorem open_streams_cover_slow :
    Trajectory.EveryState StreamingRegistry.step StreamingRegistry.OpenCovers {}
        (lateStrategy 2 [{ symbol := "AAPL" }]) ∧
      Trajectory.EveryState StreamingRegistry.step StreamingRegistry.OpenCovers {} endedEarly :=
  ⟨open_streams_cover _ (by decide +kernel), open_streams_cover _ (by decide +kernel)⟩

/-- The thread that is started with the feed opens its stream without any subscription, and the
strategy that subscribed gets nothing. -/
theorem open_stream_misses :
    let s := Trajectory.run StreamingRegistry.step {} (lateStrategy 0 [{ symbol := "AAPL" }])
    s.registering.isNone = true ∧
      (s.threads.lookup ⟨.adapterFeed, "ACC"⟩).map StreamThread.position = some (.opened []) ∧
      ¬ Trajectory.EveryState StreamingRegistry.step StreamingRegistry.OpenCovers {}
        (lateStrategy 0 [{ symbol := "AAPL" }]) := by
  intro s
  have hdone : s.registering.isNone = true := by decide +kernel
  have hopened : (s.threads.lookup ⟨.adapterFeed, "ACC"⟩).map StreamThread.position =
      some (.opened []) := by decide +kernel
  refine ⟨hdone, hopened, fun h => ?_⟩
  obtain ⟨t, ht, hposition⟩ := Option.map_eq_some_iff.mp hopened
  have hregistered : s.Registered ⟨.adapterFeed, "ACC"⟩ "AAPL" none := by
    unfold StreamingRegistry.Registered
    decide +kernel
  obtain ⟨sub, hsub, -⟩ := h.last (Option.isNone_iff_eq_none.mp hdone) _ t [] ht hposition
    "AAPL" none hregistered
  exact absurd hsub List.not_mem_nil

end Quarcc
