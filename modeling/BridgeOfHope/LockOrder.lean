import BridgeOfHope.Consistency
import BridgeOfHope.Donations.Tracks
import BridgeOfHope.Process.Locks

namespace BridgeOfHope

open Process Payments Donations
open Prog (Only)

-- The locks of a statement in the order in which the database takes them. An
-- INSERT holds its index entries and an UPDATE its row, until the transaction
-- ends. An UPDATE that assigns nothing is not sent.
inductive Lock : Type
  | key (key : Key)
  | row (table : Table) (id : Uuid)
deriving DecidableEq

section Locks

variable [Platform]

def Stmt.locks : Stmt → List Lock
  | .updateDonor id columns => if columns = [] then [] else [.row .donors id]
  | .updateSubscription id columns => if columns = [] then [] else [.row .subscriptions id]
  | .updateWebhookEvent id columns => if columns = [] then [] else [.row .webhookEvents id]
  | stmt => stmt.keys.map .key

-- What each request is at with the locks of its open transaction.
def contenders (pool : ServicePool) (taken : ℕ → ℕ) : List (Contender Lock) :=
  pool.threads.mapIdx fun i t => ⟨t.loc.pending.flatMap Stmt.locks, taken i⟩

-- The locks of what each request has flushed.
def flushedLocks (pool : ServicePool) (i : ℕ) : ℕ :=
  (pool.threads[i]?.elim [] fun t => t.loc.flushed.flatMap Stmt.locks).length

end Locks

-- The one order in which all handlers take their locks.
def Lock.rank : Lock → ℕ
  | .key (.donor _) => 0
  | .key (.donorEmail _) => 1
  | .row .donors _ => 2
  | .key (.subscription _) => 3
  | .key (.providerSubscription _ _) => 4
  | .row .subscriptions _ => 5
  | .key (.webhookEvent _) => 6
  | .key (.providerEvent _) => 7
  | .key (.donation _) => 8
  | .key (.providerPayment _) => 9
  | .row .webhookEvents _ => 10
  | .key (.dataRequest _) => 11
  | .row _ _ => 12

-- The locks of a statement rank from `stage` up to, but not including, `above`.

def Stmt.stage : Stmt → ℕ
  | .insertDonor _ => 0
  | .updateDonor _ _ => 2
  | .insertSubscription _ => 3
  | .updateSubscription _ _ => 5
  | .insertWebhookEvent _ => 6
  | .insertDonation _ => 8
  | .updateWebhookEvent _ _ => 10
  | .insertDataRequest _ => 11

def Stmt.above : Stmt → ℕ
  | .insertDonor _ => 2
  | .updateDonor _ _ => 3
  | .insertSubscription _ => 5
  | .updateSubscription _ _ => 6
  | .insertWebhookEvent _ => 8
  | .insertDonation _ => 10
  | .updateWebhookEvent _ _ => 11
  | .insertDataRequest _ => 12

def Stmt.Precedes (stmt stmt' : Stmt) : Prop := stmt.above ≤ stmt'.stage

theorem Stmt.locks_ordered [Platform] (stmt : Stmt) :
    (stmt.locks.Pairwise fun lock lock' => lock.rank < lock'.rank) ∧
      ∀ lock ∈ stmt.locks, stmt.stage ≤ lock.rank ∧ lock.rank < stmt.above := by
  cases stmt <;> simp only [locks, keys, Donor.keys, Subscription.keys, WebhookEvent.keys, Donation.keys,
    DataRequest.keys, stage, above] <;> first | (split <;> simp [Lock.rank]) | simp [Lock.rank]

theorem locks_ordered_of_precedes [Platform] {stmts : List Stmt} (h : stmts.Pairwise Stmt.Precedes) :
    (stmts.flatMap Stmt.locks).Pairwise fun lock lock' => lock.rank < lock'.rank := by
  refine List.pairwise_flatMap.mpr ⟨fun stmt _ => stmt.locks_ordered.1, h.imp fun {stmt stmt'} hle => ?_⟩
  intro lock hlock lock' hlock'
  have hlow := (stmt.locks_ordered.2 lock hlock).2
  have hhigh := (stmt'.locks_ordered.2 lock' hlock').1
  unfold Stmt.Precedes at hle
  omega

theorem Stmt.lock_of_key [Platform] {stmt : Stmt} {key : Key} (h : key ∈ stmt.keys) :
    .key key ∈ stmt.locks := by
  cases stmt <;> first | exact List.mem_map_of_mem h | cases h

theorem keys_nodup_of_precedes [Platform] {stmts : List Stmt} (h : stmts.Pairwise Stmt.Precedes) :
    (stmts.flatMap Stmt.keys).Nodup := by
  refine List.nodup_flatMap.mpr ⟨fun stmt _ => ?_, h.imp fun {stmt stmt'} hle key hkey hkey' => ?_⟩
  · cases stmt <;> simp [Stmt.keys, Donor.keys, Subscription.keys, Donation.keys, WebhookEvent.keys,
      DataRequest.keys]
  · have hlow := (stmt.locks_ordered.2 _ (Stmt.lock_of_key hkey)).2
    have hhigh := (stmt'.locks_ordered.2 _ (Stmt.lock_of_key hkey')).1
    unfold Stmt.Precedes at hle
    omega

-- A row is written before the rows that refer to it.
theorem Stmt.mem_earlier [Platform] {earlier later : List Stmt} {stmt stmt' : Stmt} {key : Key}
    (hordered : (earlier ++ stmt :: later).Pairwise Precedes) (hmem : stmt' ∈ earlier ++ stmt :: later)
    (hkey : key ∈ stmt'.keys) (hreference : key ∈ stmt.references) : stmt' ∈ earlier := by
  have hstage := (stmt'.locks_ordered.2 _ (Stmt.lock_of_key hkey)).1
  have hrank : (Lock.key key).rank < stmt.stage := by
    cases stmt with
    | insertSubscription row | insertDataRequest row =>
        rw [List.mem_singleton.mp hreference]
        simp [Lock.rank, stage]
    | insertDonation row =>
        rcases List.mem_cons.mp hreference with rfl | hreference
        · simp [Lock.rank, stage]
        · obtain ⟨id, -, rfl⟩ := List.mem_map.mp hreference
          simp [Lock.rank, stage]
    | _ => cases hreference
  have habove : stmt.stage ≤ stmt.above := by cases stmt <;> simp [Stmt.stage, Stmt.above]
  rcases List.mem_append.mp hmem with hearlier | hmem
  · exact hearlier
  rcases List.mem_cons.mp hmem with rfl | hlater
  · omega
  · have hle : stmt.above ≤ stmt'.stage :=
      (List.pairwise_cons.mp (List.pairwise_append.mp hordered).2.1).1 stmt' hlater
    omega

section Levels

-- The handlers seen through the level that they have climbed to: every lock
-- of the open transaction ranks below it.
def levels : Client Op Ans ℕ where
  update
    | _, .push stmt, _ => stmt.above
    | _, .flush, .error _ => 0
    | _, .query _, .error _ => 0
    | _, .commit, .error _ => 0
    | level, _, _ => level
  sound _ _ _ := True

def InOrder (level : ℕ) : Op → Prop
  | .push stmt => level ≤ stmt.stage
  | _ => True

-- From any level up to `low` the program climbs in order, and it is at `high`
-- at most when it returns.
def Climbs {α : Type} (low high : ℕ) (program : Act α) : Prop :=
  ∀ level ≤ low, program.Obeys levels InOrder
    (fun level' result => ∀ value, result = .ok value → level' ≤ high) level

def Op.writes : Op → Bool
  | .push _ => true
  | _ => false

theorem Op.not_writes_of_outer {op : Op} (h : op.outer = true) : op.writes = false := by
  cases op <;> first | rfl | cases h

variable {α β : Type} {low m high : ℕ}

theorem climbs_ret {value : α} (h : low ≤ high) : Climbs low high (.ret value : Act α) :=
  fun _ hlevel _ _ => hlevel.trans h

theorem climbs_raise {error : Exn} : Climbs low high (.raise error : Act α) := by
  intro level hlevel value hvalue
  cases hvalue

theorem Climbs.bind {program : Act α} {rest : α → Act β} (h : Climbs low m program)
    (hrest : ∀ value, Climbs m high (rest value)) : Climbs low high (program >>= rest) := by
  intro level hlevel
  rw [Prog.bind_eq, Prog.obeys_bind]
  refine (h level hlevel).mono (fun _ _ hop => hop) fun level' result hresult => ?_
  cases result with
  | ok value => exact hrest value level' (hresult value rfl)
  | error error =>
      intro value hvalue
      cases hvalue

theorem Climbs.mono {program : Act α} {low' high' : ℕ} (h : Climbs low high program) (hlow : low' ≤ low)
    (hhigh : high ≤ high') : Climbs low' high' program :=
  fun level hlevel => (h level (hlevel.trans hlow)).mono (fun _ _ hop => hop)
    fun _ _ hresult value hvalue => (hresult value hvalue).trans hhigh

theorem levels_le {op : Op} {answer : Ans op} {level : ℕ} (h : op.writes = false) :
    levels.update level op answer ≤ level := by
  cases op with
  | push stmt => cases h
  | flush => cases answer with
    | ok _ => exact le_refl _
    | error _ => exact Nat.zero_le _
  | query query => cases answer with
    | ok _ => exact le_refl _
    | error _ => exact Nat.zero_le _
  | commit => cases answer with
    | ok _ => exact le_refl _
    | error _ => exact Nat.zero_le _
  | _ => exact le_refl _

theorem climbs_of_only {program : Act α} (h : program.Only fun op => op.writes = false) :
    Climbs low low program := by
  intro level hlevel
  refine h.obeys (fun level' => level' ≤ low) (fun _ _ _ hle hop => (levels_le hop).trans hle) ?_
    (fun _ _ hle _ _ => hle) hlevel
  intro level' op _ hop
  cases op with
  | push stmt => cases hop
  | _ => trivial

theorem climbs_outer {program : Act α} (h : program.Only fun op => op.outer = true) :
    Climbs low low program :=
  climbs_of_only (h.mono fun _ => Op.not_writes_of_outer)

theorem climbs_ofExcept {result : Except Exn α} : Climbs low low (Prog.ofExcept result : Act α) :=
  climbs_of_only .ofExcept

theorem climbs_add {stmt : Stmt} {rest : Unit → Act α} (h : low ≤ stmt.stage)
    (hrest : Climbs stmt.above high (rest ())) : Climbs low high (add stmt >>= rest) := by
  refine Climbs.bind (m := stmt.above) (fun level hlevel => ?_) fun _ => hrest
  exact ⟨hlevel.trans h, fun _ _ _ _ => le_refl _⟩

theorem climbs_now : Climbs low low now := climbs_of_only (.perform rfl)

theorem climbs_uuid7 : Climbs low low uuid7 := climbs_of_only (.perform rfl)

theorem climbs_flush : Climbs low low flush := climbs_of_only (only_flush rfl)

theorem climbs_scalar {query : Query} : Climbs low low (scalar query) := climbs_of_only (only_scalar rfl rfl)

theorem climbs_commit : Climbs low low commit := climbs_of_only (only_commit rfl rfl)

theorem climbs_sendEmail (settings : Settings) (to_ subject : String) (template : Template) :
    Climbs low low (sendEmail settings to_ subject template) := by
  unfold sendEmail
  split
  · exact climbs_of_only (.bind (.perform rfl) fun _ => .ofExcept)
  · exact climbs_of_only (.perform rfl)

end Levels

section Handlers

theorem climbs_recordWebhookEvent (args : EventArgs) : Climbs 6 8 (Ledger.recordWebhookEvent args) := by
  refine climbs_ofExcept.bind fun providerEventId => climbs_scalar.bind fun found => ?_
  cases found with
  | some row => exact climbs_ret (by omega)
  | none =>
      refine climbs_now.bind fun receivedAt => climbs_uuid7.bind fun id =>
        climbs_ofExcept.bind fun eventType => ?_
      exact climbs_add (Nat.le_refl 6) (climbs_flush.bind fun _ => climbs_ret (Nat.le_refl 8))

theorem climbs_recordDonation (args : DonationArgs) : Climbs 8 10 (Ledger.recordDonation args) := by
  refine climbs_scalar.bind fun found => ?_
  cases found with
  | some row => exact climbs_ret (by omega)
  | none =>
      refine climbs_now.bind fun completedAt => climbs_uuid7.bind fun id => ?_
      exact climbs_add (Nat.le_refl 8) (climbs_flush.bind fun _ => climbs_ret (Nat.le_refl 10))

theorem climbs_markEventProcessed (event : WebhookEvent) (error : Option String) :
    Climbs 10 11 (Ledger.markEventProcessed event error) := by
  refine climbs_now.bind fun time => Climbs.bind ?_ fun _ => climbs_flush
  exact climbs_add (Nat.le_refl 10) (climbs_ret (Nat.le_refl 11))

theorem climbs_assign (subscription : Subscription) (columns : List SubscriptionSet) :
    Climbs 5 6 (subscription.assign columns) :=
  climbs_add (Nat.le_refl 5) (climbs_ret (Nat.le_refl 6))

theorem climbs_settlement {eventType subject : String} {args : Json → DonationArgs} {tail : Act Unit}
    (htail : Climbs 11 11 tail) : Climbs 6 11 (settlement eventType subject args tail) := by
  refine Climbs.bind (m := 6) ?_ fun payload => ?_
  · exact climbs_of_only (.bind (.perform rfl) fun _ => .bind (.perform rfl) fun _ => trivial)
  refine climbs_ofExcept.bind fun _ => climbs_ofExcept.bind fun _ =>
    (climbs_recordWebhookEvent _).bind fun found => ?_
  obtain ⟨event, isNew⟩ := found
  cases isNew with
  | false => exact climbs_ret (by omega)
  | true =>
      exact (climbs_recordDonation _).bind fun _ => (climbs_markEventProcessed event none).bind fun _ => htail

theorem climbs_settleOneOff (settings : Settings) (body : OneOffCreate) (donor : Donor)
    (result : OneOffResult) :
    Climbs 6 11 (settleOneOff settings body donor result) := by
  refine climbs_ofExcept.bind fun paymentId => ?_
  refine @climbs_settlement "payment.succeeded" paymentId
    (fun payload => oneOffArgs body donor.id paymentId payload) _ ?_
  exact climbs_ofExcept.bind fun amount => climbs_now.bind fun time => climbs_sendEmail _ _ _ _

theorem climbs_subscribe (body : NewsletterSubscribe) : Climbs 0 3 (Content.subscribe body) := by
  refine climbs_scalar.bind fun found => climbs_now.bind fun time => ?_
  have hlast : Climbs 3 3 (do
      commit
      return ⟨200, .status "subscribed"⟩ : Act Response) := climbs_commit.bind fun _ => climbs_ret (le_refl _)
  cases found with
  | some donor =>
      exact Climbs.bind (climbs_add (Nat.zero_le 2) (climbs_ret (Nat.le_refl 3))) fun _ => hlast
  | none =>
      refine climbs_uuid7.bind fun id => climbs_add (Nat.le_refl 0) (hlast.mono ?_ (le_refl _))
      exact Nat.le_succ 2

-- The failure of the processing step has emptied the transaction, so the
-- second mark starts from the bottom.
theorem climbs_process (event : WebhookEvent) : Climbs 10 11 (Webhooks.process event) := by
  intro level hlevel
  refine Prog.obeys_handle.mpr ⟨trivial, fun time _ => ⟨hlevel, fun _ _ => ⟨trivial, fun answer _ => ?_⟩⟩⟩
  have hretry (error : Exn) : (do
      Ledger.markEventProcessed event (some error.message)
      commit : Act Unit).Obeys levels InOrder
        (fun level' result => ∀ value, result = .ok value → level' ≤ 11) 0 :=
    ((climbs_markEventProcessed event _).bind fun _ => climbs_commit) 0 (by omega)
  cases answer with
  | error error => exact hretry error
  | ok _ =>
      refine ⟨trivial, fun answer _ => ?_⟩
      cases answer with
      | error error => exact hretry error
      | ok _ =>
          refine ⟨trivial, fun answer _ => ?_⟩
          cases answer with
          | error error => exact hretry error
          | ok _ => exact fun _ _ => le_refl _

variable [Platform]

theorem climbs_unsubscribe (donorId : String) : Climbs 0 3 (Content.unsubscribe donorId) := by
  refine climbs_ofExcept.bind fun id => climbs_scalar.bind fun found => ?_
  cases found with
  | some donor =>
      refine Climbs.bind (m := 3) (climbs_add (Nat.zero_le 2) (climbs_ret (Nat.le_refl 3))) fun _ => ?_
      exact climbs_commit.bind fun _ => climbs_ret (le_refl _)
  | none => exact climbs_ret (by omega)

theorem climbs_createDataRequest (body : DataRequestCreate) :
    Climbs 0 12 (Content.createDataRequest body) := by
  refine climbs_scalar.bind fun found => ?_
  cases found with
  | none => exact climbs_raise
  | some donor =>
      refine climbs_ofExcept.bind fun type => climbs_now.bind fun requestedAt => climbs_uuid7.bind fun id => ?_
      exact climbs_add (Nat.zero_le 11) (climbs_commit.bind fun _ => climbs_ret (le_refl _))

theorem climbs_settleSubscription (settings : Settings) (body : SubscriptionCreate) (donor : Donor)
    (subscription : Subscription) : Climbs 5 11 (settleSubscription settings body donor subscription) := by
  refine Climbs.bind (m := 6) (climbs_now.bind fun time => (climbs_assign _ _).bind fun _ => climbs_flush)
    fun _ => ?_
  refine @climbs_settlement "subscription.activated" subscription.providerSubscriptionId
    (fun payload => initialArgs body donor.id subscription payload) _ ?_
  exact climbs_now.bind fun time => climbs_ofExcept.bind fun amount => climbs_sendEmail _ _ _ _

theorem climbs_getOrCreateDonor (payload : DonorPayload) : Climbs 0 2 (getOrCreateDonor payload) := by
  refine climbs_scalar.bind fun found => ?_
  cases found with
  | some donor => exact climbs_ret (by omega)
  | none =>
      refine climbs_uuid7.bind fun id => climbs_add (Nat.le_refl 0) ?_
      exact climbs_flush.bind fun _ => climbs_ret (Nat.le_refl 2)

theorem climbs_giver (payload : DonorPayload) (consent : Bool) (source : String) :
    Climbs 0 3 (giver payload consent source) := by
  refine (climbs_getOrCreateDonor payload).bind fun donor => ?_
  cases consent with
  | true => exact climbs_now.bind fun time => climbs_add (Nat.le_refl 2) (climbs_ret (Nat.le_refl 3))
  | false => exact climbs_ret (by omega)

theorem climbs_selectProvider (name : String) (settings : Settings) :
    Climbs low low (selectProvider name settings) := by
  unfold selectProvider
  split
  · exact climbs_ret (le_refl _)
  · split <;> exact climbs_raise

theorem climbs_createOneOff (settings : Settings) (body : OneOffCreate) :
    Climbs 0 11 (createOneOff settings body) := by
  rw [createOneOff_eq]
  refine (climbs_selectProvider _ _).bind fun provider => (climbs_giver _ _ _).bind fun donor => ?_
  refine (climbs_outer (only_createOneOff provider _)).bind fun result => ?_
  have hlast : Climbs 11 11 (do
      commit
      let response ← Prog.ofExcept (oneOffResponse result)
      return ⟨200, .oneOff response⟩ : Act Response) :=
    climbs_commit.bind fun _ => climbs_ofExcept.bind fun _ => climbs_ret (le_refl _)
  cases provider with
  | test => exact ((climbs_settleOneOff _ _ _ _).mono (by omega) (le_refl _)).bind fun _ => hlast
  | stripe _ | paypal _ _ | mpesa _ _ | btc _ => exact hlast.mono (by omega) (le_refl _)

theorem climbs_createSubscription (settings : Settings) (body : SubscriptionCreate) :
    Climbs 0 11 (createSubscription settings body) := by
  rw [createSubscription_eq]
  refine (climbs_selectProvider _ _).bind fun provider => (climbs_giver _ _ _).bind fun donor => ?_
  have hrail : (provider.createSubscription (gift body)).Only fun op => op.writes = false := by
    cases provider with
    | test => exact .bind (.perform rfl) fun _ => .bind (.perform rfl) fun _ => trivial
    | stripe s => exact .bind (.perform rfl) fun _ => .bind .ofExcept fun _ => trivial
    | paypal _ _ | mpesa _ _ | btc _ => trivial
  refine (climbs_of_only hrail).bind fun result => climbs_ofExcept.bind fun rail =>
    climbs_uuid7.bind fun id => ?_
  refine climbs_add (Nat.le_refl 3) (climbs_flush.bind fun _ => ?_)
  cases provider with
  | test =>
      exact (climbs_settleSubscription _ _ _ _).bind fun _ => climbs_commit.bind fun _ => climbs_ret (le_refl _)
  | stripe _ | paypal _ _ | mpesa _ _ | btc _ =>
      exact climbs_commit.bind fun _ => climbs_ret (Nat.le_add_right 5 6)

theorem climbs_donorSubscriptions (secretKey token : String) :
    Climbs low low (Subscriptions.donorSubscriptions secretKey token) := by
  refine climbs_now.bind fun time => climbs_ofExcept.bind fun found => ?_
  cases found with
  | none => exact climbs_raise
  | some donorId => exact climbs_of_only (only_scalars rfl rfl)

theorem climbs_changeAmount (settings : Settings) (token : String) (body : ManageSubscriptionPatch) :
    Climbs 0 6 (Subscriptions.changeAmount settings token body) := by
  refine (climbs_donorSubscriptions _ _).bind fun subs => ?_
  cases subs with
  | nil => exact climbs_raise
  | cons sub _ =>
      refine ((climbs_assign _ _).mono (Nat.zero_le 5) (le_refl _)).bind fun _ => ?_
      exact climbs_commit.bind fun _ => climbs_ret (le_refl _)

theorem climbs_cancel (settings : Settings) (token : String) :
    Climbs 0 6 (Subscriptions.cancel settings token) := by
  rw [Subscriptions.cancel_eq]
  refine (climbs_donorSubscriptions _ _).bind fun subs => ?_
  cases subs with
  | nil => exact climbs_raise
  | cons sub _ =>
      have htell : (Subscriptions.tellRail settings sub).Only fun op => op.outer = true :=
        .handle (.bind .ofExcept fun provider => only_cancelSubscription provider _) fun _ => trivial
      refine (climbs_outer htell).bind fun _ => Climbs.bind (m := 6) ?_ fun _ => ?_
      · refine climbs_now.bind fun time => Climbs.bind ?_ fun _ => climbs_flush
        exact (climbs_assign _ _).mono (Nat.zero_le 5) (le_refl _)
      refine climbs_scalar.bind fun found => ?_
      have hlast : Climbs 6 6 (do
          commit
          return ⟨200, .status "cancelled"⟩ : Act Response) :=
        climbs_commit.bind fun _ => climbs_ret (le_refl _)
      cases found with
      | some donor => exact (climbs_sendEmail _ _ _ _).bind fun _ => hlast
      | none => exact hlast

theorem climbs_handle (settings : Settings) (providerName : String) (headers : List (String × String))
    (rawBody : Bytes) : Climbs 0 11 (Webhooks.handle settings providerName headers rawBody) := by
  unfold Webhooks.handle
  split
  · exact climbs_ret (by omega)
  · split
    · refine climbs_ofExcept.bind fun event => ?_
      refine ((climbs_recordWebhookEvent _).mono (by omega) (le_refl _)).bind fun found => ?_
      obtain ⟨row, isNew⟩ := found
      refine climbs_commit.bind fun _ => ?_
      cases isNew with
      | false => exact climbs_ret (by omega)
      | true => exact ((climbs_process row).mono (by omega) (le_refl _)).bind fun _ => climbs_ret (le_refl _)
    · exact climbs_ret (by omega)

theorem handler_climbs (request : Request) : Climbs 0 12 request.handler := by
  unfold Request.handler
  cases request.endpoint with
  | oneOff body => exact (climbs_createOneOff _ body).mono (le_refl _) (by omega)
  | subscription body => exact (climbs_createSubscription _ body).mono (le_refl _) (by omega)
  | manageGet token =>
      exact (climbs_donorSubscriptions _ token).bind fun _ => climbs_ret (by omega)
  | managePatch token body => exact (climbs_changeAmount _ token body).mono (le_refl _) (by omega)
  | manageDelete token => exact (climbs_cancel _ token).mono (le_refl _) (by omega)
  | newsletterSubscribe body => exact (climbs_subscribe body).mono (le_refl _) (by omega)
  | newsletterUnsubscribe donorId => exact (climbs_unsubscribe donorId).mono (le_refl _) (by omega)
  | dataRequest body => exact climbs_createDataRequest body
  | webhook endpoint headers rawBody => exact (climbs_handle _ _ headers rawBody).mono (le_refl _) (by omega)

end Handlers

section Runs

-- A session whose open transaction keeps the order, below the level.
structure Below (level : ℕ) (s : Session) : Prop where
  bound : ∀ stmt ∈ s.pending, stmt.above ≤ level
  ordered : s.pending.Pairwise Stmt.Precedes

theorem Below.of_sublist {level : ℕ} {s s' : Session} (h : Below level s)
    (hsub : s'.pending.Sublist s.pending) : Below level s' :=
  ⟨fun stmt hstmt => h.bound stmt (hsub.subset hstmt), h.ordered.sublist hsub⟩

theorem Below.of_empty {s : Session} (h : s.pending = []) (level : ℕ) : Below level s :=
  ⟨by simp [h], by simp [h]⟩

theorem Below.push {level : ℕ} {s : Session} {stmt : Stmt} (h : Below level s) (hop : level ≤ stmt.stage)
    (answer : Unit) : Below stmt.above (s.update (.push stmt) answer) := by
  have hpending : (s.update (.push stmt) answer).pending = s.pending ++ [stmt] :=
    (Session.writes_push stmt answer).pending
  have hle (earlier : Stmt) (hearlier : earlier ∈ s.pending) : earlier.Precedes stmt :=
    (h.bound earlier hearlier).trans hop
  have hstage : stmt.stage ≤ stmt.above := by cases stmt <;> simp [Stmt.stage, Stmt.above]
  refine ⟨fun stmt' hstmt' => ?_, ?_⟩
  · rw [hpending] at hstmt'
    rcases List.mem_append.mp hstmt' with hold | hnew
    · exact (hle stmt' hold).trans hstage
    · rw [List.mem_singleton.mp hnew]
  · rw [hpending]
    exact List.pairwise_append.mpr ⟨h.ordered, List.pairwise_singleton _ _, by simpa using hle⟩

theorem Below.update {level : ℕ} {s : Session} {op : Op} {answer : Ans op} (h : Below level s)
    (hop : InOrder level op) : Below (levels.update level op answer) (s.update op answer) := by
  cases op with
  | push stmt => exact h.push hop answer
  | flush => cases answer with
    | ok _ =>
        refine h.of_sublist ?_
        rw [(Session.writes_flush ()).pending, List.append_nil]
    | error _ => exact .of_empty rfl 0
  | query query => cases answer with
    | ok _ => exact h.of_sublist (List.Sublist.refl _)
    | error _ => exact .of_empty rfl 0
  | commit => cases answer with
    | ok _ => exact h.of_sublist (List.sublist_append_right _ _)
    | error _ => exact .of_empty rfl 0
  | _ => exact h.of_sublist (List.Sublist.refl _)

-- What a session writes next comes after everything in its open transaction.
def Follows (s : Session) (op : Op) : Prop := ∃ level, Below level s ∧ InOrder level op

variable [Platform] {allow : ServicePool → ServiceMove → Prop} {world : World} {pool : ServicePool}

theorem handler_follows (request : Request) :
    (service.start request).Obeys service.toClient Follows (fun _ _ => True) service.fresh := by
  refine (handler_climbs request 0 (le_refl _)).simulate Below (fun level s op answer h hop _ => ?_)
    (fun level s op h hop => ⟨level, h, hop⟩) (fun _ _ _ _ _ => trivial) (.of_empty rfl 0)
  exact ⟨trivial, h.update hop⟩

-- In every reachable state every open transaction keeps the order.
theorem pending_ordered (hrun : service.Run allow ⟨world, []⟩ pool) :
    ∀ t ∈ pool.threads, t.loc.pending.Pairwise Stmt.Precedes := by
  refine (hrun.invariant_of_obeys handler_follows
    (I := fun pool => ∀ t ∈ pool.threads, t.loc.pending.Pairwise Stmt.Precedes) (by simp) (by simp) ?_).1
  intro pool move pool' h hobedient _ hmove
  refine hmove.forall_threads hobedient (P := fun _ _ s => s.pending.Pairwise Stmt.Precedes)
    (fun _ _ => .nil) (fun _ _ _ => .nil) ?_ (fun _ _ _ _ _ _ _ _ _ hs => hs) h
  rintro i t op answer - - ⟨level, hbelow, hop⟩ - -
  exact (hbelow.update hop).ordered

-- A flush that another open transaction holds up waits for it.
theorem waitsFor_of_held {i j : ℕ} {t u : ServiceThread} (hi : pool.threads[i]? = some t)
    (hj : pool.threads[j]? = some u) {key : Key} (hkey : key ∈ t.loc.unflushed.flatMap Stmt.keys)
    (hheld : key ∈ u.loc.keys) : Contender.WaitsFor (contenders pool (flushedLocks pool)) i j := by
  have hlock {stmts : List Stmt} (h : key ∈ stmts.flatMap Stmt.keys) : .key key ∈ stmts.flatMap Stmt.locks := by
    obtain ⟨stmt, hstmt, hmem⟩ := List.mem_flatMap.mp h
    exact List.mem_flatMap.mpr ⟨stmt, hstmt, Stmt.lock_of_key hmem⟩
  have hcontender {k : ℕ} {t : ServiceThread} (hk : pool.threads[k]? = some t) :
      (⟨t.loc.pending.flatMap Stmt.locks, (t.loc.flushed.flatMap Stmt.locks).length⟩ : Contender Lock) ∈
        (contenders pool (flushedLocks pool))[k]? := by
    simp [contenders, flushedLocks, hk]
  refine ⟨_, hcontender hi, _, hcontender hj, .key key, ?_, ?_⟩
  · rw [Contender.missing, Session.pending, List.flatMap_append, List.drop_left]
    exact hlock hkey
  · rw [Contender.held, Session.pending, List.flatMap_append, List.take_left]
    exact hlock hheld

-- Every open transaction writes in the one order, and a flush that another open
-- transaction holds up waits for it. However far the flushes are, no requests
-- wait for one another in a circle, and whoever waits, waits in the end for a
-- request that waits for nobody.
theorem requests_never_deadlock (hrun : service.Run allow ⟨world, []⟩ pool) :
    (∀ t ∈ pool.threads, t.loc.pending.Pairwise Stmt.Precedes) ∧
      (∀ (i j : ℕ) t u, pool.threads[i]? = some t → pool.threads[j]? = some u →
        ∀ key ∈ t.loc.unflushed.flatMap Stmt.keys, key ∈ u.loc.keys →
          Contender.WaitsFor (contenders pool (flushedLocks pool)) i j) ∧
      ∀ taken i, ¬ Relation.TransGen (Contender.WaitsFor (contenders pool taken)) i i ∧
        ∃ j, Relation.ReflTransGen (Contender.WaitsFor (contenders pool taken)) i j ∧
          ∀ k, ¬ Contender.WaitsFor (contenders pool taken) j k := by
  refine ⟨pending_ordered hrun, fun i j t u hi hj key => waitsFor_of_held hi hj, fun taken i => ?_⟩
  have horder : Contender.Ordered Lock.rank (contenders pool taken) := by
    intro contender hcontender
    obtain ⟨j, hj, rfl⟩ := List.mem_mapIdx.mp hcontender
    exact locks_ordered_of_precedes (pending_ordered hrun _ (List.getElem_mem hj))
  exact ⟨horder.acyclic i, horder.exists_free i⟩

end Runs

open Trial

-- Two gifts for one new donor: the second is held up by the first.
def heldUp : List ServiceCue :=
  [.arrive (oneOff "test" "amina@example.org"), .arrive (oneOff "test" "amina@example.org")] ++
    turns 1 4 (reply 1) ++ turns 0 5 (reply 0)

theorem requests_never_deadlock_heldUp : ∃ pool, service.Run (fun _ _ => True) ⟨{}, []⟩ pool ∧
    Contender.WaitsFor (contenders pool (flushedLocks pool)) 1 0 ∧
      (∀ t ∈ pool.threads, t.loc.pending.Pairwise Stmt.Precedes) ∧
        ∃ j, Relation.ReflTransGen (Contender.WaitsFor (contenders pool (flushedLocks pool))) 1 j ∧
          ∀ k, ¬ Contender.WaitsFor (contenders pool (flushedLocks pool)) j k := by
  obtain ⟨pool, hrun, hwaits⟩ := exists_run (fun _ _ => True)
    (fun pool => Contender.WaitsFor (contenders pool (flushedLocks pool)) 1 0) heldUp (by decide +kernel)
  obtain ⟨hordered, -, hfree⟩ := requests_never_deadlock hrun
  exact ⟨pool, hrun, hwaits, hordered, (hfree (flushedLocks pool) 1).2⟩

end BridgeOfHope
