import BridgeOfHope.Ledger.FirstWins
import BridgeOfHope.Freshness
import BridgeOfHope.Transactions.Effects
import Mathlib.Data.List.Forall2

namespace BridgeOfHope

open Process

def Db.testEvents (db : Db) : List WebhookEvent :=
  db.webhookEvents.filter fun event => event.provider = "test"

-- The gift that an event of the test rail reports, and the donation it paid.
inductive Pairs (db : Db) (event : WebhookEvent) (donation : Donation) : Prop
  | payment (htype : event.eventType = "payment.succeeded")
      (hsubscription : donation.subscriptionId = none) (hrecurring : donation.isRecurring = false)
      (hid : event.payload.item "provider_payment_id" = .ok (.str donation.providerPaymentId))
  | initial {subscription : Subscription} (htype : event.eventType = "subscription.activated")
      (hmem : subscription ∈ db.subscriptions)
      (hsubscription : donation.subscriptionId = some subscription.id)
      (hrecurring : donation.isRecurring = true)
      (hid : event.payload.item "provider_payment_id" = .ok (.str subscription.providerSubscriptionId))
      (hpayment : donation.providerPaymentId = subscription.providerSubscriptionId ++ "_initial")
      (hdonor : subscription.donorId = donation.donorId) (hprovider : subscription.provider = .test)
      (hstatus : subscription.status = .active ∨ subscription.status = .cancelled)

-- What holds of an event and of the donation that was recorded with it.
structure Booked (db : Db) (event : WebhookEvent) (donation : Donation) : Prop where
  payload : donation.rawPayload = event.payload
  eventId : event.payload.item "event_id" = .ok (.str event.providerEventId)
  processed : event.status = .processed ∧ event.attempts = 1 ∧ event.error = none
  succeeded : donation.status = .succeeded ∧ 0 < donation.amountMinor
  donor : ∃ row ∈ db.donors, row.id = donation.donorId
  pairs : Pairs db event donation

-- Events and donations of the test rail are booked in the same order.
def Balanced (db : Db) : Prop := List.Forall₂ (Booked db) db.testEvents db.donations

-- What the tables say about the test rail: its events and the donations
-- correspond one to one by their payload, and each pair is complete.
structure Corresponds (db : Db) : Prop where
  payloads : (db.donations.map Donation.rawPayload).Perm (db.testEvents.map WebhookEvent.payload)
  distinct : (db.donations.map Donation.rawPayload).Nodup
  events : ∀ event ∈ db.testEvents,
    event.status = .processed ∧ event.attempts = 1 ∧ event.error = none
  donations : ∀ donation ∈ db.donations, donation.status = .succeeded ∧ 0 < donation.amountMinor ∧
    ∃ donor ∈ db.donors, donor.id = donation.donorId
  pairs : ∀ event ∈ db.testEvents, ∀ donation ∈ db.donations,
    donation.rawPayload = event.payload → Pairs db event donation

section Books

variable {db : Db}

-- Every event on one side has its donation on the other.
theorem Balanced.event (h : Balanced db) {event : WebhookEvent} (hevent : event ∈ db.testEvents) :
    ∃ donation ∈ db.donations, Booked db event donation :=
  (FirstWins.exists_of_forall₂ h).1 event hevent

theorem Balanced.donation (h : Balanced db) {donation : Donation}
    (hdonation : donation ∈ db.donations) : ∃ event ∈ db.testEvents, Booked db event donation :=
  (FirstWins.exists_of_forall₂ h).2 donation hdonation

theorem Balanced.payloads (h : Balanced db) :
    db.donations.map Donation.rawPayload = db.testEvents.map WebhookEvent.payload := by
  unfold Balanced at h
  generalize db.testEvents = events, db.donations = donations at h
  induction h with
  | nil => rfl
  | cons hbooked hrest ih => rw [List.map_cons, List.map_cons, hbooked.payload, ih]

end Books

section Growth

variable {db : Db} {transaction : Transaction}

theorem Pairs.mono {event : WebhookEvent} {donation : Donation} (h : Pairs db event donation) :
    Pairs (db.applyAll transaction.stmts) event donation := by
  cases h with
  | payment htype hsubscription hrecurring hid => exact .payment htype hsubscription hrecurring hid
  | @initial subscription htype hmem hsubscription hrecurring hid hpayment hdonor hprovider hstatus =>
      have hrow := transaction.subscription_stays hmem
      refine .initial htype hrow ?_ hrecurring ?_ ?_ ?_ ?_ ?_
      · rw [Subscription.setAll_id, hsubscription]
      · rw [Subscription.setAll_providerSubscriptionId, hid]
      · rw [Subscription.setAll_providerSubscriptionId, hpayment]
      · rw [Subscription.setAll_donorId, hdonor]
      · rw [Subscription.setAll_provider, hprovider]
      · rcases Subscription.setAll_status_mem subscription
          (transaction.assignedTo subscription.id) with hsame | hset
        · rwa [← hsame] at hstatus
        · exact Transaction.status_assigned hset

theorem Booked.mono {event : WebhookEvent} {donation : Donation} (h : Booked db event donation) :
    Booked (db.applyAll transaction.stmts) event donation := by
  obtain ⟨row, hrow, hid⟩ := h.donor
  have hheld : db.holds (.insertDonor row) := ⟨[], hrow⟩
  obtain ⟨columns, hrow'⟩ := Db.holds_applyAll hheld transaction.stmts
  exact ⟨h.payload, h.eventId, h.processed, h.succeeded,
    ⟨_, hrow', (Donor.setAll_id row columns).trans hid⟩, h.pairs.mono⟩

-- A payment appends its event, already processed, and its donation.
theorem applyAll_settlement {x : Settlement} {d : Donation}
    (hsettlement : transaction.settlement = some x) (hd : x.donation = some d)
    (hevent : x.event.Fresh) (hfresh : ∀ event ∈ db.webhookEvents, event.id ≠ x.event.id) :
    (db.applyAll transaction.stmts).donations = db.donations ++ [d] ∧
      (db.applyAll transaction.stmts).webhookEvents = db.webhookEvents ++
        [{ x.event with processedAt := some x.time, status := .processed, attempts := 1 }] := by
  have hold : db.webhookEvents.map (fun row => row.setAll (transaction.markedOn row.id)) =
      db.webhookEvents := by
    refine (List.map_congr_left fun event hmem => ?_).trans (List.map_id' _)
    simp [Transaction.markedOn, hsettlement, hfresh event hmem]
  refine ⟨?_, ?_⟩
  · rw [transaction.donations_applyAll]
    simp [Transaction.booked, hsettlement, hd]
  · rw [transaction.webhookEvents_applyAll, hold, ← Ledger.processed_row x.time hevent]
    simp [Transaction.received, hsettlement]

-- Every other transaction leaves the donations and the events of the test rail alone.
theorem applyAll_unsettled (hsettlement : transaction.settlement = none)
    (hreceive : ∀ event, transaction = .receive (some event) → event.provider ≠ "test")
    (hprocess : ∀ event time, transaction = .process event time →
      ∀ row ∈ db.webhookEvents, row.id = event.id → row.provider ≠ "test") :
    (db.applyAll transaction.stmts).donations = db.donations ∧
      (db.applyAll transaction.stmts).testEvents = db.testEvents := by
  refine ⟨?_, ?_⟩
  · rw [transaction.donations_applyAll]
    simp [Transaction.booked, hsettlement]
  have hreceived : transaction.received.filter (fun event => event.provider = "test") = [] := by
    refine List.filter_eq_nil_iff.mpr fun event hevent => ?_
    cases transaction with
    | receive received =>
        cases received with
        | none => cases hevent
        | some event' =>
            rw [List.mem_singleton.mp hevent]
            simpa using hreceive event' rfl
    | _ => simp [Transaction.received, hsettlement] at hevent
  have hmarked : ∀ row ∈ db.testEvents, row.setAll (transaction.markedOn row.id) = row := by
    intro row hrow
    obtain ⟨hmem, htest⟩ := List.mem_filter.mp hrow
    cases transaction with
    | process event time =>
        have hid : row.id ≠ event.id := fun hid =>
          hprocess event time rfl row hmem hid (by simpa using htest)
        simp [Transaction.markedOn, hsettlement, hid]
    | _ => simp [Transaction.markedOn, hsettlement]
  unfold Db.testEvents
  rw [transaction.webhookEvents_applyAll, List.filter_append, hreceived, List.append_nil,
    List.filter_map]
  refine Eq.trans ?_ ((List.map_congr_left hmarked).trans (List.map_id' _))
  congr 1
  exact List.filter_congr fun row _ => by simp

end Growth

-- The subscription of a first payment is stored, and active, together with it.
theorem subscription_stored {db : Db} {step : DonorStep} {subscription : Subscription} {time : Time}
    {settlement : Option Settlement} (hstatus : subscription.status = .pending)
    (hat : subscription.startedAt = none) :
    { subscription with status := .active, startedAt := some time } ∈
      (db.applyAll
        (Transaction.subscribe step subscription (some ⟨time, settlement⟩)).stmts).subscriptions := by
  rw [Transaction.subscriptions_applyAll, ← Ledger.activated_row time hstatus hat]
  exact List.mem_append_right _ (List.mem_singleton_self _)

section Runs

variable [Platform] {pool pool' : ServicePool} {move : ServiceMove}

-- The donor of a gift is stored before it or together with it.
theorem DonorStep.From.held {world : World} {request : Request} {s : Session} {step : DonorStep}
    {payload : DonorPayload} {stmts : List Stmt} (hdonor : step.From payload s)
    (hgrounded : Grounded world request s)
    (hstmts : ∀ stmt ∈ step.stmts, stmt ∈ stmts) : (world.db.applyAll stmts).holds (.insertDonor step.row) := by
  rcases hdonor with ⟨-, hread⟩ | ⟨hnew, -⟩
  · exact Db.holds_applyAll (hgrounded.reads _ _ hread).1 stmts
  · exact Db.holds_applyAll_of_mem (hstmts _ (by simp [DonorStep.stmts, hnew]))

theorem donor_stored {world : World} {request : Request} {s : Session} {step : DonorStep}
    {payload : DonorPayload} {stmts : List Stmt} (hgrounded : Grounded world request s)
    (hdonor : step.From payload s) (hstmts : ∀ stmt ∈ step.stmts, stmt ∈ stmts) :
    ∃ row ∈ (world.db.applyAll stmts).donors, row.id = step.row.id := by
  obtain ⟨columns, hrow⟩ := hdonor.held hgrounded hstmts
  exact ⟨_, hrow, Donor.setAll_id _ _⟩

-- A payment that inserts its donation is booked by the transaction it is part of.
theorem booked_settlement {world : World} {request : Request} {s : Session}
    {transaction : Transaction} {x : Settlement} {d : Donation} (hgrounded : Grounded world request s)
    (hlicensed : Licensed request s transaction) (hx : transaction.settlement = some x)
    (hd : x.donation = some d) :
    Booked (world.db.applyAll transaction.stmts)
      { x.event with processedAt := some x.time, status := .processed, attempts := 1 } d := by
  obtain ⟨⟨id, completedAt⟩, -, rfl⟩ := Option.map_eq_some_iff.mp hd
  rcases hlicensed.settled hx with ⟨body, step, token, -, rfl, hdonor, -, hargs, hsynthetic⟩ |
    ⟨body, step, subscription, time, token, id, -, rfl, hdonor, -, hsubscription, hargs, hsynthetic⟩
  · obtain ⟨hfresh, -, htype, heventId, hid⟩ := hsynthetic.rows
    rw [hargs]
    refine ⟨rfl, heventId, ⟨rfl, rfl, hfresh.error⟩, ⟨rfl, body.amountMinor_pos⟩, ?_, ?_⟩
    · exact donor_stored hgrounded hdonor fun stmt hstmt => List.mem_append_left _ hstmt
    · exact .payment htype rfl rfl hid
  · obtain ⟨hfresh, -, htype, heventId, hid⟩ := hsynthetic.rows
    rw [hargs]
    refine ⟨rfl, heventId, ⟨rfl, rfl, hfresh.error⟩, ⟨rfl, body.amountMinor_pos⟩, ?_, ?_⟩
    · exact donor_stored hgrounded hdonor fun stmt hstmt =>
        List.mem_append_left _ (List.mem_append_left _ hstmt)
    · subst hsubscription
      exact .initial htype (subscription_stored rfl rfl) rfl rfl hid rfl rfl rfl (.inl rfl)

-- The rows that a delivery finds under the id of its event are its own.
theorem delivered_row {request : Request} {s : Session} {db : Db} {event : WebhookEvent} {time : Time}
    (hkeys : db.keys.Nodup) (hkept : ∀ stmt ∈ s.committed, db.holds stmt)
    (hready : Ready request s (.process event time)) :
    ∀ row ∈ db.webhookEvents, row.id = event.id → row.provider ≠ "test" := by
  intro row hrow hid
  obtain ⟨columns, hevent⟩ := hkept (.insertWebhookEvent event) (by
    rw [hready.committed]
    exact List.mem_cons_self)
  have hsame : row = event.setAll columns := by
    have hkey (row : WebhookEvent) : .webhookEvent row.id ∈ row.keys := List.mem_cons_self
    refine Db.row_unique (Db.nodup_webhookEvents hkeys) hrow hevent (hkey row) ?_
    rw [hid, ← WebhookEvent.setAll_id event columns]
    exact hkey _
  rw [hsame, WebhookEvent.setAll_provider]
  cases hready.licensed with
  | process hrequest => exact delivery_provider hrequest

theorem Balanced.step (h : Balanced pool.shared.db) (hconsistent : Consistent pool)
    (hminted : Minted pool) (hproper : ∀ t ∈ pool.threads, Proper t)
    (hmove : service.Step pool move pool') : Balanced pool'.shared.db := by
  rcases db_step hproper hmove with hquiet | ⟨i, t, transaction, -, hcommits⟩
  · exact hquiet.db ▸ h
  have ht := hcommits.mem
  have hready := hcommits.ready
  have hgrounded := hconsistent.grounded t ht
  have hgrown : List.Forall₂ (Booked (pool.shared.db.applyAll transaction.stmts))
      pool.shared.db.testEvents pool.shared.db.donations := h.imp fun _ _ => Booked.mono
  rw [hcommits.db]
  cases hsettlement : transaction.settlement with
  | some x =>
      have hsynthetic : ∃ eventType subject, x.Synthetic eventType subject t.loc := by
        rcases hready.licensed.settled hsettlement with ⟨_, _, _, -, -, -, -, -, hx⟩ |
          ⟨_, _, _, _, _, _, -, -, -, -, -, -, hx⟩
        · exact ⟨_, _, hx⟩
        · exact ⟨_, _, hx⟩
      obtain ⟨eventType, subject, hsynthetic⟩ := hsynthetic
      obtain ⟨d, hd⟩ : ∃ d, x.donation = some d := by
        cases hinserted : x.inserted with
        | none =>
            obtain ⟨row, hread⟩ := hsynthetic.found hinserted
            exact (hminted.unread t ht _ row hread).elim
        | some inserted => exact ⟨_, by rw [Settlement.donation, hinserted]; rfl⟩
      have hfresh : ∀ event ∈ pool.shared.db.webhookEvents, event.id ≠ x.event.id :=
        fun event hevent => hconsistent.fresh_settlement hcommits hsettlement hevent
      obtain ⟨hreceived, hprovider, -⟩ := hsynthetic.rows
      obtain ⟨hdonations, hevents⟩ := applyAll_settlement hsettlement hd hreceived hfresh
      have hbooked := booked_settlement hgrounded hready.licensed hsettlement hd
      unfold Balanced
      rw [hdonations, Db.testEvents, hevents, List.filter_append,
        List.filter_cons_of_pos (by simp [hprovider])]
      exact List.rel_append hgrown (.cons hbooked .nil)
  | none =>
      obtain ⟨hdonations, hevents⟩ := applyAll_unsettled hsettlement
        (fun event hreceive => by
          subst hreceive
          cases hready.licensed with
          | receive hrequest hid htype hmissing => exact delivery_provider hrequest)
        (fun event time hprocess => by
          subst hprocess
          exact delivered_row hconsistent.keys_nodup hgrounded.kept hready)
      unfold Balanced
      rw [hdonations, hevents]
      exact hgrown

structure Accounted (pool : ServicePool) : Prop where
  consistent : Consistent pool
  minted : Minted pool
  balanced : Balanced pool.shared.db

theorem accounted_run (hrun : service.Run NewTokens ⟨{}, []⟩ pool) : Accounted pool :=
  (hrun.invariant_of_obeys handler_obeys ⟨.initial, .initial, .nil⟩ (by simp)
    fun _ _ _ h hproper hfresh hmove => ⟨h.consistent.step hproper hmove,
      h.minted.step hfresh hproper hmove, h.balanced.step h.consistent h.minted hproper hmove⟩).1

-- A payload carries the id of its event, so no two events share one.
theorem Balanced.payload_inj {db : Db} (h : Balanced db) (hkeys : db.keys.Nodup)
    {event event' : WebhookEvent} (hevent : event ∈ db.testEvents) (hevent' : event' ∈ db.testEvents)
    (heq : event.payload = event'.payload) : event = event' := by
  obtain ⟨_, -, hbooked⟩ := h.event hevent
  obtain ⟨_, -, hbooked'⟩ := h.event hevent'
  have hid := hbooked.eventId
  rw [heq, hbooked'.eventId] at hid
  have hsame : event'.providerEventId = event.providerEventId := by simpa using hid
  have hkey (row : WebhookEvent) : .providerEvent row.providerEventId ∈ row.keys := by
    simp [WebhookEvent.keys]
  refine Db.row_unique (Db.nodup_webhookEvents hkeys) (List.mem_filter.mp hevent).1
    (List.mem_filter.mp hevent').1 (hkey event) ?_
  exact hsame ▸ hkey event'

-- The correspondence holds in every reachable state.
theorem ledger_correspondence (hrun : service.Run NewTokens ⟨{}, []⟩ pool) :
    Corresponds pool.shared.db := by
  obtain ⟨hconsistent, -, hbalanced⟩ := accounted_run hrun
  have hkeys := hconsistent.keys_nodup
  refine ⟨?_, ?_, fun event hevent => ?_, fun donation hdonation => ?_,
    fun event hevent donation hdonation hpayload => ?_⟩
  · rw [hbalanced.payloads]
  · rw [hbalanced.payloads]
    refine List.Nodup.map_on (fun event hevent event' hevent' => ?_) ?_
    · exact hbalanced.payload_inj hkeys hevent hevent'
    · exact (Db.rows_nodup (Db.nodup_webhookEvents hkeys) fun _ => List.cons_ne_nil _ _).filter _
  · obtain ⟨_, -, hbooked⟩ := hbalanced.event hevent
    exact hbooked.processed
  · obtain ⟨_, -, hbooked⟩ := hbalanced.donation hdonation
    exact ⟨hbooked.succeeded.1, hbooked.succeeded.2, hbooked.donor⟩
  · obtain ⟨event', hevent', hbooked⟩ := hbalanced.donation hdonation
    have heq := hbalanced.payload_inj hkeys hevent' hevent (hbooked.payload.symm.trans hpayload)
    exact heq ▸ hbooked.pairs

end Runs

open Trial

-- A gift and a monthly gift of two donors, with their operations interleaved.
def twoGifts : List ServiceCue :=
  [.arrive (oneOff "test" "amina@example.org"), .arrive (subscription "test" "baraka@example.org")] ++
    turns 0 6 (reply 0) ++ turns 1 9 (reply 1) ++ turns 0 21 (reply 0) ++ turns 1 25 (reply 1) ++
    [.finish 0, .finish 1]

theorem ledger_correspondence_twoGifts : ∃ pool, service.Run NewTokens ⟨{}, []⟩ pool ∧
    pool.shared.db.donations.length = 2 ∧ Corresponds pool.shared.db := by
  obtain ⟨pool, hrun, hlength⟩ := exists_run NewTokens
    (fun pool => pool.shared.db.donations.length = 2) twoGifts (by decide +kernel)
  exact ⟨pool, hrun, hlength, ledger_correspondence hrun⟩

-- Two gifts that draw the same payment id before either of them is stored.
def sameToken : List ServiceCue :=
  [.arrive (oneOff "test" "amina@example.org"), .arrive (oneOff "test" "baraka@example.org")] ++
    turns 0 6 (reply 0) ++ turns 1 5 (reply 1) ++ turns 1 1 (reply 0) ++ turns 0 21 (reply 0) ++
    [.finish 0] ++ turns 1 17 (reply 1) ++ [.finish 1]

-- The second payment is taken for the first: its event is left without a donation.
theorem no_correspondence_sameToken : ∃ pool, service.Run UnstoredTokens ⟨{}, []⟩ pool ∧
    ¬ Corresponds pool.shared.db := by
  obtain ⟨pool, hrun, hlength⟩ := exists_run UnstoredTokens
    (fun pool => pool.shared.db.donations.length ≠ pool.shared.db.testEvents.length) sameToken
    (by decide +kernel)
  refine ⟨pool, hrun, fun h => hlength ?_⟩
  simpa using h.payloads.length_eq

end BridgeOfHope
