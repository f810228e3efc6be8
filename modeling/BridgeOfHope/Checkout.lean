import BridgeOfHope.Subscriptions.History

namespace BridgeOfHope

open Process

-- A checkout session on Stripe, from the request that opened it to the event
-- that reports its completion.

def giftEndpoint (mode : CheckoutMode) (body : GiveBody) : Endpoint :=
  match mode with
  | .payment => .oneOff body
  | .subscription => .subscription body

-- The id that a give request returns to the donor's browser.
def Response.reference (response : Response) : Option String :=
  match response.body with
  | .oneOff value => some value.providerPaymentId
  | .subscription value => some value.providerSubscriptionId
  | _ => none

def Completes (payload : Json) (sessionId : String) : Prop :=
  payload.item "type" = .ok (.str "checkout.session.completed") ∧
    (do (← (← payload.item "data").item "object").item "id") = .ok (.str sessionId)

instance (payload : Json) (sessionId : String) : Decidable (Completes payload sessionId) :=
  inferInstanceAs (Decidable (_ ∧ _))

-- The donation that pays a session carries its id or the payload of its event.
def PaysFor (sessionId : String) (payload : Json) (donation : Donation) : Prop :=
  donation.provider = .stripe ∧ (donation.providerPaymentId = sessionId ∨ donation.rawPayload = payload)

instance (sessionId : String) (payload : Json) : DecidablePred (PaysFor sessionId payload) :=
  fun _ => inferInstanceAs (Decidable (_ ∧ _))

-- What the ledger owes for a completed session.
structure LedgerEffect (db : Db) (mode : CheckoutMode) (body : GiveBody) (sessionId : String)
    (payload : Json) : Prop where
  donation : ∃ donation, db.donations.filter (fun d => PaysFor sessionId payload d) = [donation] ∧
    donation.amountMinor = body.amountMinor ∧ donation.currency = body.currency
  active : mode = .subscription → ∃ row ∈ db.subscriptions, row.provider = .stripe ∧
    row.providerSubscriptionId = sessionId ∧ row.status = .active

section Runs

variable [Platform] {pool : ServicePool}

-- The session was opened by a give request that answered with its id, and a
-- verified event that reports its completion has been processed.
def Settled (pool : ServicePool) (mode : CheckoutMode) (body : GiveBody) (sessionId : String)
    (payload : Json) : Prop :=
  (∃ t ∈ pool.threads, t.req.endpoint = giftEndpoint mode body ∧ body.provider = "stripe" ∧
    t.answer.bind Response.reference = some sessionId) ∧
  Completes payload sessionId ∧
  ∃ t ∈ pool.threads, ∃ args ∈ t.req.delivery, args.provider = "stripe" ∧ args.payload = payload ∧
    ∃ row ∈ pool.shared.db.webhookEvents, .str row.providerEventId = args.providerEventId ∧
      row.status = .processed

instance (pool : ServicePool) (mode : CheckoutMode) (body : GiveBody) (sessionId : String)
    (payload : Json) : Decidable (Settled pool mode body sessionId payload) :=
  inferInstanceAs (Decidable (_ ∧ _ ∧ _))

-- Money that came in on Stripe is nowhere in the ledger.
structure Unbooked (db : Db) : Prop where
  donations : ∀ donation ∈ db.donations, donation.provider = .test
  subscriptions : ∀ row ∈ db.subscriptions,
    row.provider = .test ∨ row.status = .pending ∨ row.status = .cancelled

theorem Licensed.booked_provider {request : Request} {s : Session} {transaction : Transaction}
    (h : Licensed request s transaction) {donation : Donation} (hd : donation ∈ transaction.booked) :
    donation.provider = .test := by
  obtain ⟨x, hx, hdonation⟩ := Option.bind_eq_some_iff.mp (Option.mem_toList.mp hd)
  obtain ⟨⟨id, completedAt⟩, -, rfl⟩ := Option.map_eq_some_iff.mp hdonation
  rcases h.settled hx with ⟨_, _, _, -, -, -, -, hargs, -⟩ | ⟨_, _, _, _, _, _, -, -, -, -, -, hargs, -⟩
  · rw [hargs]
    rfl
  · rw [hargs]
    rfl

theorem Licensed.opened_status {request : Request} {s : Session} {transaction : Transaction}
    (h : Licensed request s transaction) {row : Subscription} (hrow : row ∈ transaction.opened) :
    row.provider = .test ∨ row.status = .pending := by
  cases h with
  | @subscribe body step rail psid id subscription activation hrequest hdonor hsubscription hopened
      hactive hsettled =>
      cases activation with
      | none =>
          rw [List.mem_singleton.mp hrow, hsubscription]
          exact .inr rfl
      | some a =>
          have hrail : rail = .test := hactive.mp rfl
          rw [List.mem_singleton.mp hrow, Subscription.setAll_provider, hsubscription]
          exact .inl hrail
  | _ => cases hrow

theorem Unbooked.step {pool' : ServicePool} {move : ServiceMove} (h : Unbooked pool.shared.db)
    (hconsistent : Consistent pool) (hproper : ∀ t ∈ pool.threads, Proper t)
    (hmove : service.Step pool move pool') : Unbooked pool'.shared.db := by
  rcases db_step hproper hmove with hquiet | ⟨i, t, transaction, -, hcommits⟩
  · exact hquiet.db ▸ h
  have hlicensed := hcommits.ready.licensed
  refine ⟨fun donation hd => ?_, fun row hrow => ?_⟩
  · rw [hcommits.db, transaction.donations_applyAll] at hd
    exact (List.mem_append.mp hd).elim (h.donations donation) hlicensed.booked_provider
  · cases subscription_step hconsistent hcommits hrow with
    | kept hrow => exact h.subscriptions row hrow
    | opened hrow => exact (hlicensed.opened_status hrow).imp_right .inl
    | @changed row₀ _ _ hrow₀ _ _ hrow =>
        rw [hrow]
        exact h.subscriptions row₀ hrow₀
    | cancelled _ _ _ _ hstatus => exact .inr (.inr hstatus)

theorem unbooked_run {allow : ServicePool → ServiceMove → Prop}
    (hrun : service.Run allow ⟨{}, []⟩ pool) : Unbooked pool.shared.db := by
  have h := hrun.invariant_of_obeys (I := fun pool => Consistent pool ∧ Unbooked pool.shared.db)
    handler_obeys ⟨.initial, by simp, by simp⟩ (by simp) fun _ _ _ h hproper _ hmove =>
      ⟨h.1.step hproper hmove, h.2.step h.1 hproper hmove⟩
  exact h.1.2

-- Processing a completion records no donation and activates nothing, in any run.
theorem completion_never_booked {allow : ServicePool → ServiceMove → Prop}
    (hrun : service.Run allow ⟨{}, []⟩ pool) {mode : CheckoutMode} {body : GiveBody}
    {sessionId : String} {payload : Json} (_ : Settled pool mode body sessionId payload) :
    (∀ donation ∈ pool.shared.db.donations, ¬ PaysFor sessionId payload donation) ∧
      (∀ row ∈ pool.shared.db.subscriptions, row.provider = .stripe → row.status ≠ .active) ∧
      ¬ LedgerEffect pool.shared.db mode body sessionId payload := by
  have hunbooked := unbooked_run hrun
  have hpays : ∀ donation ∈ pool.shared.db.donations, ¬ PaysFor sessionId payload donation := by
    rintro donation hdonation ⟨hstripe, -⟩
    cases (hunbooked.donations donation hdonation).symm.trans hstripe
  refine ⟨hpays, fun row hrow hstripe hactive => ?_, fun heffect => ?_⟩
  · have := hunbooked.subscriptions row hrow
    simp [hstripe, hactive] at this
  · obtain ⟨donation, hfilter, -⟩ := heffect.donation
    have hmem : donation ∈ pool.shared.db.donations.filter fun d => PaysFor sessionId payload d :=
      hfilter ▸ List.mem_singleton_self donation
    obtain ⟨hdonation, h⟩ := List.mem_filter.mp hmem
    exact hpays donation hdonation (of_decide_eq_true h)

end Runs

open Trial

-- A give request opens a session on Stripe, and Stripe reports its completion.
def completedCheckout (request : Request) (operations : ℕ) : List ServiceCue :=
  [.arrive request] ++ turns 0 operations (reply 0) ++ [.finish 0, .arrive delivery] ++
    turns 1 13 (reply 1) ++ [.finish 1]

theorem completion_never_booked_monthly : ∃ pool, service.Run (fun _ _ => True) ⟨{}, []⟩ pool ∧
    Settled pool .subscription (giveBody "stripe" "amina@example.org") "cs_test_a1" eventJson ∧
    ¬ LedgerEffect pool.shared.db .subscription (giveBody "stripe" "amina@example.org") "cs_test_a1"
      eventJson := by
  obtain ⟨pool, hrun, hsettled⟩ := exists_run (fun _ _ => True)
    (fun pool => Settled pool .subscription (giveBody "stripe" "amina@example.org") "cs_test_a1" eventJson)
    (completedCheckout (subscription "stripe" "amina@example.org") 11) (by decide +kernel)
  exact ⟨pool, hrun, hsettled, (completion_never_booked hrun hsettled).2.2⟩

-- A gift of 25.00 USD: Stripe has the money, the event is processed, and there is no donation.
theorem completed_gift_without_donation : ∃ pool, service.Run (fun _ _ => True) ⟨{}, []⟩ pool ∧
    Settled pool .payment (giveBody "stripe" "amina@example.org") "cs_test_a1" eventJson ∧
    ¬ LedgerEffect pool.shared.db .payment (giveBody "stripe" "amina@example.org") "cs_test_a1"
      eventJson := by
  obtain ⟨pool, hrun, hsettled, hnone⟩ := exists_run (fun _ _ => True)
    (fun pool => Settled pool .payment (giveBody "stripe" "amina@example.org") "cs_test_a1" eventJson ∧
      pool.shared.db.donations = [])
    (completedCheckout (oneOff "stripe" "amina@example.org") 8) (by decide +kernel)
  refine ⟨pool, hrun, hsettled, fun heffect => ?_⟩
  obtain ⟨donation, hfilter, -⟩ := heffect.donation
  simp [hnone] at hfilter

end BridgeOfHope
