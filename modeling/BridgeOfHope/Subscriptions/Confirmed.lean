import BridgeOfHope.Instructions
import BridgeOfHope.Subscriptions.OneClick

namespace BridgeOfHope

open Process Payments

-- What a confirmed cancellation is worth to the rail. The rail is told once, before
-- the confirmation, and nobody comes back to the subscription after it.

section Runs

variable [Platform] {pool pool' : ServicePool}

-- The rails whose subscriptions can be opened at all.
theorem Opened.rail {s : Session} {sub : Subscription} (h : Opened s sub) :
    sub.provider = .test ∨ sub.provider = .stripe := by
  unfold Opened at h
  split at h
  · next hrail => exact .inl hrail
  · next hrail => exact .inr hrail
  · exact h.elim

theorem stored_rail {allow : ServicePool → ServiceMove → Prop} (hrun : service.Run allow ⟨{}, []⟩ pool)
    {row : Subscription} (hrow : row ∈ pool.shared.db.subscriptions) :
    row.provider = .test ∨ row.provider = .stripe := by
  obtain ⟨t, -, sub, columns, hopened, rfl, -⟩ := sourced_run hrun hrow
  rw [Subscription.setAll_provider]
  exact hopened.rail

-- A request looks for open subscriptions before it writes, so it sees the committed ones.
theorem selected_open (hproper : ∀ t ∈ pool.threads, Proper t) {i : ℕ} {donorId : Uuid}
    {rows : List Subscription}
    (hmove : service.Step pool (.act i (.query (.openSubscriptions donorId)) (.ok rows)) pool')
    {row : Subscription}
    (hrow : row ∈ rows) : row ∈ (Query.openSubscriptions donorId).select pool.shared.db := by
  cases hmove with
  | @act shared threads i request s op next answer hthread hanswer =>
      obtain ⟨-, hflushed, -⟩ := permits_of_issues hproper ⟨hthread, _, rfl⟩
      have henabled : enabled shared (threads.map Thread.loc) s
          (.query (.openSubscriptions donorId)) (.ok rows) := hanswer
      have hview : s.view shared.db = shared.db := by
        have hnone : s.flushed = [] := hflushed
        simp [Session.view, hnone]
      exact hview ▸ henabled.2.subset hrow

theorem Db.Cancelled.not_selected {db : Db} {id donorId : Uuid} (h : db.Cancelled id) (hunique : db.keys.Nodup)
    {row : Subscription} (hrow : row ∈ (Query.openSubscriptions donorId).select db) : row.id ≠ id := by
  obtain ⟨cancelled, hmem, hid, hstatus⟩ := h
  obtain ⟨hstored, -, hopen⟩ := mem_openSubscriptions.mp hrow
  intro hsame
  rw [Db.subscription_unique hunique hstored hmem (hsame.trans hid.symm)] at hopen
  exact hopen hstatus

-- From then on the row is cancelled, and no request gets to see it as an open one.
structure Closed (pool : ServicePool) (id : Uuid) : Prop where
  cancelled : pool.shared.db.Cancelled id
  unselected : ∀ i donorId rows pool',
    service.Step pool (.act i (.query (.openSubscriptions donorId)) (.ok rows)) pool' →
    ∀ row ∈ rows, row.id ≠ id

theorem closed_run {allow : ServicePool → ServiceMove → Prop} {id : Uuid} (hconsistent : Consistent pool)
    (hproper : ∀ t ∈ pool.threads, Proper t) (hcancelled : pool.shared.db.Cancelled id)
    (hlater : service.Run allow pool pool') : Closed pool' id := by
  obtain ⟨⟨hconsistent', hcancelled'⟩, hproper'⟩ := hlater.invariant_of_obeys
    (I := fun pool => Consistent pool ∧ pool.shared.db.Cancelled id) handler_obeys
      ⟨hconsistent, hcancelled⟩ hproper
    fun _ _ _ h hproper _ hmove => ⟨h.1.step hproper hmove, h.2.step h.1 hproper hmove⟩
  refine ⟨hcancelled', fun i donorId rows pool'' hmove row hrow => ?_⟩
  exact hcancelled'.not_selected hconsistent'.keys_nodup (selected_open hproper' hmove hrow)

-- How the rail of the subscription was told by the request.
def RailTold (pool : ServicePool) (t : ServiceThread) (sub : Subscription) : Prop :=
  sub.provider = .test ∧ .testCancelled sub.providerSubscriptionId ∈ pool.shared.rails ∨
    sub.provider = .stripe ∧ ∀ built, StripeProvider.build t.req.settings.settings = .ok built →
      ∃ answer, ⟨.stripeDelete sub.providerSubscriptionId, answer⟩ ∈ t.loc.past ∧
        (answer = .ok () → .stripeDeleted sub.providerSubscriptionId ∈ pool.shared.rails)

theorem Told.railTold {allow : ServicePool → ServiceMove → Prop} (hrun : service.Run allow ⟨{}, []⟩ pool)
    {t : ServiceThread} (ht : t ∈ pool.threads) {sub : Subscription}
    (h : Told t.req.settings.settings sub t.loc)
    (hrail : sub.provider = .test ∨ sub.provider = .stripe) : RailTold pool t sub := by
  have hfaithful := faithful_run hrun
  unfold Told at h
  rcases hrail with hrail | hrail
  · simp only [hrail] at h
    exact .inl ⟨hrail, (hfaithful _).mpr ⟨t, ht, _, h, rfl⟩⟩
  · refine .inr ⟨hrail, fun built hbuilt => ?_⟩
    simp only [hrail, hbuilt] at h
    obtain ⟨answer, hcall⟩ := h
    refine ⟨answer, hcall, ?_⟩
    rintro rfl
    exact (hfaithful _).mpr ⟨t, ht, _, hcall, rfl⟩

theorem confirmed_cancellation {allow : ServicePool → ServiceMove → Prop}
    (hrun : service.Run allow ⟨{}, []⟩ pool) {t : ServiceThread} (ht : t ∈ pool.threads) {token : String}
    (hrequest : t.req.endpoint = .manageDelete token) (hok : response t = some ⟨200, .status "cancelled"⟩) :
    ∃ sub, t.loc.Read (.openSubscriptions sub.donorId) sub ∧ sub.status ≠ .cancelled ∧ RailTold pool t sub ∧
      ∀ pool', service.Run (fun _ _ => True) pool pool' → Closed pool' sub.id := by
  obtain ⟨hconsistent, hproper⟩ := consistent_run hrun
  have hanswer : t.answer = some ⟨200, .status "cancelled"⟩ := by
    unfold response at hok
    split at hok
    · next out hphase =>
        rw [result_of_status (Option.some.inj hok)] at hphase
        simp [Thread.answer, hphase]
    · cases hok
  obtain ⟨s, hloc, hconcludes⟩ := proper_answer (hproper t ht) hanswer
  obtain ⟨-, -, hend⟩ := hconcludes
  rw [hrequest] at hend
  obtain ⟨-, sub, time, hlicensed, hcommitted, htold, -⟩ := hend
  cases hlicensed with
  | cancel _ _ hread hopen =>
      have hread' : t.loc.Read (.openSubscriptions sub.donorId) sub := by
        rw [hloc]
        exact hread
      obtain ⟨⟨columns, hstored⟩, -⟩ := (hconsistent.grounded t ht).reads _ _ hread'
      have hrail : sub.provider = .test ∨ sub.provider = .stripe := by
        have := stored_rail hrun hstored
        rwa [show (subscriptionTable.set sub columns).provider =
          sub.provider from Subscription.setAll_provider _ _] at this
      have htold' : Told t.req.settings.settings sub t.loc := by
        rw [hloc]
        exact htold
      have hstmt : .updateSubscription sub.id (sub.changes
          (Ledger.cancelledColumns (some Subscriptions.cancelReason) time)) ∈ t.loc.committed := by
        rw [hloc]
        show _ ∈ s.committed
        rw [hcommitted]
        exact List.mem_cons_self
      have hcancelled := cancelled_run hrun ht hstmt (Subscription.cancels hopen)
      exact ⟨sub, hread', hopen, htold'.railTold hrun ht hrail,
        fun pool' hlater => closed_run hconsistent hproper hcancelled hlater⟩

end Runs

open Trial

-- Everything goes well, but the rail cannot be reached to cancel.
def railDown (n : ℕ) (world : World) (s : Session) : (op : Op) → Ans op
  | .stripeDelete _ => .error ⟨.other, "Connection error"⟩
  | op => reply n world s op

def stripeMonthly : List ServiceCue :=
  [.arrive (subscription "stripe" "amina@example.org")] ++ turns 0 11 (reply 0) ++ [.finish 0]

theorem confirmed_cancellation_told : ∃ pool, service.Run (fun _ _ => True) ⟨{}, []⟩ pool ∧
    ∃ t ∈ pool.threads, ∃ sub, sub.status ≠ .cancelled ∧ RailTold pool t sub ∧ Closed pool sub.id := by
  obtain ⟨pool, hrun, t, ht, hrequest, hok⟩ := exists_run (fun _ _ => True)
    (fun pool => ∃ t ∈ pool.threads, t.req.endpoint = .manageDelete manageToken ∧
      response t = some ⟨200, .status "cancelled"⟩)
    (oneMonthly ++ [.arrive manageDelete] ++ turns 1 12 (reply 1) ++ [.finish 1]) (by decide +kernel)
  obtain ⟨sub, -, hopen, htold, hlater⟩ := confirmed_cancellation hrun ht hrequest hok
  exact ⟨pool, hrun, t, ht, sub, hopen, htold, hlater pool .refl⟩

def monthlyCheckout : Checkout :=
  StripeProvider.checkout settings.settings .subscription "Monthly gift — Bridge of Hope"
    (Donations.gift (giveBody "stripe" "amina@example.org"))

-- The donor is told that the monthly gift is cancelled. Stripe has not been told, and never will be.
theorem cancelled_but_charged : ∃ pool, service.Run (fun _ _ => True) ⟨{}, []⟩ pool ∧
    (∃ t ∈ pool.threads, response t = some ⟨200, .status "cancelled"⟩ ∧
      t.loc.sent.map Mail.template = [.subscriptionCancelled]) ∧
    ∃ row ∈ pool.shared.db.subscriptions, row.provider = .stripe ∧
      .checkout monthlyCheckout row.providerSubscriptionId ∈ pool.shared.rails ∧
      .stripeDeleted row.providerSubscriptionId ∉ pool.shared.rails ∧
      ∀ pool', service.Run (fun _ _ => True) pool pool' → Closed pool' row.id := by
  obtain ⟨pool, hrun, hconfirmed, row, hrow, hcancelled, hstripe, hcheckout, hdeleted⟩ :=
    exists_run (fun _ _ => True)
    (fun pool => (∃ t ∈ pool.threads, response t = some ⟨200, .status "cancelled"⟩ ∧
        t.loc.sent.map Mail.template = [.subscriptionCancelled]) ∧
      ∃ row ∈ pool.shared.db.subscriptions, row.status = .cancelled ∧ row.provider = .stripe ∧
        .checkout monthlyCheckout row.providerSubscriptionId ∈ pool.shared.rails ∧
        .stripeDeleted row.providerSubscriptionId ∉ pool.shared.rails)
    (stripeMonthly ++ [.arrive manageDelete] ++ turns 1 12 (railDown 1) ++ [.finish 1]) (by decide +kernel)
  obtain ⟨hconsistent, hproper⟩ := consistent_run hrun
  have hlater : ∀ pool', service.Run (fun _ _ => True) pool pool' → Closed pool' row.id :=
    fun pool' hlater => closed_run hconsistent hproper ⟨row, hrow, rfl, hcancelled⟩ hlater
  exact ⟨pool, hrun, hconfirmed, row, hrow, hstripe, hcheckout, hdeleted, hlater⟩

end BridgeOfHope
