import BridgeOfHope.Admin.Listings
import BridgeOfHope.Subscriptions.Confirmed
import BridgeOfHope.Subscriptions.Lifecycle

namespace BridgeOfHope

open Process Payments Donations Admin

-- What the rails leave in the ledger, and what the dashboard shows of it.

-- A subscription is started on the test rail, and on no other.
def Subscription.Settles (row : Subscription) : Prop :=
  row.provider = .test ∧ row.startedAt.isSome = true ∨ row.provider = .stripe ∧ row.startedAt = none

-- A gift on the test rail: a single one, or one of a monthly subscription there.
structure Donation.OnTestRail (subscriptions : List Subscription) (d : Donation) : Prop where
  provider : d.provider = .test
  status : d.status = .succeeded
  completedAt : d.completedAt.isSome = true
  subscription : d.subscriptionId = none ∧ d.isRecurring = false ∨
    d.isRecurring = true ∧ ∃ row ∈ subscriptions, d.subscriptionId = some row.id ∧ row.provider = .test ∧
      row.donorId = d.donorId ∧ row.currency = d.currency

theorem Subscription.Later.settles {row row' : Subscription} (h : row.Later row') (hsettles : row.Settles) :
    row'.Settles := by
  unfold Subscription.Settles at hsettles ⊢
  rw [h.provider, h.startedAt]
  exact hsettles

theorem Donation.OnTestRail.later {subscriptions subscriptions' : List Subscription} {d : Donation}
    (h : d.OnTestRail subscriptions)
    (hlater : ∀ row ∈ subscriptions, ∃ row' ∈ subscriptions', row.Later row') :
    d.OnTestRail subscriptions' where
  provider := h.provider
  status := h.status
  completedAt := h.completedAt
  subscription := by
    refine h.subscription.imp_right fun ⟨hrecurring, row, hrow, hid, hrail, hdonor, hcurrency⟩ => ?_
    obtain ⟨row', hrow', hstep⟩ := hlater row hrow
    exact ⟨hrecurring, row', hrow', hid.trans (congrArg some hstep.id.symm), hstep.provider.trans hrail,
      hstep.donorId.trans hdonor, hstep.currency.trans hcurrency⟩

theorem asked_succeeded {status : Option String} {r : Stamped Donation} (h : r.row.status = .succeeded) :
    Stamped.asked status r = true ↔ ∀ name ∈ status.filter Settings.given, name = "succeeded" := by
  have hvalue : r.row.status.value = "succeeded" := by rw [h]; rfl
  unfold Stamped.asked
  cases status.filter Settings.given <;> simp [hvalue, eq_comm]

section Runs

variable [Platform] {allow : ServicePool → ServiceMove → Prop} {pool pool' : ServicePool} {move : ServiceMove}

theorem settles_opened {request : Request} {s : Session} {transaction : Transaction}
    (h : Licensed request s transaction) {row : Subscription} (hrow : row ∈ transaction.opened) :
    row.Settles := by
  cases h with
  | @subscribe body step rail psid id subscription activation hrequest hdonor hsubscription hopened hactive =>
      cases activation with
      | none =>
          rw [List.mem_singleton.mp hrow]
          have hrail : rail ≠ .test := fun hrail => by cases hactive.mpr hrail
          subst hsubscription
          exact .inr ⟨hopened.rail.resolve_left hrail, rfl⟩
      | some a =>
          rw [List.mem_singleton.mp hrow]
          have hrail : rail = .test := hactive.mp rfl
          have hsound := Subscription.sound_activated body step.row.id rail psid id a.time
          subst hsubscription
          refine .inl ⟨?_, (hsound.active ?_).1⟩
          · rw [Subscription.setAll_provider]
            exact hrail
          · simp [newSubscription, Subscription.changes, Ledger.activatedColumns, Subscription.set,
              Subscription.setAll]
  | _ => cases hrow

theorem onTestRail_booked {request : Request} {s : Session} {transaction : Transaction}
    (h : Licensed request s transaction) {d : Donation} (hd : d ∈ transaction.booked) :
    d.OnTestRail transaction.opened := by
  obtain ⟨x, hx, hdonation⟩ := Option.bind_eq_some_iff.mp (Option.mem_toList.mp hd)
  obtain ⟨⟨id, completedAt⟩, -, rfl⟩ := Option.map_eq_some_iff.mp hdonation
  rcases h.settled hx with ⟨body, step, token, -, rfl, -, -, hargs, -⟩ |
    ⟨body, step, subscription, time, token, id', -, rfl, -, -, hsubscription, hargs, -⟩
  · exact ⟨by rw [hargs]; rfl, rfl, rfl, .inl (by rw [hargs]; exact ⟨rfl, rfl⟩)⟩
  · refine ⟨by rw [hargs]; rfl, rfl, rfl, .inr ⟨by rw [hargs]; rfl, _, List.mem_singleton_self _, ?_⟩⟩
    subst hsubscription
    rw [hargs]
    simp [DonationArgs.row, initialArgs, newSubscription, Subscription.changes, Ledger.activatedColumns,
      Subscription.set, Subscription.setAll]

structure TestRailOnly (pool : ServicePool) : Prop where
  subscriptions : ∀ row ∈ pool.shared.db.subscriptions, row.Settles
  donations : ∀ d ∈ pool.shared.db.donations, d.OnTestRail pool.shared.db.subscriptions

theorem TestRailOnly.step (h : TestRailOnly pool) (hlifecycle : Lifecycle pool) (hconsistent : Consistent pool)
    (hproper : ∀ t ∈ pool.threads, Proper t) (hmove : service.Step pool move pool') : TestRailOnly pool' := by
  rcases db_step hproper hmove with hquiet | ⟨i, t, transaction, -, hcommits⟩
  · exact ⟨hquiet.db ▸ h.subscriptions, hquiet.db ▸ h.donations⟩
  have hlicensed := hcommits.ready.licensed
  have hlater : ∀ row ∈ pool.shared.db.subscriptions,
      ∃ row' ∈ pool'.shared.db.subscriptions, row.Later row' := by
    intro row hrow
    rw [hcommits.db]
    exact ⟨_, transaction.subscription_stays hrow, (hlifecycle.row hconsistent hcommits hrow).2⟩
  refine ⟨fun row hrow => ?_, fun d hd => ?_⟩
  · rw [hcommits.db, transaction.subscriptions_applyAll] at hrow
    rcases List.mem_append.mp hrow with hold | hnew
    · obtain ⟨row₀, hrow₀, rfl⟩ := List.mem_map.mp hold
      exact (hlifecycle.row hconsistent hcommits hrow₀).2.settles (h.subscriptions row₀ hrow₀)
    · exact settles_opened hlicensed hnew
  · rw [hcommits.db, transaction.donations_applyAll] at hd
    rcases List.mem_append.mp hd with hold | hnew
    · exact (h.donations d hold).later hlater
    · refine (onTestRail_booked hlicensed hnew).later fun row hrow => ⟨row, ?_, .refl row⟩
      rw [hcommits.db, transaction.subscriptions_applyAll]
      exact List.mem_append_right _ hrow

theorem testRailOnly_run (hrun : service.Run allow ⟨{}, []⟩ pool) : TestRailOnly pool ∧ Lifecycle pool := by
  have hinvariant := hrun.invariant_of_obeys handler_obeys
    (I := fun pool => Consistent pool ∧ Lifecycle pool ∧ TestRailOnly pool)
    ⟨.initial, ⟨by simp, by simp⟩, ⟨by simp, by simp⟩⟩ (by simp)
    fun _ _ _ h hproper _ hmove =>
      ⟨h.1.step hproper hmove, h.2.1.step h.1 hproper hmove, h.2.2.step h.2.1 h.1 hproper hmove⟩
  exact ⟨hinvariant.1.2.2, hinvariant.1.2.1⟩

-- In every reachable state: only the test rail has started a subscription or
-- booked a gift. A subscription on Stripe waits, or is cancelled, and has no
-- gifts. So the dashboard lists no failed payment, and every donation is found
-- under `succeeded` and under no other status.
theorem only_test_rail_settles (hrun : service.Run allow ⟨{}, []⟩ pool) :
    (∀ row ∈ pool.shared.db.subscriptions,
      row.provider = .test ∧ (row.status = .active ∨ row.status = .cancelled) ∨
      row.provider = .stripe ∧ (row.status = .pending ∨ row.status = .cancelled) ∧
        ∀ d ∈ pool.shared.db.donations, d.subscriptionId ≠ some row.id) ∧
    (∀ d ∈ pool.shared.db.donations, d.OnTestRail pool.shared.db.subscriptions) ∧
    ∀ (table : List (Stamped Donation)) (scalars : Scalars (Stamped Donation)),
      table.map Stamped.row = pool.shared.db.donations → scalars.Reads table →
      (∀ page, failedPayments scalars = .ok page → page = []) ∧
      ∀ status page, listDonations scalars status none = .ok page →
        ∃ found, page = .json (found.map donationOut) ∧
          ((∀ name ∈ status.filter Settings.given, name = "succeeded") →
            Select.Latest Stamped.createdAt 1000 table found) ∧
          ((∃ name ∈ status.filter Settings.given, name ≠ "succeeded") → found = []) := by
  obtain ⟨⟨hsubscriptions, hdonations⟩, hlifecycle⟩ := testRailOnly_run hrun
  have hunique := (consistent_run hrun).1.keys_nodup
  refine ⟨fun row hrow => ?_, hdonations, fun table scalars htable hreads => ?_⟩
  · have hsound := hlifecycle.rows row hrow
    rcases hsubscriptions row hrow with ⟨hrail, hstarted⟩ | ⟨hrail, hstarted⟩
    · refine .inl ⟨hrail, hsound.status.resolve_left fun hpending => ?_⟩
      simp [(hsound.pending hpending).1] at hstarted
    · have hactive : row.status ≠ .active := fun hactive => by
        simpa [hstarted] using (hsound.active hactive).1
      refine .inr ⟨hrail, hsound.status.imp_right fun h => h.resolve_left hactive, fun d hd hid => ?_⟩
      rcases (hdonations d hd).subscription with ⟨hnone, -⟩ | ⟨-, row', hrow', hid', hrail', -⟩
      · cases hnone.symm.trans hid
      · have hsame : row' = row := Db.subscription_unique hunique hrow' hrow
          (Option.some.inj (hid'.symm.trans hid))
        rw [hsame, hrail] at hrail'
        cases hrail'
  · have hsucceeded : ∀ r ∈ table, r.row.status = .succeeded := fun r hr =>
      (hdonations r.row (htable ▸ List.mem_map_of_mem hr)).status
    constructor
    · intro page hpage
      unfold failedPayments at hpage
      cases hfound : scalars { keep := fun r => r.row.status = .failed, key := Stamped.createdAt } with
      | error error => simp [hfound, bind, Except.bind] at hpage
      | ok found =>
        simp only [hfound, bind, Except.bind, pure, Except.pure, Except.ok.injEq] at hpage
        rw [← hpage, List.map_eq_nil_iff, List.eq_nil_iff_forall_not_mem]
        intro r hr
        obtain ⟨hmem, hfailed⟩ := (hreads _ found hfound).mem hr
        simp [hsucceeded r hmem] at hfailed
    · intro status page hpage
      obtain ⟨found, hpages, hlatest⟩ := listDonations_found hreads hpage
      refine ⟨found, Except.ok.inj (hpage.symm.trans (hpages none)), fun hall =>
        ?_, fun ⟨name, hname, hother⟩ => ?_⟩
      · rwa [List.filter_eq_self.mpr fun r hr => (asked_succeeded (hsucceeded r hr)).mpr hall] at hlatest
      · refine List.eq_nil_iff_forall_not_mem.mpr fun r hr => ?_
        obtain ⟨hmem, hasked⟩ := List.mem_filter.mp (hlatest.subperm.subset hr)
        exact hother ((asked_succeeded (hsucceeded r hmem)).mp hasked name hname)

end Runs

open Trial

-- A monthly gift on Stripe, which waits, and a gift on the test rail, which the
-- dashboard lists.
def stripeAndGift : List ServiceCue :=
  stripeMonthly ++ [.arrive (oneOff "test" "amina@example.org")] ++ turns 1 24 (reply 1) ++ [.finish 1]

theorem only_test_rail_settles_listed : ∃ pool d, service.Run (fun _ _ => True) ⟨{}, []⟩ pool ∧
    (∃ row ∈ pool.shared.db.subscriptions, row.provider = .stripe ∧
      (row.status = .pending ∨ row.status = .cancelled) ∧
      ∀ d ∈ pool.shared.db.donations, d.subscriptionId ≠ some row.id) ∧
    pool.shared.db.donations = [d] ∧ d.OnTestRail pool.shared.db.subscriptions ∧
    let scalars : Scalars (Stamped Donation) := fun query => .ok (query.run [⟨d, clock⟩])
    failedPayments scalars = .ok [] ∧ listDonations scalars none none = .ok (.json [donationOut ⟨d, clock⟩]) ∧
      listDonations scalars (some "failed") none = .ok (.json []) := by
  obtain ⟨pool, hrun, hlength, row, hrow, hrail⟩ := exists_run (fun _ _ => True)
    (fun pool => pool.shared.db.donations.length = 1 ∧
      ∃ row ∈ pool.shared.db.subscriptions, row.provider = .stripe) stripeAndGift (by decide +kernel)
  obtain ⟨d, hdonations⟩ := List.length_eq_one_iff.mp hlength
  obtain ⟨hsubscriptions, hbooked, hlists⟩ := only_test_rail_settles hrun
  have hreads : Scalars.Reads (fun query => .ok (query.run [⟨d, clock⟩]))
      [(⟨d, clock⟩ : Stamped Donation)] := by
    rintro query rows h
    cases h
    exact query.answers_run _
  obtain ⟨hfailed, hlisted⟩ := hlists [⟨d, clock⟩] _ (by simp [hdonations]) hreads
  have hstripe : (row.status = .pending ∨ row.status = .cancelled) ∧
      ∀ d ∈ pool.shared.db.donations, d.subscriptionId ≠ some row.id := by
    rcases hsubscriptions row hrow with ⟨htest, -⟩ | ⟨-, hstripe⟩
    · cases hrail.symm.trans htest
    · exact hstripe
  refine ⟨pool, d, hrun, ⟨row, hrow, hrail, hstripe⟩, hdonations, hbooked d (by simp [hdonations]), ?_, ?_, ?_⟩
  · obtain ⟨page, hpage⟩ : ∃ page, failedPayments (fun query => .ok (query.run [⟨d, clock⟩])) = .ok page :=
      ⟨_, rfl⟩
    rw [hpage, hfailed page hpage]
  · obtain ⟨page, hpage⟩ : ∃ page, listDonations (fun query => .ok (query.run [⟨d, clock⟩])) none none =
      .ok page := ⟨_, rfl⟩
    obtain ⟨found, rfl, hall, -⟩ := hlisted none page hpage
    have hperm := (hall (by simp)).perm (by simp)
    rw [hpage, List.perm_singleton.mp hperm]
    rfl
  · obtain ⟨page, hpage⟩ : ∃ page,
      listDonations (fun query => .ok (query.run [⟨d, clock⟩])) (some "failed") none =
      .ok page := ⟨_, rfl⟩
    obtain ⟨found, rfl, -, hnone⟩ := hlisted (some "failed") page hpage
    rw [hpage, hnone ⟨"failed", rfl, by decide⟩]
    rfl

end BridgeOfHope
