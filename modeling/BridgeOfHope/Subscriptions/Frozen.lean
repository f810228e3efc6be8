import BridgeOfHope.Process.Termination
import BridgeOfHope.Subscriptions.History
import BridgeOfHope.Subscriptions.Picks

namespace BridgeOfHope

open Process Donations

-- A cancelled subscription stays as it is, as long as no request that picked it
-- before is still at work when the cancellation is committed.

instance (id : Uuid) : (stmt : Stmt) → Decidable (stmt.Cancels id)
  | .updateSubscription target columns =>
      inferInstanceAs (Decidable (target = id ∧ .status .cancelled ∈ columns))
  | .insertDonor _ | .insertSubscription _ | .insertDonation _ | .insertWebhookEvent _
  | .insertDataRequest _ | .updateDonor _ _ | .updateWebhookEvent _ _ => isFalse fun h => h

section Runs

variable [Platform]

-- A manage request on its way to its commit.
def AtWork (t : ServiceThread) : Prop :=
  t.req.manages = true ∧ t.IsRunning ∧ t.loc.committed = []

instance (t : ServiceThread) : Decidable t.IsRunning :=
  match h : t.phase with
  | .running rest => isTrue ⟨rest, h⟩
  | .ended _ | .died => isFalse (by
      rintro ⟨rest, hrunning⟩
      cases h.symm.trans hrunning)

instance (t : ServiceThread) : Decidable (AtWork t) :=
  inferInstanceAs (Decidable (t.req.manages = true ∧ t.IsRunning ∧ t.loc.committed = []))

-- When a cancellation is committed, no other request that picked the row is at work.
def Exclusive (pool : ServicePool) : ServiceMove → Prop
  | .act i .commit (.ok _) => ∀ t ∈ pool.threads[i]?, ∀ u ∈ pool.threads.eraseIdx i,
      ∀ sub ∈ u.loc.picked, (∃ stmt ∈ t.loc.flushed, stmt.Cancels sub.id) → ¬ AtWork u
  | _ => True

instance (pool : ServicePool) : (move : ServiceMove) → Decidable (Exclusive pool move)
  | .act i op answer => match op, answer with
    | .commit, .ok _ => inferInstanceAs (Decidable (∀ t ∈ pool.threads[i]?, ∀ u ∈ pool.threads.eraseIdx i,
        ∀ sub ∈ u.loc.picked, (∃ stmt ∈ t.loc.flushed, stmt.Cancels sub.id) → ¬ AtWork u))
    | .commit, .error _ | .flush, _ | .query _, _ | .now, _ | .uuid7, _ | .tokenHex, _ | .push _, _
    | .stripeCheckout _, _ | .stripeDelete _, _ | .http _, _ | .record _, _ | .smtp _, _ | .log _, _ =>
        isTrue trivial
  | .arrive _ | .finish _ | .crash _ => isTrue trivial

variable {pool pool' : ServicePool} {move : ServiceMove}

-- Nobody at work has picked a cancelled row.
def Guarded (pool : ServicePool) : Prop :=
  ∀ row ∈ pool.shared.db.subscriptions, row.status = .cancelled →
    ∀ u ∈ pool.threads, ∀ sub ∈ u.loc.picked, sub.id = row.id → ¬ AtWork u

-- A request at work was at work before. It had picked its row, or it picks it now.
theorem picked_origin (hproper : ∀ t ∈ pool.threads, Proper t) (hmove : service.Step pool move pool') {k : ℕ}
    {u' : ServiceThread} (hk : pool'.threads[k]? = some u') (hwork : AtWork u') {sub : Subscription}
    (hsub : sub ∈ u'.loc.picked) :
    (∃ u, pool.threads[k]? = some u ∧ AtWork u ∧ sub ∈ u.loc.picked) ∨
      sub ∈ pool.shared.db.subscriptions ∧ sub.status ≠ .cancelled := by
  obtain ⟨hmanages, ⟨rest, hrunning⟩, hcommitted⟩ := hwork
  cases hmove.origin hk with
  | fresh _ hloc =>
      rw [hloc] at hsub
      cases hsub
  | still hthread => exact .inl ⟨u', hthread, ⟨hmanages, ⟨rest, hrunning⟩, hcommitted⟩, hsub⟩
  | finished _ _ _ hphase => exact absurd hrunning (hphase rest)
  | @acted t op ans _ hissues hanswer hreq hloc =>
      have henabled : enabled pool.shared (pool.threads.map Thread.loc) t.loc op ans := hanswer
      rw [hloc] at hsub hcommitted
      rcases Session.mem_picked_update hsub with hold | ⟨donorId, rows, hevent⟩
      · obtain ⟨hthread, next, hphase⟩ := hissues
        refine .inl ⟨t, hthread, ⟨hreq ▸ hmanages, ⟨_, hphase⟩, ?_⟩, hold⟩
        by_cases hcommit : (⟨op, ans⟩ : Event) = ⟨.commit, .ok ()⟩
        · cases hcommit
          exact (List.append_eq_nil_iff.mp hcommitted).1
        · rw [← Session.committed_update hcommit]
          exact hcommitted
      · cases hevent
        have hpermits := permits_of_issues hproper hissues
        obtain ⟨hmem, haccepts⟩ := mem_table hpermits henabled List.mem_cons_self
        have hopen : sub.donorId = donorId ∧ sub.status ≠ .cancelled := by
          simpa [Query.accepts] using haccepts
        exact .inr ⟨hmem, hopen.2⟩

-- A row that is inserted is not cancelled.
theorem Licensed.opened_open {request : Request} {s : Session} {transaction : Transaction}
    (h : Licensed request s transaction) {row : Subscription} (hrow : row ∈ transaction.opened) :
    row.status ≠ .cancelled := by
  cases h with
  | @subscribe body step rail psid id subscription activation hrequest hdonor hsubscription =>
      have hpending : subscription.status ≠ .cancelled := by
        intro hcancelled
        cases hsubscription ▸ hcancelled
      cases activation with
      | none =>
          rw [List.mem_singleton.mp hrow]
          exact hpending
      | some a =>
          rw [List.mem_singleton.mp hrow]
          rcases Subscription.setAll_status_mem subscription
            (subscription.changes (Ledger.activatedColumns subscription a.time)) with hsame | hset
          · rw [hsame]
            exact hpending
          · have hactive := (List.mem_filter.mp hset).1
            simp only [Ledger.activatedColumns, List.mem_cons, SubscriptionSet.status.injEq, reduceCtorEq,
              List.not_mem_nil, or_false] at hactive
            intro hcancelled
            cases hactive.symm.trans hcancelled
  | _ => cases hrow

theorem Guarded.step (h : Guarded pool) (hconsistent : Consistent pool) (hproper : ∀ t ∈ pool.threads, Proper t)
    (hallow : Exclusive pool move) (hmove : service.Step pool move pool') : Guarded pool' := by
  intro row' hrow' hcancelled u' hu' sub hsub hid hwork
  obtain ⟨k, hk⟩ := List.mem_iff_getElem?.mp hu'
  -- a row that was cancelled before is guarded already
  have hbefore (row : Subscription) (hrow : row ∈ pool.shared.db.subscriptions) (hsame : row.id = row'.id)
      (hstatus : row.status = .cancelled) : False := by
    rcases picked_origin hproper hmove hk hwork hsub with ⟨u, hu, hwork, hsub⟩ | ⟨hmem, hopen⟩
    · exact h row hrow hstatus u (List.mem_of_getElem? hu) sub hsub (hid.trans hsame.symm) hwork
    · have heq : sub = row := Db.subscription_unique hconsistent.keys_nodup hmem hrow (hid.trans hsame.symm)
      exact hopen (heq ▸ hstatus)
  rcases db_step hproper hmove with hquiet | ⟨i, t, transaction, rfl, hcommits⟩
  · exact hbefore row' (hquiet.db ▸ hrow') rfl hcancelled
  · cases subscription_step hconsistent hcommits hrow' with
    | kept hrow => exact hbefore row' hrow rfl hcancelled
    | opened hrow => exact hcommits.ready.licensed.opened_open hrow hcancelled
    | @changed row₀ _ _ hrow₀ _ _ hrow =>
        exact hbefore row₀ hrow₀ (by rw [hrow]) (by simpa [hrow] using hcancelled)
    | @cancelled row₀ subscription time hrow₀ htransaction hsame hrow _ =>
        cases htransaction
        by_cases hik : k = i
        · -- the request that commits is through with its work
          subst hik
          obtain ⟨t', hself, -, -, hcommitted⟩ := hcommits.self
          cases hk.symm.trans hself
          have hnone := hwork.2.2
          rw [hcommitted] at hnone
          cases hnone
        · have hold := hk
          rw [hcommits.other hik] at hold
          have herased : u' ∈ pool.threads.eraseIdx i := by
            refine List.mem_eraseIdx_iff_getElem?.mpr ⟨k, hik, hold⟩
          refine hallow t hcommits.issues.1 u' herased sub hsub ⟨.updateSubscription subscription.id
            (subscription.changes (Ledger.cancelledColumns (some Subscriptions.cancelReason) time)),
              ?_, ?_⟩ hwork
          · rw [hcommits.flushed]
            exact List.mem_cons_self
          · have hid' : sub.id = subscription.id := by
              rw [hid, hrow, Subscription.setAll_id, hsame]
            cases hcommits.ready.licensed with
            | cancel hrequest htoken hread hopen =>
                rw [hid']
                exact Subscription.cancels hopen

-- A manage request works on the subscription that it picked.
abbrev Aimed (t : ServiceThread) : Prop :=
  service.Obedient (fun request s op => request.manages = true → Aims s op) (fun _ _ _ => True) t

section Step

variable {i : ℕ} {t : ServiceThread} {transaction : Transaction} {row : Subscription}

theorem Guarded.spares (h : Guarded pool) (haimed : ∀ t ∈ pool.threads, Aimed t)
    (hcommits : Commits pool i t transaction pool') (hmanages : t.req.manages = true)
    (hearlier : transaction.earlier = []) {id : Uuid} {columns : List SubscriptionSet}
    (hstmt : .updateSubscription id columns ∈ transaction.stmts)
    (hrow : row ∈ pool.shared.db.subscriptions) (hcancelled : row.status = .cancelled) : row.id ≠ id := by
  intro hid
  have haims := (haimed t hcommits.mem).issued hcommits.issues hmanages
  have hpending : .updateSubscription id columns ∈ t.loc.pending := hcommits.ready.pending ▸ hstmt
  obtain ⟨sub, hsub, hpicked⟩ := haims.writes rfl id columns hpending
  obtain ⟨-, next, hphase⟩ := hcommits.issues
  exact h row hrow hcancelled t hcommits.mem sub hsub (hpicked.trans hid.symm)
    ⟨hmanages, ⟨_, hphase⟩, hcommits.ready.committed.trans hearlier⟩

theorem Guarded.stays (h : Guarded pool) (hconsistent : Consistent pool)
    (hproper : ∀ t ∈ pool.threads, Proper t)
    (haimed : ∀ t ∈ pool.threads, Aimed t) (hmove : service.Step pool move pool')
    (hrow : row ∈ pool.shared.db.subscriptions) (hcancelled : row.status = .cancelled) :
    row ∈ pool'.shared.db.subscriptions := by
  rcases db_step hproper hmove with hquiet | ⟨i, t, transaction, -, hcommits⟩
  · exact hquiet.db ▸ hrow
  · have hstays := transaction.subscription_stays hrow
    rw [← hcommits.db] at hstays
    rcases hcommits.assigned hconsistent hrow with hnone |
      ⟨subscription, amountMinor, htransaction, hid, -⟩ | ⟨subscription, time, htransaction, hid, -⟩
    · rwa [hnone, Subscription.setAll_nil] at hstays
    · cases htransaction
      cases hcommits.ready.licensed with
      | changeAmount hrequest _ _ =>
          have hmanages : t.req.manages = true := by simp [Request.manages, hrequest]
          exact absurd hid (h.spares haimed hcommits hmanages rfl List.mem_cons_self hrow hcancelled)
    · cases htransaction
      cases hcommits.ready.licensed with
      | cancel hrequest _ _ _ =>
          have hmanages : t.req.manages = true := by simp [Request.manages, hrequest]
          exact absurd hid (h.spares haimed hcommits hmanages rfl List.mem_cons_self hrow hcancelled)

-- The rail is not told again: the row with that id on that rail is the one
-- that the request has picked.
theorem Guarded.no_call (h : Guarded pool) (hconsistent : Consistent pool)
    (haimed : ∀ t ∈ pool.threads, Aimed t)
    {op : Op} (hissues : System.Issues pool i t op) (hmanages : t.req.manages = true)
    (hrow : row ∈ pool.shared.db.subscriptions) (hcancelled : row.status = .cancelled) : ¬ op.CallsOff row := by
  intro hcalls
  have ht := List.mem_of_getElem? hissues.1
  obtain ⟨hcommitted, sub, hsub, hrail, hid⟩ := ((haimed t ht).issued hissues hmanages).calls row hcalls
  obtain ⟨event, hevent, hpicked⟩ := List.mem_filterMap.mp hsub
  have hread : ∃ donorId, t.loc.Read (.openSubscriptions donorId) sub := by
    unfold Event.picked at hpicked
    split at hpicked
    · next donorId _ rows =>
        cases hpicked
        exact ⟨donorId, _, hevent, List.mem_cons_self⟩
    · cases hpicked
  obtain ⟨donorId, hread⟩ := hread
  obtain ⟨⟨columns, hstored⟩, -⟩ := (hconsistent.grounded t ht).reads _ _ hread
  have hsame : subscriptionTable.set sub columns = row := by
    refine Db.subscription_unique_rail hconsistent.keys_nodup hstored hrow ?_ ?_
    · exact (Subscription.setAll_provider sub columns).trans hrail
    · exact (Subscription.setAll_providerSubscriptionId sub columns).trans hid
  obtain ⟨-, next, hphase⟩ := hissues
  refine h row hrow hcancelled t ht sub hsub ?_ ⟨hmanages, ⟨_, hphase⟩, hcommitted⟩
  rw [← hsame]
  exact (Subscription.setAll_id sub columns).symm

theorem Guarded.no_mail (h : Guarded pool) (hproper : ∀ t ∈ pool.threads, Proper t) {op : Op}
    (hissues : System.Issues pool i t op) (hmanages : t.req.manages = true)
    (hrow : row ∈ pool.shared.db.subscriptions) (hcancelled : row.status = .cancelled) {mail : Mail}
    (hmail : op = .smtp mail ∨ op = .log mail) {sub : Subscription} (hsub : sub ∈ t.loc.picked) :
    sub.id ≠ row.id := by
  intro hid
  have hpermits := permits_of_issues hproper hissues
  have hready : ∃ transaction, Ready t.req t.loc transaction ∧ Announces t.req t.loc mail transaction := by
    rcases hmail with rfl | rfl
    · exact hpermits.2
    · exact hpermits.2
  obtain ⟨transaction, hready, hannounces⟩ := hready
  have hcommitted : t.loc.committed = [] := hready.committed.trans hannounces.earlier
  obtain ⟨hi, next, hphase⟩ := hissues
  exact h row hrow hcancelled t (List.mem_of_getElem? hi) sub hsub hid ⟨hmanages, ⟨_, hphase⟩, hcommitted⟩

end Step

theorem guarded_run {world : World} (hkeys : world.db.keys.Nodup)
    (hrun : service.Run Exclusive ⟨world, []⟩ pool) :
    (Consistent pool ∧ Guarded pool) ∧ (∀ t ∈ pool.threads, Proper t) ∧ ∀ t ∈ pool.threads, Aimed t := by
  have hobeys (request : Request) := (handler_obeys request).and (handler_aims request)
  have hinit : Consistent ⟨world, []⟩ := ⟨by simpa [entries] using hkeys, by simp⟩
  have h := hrun.invariant_of_obeys (I := fun pool => Consistent pool ∧ Guarded pool) hobeys
    ⟨hinit, by simp [Guarded]⟩ (by simp) fun pool move pool' h hall hallow hmove => ?_
  · exact ⟨h.1, fun t ht => (h.2 t ht).mono (fun _ _ _ h => h.1) fun _ _ _ h => h.1,
      fun t ht => (h.2 t ht).mono (fun _ _ _ h => h.2) fun _ _ _ h => h.2⟩
  · have hproper (t : ServiceThread) (ht : t ∈ pool.threads) : Proper t :=
      (hall t ht).mono (fun _ _ _ h => h.1) fun _ _ _ h => h.1
    exact ⟨h.1.step hproper hmove, h.2.step h.1 hproper hallow hmove⟩

-- The row stays, no request tells the rail, and none that picked it sends a mail.
structure Frozen (pool : ServicePool) (row : Subscription) : Prop where
  kept : row ∈ pool.shared.db.subscriptions
  quiet : ∀ i t op, System.Issues pool i t op → t.req.manages = true → ¬ op.CallsOff row ∧
    ∀ mail, op = .smtp mail ∨ op = .log mail → ∀ sub ∈ t.loc.picked, sub.id ≠ row.id

theorem cancelled_frozen {world : World} (hkeys : world.db.keys.Nodup)
    (hrun : service.Run Exclusive ⟨world, []⟩ pool) {row : Subscription}
    (hrow : row ∈ pool.shared.db.subscriptions) (hcancelled : row.status = .cancelled)
    (hrest : service.Run Exclusive pool pool') : Frozen pool' row := by
  have hkept : row ∈ pool'.shared.db.subscriptions := by
    induction hrest with
    | refl => exact hrow
    | @tail pool₁ pool₂ hreach hlast ih =>
        obtain ⟨move, -, hmove⟩ := hlast
        obtain ⟨⟨hconsistent, hguarded⟩, hproper, haimed⟩ := guarded_run hkeys (hrun.trans hreach)
        exact hguarded.stays hconsistent hproper haimed hmove ih hcancelled
  obtain ⟨⟨hconsistent, hguarded⟩, hproper, haimed⟩ := guarded_run hkeys (hrun.trans hrest)
  refine ⟨hkept, fun i t op hissues hmanages => ⟨?_, fun mail hmail sub hsub => ?_⟩⟩
  · exact hguarded.no_call hconsistent haimed hissues hmanages hkept hcancelled
  · exact hguarded.no_mail hproper hissues hmanages hkept hcancelled hmail hsub

end Runs

open Trial

def cancelledAlone : List ServiceCue :=
  [.arrive (subscription "test" "amina@example.org")] ++ turns 0 34 (reply 0) ++
    [.finish 0, .arrive manageDelete] ++ turns 1 12 (reply 1)

theorem cancelled_frozen_alone : ∃ pool row, service.Run Exclusive ⟨{}, []⟩ pool ∧
    row ∈ pool.shared.db.subscriptions ∧ row.status = .cancelled ∧ Frozen pool row := by
  obtain ⟨pool, hrun, row, hrow, hcancelled⟩ := exists_run Exclusive
    (fun pool => ∃ row ∈ pool.shared.db.subscriptions, row.status = .cancelled) cancelledAlone
      (by decide +kernel)
  exact ⟨pool, row, hrun, hrow, hcancelled, cancelled_frozen (by decide) hrun hrow hcancelled .refl⟩

-- Every operation goes well, a minute later.
def replyLater (n : ℕ) (world : World) (s : Session) : (op : Op) → Ans op
  | .now => clock + 60 * 1000000 + s.past.length
  | op => reply n world s op

-- Two cancellations and a change of the amount read the open row. Then they go
-- on one after the other.
def threeReaders : List ServiceCue :=
  [.arrive (subscription "test" "amina@example.org")] ++ turns 0 34 (reply 0) ++
    [.finish 0, .arrive manageDelete, .arrive manageDelete, .arrive managePatch] ++
    turns 1 3 (reply 1) ++ turns 2 3 (replyLater 2) ++ turns 3 3 (reply 3) ++ turns 1 9 (reply 1)

def cancellationMails (pool : ServicePool) : ℕ :=
  (pool.threads.flatMap fun t => t.loc.sent).countP fun mail => mail.template = .subscriptionCancelled

def staleCommits : List ServiceCue := turns 2 9 (replyLater 2) ++ turns 3 3 (reply 3)

theorem cancelled_row_changed : ∃ pool pool', service.Run (fun _ _ => True) ⟨{}, []⟩ pool ∧
    service.Run (fun _ _ => True) pool pool' ∧
    pool'.threads.tail.map Thread.req = [manageDelete, manageDelete, managePatch] ∧
    ∃ row ∈ pool.shared.db.subscriptions, row.status = .cancelled ∧
      ∃ row' ∈ pool'.shared.db.subscriptions, row'.id = row.id ∧ row'.amountMinor ≠ row.amountMinor ∧
        row'.cancelledAt ≠ row.cancelledAt ∧
        pool.shared.rails.count (.testCancelled row.providerSubscriptionId) = 1 ∧
        pool'.shared.rails.count (.testCancelled row.providerSubscriptionId) = 2 ∧
        cancellationMails pool = 1 ∧
        cancellationMails pool' = 2 := by
  obtain ⟨pool, hrun, row, hrow, hcancelled, hrails, hmails, hrest⟩ := exists_run (fun _ _ => True)
    (fun pool => ∃ row ∈ pool.shared.db.subscriptions, row.status = .cancelled ∧
      pool.shared.rails.count (.testCancelled row.providerSubscriptionId) = 1 ∧
      cancellationMails pool = 1 ∧
      (service.play (fun _ _ => True) pool staleCommits).any (fun pool' =>
        pool'.threads.tail.map Thread.req = [manageDelete, manageDelete, managePatch] ∧
        pool'.shared.rails.count (.testCancelled row.providerSubscriptionId) = 2 ∧
        cancellationMails pool' = 2 ∧
        ∃ row' ∈ pool'.shared.db.subscriptions, row'.id = row.id ∧ row'.amountMinor ≠ row.amountMinor ∧
          row'.cancelledAt ≠ row.cancelledAt) = true) threeReaders (by decide +kernel)
  obtain ⟨pool', hlater, hreqs, hrails', hmails', row', hrow', hid, hamount, hat⟩ :=
    System.exists_run staleCommits hrest
  exact ⟨pool, pool', hrun, hlater, hreqs, row, hrow, hcancelled, row', hrow', hid, hamount, hat, hrails,
    hrails', hmails, hmails'⟩

end BridgeOfHope
