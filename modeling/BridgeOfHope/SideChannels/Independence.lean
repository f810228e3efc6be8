import BridgeOfHope.SideChannels.Cancellations
import BridgeOfHope.SideChannels.Gifts

namespace BridgeOfHope

open Process

-- A request whose mail goes to the log does not depend on the side channels. One
-- that mails by SMTP does: when the mail server refuses, all of it is rolled back.

section Runs

variable [Platform] {pool : ServicePool}

-- Every stored subscription has its donor.
theorem donor_of_subscription {allow : ServicePool → ServiceMove → Prop}
    (hrun : service.Run allow ⟨{}, []⟩ pool)
    {row : Subscription} (hrow : row ∈ pool.shared.db.subscriptions) :
    ∃ donor ∈ pool.shared.db.donors, donor.id = row.donorId := by
  obtain ⟨⟨hconsistent, howned⟩, -⟩ := hrun.invariant_of_obeys handler_obeys
    (I := fun pool => Consistent pool ∧ Owned pool) ⟨.initial, by simp [Owned, Db.keys]⟩ (by simp)
    fun _ _ _ h hproper _ hmove => ⟨h.1.step hproper hmove, h.2.step hproper hmove⟩
  have hkey : Key.subscription row.id ∈ pool.shared.db.keys :=
    Db.mem_keys_of_subscription hrow (by simp [Subscription.keys])
  obtain ⟨t, ht, stmt, hstmt, hmem⟩ := howned _ hkey
  cases stmt with
  | insertSubscription sub =>
      have hid : row.id = sub.id := by simpa [Stmt.keys, Subscription.keys] using hmem
      have hgrounded := hconsistent.grounded t ht
      obtain ⟨columns, hstored⟩ := hgrounded.kept _ hstmt
      have hsame : row = sub.setAll columns :=
        Db.subscription_unique hconsistent.keys_nodup hrow hstored
          (hid.trans (Subscription.setAll_id sub columns).symm)
      rcases hgrounded.recorded with hnone | ⟨transaction, hcommitted, hlicensed⟩
      · rw [hnone] at hstmt
        cases hstmt
      · have hinserted : .insertSubscription sub ∈ transaction.stmts := by
          rw [hcommitted] at hstmt
          refine (List.mem_append.mp hstmt).resolve_left fun hearlier => ?_
          cases transaction <;> simp [Transaction.earlier] at hearlier
        obtain ⟨step, activation, rfl⟩ := Transaction.subscription_cases hinserted
        cases hlicensed with
        | subscribe hrequest hdonor hsubscription =>
            obtain ⟨donor, hmem, hdonorId, -⟩ := giver_stored hconsistent ht hdonor fun stmt hstep => by
              rw [hcommitted]
              exact List.mem_append_right _ (Transaction.mem_stmts_subscribe.mpr (.inl hstep))
            refine ⟨donor, hmem, ?_⟩
            rw [hdonorId, hsame, Subscription.setAll_donorId, hsubscription]
            rfl
  | _ => simp [Stmt.keys, Donor.keys, Donation.keys, WebhookEvent.keys, DataRequest.keys] at hmem

end Runs

section Served

variable [Platform] {world : World} {request : Request} {token : String} {state : World × Session}
  {result : Except Exn Response}

-- A cancellation writes nothing about donors, so it sees the ones that are stored.
structure Looking (world : World) (state : World × Session) : Prop where
  unshared : Unshared world state
  others : ∀ stmt ∈ state.2.committed ++ state.2.pending, stmt.onDonors = false
  reads : ∀ donorId rows, ⟨.query (.donorById donorId), .ok rows⟩ ∈ state.2.past →
    rows.Perm ((Query.donorById donorId).select world.db)

theorem Looking.step {secretKey : String} {op : Op} {ans : Ans op} (h : Looking world state)
    (hmanages : Manages secretKey token state.2 op) (hsound : service.alone.sound state op ans) :
    Looking world (service.alone.update state op ans) := by
  refine ⟨h.unshared.step op ans, fun stmt hstmt => ?_, fun donorId rows hread => ?_⟩
  · rcases List.mem_append.mp hstmt with hcommitted | hpending
    · by_cases hcommit : (⟨op, ans⟩ : Event) = ⟨.commit, .ok ()⟩
      · cases hcommit
        have hmem : stmt ∈ state.2.committed ++ state.2.flushed := hcommitted
        exact h.others stmt ((List.append_sublist_append_left _).mpr (List.sublist_append_left _ _)
          |>.subset hmem)
      · rw [show (service.alone.update state op ans).2.committed =
          _ from Session.committed_update hcommit] at hcommitted
        exact h.others stmt (List.mem_append_left _ hcommitted)
    · rcases Session.mem_pending_update hpending with hold | rfl
      · exact h.others stmt (List.mem_append_right _ hold)
      · cases hmanages with
        | tell _ _ houter _ => cases houter
        | assign => rfl
  · rcases List.mem_cons.mp hread with hnew | hold
    · cases hnew
      have hview : (state.2.view state.1.db).donors = world.db.donors := by
        have hdb : state.1.db = world.db.applyAll state.2.committed := h.unshared
        rw [Session.view, hdb, ← Db.applyAll_append, Db.donors_applyAll, List.filter_eq_nil_iff.mpr]
        · rfl
        · intro stmt hstmt
          rw [h.others stmt ((List.append_sublist_append_left _).mpr (List.sublist_append_left _ _)
            |>.subset hstmt)]
          simp
      have hselect : rows.Perm ((Query.donorById donorId).select (state.2.view state.1.db)) := hsound.2
      show rows.Perm (world.db.donors.filter (Query.donorById donorId).accepts)
      rw [← hview]
      exact hselect
    · exact h.reads donorId rows hold

theorem cancel_reads (hrequest : request.endpoint = .manageDelete token)
    (h : service.Serves world request state result)
    {donorId : Uuid} {rows : List Donor} (hread : ⟨.query (.donorById donorId), .ok rows⟩ ∈ state.2.past) :
    rows.Perm ((Query.donorById donorId).select world.db) := by
  have hmanages : request.manageToken = some token := by simp [Request.manageToken, hrequest]
  have hobeys : request.handler.Obeys service.alone
      (fun state op => Manages request.settings.settings.secretKey token state.2 op)
        (fun _ _ => True) (world, {}) :=
    System.obeys_alone (S := service) (handler_manages hmanages)
  have hlooking := Prog.Exec.invariant (Looking world) (fun _ _ _ h hop hsound => h.step hop hsound) hobeys h
    ⟨rfl, by simp [Session.pending], by simp⟩
  exact hlooking.reads donorId rows hread

variable {channels channels' : SideChannels} {state' : World × Session} {result' : Except Exn Response}

theorem cancelled_of_cancel {db : Db} {A : Uuid} {sub : Subscription}
    (hsub : sub ∈ (Query.openSubscriptions A).select db)
    (time : Time) : (db.applyAll (Transaction.cancel sub time).stmts).Cancelled sub.id ∧
      ∀ row ∈ (db.applyAll (Transaction.cancel sub time).stmts).subscriptions, row.id = sub.id →
        row.status = .cancelled := by
  obtain ⟨hstored, -, hopen⟩ := mem_openSubscriptions.mp hsub
  rw [Db.Cancelled, cancel_subscriptions]
  have hall : ∀ row ∈ db.subscriptions.map (fun row =>
      row.setAll (Transaction.assignedTo row.id (.cancel sub time))),
      row.id = sub.id → row.status = .cancelled := by
    intro row hrow hid
    obtain ⟨row₀, -, rfl⟩ := List.mem_map.mp hrow
    have hid₀ : row₀.id = sub.id := by simpa using hid
    rw [cancel_assigned, if_pos hid₀]
    exact Subscription.cancelled_status row₀ hopen
  have hid := Subscription.setAll_id sub (Transaction.assignedTo sub.id (.cancel sub time))
  exact ⟨⟨_, List.mem_map_of_mem hstored, hid, hall _ (List.mem_map_of_mem hstored) hid⟩, hall⟩

-- The cancellation is committed, and the donor is told if there is one.
theorem cancel_committed (hcourse : Course channels world request state result) {sub : Subscription}
    (hends : CancelEnds request.settings.settings sub state.2)
    (hmail : request.settings.settings.mailsBySmtp = false ∨ state.2.sent ≠ []) :
    ∃ time, state.1.db = world.db.applyAll (Transaction.cancel sub time).stmts := by
  cases hends with
  | committed time hcommitted _ => exact ⟨time, hcommitted ▸ serves_db hcourse.serves⟩
  | failed _ hcause =>
      rcases hcause with hbroken | ⟨hsmtp, hsent⟩
      · rw [hcourse.database] at hbroken
        cases hbroken
      · rcases hmail with hconsole | hmailed
        · rw [hconsole] at hsmtp
          cases hsmtp
        · exact absurd hsent hmailed

theorem cancel_cancels (hrequest : request.endpoint = .manageDelete token)
    (hmail : request.settings.settings.mailsBySmtp = false)
    (hcourse : Course channels world request state result) :
    ∀ sub ∈ state.2.picked, state.1.db.Cancelled sub.id := by
  intro sub hpicked
  cases serves_cancel hrequest hcourse.serves with
  | quiet _ hnone _ =>
      rw [hnone] at hpicked
      cases hpicked
  | about sub' hsub hpicked' hends _ =>
      rw [hpicked', List.mem_singleton] at hpicked
      obtain ⟨time, hdb⟩ := cancel_committed hcourse hends (.inl hmail)
      rw [hpicked, hdb]
      exact (cancelled_of_cancel hsub time).1

-- A cancellation whose mail is refused leaves the tables as they were.
theorem cancel_rolled_back (hrequest : request.endpoint = .manageDelete token)
    (hmail : request.settings.settings.mailsBySmtp = true)
    (hdown : ∀ mail, ∃ error, channels.smtp mail = .error error)
    (hdonors : ∀ row ∈ world.db.subscriptions, ∃ donor ∈ world.db.donors, donor.id = row.donorId)
    (hcourse : Course channels world request state result) : state.1.db = world.db := by
  cases serves_cancel hrequest hcourse.serves with
  | quiet hdb _ _ => exact hdb
  | about sub hsub _ hends hmails =>
      have hsent : state.2.sent = [] := unsent_of_inward hmail hdown hcourse.given hmails
      cases hends with
      | failed hcommitted _ =>
          have hdb := serves_db hcourse.serves
          rw [hcommitted] at hdb
          exact hdb
      | committed time _ htold =>
          have hmissing := htold.resolve_left fun hmailed => hmailed hsent
          obtain ⟨hstored, -⟩ := mem_openSubscriptions.mp hsub
          obtain ⟨donor, hdonor, hid⟩ := hdonors sub hstored
          have hselect : donor ∈ (Query.donorById sub.donorId).select world.db :=
            List.mem_filter.mpr ⟨hdonor, decide_eq_true hid⟩
          have hempty := (cancel_reads hrequest hcourse.serves hmissing).symm.subset hselect
          cases hempty

theorem cancel_changes (hrequest : request.endpoint = .manageDelete token)
    (hcourse : Course channels world request state result) (hsent : state.2.sent ≠ []) :
    state.1.db ≠ world.db := by
  cases serves_cancel hrequest hcourse.serves with
  | quiet _ _ hnone => exact absurd hnone hsent
  | about sub hsub _ hends _ =>
      obtain ⟨time, hdb⟩ := cancel_committed hcourse hends (.inr hsent)
      obtain ⟨hstored, -, hopen⟩ := mem_openSubscriptions.mp hsub
      intro hsame
      have hall := (cancelled_of_cancel hsub time).2
      rw [← hdb, hsame] at hall
      exact hopen (hall sub hstored rfl)

end Served

theorem Request.mails_cases {request : Request} (h : request.mails = true) :
    (∃ token, request.endpoint = .manageDelete token) ∨ ∃ body, request.given = some body ∧
      body.provider = "test" := by
  unfold Request.mails at h
  unfold Request.given
  split at h
  · next body hrequest =>
      rw [hrequest]
      exact .inr ⟨body, rfl, of_decide_eq_true h⟩
  · next body hrequest =>
      rw [hrequest]
      exact .inr ⟨body, rfl, of_decide_eq_true h⟩
  · next token hrequest => exact .inl ⟨token, hrequest⟩
  · cases h

-- The same, with a mail server that drops every connection.
def SideChannels.mailDown (channels : SideChannels) : SideChannels where
  smtp _ := .error ⟨.other, "Connection unexpectedly closed"⟩
  stripeDelete := channels.stripeDelete
  http := channels.http

theorem side_channels [Platform] {pool : ServicePool} {request : Request}
    (hrun : service.Run (fun _ _ => True) ⟨{}, []⟩ pool) (hmails : request.mails = true)
    (hsends : Sends pool.shared request) :
    Independent pool.shared request ↔ request.settings.settings.mailsBySmtp = false := by
  constructor
  · intro h
    by_contra hmail
    rw [Bool.not_eq_false] at hmail
    obtain ⟨channels, state, result, hcourse, hsent⟩ := hsends
    obtain ⟨state', result', hcourse', hdb⟩ :=
      h.tables channels channels.mailDown request _ (.inl rfl) ⟨state, result, hcourse, rfl⟩
    have hdown (mail : Mail) : ∃ error, channels.mailDown.smtp mail = .error error := ⟨_, rfl⟩
    rcases request.mails_cases hmails with ⟨token, hrequest⟩ | ⟨body, hgiven, hrail⟩
    · have hsame : state'.1.db = pool.shared.db :=
        cancel_rolled_back hrequest hmail hdown (fun _ hrow => donor_of_subscription hrun hrow) hcourse'
      exact cancel_changes hrequest hcourse hsent (hdb.symm.trans hsame)
    · have hmore := (gift_events hgiven hrail hcourse).mp hsent
      rw [← hdb] at hmore
      exact (gift_events hgiven hrail hcourse').mpr hmore (gift_unsent hgiven hrail hmail hdown hcourse')
  · intro hmail
    refine ⟨fun channels channels' request' db hrequest' hleads =>
      ?_, fun channels state result token hrequest hcourse =>
      cancel_cancels hrequest hmail hcourse⟩
    obtain ⟨state, result, hcourse, rfl⟩ := hleads
    rcases request.mails_cases hmails with ⟨token, hrequest⟩ | ⟨body, hgiven, hrail⟩
    · have hsame : request.SameCancellation request' := by
        rcases hrequest' with rfl | hsame
        · exact .refl ⟨token, hrequest⟩
        · exact hsame
      exact cancel_leads hrequest hmail hsame hcourse
    · rcases hrequest' with rfl | hsame
      · exact gift_leads hgiven hrail hmail hcourse
      · obtain ⟨token, hrequest⟩ := hsame.cancels
        unfold Request.given at hgiven
        rw [hrequest] at hgiven
        cases hgiven

open Trial

-- The rails and the mail server answer, and the one or the other does not.
def allUp : SideChannels where
  smtp _ := .ok ()
  stripeDelete _ := .ok ()
  http _ := .ok (.obj [])

def mailRefused (n : ℕ) (world : World) (s : Session) : (op : Op) → Ans op
  | .smtp _ => .error ⟨.other, "Connection unexpectedly closed"⟩
  | op => reply n world s op

def consoleSettings : AcceptedSettings where
  settings := { settings.settings with emailProvider := "console" }
  accepted := rfl

def consoleDelete : Request := ⟨consoleSettings, .manageDelete manageToken⟩

theorem side_channels_console : ∃ pool, service.Run (fun _ _ => True) ⟨{}, []⟩ pool ∧
    Sends pool.shared consoleDelete ∧ Independent pool.shared consoleDelete := by
  obtain ⟨pool, hrun, hfollow⟩ := exists_run (fun _ _ => True)
    (fun pool => (Prog.follow service.alone (fun state => reply 1 state.1 state.2) (pool.shared, {})
      consoleDelete.handler).any (fun finish => finish.1.2.broken = false ∧
        (∀ event ∈ finish.1.2.past, allUp.Gives event) ∧ finish.1.2.sent ≠ []) = true)
    oneMonthly (by decide +kernel)
  obtain ⟨state, result, hserves, hdatabase, hgiven, hsent⟩ := exists_serves pool.shared consoleDelete (reply 1)
    (fun state result => state.2.broken = false ∧ (∀ event ∈ state.2.past, allUp.Gives event) ∧
      state.2.sent ≠ [])
    hfollow
  have hsends : Sends pool.shared consoleDelete := ⟨allUp, state, result, ⟨hserves, hdatabase, hgiven⟩, hsent⟩
  exact ⟨pool, hrun, hsends, (side_channels hrun rfl hsends).mpr rfl⟩

-- The mail server is reached or not, and the monthly gift is cancelled or stays.
theorem refused_mail_keeps_gift : ∃ pool, service.Run (fun _ _ => True) ⟨{}, []⟩ pool ∧
    (∃ state result, Course allUp pool.shared manageDelete state result ∧
      state.1.db.subscriptions.map Subscription.status = [.cancelled]) ∧
    ∃ state result, Course allUp.mailDown pool.shared manageDelete state result ∧
      state.1.db.subscriptions.map Subscription.status = [.active] := by
  obtain ⟨pool, hrun, hup, hdown⟩ := exists_run (fun _ _ => True)
    (fun pool => (Prog.follow service.alone (fun state => reply 1 state.1 state.2) (pool.shared, {})
        manageDelete.handler).any (fun finish => (finish.1.2.broken = false ∧
          ∀ event ∈ finish.1.2.past, allUp.Gives event) ∧
            finish.1.1.db.subscriptions.map Subscription.status = [.cancelled]) = true ∧
      (Prog.follow service.alone (fun state => mailRefused 1 state.1 state.2) (pool.shared, {})
        manageDelete.handler).any (fun finish => (finish.1.2.broken = false ∧
          ∀ event ∈ finish.1.2.past, allUp.mailDown.Gives event) ∧
            finish.1.1.db.subscriptions.map Subscription.status = [.active]) = true)
    oneMonthly (by decide +kernel)
  obtain ⟨state, result, hserves, ⟨hdatabase, hgiven⟩, hcancelled⟩ :=
    exists_serves pool.shared manageDelete (reply 1)
    (fun state result => (state.2.broken = false ∧ ∀ event ∈ state.2.past, allUp.Gives event) ∧
      state.1.db.subscriptions.map Subscription.status = [.cancelled]) hup
  obtain ⟨state', result', hserves', ⟨hdatabase', hgiven'⟩, hactive⟩ := exists_serves pool.shared manageDelete
    (mailRefused 1) (fun state result =>
      (state.2.broken = false ∧ ∀ event ∈ state.2.past, allUp.mailDown.Gives event) ∧
      state.1.db.subscriptions.map Subscription.status = [.active]) hdown
  exact ⟨pool, hrun, ⟨state, result, ⟨hserves, hdatabase, hgiven⟩, hcancelled⟩,
    state', result', ⟨hserves', hdatabase', hgiven'⟩, hactive⟩

end BridgeOfHope
