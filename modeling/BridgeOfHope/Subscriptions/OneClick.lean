import BridgeOfHope.Subscriptions.History
import BridgeOfHope.Subscriptions.Isolation

namespace BridgeOfHope

open Process

-- What a confirmed cancellation leaves of the donor's monthly gifts.

theorem cancel_assigned {sub : Subscription} (time : Time) (id : Uuid) :
    Transaction.assignedTo id (.cancel sub time) =
    if id = sub.id then sub.changes
    (Ledger.cancelledColumns (some Subscriptions.cancelReason) time) else [] := rfl

theorem cancel_subscriptions {sub : Subscription} (db : Db) (time : Time) :
    (db.applyAll (Transaction.cancel sub time).stmts).subscriptions =
    db.subscriptions.map fun row => row.setAll (Transaction.assignedTo row.id (.cancel sub time)) := by
  rw [Transaction.subscriptions_applyAll]
  exact List.append_nil _

section Store

variable [Platform] {A : Uuid} {db : Db} {sub : Subscription}

theorem mem_openSubscriptions {row : Subscription} : row ∈ (Query.openSubscriptions A).select db ↔
    row ∈ db.subscriptions ∧ row.donorId = A ∧ row.status ≠ .cancelled := by
  simp [Query.select, Query.table, Query.accepts]

theorem openSubscriptions_nodup (hunique : db.keys.Nodup) : ((Query.openSubscriptions A).select db).Nodup :=
  (Db.rows_nodup (Db.nodup_subscriptions hunique) (by simp [Subscription.keys])).filter _

-- Nothing open remains exactly when there was only the one.
theorem all_cancelled_iff (hunique : db.keys.Nodup)
    (hsub : sub ∈ (Query.openSubscriptions A).select db) (time : Time) :
    (∀ row ∈ (db.applyAll (Transaction.cancel sub time).stmts).subscriptions, row.donorId = A →
      row.status = .cancelled) ↔ ((Query.openSubscriptions A).select db).length = 1 := by
  obtain ⟨hmem, hdonor, hopen⟩ := mem_openSubscriptions.mp hsub
  rw [cancel_subscriptions]
  constructor
  · intro hall
    have honly : ∀ row ∈ (Query.openSubscriptions A).select db, row = sub := by
      intro row hrow
      obtain ⟨hstored, howner, hstatus⟩ := mem_openSubscriptions.mp hrow
      by_contra hne
      have hid : row.id ≠ sub.id := fun hid => hne (Db.subscription_unique hunique hstored hmem hid)
      have hstays := hall _ (List.mem_map_of_mem hstored) (by simpa using howner)
      rw [cancel_assigned, if_neg hid] at hstays
      exact hstatus hstays
    have hnodup := openSubscriptions_nodup hunique (A := A)
    cases hselect : (Query.openSubscriptions A).select db with
    | nil =>
        rw [hselect] at hsub
        cases hsub
    | cons first rest =>
        rw [hselect] at hnodup honly
        have hfirst : first = sub := honly first List.mem_cons_self
        cases rest with
        | nil => rfl
        | cons second rest =>
            have hsecond : second = sub := honly second (by simp)
            simp [hfirst, hsecond] at hnodup
  · intro hlength row hrow howner
    obtain ⟨x, hselect⟩ := List.length_eq_one_iff.mp hlength
    obtain ⟨row₀, hstored, rfl⟩ := List.mem_map.mp hrow
    rw [cancel_assigned] at howner ⊢
    by_cases hid : row₀.id = sub.id
    · rw [if_pos hid]
      exact Subscription.cancelled_status row₀ hopen
    · rw [if_neg hid] at howner ⊢
      by_contra hstatus
      have hrow₀ : row₀ ∈ (Query.openSubscriptions A).select db :=
        mem_openSubscriptions.mpr ⟨hstored, howner, hstatus⟩
      rw [hselect, List.mem_singleton] at hrow₀ hsub
      exact hid (by rw [hrow₀, hsub])

end Store

section Served

variable [Platform] {A : Uuid} {world : World} {request : Request} {token : String} {time : Time}
  {state : World × Session} {result : Except Exn Response}

-- A cancellation that is answered 200 has cancelled one of the donor's open subscriptions.
theorem served_cancellation (hrequest : request.endpoint = .manageDelete token)
    (hserves : service.Serves world request state result) (hbegan : state.2.Began time)
    (htoken : verifyManageToken request.settings.settings.secretKey token time = .ok (some A))
    (hok : respond result = ⟨200, .status "cancelled"⟩) :
    ∃ sub ∈ (Query.openSubscriptions A).select world.db, ∃ time,
      state.1.db = world.db.applyAll (Transaction.cancel sub time).stmts := by
  have hmanages : request.manageToken = some token := by simp [Request.manageToken, hrequest]
  have hconcludes := serves_concludes hserves
  rw [result_of_status hok] at hconcludes
  obtain ⟨-, -, hend⟩ := hconcludes
  rw [hrequest] at hend
  obtain ⟨-, sub, cancelledAt, hlicensed, hcommitted, -, -⟩ := hend
  cases hlicensed with
  | cancel _ _ hread hopen =>
      obtain ⟨rows, hlook, hrow⟩ := hread
      have hdonor := donor_of_look hmanages hserves hbegan htoken hlook
      have hselect := (serves_looks hserves hlook).subset hrow
      rw [hdonor] at hselect
      exact ⟨sub, hselect, cancelledAt, hcommitted ▸ serves_db hserves⟩

theorem one_click_cancels {pool : ServicePool} (hrun : service.Run (fun _ _ => True) ⟨{}, []⟩ pool)
    (hrequest : request.endpoint = .manageDelete token)
    (hserves : service.Serves pool.shared request state result)
    (hbegan : state.2.Began time)
    (htoken : verifyManageToken request.settings.settings.secretKey token time = .ok (some A))
    (hok : respond result = ⟨200, .status "cancelled"⟩) :
    (∀ row ∈ state.1.db.subscriptions, row.donorId = A → row.status = .cancelled) ↔
      ((Query.openSubscriptions A).select pool.shared.db).length = 1 := by
  obtain ⟨sub, hsub, cancelledAt, hdb⟩ := served_cancellation hrequest hserves hbegan htoken hok
  rw [hdb]
  exact all_cancelled_iff (consistent_run hrun).1.keys_nodup hsub cancelledAt

end Served

open Trial

-- A donor with one monthly gift, and a donor who has set one up twice.
def oneMonthly : List ServiceCue :=
  [.arrive (subscription "test" "amina@example.org")] ++ turns 0 34 (reply 0) ++ [.finish 0]

def twoMonthlies : List ServiceCue :=
  oneMonthly ++ [.arrive (subscription "test" "amina@example.org")] ++ turns 1 31 (reply 1) ++ [.finish 1]

theorem one_click_cancels_only : ∃ pool state result, service.Run (fun _ _ => True) ⟨{}, []⟩ pool ∧
    service.Serves pool.shared manageDelete state result ∧ respond result = ⟨200, .status "cancelled"⟩ ∧
    ∀ row ∈ state.1.db.subscriptions, row.donorId = amina.id → row.status = .cancelled := by
  obtain ⟨pool, hrun, hlength, hfollow⟩ := exists_run (fun _ _ => True)
    (fun pool => ((Query.openSubscriptions amina.id).select pool.shared.db).length = 1 ∧
      (Prog.follow service.alone (fun state => reply 1 state.1 state.2)
        (pool.shared, {}) manageDelete.handler).any
        (fun finish => finish.1.2.Began clock ∧ respond finish.2 = ⟨200, .status "cancelled"⟩) = true)
    oneMonthly (by decide +kernel)
  obtain ⟨state, result, hserves, hbegan, hok⟩ := exists_serves pool.shared manageDelete (reply 1)
    (fun state result => state.2.Began clock ∧ respond result = ⟨200, .status "cancelled"⟩) hfollow
  have htoken : verifyManageToken secretKey manageToken clock = .ok (some amina.id) := by decide +kernel
  exact ⟨pool, state, result, hrun, hserves, hok,
    (one_click_cancels hrun rfl hserves hbegan htoken hok).mpr hlength⟩

theorem second_gift_stays : ∃ pool state result, service.Run (fun _ _ => True) ⟨{}, []⟩ pool ∧
    service.Serves pool.shared manageDelete state result ∧ state.2.Began clock ∧
    verifyManageToken secretKey manageToken clock = .ok (some amina.id) ∧
    respond result = ⟨200, .status "cancelled"⟩ ∧
    state.2.sent.map Mail.template = [.subscriptionCancelled] ∧
    ∃ row ∈ state.1.db.subscriptions, row.donorId = amina.id ∧ row.status = .active := by
  obtain ⟨pool, hrun, hfollow⟩ := exists_run (fun _ _ => True)
    (fun pool => (Prog.follow service.alone (fun state => reply 2 state.1 state.2) (pool.shared, {})
      manageDelete.handler).any (fun finish => finish.1.2.Began clock ∧
        respond finish.2 = ⟨200, .status "cancelled"⟩ ∧
        finish.1.2.sent.map Mail.template = [.subscriptionCancelled] ∧
        ∃ row ∈ finish.1.1.db.subscriptions, row.donorId = amina.id ∧ row.status = .active) = true)
    twoMonthlies (by decide +kernel)
  obtain ⟨state, result, hserves, hbegan, hok, hsent, hrow⟩ := exists_serves pool.shared manageDelete (reply 2)
    (fun state result => state.2.Began clock ∧ respond result = ⟨200, .status "cancelled"⟩ ∧
      state.2.sent.map Mail.template = [.subscriptionCancelled] ∧
      ∃ row ∈ state.1.db.subscriptions, row.donorId = amina.id ∧ row.status = .active) hfollow
  exact ⟨pool, state, result, hrun, hserves, hbegan, by decide +kernel, hok, hsent, hrow⟩

end BridgeOfHope
