import BridgeOfHope.Consistency
import BridgeOfHope.Transactions.Effects

namespace BridgeOfHope

open Process

-- How a stored subscription came to be what it is: one commit opens it, changes
-- its amount, cancels it, or leaves it alone.

theorem Subscription.changed_amount (row subscription : Subscription) (amountMinor : Int) :
    row.setAll (subscription.changes [.amountMinor amountMinor]) = row ∨
      row.setAll (subscription.changes [.amountMinor amountMinor]) =
        { row with amountMinor := amountMinor } := by
  unfold Subscription.changes
  rw [List.filter_cons]
  split
  · exact .inr rfl
  · exact .inl rfl

theorem Subscription.cancelled_status (row : Subscription) {subscription : Subscription}
    {reason : Option String} {time : Time} (hopen : subscription.status ≠ .cancelled) :
    (row.setAll (subscription.changes (Ledger.cancelledColumns reason time))).status = .cancelled := by
  refine Subscription.setAll_status_of_mem (List.mem_filter.mpr ⟨List.mem_cons_self, ?_⟩)
    fun value hvalue => ?_
  · have hset : (subscription.set (.status .cancelled)).status = .cancelled := rfl
    exact decide_eq_true fun heq => hopen (heq ▸ hset)
  · have := (List.mem_filter.mp hvalue).1
    simpa [Ledger.cancelledColumns] using this

inductive SubscriptionStep (db : Db) (transaction : Transaction) (row : Subscription) : Prop
  | kept (hrow : row ∈ db.subscriptions)
  | opened (hrow : row ∈ transaction.opened)
  | changed {row₀ subscription : Subscription} {amountMinor : Int} (hrow₀ : row₀ ∈ db.subscriptions)
      (htransaction : transaction = .changeAmount subscription amountMinor)
      (hid : row₀.id = subscription.id) (hrow : row = { row₀ with amountMinor := amountMinor })
  | cancelled {row₀ subscription : Subscription} {time : Time} (hrow₀ : row₀ ∈ db.subscriptions)
      (htransaction : transaction = .cancel subscription time) (hid : row₀.id = subscription.id)
      (hrow : row = row₀.setAll (subscription.changes
        (Ledger.cancelledColumns (some Subscriptions.cancelReason) time)))
      (hstatus : row.status = .cancelled)

def Db.Cancelled (db : Db) (id : Uuid) : Prop :=
  ∃ row ∈ db.subscriptions, row.id = id ∧ row.status = .cancelled

def Stmt.Cancels (id : Uuid) : Stmt → Prop
  | .updateSubscription target columns => target = id ∧ .status .cancelled ∈ columns
  | _ => False

theorem Subscription.cancels {subscription : Subscription} {reason : Option String} {time : Time}
    (hopen : subscription.status ≠ .cancelled) : Stmt.Cancels subscription.id
      (.updateSubscription subscription.id
        (subscription.changes (Ledger.cancelledColumns reason time))) := by
  refine ⟨rfl, List.mem_filter.mpr ⟨List.mem_cons_self, decide_eq_true fun heq => hopen ?_⟩⟩
  rw [← heq]
  rfl

variable [Platform]

-- The columns that a commit assigns to a row that is stored. A new subscription
-- has an id that no stored one has.
theorem Commits.assigned {pool pool' : ServicePool} {i : ℕ} {t : ServiceThread} {transaction : Transaction}
    (h : Commits pool i t transaction pool') (hconsistent : Consistent pool) {row : Subscription}
    (hrow : row ∈ pool.shared.db.subscriptions) : transaction.assignedTo row.id = [] ∨
      (∃ subscription amountMinor, transaction = .changeAmount subscription amountMinor ∧
        row.id = subscription.id ∧
        transaction.assignedTo row.id = subscription.changes [.amountMinor amountMinor]) ∨
      ∃ subscription time, transaction = .cancel subscription time ∧ row.id = subscription.id ∧
        transaction.assignedTo row.id = subscription.changes
          (Ledger.cancelledColumns (some Subscriptions.cancelReason) time) := by
  cases transaction with
  | subscribe step subscription activation =>
      cases activation with
      | none => exact .inl rfl
      | some a =>
          refine .inl (if_neg fun hid => ?_)
          have hinsert : .insertSubscription subscription ∈ t.loc.flushed := by
            rw [h.flushed, Transaction.mem_stmts_subscribe]
            exact .inr (.inl rfl)
          exact hconsistent.fresh_key h.issues.1 hinsert List.mem_cons_self
            (Db.mem_keys_of_subscription hrow (by simp [Subscription.keys, hid]))
  | changeAmount subscription amountMinor =>
      by_cases hid : row.id = subscription.id
      · exact .inr (.inl ⟨subscription, amountMinor, rfl, hid, if_pos hid⟩)
      · exact .inl (if_neg hid)
  | cancel subscription time =>
      by_cases hid : row.id = subscription.id
      · exact .inr (.inr ⟨subscription, time, rfl, hid, if_pos hid⟩)
      · exact .inl (if_neg hid)
  | _ => exact .inl rfl

theorem subscription_step {pool pool' : ServicePool} (hconsistent : Consistent pool) {i : ℕ}
    {t : ServiceThread} {transaction : Transaction} (hcommits : Commits pool i t transaction pool')
    {row : Subscription} (hrow : row ∈ pool'.shared.db.subscriptions) :
    SubscriptionStep pool.shared.db transaction row := by
  rw [hcommits.db, transaction.subscriptions_applyAll] at hrow
  rcases List.mem_append.mp hrow with hrow | hrow
  case inr => exact .opened hrow
  obtain ⟨row₀, hrow₀, rfl⟩ := List.mem_map.mp hrow
  rcases hcommits.assigned hconsistent hrow₀ with h |
    ⟨subscription, amountMinor, htransaction, hid, h⟩ | ⟨subscription, time, htransaction, hid, h⟩
  · rw [h]
    exact .kept hrow₀
  · rw [h]
    rcases Subscription.changed_amount row₀ subscription amountMinor with hrow' | hrow'
    · rw [hrow']
      exact .kept hrow₀
    · exact .changed hrow₀ htransaction hid hrow'
  · rw [h]
    cases htransaction
    cases hcommits.ready.licensed with
    | cancel hrequest htoken hread hopen =>
        exact .cancelled hrow₀ rfl hid rfl (Subscription.cancelled_status row₀ hopen)

section Cancellation

variable {pool pool' : ServicePool} {move : ServiceMove} {id : Uuid}

-- A new subscription has an id that no stored one has, so no commit makes a
-- cancelled subscription active again.
theorem Db.Cancelled.step (h : pool.shared.db.Cancelled id) (hconsistent : Consistent pool)
    (hproper : ∀ t ∈ pool.threads, Proper t) (hmove : service.Step pool move pool') :
    pool'.shared.db.Cancelled id := by
  obtain ⟨row, hrow, hid, hstatus⟩ := h
  rcases db_step hproper hmove with hquiet | ⟨i, t, transaction, -, hcommits⟩
  · exact ⟨row, hquiet.db ▸ hrow, hid, hstatus⟩
  have hstays := transaction.subscription_stays hrow
  rw [← hcommits.db] at hstays
  refine ⟨_, hstays, (Subscription.setAll_id row _).trans hid, ?_⟩
  refine Subscription.setAll_status hstatus fun value hvalue => ?_
  rcases hcommits.assigned hconsistent hrow with hassigned |
    ⟨subscription, amountMinor, -, -, hassigned⟩ | ⟨subscription, time, -, -, hassigned⟩
  · simp [hassigned] at hvalue
  · rw [hassigned] at hvalue
    simpa using (List.mem_filter.mp hvalue).1
  · rw [hassigned] at hvalue
    simpa [Ledger.cancelledColumns] using (List.mem_filter.mp hvalue).1

-- The commit of a cancellation.
theorem Commits.cancels {i : ℕ} {t : ServiceThread} {transaction : Transaction}
    (h : Commits pool i t transaction pool') (hconsistent : Consistent pool) {stmt : Stmt}
    (hstmt : stmt ∈ transaction.stmts) (hcancels : stmt.Cancels id) :
    pool'.shared.db.Cancelled id := by
  cases stmt with
  | updateSubscription target columns =>
      obtain ⟨rfl, hcolumns⟩ := hcancels
      rcases Transaction.updateSubscription_cases hstmt with ⟨step, subscription, a, -, -, rfl⟩ |
        ⟨subscription, amountMinor, -, -, rfl⟩ | ⟨subscription, time, rfl, rfl, rfl⟩
      · simp [Subscription.changes, Ledger.activatedColumns] at hcolumns
      · simp [Subscription.changes] at hcolumns
      · cases h.ready.licensed with
        | cancel hrequest htoken hread hopen =>
            obtain ⟨⟨columns, hrow⟩, -⟩ := (hconsistent.grounded t h.mem).reads _ _ hread
            have hid := Subscription.setAll_id subscription columns
            have hstays := (Transaction.cancel subscription time).subscription_stays hrow
            rw [← h.db] at hstays
            refine ⟨_, hstays, (Subscription.setAll_id _ _).trans hid, ?_⟩
            have hassigned : Transaction.assignedTo (subscriptionTable.set subscription columns).id
                (.cancel subscription time) = subscription.changes
                  (Ledger.cancelledColumns (some Subscriptions.cancelReason) time) := if_pos hid
            rw [hassigned]
            exact Subscription.cancelled_status _ hopen
  | _ => exact hcancels.elim

-- What a request has cancelled stays so.
theorem cancelled_run {allow : ServicePool → ServiceMove → Prop}
    (hrun : service.Run allow ⟨{}, []⟩ pool) {t : ServiceThread} (ht : t ∈ pool.threads) {stmt : Stmt}
    (hstmt : stmt ∈ t.loc.committed) (hcancels : stmt.Cancels id) : pool.shared.db.Cancelled id := by
  have h := hrun.invariant_of_obeys (I := fun pool => Consistent pool ∧ ∀ t ∈ pool.threads,
      ∀ stmt ∈ t.loc.committed, stmt.Cancels id → pool.shared.db.Cancelled id) handler_obeys
    ⟨.initial, by simp⟩ (by simp) fun pool move pool' h hproper _ hmove => by
      refine ⟨h.1.step hproper hmove, fun t' ht' stmt hstmt hcancels => ?_⟩
      rcases committed_origin hproper hmove ht' hstmt with ⟨t, ht, hstmt⟩ |
        ⟨i, t, transaction, hcommits, hstmt⟩
      · exact (h.2 t ht stmt hstmt hcancels).step h.1 hproper hmove
      · exact hcommits.cancels h.1 hstmt hcancels
  exact h.1.2 t ht stmt hstmt hcancels

end Cancellation

end BridgeOfHope
