import BridgeOfHope.Transactions.Lemmas

namespace BridgeOfHope

open Process

-- What a transaction does to the subscriptions and to the events, as one
-- equation for each table.

namespace Transaction

-- The columns that the transaction assigns to a subscription that is stored.
def assignedTo (id : Uuid) : Transaction → List SubscriptionSet
  | subscribe _ subscription (some a) =>
      if id = subscription.id then subscription.changes (Ledger.activatedColumns subscription a.time)
      else []
  | changeAmount subscription amountMinor =>
      if id = subscription.id then subscription.changes [.amountMinor amountMinor] else []
  | cancel subscription time =>
      if id = subscription.id then
        subscription.changes (Ledger.cancelledColumns (some Subscriptions.cancelReason) time)
      else []
  | _ => []

def opened : Transaction → List Subscription
  | subscribe _ subscription none => [subscription]
  | subscribe _ subscription (some a) =>
      [subscription.setAll (subscription.changes (Ledger.activatedColumns subscription a.time))]
  | _ => []

def markedOn (id : Uuid) (transaction : Transaction) : List WebhookEventSet :=
  match transaction.settlement, transaction with
  | some x, _ =>
      if id = x.event.id then x.event.changes (Ledger.processedColumns x.event none x.time) else []
  | none, process event time =>
      if id = event.id then event.changes (Ledger.processedColumns event none time) else []
  | none, _ => []

def received (transaction : Transaction) : List WebhookEvent :=
  match transaction.settlement, transaction with
  | some x, _ => [x.event.setAll (x.event.changes (Ledger.processedColumns x.event none x.time))]
  | none, receive (some event) => [event]
  | none, _ => []

def booked (transaction : Transaction) : List Donation :=
  (transaction.settlement.bind Settlement.donation).toList

end Transaction

theorem ignores_events {stmts : List Stmt} (h : ∀ stmt ∈ stmts, stmt.target ≠ .webhookEvents) :
    eventTable.Ignores stmts := by
  intro stmt hstmt
  cases stmt <;> first | exact ⟨rfl, fun _ => rfl⟩ | exact absurd rfl (h _ hstmt)

theorem DonorStep.ignored (step : DonorStep) : subscriptionTable.Ignores step.stmts := by
  intro stmt hstmt
  have htarget := DonorStep.target_stmts hstmt
  cases stmt <;> first | exact ⟨rfl, fun _ => rfl⟩ | cases htarget

theorem Settlement.ignored (settlement : Option Settlement) :
    subscriptionTable.Ignores (settlement.toList.flatMap Settlement.stmts) := by
  intro stmt hstmt
  obtain ⟨x, -, hx⟩ := List.mem_flatMap.mp hstmt
  rcases Settlement.mem_stmts.mp hx with rfl | ⟨d, -, rfl⟩ | rfl <;> exact ⟨rfl, fun _ => rfl⟩

theorem Settlement.effect (x : Settlement) (id : Uuid) :
    eventTable.assignedAll id x.stmts =
      (if id = x.event.id then x.event.changes (Ledger.processedColumns x.event none x.time) else []) ∧
    eventTable.created x.stmts =
      [x.event.setAll (x.event.changes (Ledger.processedColumns x.event none x.time))] := by
  have hdonation : eventTable.Ignores (x.donation.toList.map .insertDonation) := by
    intro stmt hstmt
    obtain ⟨d, -, rfl⟩ := List.mem_map.mp hstmt
    exact ⟨rfl, fun _ => rfl⟩
  simp only [Settlement.stmts, eventTable.assignedAll_append, eventTable.created_append,
    hdonation.assignedAll, hdonation.created]
  constructor
  · simp [UpdatableTable.assignedAll, eventTable]
  · simp [UpdatableTable.assignedAll, UpdatableTable.created, eventTable]

namespace Transaction

variable (transaction : Transaction)

theorem subscriptions_applyAll (db : Db) : (db.applyAll transaction.stmts).subscriptions =
    db.subscriptions.map (fun row => row.setAll (transaction.assignedTo row.id)) ++
      transaction.opened := by
  have hall (id : Uuid) : subscriptionTable.assignedAll id transaction.stmts = transaction.assignedTo id ∧
      subscriptionTable.created transaction.stmts = transaction.opened := by
    cases transaction with
    | oneOff step settlement =>
        simp only [stmts, subscriptionTable.assignedAll_append, subscriptionTable.created_append,
          step.ignored.assignedAll, step.ignored.created, (Settlement.ignored settlement).assignedAll,
          (Settlement.ignored settlement).created]
        exact ⟨rfl, rfl⟩
    | subscribe step subscription activation =>
        simp only [stmts, subscriptionTable.assignedAll_append, subscriptionTable.created_append,
          step.ignored.assignedAll, step.ignored.created]
        cases activation with
        | none => exact ⟨rfl, rfl⟩
        | some a =>
            simp only [Option.toList_some, List.flatMap_cons, List.flatMap_nil, List.append_nil,
              Activation.stmts, subscriptionTable.assignedAll_append, subscriptionTable.created_append,
              (Settlement.ignored a.settlement).assignedAll, (Settlement.ignored a.settlement).created]
            constructor
            · simp [UpdatableTable.assignedAll, subscriptionTable, assignedTo]
            · simp [UpdatableTable.assignedAll, UpdatableTable.created, subscriptionTable, opened]
    | donor step => exact ⟨step.ignored.assignedAll _ id, step.ignored.created⟩
    | receive event => cases event <;> exact ⟨rfl, rfl⟩
    | changeAmount subscription amountMinor =>
        simp [stmts, UpdatableTable.assignedAll, UpdatableTable.created, subscriptionTable, assignedTo, opened]
    | cancel subscription time =>
        simp [stmts, UpdatableTable.assignedAll, UpdatableTable.created, subscriptionTable, assignedTo, opened]
    | _ => exact ⟨rfl, rfl⟩
  have h := subscriptionTable.rows_applyAll db transaction.stmts
  simp only [(hall _).1, (hall 0).2] at h
  exact h

theorem webhookEvents_applyAll (db : Db) : (db.applyAll transaction.stmts).webhookEvents =
    db.webhookEvents.map (fun row => row.setAll (transaction.markedOn row.id)) ++
      transaction.received := by
  have hall (id : Uuid) : eventTable.assignedAll id transaction.stmts = transaction.markedOn id ∧
      eventTable.created transaction.stmts = transaction.received := by
    cases hsettlement : transaction.settlement with
    | some x =>
        obtain ⟨before, hstmts, htarget⟩ := stmts_of_settlement hsettlement
        have hbefore : eventTable.Ignores before := ignores_events fun stmt hstmt heq => by
          rcases htarget stmt hstmt with h | h <;> cases heq.symm.trans h
        rw [hstmts, eventTable.assignedAll_append, eventTable.created_append, hbefore.assignedAll,
          hbefore.created, (x.effect id).1, (x.effect id).2]
        simp [markedOn, received, hsettlement]
    | none =>
        cases transaction with
        | process event time =>
            simp [stmts, UpdatableTable.assignedAll, UpdatableTable.created, eventTable, markedOn,
              received, settlement]
        | receive event => cases event <;> exact ⟨rfl, rfl⟩
        | _ =>
            have hignored := ignores_events fun stmt hstmt htarget => by
              rcases ledger_cases hstmt (.inr htarget) with ⟨x, hx, -⟩ | ⟨event, h, -⟩ | ⟨event, time, h, -⟩
              · cases hsettlement.symm.trans hx
              · cases h
              · cases h
            rw [hignored.assignedAll, hignored.created]
            simp [markedOn, received, hsettlement]
  have h := eventTable.rows_applyAll db transaction.stmts
  simp only [(hall _).1, (hall 0).2] at h
  exact h

theorem donations_applyAll (db : Db) :
    (db.applyAll transaction.stmts).donations = db.donations ++ transaction.booked := by
  rw [Db.donations_applyAll]
  congr 1
  have hother {stmts : List Stmt} (h : ∀ stmt ∈ stmts, stmt.target ≠ .donations) :
      stmts.filterMap Stmt.donated = [] := by
    refine List.filterMap_eq_nil_iff.mpr fun stmt hstmt => ?_
    cases stmt <;> first | rfl | exact absurd rfl (h _ hstmt)
  cases hsettlement : transaction.settlement with
  | some x =>
      obtain ⟨before, hstmts, htarget⟩ := stmts_of_settlement hsettlement
      rw [hstmts, List.filterMap_append, hother fun stmt hstmt heq => by
        rcases htarget stmt hstmt with h | h <;> cases heq.symm.trans h]
      cases hdonation : x.donation <;>
        simp [Settlement.stmts, booked, hsettlement, hdonation, List.filterMap_cons, Stmt.donated]
  | none =>
      rw [hother fun stmt hstmt heq => ?_]
      · simp [booked, hsettlement]
      · rcases ledger_cases hstmt (.inl heq) with ⟨x, hx, -⟩ | ⟨event, -, rfl⟩ | ⟨event, time, -, rfl⟩
        · cases hsettlement.symm.trans hx
        · cases heq
        · cases heq

theorem subscription_stays {db : Db} {row : Subscription} (h : row ∈ db.subscriptions) :
    row.setAll (transaction.assignedTo row.id) ∈ (db.applyAll transaction.stmts).subscriptions := by
  rw [subscriptions_applyAll]
  exact List.mem_append_left _ (List.mem_map_of_mem h)

variable {transaction}

-- A stored subscription only ever becomes active or cancelled.
theorem status_assigned {id : Uuid} {status : SubscriptionStatus}
    (h : .status status ∈ transaction.assignedTo id) : status = .active ∨ status = .cancelled := by
  unfold assignedTo at h
  split at h
  · split at h
    · have := (List.mem_filter.mp h).1
      simp [Ledger.activatedColumns] at this
      exact .inl this
    · cases h
  · split at h
    · have := (List.mem_filter.mp h).1
      simp at this
    · cases h
  · split at h
    · have := (List.mem_filter.mp h).1
      simp [Ledger.cancelledColumns] at this
      exact .inr this
    · cases h
  · cases h

end Transaction

end BridgeOfHope
