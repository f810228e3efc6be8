import BridgeOfHope.Subscriptions.History

namespace BridgeOfHope

open Process Donations

-- The states of a subscription, and how it moves from one to the next.

structure Subscription.Sound (row : Subscription) : Prop where
  status : row.status = .pending ∨ row.status = .active ∨ row.status = .cancelled
  pending : row.status = .pending → row.startedAt = none ∧ row.cancelledAt = none
  active : row.status = .active → row.startedAt.isSome = true ∧ row.cancelledAt = none
  cancelledAt : row.status = .cancelled ↔ row.cancelledAt.isSome = true
  cancellationReason : row.status = .cancelled ↔ row.cancellationReason.isSome = true
  amountMinor : 0 < row.amountMinor

-- One state of a stored subscription and the next one.
structure Subscription.Later (row row' : Subscription) : Prop where
  id : row'.id = row.id
  donorId : row'.donorId = row.donorId
  provider : row'.provider = row.provider
  providerSubscriptionId : row'.providerSubscriptionId = row.providerSubscriptionId
  currency : row'.currency = row.currency
  coverFees : row'.coverFees = row.coverFees
  startedAt : row'.startedAt = row.startedAt
  status : row'.status = row.status ∨
    (row.status = .pending ∨ row.status = .active) ∧ row'.status = .cancelled

namespace Subscription

theorem Later.refl (row : Subscription) : row.Later row := ⟨rfl, rfl, rfl, rfl, rfl, rfl, rfl, .inl rfl⟩

theorem Sound.open_columns {row : Subscription} (h : row.Sound) (hopen : row.status ≠ .cancelled) :
    row.cancelledAt = none ∧ row.cancellationReason = none := by
  have hat := mt h.cancelledAt.mpr hopen
  have hreason := mt h.cancellationReason.mpr hopen
  simp only [Bool.not_eq_true, Option.isSome_eq_false_iff, Option.isNone_iff_eq_none] at hat hreason
  exact ⟨hat, hreason⟩

-- The cancellation of an open row writes all of its columns. It does so when
-- another cancellation has been committed since the row was read.
theorem Sound.changes_cancelled {row : Subscription} (h : row.Sound) (hopen : row.status ≠ .cancelled)
    (reason : String) (time : Time) : row.changes (Ledger.cancelledColumns (some reason) time) =
      Ledger.cancelledColumns (some reason) time := by
  obtain ⟨hat, hreason⟩ := h.open_columns hopen
  refine List.filter_eq_self.mpr fun column hcolumn => decide_eq_true fun heq => ?_
  simp only [Ledger.cancelledColumns, List.mem_cons, List.not_mem_nil, or_false] at hcolumn
  rcases hcolumn with rfl | rfl | rfl
  · have hstatus := congrArg Subscription.status heq
    exact hopen hstatus.symm
  · have hcolumn := congrArg Subscription.cancelledAt heq
    rw [hat] at hcolumn
    cases hcolumn
  · have hcolumn := congrArg Subscription.cancellationReason heq
    rw [hreason] at hcolumn
    cases hcolumn

theorem Sound.cancelled {row : Subscription} (h : row.Sound) (reason : String) (time : Time) :
    (row.setAll (Ledger.cancelledColumns (some reason) time)).Sound where
  status := .inr (.inr rfl)
  pending hstatus := by cases hstatus
  active hstatus := by cases hstatus
  cancelledAt := by simp [Ledger.cancelledColumns, set]
  cancellationReason := by simp [Ledger.cancelledColumns, set]
  amountMinor := h.amountMinor

theorem Sound.later_cancelled {row : Subscription} (h : row.Sound) (reason : String) (time : Time) :
    row.Later (row.setAll (Ledger.cancelledColumns (some reason) time)) := by
  refine ⟨rfl, rfl, rfl, rfl, rfl, rfl, rfl, ?_⟩
  rcases h.status with hpending | hactive | hcancelled
  · exact .inr ⟨.inl hpending, rfl⟩
  · exact .inr ⟨.inr hactive, rfl⟩
  · exact .inl hcancelled.symm

theorem Sound.amount {row : Subscription} (h : row.Sound) {amountMinor : Int} (hpos : 0 < amountMinor) :
    ({ row with amountMinor := amountMinor } : Subscription).Sound :=
  ⟨h.status, h.pending, h.active, h.cancelledAt, h.cancellationReason, hpos⟩

theorem later_amount (row : Subscription) (amountMinor : Int) :
    row.Later { row with amountMinor := amountMinor } := ⟨rfl, rfl, rfl, rfl, rfl, rfl, rfl, .inl rfl⟩

theorem sound_new (body : SubscriptionCreate) (donorId : Uuid) (rail : SubscriptionProvider)
    (providerSubscriptionId : String) (id : Uuid) :
    (newSubscription body donorId rail providerSubscriptionId id).Sound where
  status := .inl rfl
  pending _ := ⟨rfl, rfl⟩
  active hstatus := by cases hstatus
  cancelledAt := by simp [newSubscription]
  cancellationReason := by simp [newSubscription]
  amountMinor := body.amountMinor_pos

theorem sound_activated (body : SubscriptionCreate) (donorId : Uuid) (rail : SubscriptionProvider)
    (providerSubscriptionId : String) (id : Uuid) (time : Time) :
    let row := newSubscription body donorId rail providerSubscriptionId id
    (row.setAll (row.changes (Ledger.activatedColumns row time))).Sound := by
  intro row
  have hcolumns :
      row.changes (Ledger.activatedColumns row time) = [.status .active, .startedAt (some time)] := by
    simp [row, newSubscription, changes, Ledger.activatedColumns, set]
  rw [hcolumns]
  exact {
    status := .inr (.inl rfl)
    pending := fun hstatus => by cases hstatus
    active := fun _ => ⟨rfl, rfl⟩
    cancelledAt := by simp [row, newSubscription, set]
    cancellationReason := by simp [row, newSubscription, set]
    amountMinor := body.amountMinor_pos }

end Subscription

section Runs

variable [Platform] {pool pool' : ServicePool} {move : ServiceMove}

-- The rows that a request has read were sound when it read them.
structure Lifecycle (pool : ServicePool) : Prop where
  rows : ∀ row ∈ pool.shared.db.subscriptions, row.Sound
  reads : ∀ t ∈ pool.threads, ∀ donorId row, t.loc.Read (.openSubscriptions donorId) row → row.Sound

-- What one commit makes of a row that is stored.
theorem Lifecycle.row (h : Lifecycle pool) (hconsistent : Consistent pool) {i : ℕ} {t : ServiceThread}
    {transaction : Transaction} (hcommits : Commits pool i t transaction pool') {row : Subscription}
    (hrow : row ∈ pool.shared.db.subscriptions) :
    (row.setAll (transaction.assignedTo row.id)).Sound ∧
      row.Later (row.setAll (transaction.assignedTo row.id)) := by
  have hsound := h.rows row hrow
  rcases hcommits.assigned hconsistent hrow with hassigned |
    ⟨subscription, amountMinor, htransaction, -, hassigned⟩ | ⟨subscription, time, htransaction, -, hassigned⟩
  · rw [hassigned]
    exact ⟨hsound, .refl row⟩
  · rw [hassigned]
    cases htransaction
    cases hcommits.ready.licensed with
    | @changeAmount token body subscription hrequest htoken hread =>
        rcases row.changed_amount subscription body.amountMinor with hsame | hchanged
        · rw [hsame]
          exact ⟨hsound, .refl row⟩
        · rw [hchanged]
          exact ⟨hsound.amount body.amountMinor_pos, row.later_amount body.amountMinor⟩
  · rw [hassigned]
    cases htransaction
    cases hcommits.ready.licensed with
    | cancel hrequest htoken hread hopen =>
        have hread := h.reads t hcommits.mem _ subscription hread
        rw [hread.changes_cancelled hopen]
        exact ⟨hsound.cancelled _ time, hsound.later_cancelled _ time⟩

theorem Lifecycle.opened {request : Request} {s : Session} {transaction : Transaction}
    (h : Licensed request s transaction) {row : Subscription} (hrow : row ∈ transaction.opened) :
    row.Sound := by
  cases h with
  | @subscribe body step rail psid id subscription activation hrequest hdonor hsubscription =>
      subst hsubscription
      cases activation with
      | none =>
          rw [List.mem_singleton.mp hrow]
          exact Subscription.sound_new body _ rail psid id
      | some a =>
          rw [List.mem_singleton.mp hrow]
          exact Subscription.sound_activated body _ rail psid id a.time
  | _ => cases hrow

theorem Lifecycle.step (h : Lifecycle pool) (hconsistent : Consistent pool)
    (hproper : ∀ t ∈ pool.threads, Proper t) (hmove : service.Step pool move pool') : Lifecycle pool' := by
  refine ⟨fun row hrow => ?_, ?_⟩
  · rcases db_step hproper hmove with hquiet | ⟨i, t, transaction, -, hcommits⟩
    · exact h.rows row (hquiet.db ▸ hrow)
    · rw [hcommits.db, transaction.subscriptions_applyAll] at hrow
      rcases List.mem_append.mp hrow with hold | hnew
      · obtain ⟨row₀, hrow₀, rfl⟩ := List.mem_map.mp hold
        exact (h.row hconsistent hcommits hrow₀).1
      · exact Lifecycle.opened hcommits.ready.licensed hnew
  · refine hmove.forall_threads hproper (P := fun _ _ (s : Session) => ∀ (donorId : Uuid)
      (row : Subscription), s.Read (.openSubscriptions donorId) row → row.Sound) ?_ (fun _ _ h => h) ?_
      (fun _ _ _ _ _ _ _ _ _ h => h) h.reads
    · rintro request - donorId row ⟨rows, hpast, -⟩
      cases hpast
    · rintro i t op ans - - hpermits henabled hreads donorId row ⟨rows, hpast, hrow⟩
      rcases List.mem_cons.mp hpast with hnew | hold
      · cases hnew
        have hanswer : enabled pool.shared (pool.threads.map Thread.loc) t.loc
            (.query (.openSubscriptions donorId)) (.ok rows) := henabled
        exact h.rows row (mem_table hpermits hanswer hrow).1
      · exact hreads donorId row ⟨rows, hold, hrow⟩

-- Every state of the service, from a table without subscriptions on.
theorem lifecycle_run {allow : ServicePool → ServiceMove → Prop} {world : World}
    (hempty : world.db.subscriptions = []) (hkeys : world.db.keys.Nodup)
    (hrun : service.Run allow ⟨world, []⟩ pool) :
    (Consistent pool ∧ Lifecycle pool) ∧ ∀ t ∈ pool.threads, Proper t := by
  have hinit : Consistent ⟨world, []⟩ := ⟨by simpa [entries] using hkeys, by simp⟩
  exact hrun.invariant_of_obeys (I := fun pool => Consistent pool ∧ Lifecycle pool) handler_obeys
    ⟨hinit, by simp [hempty], by simp⟩ (by simp) fun _ _ _ h hproper _ hmove =>
      ⟨h.1.step hproper hmove, h.2.step h.1 hproper hmove⟩

theorem subscription_lifecycle {allow : ServicePool → ServiceMove → Prop} {world : World}
    (hempty : world.db.subscriptions = []) (hkeys : world.db.keys.Nodup)
    (hrun : service.Run allow ⟨world, []⟩ pool) :
    (∀ row ∈ pool.shared.db.subscriptions, row.Sound) ∧
      ∀ move pool', service.Step pool move pool' → ∀ row ∈ pool.shared.db.subscriptions,
        (∃ row' ∈ pool'.shared.db.subscriptions, row'.id = row.id) ∧
          ∀ row' ∈ pool'.shared.db.subscriptions, row'.id = row.id → row.Later row' := by
  obtain ⟨⟨hconsistent, hlifecycle⟩, hproper⟩ := lifecycle_run hempty hkeys hrun
  refine ⟨hlifecycle.rows, fun move pool' hmove row hrow => ?_⟩
  have hnext : ∃ row' ∈ pool'.shared.db.subscriptions, row.Later row' := by
    rcases db_step hproper hmove with hquiet | ⟨i, t, transaction, -, hcommits⟩
    · exact ⟨row, hquiet.db ▸ hrow, .refl row⟩
    · refine ⟨_, ?_, (hlifecycle.row hconsistent hcommits hrow).2⟩
      rw [hcommits.db]
      exact transaction.subscription_stays hrow
  obtain ⟨next, hmem, hlater⟩ := hnext
  refine ⟨⟨next, hmem, hlater.id⟩, fun row' hrow' hid => ?_⟩
  -- the primary key of the row
  have hsame : row' = next := Db.subscription_unique (hconsistent.step hproper hmove).keys_nodup hrow' hmem
    (hid.trans hlater.id.symm)
  rw [hsame]
  exact hlater

end Runs

open Trial

-- A monthly gift on the test rail, and its cancellation up to the commit.
def beforeCancelled : List ServiceCue :=
  [.arrive (subscription "test" "amina@example.org")] ++ turns 0 34 (reply 0) ++
    [.finish 0, .arrive manageDelete] ++ turns 1 11 (reply 1)

theorem subscription_lifecycle_cancelled : ∃ pool move pool' row row', service.Step pool move pool' ∧
    row ∈ pool.shared.db.subscriptions ∧ row' ∈ pool'.shared.db.subscriptions ∧ row.Sound ∧
      row.status = .active ∧ row.Later row' ∧ row'.status = .cancelled := by
  obtain ⟨pool, hrun, row, hrow, hactive, hnext⟩ := exists_run (fun _ _ => True)
    (fun pool => ∃ row ∈ pool.shared.db.subscriptions, row.status = .active ∧
      (service.perform? (fun _ _ => True) pool (.act 1 (reply 1))).any fun pool' =>
        ∃ row' ∈ pool'.shared.db.subscriptions, row'.id = row.id ∧ row'.status = .cancelled)
    beforeCancelled (by decide +kernel)
  obtain ⟨pool', hplay, hcancelled⟩ := (Option.any_eq_true _ _).mp hnext
  obtain ⟨row', hrow', hid, hstatus⟩ := of_decide_eq_true hcancelled
  obtain ⟨move, -, hmove⟩ := System.perform?_sound hplay
  obtain ⟨hsound, hlater⟩ := subscription_lifecycle rfl (by decide) hrun
  exact ⟨pool, move, pool', row, row', hmove, hrow, hrow', hsound row hrow, hactive,
    (hlater move pool' hmove row hrow).2 row' hrow' hid, hstatus⟩

end BridgeOfHope
