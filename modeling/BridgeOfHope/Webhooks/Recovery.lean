import BridgeOfHope.Deliveries

namespace BridgeOfHope

open Process Payments

-- What a delivery leaves behind when the step after its first commit raises.

-- The event is new and stored, and a later statement raised: a session that has
-- seen a failure cannot commit any more.
structure ProcessingFailed (s : Session) (row : WebhookEvent) : Prop where
  stored : .insertWebhookEvent row ∈ s.committed
  failed : ∃ event ∈ s.past, event.fails = true

instance (s : Session) (row : WebhookEvent) : Decidable (ProcessingFailed s row) :=
  decidable_of_iff (.insertWebhookEvent row ∈ s.committed ∧ ∃ event ∈ s.past, event.fails = true)
    ⟨fun h => ⟨h.1, h.2⟩, fun h => ⟨h.stored, h.failed⟩⟩

-- What the recovery branch is there for.
def RecordedAsFailed (db : Db) (row : WebhookEvent) : Prop :=
  ∃ event ∈ db.webhookEvents, event.providerEventId = row.providerEventId ∧ event.status = .failed ∧
    event.error ≠ none ∧ event.attempts = 1

instance (db : Db) (row : WebhookEvent) : Decidable (RecordedAsFailed db row) :=
  inferInstanceAs (Decidable (∃ event ∈ db.webhookEvents, _ ∧ _ ∧ _ ∧ _))

-- No two requests store an event under one id.
def Separate (s s' : Session) : Prop :=
  ∀ event event', .insertWebhookEvent event ∈ s.committed → .insertWebhookEvent event' ∈ s'.committed →
    event.id ≠ event'.id

theorem Separate.symm {s s' : Session} (h : Separate s s') : Separate s' s :=
  fun event event' hevent hevent' hid => h event' event hevent' hevent hid.symm

-- An event whose delivery has not got to its second commit is stored as it came.
structure Unprocessed (pool : ServicePool) : Prop where
  separate : (pool.threads.map Thread.loc).Pairwise Separate
  stored : ∀ (k : ℕ) t, pool.threads[k]? = some t → ∀ event, t.loc.committed = [.insertWebhookEvent event] →
    event ∈ pool.shared.db.webhookEvents

section Runs

variable [Platform]

-- A delivery that meets a failure has committed no more than its row.
def StoresAtMost (request : Request) (s : Session) (_ : Except Exn Response) : Prop :=
  request.delivery ≠ none → s.broken = true →
    s.committed = [] ∨ ∃ row, s.committed = [.insertWebhookEvent row]

theorem handler_stores (request : Request) :
    (service.start request).Obeys service.toClient (Permits request) (StoresAtMost request) service.fresh := by
  show request.handler.Obeys client (Permits request) (StoresAtMost request) {}
  cases hdelivery : request.delivery with
  | none =>
      refine Prog.Obeys.mono (handler_obeys request) (fun _ _ h => h) fun s result _ hsome => ?_
      exact absurd hdelivery hsome
  | some args =>
      obtain ⟨endpoint, headers, rawBody, provider, event, hrequest, hprovider, hverify, hparse, hargs⟩ :=
        delivery_cases hdelivery
      have haccept : request.handler = Webhooks.accept endpoint.providerName event := by
        simp only [Request.handler, hrequest, Webhooks.handle, hprovider, hverify, if_true, hparse]
        rfl
      rw [haccept]
      have hstores : (Webhooks.accept endpoint.providerName event).Obeys client (Permits request)
          (fun s _ => s.broken = true → s.committed = [] ∨
            ∃ row, s.committed = [.insertWebhookEvent row]) {} := by
        refine Webhooks.obeys_accept hargs hdelivery (fun s _ _ hb _ hbroken => ?_)
          fun s _ hcommitted _ _ => hcommitted
        simp [hb] at hbroken
      exact hstores.mono (fun _ _ h => h) fun s result h _ => h

variable {pool pool' : ServicePool} {move : ServiceMove}

theorem Quiet.origin (h : Quiet pool pool') (hmove : service.Step pool move pool') {k : ℕ} {t' : ServiceThread}
    (hk : pool'.threads[k]? = some t') : t'.loc.committed = [] ∨
      ∃ t, pool.threads[k]? = some t ∧ t'.loc.committed = t.loc.committed := by
  have hold {t : ServiceThread} (ht : pool.threads[k]? = some t) :
      ∃ t, pool.threads[k]? = some t ∧ t'.loc.committed = t.loc.committed := by
    obtain ⟨t'', hk'', -, -, hcommitted⟩ := h.threads k t ht
    cases hk.symm.trans hk''
    exact ⟨t, ht, hcommitted⟩
  cases hmove.origin hk with
  | fresh hmove hloc => exact .inl (by rw [hloc]; rfl)
  | still hthread => exact .inr (hold hthread)
  | acted hmove hissues hanswer hreq hloc => exact .inr (hold hissues.1)
  | finished hthread hreq hloc hphase => exact .inr (hold hthread)

theorem separate_step (h : Unprocessed pool) (hconsistent : Consistent pool)
    (hmove : service.Step pool move pool') : (pool'.threads.map Thread.loc).Pairwise Separate := by
  refine hmove.pairwise Separate.symm ?_ (fun _ _ h => h) ?_ h.separate
  · intro request _ t _ event event' _ hevent'
    cases hevent'
  · rintro i t op ans rfl hissues - t' ht' hpair event event' hevent hevent'
    by_cases hcommit : (⟨op, ans⟩ : Event) = ⟨.commit, .ok ()⟩
    · cases hcommit
      rcases List.mem_append.mp hevent with hold | hnew
      · exact hpair event event' hold hevent'
      -- the key of the new row is in no index yet, and that of the other row is in one
      · intro hid
        obtain ⟨columns, hkept⟩ := (hconsistent.grounded t' (List.mem_of_mem_eraseIdx ht')).kept _ hevent'
        exact hconsistent.fresh_key hissues.1 hnew List.mem_cons_self
          (Db.mem_keys_of_webhookEvent hkept (by simp [WebhookEvent.keys, eventTable, hid]))
    · rw [show (service.update t.loc op ans).committed = _ from Session.committed_update hcommit] at hevent
      exact hpair event event' hevent hevent'

-- A commit of another request leaves the row alone.
theorem markedOn_of_waiting (h : Unprocessed pool) (hconsistent : Consistent pool) {i k : ℕ}
    {t u : ServiceThread} {transaction : Transaction} (hcommits : Commits pool i t transaction pool')
    (hk : pool.threads[k]? = some u) (hne : i ≠ k) {event : WebhookEvent}
    (hcommitted : u.loc.committed = [.insertWebhookEvent event]) : transaction.markedOn event.id = [] := by
  have hstored := h.stored k u hk event hcommitted
  cases hsettlement : transaction.settlement with
  | some x =>
      have hid := hconsistent.fresh_settlement hcommits hsettlement hstored
      simp [Transaction.markedOn, hsettlement, hid]
  | none =>
      cases transaction with
      | process event' time =>
          have hearlier : t.loc.committed = [.insertWebhookEvent event'] := hcommits.ready.committed
          have hid : event'.id ≠ event.id := by
            refine System.forall_of_pairwise Separate.symm h.separate hcommits.issues.1
              hk hne event' event ?_ ?_
            · simp [hearlier]
            · simp [hcommitted]
          simp [Transaction.markedOn, hsettlement, hid.symm]
      | _ => simp [Transaction.markedOn, hsettlement]

theorem Unprocessed.step (h : Unprocessed pool) (hconsistent : Consistent pool)
    (hproper : ∀ t ∈ pool.threads, Proper t) (hmove : service.Step pool move pool') : Unprocessed pool' := by
  refine ⟨separate_step h hconsistent hmove, fun k t' hk event hcommitted => ?_⟩
  rcases db_step hproper hmove with hquiet | ⟨i, t, transaction, -, hcommits⟩
  · rw [hquiet.db]
    rcases hquiet.origin hmove hk with hnone | ⟨t, ht, hsame⟩
    · simp [hnone] at hcommitted
    · exact h.stored k t ht event (hsame.symm.trans hcommitted)
  rw [hcommits.db, transaction.webhookEvents_applyAll]
  by_cases hik : i = k
  · subst hik
    obtain ⟨t'', hk'', -, -, hown⟩ := hcommits.self
    cases hk.symm.trans hk''
    have htransaction := Transaction.receive_of_single (hown.symm.trans hcommitted)
    refine List.mem_append_right _ ?_
    simp [htransaction, Transaction.received, Transaction.settlement]
  · have hold := (hcommits.other (Ne.symm hik)).symm.trans hk
    have hmarked := markedOn_of_waiting h hconsistent hcommits hold hik hcommitted
    refine List.mem_append_left _ (List.mem_map.mpr ⟨event, h.stored k t' hold event hcommitted, ?_⟩)
    rw [hmarked]
    rfl

variable {allow : ServicePool → ServiceMove → Prop} {t : ServiceThread} {args : EventArgs}

theorem unprocessed_run (hrun : service.Run allow ⟨{}, []⟩ pool) : Unprocessed pool := by
  have h := hrun.invariant_of_obeys (I := fun pool => Consistent pool ∧ Unprocessed pool) handler_obeys
    ⟨.initial, .nil, by simp⟩ (by simp) fun _ _ _ h hproper _ hmove =>
      ⟨h.1.step hproper hmove, h.2.step h.1 hproper hmove⟩
  exact h.1.2

-- A delivery that ends after a failure has committed its row and nothing else.
theorem stored_of_failed (hrun : service.Run allow ⟨{}, []⟩ pool) (ht : t ∈ pool.threads)
    (hdelivery : t.req.delivery = some args) {out : Except Exn Response} (hended : t.phase = .ended out)
    {row : WebhookEvent} (hfailed : ProcessingFailed t.loc row) :
    t.loc.committed = [.insertWebhookEvent row] := by
  have hstores := (hrun.invariant_of_obeys (I := fun _ => True) handler_stores trivial (by simp)
    fun _ _ _ _ _ _ _ => trivial).2 t ht
  unfold System.Obedient at hstores
  rw [hended] at hstores
  obtain ⟨s, hloc, hs⟩ := hstores
  have hnoticed : t.loc.broken = true := by
    rw [broken_run hrun ht, List.any_eq_true]
    exact hfailed.failed
  have hstored := hfailed.stored
  rw [hloc] at hnoticed hstored ⊢
  have hbroken : s.broken = true := hnoticed
  have hstored' : .insertWebhookEvent row ∈ s.committed := hstored
  show s.committed = _
  rcases hs (by simp [hdelivery]) hbroken with hnone | ⟨row', hone⟩
  · simp [hnone] at hstored'
  · rw [hone] at hstored' ⊢
    rw [List.mem_singleton.mp hstored']

theorem failed_processing (hrun : service.Run allow ⟨{}, []⟩ pool) (ht : t ∈ pool.threads)
    (hdelivery : t.req.delivery = some args) {out : Except Exn Response} (hended : t.phase = .ended out)
    {row : WebhookEvent} (hfailed : ProcessingFailed t.loc row) :
    ¬ RecordedAsFailed pool.shared.db row ∧ row ∈ pool.shared.db.webhookEvents ∧ row.Fresh ∧
      t.answer = none := by
  obtain ⟨hconsistent, hproper⟩ := consistent_run hrun
  have hcommitted := stored_of_failed hrun ht hdelivery hended hfailed
  obtain ⟨k, hk⟩ := List.mem_iff_getElem?.mp ht
  have hrow := (unprocessed_run hrun).stored k t hk row hcommitted
  have hrecorded := (hconsistent.grounded t ht).recorded
  have hfresh : row.Fresh := by
    cases receive_of_stored hrecorded hcommitted with
    | receive => exact ⟨rfl, rfl, rfl, rfl⟩
  refine ⟨?_, hrow, hfresh, waiting_unanswered (hproper t ht) hrecorded hcommitted⟩
  rintro ⟨event, hevent, hid, hstatus, -, -⟩
  have hsame : event = row := Db.row_unique (Db.nodup_webhookEvents hconsistent.keys_nodup) hevent hrow
    (show Key.providerEvent row.providerEventId ∈ event.keys by simp [WebhookEvent.keys, hid])
    (by simp [WebhookEvent.keys])
  rw [hsame, hfresh.status] at hstatus
  cases hstatus

end Runs

open Trial

-- The first statement of the processing step is refused, and everything after
-- it would be accepted again: the next delivery of the event is answered 200.
def refusedOnce : List ServiceCue :=
  [.arrive delivery] ++ turns 0 10 (reply 0) ++ turns 0 1 (refuse 0) ++ turns 0 2 (reply 0) ++
    turns 0 1 (refuse 0) ++ [.finish 0, .arrive delivery] ++ turns 1 4 (reply 1) ++ [.finish 1]

theorem failed_processing_refused : ∃ pool t row, service.Run (fun _ _ => True) ⟨{}, []⟩ pool ∧
    t ∈ pool.threads ∧ ProcessingFailed t.loc row ∧ row ∈ pool.shared.db.webhookEvents ∧
      row.status = .received ∧ row.attempts = 0 := by
  obtain ⟨pool, hrun, t, ht, hdelivery, hended, row, hrow, hfailed⟩ := exists_run (fun _ _ => True)
    (fun pool => ∃ t ∈ pool.threads, t.req = delivery ∧ (response t).isSome ∧
      ∃ row ∈ pool.shared.db.webhookEvents, ProcessingFailed t.loc row) refusedOnce (by decide +kernel)
  cases hphase : t.phase with
  | ended out =>
      obtain ⟨-, hstored, hfresh, -⟩ := failed_processing hrun ht (hdelivery ▸ delivery_args) hphase hfailed
      exact ⟨pool, t, row, hrun, ht, hfailed, hstored, hfresh.status, hfresh.attempts⟩
  | running rest => simp [response, hphase] at hended
  | died => simp [response, hphase] at hended

-- The row still waits, although the recovery branch has run and the database works.
theorem refused_event_received : ∃ pool, service.Run (fun _ _ => True) ⟨{}, []⟩ pool ∧
    (∃ t ∈ pool.threads, t.answer = some ⟨200, .empty⟩) ∧
    ∃ t ∈ pool.threads, ∃ row ∈ pool.shared.db.webhookEvents, t.req = delivery ∧
      (response t).map Response.status = some 500 ∧ ProcessingFailed t.loc row ∧
      ¬ RecordedAsFailed pool.shared.db row ∧ row.status = .received :=
  exists_run (fun _ _ => True) _ refusedOnce (by decide +kernel)

end BridgeOfHope
