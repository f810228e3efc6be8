import BridgeOfHope.Deliveries
import BridgeOfHope.Donations.Rails

namespace BridgeOfHope

open Process Payments

-- The webhook gate, and the log of events behind it.

-- One state of a stored event and a later one.
structure WebhookEvent.Later (event event' : WebhookEvent) : Prop where
  id : event'.id = event.id
  provider : event'.provider = event.provider
  providerEventId : event'.providerEventId = event.providerEventId
  eventType : event'.eventType = event.eventType
  payload : event'.payload = event.payload
  signatureValid : event'.signatureValid = event.signatureValid
  receivedAt : event'.receivedAt = event.receivedAt
  status : event'.status = event.status ∨
    event.status = .received ∧ (event'.status = .processed ∨ event'.status = .failed)

namespace WebhookEvent.Later

variable {event event' event'' : WebhookEvent}

theorem refl (event : WebhookEvent) : event.Later event := ⟨rfl, rfl, rfl, rfl, rfl, rfl, rfl, .inl rfl⟩

theorem trans (h : event.Later event') (h' : event'.Later event'') : event.Later event'' := by
  refine ⟨h'.id.trans h.id, h'.provider.trans h.provider, h'.providerEventId.trans h.providerEventId,
    h'.eventType.trans h.eventType, h'.payload.trans h.payload, h'.signatureValid.trans h.signatureValid,
    h'.receivedAt.trans h.receivedAt, ?_⟩
  rcases h'.status with hsame | ⟨hreceived, hend⟩
  · rw [hsame]
    exact h.status
  · rcases h.status with hsame | ⟨-, hend'⟩
    · exact .inr ⟨hsame ▸ hreceived, hend⟩
    · rw [hreceived] at hend'
      rcases hend' with h | h <;> cases h

-- An assignment that may only mark the row as processed.
theorem setAll (event : WebhookEvent) {columns : List WebhookEventSet}
    (hstatus : event.status = .received ∨ event.status = .processed)
    (hcolumns : ∀ status, .status status ∈ columns → status = .processed) :
    event.Later (event.setAll columns) := by
  refine ⟨by simp, by simp, by simp, by simp, by simp, by simp, by simp, ?_⟩
  rcases setAll_status_mem event columns with hsame | hmem
  · exact .inl hsame
  · have hprocessed := hcolumns _ hmem
    rcases hstatus with hreceived | hdone
    · exact .inr ⟨hreceived, .inl hprocessed⟩
    · exact .inl (hprocessed.trans hdone.symm)

end WebhookEvent.Later

theorem Transaction.markedOn_status {transaction : Transaction} {id : Uuid} {status : WebhookEventStatus}
    (h : .status status ∈ transaction.markedOn id) : status = .processed := by
  have hcolumns {event : WebhookEvent} {time : Time}
      (h : .status status ∈ event.changes (Ledger.processedColumns event none time)) : status = .processed := by
    have hmem := (List.mem_filter.mp h).1
    simpa [Ledger.processedColumns] using hmem
  unfold Transaction.markedOn at h
  split at h
  · split at h
    · exact hcolumns h
    · cases h
  · split at h
    · exact hcolumns h
    · cases h
  · cases h

-- A request that touches nothing and keeps to its end.
structure TurnedAway (t : ServiceThread) (result : Except Exn Response) : Prop where
  session : t.loc = {}
  phase : t.phase = .running (Prog.ofExcept result) ∨ t.phase = .ended result ∨ t.phase = .died

theorem TurnedAway.no_operation {t : ServiceThread} {result : Except Exn Response} (h : TurnedAway t result)
    {op : Op} {next : Ans op → Act Response} : t.phase ≠ .running (.call op next) := by
  intro hcall
  rcases h.phase with hphase | hphase | hphase
  · rw [hphase] at hcall
    cases result <;> cases hcall
  · cases hphase.symm.trans hcall
  · cases hphase.symm.trans hcall

-- What a commit does to a stored event.
theorem later_of_tracked {pool : ServicePool} {event : WebhookEvent} (h : Tracked pool)
    (hevent : event ∈ pool.shared.db.webhookEvents)
    (transaction : Transaction) : event.Later (event.setAll (transaction.markedOn event.id)) := by
  refine .setAll event ?_ fun status hstatus => Transaction.markedOn_status hstatus
  rcases h event hevent with hdone | ⟨hfresh, -⟩
  · exact .inr hdone.status
  · exact .inl hfresh.status

section Runs

variable [Platform]

-- How a webhook request ends when it does not get as far as the tables.
def Request.gate (request : Request) : Option (Except Exn Response) :=
  match request.endpoint with
  | .webhook endpoint headers rawBody =>
      match getProvider endpoint.providerName request.settings.settings with
      | .error _ => some (.ok ⟨401, .empty⟩)
      | .ok provider =>
          if provider.verifyWebhook (Webhooks.lowerHeaders headers) rawBody then
            match provider.parseEvent rawBody with
            | .error error => some (.error error)
            | .ok _ => none
          else some (.ok ⟨401, .empty⟩)
  | _ => none

theorem handler_of_gate {request : Request} {result : Except Exn Response} (h : request.gate = some result) :
    request.handler = Prog.ofExcept result := by
  unfold Request.gate at h
  unfold Request.handler
  split at h
  case h_2 => cases h
  next endpoint headers rawBody hendpoint =>
    simp only [hendpoint, Webhooks.handle]
    cases hprovider : getProvider endpoint.providerName request.settings.settings with
    | error error =>
        simp only [hprovider, Option.some.injEq] at h
        rw [← h]
        rfl
    | ok provider =>
        cases hverify : provider.verifyWebhook (Webhooks.lowerHeaders headers) rawBody with
        | false =>
            simp only [hprovider, hverify, Bool.false_eq_true, if_false, Option.some.injEq] at h
            rw [← h]
            simp only [hverify, Bool.false_eq_true, if_false]
            rfl
        | true =>
            cases hparse : provider.parseEvent rawBody with
            | error error =>
                simp only [hprovider, hverify, hparse, if_true, Option.some.injEq] at h
                rw [← h]
                simp only [hverify, hparse, if_true]
                rfl
            | ok event => simp [hprovider, hverify, hparse] at h

variable {pool pool' : ServicePool} {move : ServiceMove} {i : ℕ} {t : ServiceThread}
  {result : Except Exn Response}

theorem close_of_fresh {s : Session} (h : s = {}) : service.close s = {} := by
  rw [h]
  rfl

theorem TurnedAway.ended (h : TurnedAway t result) (out : Except Exn Response)
    (hphase : t.phase = .running (Prog.ofExcept out)) :
    TurnedAway ⟨t.req, service.close t.loc, .ended out⟩ result := by
  refine ⟨close_of_fresh h.session, .inr (.inl ?_)⟩
  rcases h.phase with hrunning | hended | hdied
  · rw [hphase] at hrunning
    cases out <;> cases result <;> cases hrunning <;> rfl
  · cases hphase.symm.trans hended
  · cases hphase.symm.trans hdied

theorem turnedAway_run {allow : ServicePool → ServiceMove → Prop} (hrun : service.Run allow ⟨{}, []⟩ pool) :
    ∀ t ∈ pool.threads, ∀ result, t.req.gate = some result → TurnedAway t result := by
  refine hrun.invariant (I := fun pool => ∀ t ∈ pool.threads, ∀ result, t.req.gate = some result →
    TurnedAway t result) (by simp) fun pool move pool' h _ hmove => ?_
  cases hmove with
  | arrive shared threads request =>
      intro t ht result hgate
      rcases List.mem_append.mp ht with hold | hnew
      · exact h t hold result hgate
      · rw [List.mem_singleton.mp hnew] at hgate ⊢
        exact ⟨rfl, .inl (congrArg _ (handler_of_gate hgate))⟩
  | act hthread hanswer =>
      refine System.forall_mem_set h fun result hgate => ?_
      exact absurd rfl (h _ (List.mem_of_getElem? hthread) result hgate).no_operation
  | finish hthread =>
      refine System.forall_mem_set h fun result hgate => ?_
      exact (h _ (List.mem_of_getElem? hthread) result hgate).ended (.ok _) rfl
  | fail hthread =>
      refine System.forall_mem_set h fun result hgate => ?_
      exact (h _ (List.mem_of_getElem? hthread) result hgate).ended (.error _) rfl
  | crash hthread =>
      refine System.forall_mem_set h fun result hgate => ?_
      obtain ⟨hsession, -⟩ := h _ (List.mem_of_getElem? hthread) result hgate
      exact ⟨close_of_fresh hsession, .inr (.inr rfl)⟩

-- Stripe is the one rail that ever accepts a delivery.
theorem delivery_signed {request : Request} {args : EventArgs} (h : request.delivery = some args) :
    args.signatureValid = true := by
  obtain ⟨endpoint, headers, rawBody, provider, event, -, hprovider, hverify, hparse, rfl⟩ := delivery_cases h
  rcases getProvider_cases hprovider with ⟨hname, -⟩ | ⟨-, rfl⟩ | ⟨-, base, rfl⟩ | ⟨-, host, rfl⟩ | ⟨-, rfl⟩
  · have hne : endpoint.providerName ≠ "test" := by cases endpoint <;> decide
    exact absurd hname hne
  · have hread : StripeProvider.parseEvent rawBody = .ok event := hparse
    unfold StripeProvider.parseEvent at hread
    cases hdata : Platform.loads rawBody with
    | error error => simp [hdata, bind, Except.bind] at hread
    | ok data =>
        cases hid : data.item "id" with
        | error error => simp [hdata, hid, bind, Except.bind] at hread
        | ok id =>
            cases htype : data.item "type" with
            | error error => simp [hdata, hid, htype, bind, Except.bind] at hread
            | ok type =>
                simp only [hdata, hid, htype, bind, Except.bind, pure, Except.pure, Except.ok.injEq] at hread
                rw [← hread]
  · cases hverify
  · cases hverify
  · cases hverify

-- A verified delivery, or a gift on the test rail.
def MayStore (request : Request) (stored : WebhookEvent) : Prop :=
  (∃ args, request.delivery = some args ∧ args.Inserts stored) ∨
    request.rail = some "test" ∧ stored.provider = "test"

def Genuine (pool : ServicePool) (event : WebhookEvent) : Prop :=
  event.signatureValid = true ∧ ∃ t ∈ pool.threads, ∃ stored, .insertWebhookEvent stored ∈ t.loc.committed ∧
    stored.Later event ∧ MayStore t.req stored

theorem Genuine.later {event event' : WebhookEvent} (h : Genuine pool event) (hevent : event.Later event')
    (hmove : service.Step pool move pool') : Genuine pool' event' := by
  obtain ⟨hsigned, t, ht, stored, hstored, hlater, hmay⟩ := h
  obtain ⟨t', ht', hreq, -, hcommitted⟩ := thread_later hmove ht
  exact ⟨hevent.signatureValid.trans hsigned, t', ht', stored, hcommitted.subset hstored,
    hlater.trans hevent, hreq ▸ hmay⟩

variable {transaction : Transaction} {name : String}

-- What a step does to it.
theorem event_step (htracked : Tracked pool) (hproper : ∀ t ∈ pool.threads, Proper t)
    (hmove : service.Step pool move pool') {event : WebhookEvent}
    (hevent : event ∈ pool.shared.db.webhookEvents) :
    ∃ event' ∈ pool'.shared.db.webhookEvents, event.Later event' := by
  rcases db_step hproper hmove with hquiet | ⟨i, t, transaction, -, hcommits⟩
  · exact ⟨event, hquiet.db ▸ hevent, .refl event⟩
  · refine ⟨event.setAll (transaction.markedOn event.id), ?_, later_of_tracked htracked hevent transaction⟩
    rw [hcommits.db, transaction.webhookEvents_applyAll]
    exact List.mem_append_left _ (List.mem_map_of_mem hevent)

-- A settlement is that of a gift on the test rail.
theorem rail_of_settlement {x : Settlement} (hcommits : Commits pool i t transaction pool')
    (hspares : service.Obedient Spares (fun _ _ _ => True) t) (hx : transaction.settlement = some x) :
    t.req.rail = some "test" ∧ ∃ eventType subject, x.Synthetic eventType subject t.loc := by
  have hstored : ¬ Eventless t.loc := by
    intro hnone
    refine hnone x.event (List.mem_append_left _ ?_)
    rw [hcommits.flushed]
    exact Transaction.mem_stmts_of_settlement hx (Settlement.mem_stmts.mpr (.inl rfl))
  have hspare := hspares.issued hcommits.issues
  rcases hcommits.ready.licensed.settled hx with
    ⟨body, step, token, hrequest, -, -, -, -, hsynthetic⟩ |
      ⟨body, step, subscription, time, token, id, hrequest, -, -, -, -, -, hsynthetic⟩
  · have hrail : t.req.rail = some body.provider := by simp [Request.rail, hrequest]
    refine ⟨?_, _, _, hsynthetic⟩
    by_contra hname
    exact hstored (hspare _ hrail fun heq => hname (heq ▸ hrail))
  · have hrail : t.req.rail = some body.provider := by simp [Request.rail, hrequest]
    refine ⟨?_, _, _, hsynthetic⟩
    by_contra hname
    exact hstored (hspare _ hrail fun heq => hname (heq ▸ hrail))

-- Where the events that a commit adds come from.
theorem genuine_received (hcommits : Commits pool i t transaction pool')
    (hspares : service.Obedient Spares (fun _ _ _ => True) t) {event : WebhookEvent}
    (hevent : event ∈ transaction.received) : Genuine pool' event := by
  obtain ⟨t', hi', hreq, -, hcommitted⟩ := hcommits.self
  have ht' := List.mem_of_getElem? hi'
  cases hsettlement : transaction.settlement with
  | some x =>
      obtain ⟨hrail, eventType, subject, hsynthetic⟩ := rail_of_settlement hcommits hspares hsettlement
      obtain ⟨hfresh, hprovider, -⟩ := hsynthetic.rows
      simp only [Transaction.received, hsettlement, List.mem_singleton] at hevent
      have hlater : x.event.Later event := by
        rw [hevent]
        refine .setAll x.event (.inl hfresh.status) fun status hstatus => ?_
        simpa [Ledger.processedColumns] using (List.mem_filter.mp hstatus).1
      have hsigned : x.event.signatureValid = true := by
        obtain ⟨token, -, occurredAt, id, receivedAt, hrow⟩ := hsynthetic.event
        rw [hrow]
        rfl
      refine ⟨hlater.signatureValid.trans hsigned, t', ht', x.event, ?_, hlater, .inr ⟨hreq ▸ hrail, hprovider⟩⟩
      rw [hcommitted]
      exact List.mem_append_right _ (Transaction.mem_stmts_of_settlement hsettlement
        (Settlement.mem_stmts.mpr (.inl rfl)))
  | none =>
      cases transaction with
      | receive received =>
          cases received with
          | none => cases hevent
          | some event' =>
              obtain rfl := List.mem_singleton.mp hevent
              cases hcommits.ready.licensed with
              | receive hrequest hid htype hmissing =>
                  refine ⟨delivery_signed hrequest, t', ht', _, ?_, .refl _, .inl ⟨_, hreq ▸ hrequest, ?_⟩⟩
                  · rw [hcommitted]
                    exact List.mem_cons_self
                  · exact ⟨_, _, _, _, hid, htype, rfl⟩
      | _ => simp [Transaction.received, hsettlement] at hevent

-- Everything that is known of a reachable state.
structure Logged (pool : ServicePool) : Prop where
  consistent : Consistent pool
  tracked : Tracked pool
  genuine : ∀ event ∈ pool.shared.db.webhookEvents, Genuine pool event

theorem Logged.step (h : Logged pool) (hproper : ∀ t ∈ pool.threads, Proper t)
    (hspares : ∀ t ∈ pool.threads, service.Obedient Spares (fun _ _ _ => True) t)
    (hmove : service.Step pool move pool') : Logged pool' := by
  refine ⟨h.consistent.step hproper hmove, h.tracked.step h.consistent hproper hmove, fun event hevent => ?_⟩
  rcases db_step hproper hmove with hquiet | ⟨i, t, transaction, -, hcommits⟩
  · exact (h.genuine event (hquiet.db ▸ hevent)).later (.refl event) hmove
  · rw [hcommits.db, transaction.webhookEvents_applyAll] at hevent
    rcases List.mem_append.mp hevent with hold | hnew
    · obtain ⟨row, hrow, rfl⟩ := List.mem_map.mp hold
      exact (h.genuine row hrow).later (later_of_tracked h.tracked hrow transaction) hmove
    · exact genuine_received hcommits (hspares t hcommits.mem) hnew

theorem logged_run {allow : ServicePool → ServiceMove → Prop} (hrun : service.Run allow ⟨{}, []⟩ pool) :
    Logged pool ∧ ∀ t ∈ pool.threads, Proper t := by
  have hobeys (request : Request) := (handler_obeys request).and (handler_spares request)
  have h := hrun.invariant_of_obeys (I := Logged) hobeys ⟨.initial, by simp [Tracked], by simp⟩ (by simp)
    fun pool move pool' h hall _ hmove => ?_
  · refine ⟨h.1, fun t ht => (h.2 t ht).mono (fun _ _ _ h => h.1) fun _ _ _ h => h.1⟩
  · refine h.step (fun t ht => ?_) (fun t ht => ?_) hmove
    · exact (hall t ht).mono (fun _ _ _ h => h.1) fun _ _ _ h => h.1
    · exact (hall t ht).mono (fun _ _ _ h => h.2) fun _ _ _ h => h.2

-- No row of any table goes away.
theorem holds_step (hproper : ∀ t ∈ pool.threads, Proper t) (hmove : service.Step pool move pool') {stmt : Stmt}
    (h : pool.shared.db.holds stmt) : pool'.shared.db.holds stmt := by
  rcases db_step hproper hmove with hquiet | ⟨i, t, transaction, -, hcommits⟩
  · rw [hquiet.db]
    exact h
  · rw [hcommits.db]
    exact Db.holds_applyAll h _

-- The rest of a run, seen from a reachable state.
theorem log_later {allow allow' : ServicePool → ServiceMove → Prop} (hrun : service.Run allow ⟨{}, []⟩ pool)
    (hrest : service.Run allow' pool pool') :
    (∀ stmt, pool.shared.db.holds stmt → pool'.shared.db.holds stmt) ∧
      ∀ event ∈ pool.shared.db.webhookEvents, ∃ event' ∈ pool'.shared.db.webhookEvents, event.Later event' := by
  have h := hrest.invariant (I := fun pool' => service.Run (fun _ _ => True) ⟨{}, []⟩ pool' ∧
    (∀ stmt, pool.shared.db.holds stmt → pool'.shared.db.holds stmt) ∧
      ∀ event ∈ pool.shared.db.webhookEvents, ∃ event' ∈ pool'.shared.db.webhookEvents, event.Later event')
    ⟨hrun.mono fun _ _ _ => trivial, fun _ h => h, fun event hevent => ⟨event, hevent, .refl event⟩⟩
    fun pool₁ move pool₂ ⟨hreach, hholds, hlater⟩ _ hmove => ?_
  · exact h.2
  · obtain ⟨hlogged, hproper⟩ := logged_run hreach
    refine ⟨hreach.tail ⟨move, trivial, hmove⟩, fun stmt hstmt => ?_, fun event hevent => ?_⟩
    · exact holds_step hproper hmove (hholds stmt hstmt)
    · obtain ⟨event₁, hmem₁, hlater₁⟩ := hlater event hevent
      obtain ⟨event₂, hmem₂, hlater₂⟩ := event_step hlogged.tracked hproper hmove hmem₁
      exact ⟨event₂, hmem₂, hlater₁.trans hlater₂⟩

-- A request that the gate stops ends as the gate says, and no step of it touches
-- what is shared.
structure Stopped (pool : ServicePool) (i : ℕ) (t : ServiceThread) (result : Except Exn Response) : Prop where
  outcome : ∀ out, t.phase = .ended out → out = result
  ends : ∀ rest, t.phase = .running rest → ∃ pool', service.Step pool (.finish i) pool' ∧
    ∃ t', pool'.threads[i]? = some t' ∧ t'.phase = .ended result
  untouched : ∀ move pool', service.Step pool move pool' →
    (∃ op ans, move = .act i op ans) ∨ move = .finish i ∨ move = .crash i → pool'.shared = pool.shared

theorem TurnedAway.stopped (h : TurnedAway t result) (hi : pool.threads[i]? = some t) :
    Stopped pool i t result := by
  refine ⟨fun out hout => ?_, fun rest hrest => ?_, fun move pool' hmove hplace => ?_⟩
  · rcases h.phase with hphase | hphase | hphase
    · cases hphase.symm.trans hout
    · cases hphase.symm.trans hout
      rfl
    · cases hphase.symm.trans hout
  · obtain ⟨shared, threads⟩ := pool
    obtain ⟨request, s, phase⟩ := t
    have hlt := (List.getElem?_eq_some_iff.mp hi).1
    rcases h.phase with hphase | hphase | hphase
    · cases hphase
      cases result with
      | ok response => exact ⟨_, .finish hi, _, List.getElem?_set_self hlt, rfl⟩
      | error error => exact ⟨_, .fail hi, _, List.getElem?_set_self hlt, rfl⟩
    · cases hphase.symm.trans hrest
    · cases hphase.symm.trans hrest
  · cases hmove with
    | act hthread hanswer =>
        rcases hplace with ⟨op, ans, hmove⟩ | hmove | hmove
        · cases hmove
          cases hi.symm.trans hthread
          exact absurd rfl h.no_operation
        · cases hmove
        · cases hmove
    | _ => rfl

theorem webhook_log {allow : ServicePool → ServiceMove → Prop} (hrun : service.Run allow ⟨{}, []⟩ pool) :
    (∀ i t, pool.threads[i]? = some t → ∀ result, t.req.gate = some result → Stopped pool i t result) ∧
    (∀ event ∈ pool.shared.db.webhookEvents, Genuine pool event) ∧
    ∀ allow' pool', service.Run allow' pool pool' →
      (∀ stmt, pool.shared.db.holds stmt → pool'.shared.db.holds stmt) ∧
        ∀ event ∈ pool.shared.db.webhookEvents,
          ∃ event' ∈ pool'.shared.db.webhookEvents, event.Later event' := by
  refine ⟨fun i t hi result hgate => ?_, (logged_run hrun).1.genuine, fun allow' pool' hrest => ?_⟩
  · exact (turnedAway_run hrun t (List.mem_of_getElem? hi) result hgate).stopped hi
  · exact log_later hrun hrest

end Runs

open Trial

def unsigned : Request := ⟨settings, .webhook .stripe [] eventBody⟩

def oneRefused : List ServiceCue :=
  [.arrive delivery] ++ turns 0 13 (reply 0) ++ [.finish 0, .arrive unsigned]

theorem webhook_log_oneRefused : ∃ pool i t, service.Run (fun _ _ => True) ⟨{}, []⟩ pool ∧
    pool.threads[i]? = some t ∧ Stopped pool i t (.ok ⟨401, .empty⟩) ∧
      (∃ event ∈ pool.shared.db.webhookEvents, Genuine pool event) ∧
      ∀ event ∈ pool.shared.db.webhookEvents, ∃ event' ∈ pool.shared.db.webhookEvents, event.Later event' := by
  obtain ⟨pool, hrun, ⟨t, ht, hrequest⟩, hne⟩ := exists_run (fun _ _ => True)
    (fun pool => (∃ t ∈ pool.threads[1]?, t.req = unsigned) ∧ pool.shared.db.webhookEvents ≠ [])
    oneRefused (by decide +kernel)
  obtain ⟨hgate, hgenuine, hlater⟩ := webhook_log hrun
  obtain ⟨event, hevent⟩ := List.exists_mem_of_ne_nil _ hne
  have hstopped : t.req.gate = some (.ok ⟨401, .empty⟩) := by
    rw [hrequest]
    decide +kernel
  exact ⟨pool, 1, t, hrun, ht, hgate 1 t ht _ hstopped, ⟨event, hevent, hgenuine event hevent⟩,
    (hlater (fun _ _ => True) pool .refl).2⟩

end BridgeOfHope
