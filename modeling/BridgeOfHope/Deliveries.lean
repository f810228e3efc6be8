import BridgeOfHope.Consistency
import BridgeOfHope.Transactions.Effects

namespace BridgeOfHope

open Process

-- What becomes of an event that a provider delivers: the row of every event is
-- processed, or it waits for the second commit of the delivery that stored it.

structure WebhookEvent.Done (event : WebhookEvent) : Prop where
  status : event.status = .processed
  attempts : event.attempts = 1
  error : event.error = none

def Waiting (pool : ServicePool) (event : WebhookEvent) : Prop :=
  event.Fresh ∧ ∃ t ∈ pool.threads, t.loc.committed = [.insertWebhookEvent event]

def Tracked (pool : ServicePool) : Prop :=
  ∀ event ∈ pool.shared.db.webhookEvents, event.Done ∨ Waiting pool event

-- A statement that the database refused.
def Event.fails : Event → Bool
  | ⟨.flush, .error _⟩ => true
  | ⟨.query _, .error _⟩ => true
  | ⟨.commit, .error _⟩ => true
  | _ => false

theorem Session.broken_update (s : Session) (op : Op) (ans : Ans op) :
    (s.update op ans).broken = (s.broken || Event.fails ⟨op, ans⟩) := by
  cases op with
  | flush => cases ans <;> simp [update, advance, abort, Event.fails]
  | query query => cases ans <;> simp [update, advance, abort, Event.fails]
  | commit => cases ans <;> simp [update, advance, abort, Event.fails]
  | _ => simp [update, advance, Event.fails]

theorem Transaction.receive_of_single {transaction : Transaction} {event : WebhookEvent}
    (h : transaction.earlier ++ transaction.stmts = [.insertWebhookEvent event]) :
    transaction = .receive (some event) := by
  have hmem : .insertWebhookEvent event ∈ transaction.earlier ++ transaction.stmts := by simp [h]
  rcases List.mem_append.mp hmem with hmem | hmem
  · cases transaction with
    | process => cases h
    | _ => cases hmem
  · rcases Transaction.event_cases hmem with ⟨x, hx, -⟩ | heq
    · have hupdate := Transaction.mem_stmts_of_settlement hx (Settlement.mem_stmts.mpr (.inr (.inr rfl)))
      have hone := h ▸ List.mem_append_right transaction.earlier hupdate
      simp at hone
    · exact heq

-- Processing makes a fresh row done, and leaves a row done that is so already.
theorem WebhookEvent.done_of_processed {row event : WebhookEvent} {time : Time} (hevent : event.Fresh)
    (hrow : row.Done ∨ row.Fresh) :
    (row.setAll (event.changes (Ledger.processedColumns event none time))).Done := by
  have hchanges : event.changes (Ledger.processedColumns event none time) =
      [.processedAt (some time), .status .processed, .attempts 1] := by
    obtain ⟨hstatus, hattempts, herror, hat⟩ := hevent
    cases event
    simp only at hstatus hattempts herror hat
    subst hstatus hattempts herror hat
    simp [WebhookEvent.changes, Ledger.processedColumns, WebhookEvent.set]
  have herror : row.error = none := hrow.elim (·.error) (·.error)
  rw [hchanges]
  exact ⟨rfl, rfl, herror⟩

theorem Waiting.quiet {event : WebhookEvent} {pool pool' : ServicePool}
    (h : Waiting pool event) (hquiet : Quiet pool pool') :
    Waiting pool' event := by
  obtain ⟨hfresh, t, ht, hcommitted⟩ := h
  obtain ⟨k, hk⟩ := List.mem_iff_getElem?.mp ht
  obtain ⟨t', hk', -, -, heq⟩ := hquiet.threads k t hk
  exact ⟨hfresh, t', List.mem_of_getElem? hk', heq.trans hcommitted⟩

-- A session that has looked once has not both found a row and missed it.
theorem not_missed_of_read {s : Session} {providerEventId : String} {found : WebhookEvent}
    (hlooked : s.lookups.length ≤ 1) (hread : s.Read (.eventByProviderEventId providerEventId) found) :
    ⟨.query (.eventByProviderEventId providerEventId), .ok []⟩ ∉ s.past := by
  intro hmissed
  obtain ⟨rows, hrows, hfound⟩ := hread
  have hone := Session.mem_lookups.mpr hrows
  have hnone := Session.mem_lookups.mpr hmissed
  have hlength : s.lookups.length = 1 := Nat.le_antisymm hlooked (List.length_pos_of_mem hone)
  obtain ⟨lookup, hlookup⟩ := List.length_eq_one_iff.mp hlength
  rw [hlookup, List.mem_singleton] at hone hnone
  cases hone.trans hnone.symm
  cases hfound

section Runs

variable [Platform] {pool pool' : ServicePool} {move : ServiceMove} {i : ℕ} {t : ServiceThread}
  {transaction : Transaction}

-- A row that the transaction does not mark keeps its delivery, unless that
-- delivery is the one that commits.
theorem Waiting.commits {event : WebhookEvent} (h : Waiting pool event)
    (hcommits : Commits pool i t transaction pool')
    (hother : ∀ time, transaction ≠ .process event time) : Waiting pool' event := by
  obtain ⟨hfresh, t₀, ht₀, hcommitted⟩ := h
  obtain ⟨k, hk⟩ := List.mem_iff_getElem?.mp ht₀
  have hne : k ≠ i := by
    rintro rfl
    cases hk.symm.trans hcommits.issues.1
    rw [hcommits.ready.committed] at hcommitted
    cases transaction with
    | process event' time =>
        cases hcommitted
        exact hother time rfl
    | _ => cases hcommitted
  exact ⟨hfresh, t₀, List.mem_of_getElem? ((hcommits.other hne).trans hk), hcommitted⟩

-- The rows that a transaction adds.
theorem tracked_received (hcommits : Commits pool i t transaction pool') {event : WebhookEvent}
    (hevent : event ∈ transaction.received) : event.Done ∨ Waiting pool' event := by
  cases hsettlement : transaction.settlement with
  | some x =>
      have hfresh : x.event.Fresh := by
        rcases hcommits.ready.licensed.settled hsettlement with
          ⟨_, _, _, -, -, -, -, -, hx⟩ | ⟨_, _, _, _, _, _, -, -, -, -, -, -, hx⟩
        · exact hx.rows.1
        · exact hx.rows.1
      simp only [Transaction.received, hsettlement, List.mem_singleton] at hevent
      rw [hevent]
      exact .inl (WebhookEvent.done_of_processed hfresh (.inr hfresh))
  | none =>
      cases transaction with
      | receive received =>
          cases received with
          | none => cases hevent
          | some event' =>
              obtain rfl := List.mem_singleton.mp hevent
              obtain ⟨t', hi', -, -, hcommitted⟩ := hcommits.self
              refine .inr ⟨?_, t', List.mem_of_getElem? hi', hcommitted⟩
              cases hcommits.ready.licensed with
              | receive hrequest hid htype hmissing => exact ⟨rfl, rfl, rfl, rfl⟩
      | _ => simp [Transaction.received, hsettlement] at hevent

-- It is enough to know the rows of the same event.
theorem tracked_step {event : WebhookEvent} (h : ∀ row ∈ pool.shared.db.webhookEvents,
      row.providerEventId = event.providerEventId → row.Done ∨ Waiting pool row)
    (hconsistent : Consistent pool) (hproper : ∀ t ∈ pool.threads, Proper t)
    (hmove : service.Step pool move pool')
    (hevent : event ∈ pool'.shared.db.webhookEvents) : event.Done ∨ Waiting pool' event := by
  rcases db_step hproper hmove with hquiet | ⟨i, t, transaction, -, hcommits⟩
  · exact (h event (hquiet.db ▸ hevent) rfl).imp_right (·.quiet hquiet)
  rw [hcommits.db, transaction.webhookEvents_applyAll] at hevent
  rcases List.mem_append.mp hevent with hevent | hevent
  case inr => exact tracked_received hcommits hevent
  obtain ⟨row, hrow, rfl⟩ := List.mem_map.mp hevent
  have htracked := h row hrow (WebhookEvent.setAll_providerEventId row _).symm
  cases hsettlement : transaction.settlement with
  | some x =>
      -- the event of the payment is new, so no stored row is marked
      have hid := hconsistent.fresh_settlement hcommits hsettlement hrow
      have hsame : row.setAll (transaction.markedOn row.id) = row := by
        simp [Transaction.markedOn, hsettlement, hid]
      rw [hsame]
      refine htracked.imp_right fun hwaiting => hwaiting.commits hcommits fun time heq => ?_
      rw [heq] at hsettlement
      cases hsettlement
  | none =>
      cases transaction with
      | process event time =>
          by_cases hid : row.id = event.id
          · rw [show Transaction.markedOn row.id (.process event time) = _ from if_pos hid]
            cases hcommits.ready.licensed with
            | process =>
                exact .inl (WebhookEvent.done_of_processed ⟨rfl, rfl, rfl, rfl⟩
                  (htracked.imp_right (·.1)))
          · rw [show Transaction.markedOn row.id (.process event time) = [] from if_neg hid]
            refine htracked.imp_right fun hwaiting => hwaiting.commits hcommits fun time' heq => ?_
            cases heq
            exact hid rfl
      | _ =>
          have hsame : ∀ marked, marked = [] → row.setAll marked = row := by rintro _ rfl; rfl
          rw [hsame _ (by simp [Transaction.markedOn, hsettlement])]
          exact htracked.imp_right fun hwaiting =>
            hwaiting.commits hcommits fun time heq => by cases heq

theorem Tracked.step (h : Tracked pool) (hconsistent : Consistent pool)
    (hproper : ∀ t ∈ pool.threads, Proper t) (hmove : service.Step pool move pool') :
    Tracked pool' :=
  fun _ hevent => tracked_step (fun row hrow _ => h row hrow) hconsistent hproper hmove hevent

theorem tracked_run {allow : ServicePool → ServiceMove → Prop}
    (hrun : service.Run allow ⟨{}, []⟩ pool) : Tracked pool := by
  have h := hrun.invariant_of_obeys (I := fun pool => Consistent pool ∧ Tracked pool) handler_obeys
    ⟨.initial, by simp [Tracked]⟩ (by simp) fun _ _ _ h hproper _ hmove =>
      ⟨h.1.step hproper hmove, h.2.step h.1 hproper hmove⟩
  exact h.1.2

-- A delivery that is answered is answered 200, for having found its event or
-- for having stored and processed it.
theorem answered_delivery (hproper : Proper t) {args : EventArgs} (hdelivery : t.req.delivery = some args)
    {response : Response} (hanswer : t.answer = some response) :
    response = ⟨200, .empty⟩ ∧ Acknowledged t.req t.loc := by
  obtain ⟨s, hloc, -, -, hconcludes⟩ := proper_answer hproper hanswer
  obtain ⟨endpoint, headers, rawBody, hrequest⟩ := delivery_endpoint hdelivery
  rw [hrequest] at hconcludes
  rcases hconcludes with ⟨hresponse, h⟩ | ⟨-, hnone, -⟩
  · rw [hloc]
    exact ⟨hresponse, h⟩
  · cases hdelivery.symm.trans hnone

-- Only a delivery commits a single event row.
theorem receive_of_stored {event : WebhookEvent} {request : Request} {s : Session}
    (h : Recorded request s) (hcommitted : s.committed = [.insertWebhookEvent event]) :
    Licensed request s (.receive (some event)) := by
  rcases h with h | ⟨transaction, h, hlicensed⟩
  · cases h.symm.trans hcommitted
  · rw [← Transaction.receive_of_single (h.symm.trans hcommitted)]
    exact hlicensed

theorem delivery_of_stored {event : WebhookEvent} {request : Request} {s : Session}
    (h : Recorded request s) (hcommitted : s.committed = [.insertWebhookEvent event]) :
    ∃ args, request.delivery = some args := by
  cases receive_of_stored h hcommitted with
  | receive hrequest _ _ _ => exact ⟨_, hrequest⟩

-- The delivery of a row that waits has not been answered.
theorem waiting_unanswered {event : WebhookEvent} (hproper : Proper t) (hrecorded : Recorded t.req t.loc)
    (hcommitted : t.loc.committed = [.insertWebhookEvent event]) : t.answer = none := by
  obtain ⟨args, hdelivery⟩ := delivery_of_stored hrecorded hcommitted
  cases hanswer : t.answer with
  | none => rfl
  | some response =>
      obtain ⟨-, _, _, -, -, h⟩ := answered_delivery hproper hdelivery hanswer
      rw [hcommitted] at h
      rcases h with ⟨h, -⟩ | ⟨_, _, _, _, h⟩ <;> cases h

-- What an answer of 200 to a delivery is worth: the event is stored. It has
-- been processed, or the delivery that stored it did not get to an answer.
structure Kept (pool : ServicePool) (t : ServiceThread) (event : WebhookEvent) : Prop where
  stored : event ∈ pool.shared.db.webhookEvents
  state : event.Done ∨ event.status = .received ∧ ∃ t' ∈ pool.threads,
    t'.loc.committed = [.insertWebhookEvent event] ∧ t'.answer = none
  delivery : t.loc.committed = [] ∧
      (∃ found, t.loc.Read (.eventByProviderEventId event.providerEventId) found) ∨
    ∃ stored time, t.loc.committed =
      [.insertWebhookEvent stored] ++ (Transaction.process stored time).stmts

theorem kept_of_answered {allow : ServicePool → ServiceMove → Prop}
    (hrun : service.Run allow ⟨{}, []⟩ pool) (ht : t ∈ pool.threads) {args : EventArgs}
    (hdelivery : t.req.delivery = some args) (hanswer : t.answer = some ⟨200, .empty⟩) :
    ∃ event, args.providerEventId = .str event.providerEventId ∧ Kept pool t event := by
  obtain ⟨hconsistent, hproper⟩ := consistent_run hrun
  have hgrounded := hconsistent.grounded t ht
  obtain ⟨-, args', providerEventId, hargs', hid, hcase⟩ := answered_delivery (hproper t ht) hdelivery hanswer
  cases hdelivery.symm.trans hargs'
  have hstate (event : WebhookEvent) (hevent : event ∈ pool.shared.db.webhookEvents) :
      event.Done ∨ event.status = .received ∧ ∃ t' ∈ pool.threads,
        t'.loc.committed = [.insertWebhookEvent event] ∧ t'.answer = none := by
    refine (tracked_run hrun event hevent).imp_right fun ⟨hfresh, t', ht', hcommitted⟩ => ?_
    exact ⟨hfresh.status, t', ht', hcommitted,
      waiting_unanswered (hproper t' ht') (hconsistent.grounded t' ht').recorded hcommitted⟩
  rcases hcase with ⟨hcommitted, found, hread⟩ | ⟨eventType, id, receivedAt, time, hcommitted⟩
  · obtain ⟨⟨columns, hevent⟩, haccepts⟩ := hgrounded.reads _ _ hread
    have hsame : found.providerEventId = providerEventId := by simpa [Query.accepts] using haccepts
    have hfound : (eventTable.set found columns).providerEventId = providerEventId :=
      (WebhookEvent.setAll_providerEventId found columns).trans hsame
    refine ⟨_, by rw [hid, hfound], hevent, hstate _ hevent, .inl ⟨hcommitted, found, ?_⟩⟩
    rwa [hfound]
  · obtain ⟨columns, hevent⟩ := hgrounded.kept
      (.insertWebhookEvent (args.row providerEventId eventType id receivedAt))
      (by rw [hcommitted]; exact List.mem_cons_self)
    have hstored : (eventTable.set (args.row providerEventId eventType id receivedAt)
        columns).providerEventId = providerEventId := WebhookEvent.setAll_providerEventId _ columns
    exact ⟨_, by rw [hid, hstored], hevent, hstate _ hevent, .inr ⟨_, time, hcommitted⟩⟩

-- A session is broken when a statement of it has failed.
theorem broken_run {allow : ServicePool → ServiceMove → Prop} {world : World}
    (hrun : service.Run allow ⟨world, []⟩ pool) (ht : t ∈ pool.threads) :
    t.loc.broken = t.loc.past.any Event.fails := by
  let Noticed (s : Session) : Prop := s.broken = s.past.any Event.fails
  have hupdate (s : Session) (op : Op) (ans : Ans op) (h : Noticed s) : Noticed (s.update op ans) := by
    show (s.update op ans).broken = (Event.fails ⟨op, ans⟩ || s.past.any Event.fails)
    rw [Session.broken_update, h, Bool.or_comm]
  have h := hrun.invariant_of_obeys (I := fun pool => ∀ t ∈ pool.threads, Noticed t.loc) handler_obeys
    (by simp) (by simp) fun pool move pool' h hproper _ hmove => hmove.forall_threads hproper
      (P := fun _ _ s => Noticed s) (fun _ _ => rfl) (fun _ _ hs => hs)
      (fun _ t op ans _ _ _ _ hs => hupdate t.loc op ans hs) (fun _ _ _ _ _ _ _ _ _ hs => hs) h
  exact h.1 t ht

-- A delivery looks for its event once.
theorem looked_run {allow : ServicePool → ServiceMove → Prop} {world : World}
    (hrun : service.Run allow ⟨world, []⟩ pool) (ht : t ∈ pool.threads) (hwebhook : t.req.isWebhook = true) :
    t.loc.lookups.length ≤ 1 := by
  have h := hrun.invariant_of_obeys
    (I := fun pool => ∀ t ∈ pool.threads, t.req.isWebhook = true → t.loc.lookups.length ≤ 1) handler_obeys
    (by simp) (by simp) fun pool move pool' h hproper _ hmove => ?_
  · exact h.1 t ht hwebhook
  refine hmove.forall_threads hproper
    (P := fun _ request s => request.isWebhook = true → s.lookups.length ≤ 1)
    (fun _ _ _ => Nat.zero_le _) (fun _ _ hs => hs) ?_ (fun _ _ _ _ _ _ _ _ _ hs => hs) h
  intro i t op ans _ _ hpermits _ hs hwebhook
  have hquiet (hlookup : Event.lookup ⟨op, ans⟩ = none) : (t.loc.update op ans).lookups.length ≤ 1 := by
    rw [Session.lookups, Session.update, List.filterMap_cons, hlookup]
    exact hs hwebhook
  cases op with
  | query query => cases query with
    | eventByProviderEventId providerEventId => cases ans with
      | ok rows =>
          obtain ⟨hnone, -⟩ := hpermits.2 hwebhook
          show ((providerEventId, rows) :: t.loc.lookups).length ≤ 1
          simp [hnone]
      | error _ => exact hquiet rfl
    | _ => exact hquiet rfl
  | _ => exact hquiet rfl

-- A delivery that finds its event is answered 200, unless a statement fails.
def AnswersFound (request : Request) (s : Session) (result : Except Exn Response) : Prop :=
  ∀ args providerEventId found, request.delivery = some args → args.providerEventId = .str providerEventId →
    s.Read (.eventByProviderEventId providerEventId) found → s.lookups.length ≤ 1 → s.broken = false →
      result = .ok ⟨200, .empty⟩

theorem handler_answersFound (request : Request) :
    (service.start request).Obeys service.toClient (Permits request) (AnswersFound request) service.fresh := by
  show request.handler.Obeys client (Permits request) (AnswersFound request) {}
  cases hdelivery : request.delivery with
  | none =>
      refine Prog.Obeys.mono (handler_obeys request) (fun _ _ h => h) fun s result _ args _ _ hargs => ?_
      cases hdelivery.symm.trans hargs
  | some args =>
      obtain ⟨endpoint, headers, rawBody, provider, event, hrequest, hprovider, hverify, hparse, hargs⟩ :=
        delivery_cases hdelivery
      have haccept : request.handler = Webhooks.accept endpoint.providerName event := by
        simp only [Request.handler, hrequest, Webhooks.handle, hprovider, hverify, if_true, hparse]
        rfl
      rw [haccept]
      refine Webhooks.obeys_accept hargs hdelivery (fun s _ _ _ _ _ _ _ _ _ _ _ _ => rfl)
        fun s error _ hcause args' providerEventId found hargs' hid hread hlooked hsound => ?_
      cases hdelivery.symm.trans hargs'
      rcases hcause with hbroken | ⟨-, htext⟩
      · cases hsound.symm.trans hbroken
      · exact absurd (htext providerEventId hid).1 (not_missed_of_read hlooked hread)

-- A delivery commits only an event that it has looked for in vain.
theorem uncommitted_of_found {request : Request} {s : Session} {args : EventArgs} {providerEventId : String}
    {found : WebhookEvent}
    (h : Recorded request s) (hdelivery : request.delivery = some args)
    (hid : args.providerEventId = .str providerEventId) (hlooked : s.lookups.length ≤ 1)
    (hread : s.Read (.eventByProviderEventId providerEventId) found) : s.committed = [] := by
  have hmissed := not_missed_of_read hlooked hread
  obtain ⟨endpoint, headers, rawBody, hwebhook⟩ := delivery_endpoint hdelivery
  rcases h with hnone | ⟨transaction, hcommitted, hlicensed⟩
  · exact hnone
  cases hlicensed with
  | seen => exact hcommitted
  | receive hrequest hid' _ hmissing | process hrequest hid' _ hmissing =>
      cases hdelivery.symm.trans hrequest
      cases hid.symm.trans hid'
      exact absurd hmissing hmissed
  | oneOff hrequest | subscribe hrequest | changeAmount hrequest | cancel hrequest | subscriber hrequest
  | unsubscriber hrequest | dataRequest hrequest => cases hwebhook.symm.trans hrequest

-- Whatever the status of the row is that a delivery finds, it commits nothing
-- and is answered 200, unless a statement of it fails.
theorem found_delivery {allow : ServicePool → ServiceMove → Prop}
    (hrun : service.Run allow ⟨{}, []⟩ pool) (ht : t ∈ pool.threads) {args : EventArgs}
    (hdelivery : t.req.delivery = some args) {providerEventId : String} {found : WebhookEvent}
    (hid : args.providerEventId = .str providerEventId)
    (hread : t.loc.Read (.eventByProviderEventId providerEventId) found) :
    t.loc.committed = [] ∧ ((∀ event ∈ t.loc.past, event.fails = false) →
      ∀ out, t.phase = .ended out → out = .ok ⟨200, .empty⟩) := by
  obtain ⟨endpoint, headers, rawBody, hwebhook⟩ := delivery_endpoint hdelivery
  have hlooked := looked_run hrun ht (by simp [Request.isWebhook, hwebhook])
  refine ⟨uncommitted_of_found ((consistent_run hrun).1.grounded t ht).recorded hdelivery hid hlooked hread,
    fun hunfailed out hended => ?_⟩
  have hanswers := (hrun.invariant_of_obeys (I := fun _ => True) handler_answersFound trivial (by simp)
    fun _ _ _ _ _ _ _ => trivial).2 t ht
  unfold System.Obedient at hanswers
  rw [hended] at hanswers
  obtain ⟨s, hloc, hs⟩ := hanswers
  have hbroken := broken_run hrun ht
  rw [List.any_eq_false.mpr fun event hevent => by simp [hunfailed event hevent]] at hbroken
  rw [hloc] at hread hlooked hbroken
  exact hs args providerEventId found hdelivery hid hread hlooked hbroken

theorem acknowledged_event_kept {allow : ServicePool → ServiceMove → Prop}
    (hrun : service.Run allow ⟨{}, []⟩ pool) (ht : t ∈ pool.threads) {args : EventArgs}
    (hdelivery : t.req.delivery = some args) :
    (t.answer = some ⟨200, .empty⟩ →
      ∃ event, args.providerEventId = .str event.providerEventId ∧ Kept pool t event) ∧
    ∀ providerEventId found, args.providerEventId = .str providerEventId →
      t.loc.Read (.eventByProviderEventId providerEventId) found →
        t.loc.committed = [] ∧ ((∀ event ∈ t.loc.past, event.fails = false) →
          ∀ out, t.phase = .ended out → out = .ok ⟨200, .empty⟩) :=
  ⟨kept_of_answered hrun ht hdelivery, fun _ _ hid hread => found_delivery hrun ht hdelivery hid hread⟩

end Runs

open Trial

theorem delivery_args : delivery.delivery = some ⟨"stripe", .str "evt_1RaBoh",
    .str "checkout.session.completed", eventJson, true⟩ := by decide +kernel

-- A delivery dies between its two commits, and the event is delivered again.
def redelivered : List ServiceCue :=
  [.arrive delivery] ++ turns 0 8 (reply 0) ++ [.crash 0, .arrive delivery] ++ turns 1 4 (reply 1) ++
    [.finish 1]

theorem acknowledged_event_kept_redelivered : ∃ pool t event,
    service.Run (fun _ _ => True) ⟨{}, []⟩ pool ∧ t ∈ pool.threads ∧ t.answer = some ⟨200, .empty⟩ ∧
      event.providerEventId = "evt_1RaBoh" ∧ Kept pool t event ∧ t.loc.committed = [] := by
  obtain ⟨pool, hrun, t, ht, hrequest, hanswer, ⟨id, rows⟩, hlookup, hid, hrows⟩ := exists_run (fun _ _ => True)
    (fun pool => ∃ t ∈ pool.threads, t.req = delivery ∧ t.answer = some ⟨200, .empty⟩ ∧
      ∃ lookup ∈ t.loc.lookups, lookup.1 = "evt_1RaBoh" ∧ lookup.2 ≠ []) redelivered
    (by decide +kernel)
  obtain ⟨hkept, hfound⟩ := acknowledged_event_kept hrun ht (hrequest ▸ delivery_args)
  obtain ⟨event, hid', hkept⟩ := hkept hanswer
  obtain ⟨found, hmem⟩ := List.exists_mem_of_ne_nil _ hrows
  cases hid
  have hread : t.loc.Read (.eventByProviderEventId "evt_1RaBoh") found :=
    ⟨rows, Session.mem_lookups.mp hlookup, hmem⟩
  exact ⟨pool, t, event, hrun, ht, hanswer, (Json.str.inj hid').symm, hkept, (hfound _ found rfl hread).1⟩

-- The second delivery is answered 200, and the event has not been processed.
theorem redelivered_not_processed : ∃ pool, service.Run (fun _ _ => True) ⟨{}, []⟩ pool ∧
    ∃ t ∈ pool.threads, ∃ args ∈ t.req.delivery, t.answer = some ⟨200, .empty⟩ ∧
      ∃ event ∈ pool.shared.db.webhookEvents, .str event.providerEventId = args.providerEventId ∧
        event.status ≠ .processed :=
  exists_run (fun _ _ => True) _ redelivered (by decide +kernel)

end BridgeOfHope
