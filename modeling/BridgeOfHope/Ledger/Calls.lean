import BridgeOfHope.Ledger.Lemmas
import BridgeOfHope.Process.Solo
import BridgeOfHope.Service

namespace BridgeOfHope

open Process

-- The calls of the ledger one after another, on what the session sees of the tables.

variable [Platform]

-- The index entries are free, and the columns and foreign keys take the row.
structure Db.Takes (db : Db) (stmt : Stmt) : Prop where
  nodup : stmt.keys.Nodup
  fresh : ∀ key ∈ stmt.keys, key ∉ db.keys
  admits : db.admits stmt = true

-- A session with nothing left to flush, which sees the tables as `db`.
structure Idle (state : World × Session) (db : Db) : Prop where
  unflushed : state.2.unflushed = []
  broken : state.2.broken = false
  view : state.2.view state.1.db = db

-- The program, left alone, leads from the one store to the other and returns the value.
def Calls {α : Type} (program : Act α) (db db' : Db) (value : α) : Prop :=
  ∃ state state', Idle state db ∧ program.Exec service.alone state state' (.ok value) ∧ Idle state' db'

section Operations

variable {α β : Type} {state state' : World × Session} {db db' : Db} {value : β}

theorem exec_perform_bind {op : Op} {rest : Ans op → Act β} :
    (perform op >>= rest).Exec service.alone state state' (.ok value) ↔
      ∃ ans, service.alone.sound state op ans ∧
        (rest ans).Exec service.alone (service.alone.update state op ans) state' (.ok value) :=
  Prog.exec_call

theorem exec_ofExcept_bind {result : Except Exn α} {rest : α → Act β} :
    (Prog.ofExcept result >>= rest).Exec service.alone state state' (.ok value) ↔
      ∃ found, result = .ok found ∧ (rest found).Exec service.alone state state' (.ok value) := by
  cases result with
  | ok found =>
      constructor
      · intro h
        exact ⟨found, rfl, h⟩
      · rintro ⟨_, hfound, h⟩
        cases hfound
        exact h
  | error error =>
      constructor
      · intro h
        cases h
      · rintro ⟨_, h, -⟩
        cases h

-- What the flush of an idle session does: nothing.
theorem Idle.flush (h : Idle state db) : service.alone.sound state .flush (.ok ()) ∧
    Idle (service.alone.update state .flush (.ok ())) db := by
  obtain ⟨hunflushed, hbroken, hview⟩ := h
  refine ⟨⟨hbroken, ?_⟩, rfl, hbroken, ?_⟩
  · simp [flushable, hunflushed, Db.admitsAll]
  · have hflushed : state.2.flushed ++ state.2.unflushed = state.2.flushed := by simp [hunflushed]
    show state.1.db.applyAll (state.2.flushed ++ state.2.unflushed) = db
    rw [hflushed]
    exact hview

theorem Idle.query {query : Query} (h : Idle state db) {rows : List query.Row} :
    (service.alone.sound state (.query query) (.ok rows) ↔ rows.Perm (query.select db)) ∧
      Idle (service.alone.update state (.query query) (.ok rows)) db := by
  obtain ⟨hunflushed, hbroken, hview⟩ := h
  refine ⟨⟨fun hsound => hview ▸ hsound.2, fun hperm => ⟨hbroken, ?_⟩⟩, hunflushed, hbroken, hview⟩
  rw [hview]
  exact hperm

theorem Idle.keys (h : Idle state db) : (entries state.1.db [state.2]).Perm db.keys := by
  have hperm := Db.keys_applyAll state.1.db state.2.flushed
  have hentries : entries state.1.db [state.2] = state.1.db.keys ++ state.2.flushed.flatMap Stmt.keys := by
    simp [entries, Session.keys]
  rw [hentries, ← h.view]
  exact hperm.symm

-- A row that is added goes into the store with the next flush.
theorem Idle.insert (h : Idle state db) (stmt : Stmt) :
    (service.alone.sound (service.alone.update state (.push stmt) ()) .flush (.ok ()) ↔ db.Takes stmt) ∧
      Idle (service.alone.update (service.alone.update state (.push stmt) ()) .flush (.ok ()))
      (db.apply stmt) := by
  have hkeys := h.keys
  obtain ⟨hunflushed, hbroken, hview⟩ := h
  have hpushed : state.2.unflushed ++ [stmt] = [stmt] := by simp [hunflushed]
  have hnext : Db.applyAll state.1.db (state.2.flushed ++ [stmt]) = db.apply stmt := by
    rw [Db.applyAll_append]
    exact congrArg (fun db => db.apply stmt) hview
  constructor
  · have hsame : entries state.1.db [(service.alone.update state (.push stmt) ()).2] =
        entries state.1.db [state.2] := rfl
    show _ = false ∧ flushable state.1.db _ _ ↔ _
    unfold flushable
    rw [hsame]
    show _ = false ∧ ((state.2.unflushed ++ [stmt]).flatMap Stmt.keys).Nodup ∧
      (∀ key ∈ (state.2.unflushed ++ [stmt]).flatMap Stmt.keys, key ∉ entries state.1.db [state.2]) ∧
        (state.2.view state.1.db).admitsAll (state.2.unflushed ++ [stmt]) = true ↔ _
    rw [hpushed, hview]
    simp only [List.flatMap_cons, List.flatMap_nil, List.append_nil, Db.admitsAll, Bool.and_true, hkeys.mem_iff]
    exact ⟨fun ⟨_, hnodup, hfresh, hadmits⟩ => ⟨hnodup, hfresh, hadmits⟩,
      fun ⟨hnodup, hfresh, hadmits⟩ => ⟨hbroken, hnodup, hfresh, hadmits⟩⟩
  · refine ⟨rfl, hbroken, ?_⟩
    show state.1.db.applyAll (state.2.flushed ++ (state.2.unflushed ++ [stmt])) = _
    rw [hpushed]
    exact hnext

-- A lookup in an idle session.
theorem exec_scalar {query : Query} {rest : Option query.Row → Act β} (h : Idle state db) :
    (scalar query >>= rest).Exec service.alone state state' (.ok value) ↔
      ∃ rows mid, rows.Perm (query.select db) ∧ Idle mid db ∧
        mid = service.alone.update (service.alone.update state .flush (.ok ())) (.query query) (.ok rows) ∧
        (rest rows.head?).Exec service.alone mid state' (.ok value) := by
  obtain ⟨hflush, hidle⟩ := h.flush
  constructor
  · intro hexec
    obtain ⟨flushed, -, hexec⟩ := Prog.exec_call.mp hexec
    cases flushed with
    | error error => cases hexec
    | ok _ =>
        obtain ⟨found, hsound, hexec⟩ := Prog.exec_call.mp hexec
        cases found with
        | error error => cases hexec
        | ok rows => exact ⟨rows, _, hidle.query.1.mp hsound, hidle.query.2, rfl, hexec⟩
  · rintro ⟨rows, mid, hperm, -, rfl, hexec⟩
    exact .call hflush (.call (hidle.query.1.mpr hperm) hexec)

-- A row is added, and flushed.
theorem exec_insert {stmt : Stmt} {rest : Unit → Act β} (h : Idle state db) :
    (add stmt >>= fun _ => flush >>= rest).Exec service.alone state state' (.ok value) ↔
      db.Takes stmt ∧ ∃ mid, Idle mid (db.apply stmt) ∧
        mid = service.alone.update (service.alone.update state (.push stmt) ()) .flush (.ok ()) ∧
        (rest ()).Exec service.alone mid state' (.ok value) := by
  obtain ⟨hsound, hidle⟩ := h.insert stmt
  constructor
  · intro hexec
    obtain ⟨_, -, hexec⟩ := Prog.exec_call.mp hexec
    obtain ⟨flushed, hflush, hexec⟩ := Prog.exec_call.mp hexec
    cases flushed with
    | error error => cases hexec
    | ok _ => exact ⟨hsound.mp hflush, _, hidle, rfl, hexec⟩
  · rintro ⟨htakes, mid, -, rfl, hexec⟩
    exact .call trivial (.call (hsound.mpr htakes) hexec)

end Operations

-- What the two calls of the ledger do to the store.

inductive EventCall (args : EventArgs) (db : Db) : Db → WebhookEvent × Bool → Prop
  | seen {row : WebhookEvent} (hid : args.providerEventId = .str row.providerEventId)
      (hrow : row ∈ db.webhookEvents) : EventCall args db db (row, false)
  | new {providerEventId eventType : String} {id : Uuid} {receivedAt : Time}
      (hid : args.providerEventId = .str providerEventId) (htype : args.eventType = .str eventType)
      (hmissing : ∀ row ∈ db.webhookEvents, row.providerEventId ≠ providerEventId)
      (htakes : db.Takes (.insertWebhookEvent (args.row providerEventId eventType id receivedAt))) :
      EventCall args db (db.apply (.insertWebhookEvent (args.row providerEventId eventType id receivedAt)))
        (args.row providerEventId eventType id receivedAt, true)

inductive DonationCall (args : DonationArgs) (db : Db) : Db → Donation → Prop
  | seen {row : Donation} (hid : row.providerPaymentId = args.providerPaymentId)
      (hrow : row ∈ db.donations) : DonationCall args db db row
  | new {id : Uuid} {completedAt : Time}
      (hmissing : ∀ row ∈ db.donations, row.providerPaymentId ≠ args.providerPaymentId)
      (htakes : db.Takes (.insertDonation (args.row id completedAt))) :
      DonationCall args db (db.apply (.insertDonation (args.row id completedAt))) (args.row id completedAt)

section Calls

variable {α γ : Type} {db db' : Db}

-- Look for a row. Where there is none, make one and insert it.
theorem calls_lookup {query : Query} {rest : Option query.Row → Act α} (found : query.Row → α)
    (check : Except Exn γ) (stmt : γ → Uuid → Time → Stmt) (made : γ → Uuid → Time → α) {value : α}
    (hsome : ∀ row, rest (some row) = return found row)
    (hnone : rest none = do
      let time ← now
      let id ← uuid7
      let checked ← Prog.ofExcept check
      add (stmt checked id time)
      flush
      return made checked id time) :
    Calls (scalar query >>= rest) db db' value ↔
      (∃ row ∈ query.select db, db' = db ∧ value = found row) ∨ query.select db = [] ∧ ∃ checked id time,
        check = .ok checked ∧ db.Takes (stmt checked id time) ∧ db' = db.apply (stmt checked id time) ∧
          value = made checked id time := by
  constructor
  · rintro ⟨state, state', hidle, hexec, hidle'⟩
    obtain ⟨rows, mid, hperm, hmid, -, hexec⟩ := (exec_scalar hidle).mp hexec
    cases rows with
    | cons row rows =>
        rw [List.head?_cons, hsome] at hexec
        obtain ⟨rfl, hvalue⟩ := Prog.exec_ret.mp hexec
        exact .inl ⟨row, hperm.subset List.mem_cons_self, hidle'.view.symm.trans hmid.view,
          Except.ok.inj hvalue⟩
    | nil =>
        rw [List.head?_nil, hnone] at hexec
        obtain ⟨time, -, hexec⟩ := exec_perform_bind.mp hexec
        obtain ⟨id, -, hexec⟩ := exec_perform_bind.mp hexec
        obtain ⟨checked, hcheck, hexec⟩ := exec_ofExcept_bind.mp hexec
        have hticked : Idle (service.alone.update (service.alone.update mid .now time) .uuid7 id) db :=
          ⟨hmid.unflushed, hmid.broken, hmid.view⟩
        obtain ⟨htakes, last, hlast, -, hexec⟩ := (exec_insert hticked).mp hexec
        obtain ⟨rfl, hvalue⟩ := Prog.exec_ret.mp hexec
        exact .inr ⟨hperm.nil_eq.symm, checked, id, time, hcheck, htakes, hidle'.view.symm.trans hlast.view,
          Except.ok.inj hvalue⟩
  · have hidle : Idle ({ db := db }, {}) db := ⟨rfl, rfl, rfl⟩
    obtain ⟨hflush, hready⟩ := hidle.flush
    rintro (⟨row, hrow, rfl, rfl⟩ | ⟨hempty, checked, id, time, rfl, htakes, rfl, rfl⟩)
    · obtain ⟨before, after, hselect⟩ := List.append_of_mem hrow
      have hperm : (row :: (before ++ after)).Perm (query.select db') := hselect ▸ List.perm_middle.symm
      have hmid := (@Idle.query _ _ _ query hready (row :: (before ++ after))).2
      refine ⟨_, _, hidle, (exec_scalar hidle).mpr ⟨_, _, hperm, hmid, rfl, ?_⟩, hmid⟩
      rw [List.head?_cons, hsome]
      exact .ret _ _
    · have hperm : ([] : List query.Row).Perm (query.select db) := hempty ▸ .nil
      have hmid := (@Idle.query _ _ _ query hready []).2
      have hticked (state : World × Session) (h : Idle state db) :
          Idle (service.alone.update (service.alone.update state .now time) .uuid7 id) db :=
        ⟨h.unflushed, h.broken, h.view⟩
      have hlast := (hticked _ hmid).insert (stmt checked id time)
      refine ⟨_, _, hidle, (exec_scalar hidle).mpr ⟨[], _, hperm, hmid, rfl, ?_⟩, hlast.2⟩
      rw [List.head?_nil, hnone]
      refine exec_perform_bind.mpr ⟨time, trivial, exec_perform_bind.mpr ⟨id, trivial, ?_⟩⟩
      exact (exec_insert (hticked _ hmid)).mpr ⟨htakes, _, hlast.2, rfl, .ret _ _⟩

theorem calls_ofExcept {check : Except Exn γ} {rest : γ → Act α} {value : α} :
    Calls (Prog.ofExcept check >>= rest) db db' value ↔
      ∃ checked, check = .ok checked ∧ Calls (rest checked) db db' value := by
  constructor
  · rintro ⟨state, state', hidle, hexec, hidle'⟩
    obtain ⟨checked, hcheck, hrest⟩ := exec_ofExcept_bind.mp hexec
    exact ⟨checked, hcheck, state, state', hidle, hrest, hidle'⟩
  · rintro ⟨checked, hcheck, state, state', hidle, hrest, hidle'⟩
    exact ⟨state, state', hidle, exec_ofExcept_bind.mpr ⟨checked, hcheck, hrest⟩, hidle'⟩

theorem calls_recordWebhookEvent {args : EventArgs} {result : WebhookEvent × Bool} :
    Calls (Ledger.recordWebhookEvent args) db db' result ↔ EventCall args db db' result := by
  have hselect {providerEventId : String} {row : WebhookEvent} :
      row ∈ (Query.eventByProviderEventId providerEventId).select db ↔
        row ∈ db.webhookEvents ∧ row.providerEventId = providerEventId := by
    simp [Query.select, Query.table, Query.accepts]
  unfold Ledger.recordWebhookEvent
  rw [calls_ofExcept]
  constructor
  · rintro ⟨providerEventId, htext, hcalls⟩
    have hid := Json.text_eq_ok.mp htext
    rw [calls_lookup (fun row : WebhookEvent => (row, false)) args.eventType.text
      (fun eventType id time => .insertWebhookEvent (args.row providerEventId eventType id time))
      (fun eventType id time => (args.row providerEventId eventType id time, true))
      (fun _ => by rfl) (by rfl)] at hcalls
    rcases hcalls with ⟨row, hrow, rfl, rfl⟩ | ⟨hnone, eventType, id, time, htype, htakes, rfl, rfl⟩
    · obtain ⟨hmem, hsame⟩ := hselect.mp hrow
      exact .seen (hsame ▸ hid) hmem
    · refine .new hid (Json.text_eq_ok.mp htype) (fun row hrow hsame => ?_) htakes
      have hmem := hselect.mpr ⟨hrow, hsame⟩
      rw [hnone] at hmem
      cases hmem
  · intro hcall
    have hid : ∃ providerEventId, args.providerEventId = .str providerEventId := by
      cases hcall with
      | seen hid _ => exact ⟨_, hid⟩
      | new hid _ _ _ => exact ⟨_, hid⟩
    obtain ⟨providerEventId, hid⟩ := hid
    refine ⟨providerEventId, Json.text_eq_ok.mpr hid, ?_⟩
    rw [calls_lookup (fun row : WebhookEvent => (row, false)) args.eventType.text
      (fun eventType id time => .insertWebhookEvent (args.row providerEventId eventType id time))
      (fun eventType id time => (args.row providerEventId eventType id time, true))
      (fun _ => by rfl) (by rfl)]
    cases hcall with
    | @seen row hid' hrow => exact .inl ⟨row, hselect.mpr ⟨hrow, Json.str.inj (hid'.symm.trans hid)⟩, rfl, rfl⟩
    | @new providerEventId' eventType id time hid' htype hmissing htakes =>
        cases hid'.symm.trans hid
        refine .inr ⟨List.eq_nil_iff_forall_not_mem.mpr fun row hrow => ?_, eventType, id, time,
          Json.text_eq_ok.mpr htype, htakes, rfl, rfl⟩
        obtain ⟨hmem, hsame⟩ := hselect.mp hrow
        exact hmissing row hmem hsame

theorem calls_recordDonation {args : DonationArgs} {result : Donation} :
    Calls (Ledger.recordDonation args) db db' result ↔ DonationCall args db db' result := by
  have hselect {row : Donation} : row ∈ (Query.donationByProviderPaymentId args.providerPaymentId).select db ↔
      row ∈ db.donations ∧ row.providerPaymentId = args.providerPaymentId := by
    simp [Query.select, Query.table, Query.accepts]
  unfold Ledger.recordDonation
  rw [calls_lookup (fun row : Donation => row) (.ok ()) (fun _ id time => .insertDonation (args.row id time))
    (fun _ id time => args.row id time) (fun _ => by rfl) (by rfl)]
  constructor
  · rintro (⟨row, hrow, rfl, rfl⟩ | ⟨hnone, -, id, time, -, htakes, rfl, rfl⟩)
    · obtain ⟨hmem, hsame⟩ := hselect.mp hrow
      exact .seen hsame hmem
    · refine .new (fun row hrow hsame => ?_) htakes
      have hmem := hselect.mpr ⟨hrow, hsame⟩
      rw [hnone] at hmem
      cases hmem
  · intro hcall
    cases hcall with
    | seen hid hrow => exact .inl ⟨result, hselect.mpr ⟨hrow, hid⟩, rfl, rfl⟩
    | @new id time hmissing htakes =>
        refine .inr ⟨List.eq_nil_iff_forall_not_mem.mpr fun row hrow => ?_, (), id, time, rfl, htakes, rfl, rfl⟩
        obtain ⟨hmem, hsame⟩ := hselect.mp hrow
        exact hmissing row hmem hsame

end Calls

end BridgeOfHope
