import BridgeOfHope.Service.Lemmas

namespace BridgeOfHope

open Process

variable [Platform]

-- What is known of every request, whatever the others do.
abbrev Proper (t : ServiceThread) : Prop := service.Obedient Permits Concludes t

theorem proper_answer {t : ServiceThread} (h : Proper t) {response : Response}
    (hanswer : t.answer = some response) : ∃ s, t.loc = s.close ∧ Concludes t.req s (.ok response) := by
  unfold Thread.answer at hanswer
  split at hanswer
  · next out hphase =>
      cases hanswer
      unfold Proper System.Obedient at h
      rw [hphase] at h
      exact h
  · cases hanswer

theorem permits_of_issues {pool : ServicePool} (hproper : ∀ t ∈ pool.threads, Proper t) {i : ℕ}
    {t : ServiceThread} {op : Op} (h : System.Issues pool i t op) : Permits t.req t.loc op :=
  (hproper t (List.mem_of_getElem? h.1)).issued h

-- A request has committed nothing, or one transaction that it was licensed for
-- and what that one builds on.
def Recorded (request : Request) (s : Session) : Prop :=
  s.committed = [] ∨ ∃ transaction : Transaction,
    s.committed = transaction.earlier ++ transaction.stmts ∧ Licensed request s transaction

-- What a request has committed and what it has read is in the database.
structure Grounded (world : World) (request : Request) (s : Session) : Prop where
  recorded : Recorded request s
  kept : ∀ stmt ∈ s.committed, world.db.holds stmt
  reads : ∀ (query : Query) (row : query.Row), s.Read query row →
    world.db.holds (query.inserted row) ∧ query.accepts row = true

-- No entry of a unique index is held twice.
structure Consistent (pool : ServicePool) : Prop where
  keys : (entries pool.shared.db (pool.threads.map Thread.loc)).Nodup
  grounded : ∀ t ∈ pool.threads, Grounded pool.shared t.req t.loc

section Step

variable {request : Request} {world : World} {sessions : List Session} {s : Session} {op : Op}
  {ans : Ans op}

-- An operation changes the committed tables only when it is a commit, and then
-- by a transaction that the request is licensed for.
theorem effect_db (world : World) (ans : Ans op) (hpermits : Permits request s op) :
    (effect world s op ans).db = world.db ∨ ∃ transaction,
      (⟨op, ans⟩ : Event) = ⟨.commit, .ok ()⟩ ∧ Ready request s transaction ∧
        s.flushed = transaction.stmts ∧
        (effect world s op ans).db = world.db.applyAll transaction.stmts := by
  by_cases hcommit : (⟨op, ans⟩ : Event) = ⟨.commit, .ok ()⟩
  · cases hcommit
    obtain ⟨hunflushed, transaction, hready⟩ := hpermits
    have hflushed : s.flushed = transaction.stmts := by
      simpa [Session.pending, hunflushed] using hready.pending
    exact .inr ⟨transaction, rfl, hready, hflushed, by rw [← hflushed]; rfl⟩
  · exact .inl (effect_quiet hcommit)

theorem holds_effect {stmt : Stmt} (hpermits : Permits request s op) (h : world.db.holds stmt) :
    (effect world s op ans).db.holds stmt := by
  rcases effect_db world ans hpermits with heq | ⟨transaction, -, -, -, heq⟩
  · rw [heq]
    exact h
  · rw [heq]
    exact Db.holds_applyAll h _

theorem Recorded.mono {s' : Session} (h : Recorded request s) (hcommitted : s'.committed = s.committed)
    (hpast : s.past <:+ s'.past) : Recorded request s' := by
  rcases h with h | ⟨transaction, h, hlicensed⟩
  · exact .inl (hcommitted.trans h)
  · exact .inr ⟨transaction, hcommitted.trans h, hlicensed.mono hpast⟩

-- The rows of a query are committed rows: the open transaction of the session
-- has not written the table that is asked.
theorem mem_table {query : Query} {rows : List query.Row} (hpermits : Permits request s (.query query))
    (henabled : enabled world sessions s (.query query) (.ok rows)) {row : query.Row}
    (hrow : row ∈ rows) : row ∈ query.table world.db ∧ query.accepts row = true := by
  have hmem := List.mem_filter.mp (henabled.2.mem_iff.mp hrow)
  rw [Session.view, Db.table_applyAll hpermits.1] at hmem
  exact hmem

theorem Grounded.own (hpermits : Permits request s op) (henabled : enabled world sessions s op ans)
    (h : Grounded world request s) :
    Grounded (effect world s op ans) request (s.update op ans) := by
  refine ⟨?_, fun stmt hstmt => ?_, fun query row hread => ?_⟩
  · by_cases hcommit : (⟨op, ans⟩ : Event) = ⟨.commit, .ok ()⟩
    · cases hcommit
      obtain ⟨hunflushed, transaction, hready⟩ := hpermits
      refine .inr ⟨transaction, ?_, hready.licensed.mono (List.suffix_cons _ _)⟩
      show s.committed ++ s.flushed = _
      rw [hready.committed, ← hready.pending, Session.pending, hunflushed, List.append_nil]
    · exact h.recorded.mono (Session.committed_update hcommit) (List.suffix_cons _ _)
  · by_cases hcommit : (⟨op, ans⟩ : Event) = ⟨.commit, .ok ()⟩
    · cases hcommit
      rcases List.mem_append.mp hstmt with hstmt | hstmt
      · exact Db.holds_applyAll (h.kept stmt hstmt) _
      · exact Db.holds_applyAll_of_mem hstmt
    · rw [Session.committed_update hcommit] at hstmt
      exact holds_effect hpermits (h.kept stmt hstmt)
  · obtain ⟨rows, hpast, hrow⟩ := hread
    rcases List.mem_cons.mp hpast with hnew | hpast
    · cases hnew
      exact (mem_table hpermits henabled hrow).imp_left Db.holds_inserted
    · exact (h.reads query row ⟨rows, hpast, hrow⟩).imp_left (holds_effect hpermits)

theorem Grounded.other {request' : Request} {s' : Session} (hpermits : Permits request s op)
    (h : Grounded world request' s') : Grounded (effect world s op ans) request' s' :=
  ⟨h.recorded, fun stmt hstmt => holds_effect hpermits (h.kept stmt hstmt),
    fun query row hread => (h.reads query row hread).imp_left (holds_effect hpermits)⟩

-- The index entries when one session is replaced, with its own in front.
theorem entries_set_perm (db : Db) {i : ℕ} (hi : sessions[i]? = some s) (s' : Session) :
    (entries db (sessions.set i s')).Perm
      (s'.keys ++ (db.keys ++ (sessions.eraseIdx i).flatMap Session.keys)) := by
  have hlt := (List.getElem?_eq_some_iff.mp hi).1
  have hperm := (List.set_perm_cons_eraseIdx hlt s').flatMap_right Session.keys
  rw [List.flatMap_cons] at hperm
  refine (hperm.append_left db.keys).trans ?_
  rw [← List.append_assoc, ← List.append_assoc]
  exact List.perm_append_comm.append_right _

theorem entries_perm (db : Db) {i : ℕ} (hi : sessions[i]? = some s) :
    (entries db sessions).Perm (s.keys ++ (db.keys ++ (sessions.eraseIdx i).flatMap Session.keys)) := by
  obtain ⟨hlt, rfl⟩ := List.getElem?_eq_some_iff.mp hi
  have h := entries_set_perm db hi sessions[i]
  rwa [List.set_getElem_self] at h

-- A session that gives up entries leaves the rest without a double.
theorem entries_nodup_of_sublist (db : Db) {i : ℕ} (hi : sessions[i]? = some s) {s' : Session}
    (hkeys : s'.keys.Sublist s.keys) (h : (entries db sessions).Nodup) :
    (entries db (sessions.set i s')).Nodup := by
  rw [(entries_set_perm db hi s').nodup_iff]
  exact ((entries_perm db hi).nodup_iff.mp h).sublist (hkeys.append_right _)

theorem entries_nodup_act {i : ℕ} (hi : sessions[i]? = some s) (hpermits : Permits request s op)
    (henabled : enabled world sessions s op ans) (h : (entries world.db sessions).Nodup) :
    (entries (effect world s op ans).db (sessions.set i (s.update op ans))).Nodup := by
  by_cases hflush : (⟨op, ans⟩ : Event) = ⟨.flush, .ok ()⟩
  · cases hflush
    obtain ⟨-, hnodup, hfree, -⟩ := henabled
    show (entries world.db (sessions.set i (s.update .flush (.ok ())))).Nodup
    rw [(entries_set_perm world.db hi _).nodup_iff]
    have hkeys : (s.update .flush (.ok ())).keys = s.keys ++ s.unflushed.flatMap Stmt.keys :=
      List.flatMap_append
    have hnew : (s.unflushed.flatMap Stmt.keys ++ entries world.db sessions).Nodup :=
      List.nodup_append.mpr ⟨hnodup, h, fun key hk key' hk' heq => hfree key hk (heq ▸ hk')⟩
    rw [hkeys]
    refine (List.Perm.nodup_iff ?_).mpr hnew
    refine List.Perm.trans ?_ ((entries_perm world.db hi).symm.append_left _)
    rw [← List.append_assoc, ← List.append_assoc, ← List.append_assoc]
    exact (List.perm_append_comm.append_right _).append_right _
  rcases effect_db world ans hpermits with heq | ⟨transaction, hop, -, hflushed, heq⟩
  · rw [heq]
    refine entries_nodup_of_sublist world.db hi ?_ h
    cases op with
    | flush => cases ans with
      | ok _ => exact absurd rfl hflush
      | error _ => exact List.nil_sublist _
    | query query => cases ans with
      | ok _ => exact List.Sublist.refl _
      | error _ => exact List.nil_sublist _
    | commit => cases ans <;> exact List.nil_sublist _
    | _ => exact List.Sublist.refl _
  · cases hop
    rw [heq, (entries_set_perm _ hi _).nodup_iff]
    have hperm := (Db.keys_applyAll world.db transaction.stmts).append_right
      ((sessions.eraseIdx i).flatMap Session.keys)
    refine (List.Perm.nodup_iff ?_).mpr ((entries_perm world.db hi).nodup_iff.mp h)
    refine hperm.trans ?_
    rw [← List.append_assoc s.keys, Session.keys, hflushed]
    exact List.perm_append_comm.append_right _

end Step

-- A step that commits nothing leaves the tables, and what each request has
-- committed, as they are.
structure Quiet (pool pool' : ServicePool) : Prop where
  db : pool'.shared.db = pool.shared.db
  threads : ∀ (k : ℕ) t, pool.threads[k]? = some t → ∃ t', pool'.threads[k]? = some t' ∧
    t'.req = t.req ∧ t.loc.past <:+ t'.loc.past ∧ t'.loc.committed = t.loc.committed

-- The request at place `i` commits the transaction that it has prepared.
structure Commits (pool : ServicePool) (i : ℕ) (t : ServiceThread) (transaction : Transaction)
    (pool' : ServicePool) : Prop where
  issues : System.Issues pool i t .commit
  ready : Ready t.req t.loc transaction
  flushed : t.loc.flushed = transaction.stmts
  db : pool'.shared.db = pool.shared.db.applyAll transaction.stmts
  threads : ∃ rest, pool'.threads =
    pool.threads.set i ⟨t.req, t.loc.update .commit (.ok ()), .running rest⟩

theorem commits_of_step {pool pool' : ServicePool} (hproper : ∀ t ∈ pool.threads, Proper t) {i : ℕ}
    (hmove : service.Step pool (.act i .commit (.ok ())) pool') :
    ∃ t transaction, Commits pool i t transaction pool' := by
  cases hmove with
  | @act _ _ _ req loc _ next _ hthread hanswer =>
      obtain ⟨hunflushed, transaction, hready⟩ := (hproper _ (List.mem_of_getElem? hthread)).1
      have hflushed : loc.flushed = transaction.stmts := by
        have hpending : loc.flushed ++ loc.unflushed = transaction.stmts := hready.pending
        rwa [hunflushed, List.append_nil] at hpending
      refine ⟨_, transaction, ⟨hthread, _, rfl⟩, hready, hflushed, ?_, _, rfl⟩
      rw [← hflushed]
      rfl

-- The one way in which the committed tables change.
theorem db_step {pool pool' : ServicePool} {move : ServiceMove}
    (hproper : ∀ t ∈ pool.threads, Proper t) (hmove : service.Step pool move pool') :
    Quiet pool pool' ∨ ∃ i t transaction, move = .act i .commit (.ok ()) ∧
      Commits pool i t transaction pool' := by
  by_cases hcommit : ∃ i, move = .act i .commit (.ok ())
  · obtain ⟨i, rfl⟩ := hcommit
    obtain ⟨t, transaction, hcommits⟩ := commits_of_step hproper hmove
    exact .inr ⟨i, t, transaction, rfl, hcommits⟩
  · refine .inl ⟨?_, fun k t hk => ?_⟩
    · cases hmove with
      | act hthread hanswer =>
          have hpermits := (hproper _ (List.mem_of_getElem? hthread)).1
          refine (effect_db _ _ hpermits).resolve_right ?_
          rintro ⟨_, hop, -⟩
          cases hop
          exact hcommit ⟨_, rfl⟩
      | _ => rfl
    · refine (hmove.get_later (R := fun s s' => s.past <:+ s'.past ∧ s'.committed = s.committed)
        (fun s => ⟨List.suffix_rfl, rfl⟩) (fun s => ⟨List.suffix_rfl, rfl⟩) ?_ hk)
      rintro i t op ans rfl -
      refine ⟨List.suffix_cons _ _, Session.committed_update fun hop => ?_⟩
      cases hop
      exact hcommit ⟨i, rfl⟩

section

variable {pool pool' : ServicePool} {i : ℕ} {t : ServiceThread} {transaction : Transaction}

theorem Commits.mem (h : Commits pool i t transaction pool') : t ∈ pool.threads :=
  List.mem_of_getElem? h.issues.1

theorem Commits.self (h : Commits pool i t transaction pool') : ∃ t', pool'.threads[i]? = some t' ∧
    t'.req = t.req ∧ t.loc.past <:+ t'.loc.past ∧
      t'.loc.committed = transaction.earlier ++ transaction.stmts := by
  obtain ⟨rest, hthreads⟩ := h.threads
  refine ⟨⟨t.req, t.loc.update .commit (.ok ()), .running rest⟩, ?_, rfl, List.suffix_cons _ _, ?_⟩
  · rw [hthreads]
    exact List.getElem?_set_self (List.getElem?_eq_some_iff.mp h.issues.1).1
  · show t.loc.committed ++ t.loc.flushed = _
    rw [h.ready.committed, h.flushed]

theorem Commits.other (h : Commits pool i t transaction pool') {k : ℕ} (hk : k ≠ i) :
    pool'.threads[k]? = pool.threads[k]? := by
  obtain ⟨rest, hthreads⟩ := h.threads
  rw [hthreads, List.getElem?_set_ne (Ne.symm hk)]

end

-- A request never forgets what it has seen and committed.
theorem thread_later {pool pool' : ServicePool} {move : ServiceMove}
    (hmove : service.Step pool move pool') {t : ServiceThread} (ht : t ∈ pool.threads) :
    ∃ t' ∈ pool'.threads, t'.req = t.req ∧ t.loc.past <:+ t'.loc.past ∧
      t.loc.committed <+: t'.loc.committed := by
  obtain ⟨k, hk⟩ := List.mem_iff_getElem?.mp ht
  obtain ⟨t', hk', hreq, hpast, hcommitted⟩ := hmove.get_later
    (R := fun s s' => s.past <:+ s'.past ∧ s.committed <+: s'.committed)
    (fun s => ⟨List.suffix_rfl, List.prefix_rfl⟩) (fun s => ⟨List.suffix_rfl, List.prefix_rfl⟩)
    (fun _ t op ans _ _ => ⟨List.suffix_cons _ _, t.loc.committed_prefix op ans⟩) hk
  exact ⟨t', List.mem_of_getElem? hk', hreq, hpast, hcommitted⟩

-- A property of the tables and of each request that has committed nothing yet.
theorem uncommitted_step {P : Db → Session → Prop} {pool pool' : ServicePool} {move : ServiceMove}
    (hproper : ∀ t ∈ pool.threads, Proper t) (hmove : service.Step pool move pool')
    (hfresh : P pool.shared.db {}) (hclose : ∀ s, P pool.shared.db s → P pool.shared.db s.close)
    (hown : ∀ i t op ans, move = .act i op ans → System.Issues pool i t op →
      enabled pool.shared (pool.threads.map Thread.loc) t.loc op ans → t.loc.committed = [] →
      P pool.shared.db t.loc → P pool.shared.db (t.loc.update op ans))
    (hother : ∀ i t transaction, Commits pool i t transaction pool' → ∀ (k : ℕ) u,
      pool.threads[k]? = some u → i ≠ k →
      u.loc.committed = [] → P pool.shared.db u.loc → P (pool.shared.db.applyAll transaction.stmts) u.loc)
    (h : ∀ t ∈ pool.threads, t.loc.committed = [] → P pool.shared.db t.loc) :
    ∀ t ∈ pool'.threads, t.loc.committed = [] → P pool'.shared.db t.loc := by
  intro t' ht' hnone
  obtain ⟨k, hk⟩ := List.mem_iff_getElem?.mp ht'
  have hkept : P pool.shared.db t'.loc := by
    cases hmove.origin hk with
    | fresh hmove hloc =>
        rw [hloc]
        exact hfresh
    | still hthread => exact h t' (List.mem_of_getElem? hthread) hnone
    | @acted t op ans hmove hissues hanswer hreq hloc =>
        rw [hloc] at hnone ⊢
        have hold : t.loc.committed = [] := List.prefix_nil.mp (hnone ▸ t.loc.committed_prefix op ans)
        exact hown k t op ans hmove hissues hanswer hold (h t (List.mem_of_getElem? hissues.1) hold)
    | finished hthread hreq hloc hphase =>
        rw [hloc] at hnone ⊢
        exact hclose _ (h _ (List.mem_of_getElem? hthread) hnone)
  rcases db_step hproper hmove with hquiet | ⟨i, t, transaction, -, hcommits⟩
  · rw [hquiet.db]
    exact hkept
  rw [hcommits.db]
  by_cases hik : i = k
  · subst hik
    obtain ⟨t'', hk'', -, -, hcommitted⟩ := hcommits.self
    cases hk.symm.trans hk''
    obtain ⟨-, hempty⟩ := List.append_eq_nil_iff.mp (hcommitted.symm.trans hnone)
    rw [hempty]
    exact hkept
  · exact hother i t transaction hcommits k t' ((hcommits.other (Ne.symm hik)).symm.trans hk) hik hnone hkept

-- What a request has committed it had committed before, or it commits now.
theorem committed_origin {pool pool' : ServicePool} {move : ServiceMove}
    (hproper : ∀ t ∈ pool.threads, Proper t) (hmove : service.Step pool move pool') {t' : ServiceThread}
    (ht' : t' ∈ pool'.threads) {stmt : Stmt} (hstmt : stmt ∈ t'.loc.committed) :
    (∃ t ∈ pool.threads, stmt ∈ t.loc.committed) ∨
      ∃ i t transaction, Commits pool i t transaction pool' ∧ stmt ∈ transaction.stmts := by
  refine hmove.forall_threads hproper (P := fun _ _ s => ∀ stmt ∈ s.committed,
    (∃ t ∈ pool.threads, stmt ∈ t.loc.committed) ∨
      ∃ i t transaction, Commits pool i t transaction pool' ∧ stmt ∈ transaction.stmts)
    (fun _ _ _ hstmt => (nomatch hstmt)) (fun _ _ h => h) ?_ (fun _ _ _ _ _ _ _ _ _ h => h)
    (fun t ht stmt hstmt => .inl ⟨t, ht, hstmt⟩) t' ht' stmt hstmt
  rintro i t op ans rfl hissues - - h stmt hstmt
  by_cases hcommit : (⟨op, ans⟩ : Event) = ⟨.commit, .ok ()⟩
  · cases hcommit
    rcases List.mem_append.mp hstmt with hold | hnew
    · exact h stmt hold
    · obtain ⟨t₁, transaction, hcommits⟩ := commits_of_step hproper hmove
      cases hissues.1.symm.trans hcommits.issues.1
      exact .inr ⟨i, t, transaction, hcommits, hcommits.flushed ▸ hnew⟩
  · exact h stmt (Session.committed_update hcommit ▸ hstmt)

-- What a commit adds to the indexes was not there before.
theorem Consistent.nodup_keys {pool : ServicePool} (h : Consistent pool) {i : ℕ} {t : ServiceThread}
    (hi : pool.threads[i]? = some t) : (t.loc.keys ++ pool.shared.db.keys).Nodup := by
  have hget : (pool.threads.map Thread.loc)[i]? = some t.loc := by rw [List.getElem?_map, hi]; rfl
  have hperm := entries_perm pool.shared.db hget
  refine (hperm.nodup_iff.mp h.keys).sublist ?_
  exact (List.sublist_append_left _ _).append_left _

theorem Consistent.fresh_key {pool : ServicePool} (h : Consistent pool) {i : ℕ} {t : ServiceThread}
    (hi : pool.threads[i]? = some t) {stmt : Stmt} (hstmt : stmt ∈ t.loc.flushed) {key : Key}
    (hkey : key ∈ stmt.keys) : key ∉ pool.shared.db.keys :=
  List.disjoint_of_nodup_append (h.nodup_keys hi) (List.mem_flatMap.mpr ⟨stmt, hstmt, hkey⟩)

-- The event of a payment on the test rail is new to the store.
theorem Consistent.fresh_settlement {pool pool' : ServicePool} (h : Consistent pool) {i : ℕ} {t : ServiceThread}
    {transaction : Transaction} (hcommits : Commits pool i t transaction pool') {x : Settlement}
    (hx : transaction.settlement = some x) {row : WebhookEvent} (hrow : row ∈ pool.shared.db.webhookEvents) :
    row.id ≠ x.event.id := by
  intro hid
  have hinsert : .insertWebhookEvent x.event ∈ t.loc.flushed := by
    rw [hcommits.flushed]
    exact Transaction.mem_stmts_of_settlement hx (Settlement.mem_stmts.mpr (.inl rfl))
  exact h.fresh_key hcommits.issues.1 hinsert List.mem_cons_self
    (Db.mem_keys_of_webhookEvent hrow (by simp [WebhookEvent.keys, hid]))

theorem Consistent.keys_nodup {pool : ServicePool} (h : Consistent pool) : pool.shared.db.keys.Nodup :=
  h.keys.sublist (List.sublist_append_left _ _)

theorem Consistent.initial : Consistent ⟨{}, []⟩ := ⟨List.nodup_nil, by simp⟩

theorem Consistent.step {pool pool' : ServicePool} {move : ServiceMove} (h : Consistent pool)
    (hproper : ∀ t ∈ pool.threads, Proper t) (hmove : service.Step pool move pool') :
    Consistent pool' := by
  refine ⟨?_, ?_⟩
  · have hkeys := h.keys
    have hclosed {i : ℕ} {t : ServiceThread} (hi : pool.threads[i]? = some t) (t' : ServiceThread)
        (hloc : t'.loc = t.loc.close) :
        (entries pool.shared.db ((pool.threads.set i t').map Thread.loc)).Nodup := by
      rw [List.map_set, hloc]
      refine entries_nodup_of_sublist (s := t.loc) _ ?_ (List.nil_sublist _) hkeys
      rw [List.getElem?_map, hi]
      rfl
    cases hmove with
    | arrive shared threads req =>
        simpa [entries, Session.keys, service] using hkeys
    | act hthread hanswer =>
        rw [List.map_set]
        have hrest := hproper _ (List.mem_of_getElem? hthread)
        refine entries_nodup_act ?_ hrest.1 hanswer hkeys
        rw [List.getElem?_map, hthread]
        rfl
    | finish hthread => exact hclosed hthread _ rfl
    | fail hthread => exact hclosed hthread _ rfl
    | crash hthread => exact hclosed hthread _ rfl
  · refine hmove.forall_threads hproper (fun request _ => ?_) (fun request s hs => ?_) ?_ ?_ h.grounded
    · refine ⟨.inl rfl, fun stmt hstmt => (nomatch hstmt), fun query row hread => ?_⟩
      obtain ⟨rows, hpast, -⟩ := hread
      cases hpast
    · exact ⟨hs.recorded.mono rfl List.suffix_rfl, hs.kept, hs.reads⟩
    · intro i t op answer _ _ hpermits henabled hgrounded
      exact hgrounded.own hpermits henabled
    · intro i t op answer request s _ _ hpermits hgrounded
      exact hgrounded.other hpermits

-- The donor of a gift is stored, by the request itself or before it.
theorem giver_stored {pool : ServicePool} (h : Consistent pool) {t : ServiceThread} (ht : t ∈ pool.threads)
    {step : DonorStep}
    {payload : DonorPayload} (hfrom : step.From payload t.loc)
    (hcommitted : ∀ stmt ∈ step.stmts, stmt ∈ t.loc.committed) :
    ∃ donor ∈ pool.shared.db.donors, donor.id = step.row.id ∧ donor.email = step.row.email := by
  have hheld : pool.shared.db.holds (.insertDonor step.row) := by
    rcases hfrom with ⟨-, hread⟩ | ⟨hnew, -⟩
    · exact ((h.grounded t ht).reads _ _ hread).1
    · exact (h.grounded t ht).kept _ (hcommitted _ (by simp [DonorStep.stmts, hnew]))
  obtain ⟨columns, hdonor⟩ := hheld
  exact ⟨_, hdonor, Donor.setAll_id step.row columns, Donor.setAll_email step.row columns⟩

-- Every entry of an index was added by the commit of some request.
def Owned (pool : ServicePool) : Prop :=
  ∀ key ∈ pool.shared.db.keys, ∃ t ∈ pool.threads, ∃ stmt ∈ t.loc.committed, key ∈ stmt.keys

-- What the requests added to the tables they go on to own.
theorem owned_step {pool pool' : ServicePool} {move : ServiceMove} {key : Key}
    (h : key ∈ pool.shared.db.keys → ∃ t ∈ pool.threads, ∃ stmt ∈ t.loc.committed, key ∈ stmt.keys)
    (hproper : ∀ t ∈ pool.threads, Proper t) (hmove : service.Step pool move pool')
    (hkey : key ∈ pool'.shared.db.keys) :
    ∃ t ∈ pool'.threads, ∃ stmt ∈ t.loc.committed, key ∈ stmt.keys := by
  have hlater (hold : key ∈ pool.shared.db.keys) :
      ∃ t ∈ pool'.threads, ∃ stmt ∈ t.loc.committed, key ∈ stmt.keys := by
    obtain ⟨t, ht, stmt, hstmt, hmem⟩ := h hold
    obtain ⟨t', ht', -, -, hcommitted⟩ := thread_later hmove ht
    exact ⟨t', ht', stmt, hcommitted.subset hstmt, hmem⟩
  rcases db_step hproper hmove with hquiet | ⟨i, t, transaction, -, hcommits⟩
  · exact hlater (hquiet.db ▸ hkey)
  · rw [hcommits.db] at hkey
    rcases List.mem_append.mp ((Db.keys_applyAll _ _).subset hkey) with hold | hnew
    · exact hlater hold
    · obtain ⟨stmt, hstmt, hmem⟩ := List.mem_flatMap.mp hnew
      obtain ⟨t', hi, -, -, hcommitted⟩ := hcommits.self
      exact ⟨t', List.mem_of_getElem? hi, stmt, by simp [hcommitted, hstmt], hmem⟩

theorem Owned.step {pool pool' : ServicePool} {move : ServiceMove} (h : Owned pool)
    (hproper : ∀ t ∈ pool.threads, Proper t) (hmove : service.Step pool move pool') :
    Owned pool' :=
  fun key => owned_step (h key) hproper hmove

-- Every state of the service, from empty tables on and whatever is admitted.
theorem consistent_run {allow : ServicePool → ServiceMove → Prop} {pool : ServicePool}
    (hrun : service.Run allow ⟨{}, []⟩ pool) : Consistent pool ∧ ∀ t ∈ pool.threads, Proper t :=
  hrun.invariant_of_obeys handler_obeys Consistent.initial (by simp)
    fun _ _ _ h hproper _ hmove => h.step hproper hmove

end BridgeOfHope
