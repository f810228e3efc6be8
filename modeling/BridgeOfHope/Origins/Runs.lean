import BridgeOfHope.Origins

namespace BridgeOfHope

open Process

-- The ids that the requests of a run draw, and what becomes of them.

def Key.id : Key → Option Uuid
  | .donor id | .subscription id | .donation id | .webhookEvent id | .dataRequest id => some id
  | .donorEmail _ | .providerSubscription _ _ | .providerPayment _ | .providerEvent _ => none

variable [Platform]

-- `uuid7` draws a value that no stored row has and no other request drew.
def NewIds (pool : ServicePool) : ServiceMove → Prop
  | .act i .uuid7 id => (∀ key ∈ pool.shared.db.keys, key.id ≠ some id) ∧
      ∀ t ∈ pool.threads.eraseIdx i, id ∉ t.loc.ids
  | _ => True

instance (pool : ServicePool) : (move : ServiceMove) → Decidable (NewIds pool move)
  | .act i op answer => match op, answer with
    | .uuid7, id => inferInstanceAs (Decidable ((∀ key ∈ pool.shared.db.keys, key.id ≠ some id) ∧
        ∀ t ∈ pool.threads.eraseIdx i, id ∉ t.loc.ids))
    | .now, _ | .tokenHex, _ | .push _, _ | .flush, _ | .query _, _ | .commit, _ | .stripeCheckout _, _
    | .stripeDelete _, _ | .http _, _ | .record _, _ | .smtp _, _ | .log _, _ => isTrue trivial
  | .arrive _ | .finish _ | .crash _ => isTrue trivial

-- Everything that a session has written was minted by itself.
def Made (request : Request) (s : Session) : Prop :=
  ∀ stmt ∈ s.committed ++ s.pending, ∀ key ∈ stmt.keys, key.MadeIn request s

variable {request : Request} {s : Session}

theorem Key.MadeIn.drawn {key : Key} {id : Uuid} (h : key.MadeIn request s) (hid : key.id = some id) :
    id ∈ s.ids := by
  cases key with
  | donorEmail | providerPayment | providerEvent | providerSubscription => cases hid
  | _ =>
      cases hid
      exact h

theorem Made.update {op : Op} (h : Made request s) (hminting : Minting request s op) (ans : Ans op) :
    Made request (s.update op ans) := by
  intro stmt hstmt key hkey
  have hpast : s.past <:+ (s.update op ans).past := List.suffix_cons _ _
  have hold : stmt ∈ s.committed ++ s.pending ∨ op = .push stmt := by
    rcases List.mem_append.mp hstmt with hcommitted | hpending
    · by_cases hcommit : (⟨op, ans⟩ : Event) = ⟨.commit, .ok ()⟩
      · cases hcommit
        rcases List.mem_append.mp hcommitted with hold | hnew
        · exact .inl (List.mem_append_left _ hold)
        · exact .inl (List.mem_append_right _ (List.mem_append_left _ hnew))
      · rw [Session.committed_update hcommit] at hcommitted
        exact .inl (List.mem_append_left _ hcommitted)
    · exact (Session.mem_pending_update hpending).imp_left (List.mem_append_right _)
  rcases hold with hold | rfl
  · exact (h stmt hold key hkey).mono hpast
  · exact (hminting.1 key hkey).mono hpast

theorem Made.close (h : Made request s) : Made request s.close := by
  intro stmt hstmt key hkey
  have hcommitted : stmt ∈ s.committed := by simpa [Session.close, Session.pending] using hstmt
  exact h stmt (List.mem_append_left _ hcommitted) key hkey

theorem Made.flushed (h : Made request s) {key : Key} (hkey : key ∈ s.keys) : key.MadeIn request s := by
  obtain ⟨stmt, hstmt, hmem⟩ := List.mem_flatMap.mp hkey
  exact h stmt (List.mem_append_right _ (List.mem_append_left _ hstmt)) key hmem

-- What a request may do, and what the entries that it adds are made of.
abbrev Conducts (request : Request) (s : Session) (op : Op) : Prop :=
  Permits request s op ∧ Minting request s op

theorem handler_conducts (request : Request) :
    (service.start request).Obeys service.toClient (Conducts request) (Concludes request) service.fresh :=
  ((handler_obeys request).and (handler_mints request)).mono (fun _ _ h => h) fun _ _ h => h.1

theorem proper_of_conducts {t : ServiceThread} (h : service.Obedient Conducts Concludes t) : Proper t :=
  h.mono (fun _ _ _ h => h.1) fun _ _ _ h => h

-- No two requests drew the same id, and a stored row has an id that a request
-- drew only when that request has committed it.
structure OwnIds (pool : ServicePool) : Prop where
  made : ∀ t ∈ pool.threads, Made t.req t.loc
  ids : (pool.threads.map Thread.loc).Pairwise fun s s' => ∀ id ∈ s.ids, id ∉ s'.ids
  stored : ∀ t ∈ pool.threads, ∀ id ∈ t.loc.ids, ∀ key ∈ pool.shared.db.keys, key.id = some id →
    key ∈ t.loc.committed.flatMap Stmt.keys

theorem OwnIds.initial (world : World) : OwnIds ⟨world, []⟩ := ⟨by simp, .nil, by simp⟩

variable {pool pool' : ServicePool} {move : ServiceMove}

theorem OwnIds.step (h : OwnIds pool)
    (hconducts : ∀ t ∈ pool.threads, service.Obedient Conducts Concludes t) (hnew : NewIds pool move)
    (hmove : service.Step pool move pool') : OwnIds pool' := by
  have hsymm {s s' : Session} (h : ∀ id ∈ s.ids, id ∉ s'.ids) (id : Uuid) (hid' : id ∈ s'.ids) : id ∉ s.ids :=
    fun hid => h id hid hid'
  refine ⟨?_, ?_, ?_⟩
  · exact hmove.forall_threads hconducts (P := fun _ request s => Made request s)
      (fun _ _ stmt hstmt => (nomatch hstmt)) (fun _ _ hs => hs.close)
      (fun _ _ _ ans _ _ hop _ hs => hs.update hop.2 ans) (fun _ _ _ _ _ _ _ _ _ hs => hs) h.made
  · refine hmove.pairwise hsymm (fun _ _ _ _ _ _ hid => nomatch hid) (fun _ _ h => h) ?_ h.ids
    rintro i t op ans rfl - - t' ht' hpair id hid
    rcases Session.mem_ids_update hid with hold | hdrawn
    · exact hpair id hold
    · cases hdrawn
      exact hnew.2 t' ht'
  · intro t' ht' id hid key hkey hname
    obtain ⟨k, hk⟩ := List.mem_iff_getElem?.mp ht'
    have hkept (hkey : key ∈ pool.shared.db.keys) : key ∈ t'.loc.committed.flatMap Stmt.keys := by
      cases hmove.origin hk with
      | fresh hmove hloc =>
          rw [hloc] at hid
          cases hid
      | still hthread => exact h.stored t' (List.mem_of_getElem? hthread) id hid key hkey hname
      | @acted t op ans hmove hissues hanswer hreq hloc =>
          rw [hloc] at hid ⊢
          rcases Session.mem_ids_update hid with hold | hdrawn
          · obtain ⟨stmt, hstmt, hmem⟩ := List.mem_flatMap.mp
              (h.stored t (List.mem_of_getElem? hissues.1) id hold key hkey hname)
            exact List.mem_flatMap.mpr ⟨stmt, (t.loc.committed_prefix op ans).subset hstmt, hmem⟩
          · cases hdrawn
            subst hmove
            exact absurd hname (hnew.1 key hkey)
      | finished hthread hreq hloc hphase =>
          rw [hloc] at hid ⊢
          exact h.stored _ (List.mem_of_getElem? hthread) id hid key hkey hname
    have hproper (t : ServiceThread) (ht : t ∈ pool.threads) : Proper t := proper_of_conducts (hconducts t ht)
    rcases db_step hproper hmove with hquiet | ⟨i, t, transaction, -, hcommits⟩
    · exact hkept (hquiet.db ▸ hkey)
    rw [hcommits.db] at hkey
    rcases List.mem_append.mp ((Db.keys_applyAll _ _).subset hkey) with hold | hnewkey
    · exact hkept hold
    by_cases hik : i = k
    · subst hik
      obtain ⟨t'', hk'', -, -, hcommitted⟩ := hcommits.self
      cases hk.symm.trans hk''
      rw [hcommitted, List.flatMap_append]
      exact List.mem_append_right _ hnewkey
    -- another request commits it, and that request drew the id
    · have hk' := (hcommits.other (Ne.symm hik)).symm.trans hk
      rw [← hcommits.flushed] at hnewkey
      have hdrawn := ((h.made t hcommits.mem).flushed hnewkey).drawn hname
      exact absurd hid (System.forall_of_pairwise hsymm h.ids hcommits.issues.1 hk' hik id hdrawn)

-- An entry under an id that a request drew is held by nobody else.
theorem OwnIds.free (h : OwnIds pool) {i : ℕ} {t : ServiceThread} (hi : pool.threads[i]? = some t) {key : Key}
    {id : Uuid} (hid : id ∈ t.loc.ids) (hname : key.id = some id)
    (hcommitted : key ∉ t.loc.committed.flatMap Stmt.keys) (hflushed : key ∉ t.loc.keys) :
    key ∉ entries pool.shared.db (pool.threads.map Thread.loc) := by
  intro hentry
  rcases List.mem_append.mp hentry with hstored | hheld
  · exact hcommitted (h.stored t (List.mem_of_getElem? hi) id hid key hstored hname)
  · obtain ⟨s, hs, hkey⟩ := List.mem_flatMap.mp hheld
    obtain ⟨t', ht', rfl⟩ := List.mem_map.mp hs
    obtain ⟨k, hk⟩ := List.mem_iff_getElem?.mp ht'
    have hdrawn := ((h.made t' ht').flushed hkey).drawn hname
    by_cases hik : i = k
    · subst hik
      cases hi.symm.trans hk
      exact hflushed hkey
    · exact System.forall_of_pairwise (fun h id hid' hid => h id hid hid') h.ids hi hk hik id hid hdrawn

end BridgeOfHope
