import BridgeOfHope.Correspondence
import BridgeOfHope.Donations.Giver
import Mathlib

namespace BridgeOfHope

open Process Payments Donations

-- What the ledger says a donor has given, and what the donor's requests pledged.

-- The donation that a request has committed.
def booked (t : ServiceThread) : List Donation := t.loc.committed.filterMap Stmt.donated

section

variable [Platform]

def Db.GivesAs (db : Db) (email : String) (id : Uuid) : Prop :=
  ∃ donor ∈ db.donors, donor.id = id ∧ Platform.citext donor.email = Platform.citext email

instance (db : Db) (email : String) (id : Uuid) : Decidable (db.GivesAs email id) :=
  inferInstanceAs (Decidable (∃ donor ∈ db.donors, _ ∧ _))

-- The sum of a donor's donations in one currency, as a statement would list them.
def Db.given (db : Db) (email currency : String) : Int :=
  (db.donations.map fun d =>
    if d.currency = currency ∧ db.GivesAs email d.donorId then d.amountMinor else 0).sum

-- What a give request pledged, once its gift is booked.
def pledged (email currency : String) (t : ServiceThread) : Int :=
  match t.req.given with
  | some body =>
      if booked t ≠ [] ∧ body.currency = currency ∧ Platform.citext body.donor.email = Platform.citext email
      then body.amountMinor else 0
  | none => 0

end

theorem sum_map_flatMap {α β : Type} (f : α → List β) (g : β → Int) (items : List α) :
    ((items.flatMap f).map g).sum = (items.map fun a => ((f a).map g).sum).sum := by
  induction items with
  | nil => rfl
  | cons a items ih =>
      simp only [List.flatMap_cons, List.map_append, List.sum_append, List.map_cons, List.sum_cons, ih]

theorem Transaction.booked_eq (transaction : Transaction) :
    transaction.stmts.filterMap Stmt.donated = transaction.booked := by
  have h := transaction.donations_applyAll {}
  rw [Db.donations_applyAll] at h
  simpa using h

theorem Transaction.booked_earlier (transaction : Transaction) :
    transaction.earlier.filterMap Stmt.donated = [] := by
  cases transaction <;> rfl

-- The donation of a gift is the one that its body describes.
structure Donation.Fulfils [Platform] (d : Donation) (body : GiveBody) (step : DonorStep) (s : Session) :
    Prop where
  currency : d.currency = body.currency
  amountMinor : d.amountMinor = body.amountMinor
  donorId : d.donorId = step.row.id
  donor : step.From body.donor s

section Runs

variable [Platform] {allow : ServicePool → ServiceMove → Prop} {pool pool' : ServicePool} {move : ServiceMove}

theorem Licensed.booked {request : Request} {s : Session} {transaction : Transaction} {d : Donation}
    (h : Licensed request s transaction) (hd : d ∈ transaction.booked) :
    ∃ body step, request.given = some body ∧ d.Fulfils body step s ∧
      ∀ stmt ∈ step.stmts, stmt ∈ transaction.stmts := by
  obtain ⟨x, hx, hdonation⟩ := Option.bind_eq_some_iff.mp (Option.mem_toList.mp hd)
  obtain ⟨⟨id, completedAt⟩, -, rfl⟩ := Option.map_eq_some_iff.mp hdonation
  rcases h.settled hx with ⟨body, step, token, hrequest, rfl, hfrom, -, hargs, -⟩ |
    ⟨body, step, subscription, time, token, id', hrequest, rfl, hfrom, -, -, hargs, -⟩
  · refine ⟨body, step, by simp [Request.given, hrequest], ?_, fun stmt hstmt => List.mem_append_left _ hstmt⟩
    exact ⟨by rw [hargs]; rfl, by rw [hargs]; rfl, by rw [hargs]; rfl, hfrom⟩
  · refine ⟨body, step, by simp [Request.given, hrequest], ?_,
      fun stmt hstmt => List.mem_append_left _ (List.mem_append_left _ hstmt)⟩
    exact ⟨by rw [hargs]; rfl, by rw [hargs]; rfl, by rw [hargs]; rfl, hfrom⟩

theorem Commits.booked {i : ℕ} {t : ServiceThread} {transaction : Transaction}
    (h : Commits pool i t transaction pool') :
    (pool'.threads.flatMap booked).Perm (transaction.booked ++ pool.threads.flatMap booked) := by
  obtain ⟨rest, hthreads⟩ := h.threads
  rw [hthreads]
  refine System.flatMap_set_perm h.issues.1 ?_
  have hold : BridgeOfHope.booked t = [] := by
    rw [BridgeOfHope.booked, h.ready.committed, transaction.booked_earlier]
  rw [hold, List.append_nil, ← transaction.booked_eq]
  show (t.loc.committed ++ t.loc.flushed).filterMap Stmt.donated = _
  rw [h.ready.committed, h.flushed, List.filterMap_append, transaction.booked_earlier, List.nil_append]

-- Every donation of the ledger was booked by one request, and every donation
-- that a request has booked is in the ledger.
theorem donations_step (hproper : ∀ t ∈ pool.threads, Proper t) (hmove : service.Step pool move pool')
    (h : pool.shared.db.donations.Perm (pool.threads.flatMap booked)) :
    pool'.shared.db.donations.Perm (pool'.threads.flatMap booked) := by
  rcases db_step hproper hmove with hquiet | ⟨i, t, transaction, -, hcommits⟩
  · rw [hquiet.db]
    have hset {i : ℕ} {t t' : ServiceThread} (hi : pool.threads[i]? = some t)
        (hsame : t'.loc.committed = t.loc.committed) :
        ((pool.threads.set i t').flatMap booked).Perm (pool.threads.flatMap booked) :=
      System.flatMap_set_perm hi (show booked t' = [] ++ booked t by simp [booked, hsame])
    cases hmove with
    | arrive shared threads req => simpa [booked, service] using h
    | @act shared threads i req loc op next answer hthread hanswer =>
        refine h.trans (hset hthread ?_).symm
        obtain ⟨t', hk, -, -, hcommitted⟩ := hquiet.threads i _ hthread
        have hlt : i < threads.length := (List.getElem?_eq_some_iff.mp hthread).1
        rw [List.getElem?_set_self hlt] at hk
        cases hk
        exact hcommitted
    | finish hthread =>
        refine h.trans (hset hthread ?_).symm
        rfl
    | fail hthread =>
        refine h.trans (hset hthread ?_).symm
        rfl
    | crash hthread =>
        refine h.trans (hset hthread ?_).symm
        rfl
  · rw [hcommits.db, transaction.donations_applyAll]
    exact (List.perm_append_comm.trans (h.append_left _)).trans hcommits.booked.symm

theorem donations_run (hrun : service.Run allow ⟨{}, []⟩ pool) :
    (Consistent pool ∧ pool.shared.db.donations.Perm (pool.threads.flatMap booked)) ∧
      ∀ t ∈ pool.threads, Proper t :=
  hrun.invariant_of_obeys handler_obeys (I := fun pool => Consistent pool ∧
    pool.shared.db.donations.Perm (pool.threads.flatMap booked)) ⟨.initial, .refl _⟩ (by simp)
    fun _ _ _ h hproper _ hmove => ⟨h.1.step hproper hmove, donations_step hproper hmove h.2⟩

-- A request has booked no donation, or the one of its own body.
theorem booked_cases {t : ServiceThread} (h : Recorded t.req t.loc) :
    booked t = [] ∨ ∃ d body step, booked t = [d] ∧ t.req.given = some body ∧ d.Fulfils body step t.loc ∧
      ∀ stmt ∈ step.stmts, stmt ∈ t.loc.committed := by
  rcases h with hnone | ⟨transaction, hcommitted, hlicensed⟩
  · exact .inl (by rw [booked, hnone]; rfl)
  have hbooked : booked t = transaction.booked := by
    rw [booked, hcommitted, List.filterMap_append, transaction.booked_earlier, transaction.booked_eq]
    rfl
  rw [hbooked]
  cases hdonation : transaction.settlement.bind Settlement.donation with
  | none => exact .inl (by rw [Transaction.booked, hdonation]; rfl)
  | some d =>
      have hone : transaction.booked = [d] := by rw [Transaction.booked, hdonation]; rfl
      obtain ⟨body, step, hgiven, hfulfils, hstmts⟩ := hlicensed.booked (hone ▸ List.mem_singleton_self d)
      refine .inr ⟨d, body, step, hone, hgiven, hfulfils, fun stmt hstmt => ?_⟩
      rw [hcommitted]
      exact List.mem_append_right _ (hstmts stmt hstmt)

theorem DonorStep.From.email {step : DonorStep} {payload : DonorPayload} {world : World} {request : Request}
    {s : Session} (h : step.From payload s) (hgrounded : Grounded world request s) :
    Platform.citext step.row.email = Platform.citext payload.email := by
  rcases h with ⟨-, hread⟩ | ⟨-, id, hrow⟩
  · simpa [Query.accepts] using (hgrounded.reads _ _ hread).2
  · rw [hrow]
    rfl

theorem givesAs_iff (hconsistent : Consistent pool) {t : ServiceThread} (ht : t ∈ pool.threads) {d : Donation}
    {body : GiveBody} {step : DonorStep} (h : d.Fulfils body step t.loc)
    (hstmts : ∀ stmt ∈ step.stmts, stmt ∈ t.loc.committed) (email : String) :
    pool.shared.db.GivesAs email d.donorId ↔ Platform.citext body.donor.email = Platform.citext email := by
  obtain ⟨donor, hdonor, hid, hemail⟩ := giver_stored hconsistent ht h.donor hstmts
  have hsame : Platform.citext donor.email = Platform.citext body.donor.email := by
    rw [hemail, h.donor.email (hconsistent.grounded t ht)]
  constructor
  · rintro ⟨donor', hdonor', hid', hfound⟩
    have hone : donor' = donor := by
      refine Db.row_unique (Db.nodup_donors hconsistent.keys_nodup) hdonor' hdonor
        (show Key.donor donor'.id ∈ donor'.keys from List.mem_cons_self) ?_
      rw [hid', h.donorId, ← hid]
      exact List.mem_cons_self
    rw [← hsame, ← hone, hfound]
  · intro hfound
    exact ⟨donor, hdonor, hid.trans h.donorId.symm, hsame.trans hfound⟩

-- In every reachable state, what the ledger says that a donor has given in a
-- currency is what the donor's requests pledged, each booked gift once.
theorem giving_statement (hrun : service.Run allow ⟨{}, []⟩ pool) (email currency : String) :
    pool.shared.db.given email currency = (pool.threads.map (pledged email currency)).sum := by
  obtain ⟨⟨hconsistent, hperm⟩, -⟩ := donations_run hrun
  have hsum := (hperm.map fun d : Donation =>
    if d.currency = currency ∧ pool.shared.db.GivesAs email d.donorId then d.amountMinor else 0).sum_eq
  rw [sum_map_flatMap] at hsum
  refine hsum.trans (congrArg List.sum (List.map_congr_left fun t ht => ?_))
  rcases booked_cases (hconsistent.grounded t ht).recorded with hnone |
    ⟨d, body, step, hone, hgiven, hfulfils, hstmts⟩
  · unfold pledged
    rw [hnone]
    cases t.req.given <;> simp
  · have hgives := givesAs_iff hconsistent ht hfulfils hstmts email
    simp [pledged, hone, hgiven, hfulfils.currency, hfulfils.amountMinor, hgives]

end Runs

open Trial

theorem giving_statement_twoGifts : ∃ pool, service.Run NewTokens ⟨{}, []⟩ pool ∧
    pool.shared.db.given "Amina@Example.org" "USD" = 2500 ∧
      (pool.threads.map (pledged "Amina@Example.org" "USD")).sum = 2500 := by
  obtain ⟨pool, hrun, hsum⟩ := exists_run NewTokens
    (fun pool => pool.shared.db.given "Amina@Example.org" "USD" = 2500) twoGifts (by decide +kernel)
  exact ⟨pool, hrun, hsum, (giving_statement hrun _ _).symm.trans hsum⟩

end BridgeOfHope
