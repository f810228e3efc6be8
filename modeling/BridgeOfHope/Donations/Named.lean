import BridgeOfHope.Correspondence
import BridgeOfHope.Donations.Giver

namespace BridgeOfHope

open Process Donations

-- Who a giver is. A give request has to name its donor, a newsletter signup
-- does not, and both share the row of an email.

structure Donor.Named (donor : Donor) : Prop where
  firstName : donor.firstName ≠ ""
  lastName : donor.lastName ≠ ""
  countryCode : donor.countryCode.length = 2

instance (donor : Donor) : Decidable donor.Named :=
  decidable_of_iff (donor.firstName ≠ "" ∧ donor.lastName ≠ "" ∧ donor.countryCode.length = 2)
    ⟨fun h => ⟨h.1, h.2.1, h.2.2⟩, fun h => ⟨h.firstName, h.lastName, h.countryCode⟩⟩

theorem Donor.named_setAll {donor : Donor} {columns : List DonorSet} (h : donor.Named) :
    (donor.setAll columns).Named := by
  refine ⟨?_, ?_, ?_⟩
  · rw [setAll_firstName]
    exact h.firstName
  · rw [setAll_lastName]
    exact h.lastName
  · rw [setAll_countryCode]
    exact h.countryCode

-- The donor has a donation or a subscription.
def Db.Gave (db : Db) (id : Uuid) : Prop :=
  (∃ donation ∈ db.donations, donation.donorId = id) ∨
    ∃ subscription ∈ db.subscriptions, subscription.donorId = id

instance (db : Db) (id : Uuid) : Decidable (db.Gave id) :=
  inferInstanceAs (Decidable (_ ∨ _))

-- The donor of that id was stored with names.
def Db.Knows (db : Db) (id : Uuid) : Prop :=
  ∃ donor : Donor, donor.id = id ∧ donor.Named ∧ db.holds (.insertDonor donor)

theorem Db.Knows.mono {db : Db} {id : Uuid} (h : db.Knows id) (stmts : List Stmt) :
    (db.applyAll stmts).Knows id := by
  obtain ⟨donor, hid, hnamed, hholds⟩ := h
  exact ⟨donor, hid, hnamed, Db.holds_applyAll hholds stmts⟩

def Op.askedEmail : Op → Option String
  | .query (.donorByEmail email) => some email
  | _ => none

-- The donor payload of a give request.
def Request.giver (request : Request) : Option DonorPayload := request.given.map GiveBody.donor

-- The donor of what a commit adds to the two tables.
theorem gave_applyAll {db : Db} {transaction : Transaction} {id : Uuid}
    (h : (db.applyAll transaction.stmts).Gave id) :
    db.Gave id ∨ (∃ x d, transaction.settlement = some x ∧ x.donation = some d ∧ d.donorId = id) ∨
      ∃ step subscription activation, transaction = .subscribe step subscription activation ∧
        subscription.donorId = id := by
  rcases h with ⟨donation, hdonation, hid⟩ | ⟨subscription, hsubscription, hid⟩
  · rcases Db.mem_donations_applyAll.mp hdonation with hold | hnew
    · exact .inl (.inl ⟨donation, hold, hid⟩)
    · obtain ⟨x, hx, hd⟩ := Transaction.donation_cases hnew
      exact .inr (.inl ⟨x, donation, hx, hd, hid⟩)
  · rw [transaction.subscriptions_applyAll] at hsubscription
    rcases List.mem_append.mp hsubscription with hold | hnew
    · obtain ⟨row, hrow, rfl⟩ := List.mem_map.mp hold
      exact .inl (.inr ⟨row, hrow, by simpa using hid⟩)
    · cases transaction with
      | subscribe step subscription' activation =>
          refine .inr (.inr ⟨step, subscription', activation, rfl, ?_⟩)
          cases activation with
          | none =>
              rw [← List.mem_singleton.mp hnew]
              exact hid
          | some a =>
              rw [List.mem_singleton.mp hnew] at hid
              simpa using hid
      | _ => simp [Transaction.opened] at hnew

section Runs

variable [Platform]

theorem Db.Knows.named {db : Db} {donor : Donor} (h : db.Knows donor.id) (hkeys : db.keys.Nodup)
    (hdonor : donor ∈ db.donors) : donor.Named := by
  obtain ⟨stored, hid, hnamed, columns, hrow⟩ := h
  have hsame : stored.setAll columns = donor := by
    have hkey : Key.donor donor.id ∈ (stored.setAll columns).keys := by simp [Donor.keys, hid]
    exact Db.row_unique (Db.nodup_donors hkeys) hrow hdonor hkey (by simp [Donor.keys])
  rw [← hsame]
  exact Donor.named_setAll hnamed

-- A give request that looks for its donor meets no row of the email without a name.
def FindsNamed (pool : ServicePool) : ServiceMove → Prop
  | .act i op _ => ∀ email ∈ op.askedEmail, ∀ t ∈ pool.threads[i]?, t.req.giver.isSome = true →
      ∀ donor ∈ pool.shared.db.donors, Platform.citext donor.email = Platform.citext email → donor.Named
  | _ => True

instance (pool : ServicePool) (move : ServiceMove) : Decidable (FindsNamed pool move) :=
  match move with
  | .act i op _ => inferInstanceAs
    (Decidable (∀ email ∈ op.askedEmail, ∀ t ∈ pool.threads[i]?, t.req.giver.isSome = true →
      ∀ donor ∈ pool.shared.db.donors, Platform.citext donor.email = Platform.citext email → donor.Named))
  | .arrive _ | .finish _ | .crash _ => isTrue trivial

-- The donor that a give request goes on with has a name, and a donor that it
-- inserts fits the columns.
structure Acquainted (request : Request) (s : Session) : Prop where
  found : ∀ payload, request.giver = some payload → ∀ donor,
    s.Read (.donorByEmail payload.email) donor → donor.Named
  fits : ∀ donor, .insertDonor donor ∈ s.flushed → donor.fits = true

variable {pool pool' : ServicePool} {move : ServiceMove} {request : Request} {s : Session}

theorem Acquainted.update {world : World} {sessions : List Session} {op : Op} {ans : Ans op}
    (h : Acquainted request s)
    (henabled : enabled world sessions s op ans)
    (hnamed : ∀ email rows, (⟨op, ans⟩ : Event) = ⟨.query (.donorByEmail email), .ok rows⟩ →
      request.giver.isSome = true → ∀ donor ∈ rows, donor.Named) : Acquainted request (s.update op ans) := by
  refine ⟨fun payload hpayload donor hread => ?_, fun donor hdonor => ?_⟩
  · obtain ⟨rows, hpast, hrow⟩ := hread
    rcases List.mem_cons.mp hpast with hnew | hold
    · exact hnamed payload.email rows hnew.symm (by simp [hpayload]) donor hrow
    · exact h.found payload hpayload donor ⟨rows, hold, hrow⟩
  · exact Session.insertsFit_update henabled h.fits donor hdonor

-- The donor of a gift has a name once the gift is committed.
theorem Acquainted.knows {world : World} {step : DonorStep} {payload : DonorPayload} {stmts : List Stmt}
    (hupper : ∀ text : String, text.length ≤ (Platform.upper text).length) (h : Acquainted request s)
    (hgrounded : Grounded world request s) (hgiver : request.giver = some payload)
    (hdonor : step.From payload s)
    (hstmts : ∀ stmt ∈ step.stmts, stmt ∈ stmts) (hflushed : s.flushed = stmts) :
    (world.db.applyAll stmts).Knows step.row.id := by
  refine ⟨step.row, rfl, ?_, hdonor.held hgrounded hstmts⟩
  rcases hdonor with ⟨-, hread⟩ | ⟨hnew, id, hrow⟩
  · exact h.found payload hgiver step.row hread
  · have hfits := h.fits step.row (by rw [hflushed]; exact hstmts _ (by simp [DonorStep.stmts, hnew]))
    rw [hrow] at hfits ⊢
    simp only [Donor.fits, newDonor, Bool.and_eq_true] at hfits
    have hshort : (Platform.upper payload.countryCode).length ≤ 2 := of_decide_eq_true hfits.1.2
    have hcountry := hupper payload.countryCode
    have hlength := payload.countryCode_length
    refine ⟨?_, ?_, ?_⟩
    · intro hempty
      have hfirst := payload.firstName_length.1
      simp [show payload.firstName = "" from hempty] at hfirst
    · intro hempty
      have hlast := payload.lastName_length.1
      simp [show payload.lastName = "" from hempty] at hlast
    · show (Platform.upper payload.countryCode).length = 2
      omega

theorem acquainted_step (hproper : ∀ t ∈ pool.threads, Proper t) (hnamed : FindsNamed pool move)
    (hmove : service.Step pool move pool') (h : ∀ t ∈ pool.threads, Acquainted t.req t.loc) :
    ∀ t ∈ pool'.threads, Acquainted t.req t.loc := by
  refine hmove.forall_threads hproper (P := fun _ request s => Acquainted request s) ?_ ?_ ?_
    (fun _ _ _ _ _ _ _ _ _ h => h) h
  · intro request _
    refine ⟨fun payload _ donor hread => ?_, by simp [service]⟩
    obtain ⟨rows, hpast, -⟩ := hread
    cases hpast
  · exact fun request s h => ⟨h.found, by simp [service, Session.close]⟩
  · rintro i t op ans rfl hissues hpermits henabled h
    refine h.update henabled fun email rows hevent hgiver donor hrow => ?_
    cases hevent
    have hanswer : enabled pool.shared (pool.threads.map Thread.loc) t.loc
        (.query (.donorByEmail email)) (.ok rows) :=
      henabled
    have hmem := mem_table hpermits hanswer hrow
    exact hnamed email rfl t hissues.1 hgiver donor hmem.1 (by simpa [Query.accepts] using hmem.2)

-- Everybody who gave is known by name, and so is every donor that a give request has found.
structure Known (pool : ServicePool) : Prop where
  gave : ∀ id, pool.shared.db.Gave id → pool.shared.db.Knows id
  acquainted : ∀ t ∈ pool.threads, Acquainted t.req t.loc

theorem Known.step (h : Known pool) (hupper : ∀ text : String, text.length ≤ (Platform.upper text).length)
    (hconsistent : Consistent pool) (hproper : ∀ t ∈ pool.threads, Proper t) (hnamed : FindsNamed pool move)
    (hmove : service.Step pool move pool') : Known pool' := by
  refine ⟨fun id hgave => ?_, acquainted_step hproper hnamed hmove h.acquainted⟩
  rcases db_step hproper hmove with hquiet | ⟨i, t, transaction, -, hcommits⟩
  · rw [hquiet.db] at hgave ⊢
    exact h.gave id hgave
  have hacquainted := h.acquainted t hcommits.mem
  have hgrounded := hconsistent.grounded t hcommits.mem
  have hlicensed := hcommits.ready.licensed
  rw [hcommits.db] at hgave ⊢
  rcases gave_applyAll hgave with hold | ⟨x, d, hx, hd, hid⟩ | ⟨step, subscription, activation, rfl, hid⟩
  · exact (h.gave id hold).mono _
  · obtain ⟨⟨donationId, completedAt⟩, -, rfl⟩ := Option.map_eq_some_iff.mp hd
    rcases hlicensed.settled hx with ⟨body, step, token, hrequest, rfl, hdonor, -, hargs, -⟩ |
      ⟨body, step, subscription, time, token, subscriptionId, hrequest, rfl, hdonor, -, -, hargs, -⟩
    · have hdonorId : id = step.row.id := by rw [← hid, hargs]; rfl
      rw [hdonorId]
      exact hacquainted.knows hupper hgrounded (by simp [Request.giver, Request.given, hrequest]) hdonor
        (fun stmt hstmt => List.mem_append_left _ hstmt) hcommits.flushed
    · have hdonorId : id = step.row.id := by rw [← hid, hargs]; rfl
      rw [hdonorId]
      exact hacquainted.knows hupper hgrounded (by simp [Request.giver, Request.given, hrequest]) hdonor
        (fun stmt hstmt => List.mem_append_left _ (List.mem_append_left _ hstmt)) hcommits.flushed
  · cases hlicensed with
    | subscribe hrequest hdonor hsubscription _ _ _ =>
        have hdonorId : id = step.row.id := by rw [← hid, hsubscription]; rfl
        rw [hdonorId]
        exact hacquainted.knows hupper hgrounded (by simp [Request.giver, Request.given, hrequest]) hdonor
          (fun stmt hstmt => List.mem_append_left _ (List.mem_append_left _ hstmt)) hcommits.flushed

theorem named_givers (hupper : ∀ text : String, text.length ≤ (Platform.upper text).length)
    (hrun : service.Run FindsNamed ⟨{}, []⟩ pool) :
    ∀ donor ∈ pool.shared.db.donors, pool.shared.db.Gave donor.id → donor.Named := by
  have h := hrun.invariant_of_obeys (I := fun pool => Consistent pool ∧ Known pool) handler_obeys
    ⟨.initial, by simp [Db.Gave], by simp⟩ (by simp) fun _ _ _ h hproper hnamed hmove =>
      ⟨h.1.step hproper hmove, h.2.step hupper h.1 hproper hnamed hmove⟩
  obtain ⟨⟨hconsistent, hknown⟩, -⟩ := h
  intro donor hdonor hgave
  exact (hknown.gave donor.id hgave).named hconsistent.keys_nodup hdonor

end Runs

open Trial

def newsletterSignup (email : String) : Request := ⟨settings, .newsletterSubscribe ⟨email⟩⟩

-- A signup to the newsletter, and a gift after it.
def signupThenGift (email email' : String) : List ServiceCue :=
  [.arrive (newsletterSignup email)] ++ turns 0 7 (reply 0) ++ [.finish 0, .arrive (oneOff "test" email')] ++
    turns 1 24 (reply 1)

theorem named_givers_first_gift : ∃ pool donor, service.Run FindsNamed ⟨{}, []⟩ pool ∧
    donor ∈ pool.shared.db.donors ∧ pool.shared.db.Gave donor.id ∧ donor.Named := by
  obtain ⟨pool, hrun, donor, hdonor, hgave⟩ := exists_run FindsNamed
    (fun pool => ∃ donor ∈ pool.shared.db.donors, pool.shared.db.Gave donor.id)
    (signupThenGift "brian@example.org" "amina@example.org" ++ turns 1 3 (reply 1)) (by decide +kernel)
  have hupper (text : String) : text.length ≤ (Platform.upper text).length := by
    have hchars (chars : List Char) : chars.length ≤ (chars.flatMap upperChars).length := by
      induction chars with
      | nil => exact Nat.le_refl 0
      | cons c chars ih =>
          have hc : 1 ≤ (upperChars c).length := by
            unfold upperChars
            split_ifs <;> simp
          simp only [List.flatMap_cons, List.length_append, List.length_cons]
          omega
    simpa [Platform.upper, String.length_toList] using hchars text.toList
  exact ⟨pool, donor, hrun, hdonor, hgave, named_givers hupper hrun donor hdonor hgave⟩

-- The row of the signup is taken as it is.
theorem nameless_giver : ∃ pool, service.Run (fun _ _ => True) ⟨{}, []⟩ pool ∧
    ∃ donor ∈ pool.shared.db.donors, pool.shared.db.Gave donor.id ∧ ¬ donor.Named :=
  exists_run (fun _ _ => True) _ (signupThenGift "amina@example.org" "amina@example.org") (by decide +kernel)

end BridgeOfHope
