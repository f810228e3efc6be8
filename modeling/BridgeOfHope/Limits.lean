import BridgeOfHope.Consistency
import BridgeOfHope.Limits.Writes
import Mathlib.Data.Fintype.BigOperators
import Mathlib.Data.List.OfFn
import Mathlib.Tactic.NormNum

namespace BridgeOfHope

open Process Payments Donations

-- Whether a request can come to write a value that its column does not hold.

-- An index that is not full has an entry to spare, and a table of donors stays one of
-- rows whose names fit.

theorem exists_not_mem {ι α : Type} [Fintype ι] [DecidableEq α] {f : ι → α} (hf : f.Injective) {taken : List α}
    (h : taken.length < Fintype.card ι) : ∃ i, f i ∉ taken := by
  by_contra hall
  push Not at hall
  have hsubset : Finset.univ.image f ⊆ taken.toFinset := fun a ha => by
    obtain ⟨i, -, rfl⟩ := Finset.mem_image.mp ha
    exact List.mem_toFinset.mpr (hall i)
  have hcard : Fintype.card ι ≤ taken.length := by
    calc Fintype.card ι = (Finset.univ.image f).card := (Finset.card_image_of_injective _ hf).symm
      _ ≤ taken.toFinset.card := Finset.card_le_card hsubset
      _ ≤ taken.length := List.toFinset_card_le taken
  omega

-- Where each entry names at most one value, fewer entries than values leave one unnamed.
theorem exists_unnamed {ι α κ : Type} [Fintype ι] [DecidableEq α] {f : ι → α} (hf : f.Injective)
    (names : κ → α → Prop) (hunique : ∀ {k a a'}, names k a → names k a' → a = a')
    {keys : List κ} {taken : List α}
    (h : keys.length + taken.length < Fintype.card ι) : ∃ i, f i ∉ taken ∧ ∀ k ∈ keys, ¬ names k (f i) := by
  classical
  let named : List α := keys.filterMap fun k => if h : ∃ a, names k a then some h.choose else none
  have hnamed : named.length ≤ keys.length := List.length_filterMap_le _ _
  obtain ⟨i, hi⟩ : ∃ i, f i ∉ named ++ taken := exists_not_mem hf (by rw [List.length_append]; omega)
  refine ⟨i, fun hmem => hi (List.mem_append_right _ hmem), fun k hk hname => hi (List.mem_append_left _ ?_)⟩
  have hsome : ∃ a, names k a := ⟨f i, hname⟩
  refine List.mem_filterMap.mpr ⟨k, hk, ?_⟩
  rw [dif_pos hsome, hunique hsome.choose_spec hname]

def hexToken (digits : Fin 20 → Fin 16) : String :=
  String.ofList (List.ofFn fun i => Nat.digitChar (digits i))

theorem isTokenHex_hexToken (digits : Fin 20 → Fin 16) : isTokenHex (hexToken digits) = true := by
  have hdigit : ∀ d : Fin 16, ((Nat.digitChar d).isDigit ||
      ('a' ≤ Nat.digitChar d && Nat.digitChar d ≤ 'f')) = true := by decide
  simp only [isTokenHex, hexToken, String.length_ofList, List.length_ofFn, String.toList_ofList,
    Bool.and_eq_true, decide_true, true_and, List.all_eq_true, List.mem_ofFn]
  rintro c ⟨i, rfl⟩
  exact hdigit (digits i)

theorem hexToken_injective : Function.Injective hexToken := by
  have hdigit : ∀ d d' : Fin 16, Nat.digitChar d = Nat.digitChar d' → d = d' := by decide
  intro digits digits' h
  have hlist := List.ofFn_injective (String.ofList_injective h)
  exact funext fun i => hdigit _ _ (congrFun hlist i)

section Room

variable {db : Db}

-- Fewer index entries than there are tokens: each draw can be a new one.
def Db.Roomy [Platform] (db : Db) : Prop := db.keys.length < 16 ^ 20

theorem Db.Roomy.exists_uuid [Platform] (h : db.Roomy) (key : Uuid → Key) (hkey : key.Injective) :
    ∃ id, key id ∉ db.keys := by
  have hinjective : Function.Injective fun i : Fin (2 ^ 128) => key (BitVec.ofFin i) := by
    intro i j hij
    exact congrArg BitVec.toFin (hkey hij)
  have hroom : db.keys.length < Fintype.card (Fin (2 ^ 128)) := by
    rw [Fintype.card_fin]
    exact h.trans (by norm_num)
  obtain ⟨i, hi⟩ := exists_not_mem hinjective hroom
  exact ⟨_, hi⟩

theorem Db.Roomy.exists_token [Platform] (h : db.Roomy) (key : String → Key) (hkey : key.Injective) :
    ∃ token, isTokenHex token = true ∧ key token ∉ db.keys := by
  have hroom : db.keys.length < Fintype.card (Fin 20 → Fin 16) := by
    rw [Fintype.card_fun, Fintype.card_fin, Fintype.card_fin]
    exact h
  obtain ⟨digits, hdigits⟩ := exists_not_mem (hkey.comp hexToken_injective) hroom
  exact ⟨_, isTokenHex_hexToken digits, hdigits⟩

end Room

-- The columns of a donor that no UPDATE touches.
def Donor.fitsNames (row : Donor) : Bool :=
  varchar 120 row.firstName && varchar 120 row.lastName && varchar 2 row.countryCode

@[simp] theorem Donor.fitsNames_setAll (row : Donor) (columns : List DonorSet) :
    (row.setAll columns).fitsNames = row.fitsNames := by
  simp [Donor.fitsNames]

theorem Donor.fitsNames_of_fits {row : Donor} (h : row.fits = true) : row.fitsNames = true := by
  simp only [Donor.fits, Bool.and_eq_true] at h
  simp [Donor.fitsNames, h]

theorem Donor.fits_consent {row : Donor} {source : String} (hnames : row.fitsNames = true)
    (hsource : source.length ≤ 120) (time : Time) :
    (row.setAll (row.changes (consentColumns source time))).fits = true := by
  have hnames' : (row.setAll (consentColumns source time)).fitsNames = true := by simpa using hnames
  have hset : (row.setAll (consentColumns source time)).consentSource = some source := rfl
  rw [Donor.setAll_consent, Donor.fits, hset, Bool.and_eq_true]
  exact ⟨hnames', by simpa [varchar] using hsource⟩

theorem Db.fitsNames_applyAll {db : Db} {stmts : List Stmt} (hrows : ∀ row ∈ db.donors, row.fitsNames = true)
    (hnew : ∀ row, .insertDonor row ∈ stmts → row.fits = true) :
    ∀ row ∈ (db.applyAll stmts).donors, row.fitsNames = true := by
  induction stmts generalizing db with
  | nil => exact hrows
  | cons stmt stmts ih =>
      refine ih (fun row hrow => ?_) fun row hrow => hnew row (List.mem_cons_of_mem _ hrow)
      cases stmt with
      | insertDonor donor =>
          rcases List.mem_append.mp hrow with hold | hlast
          · exact hrows row hold
          · rw [List.mem_singleton.mp hlast]
            exact Donor.fitsNames_of_fits (hnew donor List.mem_cons_self)
      | updateDonor id columns =>
          obtain ⟨old, hold, rfl⟩ := List.mem_map.mp hrow
          split
          · exact (old.fitsNames_setAll columns).trans (hrows old hold)
          · exact hrows old hold
      | _ => exact hrows row hrow

section Tables

variable [Platform] {db : Db} {pool : ServicePool}

-- Tables as a request meets them, with room for what it draws.
structure Db.Healthy (db : Db) : Prop where
  unique : db.keys.Nodup
  names : ∀ row ∈ db.donors, row.fitsNames = true
  room : db.Roomy

-- Every INSERT of a donor has been checked against the columns when it was sent.
theorem reached_names (hrun : service.Run (fun _ _ => True) ⟨{}, []⟩ pool) :
    ∀ row ∈ pool.shared.db.donors, row.fitsNames = true := by
  have h := hrun.invariant_of_obeys
    (I := fun pool => (∀ row ∈ pool.shared.db.donors, row.fitsNames = true) ∧
      ∀ t ∈ pool.threads, ∀ row, .insertDonor row ∈ t.loc.flushed → row.fits = true)
    handler_obeys ⟨by simp, by simp⟩ (by simp) fun pool move pool' h hproper _ hmove => ⟨?_, ?_⟩
  · exact h.1.1
  · rcases db_step hproper hmove with hquiet | ⟨i, t, transaction, -, hcommits⟩
    · rw [hquiet.db]
      exact h.1
    · rw [hcommits.db]
      exact Db.fitsNames_applyAll h.1 fun row hrow => h.2 t hcommits.mem row (by rwa [hcommits.flushed])
  · refine hmove.forall_threads hproper
      (P := fun _ _ (s : Session) => ∀ row, Stmt.insertDonor row ∈ s.flushed → row.fits = true)
      (fun _ _ => by simp [service]) (fun _ _ _ => by simp [service, Session.close]) ?_
      (fun _ _ _ _ _ _ _ _ _ h => h) h.2
    rintro i t op answer rfl - - henabled hfits
    exact Session.insertsFit_update henabled hfits

theorem reached_healthy (hrun : service.Run (fun _ _ => True) ⟨{}, []⟩ pool) (hroom : pool.shared.db.Roomy) :
    pool.shared.db.Healthy :=
  ⟨(consistent_run hrun).1.keys_nodup, reached_names hrun, hroom⟩

def Db.KnowsEmail (db : Db) (email : String) : Prop :=
  ∃ donor ∈ db.donors, Platform.citext donor.email = Platform.citext email

instance (db : Db) (email : String) : Decidable (db.KnowsEmail email) :=
  inferInstanceAs (Decidable (∃ donor ∈ db.donors, _))

theorem Db.knowsEmail_iff {email : String} :
    (Query.donorByEmail email).select db ≠ [] ↔ db.KnowsEmail email := by
  simp [Db.KnowsEmail, Query.select, Query.table, Query.accepts]

theorem select_event_of_fresh {id : String} (h : Key.providerEvent id ∉ db.keys) :
    (Query.eventByProviderEventId id).select db = [] := by
  refine List.filter_eq_nil_iff.mpr fun row hrow haccepts => h ?_
  have hid : row.providerEventId = id := by simpa [Query.accepts] using haccepts
  exact Db.mem_keys_of_webhookEvent hrow (by simp [WebhookEvent.keys, hid])

theorem select_donation_of_fresh {id : String} (h : Key.providerPayment id ∉ db.keys) :
    (Query.donationByProviderPaymentId id).select db = [] := by
  refine List.filter_eq_nil_iff.mpr fun row hrow haccepts => h ?_
  have hid : row.providerPaymentId = id := by simpa [Query.accepts] using haccepts
  exact Db.mem_keys_of_donation hrow (by simp [Donation.keys, hid])

end Tables

-- Ways to the statements that carry the values.

section Paths

variable [Platform] {db : Db} {point : Point} {donor : Donor} {payload : DonorPayload} {body : GiveBody}
  {settings : Settings}

theorem nothing_flushable (h : point.unflushed = []) : point.Flushable := by
  simp [Point.Flushable, h, Db.admitsAll]

theorem goes_select (query : Query) :
    Goes (scalar query) ⟨db, [], []⟩ (query.select db).head? ⟨db, [], []⟩ :=
  goes_scalar (nothing_flushable rfl) (.refl _)

theorem canWrite_donor (hnone : (Query.donorByEmail payload.email).select db = []) (id : Uuid) :
    CanWrite (getOrCreateDonor payload) ⟨db, [], []⟩ (.insertDonor (newDonor payload id)) := by
  have hlookup : Goes (scalar (.donorByEmail payload.email)) ⟨db, [], []⟩ none ⟨db, [], []⟩ := by
    simpa [hnone] using @goes_select _ db (.donorByEmail payload.email)
  exact hlookup.canWrite ((goes_uuid7 id).canWrite (canWrite_add _).bind)

-- The donor is found or stored, and is the one row of its id.
structure Found (db : Db) (donor : Donor) (point : Point) : Prop where
  db : point.db = db
  flushed : ∀ stmt ∈ point.flushed, stmt.onDonors = true
  unflushed : point.unflushed = []
  only : ∀ row ∈ (point.db.applyAll point.flushed).donors, row.id = donor.id → row = donor
  names : donor.fitsNames = true

theorem goes_getOrCreateDonor (hdb : db.Healthy)
    (hdonor : db.KnowsEmail payload.email ∨ (Platform.upper payload.countryCode).length ≤ 2) :
    ∃ donor point, Found db donor point ∧ Goes (getOrCreateDonor payload) ⟨db, [], []⟩ donor point := by
  have hlookup := @goes_select _ db (.donorByEmail payload.email)
  cases hselected : (Query.donorByEmail payload.email).select db with
  | cons donor rows =>
      rw [hselected] at hlookup
      have hmem : donor ∈ db.donors := (List.mem_filter.mp (hselected ▸ List.mem_cons_self)).1
      refine ⟨donor, _, ⟨rfl, by simp, rfl, fun row hrow hid => ?_, hdb.names donor hmem⟩,
        hlookup.bind (goes_ret _)⟩
      exact Db.row_unique (Db.nodup_donors hdb.unique) hrow hmem
        (show Key.donor donor.id ∈ row.keys by simp [Donor.keys, hid]) (by simp [Donor.keys])
  | nil =>
      rw [hselected] at hlookup
      have hunknown : ¬ db.KnowsEmail payload.email := fun h => Db.knowsEmail_iff.mpr h hselected
      have hfits := hdonor.resolve_left hunknown
      obtain ⟨id, hid⟩ := hdb.room.exists_uuid Key.donor fun _ _ h => Key.donor.inj h
      have hemail : Key.donorEmail (Platform.citext payload.email) ∉ db.keys :=
        fun h => hunknown (Db.donor_of_key h)
      have hrow : (newDonor payload id).fits = true := newDonor_fits hfits id
      have hflushable : Point.Flushable ⟨db, [], [.insertDonor (newDonor payload id)]⟩ := by
        refine ⟨by simp [Stmt.keys, Donor.keys], ?_, by simp [Db.admitsAll, Db.admits, hrow]⟩
        simpa [Stmt.keys, Donor.keys, newDonor] using ⟨hid, hemail⟩
      refine ⟨newDonor payload id, ⟨db, [.insertDonor (newDonor payload id)], []⟩,
        ⟨rfl, by simp [Stmt.onDonors, Stmt.target], rfl, fun row hrow hsame => ?_,
          Donor.fitsNames_of_fits hrow⟩,
        hlookup.bind ((goes_uuid7 id).bind ((goes_add _).bind ((goes_flush hflushable).bind (goes_ret _))))⟩
      rcases List.mem_append.mp hrow with hold | hnew
      · exact absurd (Db.mem_keys_of_donor hold (by simp [Donor.keys, hsame, newDonor])) hid
      · exact List.mem_singleton.mp hnew

-- The point at which the rail is asked: all that the request has written is about its donor.
structure Opening (db : Db) (point : Point) : Prop where
  db : point.db = db
  donors : ∀ stmt ∈ point.flushed ++ point.unflushed, stmt.onDonors = true
  flushable : point.Flushable

theorem Found.opening (h : Found db donor point) : Opening db point :=
  ⟨h.db, by simpa [h.unflushed] using h.flushed, nothing_flushable h.unflushed⟩

theorem Found.consents (h : Found db donor point) {source : String} (hsource : source.length ≤ 120)
    (time : Time) : Opening db { point with unflushed := point.unflushed ++
      [.updateDonor donor.id (donor.changes (consentColumns source time))] } := by
  refine ⟨h.db, ?_, ?_⟩
  · simpa [h.unflushed, or_imp, forall_and, Stmt.onDonors, Stmt.target] using h.flushed
  · simp only [Point.Flushable, h.unflushed, List.nil_append, List.flatMap_singleton, Stmt.keys, List.nodup_nil,
      List.not_mem_nil, IsEmpty.forall_iff, implies_true, true_and, Db.admitsAll, Bool.and_true, Db.admits,
      List.all_eq_true]
    intro row hrow
    obtain ⟨hrow, hid⟩ := List.mem_filter.mp hrow
    rw [h.only row hrow (of_decide_eq_true hid)]
    exact Donor.fits_consent h.names hsource time

theorem goes_giver {consent : Bool} {source : String} (hdb : db.Healthy)
    (hdonor : db.KnowsEmail payload.email ∨ (Platform.upper payload.countryCode).length ≤ 2)
    (hsource : source.length ≤ 120) :
    ∃ donor point, Opening db point ∧ Goes (giver payload consent source) ⟨db, [], []⟩ donor point := by
  obtain ⟨donor, point, hfound, hgoes⟩ := goes_getOrCreateDonor hdb hdonor
  cases consent with
  | true =>
      exact ⟨_, _, hfound.consents hsource 0,
        hgoes.bind ((goes_now 0).bind ((goes_add _).bind (goes_ret _)))⟩
  | false => exact ⟨donor, point, hfound.opening, hgoes.bind (goes_ret _)⟩

-- What concerns the donors leaves the other tables alone.
theorem Opening.select (h : Opening db point) (query : Query) (later : List Stmt)
    (hsource : query.source ≠ .donors) (hlater : ∀ stmt ∈ later, stmt.target ≠ query.source) :
    query.select (point.db.applyAll (point.flushed ++ point.unflushed ++ later)) = query.select db := by
  have htable : query.table (point.db.applyAll (point.flushed ++ point.unflushed ++ later)) =
      query.table db := by
    rw [← h.db]
    refine Db.table_applyAll fun stmt hstmt => ?_
    rcases List.mem_append.mp hstmt with hown | hnext
    · rw [of_decide_eq_true (h.donors stmt hown)]
      exact hsource.symm
    · exact hlater stmt hnext
  rw [Query.select, htable, Query.select]

theorem Opening.stores (h : Opening db point) {row : WebhookEvent} (hrow : row.fits = true)
    (hid : .webhookEvent row.id ∉ db.keys) (hevent : .providerEvent row.providerEventId ∉ db.keys) :
    Point.Flushable { point.flush with unflushed := [.insertWebhookEvent row] } := by
  refine ⟨by simp [Stmt.keys, WebhookEvent.keys], fun key hkey hmem => ?_,
    by simp [Db.admitsAll, Db.admits, hrow]⟩
  have hkey : key ∈ row.keys := by simpa [Stmt.keys] using hkey
  rcases List.mem_append.mp hmem with hold | hnew
  · rw [show point.flush.db = db from h.db] at hold
    rcases List.mem_cons.mp hkey with rfl | hkey
    · exact hid hold
    · exact hevent (List.mem_singleton.mp hkey ▸ hold)
  · obtain ⟨stmt, hstmt, hown⟩ := List.mem_flatMap.mp hnew
    have hdonors := h.donors stmt hstmt
    cases stmt with
    | insertDonor donor =>
        simp only [Stmt.keys, Donor.keys, List.mem_cons, List.not_mem_nil, or_false] at hown
        simp only [WebhookEvent.keys, List.mem_cons, List.not_mem_nil, or_false] at hkey
        rcases hkey with rfl | rfl <;> simp at hown
    | updateDonor id columns => cases hown
    | _ => cases hdonors

-- Nor does the event of a payment bring a donation.
theorem Opening.no_donation (h : Opening db point) {id : String} (row : WebhookEvent)
    (hpayment : Key.providerPayment id ∉ db.keys) : (Query.donationByProviderPaymentId id).select
      (point.db.applyAll (point.flush.flushed ++ [.insertWebhookEvent row] ++ [])) = [] := by
  have hselect := h.select (.donationByProviderPaymentId id) [.insertWebhookEvent row]
    (by simp [Query.source]) (by simp [Query.source, Stmt.target])
  rw [List.append_nil]
  exact hselect.trans (select_donation_of_fresh hpayment)

theorem goes_recordWebhookEvent {args : EventArgs} {id eventType : String} {rowId : Uuid}
    (hid : args.providerEventId = .str id) (htype : args.eventType = .str eventType) (h : Opening db point)
    (hnone : (Query.eventByProviderEventId id).select db = [])
    (hinsert : Point.Flushable { point.flush with unflushed :=
      [.insertWebhookEvent (args.row id eventType rowId 0)] }) :
    Goes (Ledger.recordWebhookEvent args) point (args.row id eventType rowId 0, true)
      { point.flush with flushed := point.flush.flushed ++
        [.insertWebhookEvent (args.row id eventType rowId 0)] } := by
  have hid' : args.providerEventId.text = .ok id := by rw [hid]; rfl
  have htype' : args.eventType.text = .ok eventType := by rw [htype]; rfl
  have hselect := h.select (.eventByProviderEventId id) [] (by simp [Query.source]) (by simp)
  rw [List.append_nil] at hselect
  have hlookup : Goes (scalar (.eventByProviderEventId id)) point none point.flush := by
    have hrows := goes_scalar h.flushable (List.Perm.of_eq (hselect.trans hnone).symm)
    exact hrows
  exact (goes_ofExcept hid').bind
    (hlookup.bind ((goes_now 0).bind ((goes_uuid7 rowId).bind ((goes_ofExcept htype').bind
    ((goes_add _).bind ((goes_flush hinsert).bind (goes_ret _)))))))

theorem canWrite_donation {args : DonationArgs} (hpoint : point.Flushable)
    (hnone : (Query.donationByProviderPaymentId args.providerPaymentId).select
      (point.db.applyAll (point.flushed ++ point.unflushed)) = []) :
    CanWrite (Ledger.recordDonation args) point (.insertDonation (args.row 0 0)) := by
  have hlookup :
      Goes (scalar (.donationByProviderPaymentId args.providerPaymentId)) point none point.flush := by
    have hrows := goes_scalar hpoint (List.Perm.of_eq hnone.symm)
    exact hrows
  exact hlookup.canWrite ((goes_now 0).canWrite ((goes_uuid7 0).canWrite (canWrite_add _).bind))

-- The event and the donation of a one-off gift, with ids and tokens that nobody has.
theorem canWrite_settleOneOff (hdb : db.Healthy) (h : Opening db point) {result : OneOffResult} {token : String}
    (hresult : result.providerPaymentId = .str ("test_pay_" ++ token))
    (hpayment : Key.providerPayment ("test_pay_" ++ token) ∉ db.keys) :
    ∃ row : Donation, row.amountMinor = body.amountMinor ∧
      CanWrite (settleOneOff settings body donor result) point (.insertDonation row) := by
  obtain ⟨rowId, hrowId⟩ := hdb.room.exists_uuid Key.webhookEvent fun _ _ h => Key.webhookEvent.inj h
  obtain ⟨eventToken, htoken, hevent⟩ := hdb.room.exists_token
    (fun token => Key.providerEvent ("test_evt_" ++ token))
    fun _ _ h => (String.append_right_inj _).mp (Key.providerEvent.inj h)
  refine ⟨(oneOffArgs body donor.id ("test_pay_" ++ token) (TestProvider.syntheticPayload eventToken
    "payment.succeeded" ("test_pay_" ++ token) 0)).row 0 0, rfl, ?_⟩
  have hpayload : Goes (TestProvider.syntheticEvent "payment.succeeded" ("test_pay_" ++ token)) point
      (TestProvider.syntheticPayload eventToken "payment.succeeded" ("test_pay_" ++ token) 0) point :=
    (goes_tokenHex htoken).bind ((goes_now 0).bind (goes_ret _))
  unfold settleOneOff
  rw [hresult]
  refine (goes_ofExcept rfl).canWrite (hpayload.canWrite ?_)
  refine (goes_ofExcept rfl).canWrite ((goes_ofExcept rfl).canWrite ?_)
  have hlength : eventToken.length = 20 := by
    simp only [isTokenHex, Bool.and_eq_true, decide_eq_true_eq] at htoken
    exact htoken.1
  refine (goes_recordWebhookEvent rfl rfl h (select_event_of_fresh hevent)
    (h.stores ?_ hrowId hevent)).canWrite ?_
  · simp [WebhookEvent.fits, EventArgs.row, varchar, int32, hlength]
    exact ⟨⟨decide_eq_true (by decide), by decide⟩, decide_eq_true (by decide)⟩
  · exact (canWrite_donation (nothing_flushable rfl) (h.no_donation _ hpayment)).bind

theorem canWrite_oneOff (hprovider : getProvider body.provider settings = .ok .test) (hdb : db.Healthy)
    (hdonor : db.KnowsEmail body.donor.email ∨ (Platform.upper body.donor.countryCode).length ≤ 2) :
    ∃ row : Donation, row.amountMinor = body.amountMinor ∧
      CanWrite (createOneOff settings body) ⟨db, [], []⟩ (.insertDonation row) := by
  obtain ⟨token, htoken, hpayment⟩ := hdb.room.exists_token
    (fun token => Key.providerPayment ("test_pay_" ++ token))
    fun _ _ h => (String.append_right_inj _).mp (Key.providerPayment.inj h)
  obtain ⟨donor, point, hopening, hgiver⟩ := @goes_giver _ _ _ body.consent _ hdb hdonor
    (show "give_form_oneoff".length ≤ 120 by decide)
  have hcreate : Goes (Provider.test.createOneOff (gift body)) point
      { providerPaymentId := .str ("test_pay_" ++ token), status := "succeeded" } point :=
    (goes_tokenHex htoken).bind (goes_ret _)
  obtain ⟨row, hrow, hwrite⟩ := @canWrite_settleOneOff _ _ _ donor body settings hdb hopening
    { providerPaymentId := .str ("test_pay_" ++ token), status := "succeeded" } token rfl hpayment
  refine ⟨row, hrow, ?_⟩
  rw [createOneOff_eq, selectProvider_eq hprovider]
  exact (goes_ret _).canWrite (hgiver.canWrite (hcreate.canWrite hwrite.bind))

theorem canWrite_subscription (hprovider : body.provider = "test") (hdb : db.Healthy)
    (hdonor : db.KnowsEmail body.donor.email ∨ (Platform.upper body.donor.countryCode).length ≤ 2) :
    ∃ row : Subscription, row.amountMinor = body.amountMinor ∧
      CanWrite (createSubscription settings body) ⟨db, [], []⟩ (.insertSubscription row) := by
  have hrail : SubscriptionProvider.ofString body.provider = .ok .test := by rw [hprovider]; rfl
  have htoken : isTokenHex (pad 20 0) = true := by decide
  obtain ⟨donor, point, -, hgiver⟩ := @goes_giver _ _ _ body.consent _ hdb hdonor
    (show "give_form_monthly".length ≤ 120 by decide)
  have hcreate : Goes (Provider.test.createSubscription (gift body)) point
      { providerSubscriptionId := "test_sub_" ++ pad 20 0, status := "active" } point :=
    (goes_tokenHex htoken).bind ((goes_record _).bind (goes_ret _))
  refine ⟨newSubscription body donor.id .test ("test_sub_" ++ pad 20 0) 0, rfl, ?_⟩
  rw [createSubscription_eq, selectProvider_eq (by rw [hprovider, getProvider_test])]
  refine (goes_ret _).canWrite (hgiver.canWrite (hcreate.canWrite ?_))
  exact (goes_ofExcept hrail).canWrite ((goes_uuid7 0).canWrite (canWrite_add _).bind)

-- The one statement of a change of the amount.

def ChangesAmount (settings : Settings) (token : String) (patch : ManageSubscriptionPatch)
    (s : Session) (stmt : Stmt) : Prop :=
  ∃ sub time, verifyManageToken settings.secretKey token time = .ok (some sub.donorId) ∧
    s.Read (.openSubscriptions sub.donorId) sub ∧
    stmt = .updateSubscription sub.id (sub.changes [.amountMinor patch.amountMinor])

theorem changeAmount_pushes (settings : Settings) (token : String) (patch : ManageSubscriptionPatch) :
    (Subscriptions.changeAmount settings token patch).Obeys client
      (fun s op => ∀ stmt, op = .push stmt → ChangesAmount settings token patch s stmt)
      (fun _ _ => True) {} := by
  have hfree : Free fun s op => ∀ stmt, op = .push stmt → ChangesAmount settings token patch s stmt :=
    ⟨by simp, by simp, by simp, by simp⟩
  refine obeys_seq (Subscriptions.obeys_donorSubscriptions hfree (by simp)
    (fun s rows donorId time hs _ htoken hlook hrows => ?_) fun _ _ _ _ => trivial)
  cases rows with
  | nil => trivial
  | cons sub rows =>
      obtain ⟨rfl, -⟩ := hrows sub List.mem_cons_self
      refine obeys_seq (obeys_seq (obeys_add ?_ fun s₁ _ => ?_))
      · rintro stmt ⟨⟩
        exact ⟨sub, time, htoken, ⟨_, hlook, List.mem_cons_self⟩, rfl⟩
      · exact obeys_seq (obeys_commit hfree (by simp) (fun _ _ _ _ _ _ => trivial) fun _ _ _ _ => trivial)

theorem canWrite_amount {settings : Settings} {token : String} {patch : ManageSubscriptionPatch}
    {db : Db} {time : Time}
    {donorId : Uuid} (htoken : verifyManageToken settings.secretKey token time = .ok (some donorId))
    {row : Subscription}
    (hrow : row ∈ (Query.openSubscriptions donorId).select db) (hne : row.amountMinor ≠ patch.amountMinor) :
    CanWrite (Subscriptions.changeAmount settings token patch) ⟨db, [], []⟩
      (.updateSubscription row.id [.amountMinor patch.amountMinor]) := by
  have hlook : Goes (Subscriptions.donorSubscriptions settings.secretKey token) ⟨db, [], []⟩
      (row :: ((Query.openSubscriptions donorId).select db).erase row) ⟨db, [], []⟩ := by
    refine (goes_now time).bind ((goes_ofExcept htoken).bind ?_)
    exact goes_scalars (nothing_flushable rfl) (List.perm_cons_erase hrow).symm
  have hchanges : row.changes [.amountMinor patch.amountMinor] = [.amountMinor patch.amountMinor] := by
    have hset : row.set (.amountMinor patch.amountMinor) ≠ row := by
      intro hsame
      exact hne (congrArg Subscription.amountMinor hsame).symm
    simp [Subscription.changes, hset]
  rw [← hchanges]
  exact hlook.canWrite (canWrite_add _).bind.bind

end Paths

section Served

variable [Platform] {world : World} {request : Request} {body : GiveBody}

theorem Request.handler_patch {token : String} {patch : ManageSubscriptionPatch}
    (h : request.endpoint = .managePatch token patch) :
    request.handler = Subscriptions.changeAmount request.settings.settings token patch := by
  unfold Request.handler
  rw [h]

-- Whatever a request writes when it is served, the columns can hold.
def Storable (world : World) (request : Request) : Prop :=
  ∀ state result, service.Serves world request state result → Fitting state

-- Each statement that a request writes is one that it may push at that time.
theorem pushes_served {before : World × Session → Op → Prop}
    {after : World × Session → Except Exn Response → Prop}
    {state : World × Session} {result : Except Exn Response}
    (hobeys : (service.start request).Obeys service.alone before after (world, service.fresh))
    (hserves : service.Serves world request state result) :
    ∀ stmt, ⟨.push stmt, ()⟩ ∈ state.2.past → ∃ mid, mid.2.past <:+ state.2.past ∧ before mid (.push stmt) := by
  refine Prog.Exec.invariant (fun state => ∀ stmt, ⟨.push stmt, ()⟩ ∈ state.2.past →
      ∃ mid, mid.2.past <:+ state.2.past ∧ before mid (.push stmt))
    (fun state op answer hstate hbefore _ stmt hmem => ?_) hobeys hserves (by simp [service])
  have hpast : state.2.past <:+ (service.alone.update state op answer).2.past := List.suffix_cons _ _
  rcases List.mem_cons.mp hmem with hnew | hold
  · cases hnew
    exact ⟨state, hpast, hbefore⟩
  · obtain ⟨mid, hmid, hpush⟩ := hstate stmt hold
    exact ⟨mid, hmid.trans hpast, hpush⟩

theorem Storable.fits (h : Storable world request) {stmt : Stmt}
    (hwrite : CanWrite request.handler ⟨world.db, [], []⟩ stmt) :
    stmt.fits = true := by
  obtain ⟨state, result, hexec, hmem⟩ := hwrite (world, {}) ⟨rfl, rfl, rfl, rfl⟩
  exact h state result hexec stmt hmem

-- A new donor whose code grows in upper case is what a give request writes first.
theorem short_of_storable {rest : Provider → Donor → Act Response} {provider : Provider} {source : String}
    (hhandler : request.handler = selectProvider body.provider request.settings.settings >>= fun provider =>
      giver body.donor body.consent source >>= rest provider)
    (hprovider : getProvider body.provider request.settings.settings = .ok provider)
    (hstorable : Storable world request) :
    world.db.KnowsEmail body.donor.email ∨ (Platform.upper body.donor.countryCode).length ≤ 2 := by
  by_cases hknown : world.db.KnowsEmail body.donor.email
  · exact .inl hknown
  · have hnone : (Query.donorByEmail body.donor.email).select world.db = [] := by
      by_contra hsome
      exact hknown (Db.knowsEmail_iff.mp hsome)
    have hwrite : CanWrite request.handler ⟨world.db, [], []⟩ (.insertDonor (newDonor body.donor 0)) := by
      rw [hhandler, selectProvider_eq hprovider]
      exact (goes_ret _).canWrite (canWrite_donor hnone 0).bind.bind
    have hfits : (newDonor body.donor 0).fits = true := hstorable.fits hwrite
    simp only [Donor.fits, newDonor, varchar, Bool.and_eq_true] at hfits
    exact .inr (of_decide_eq_true hfits.1.2)

theorem oneOff_storable_iff (hrequest : request.endpoint = .oneOff body) (hdb : world.db.Healthy) :
    Storable world request ↔ ∀ provider, getProvider body.provider request.settings.settings = .ok provider →
      (world.db.KnowsEmail body.donor.email ∨ (Platform.upper body.donor.countryCode).length ≤ 2) ∧
        (provider = .test → body.amountMinor < 2 ^ 31) := by
  have hhandler := (Request.handler_oneOff hrequest).trans createOneOff_eq
  constructor
  · intro hstorable provider hprovider
    have hdonor := short_of_storable hhandler hprovider hstorable
    refine ⟨hdonor, ?_⟩
    rintro rfl
    obtain ⟨row, hrow, hwrite⟩ := canWrite_oneOff hprovider hdb hdonor
    rw [← Request.handler_oneOff hrequest] at hwrite
    have hfits : row.fits = true := hstorable.fits hwrite
    simp only [Donation.fits, int32, Bool.and_eq_true, decide_eq_true_eq] at hfits
    rw [← hrow]
    exact hfits.1.2.2
  · intro hcondition state result hserves
    have hexec : request.handler.Exec service.alone (world, {}) state result := hserves
    rw [hhandler] at hexec
    rcases selectProvider_cases body.provider request.settings.settings with
      ⟨provider, hprovider, hselect⟩ | ⟨error, hselect⟩
    · obtain ⟨hdonor, hamount⟩ := hcondition provider hprovider
      exact fitting_give hselect (hdonor.imp_left Db.knowsEmail_iff.mpr) (by decide)
        (fun donor => fits_oneOff hamount) hexec
    · rw [hselect] at hexec
      obtain ⟨rfl, -⟩ := Prog.exec_raise.mp hexec
      exact fun stmt hmem => by cases hmem

theorem subscription_storable_iff (hrequest : request.endpoint = .subscription body)
    (hprovider : body.provider = "test") (hdb : world.db.Healthy) :
    Storable world request ↔ (world.db.KnowsEmail body.donor.email ∨
      (Platform.upper body.donor.countryCode).length ≤ 2) ∧ body.amountMinor < 2 ^ 31 := by
  have hhandler := (Request.handler_subscription hrequest).trans createSubscription_eq
  have hbuilt : getProvider body.provider request.settings.settings = .ok .test := by
    rw [hprovider, getProvider_test]
  constructor
  · intro hstorable
    have hdonor := short_of_storable hhandler hbuilt hstorable
    refine ⟨hdonor, ?_⟩
    obtain ⟨row, hrow, hwrite⟩ := canWrite_subscription hprovider hdb hdonor
    rw [← Request.handler_subscription hrequest] at hwrite
    have hfits : row.fits = true := hstorable.fits hwrite
    simp only [Subscription.fits, int32, Bool.and_eq_true, decide_eq_true_eq] at hfits
    rw [← hrow]
    exact hfits.1.1.2.2
  · rintro ⟨hdonor, hamount⟩ state result hserves
    have hexec : request.handler.Exec service.alone (world, {}) state result := hserves
    rw [hhandler] at hexec
    exact fitting_give (selectProvider_eq hbuilt) (hdonor.imp_left Db.knowsEmail_iff.mpr) (by decide)
      (fun donor => fits_subscription hamount) hexec

theorem patch_storable_iff {token : String} {patch : ManageSubscriptionPatch}
    (hrequest : request.endpoint = .managePatch token patch) :
    Storable world request ↔ patch.amountMinor < 2 ^ 31 ∨
      ∀ time donorId, verifyManageToken request.settings.settings.secretKey token time = .ok (some donorId) →
        ∀ row ∈ (Query.openSubscriptions donorId).select world.db, row.amountMinor = patch.amountMinor := by
  have hhandler := Request.handler_patch hrequest
  constructor
  · intro hstorable
    by_contra hbad
    push Not at hbad
    obtain ⟨hamount, time, donorId, htoken, row, hrow, hne⟩ := hbad
    have hwrite := canWrite_amount htoken hrow hne
    rw [← hhandler] at hwrite
    have hfits := hstorable.fits hwrite
    simp [Stmt.fits, SubscriptionSet.fits, int32] at hfits
    omega
  · intro hcondition state result hserves stmt hmem
    have hobeys := changeAmount_pushes request.settings.settings token patch
    rw [← hhandler] at hobeys
    obtain ⟨mid, hpast, hpush⟩ := pushes_served (System.obeys_alone hobeys) hserves stmt hmem
    obtain ⟨sub, time, htoken, hread, rfl⟩ := hpush stmt rfl
    obtain ⟨rows, hlook, hsub⟩ := hread.mono hpast
    have hselected := (serves_looks hserves hlook).subset hsub
    rcases hcondition with hamount | hsame
    · have hint := int32_of_lt patch.amountMinor_pos hamount
      exact all_filter (by simpa [SubscriptionSet.fits] using hint)
    · have hset : sub.set (.amountMinor patch.amountMinor) = sub := by
        have hamount := hsame time sub.donorId htoken sub hselected
        rw [← hamount]
        rfl
      simp [Stmt.fits, Subscription.changes, hset]

theorem stored_values_fit : (∀ (request : Request) (body : GiveBody) (pool : ServicePool),
      request.endpoint = .oneOff body → service.Run (fun _ _ => True) ⟨{}, []⟩ pool → pool.shared.db.Roomy →
      (Storable pool.shared request ↔
        ∀ provider, getProvider body.provider request.settings.settings = .ok provider →
          (pool.shared.db.KnowsEmail body.donor.email ∨ (Platform.upper body.donor.countryCode).length ≤ 2) ∧
            (provider = .test → body.amountMinor < 2 ^ 31))) ∧
    (∀ (request : Request) (body : GiveBody) (pool : ServicePool), request.endpoint = .subscription body →
      body.provider = "test" → service.Run (fun _ _ => True) ⟨{}, []⟩ pool → pool.shared.db.Roomy →
      (Storable pool.shared request ↔
        (pool.shared.db.KnowsEmail body.donor.email ∨ (Platform.upper body.donor.countryCode).length ≤ 2) ∧
          body.amountMinor < 2 ^ 31)) ∧
    ∀ (request : Request) (token : String) (patch : ManageSubscriptionPatch) (pool : ServicePool),
      request.endpoint = .managePatch token patch → service.Run (fun _ _ => True) ⟨{}, []⟩ pool →
      (Storable pool.shared request ↔ patch.amountMinor < 2 ^ 31 ∨
        ∀ time donorId, verifyManageToken request.settings.settings.secretKey token time = .ok (some donorId) →
          ∀ row ∈ (Query.openSubscriptions donorId).select pool.shared.db,
            row.amountMinor = patch.amountMinor) :=
  ⟨fun _ _ _ hrequest hrun hroom => oneOff_storable_iff hrequest (reached_healthy hrun hroom),
    fun _ _ _ hrequest hprovider hrun hroom =>
      subscription_storable_iff hrequest hprovider (reached_healthy hrun hroom),
    fun _ _ _ _ hrequest _ => patch_storable_iff hrequest⟩

end Served

open Trial

-- A code of two characters that has three in upper case.
def growingCode (email : String) : GiveBody :=
  { giveBody "test" email with
    donor := { donor email with countryCode := "ßa", countryCode_length := by decide } }

-- The code is not written where the donor is stored already.
theorem stored_values_fit_known : ∃ pool, service.Run (fun _ _ => True) ⟨{}, []⟩ pool ∧
    pool.shared.db.KnowsEmail "amina@example.org" ∧ (Platform.upper "ßa").length = 3 ∧
    Storable pool.shared ⟨settings, .oneOff (growingCode "amina@example.org")⟩ ∧
    Storable pool.shared ⟨settings, .subscription (growingCode "amina@example.org")⟩ ∧
    Storable pool.shared managePatch := by
  obtain ⟨pool, hrun, hknown, hroom⟩ := exists_run (fun _ _ => True)
    (fun pool => pool.shared.db.KnowsEmail "amina@example.org" ∧ pool.shared.db.keys.length < 16 ^ 20)
    ([.arrive ⟨settings, .newsletterSubscribe ⟨"amina@example.org"⟩⟩] ++ turns 0 7 (reply 0))
    (by decide +kernel)
  obtain ⟨honeOff, hsubscription, hpatch⟩ := stored_values_fit
  refine ⟨pool, hrun, hknown, by decide, ?_, ?_, ?_⟩
  · exact (honeOff _ _ pool rfl hrun hroom).mpr fun _ _ => ⟨.inl hknown, fun _ => by decide⟩
  · exact (hsubscription _ _ pool rfl rfl hrun hroom).mpr ⟨.inl hknown, by decide⟩
  · exact (hpatch _ _ _ pool rfl hrun).mpr (.inl (by decide))

-- 2 ^ 31 cents, which the schema admits and an integer column does not.
def largeBody : GiveBody :=
  { giveBody "test" "amina@example.org" with amountMinor := 2147483648, amountMinor_pos := by decide }

theorem large_amount_refused : ¬ Storable {} ⟨settings, .oneOff largeBody⟩ ∧
    ¬ Storable {} ⟨settings, .subscription largeBody⟩ ∧
    ¬ Storable {} ⟨settings, .oneOff (growingCode "amina@example.org")⟩ := by
  have hempty : Db.Healthy {} := reached_healthy .refl (show (Db.keys {}).length < 16 ^ 20 by decide)
  have hlarge : ¬ largeBody.amountMinor < 2 ^ 31 := by decide
  have hunknown : ¬ (Db.KnowsEmail {} "amina@example.org" ∨ (Platform.upper "ßa").length ≤ 2) := by decide
  refine ⟨fun h => ?_, fun h => ?_, fun h => ?_⟩
  · exact hlarge (((oneOff_storable_iff rfl hempty).mp h .test rfl).2 rfl)
  · exact hlarge ((subscription_storable_iff rfl rfl hempty).mp h).2
  · exact hunknown ((oneOff_storable_iff rfl hempty).mp h .test rfl).1

end BridgeOfHope
