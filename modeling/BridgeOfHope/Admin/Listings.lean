import BridgeOfHope.Admin.Models
import BridgeOfHope.Csv
import BridgeOfHope.Select
import BridgeOfHope.Tokens
import BridgeOfHope.Service

namespace BridgeOfHope

namespace DonationStatus

def value : DonationStatus → String
  | pending => "pending"
  | succeeded => "succeeded"
  | failed => "failed"
  | refunded => "refunded"

-- `DonationStatus(name)`
def ofString [Platform] (name : String) : Except Exn DonationStatus :=
  match [pending, succeeded, failed, refunded].find? fun status => status.value = name with
  | some status => .ok status
  | none => .error ⟨.valueError, Platform.reprStr name ++ " is not a valid DonationStatus"⟩

theorem value_injective : Function.Injective value := by
  intro status status' h
  cases status <;> cases status' <;> first | rfl | exact absurd h (by decide)

theorem ofString_value [Platform] (status : DonationStatus) : ofString status.value = .ok status := by
  cases status <;> rfl

theorem ofString_ok [Platform] {name : String} {status : DonationStatus} (h : ofString name = .ok status) :
    status.value = name := by
  unfold ofString at h
  split at h
  case h_1 found hfound =>
    cases h
    simpa using List.find?_some hfound
  case h_2 => cases h

end DonationStatus

-- `SubscriptionStatus(name)`
def SubscriptionStatus.ofString [Platform] (name : String) : Except Exn SubscriptionStatus :=
  match [pending, active, pastDue, cancelled, failed].find? fun status => status.value = name with
  | some status => .ok status
  | none => .error ⟨.valueError, Platform.reprStr name ++ " is not a valid SubscriptionStatus"⟩

-- `str(value)` of an aware UTC datetime: a blank in the place of the T.
def Time.str (time : Time) : String :=
  String.ofList (time.isoformat.toList.map fun c => if c = 'T' then ' ' else c)

namespace Admin

-- What the dashboard lists, once `require_admin` has let the request in.

-- A row with the moment at which the database stored it.
structure Stamped (α : Type) where
  row : α
  createdAt : Time
deriving DecidableEq

structure DonorOut where
  id : String
  email : String
  firstName : String
  lastName : String
  countryCode : String
  marketingConsent : Bool
  createdAt : Time
deriving DecidableEq

structure DonationOut where
  id : String
  donorId : String
  provider : String
  amountMinor : Int
  currency : String
  status : String
  isRecurring : Bool
  createdAt : Time
deriving DecidableEq

structure SubscriptionOut where
  id : String
  donorId : String
  provider : String
  amountMinor : Int
  currency : String
  status : String
  nextChargeAt : Option Time
deriving DecidableEq

structure FailedPaymentOut where
  id : String
  donorId : String
  provider : String
  amountMinor : Int
  currency : String
  createdAt : Time
deriving DecidableEq

structure AdminPostOut where
  id : String
  slug : String
  title : String
  publishedAt : Option Time
deriving DecidableEq

inductive DonationsPage : Type
  | json (rows : List DonationOut)
  | csv (content : String)
deriving DecidableEq

-- The database: rows for a query, or an error.
abbrev Scalars (α : Type) : Type := Select α Time → Except Exn (List α)

variable {α : Type}

def Scalars.Reads (scalars : Scalars α) (table : List α) : Prop :=
  ∀ query rows, scalars query = .ok rows → query.Answers table rows

def donorOut (d : Stamped Donor) : DonorOut where
  id := d.row.id.toText
  email := d.row.email
  firstName := d.row.firstName
  lastName := d.row.lastName
  countryCode := d.row.countryCode
  marketingConsent := d.row.marketingConsent
  createdAt := d.createdAt

def listDonors (scalars : Scalars (Stamped Donor)) : Except Exn (List DonorOut) := do
  let donors ← scalars { key := Stamped.createdAt, limit := some 200 }
  return donors.map donorOut

def donationOut (r : Stamped Donation) : DonationOut where
  id := r.row.id.toText
  donorId := r.row.donorId.toText
  provider := r.row.provider.value
  amountMinor := r.row.amountMinor
  currency := r.row.currency
  status := r.row.status.value
  isRecurring := r.row.isRecurring
  createdAt := r.createdAt

def donationsQuery : Select (Stamped Donation) Time where
  key := Stamped.createdAt
  limit := some 1000

-- An empty status is none.
def donationsWith [Platform] (status : Option String) : Except Exn (Select (Stamped Donation) Time) :=
  match status.filter Settings.given with
  | none => .ok donationsQuery
  | some name => do
      let status ← DonationStatus.ofString name
      return { donationsQuery with keep := fun r => r.row.status = status }

def donationsHeader : List String :=
  ["id", "donor_id", "provider", "amount_minor", "currency", "status", "is_recurring", "created_at"]

-- The fields of a row as `csv` prints them.
def DonationOut.cells (r : DonationOut) : List String :=
  [r.id, r.donorId, r.provider, toString r.amountMinor, r.currency, r.status,
    if r.isRecurring then "True" else "False", r.createdAt.str]

-- `csv.writer(buf)`
def writerows (rows : List (List String)) : String :=
  String.ofList (Csv.write (rows.map (List.map String.toList)))

def donationsPage (format : Option String) (rows : List (Stamped Donation)) : DonationsPage :=
  if format = some "csv" then .csv (writerows (donationsHeader :: rows.map fun r => (donationOut r).cells))
  else .json (rows.map donationOut)

def listDonations [Platform] (scalars : Scalars (Stamped Donation)) (status format : Option String) :
    Except Exn DonationsPage := do
  let query ← donationsWith status
  let rows ← scalars query
  return donationsPage format rows

def subscriptionOut (s : Stamped Subscription) : SubscriptionOut where
  id := s.row.id.toText
  donorId := s.row.donorId.toText
  provider := s.row.provider.value
  amountMinor := s.row.amountMinor
  currency := s.row.currency
  status := s.row.status.value
  nextChargeAt := s.row.nextChargeAt

def subscriptionsQuery : Select (Stamped Subscription) Time where
  key := Stamped.createdAt
  limit := some 500

def subscriptionsWith [Platform] (status : Option String) : Except Exn (Select (Stamped Subscription) Time) :=
  match status.filter Settings.given with
  | none => .ok subscriptionsQuery
  | some name => do
      let status ← SubscriptionStatus.ofString name
      return { subscriptionsQuery with keep := fun s => s.row.status = status }

def listSubscriptions [Platform] (scalars : Scalars (Stamped Subscription)) (status : Option String) :
    Except Exn (List SubscriptionOut) := do
  let query ← subscriptionsWith status
  let rows ← scalars query
  return rows.map subscriptionOut

def failedPaymentOut (r : Stamped Donation) : FailedPaymentOut where
  id := r.row.id.toText
  donorId := r.row.donorId.toText
  provider := r.row.provider.value
  amountMinor := r.row.amountMinor
  currency := r.row.currency
  createdAt := r.createdAt

def failedPayments (scalars : Scalars (Stamped Donation)) : Except Exn (List FailedPaymentOut) := do
  let rows ← scalars { keep := fun r => r.row.status = .failed, key := Stamped.createdAt }
  return rows.map failedPaymentOut

def adminPostOut (p : Stamped Post) : AdminPostOut where
  id := p.row.id.toText
  slug := p.row.slug
  title := p.row.title
  publishedAt := p.row.publishedAt

def adminListPosts (scalars : Scalars (Stamped Post)) : Except Exn (List AdminPostOut) := do
  let rows ← scalars { key := Stamped.createdAt }
  return rows.map adminPostOut

-- The donations that a status asks for.
def Stamped.asked (status : Option String) (r : Stamped Donation) : Bool :=
  (status.filter Settings.given).all fun name => r.row.status.value = name

theorem donationsWith_ok [Platform] {status : Option String} {query : Select (Stamped Donation) Time}
    (h : donationsWith status = .ok query) : query = { donationsQuery with keep := Stamped.asked status } := by
  unfold donationsWith at h
  unfold Stamped.asked
  cases hstatus : status.filter Settings.given with
  | none =>
    rw [hstatus] at h
    exact (Except.ok.inj h).symm
  | some name =>
    rw [hstatus] at h
    cases hfound : DonationStatus.ofString name with
    | error error => simp [hfound, bind, Except.bind] at h
    | ok found =>
      simp only [hfound, bind, Except.bind, pure, Except.pure, Except.ok.injEq] at h
      subst h
      have hname := DonationStatus.ofString_ok hfound
      refine congrArg (fun keep => ({ donationsQuery with keep := keep } : Select (Stamped Donation) Time))
        (funext fun r => ?_)
      simp [← hname, DonationStatus.value_injective.eq_iff]

theorem read_writerows (rows : List (List String)) :
    Csv.read (writerows rows).toList = some (rows.map (List.map String.toList)) := by
  rw [writerows, String.toList_ofList, Csv.read_write]

-- Every format shows the same rows: the latest thousand of the donations asked for.
theorem listDonations_found [Platform] {scalars : Scalars (Stamped Donation)} {table : List (Stamped Donation)}
    (hreads : scalars.Reads table) {status format : Option String} {page : DonationsPage}
    (h : listDonations scalars status format = .ok page) :
    ∃ found, (∀ format, listDonations scalars status format = .ok (donationsPage format found)) ∧
      Select.Latest Stamped.createdAt 1000 (table.filter (Stamped.asked status)) found := by
  unfold listDonations at h ⊢
  cases hquery : donationsWith status with
  | error error => simp [hquery, bind, Except.bind] at h
  | ok query =>
    cases hfound : scalars query with
    | error error => simp [hquery, hfound, bind, Except.bind] at h
    | ok found =>
      have hanswers := hreads query found hfound
      rw [donationsWith_ok hquery] at hanswers
      exact ⟨found, fun format => by simp [hfound, bind, Except.bind, pure, Except.pure],
        hanswers.latest rfl rfl⟩

-- The export reads back as the listing in JSON, field by field, whatever the
-- stored texts hold. Both show the latest thousand of the donations asked for.
theorem donations_export [Platform] {scalars : Scalars (Stamped Donation)} {table : List (Stamped Donation)}
    (hreads : scalars.Reads table) {status : Option String} {page : DonationsPage}
    (h : listDonations scalars status (some "csv") = .ok page) :
    ∃ rows content, page = .csv content ∧
      Csv.read content.toList = some
      ((donationsHeader :: rows.map DonationOut.cells).map (List.map String.toList)) ∧
      listDonations scalars status none = .ok (.json rows) ∧
      ∃ found, rows = found.map donationOut ∧
        Select.Latest Stamped.createdAt 1000 (table.filter (Stamped.asked status)) found := by
  obtain ⟨found, hpages, hlatest⟩ := listDonations_found hreads h
  have hpage : page = donationsPage (some "csv") found := Except.ok.inj (h.symm.trans (hpages _))
  refine ⟨found.map donationOut, _, hpage, ?_, hpages none, found, rfl, hlatest⟩
  rw [read_writerows, List.map_map]
  rfl

open scoped BridgeOfHope.Trial

-- A currency of three characters that would end a field and a line.
def oddGift : Stamped Donation where
  row := ⟨1#128, 2#128, none, .test, "test_pay_1", 500, "\",\n", .succeeded, false, none, .null⟩
  createdAt := 0

def laterGift : Stamped Donation where
  row := ⟨3#128, 2#128, none, .test, "test_pay_2", 2500, "USD", .succeeded, false, none, .null⟩
  createdAt := 1

-- The later gift stands second in the table and first in the export.
theorem donations_export_oddGift : ∃ content,
    listDonations (fun query => .ok (query.run [oddGift, laterGift])) none (some "csv") = .ok (.csv content) ∧
      Csv.read content.toList = some
        ([donationsHeader, (donationOut laterGift).cells, (donationOut oddGift).cells].map
          (List.map String.toList)) := by
  have hreads : Scalars.Reads (fun query => .ok (query.run [oddGift, laterGift])) [oddGift, laterGift] := by
    rintro query rows h
    cases h
    exact query.answers_run _
  have hpage : listDonations (fun query => .ok (query.run [oddGift, laterGift])) none (some "csv") =
      .ok (donationsPage (some "csv") (donationsQuery.run [oddGift, laterGift])) := rfl
  obtain ⟨rows, content, hcontent, hread, -, found, rfl, hlatest⟩ := donations_export hreads hpage
  have hperm : found.Perm [oddGift, laterGift] := hlatest.perm (by decide)
  have hfound : found = [laterGift, oddGift] := by
    refine List.Perm.eq_of_pairwise (fun r r' hr hr' hle hle' => ?_) hlatest.sorted (by decide)
      (hperm.trans (.swap _ _ _))
    have hmem := hperm.mem_iff.mp hr
    simp only [List.mem_cons, List.not_mem_nil, or_false] at hmem hr'
    rcases hmem with rfl | rfl <;> rcases hr' with rfl | rfl <;> 
      first | rfl | exact absurd hle (by decide) | exact absurd hle' (by decide)
  exact ⟨content, hpage.trans (congrArg _ hcontent), by rw [hread, hfound]; rfl⟩

end Admin

end BridgeOfHope
