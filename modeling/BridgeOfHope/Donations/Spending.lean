import BridgeOfHope.Donations.Answered
import BridgeOfHope.Limits.Writes
import BridgeOfHope.Origins
import Mathlib.Order.Nat

namespace BridgeOfHope

open Process Payments Donations
open Prog (Only)

-- What a gift on the test rail uses up, and what its transaction is made of
-- while it is open.

-- A gift looks for its donor, and draws some ids and tokens.
def Event.spends : Event → Bool
  | ⟨.query (.donorByEmail _), .ok _⟩ | ⟨.uuid7, _⟩ | ⟨.tokenHex, _⟩ => true
  | _ => false

def Session.spent (s : Session) : ℕ := s.past.countP Event.spends

-- Its donor comes first, and it writes nothing once it has committed.
def Frugal (s : Session) : Op → Prop
  | .push _ => s.committed = []
  | .uuid7 | .tokenHex => s.spent < 7
  | .query (.donorByEmail _) => s.spent = 0
  | _ => True

section Handlers

variable {s : Session} {op : Op} {ans : Ans op} {α β : Type} {low m high : ℕ}

theorem Session.spent_update :
    (s.update op ans).spent = s.spent + if Event.spends ⟨op, ans⟩ then 1 else 0 :=
  List.countP_cons

theorem Session.drawn_le_spent (s : Session) : s.drawn.length ≤ s.spent := by
  unfold Session.drawn Session.spent
  rw [List.length_filterMap_eq_countP]
  refine List.countP_mono_left fun event _ htoken => ?_
  obtain ⟨op, ans⟩ := event
  cases op <;> first | rfl | cases htoken

theorem Session.ids_le_spent (s : Session) : s.ids.length ≤ s.spent := by
  unfold Session.ids Session.spent
  rw [List.length_filterMap_eq_countP]
  refine List.countP_mono_left fun event _ hid => ?_
  obtain ⟨op, ans⟩ := event
  cases op <;> first | rfl | cases hid

variable [Platform]

-- Up to its commit, a program that has spent up to `low` before has spent up to
-- `high` when it returns.
def Spends (low high : ℕ) (program : Act α) : Prop :=
  ∀ s : Session, s.committed = [] → s.spent ≤ low → program.Obeys client Frugal
    (fun s' result => ∀ value, result = .ok value → s'.committed = [] ∧ s'.spent ≤ high) s

-- The same with the commit, after which nothing is asked any more.
def Serves (low : ℕ) (program : Act α) : Prop :=
  ∀ s : Session, s.committed = [] → s.spent ≤ low → program.Obeys client Frugal (fun _ _ => True) s

theorem spends_ret {value : α} (h : low ≤ high) : Spends low high (.ret value : Act α) :=
  fun _ hnone hspent _ _ => ⟨hnone, hspent.trans h⟩

theorem Spends.bind {program : Act α} {rest : α → Act β} (h : Spends low m program)
    (hrest : ∀ value, Spends m high (rest value)) : Spends low high (program >>= rest) := by
  intro s hnone hspent
  refine obeys_seq ((h s hnone hspent).mono (fun _ _ hop => hop) fun s' result hresult => ?_)
  cases result with
  | ok value =>
      obtain ⟨hnone', hspent'⟩ := hresult value rfl
      exact hrest value s' hnone' hspent'
  | error error => exact fun _ hvalue => nomatch hvalue

theorem Spends.serves {program : Act α} {rest : α → Act β} (h : Spends low m program)
    (hrest : ∀ value, Serves m (rest value)) : Serves low (program >>= rest) := by
  intro s hnone hspent
  refine obeys_seq ((h s hnone hspent).mono (fun _ _ hop => hop) fun s' result hresult => ?_)
  cases result with
  | ok value =>
      obtain ⟨hnone', hspent'⟩ := hresult value rfl
      exact hrest value s' hnone' hspent'
  | error error => trivial

-- What spends nothing and commits nothing.
def Op.Cheap : Op → Prop
  | .uuid7 | .tokenHex | .query (.donorByEmail _) | .commit => False
  | _ => True

theorem spends_of_only {program : Act α} (h : program.Only Op.Cheap) : Spends low low program := by
  intro s hnone hspent
  refine h.obeys (fun s' => s'.committed = [] ∧ s'.spent ≤ low) (fun s' op ans ⟨hnone', hspent'⟩ hop => ?_)
    (fun s' op ⟨hnone', _⟩ hop => ?_) (fun _ _ hs' _ _ => hs') ⟨hnone, hspent⟩
  · have hquiet : Event.spends ⟨op, ans⟩ = false := by
      cases op with
      | query query => cases query with
        | donorByEmail email => cases hop
        | _ => rfl
      | uuid7 | tokenHex => cases hop
      | _ => rfl
    refine ⟨?_, by simpa [client, Session.spent_update, hquiet] using hspent'⟩
    rw [← hnone']
    refine Session.committed_update fun hcommit => ?_
    cases hcommit
    exact hop
  · cases op with
    | push stmt => exact hnone'
    | query query => cases query with
      | donorByEmail email => cases hop
      | _ => trivial
    | uuid7 | tokenHex => cases hop
    | _ => trivial

theorem spends_uuid7 (h : low < 7) : Spends low (low + 1) uuid7 := by
  intro s hnone hspent
  refine ⟨hspent.trans_lt h, fun ans _ value hvalue => ⟨hnone, ?_⟩⟩
  exact Session.spent_update.trans_le (Nat.succ_le_succ hspent)

theorem spends_tokenHex (h : low < 7) : Spends low (low + 1) tokenHex := by
  intro s hnone hspent
  refine ⟨hspent.trans_lt h, fun ans _ value hvalue => ⟨hnone, ?_⟩⟩
  exact Session.spent_update.trans_le (Nat.succ_le_succ hspent)

theorem spends_now : Spends low low now := spends_of_only (.perform trivial)

theorem spends_flush : Spends low low flush := spends_of_only (only_flush trivial)

theorem spends_add {stmt : Stmt} : Spends low low (add stmt) := spends_of_only (.perform trivial)

theorem spends_scalar {query : Query} (h : Op.Cheap (.query query)) : Spends low low (scalar query) :=
  spends_of_only (only_scalar trivial h)

theorem spends_ofExcept {result : Except Exn α} : Spends low low (Prog.ofExcept result) :=
  spends_of_only .ofExcept

theorem spends_donorLookup {email : String} : Spends 0 1 (scalar (.donorByEmail email)) := by
  refine Spends.bind (m := 1) (spends_flush.bind fun _ => Spends.bind (m := 1) ?_ fun _ => spends_ofExcept)
    fun _ => spends_ret (le_refl 1)
  intro s hnone hspent
  refine ⟨Nat.le_zero.mp hspent, fun ans _ value hvalue => ?_⟩
  cases ans with
  | ok rows => exact ⟨hnone, Session.spent_update.trans_le (Nat.succ_le_succ hspent)⟩
  | error error => exact ⟨hnone, Session.spent_update.trans_le (hspent.trans (Nat.zero_le 1))⟩

theorem spends_sendEmail (settings : Settings) (to_ subject : String) (template : Template) :
    Spends low low (sendEmail settings to_ subject template) := by
  unfold sendEmail
  split
  · exact spends_of_only (.bind (.perform trivial) fun _ => .ofExcept)
  · exact spends_of_only (.perform trivial)

theorem spends_recordWebhookEvent (args : EventArgs) (h : low < 7) :
    Spends low (low + 1) (Ledger.recordWebhookEvent args) := by
  refine spends_ofExcept.bind fun id => (spends_scalar (by trivial)).bind fun existing => ?_
  cases existing with
  | some row => exact spends_ret (Nat.le_succ low)
  | none =>
      refine spends_now.bind fun time => (spends_uuid7 h).bind fun id =>
        spends_ofExcept.bind fun eventType => ?_
      exact spends_add.bind fun _ => spends_flush.bind fun _ => spends_ret (le_refl _)

theorem spends_recordDonation (args : DonationArgs) (h : low < 7) :
    Spends low (low + 1) (Ledger.recordDonation args) := by
  refine (spends_scalar (by trivial)).bind fun existing => ?_
  cases existing with
  | some donation => exact spends_ret (Nat.le_succ low)
  | none =>
      refine spends_now.bind fun time => (spends_uuid7 h).bind fun id => ?_
      exact spends_add.bind fun _ => spends_flush.bind fun _ => spends_ret (le_refl _)

theorem spends_settlement {eventType subject : String} {args : Json → DonationArgs} {tail : Act Unit}
    (h : low + 2 < 7) (htail : Spends (low + 3) (low + 3) tail) :
    Spends low (low + 3) (settlement eventType subject args tail) := by
  refine Spends.bind (m := low + 1) ?_ fun payload => spends_ofExcept.bind fun id => spends_ofExcept.bind
    fun eventType => (spends_recordWebhookEvent _ (by omega)).bind fun ⟨event, isNew⟩ => ?_
  · exact (spends_tokenHex (by omega)).bind fun token => spends_now.bind fun time => spends_ret (le_refl _)
  cases isNew with
  | false => exact spends_ret (Nat.le_succ _)
  | true =>
      refine (spends_recordDonation _ h).bind fun donation => Spends.bind (spends_of_only ?_) fun _ => htail
      exact .bind (.perform trivial) fun _ => .bind (.bind (.perform trivial) fun _ => trivial) fun _ =>
        only_flush trivial

theorem spends_giver (payload : DonorPayload) (consent : Bool) (source : String) :
    Spends 0 2 (giver payload consent source) := by
  refine Spends.bind (m := 2) (spends_donorLookup.bind fun found => ?_) fun donor => ?_
  · cases found with
    | some donor => exact spends_ret (by omega)
    | none =>
        refine (spends_uuid7 (by omega)).bind fun id => ?_
        exact spends_add.bind fun _ => spends_flush.bind fun _ => spends_ret (le_refl _)
  · cases consent with
    | true => exact spends_now.bind fun time => spends_add.bind fun _ => spends_ret (le_refl _)
    | false => exact spends_ret (le_refl _)

theorem serves_commit {rest : Unit → Act β} (h : (rest ()).Only fun _ => False) :
    Serves low (commit >>= rest) := by
  intro s _ _
  have hlast : (commit >>= rest).Only fun op => op = .flush ∨ op = .commit :=
    (only_commit (.inl rfl) (.inr rfl)).bind fun _ => h.mono fun _ hop => hop.elim
  refine hlast.obeys_any.mono (fun s' op hop => ?_) fun _ _ h => h
  rcases hop with rfl | rfl
  · trivial
  · trivial

-- The longest way is a monthly gift of a new donor.
theorem handler_spends {request : Request} {body : GiveBody} (hgiven : request.given = some body)
    (hrail : body.provider = "test") : request.handler.Obeys client Frugal (fun _ _ => True) {} := by
  suffices h : Serves 0 request.handler from h {} rfl (le_refl 0)
  have hprovider (settings : Settings) : getProvider body.provider settings = .ok .test := by rw [hrail]; rfl
  unfold Request.given at hgiven
  split at hgiven
  · next body' hrequest =>
      cases hgiven
      rw [Request.handler_oneOff hrequest, createOneOff_eq, selectProvider_eq (hprovider _)]
      refine (spends_giver _ _ _).serves fun donor => Spends.serves (m := 3)
        ((spends_tokenHex (by omega)).bind fun token => spends_ret (le_refl _)) fun result => ?_
      refine Spends.serves (m := 6) (spends_ofExcept.bind fun paymentId => spends_settlement (by omega) ?_)
        fun _ => serves_commit (.bind .ofExcept fun _ => trivial)
      exact spends_ofExcept.bind fun amount => spends_now.bind fun time => spends_sendEmail _ _ _ _
  · next body' hrequest =>
      cases hgiven
      rw [Request.handler_subscription hrequest, createSubscription_eq, selectProvider_eq (hprovider _)]
      refine (spends_giver _ _ _).serves fun donor => Spends.serves (m := 3)
        ((spends_tokenHex (by omega)).bind fun token =>
          (spends_of_only (.perform (by trivial))).bind fun _ => spends_ret (le_refl _)) fun result => ?_
      refine spends_ofExcept.serves fun rail => (spends_uuid7 (by omega)).serves fun id => spends_add.serves
        fun _ => spends_flush.serves fun _ => Spends.serves (m := 7) ?_ fun _ => serves_commit trivial
      refine Spends.bind (m := 4) (spends_of_only ?_) fun _ => spends_settlement (by omega) ?_
      · exact .bind (.perform trivial) fun _ => .bind (.bind (.perform trivial) fun _ => trivial) fun _ =>
          only_flush trivial
      · exact spends_now.bind fun time => spends_ofExcept.bind fun amount => spends_sendEmail _ _ _ _
  · cases hgiven

end Handlers

-- The open transaction of a gift. Its statements fit, they refer to rows that the
-- session has read or written, and all that it wrote is in it.
structure Prepared (s : Session) : Prop where
  fits : ∀ stmt ∈ s.pending, stmt.fits = true
  known : ∀ stmt ∈ s.pending, ∀ key ∈ stmt.references, key.KnownIn s
  pushed : s.broken = false → s.committed = [] → ∀ stmt, ⟨.push stmt, ()⟩ ∈ s.past → stmt ∈ s.pending
  early : s.pending ≠ [] → s.committed = []

theorem prepared_fresh : Prepared {} :=
  ⟨by simp [Session.pending], by simp [Session.pending], by simp, fun _ => rfl⟩

section Transactions

variable [Platform] {request : Request} {s : Session} {op : Op}

theorem Prepared.update (h : Prepared s) (hpermits : Permits request s op) (hminting : Minting request s op)
    (hfits : op.fits = true) (hfrugal : Frugal s op) (ans : Ans op) : Prepared (s.update op ans) := by
  have hpast : s.past <:+ (s.update op ans).past := List.suffix_cons _ _
  have hempty (hpending : (s.update op ans).pending = []) (hpushed : (s.update op ans).broken = false →
      (s.update op ans).committed = [] → ∀ stmt, ⟨.push stmt, ()⟩ ∉ (s.update op ans).past) :
      Prepared (s.update op ans) := by
    refine ⟨by simp [hpending], by simp [hpending], fun hbroken hnone stmt hstmt => ?_, by simp [hpending]⟩
    exact absurd hstmt (hpushed hbroken hnone stmt)
  have hkept (hpending : (s.update op ans).pending = s.pending)
      (hcommitted : (s.update op ans).committed = s.committed) (hbroken : (s.update op ans).broken = s.broken)
      (hop : ∀ stmt, op ≠ .push stmt) : Prepared (s.update op ans) := by
    refine ⟨by rw [hpending]; exact h.fits, fun stmt hstmt key hkey => ?_, fun hsound hnone stmt hstmt => ?_,
      by rw [hpending, hcommitted]; exact h.early⟩
    · rw [hpending] at hstmt
      exact (h.known stmt hstmt key hkey).mono hpast
    · rw [hpending]
      rcases List.mem_cons.mp hstmt with hnew | hold
      · cases hnew
        exact absurd rfl (hop stmt)
      · exact h.pushed (hbroken ▸ hsound) (hcommitted ▸ hnone) stmt hold
  cases op with
  | push stmt =>
      have hpending : (s.update (.push stmt) ans).pending = s.pending ++ [stmt] :=
        (Session.writes_push stmt ans).pending
      refine ⟨fun stmt' hstmt' => ?_, fun stmt' hstmt' key hkey => ?_, fun hsound hnone stmt' hstmt' => ?_,
        fun _ => hfrugal⟩
      · rcases List.mem_append.mp (hpending ▸ hstmt') with hold | hnew
        · exact h.fits stmt' hold
        · exact List.mem_singleton.mp hnew ▸ hfits
      · rcases List.mem_append.mp (hpending ▸ hstmt') with hold | hnew
        · exact (h.known stmt' hold key hkey).mono hpast
        · rw [List.mem_singleton.mp hnew] at hkey
          exact (hminting.2 key hkey).mono hpast
      · rw [hpending]
        rcases List.mem_cons.mp hstmt' with hnew | hold
        · cases hnew
          exact List.mem_append_right _ (List.mem_singleton_self stmt)
        · exact List.mem_append_left _ (h.pushed hsound hnone stmt' hold)
  | flush => cases ans with
    | ok _ => exact hkept (by simp [Session.pending, Session.update, Session.advance]) rfl rfl (by simp)
    | error _ => exact hempty rfl fun hsound => Bool.noConfusion hsound
  | query query => cases ans with
    | ok _ => exact hkept rfl rfl rfl (by simp)
    | error _ => exact hempty rfl fun hsound => Bool.noConfusion hsound
  | commit => cases ans with
    | ok _ =>
        have hunflushed : s.unflushed = [] := hpermits.1
        refine hempty (by simp [Session.pending, Session.update, Session.advance, hunflushed])
          fun hsound hnone stmt hstmt => ?_
        obtain ⟨hcommitted, hflushed⟩ := List.append_eq_nil_iff.mp
          (show s.committed ++ s.flushed = [] from hnone)
        have hmem : stmt ∈ s.pending := by
          rcases List.mem_cons.mp hstmt with hnew | hold
          · cases hnew
          · exact h.pushed hsound hcommitted stmt hold
        simp [Session.pending, hflushed, hunflushed] at hmem
    | error _ => exact hempty rfl fun hsound => Bool.noConfusion hsound
  | stripeCheckout _ | stripeDelete _ | http _ | record _ | smtp _ | log _ | now | uuid7 | tokenHex =>
      exact hkept rfl rfl rfl (by simp)

-- A gift whose donor row fits: only the country code can grow when it is put in capitals.
def Request.FittingGift (request : Request) (body : GiveBody) : Prop :=
  request.TestGift body ∧ (Platform.upper body.donor.countryCode).length ≤ 2

-- What such a gift asks, and how its transaction stands then.
def Provides (request : Request) (s : Session) (op : Op) : Prop :=
  (GiftPermits request s op ∧ Minting request s op) ∧
    ∀ body, request.FittingGift body → (op.fits = true ∧ Frugal s op) ∧ Prepared s

theorem client_tokenSized (s : Session) (op : Op) (ans : Ans op) (h : client.sound s op ans) :
    TokenSized op ans := by
  cases op with
  | tokenHex =>
      have htoken : isTokenHex ans = true := h
      simp only [isTokenHex, Bool.and_eq_true, decide_eq_true_eq] at htoken
      exact htoken.1
  | _ => trivial

theorem handler_provides (request : Request) :
    (service.start request).Obeys service.toClient (Provides request) (GiftConcludes request)
      service.fresh := by
  have hboth := (handler_gives request).and (handler_mints request)
  by_cases hgift : ∃ body, request.FittingGift body
  · obtain ⟨body, hbody, hcountry⟩ := hgift
    have hfits : request.handler.Obeys client (fun _ op => op.fits = true)
        (fun _ result => ∀ value, result = .ok value → True) {} :=
      (handler_fits hbody.given hbody.rail hbody.bound hcountry).obeys client_tokenSized
    have hall := hboth.and (hfits.and (handler_spends hbody.given hbody.rail))
    refine hall.weaken Prepared (fun s op ans hs hop _ => ?_)
      (fun s op hs hop => ⟨hop.1, fun _ _ => ⟨hop.2, hs⟩⟩)
      (fun s result _ h => h.1.1) prepared_fresh
    exact hs.update hop.1.1.1 hop.1.2 hop.2.1 hop.2.2 ans
  · exact hboth.mono (fun s op h => ⟨h, fun body hbody => absurd ⟨body, hbody⟩ hgift⟩) fun s result h => h.1

end Transactions

end BridgeOfHope
