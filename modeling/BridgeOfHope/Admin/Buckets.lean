import BridgeOfHope.Admin.Service
import Mathlib.Data.Set.Basic

namespace BridgeOfHope.Admin

-- Which logins share a bucket of the limiter.

-- A login request, as the limiter sees it.
structure Attempt where
  client : String
  email : String
  time : ℤ
deriving DecidableEq

-- Where one text with a colon can be cut.
theorem cons_append_eq {a a' x x' : List Char} (h : a ++ ':' :: x = a' ++ ':' :: x') :
    (a = a' ∧ x = x') ∨ (∃ rest, a' = a ++ ':' :: rest ∧ x = rest ++ ':' :: x') ∨
      ∃ rest, a = a' ++ ':' :: rest ∧ x' = rest ++ ':' :: x := by
  rcases List.append_eq_append_iff.mp h with ⟨part, rfl, htail⟩ | ⟨part, rfl, htail⟩
  · cases part with
    | nil => simp_all
    | cons c rest =>
        obtain ⟨rfl, rfl⟩ := List.cons.inj htail
        exact .inr (.inl ⟨rest, rfl, rfl⟩)
  · cases part with
    | nil => simp_all
    | cons c rest =>
        obtain ⟨rfl, rfl⟩ := List.cons.inj htail
        exact .inr (.inr ⟨rest, rfl, rfl⟩)

theorem string_cut {a a' x x' : String} (h : a ++ ":" ++ x = a' ++ ":" ++ x') :
    (a = a' ∧ x = x') ∨ (∃ rest, a' = a ++ ":" ++ rest ∧ x = rest ++ ":" ++ x') ∨
      ∃ rest, a = a' ++ ":" ++ rest ∧ x' = rest ++ ":" ++ x := by
  have hlist := congrArg String.toList h
  simp only [String.toList_append, List.append_assoc] at hlist
  rcases cons_append_eq hlist with ⟨ha, hx⟩ | ⟨rest, ha, hx⟩ | ⟨rest, ha, hx⟩
  · exact .inl ⟨String.toList_inj.mp ha, String.toList_inj.mp hx⟩
  · refine .inr (.inl ⟨String.ofList rest, String.toList_inj.mp ?_, String.toList_inj.mp ?_⟩)
    · simpa using ha
    · simpa using hx
  · refine .inr (.inr ⟨String.ofList rest, String.toList_inj.mp ?_, String.toList_inj.mp ?_⟩)
    · simpa using ha
    · simpa using hx

section

variable [Platform]

-- Whose login is tried, and from where: the address and the email ignoring case.
def Attempt.owner (attempt : Attempt) : String × String := (attempt.client, Platform.lower attempt.email)

def Attempt.key (attempt : Attempt) : String := limiterKey attempt.client attempt.email

def decisions (limiter : RateLimiter ℤ) : List Attempt → List (Attempt × Bool)
  | [] => []
  | attempt :: attempts =>
      let (allowed, limiter) := limiter.check attempt.key attempt.time
      (attempt, allowed) :: decisions limiter attempts

-- Any two courses of logins with the same attempts on one account from one address
-- decide them alike.
def Separate (requests : Set (String × String)) : Prop :=
  ∀ attempts attempts' owner,
    (∀ attempt ∈ attempts ++ attempts', (attempt.client, attempt.email) ∈ requests) →
    (attempts.filter fun attempt => attempt.owner = owner) =
      (attempts'.filter fun attempt => attempt.owner = owner) →
    ((decisions loginRateLimiter attempts).filter fun decision => decision.1.owner = owner) =
      (decisions loginRateLimiter attempts').filter fun decision => decision.1.owner = owner

-- Who shares a bucket has the same address and the same email ignoring case.
def OwnBuckets (requests : Set (String × String)) : Prop :=
  ∀ request ∈ requests, ∀ request' ∈ requests,
    limiterKey request.1 request.2 = limiterKey request'.1 request'.2 →
      request.1 = request'.1 ∧ Platform.lower request.2 = Platform.lower request'.2

-- No address goes on after another one's colon with what the other's email begins with.
def Unshifted (requests : Set (String × String)) : Prop :=
  ¬ ∃ client email client' email' rest, (client, email) ∈ requests ∧ (client', email') ∈ requests ∧
    client' = client ++ ":" ++ rest ∧ Platform.lower email = rest ++ ":" ++ Platform.lower email'

theorem ownBuckets_of_unshifted {requests : Set (String × String)} (h : Unshifted requests) :
    OwnBuckets requests := by
  rintro ⟨client, email⟩ hrequest ⟨client', email'⟩ hrequest' hkey
  rcases string_cut hkey with hsame | ⟨rest, hclient, hemail⟩ | ⟨rest, hclient, hemail⟩
  · exact hsame
  · exact absurd ⟨client, email, client', email', rest, hrequest, hrequest', hclient, hemail⟩ h
  · exact absurd ⟨client', email', client, email, rest, hrequest', hrequest, hclient, hemail⟩ h

-- Within its own bucket, a login is decided as if there were no others.
theorem decisions_filter {limiter limiter' : RateLimiter ℤ} {attempts : List Attempt} {owner : String × String}
    {key : String} (hkey : ∀ attempt ∈ attempts, attempt.owner = owner ↔ attempt.key = key)
    (hmax : limiter.maxAttempts = limiter'.maxAttempts) (hwindow : limiter.window = limiter'.window)
    (hhits : limiter.hits key = limiter'.hits key) :
    ((decisions limiter attempts).filter fun decision => decision.1.owner = owner) =
      decisions limiter' (attempts.filter fun attempt => attempt.owner = owner) := by
  induction attempts generalizing limiter limiter' with
  | nil => rfl
  | cons attempt attempts ih =>
      have hrest := fun attempt' h => hkey attempt' (List.mem_cons_of_mem _ h)
      by_cases howner : attempt.owner = owner
      · have hattempt : attempt.key = key := (hkey attempt List.mem_cons_self).mp howner
        obtain ⟨hallowed, hafter⟩ := @RateLimiter.check_congr _ _ _ _ _ _ _ attempt.time hmax hwindow hhits
        have hnext := @ih (limiter.check key attempt.time).2 (limiter'.check key attempt.time).2 hrest
          (by simpa using hmax) (by simpa using hwindow) hafter
        simp only [decisions, List.filter_cons, howner, decide_true, if_true, hattempt, hallowed, hnext]
      · have hattempt : key ≠ attempt.key := fun h => howner ((hkey attempt List.mem_cons_self).mpr h.symm)
        have hnext := @ih (limiter.check attempt.key attempt.time).2 limiter' hrest
          (by simpa using hmax) (by simpa using hwindow)
          ((RateLimiter.check_hits_of_ne hattempt).trans hhits)
        simp only [decisions, List.filter_cons, howner, decide_false, Bool.false_eq_true, if_false, hnext]

theorem decisions_filter_none {limiter : RateLimiter ℤ} {attempts : List Attempt} {owner : String × String}
    (h : ∀ attempt ∈ attempts, attempt.owner ≠ owner) :
    ((decisions limiter attempts).filter fun decision => decision.1.owner = owner) = [] := by
  induction attempts generalizing limiter with
  | nil => rfl
  | cons attempt attempts ih =>
      have howner := h attempt List.mem_cons_self
      simp only [decisions, List.filter_cons, howner, decide_false, Bool.false_eq_true, if_false]
      exact ih fun attempt' h' => h attempt' (List.mem_cons_of_mem _ h')

theorem separate_of_ownBuckets {requests : Set (String × String)} (h : OwnBuckets requests) :
    Separate requests := by
  intro attempts attempts' owner hdrawn hsame
  by_cases hmem : ∃ attempt ∈ attempts ++ attempts', attempt.owner = owner
  · obtain ⟨attempt, hattempt, rfl⟩ := hmem
    have hkey : ∀ attempt' ∈ attempts ++ attempts', attempt'.owner = attempt.owner ↔
        attempt'.key = attempt.key := by
      intro attempt' hattempt'
      constructor
      · intro howner
        obtain ⟨hclient, hemail⟩ := Prod.mk.inj howner
        simp only [Attempt.key, limiterKey, hclient, hemail]
      · intro heq
        exact Prod.ext_iff.mpr (h _ (hdrawn _ hattempt') _ (hdrawn _ hattempt) heq)
    rw [decisions_filter (fun attempt' h => hkey attempt' (List.mem_append_left _ h)) rfl rfl rfl,
      decisions_filter (fun attempt' h => hkey attempt' (List.mem_append_right _ h)) rfl rfl rfl, hsame]
  · rw [decisions_filter_none fun attempt h howner => hmem ⟨attempt, List.mem_append_left _ h, howner⟩,
      decisions_filter_none fun attempt h howner => hmem ⟨attempt, List.mem_append_right _ h, howner⟩]

-- Five attempts from the shorter address, and the other's first is one too many.
theorem unshifted_of_separate {requests : Set (String × String)} (h : Separate requests) :
    Unshifted requests := by
  rintro ⟨client, email, client', email', rest, hrequest, hrequest', hclient, hemail⟩
  let attacker : Attempt := ⟨client, email, 0⟩
  let victim : Attempt := ⟨client', email', 0⟩
  have hkey : attacker.key = victim.key := by
    simp only [attacker, victim, Attempt.key, limiterKey, hclient, hemail, String.append_assoc]
  have hattacker : attacker.time = 0 := rfl
  have hvictim : victim.time = 0 := rfl
  have hother : attacker.owner ≠ victim.owner := by
    intro howner
    have hlength : client.length = client.length + ":".length + rest.length := by
      rw [← String.length_append, ← String.length_append, ← hclient]
      exact congrArg String.length (Prod.mk.inj howner).1
    have hcolon : ":".length = 1 := by decide
    omega
  have hdrawn : ∀ attempt ∈ (List.replicate 5 attacker ++ [victim]) ++ [victim],
      (attempt.client, attempt.email) ∈ requests := by
    intro attempt hattempt
    simp only [List.mem_append, List.mem_replicate, List.mem_singleton] at hattempt
    rcases hattempt with (⟨-, rfl⟩ | rfl) | rfl
    · exact hrequest
    · exact hrequest'
    · exact hrequest'
  have hsame := h (List.replicate 5 attacker ++ [victim]) [victim] victim.owner hdrawn (by simp [hother])
  simp [decisions, hkey, hother, RateLimiter.check, loginRateLimiter, List.replicate, hattacker,
    hvictim] at hsame

-- Logins are throttled apart exactly as far as the colon of the key is no part of
-- an address that another address and email could make up.
theorem login_buckets (requests : Set (String × String)) :
    (Separate requests ↔ Unshifted requests) ∧ (OwnBuckets requests ↔ Unshifted requests) := by
  have hown : OwnBuckets requests → Unshifted requests :=
    fun h => unshifted_of_separate (separate_of_ownBuckets h)
  refine ⟨⟨unshifted_of_separate, fun h => ?_⟩, ⟨hown, ownBuckets_of_unshifted⟩⟩
  exact separate_of_ownBuckets (ownBuckets_of_unshifted h)

end

open scoped BridgeOfHope.Trial

def neighbour : Attempt := ⟨"2001:db8::a", "b:office@example.org", 0⟩

def officeLogin : Attempt := ⟨"2001:db8::a:b", "office@example.org", 0⟩

-- The neighbour's attempts lock the office out.
theorem shifted_address_shares_bucket :
    ((List.replicate 5 neighbour ++ [officeLogin]).filter fun attempt => attempt.owner = officeLogin.owner) =
      ([officeLogin].filter fun attempt => attempt.owner = officeLogin.owner) ∧
    decisions loginRateLimiter [officeLogin] = [(officeLogin, true)] ∧
    (officeLogin, false) ∈ decisions loginRateLimiter (List.replicate 5 neighbour ++ [officeLogin]) ∧
    ¬ Separate Set.univ := by
  refine ⟨by decide, by decide, by decide, fun h => ?_⟩
  refine unshifted_of_separate h ⟨neighbour.client, neighbour.email, officeLogin.client, officeLogin.email, "b",
    trivial, trivial, by decide, by decide⟩

end BridgeOfHope.Admin
