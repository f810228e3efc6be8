import Mathlib.Data.List.Basic
import Mathlib.Logic.Function.Basic
import Mathlib.Order.Basic

namespace Throttle

variable {K T : Type}

-- Which hits still count. A hit that has stopped counting does not start again,
-- and a later hit counts for longer.
structure Window (T : Type) [Preorder T] where
  recent : T → T → Bool
  expires : ∀ {hit now later}, now ≤ later → recent later hit = true → recent now hit = true
  outlasts : ∀ {hit hit' now}, hit ≤ hit' → recent now hit = true → recent now hit' = true

-- A call that has been decided.
structure Check (K T : Type) where
  key : K
  time : T
  accepted : Bool
deriving DecidableEq

def Check.call (check : Check K T) : K × T := (check.key, check.time)

variable [DecidableEq K]

-- The times of the accepted calls on a key.
def admitted (key : K) (history : List (Check K T)) : List T :=
  (history.filter fun check => check.key = key && check.accepted).map Check.time

section

variable [Preorder T] (window : Window T) (limit : ℕ)

-- The limiter on paper: it remembers every call.
def ideal : List (Check K T) → List (K × T) → List (Check K T)
  | _, [] => []
  | history, (key, now) :: calls =>
      let check := ⟨key, now, ((admitted key history).filter (window.recent now)).length < limit⟩
      check :: ideal (history ++ [check]) calls

-- The limiter that keeps a list of hits for each key, and prunes the list when
-- the key is used.
def kept (hits : K → List T) (key : K) (now : T) : List T := (hits key).filter (window.recent now)

def step (hits : K → List T) (key : K) (now : T) : K → List T :=
  let times := kept window hits key now
  Function.update hits key (if times.length < limit then times ++ [now] else times)

def checks : (K → List T) → List (K × T) → List (Check K T)
  | _, [] => []
  | hits, (key, now) :: calls =>
      ⟨key, now, (kept window hits key now).length < limit⟩ :: checks (step window limit hits key now) calls

end

section Admitted

variable {key : K} {history history' : List (Check K T)}

@[simp] theorem admitted_append :
    admitted key (history ++ history') = admitted key history ++ admitted key history' := by
  simp [admitted]

theorem admitted_singleton {check : Check K T} :
    admitted key [check] = if check.key = key ∧ check.accepted = true then [check.time] else [] := by
  unfold admitted
  by_cases h : check.key = key ∧ check.accepted = true
  · simp [h]
  · rw [if_neg h, List.filter_eq_nil_iff.mpr]
    · rfl
    · intro c hc
      rw [List.mem_singleton.mp hc]
      simpa using h

theorem mem_admitted {time : T} : time ∈ admitted key history ↔
    ∃ check ∈ history, check.key = key ∧ check.accepted = true ∧ check.time = time := by
  simp [admitted, and_assoc]

-- The calls on other keys do not show.
theorem admitted_filter :
    admitted key (history.filter fun check => check.key = key) = admitted key history := by
  unfold admitted
  rw [List.filter_filter]
  congr 2
  funext check
  cases check.accepted <;> simp

-- The last of some accepted calls, and the others before it.
theorem exists_of_sublist_admitted {times : List T} {last : T}
    (h : (times ++ [last]).Sublist (admitted key history)) : ∃ before check after,
      history = before ++ check :: after ∧ check.key = key ∧ check.accepted = true ∧
        check.time = last ∧ times.Sublist (admitted key before) := by
  obtain ⟨times₁, times₂, hsplit, h₁, h₂⟩ := List.append_sublist_iff.mp h
  obtain ⟨checks₁, checks₂, hchecks, hmap₁, hmap₂⟩ := List.map_eq_append_iff.mp hsplit
  obtain ⟨history₁, history₂, rfl, hfilter₁, hfilter₂⟩ := List.filter_eq_append_iff.mp hchecks
  have hlast : last ∈ admitted key history₂ := by
    rw [admitted, hfilter₂, hmap₂]
    exact List.singleton_sublist.mp h₂
  obtain ⟨check, hcheck, hkey, haccepted, htime⟩ := mem_admitted.mp hlast
  obtain ⟨before, after, rfl⟩ := List.append_of_mem hcheck
  refine ⟨history₁ ++ before, check, after, by simp, hkey, haccepted, htime, ?_⟩
  rw [admitted_append]
  refine List.Sublist.trans ?_ (List.sublist_append_left _ _)
  rwa [admitted, hfilter₁, hmap₁]

end Admitted

variable [Preorder T] {window : Window T} {limit : ℕ} {hits : K → List T} {history : List (Check K T)}
  {calls : List (K × T)}

@[simp] theorem ideal_calls : (ideal window limit history calls).map Check.call = calls := by
  induction calls generalizing history with
  | nil => rfl
  | cons call calls ih => simp only [ideal, List.map_cons, ih, Check.call]

-- The pruned list and the whole history count the same hits, from the last call on.
def Agree (window : Window T) (hits : K → List T) (history : List (Check K T)) : Prop :=
  ∀ key now, (∀ check ∈ history, check.time ≤ now) →
    (hits key).filter (window.recent now) = (admitted key history).filter (window.recent now)

theorem Agree.initial : Agree window (fun _ : K => []) [] := fun _ _ _ => rfl

theorem Agree.step {key : K} {now : T} (h : Agree window hits history) :
    Agree window (step window limit hits key now)
      (history ++ [⟨key, now, (kept window hits key now).length < limit⟩]) := by
  intro key' later hlater
  have hnow : now ≤ later := hlater _ (List.mem_append_right _ List.mem_cons_self)
  have hold : ∀ check ∈ history, check.time ≤ later :=
    fun check hcheck => hlater check (List.mem_append_left _ hcheck)
  rw [admitted_append, List.filter_append, ← h key' later hold, admitted_singleton]
  unfold Throttle.step
  by_cases hkey : key = key'
  · subst hkey
    -- what the prune drops would not count any more
    have hpruned : (kept window hits key now).filter (window.recent later) =
        (hits key).filter (window.recent later) := by
      rw [kept, List.filter_filter]
      refine List.filter_congr fun hit _ => ?_
      cases hrecent : window.recent later hit with
      | false => rfl
      | true => simp [window.expires hnow hrecent]
    rw [Function.update_self]
    by_cases hlimit : (kept window hits key now).length < limit
    · simp [hlimit, hpruned]
    · simp [hlimit, hpruned]
  · simp [hkey, Function.update_of_ne (Ne.symm hkey)]

-- The limiter that prunes decides as the one that remembers everything.
theorem checks_eq_ideal (h : Agree window hits history)
    (hsorted : calls.Pairwise fun call call' => call.2 ≤ call'.2)
    (hlast : ∀ check ∈ history, ∀ call ∈ calls, check.time ≤ call.2) :
    checks window limit hits calls = ideal window limit history calls := by
  induction calls generalizing hits history with
  | nil => rfl
  | cons call calls ih =>
      obtain ⟨key, now⟩ := call
      have hnow : ∀ check ∈ history, check.time ≤ now :=
        fun check hcheck => hlast check hcheck _ List.mem_cons_self
      have hkept : kept window hits key now = (admitted key history).filter (window.recent now) :=
        h key now hnow
      obtain ⟨hfirst, hrest⟩ := List.pairwise_cons.mp hsorted
      unfold checks ideal
      rw [ih h.step hrest]
      · simp only [hkept]
      · intro check hcheck call hcall
        rcases List.mem_append.mp hcheck with hold | hnew
        · exact hlast check hold call (List.mem_cons_of_mem _ hcall)
        · rw [List.mem_singleton.mp hnew]
          exact hfirst call hcall

-- No list grows beyond the limit.
theorem length_step_le {key key' : K} {now : T} (h : ∀ key, (hits key).length ≤ limit) :
    (step window limit hits key now key').length ≤ limit := by
  unfold step
  by_cases hkey : key' = key
  · subst hkey
    have hle : (kept window hits key' now).length ≤ limit :=
      Nat.le_trans (List.length_filter_le _ _) (h key')
    rw [Function.update_self]
    by_cases hlimit : (kept window hits key' now).length < limit
    · simp only [hlimit, if_true, List.length_append, List.length_singleton]
      omega
    · simp only [hlimit, if_false]
      exact hle
  · rw [Function.update_of_ne hkey]
    exact h key'

-- What each decision of the ideal limiter says.
theorem ideal_accepted {before after : List (Check K T)} {check : Check K T}
    (h : ideal window limit history calls = before ++ check :: after) :
    check.accepted = true ↔ ((admitted check.key (history ++ before)).filter
      (window.recent check.time)).length < limit := by
  induction calls generalizing history before with
  | nil => simp [ideal] at h
  | cons call calls ih =>
      obtain ⟨key, now⟩ := call
      unfold ideal at h
      cases before with
      | nil =>
          obtain ⟨rfl, -⟩ := List.cons.inj h
          simp
      | cons first before =>
          obtain ⟨rfl, hrest⟩ := List.cons.inj h
          simpa using ih hrest

-- The history counts through what was accepted alone.
theorem ideal_congr {history' : List (Check K T)} (h : ∀ key, admitted key history = admitted key history') :
    ideal window limit history calls = ideal window limit history' calls := by
  induction calls generalizing history history' with
  | nil => rfl
  | cons call calls ih =>
      obtain ⟨key, now⟩ := call
      unfold ideal
      rw [h key]
      refine congrArg _ (ih fun key' => ?_)
      rw [admitted_append, admitted_append, h key']

-- Without a rejected call, every other call is decided alike.
theorem ideal_without_rejected {before after : List (Check K T)} {check : Check K T}
    (h : ideal window limit history calls = before ++ check :: after) (hrejected : check.accepted = false) :
    ideal window limit history ((before ++ after).map Check.call) = before ++ after := by
  induction calls generalizing history before with
  | nil => simp [ideal] at h
  | cons call calls ih =>
      obtain ⟨key, now⟩ := call
      unfold ideal at h
      cases before with
      | nil =>
          obtain ⟨rfl, rfl⟩ := List.cons.inj h
          rw [List.nil_append, ideal_calls]
          refine ideal_congr fun key' => ?_
          rw [admitted_append, admitted_singleton, if_neg (by simpa using fun _ => hrejected), List.append_nil]
      | cons first before =>
          obtain ⟨rfl, hrest⟩ := List.cons.inj h
          rw [List.cons_append, List.map_cons, Check.call, ideal, ih hrest]

theorem ideal_append {calls' : List (K × T)} : ideal window limit history (calls ++ calls') =
    ideal window limit history calls ++
      ideal window limit (history ++ ideal window limit history calls) calls' := by
  induction calls generalizing history with
  | nil => simp [ideal]
  | cons call calls ih =>
      obtain ⟨key, now⟩ := call
      simp [ideal, ih]

-- Of any `limit + 1` accepted calls on a key, the first does not count at the last.
theorem ideal_span (hsorted : calls.Pairwise fun call call' => call.2 ≤ call'.2) {key : K}
    {times : List T} {first last : T}
    (htimes : (times ++ [last]).Sublist (admitted key (ideal window limit [] calls)))
    (hlength : times.length = limit) (hfirst : first ∈ (times ++ [last]).head?) :
    window.recent last first = false := by
  obtain ⟨before, check, after, hsplit, rfl, haccepted, rfl, hsub⟩ := exists_of_sublist_admitted htimes
  have hcount := (ideal_accepted hsplit).mp haccepted
  rw [List.nil_append] at hcount
  have hordered : (before.map Check.time).Pairwise (· ≤ ·) := by
    have hcalls : ((before ++ check :: after).map Check.call).Pairwise fun call call' => call.2 ≤ call'.2 := by
      rw [← hsplit, ideal_calls]
      exact hsorted
    rw [List.pairwise_map] at hcalls ⊢
    exact (List.pairwise_append.mp hcalls).1
  have hpairwise : times.Pairwise (· ≤ ·) :=
    hordered.sublist (hsub.trans (List.filter_sublist.map Check.time))
  by_contra hrecent
  have hall : ∀ time ∈ times, window.recent check.time time = true := by
    cases times with
    | nil => simp
    | cons time rest =>
        obtain rfl : time = first := by simpa using hfirst
        have hle := (List.pairwise_cons.mp hpairwise).1
        have hself : window.recent check.time time = true := by simpa using hrecent
        intro time' htime'
        rcases List.mem_cons.mp htime' with rfl | htime'
        · exact hself
        · exact window.outlasts (hle time' htime') hself
  have hfilter := hsub.filter (window.recent check.time)
  rw [List.filter_eq_self.mpr hall] at hfilter
  have := hfilter.length_le
  omega

-- No stretch of time over which a hit goes on counting holds more than `limit`.
theorem ideal_window (hsorted : calls.Pairwise fun call call' => call.2 ≤ call'.2) {key : K}
    {times : List T} {start : T} (htimes : times.Sublist (admitted key (ideal window limit [] calls)))
    (hstart : ∀ time ∈ times, start ≤ time ∧ window.recent time start = true) : times.length ≤ limit := by
  by_contra hlong
  -- the first `limit + 1` of them are too close together
  have hlength : (times.take (limit + 1)).length = limit + 1 := by
    rw [List.length_take]
    omega
  have hne : times.take (limit + 1) ≠ [] := fun h => by simp [h] at hlength
  obtain ⟨before, last, hsplit⟩ : ∃ before last, times.take (limit + 1) = before ++ [last] :=
    ⟨_, _, (List.dropLast_append_getLast hne).symm⟩
  obtain ⟨first, hfirst⟩ : ∃ first, first ∈ (before ++ [last]).head? := by
    cases before <;> simp
  have hmem {time : T} (h : time ∈ before ++ [last]) : time ∈ times :=
    List.mem_of_mem_take (hsplit ▸ h)
  have hspan := ideal_span hsorted ((hsplit ▸ List.take_sublist _ _ : (before ++ [last]).Sublist times).trans
    htimes) (by simpa [hsplit] using hlength) hfirst
  have hfirst' := (hstart first (hmem (List.mem_of_mem_head? hfirst))).1
  have hlast := (hstart last (hmem (by simp))).2
  rw [window.outlasts hfirst' hlast] at hspan
  cases hspan

-- The decisions on one key are those of a limiter that is used for it alone.
theorem ideal_filter {key : K} : (ideal window limit history calls).filter (fun check => check.key = key) =
    ideal window limit (history.filter fun check => check.key = key)
      (calls.filter fun call => call.1 = key) := by
  induction calls generalizing history with
  | nil => rfl
  | cons call calls ih =>
      obtain ⟨key', now⟩ := call
      by_cases hkey : key' = key
      · subst hkey
        simp [ideal, ih, admitted_filter]
      · simp [ideal, ih, hkey]

end Throttle
