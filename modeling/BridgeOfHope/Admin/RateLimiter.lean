import BridgeOfHope.Throttle.Window
import Mathlib.Algebra.Order.Group.Defs
import Mathlib.Algebra.Order.Group.Int

namespace BridgeOfHope.Admin

-- `_hits` is a `defaultdict(list)`: a key that was never used has no hits.
structure RateLimiter (T : Type) where
  maxAttempts : ℕ
  window : T
  hits : String → List T := fun _ => []

-- `RateLimiter()`: five attempts in 300 seconds, here in microseconds.
def loginRateLimiter : RateLimiter ℤ where
  maxAttempts := 5
  window := 300 * 1000000

namespace RateLimiter

variable {T : Type}

def check [Sub T] [LT T] [DecidableLT T] (limiter : RateLimiter T) (key : String) (now : T) :
    Bool × RateLimiter T :=
  let hits := (limiter.hits key).filter fun t => now - t < limiter.window
  if hits.length ≥ limiter.maxAttempts then
    (false, { limiter with hits := Function.update limiter.hits key hits })
  else (true, { limiter with hits := Function.update limiter.hits key (hits ++ [now]) })

-- One call after the other, each at its own time.
def checkAll [Sub T] [LT T] [DecidableLT T] (limiter : RateLimiter T) :
    List (String × T) → List (Throttle.Check String T) × RateLimiter T
  | [] => ([], limiter)
  | (key, now) :: calls =>
      let (accepted, limiter) := limiter.check key now
      let (checks, limiter) := limiter.checkAll calls
      (⟨key, now, accepted⟩ :: checks, limiter)

section Frame

variable [Sub T] [LT T] [DecidableLT T] {limiter limiter' : RateLimiter T} {key key' : String} {now : T}

@[simp] theorem check_maxAttempts : (limiter.check key now).2.maxAttempts = limiter.maxAttempts := by
  simp only [check]
  split <;> rfl

@[simp] theorem check_window : (limiter.check key now).2.window = limiter.window := by
  simp only [check]
  split <;> rfl

theorem check_hits_of_ne (h : key' ≠ key) : (limiter.check key now).2.hits key' = limiter.hits key' := by
  simp only [check]
  split <;> simp [Function.update_of_ne h]

-- A call depends on the hits of its own key.
theorem check_congr (hmax : limiter.maxAttempts = limiter'.maxAttempts)
    (hwindow : limiter.window = limiter'.window) (hhits : limiter.hits key = limiter'.hits key) :
    (limiter.check key now).1 = (limiter'.check key now).1 ∧
      (limiter.check key now).2.hits key = (limiter'.check key now).2.hits key := by
  simp only [check]
  rw [hmax, hwindow, hhits]
  split <;> simp

end Frame

section Order

variable [AddCommGroup T] [LinearOrder T] [IsOrderedAddMonoid T]

-- A hit counts until it is as old as the window.
def slide (w : T) : Throttle.Window T where
  recent now hit := now - hit < w
  expires hle h := by
    simp only [decide_eq_true_eq] at h ⊢
    exact (sub_le_sub_right hle _).trans_lt h
  outlasts hle h := by
    simp only [decide_eq_true_eq] at h ⊢
    exact (sub_le_sub_left hle _).trans_lt h

variable {limiter : RateLimiter T} {key : String} {now : T} {calls : List (String × T)}

theorem check_eq : limiter.check key now =
    (decide ((Throttle.kept (slide limiter.window) limiter.hits key now).length < limiter.maxAttempts),
      { limiter with hits :=
        Throttle.step (slide limiter.window) limiter.maxAttempts limiter.hits key now }) := by
  by_cases h : (Throttle.kept (slide limiter.window) limiter.hits key now).length < limiter.maxAttempts
  · have hge : ¬ ((limiter.hits key).filter fun t => now - t < limiter.window).length ≥
        limiter.maxAttempts := Nat.not_le.mpr h
    simp only [check, hge, if_false, Throttle.step, h, decide_true, if_true]
    rfl
  · have hge : ((limiter.hits key).filter fun t => now - t < limiter.window).length ≥
        limiter.maxAttempts := Nat.not_lt.mp h
    simp only [check, hge, if_true, Throttle.step, h, decide_false, if_false]
    rfl

theorem checkAll_fst : (limiter.checkAll calls).1 =
    Throttle.checks (slide limiter.window) limiter.maxAttempts limiter.hits calls := by
  induction calls generalizing limiter with
  | nil => rfl
  | cons call calls ih =>
      obtain ⟨key, now⟩ := call
      simp only [checkAll, check_eq, ih, Throttle.checks]

theorem checkAll_snd (h : ∀ key, (limiter.hits key).length ≤ limiter.maxAttempts) (key : String) :
    ((limiter.checkAll calls).2.hits key).length ≤ limiter.maxAttempts := by
  induction calls generalizing limiter with
  | nil => exact h key
  | cons call calls ih =>
      obtain ⟨key', now⟩ := call
      simp only [checkAll, check_eq]
      exact ih fun key => Throttle.length_step_le h

-- The limiter of the window sees every accepted call, however long ago.
structure Slides (m : ℕ) (w : T) (calls : List (String × T))
    (history : List (Throttle.Check String T)) : Prop where
  answers : history.map Throttle.Check.call = calls
  accepts : ∀ before check after, history = before ++ check :: after →
    (check.accepted = true ↔
      ((Throttle.admitted check.key before).filter fun time => check.time - time < w).length < m)
  spans : ∀ key times first last, (times ++ [last]).Sublist (Throttle.admitted key history) →
    times.length = m → first ∈ (times ++ [last]).head? → w ≤ last - first
  rejects : ∀ before check after, history = before ++ check :: after → check.accepted = false →
    ((RateLimiter.mk m w fun _ => []).checkAll ((before ++ after).map Throttle.Check.call)).1 = before ++ after
  separates : ∀ key, history.filter (fun check => check.key = key) =
    ((RateLimiter.mk m w fun _ => []).checkAll (calls.filter fun call => call.1 = key)).1

-- A fresh limiter decides as the one on paper.
theorem checkAll_ideal {m : ℕ} {w : T} (hsorted : calls.Pairwise fun call call' => call.2 ≤ call'.2) :
    ((RateLimiter.mk m w fun _ => []).checkAll calls).1 = Throttle.ideal (slide w) m [] calls := by
  rw [checkAll_fst]
  exact Throttle.checks_eq_ideal .initial hsorted (by simp)

theorem slides {m : ℕ} {w : T} (hsorted : calls.Pairwise fun call call' => call.2 ≤ call'.2) :
    Slides m w calls ((RateLimiter.mk m w fun _ => []).checkAll calls).1 := by
  rw [checkAll_ideal hsorted]
  have hcalls : (Throttle.ideal (slide w) m [] calls).map Throttle.Check.call = calls := Throttle.ideal_calls
  refine ⟨hcalls, fun before check after hsplit => ?_, fun key times first last htimes hlength hfirst => ?_,
    fun before check after hsplit hrejected => ?_, fun key => ?_⟩
  · exact Throttle.ideal_accepted hsplit
  · have hold : (slide w).recent last first = false := Throttle.ideal_span hsorted htimes hlength hfirst
    simpa [slide] using hold
  · have hshort : ((before ++ after).map Throttle.Check.call).Sublist calls := by
      rw [← hcalls, hsplit]
      exact ((List.sublist_cons_self check after).append_left before).map _
    rw [checkAll_ideal (hsorted.sublist hshort)]
    exact Throttle.ideal_without_rejected hsplit hrejected
  · rw [checkAll_ideal (hsorted.sublist List.filter_sublist)]
    exact Throttle.ideal_filter

end Order

end RateLimiter

end BridgeOfHope.Admin
