import BridgeOfHope.Admin.Sessions

namespace BridgeOfHope.Admin

open Process Throttle

-- How often a login may be tried.

-- The times at which the limiter let a request through on the key.
def Event.passed (key : String) : Event → Option ℤ
  | ⟨.check key', (time, true)⟩ => if key' = key then some (time : ℤ) else none
  | _ => none

def passes (key : String) (pool : AdminPool) : List ℤ :=
  pool.threads.flatMap fun t => t.loc.filterMap (Event.passed key)

-- The login looks its account up, with which the checks of the credentials begin.
def Event.looksUp : Event → Bool
  | ⟨.adminByEmail _, _⟩ => true
  | _ => false

-- The limiter let the login through on the key within that stretch of time, and it
-- went on to its look-up. The look-up is awaited, so it may come later than that.
def attempts (key : String) (start w : ℤ) (t : AdminThread) : Bool :=
  t.loc.any Event.looksUp &&
    (t.loc.filterMap (Event.passed key)).any fun time => start ≤ time && time < start + w

-- The limiter has decided as the history says.
structure Decides (limiter : RateLimiter ℤ) (clock : Time) (history : List (Check String ℤ)) : Prop where
  agree : Agree (RateLimiter.slide limiter.window) limiter.hits history
  ideal : history = ideal (RateLimiter.slide limiter.window) limiter.maxAttempts [] (history.map Check.call)
  sorted : (history.map Check.call).Pairwise fun call call' => call.2 ≤ call'.2
  past : ∀ check ∈ history, check.time ≤ clock

theorem Decides.check {limiter : RateLimiter ℤ} {clock : Time} {history : List (Check String ℤ)}
    (h : Decides limiter clock history) (key : String) :
    Decides (limiter.check key clock).2 clock (history ++ [⟨key, clock, (limiter.check key clock).1⟩]) := by
  rw [RateLimiter.check_eq]
  have hkept : kept (RateLimiter.slide limiter.window) limiter.hits key clock =
      (admitted key history).filter ((RateLimiter.slide limiter.window).recent clock) :=
    h.agree key clock h.past
  refine ⟨h.agree.step, ?_, ?_, ?_⟩
  · rw [List.map_append, ideal_append, ← h.ideal]
    simp only [List.nil_append, List.map_cons, List.map_nil, Check.call, Throttle.ideal, hkept]
  · rw [List.map_append, List.pairwise_append]
    refine ⟨h.sorted, List.pairwise_singleton _ _, fun call hcall call' hcall' => ?_⟩
    obtain ⟨check, hcheck, rfl⟩ := List.mem_map.mp hcall
    rw [List.map_singleton, List.mem_singleton] at hcall'
    rw [hcall']
    exact h.past check hcheck
  · intro check hcheck
    rcases List.mem_append.mp hcheck with hold | hnew
    · exact h.past check hold
    · rw [List.mem_singleton.mp hnew]

section Runs

variable {world : World} {pool : AdminPool} {m : ℕ} {w : ℤ}

theorem effect_limiter {op : Op} (reply : Reply op) (h : ∀ key, op ≠ .check key) :
    (effect world op reply).limiter = world.limiter := by
  cases op with
  | check key => exact absurd rfl (h key)
  | commit stmt => cases reply <;> rfl
  | _ => rfl

theorem passed_eq_none {op : Op} {ans : Ans op} (h : ∀ key, op ≠ .check key) (key : String) :
    Event.passed key ⟨op, ans⟩ = none := by
  cases op with
  | check key => exact absurd rfl (h key)
  | _ => rfl

theorem passed_check {key key' : String} {time : Time} {accepted : Bool} :
    [⟨.check key', (time, accepted)⟩].filterMap (Event.passed key) =
      admitted key [(⟨key', time, accepted⟩ : Check String ℤ)] := by
  rw [admitted_singleton]
  unfold Event.passed
  by_cases hkey : key' = key <;> cases accepted <;> simp [hkey]

-- The passes of the requests are the accepted calls of one history.
def Throttled (m : ℕ) (w : ℤ) (pool : AdminPool) : Prop :=
  pool.shared.limiter.maxAttempts = m ∧ pool.shared.limiter.window = w ∧
    ∃ history, Decides pool.shared.limiter pool.shared.clock history ∧
      ∀ key, (passes key pool).Perm (admitted key history)

theorem Throttled.initial (h : world.limiter = ⟨m, w, fun _ => []⟩) : Throttled m w ⟨world, []⟩ := by
  refine ⟨by rw [h], by rw [h], [], ?_, fun _ => List.Perm.refl _⟩
  rw [h]
  exact ⟨.initial, rfl, .nil, by simp⟩

-- Whoever passes is counted.
theorem Throttled.count_le (h : Throttled m w pool) (key : String) (start : ℤ) :
    (pool.threads.filter (attempts key start w)).length ≤ m := by
  obtain ⟨hm, hw, history, hdecides, hpasses⟩ := h
  have hpassed : (pool.threads.filter (attempts key start w)).length ≤
      ((passes key pool).filter fun time => start ≤ time && time < start + w).length := by
    unfold passes
    induction pool.threads with
    | nil => exact le_rfl
    | cons t threads ih =>
        rw [List.flatMap_cons, List.filter_append, List.length_append]
        by_cases ht : attempts key start w t = true
        · obtain ⟨time, htime, hwithin⟩ := List.any_eq_true.mp (Bool.and_eq_true_iff.mp ht).2
          have hpos : 0 < ((t.loc.filterMap (Event.passed key)).filter fun time =>
              start ≤ time && time < start + w).length :=
            List.length_pos_of_mem (List.mem_filter.mpr ⟨htime, hwithin⟩)
          rw [List.filter_cons_of_pos ht, List.length_cons]
          omega
        · rw [List.filter_cons_of_neg ht]
          omega
  rw [((hpasses key).filter _).length_eq] at hpassed
  have hsub : ((admitted key history).filter fun time => start ≤ time && time < start + w).Sublist
      (admitted key (ideal (RateLimiter.slide w) m [] (history.map Check.call))) := by
    rw [← hm, ← hw, ← hdecides.ideal]
    exact List.filter_sublist
  have hwithin : ∀ time ∈ (admitted key history).filter fun time => start ≤ time && time < start + w,
      start ≤ time ∧ (RateLimiter.slide w).recent time start = true := by
    intro time htime
    have hbounds := (List.mem_filter.mp htime).2
    simp only [Bool.and_eq_true, decide_eq_true_eq] at hbounds
    simp only [RateLimiter.slide, decide_eq_true_eq]
    omega
  exact hpassed.trans (ideal_window hdecides.sorted hsub hwithin)

-- What a thread does shows up once.
theorem passes_set {shared shared' : World} {threads : List AdminThread} {i : ℕ} {t t' : AdminThread}
    (hi : threads[i]? = some t) (events : List Event) (hloc : t'.loc = events ++ t.loc) (key : String) :
    (passes key ⟨shared', threads.set i t'⟩).Perm
      (events.filterMap (Event.passed key) ++ passes key ⟨shared, threads⟩) := by
  refine System.flatMap_set_perm hi ?_
  rw [hloc, List.filterMap_append]

variable [Platform]

-- The login has been let through on its own key.
def Cleared (request : Request) (s : Session) : Prop :=
  ∃ client body time, request.endpoint = .login client body ∧
    ⟨.check (limiterKey (client.getD "unknown") body.email), (time, true)⟩ ∈ s

theorem Cleared.cons {request : Request} {s : Session} {e : Event} (h : Cleared request s) :
    Cleared request (e :: s) := by
  obtain ⟨client, body, time, hrequest, hmem⟩ := h
  exact ⟨client, body, time, hrequest, List.mem_cons_of_mem _ hmem⟩

variable [Credentials]

variable {pool' : AdminPool} {move : AdminMove}

theorem Throttled.step (h : Throttled m w pool) (hmove : service.Step pool move pool') :
    Throttled m w pool' := by
  obtain ⟨hm, hw, history, hdecides, hpasses⟩ := h
  -- a step that asks the limiter nothing
  have hquiet {threads : List AdminThread} {shared : World} (hlimiter : shared.limiter = pool.shared.limiter)
      (hclock : pool.shared.clock ≤ shared.clock)
      (hsame : ∀ key, (passes key ⟨shared, threads⟩).Perm (passes key pool)) :
      Throttled m w ⟨shared, threads⟩ := by
    refine ⟨?_, ?_, history, ⟨?_, ?_, hdecides.sorted, fun check hcheck => ?_⟩, fun key => ?_⟩
    · exact hlimiter ▸ hm
    · exact hlimiter ▸ hw
    · exact hlimiter ▸ hdecides.agree
    · exact hlimiter ▸ hdecides.ideal
    · exact (hdecides.past check hcheck).trans (Int.ofNat_le.mpr hclock)
    · exact (hsame key).trans (hpasses key)
  cases hmove with
  | arrive shared threads request =>
      refine hquiet rfl le_rfl fun key => List.Perm.of_eq ?_
      simp [passes, service]
  | finish hthread => exact hquiet rfl le_rfl (passes_set hthread [] rfl)
  | fail hthread => exact hquiet rfl le_rfl (passes_set hthread [] rfl)
  | crash hthread => exact hquiet rfl le_rfl (passes_set hthread [] rfl)
  | @act shared threads i request s op next ans hthread hanswer =>
      obtain ⟨time, reply⟩ := ans
      obtain ⟨rfl, hpossible⟩ := hanswer
      have hevent (key : String) : (passes key ⟨effect shared op reply, threads.set i ⟨request,
          ⟨op, (shared.clock, reply)⟩ :: s, .running (next (shared.clock, reply))⟩⟩).Perm
            ([⟨op, (shared.clock, reply)⟩].filterMap (Event.passed key) ++ passes key ⟨shared, threads⟩) :=
        passes_set hthread [_] rfl key
      by_cases hop : ∃ key, op = .check key
      · obtain ⟨key, rfl⟩ := hop
        cases hpossible
        have hlimiter : (shared.limiter.check key shared.clock).2.maxAttempts = m ∧
            (shared.limiter.check key shared.clock).2.window = w := by
          rw [RateLimiter.check_eq]
          exact ⟨hm, hw⟩
        refine ⟨hlimiter.1, hlimiter.2, _, hdecides.check key, fun key' => (hevent key').trans ?_⟩
        rw [passed_check, admitted_append]
        exact (List.Perm.append_left _ (hpasses key')).trans List.perm_append_comm
      · have hother (key : String) (h : op = .check key) : False := hop ⟨key, h⟩
        refine hquiet (effect_limiter reply hother) (clock_le_effect op reply) fun key => (hevent key).trans ?_
        rw [List.filterMap_cons_none (passed_eq_none hother key)]
        rfl

-- Nobody looks an account up without that.
theorem Permits.cleared {request : Request} {s : Session} {op : Op} {ans : Ans op}
    (h : Permits request s op) (hop : Event.looksUp ⟨op, ans⟩ = true) : Cleared request s := by
  cases op with
  | adminByEmail email =>
      obtain ⟨client, body, time, hrequest, -, rfl⟩ := h
      exact ⟨client, body, time, hrequest, List.mem_singleton_self _⟩
  | _ => cases hop

theorem throttled_run {allow : AdminPool → AdminMove → Prop} (hworld : world.limiter = ⟨m, w, fun _ => []⟩)
    (hrun : service.Run allow ⟨world, []⟩ pool) : Throttled m w pool ∧
      ∀ t ∈ pool.threads, t.loc.any Event.looksUp = true → Cleared t.req t.loc := by
  have hinvariant := hrun.invariant_of_obeys (I := fun pool => Throttled m w pool ∧
    ∀ t ∈ pool.threads, t.loc.any Event.looksUp = true → Cleared t.req t.loc)
    handler_obeys ⟨.initial hworld, by simp⟩ (by simp)
    fun pool move pool' hpool hproper _ hmove => ⟨hpool.1.step hmove, ?_⟩
  · exact hinvariant.1
  · refine hmove.forall_threads hproper
      (P := fun _ request (s : Session) => s.any Event.looksUp = true → Cleared request s)
      (fun _ _ hnone => by cases hnone) (fun _ _ hs => hs) ?_ (fun _ _ _ _ _ _ _ _ _ hs => hs) hpool.2
    rintro i t op ans - - hpermits - hs hlooks
    cases hop : Event.looksUp ⟨op, ans⟩ with
    | true => exact (hpermits.cleared hop).cons
    | false =>
        have hany : (Event.looksUp ⟨op, ans⟩ || t.loc.any Event.looksUp) = true := hlooks
        rw [hop, Bool.false_or] at hany
        exact (hs hany).cons

-- The limiter slides, whatever the calls, and so do the attempts of the logins that
-- it lets through.
theorem rate_limiter_slides {T : Type} [AddCommGroup T] [LinearOrder T] [IsOrderedAddMonoid T] {window : T}
    {calls : List (String × T)} (hsorted : calls.Pairwise fun call call' => call.2 ≤ call'.2)
    {allow : AdminPool → AdminMove → Prop} (hworld : world.limiter = ⟨m, w, fun _ => []⟩)
    (hrun : service.Run allow ⟨world, []⟩ pool) :
    RateLimiter.Slides m window calls ((RateLimiter.mk m window fun _ => []).checkAll calls).1 ∧
    (∀ key, (((RateLimiter.mk m window fun _ => []).checkAll calls).2.hits key).length ≤ m) ∧
    (∀ t ∈ pool.threads, t.loc.any Event.looksUp = true → Cleared t.req t.loc) ∧
    ∀ key start, (pool.threads.filter (attempts key start w)).length ≤ m := by
  obtain ⟨hthrottled, hcleared⟩ := throttled_run hworld hrun
  refine ⟨RateLimiter.slides hsorted, RateLimiter.checkAll_snd fun _ => ?_, hcleared, hthrottled.count_le⟩
  exact Nat.zero_le m

end Runs

open BridgeOfHope.Admin.Trial
open scoped BridgeOfHope.Trial

theorem rate_limiter_slides_twoLogins : ∃ pool, service.Run (fun _ _ => True) ⟨Trial.world, []⟩ pool ∧
    (pool.threads.filter (attempts "192.0.2.7:office@example.org" Trial.world.clock
      (300 * 1000000))).length = 2 ∧
    (pool.threads.filter (attempts "192.0.2.7:office@example.org" Trial.world.clock
      (300 * 1000000))).length ≤ 5 ∧
    RateLimiter.Slides 5 (300 : ℤ) [("192.0.2.7:office@example.org", 0), ("192.0.2.7:office@example.org", 300)]
      ((RateLimiter.mk 5 (300 : ℤ) fun _ => []).checkAll
        [("192.0.2.7:office@example.org", 0), ("192.0.2.7:office@example.org", 300)]).1 := by
  obtain ⟨pool, hrun, htwo⟩ := exists_run
    (fun pool => (pool.threads.filter
      (attempts "192.0.2.7:office@example.org" Trial.world.clock (300 * 1000000))).length = 2)
    (serve 0 6 loginRequest ++ serve 1 6 loginRequest) (by decide +kernel)
  have hsorted : [("192.0.2.7:office@example.org", (0 : ℤ)), ("192.0.2.7:office@example.org", 300)].Pairwise
      fun call call' => call.2 ≤ call'.2 := by decide
  obtain ⟨hslides, -, -, hcount⟩ := rate_limiter_slides hsorted rfl hrun
  exact ⟨pool, hrun, htwo, hcount _ _, hslides⟩

-- The moment of the look-up, at which the credentials are verified.
def Event.lookedUp : Event → Option ℤ
  | ⟨.adminByEmail _, (time, _)⟩ => some time
  | _ => none

-- The login passed on the key at some time, and its credentials were verified
-- within that stretch of time.
def verifiesIn (key : String) (start w : ℤ) (t : AdminThread) : Bool :=
  !(t.loc.filterMap (Event.passed key)).isEmpty &&
    (t.loc.filterMap Event.lookedUp).any fun time => start ≤ time && time < start + w

-- The look-up of the first login is held up until five others pass the limiter.
def heldUpLookup : List AdminCue :=
  [.arrive loginRequest] ++ turns 0 1 ++ serve 1 1 ⟨settings, .pass (300 * 1000000)⟩ ++
    (List.range 5).flatMap (fun n => .arrive loginRequest :: turns (n + 2) 2) ++ turns 0 1

theorem six_verifications_in_a_window : ∃ pool, service.Run (fun _ _ => True) ⟨Trial.world, []⟩ pool ∧
    5 < (pool.threads.filter (verifiesIn "192.0.2.7:office@example.org"
      (Trial.world.clock + 300 * 1000000) (300 * 1000000))).length :=
  exists_run _ heldUpLookup (by decide +kernel)

end BridgeOfHope.Admin
