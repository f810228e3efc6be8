import BridgeOfHope.Process.Program
import Mathlib.Data.List.Perm.Basic
import Mathlib.Logic.Relation

namespace Process

-- What the programs share, and what the environment may answer. `enabled`
-- sees the private state of every process, so an answer can depend on what
-- the others hold. An operation with no enabled answer waits.
structure System (Op : Type) (Ans : Op → Type) (ε Loc Shared Req Out : Type) extends
    Client Op Ans Loc where
  start : Req → Prog Op Ans ε Out
  fresh : Loc
  close : Loc → Loc
  enabled : Shared → List Loc → Loc → (op : Op) → Ans op → Prop
  effect : Shared → Loc → (op : Op) → Ans op → Shared
  sound_of_enabled : ∀ shared locs loc op answer,
    enabled shared locs loc op answer → sound loc op answer

variable {Op : Type} {Ans : Op → Type} {ε Loc Shared Req Out : Type}

inductive Phase (Op : Type) (Ans : Op → Type) (ε Out : Type) : Type
  | running (rest : Prog Op Ans ε Out)
  | ended (out : Except ε Out)
  | died

structure Thread (Op : Type) (Ans : Op → Type) (ε Loc Req Out : Type) where
  req : Req
  loc : Loc
  phase : Phase Op Ans ε Out

-- What the thread has answered, when it came to an answer.
def Thread.answer (thread : Thread Op Ans ε Loc Req Out) : Option Out :=
  match thread.phase with
  | .ended (.ok out) => some out
  | _ => none

structure Pool (Op : Type) (Ans : Op → Type) (ε Loc Shared Req Out : Type) where
  shared : Shared
  threads : List (Thread Op Ans ε Loc Req Out)

inductive Move (Op : Type) (Ans : Op → Type) (Req : Type) : Type
  | arrive (req : Req)
  | act (i : Nat) (op : Op) (answer : Ans op)
  | finish (i : Nat)
  | crash (i : Nat)

namespace System

variable (S : System Op Ans ε Loc Shared Req Out)

inductive Step : Pool Op Ans ε Loc Shared Req Out → Move Op Ans Req →
    Pool Op Ans ε Loc Shared Req Out → Prop
  | arrive (shared : Shared) (threads : List (Thread Op Ans ε Loc Req Out)) (req : Req) :
      Step ⟨shared, threads⟩ (.arrive req)
        ⟨shared, threads ++ [⟨req, S.fresh, .running (S.start req)⟩]⟩
  | act {shared : Shared} {threads : List (Thread Op Ans ε Loc Req Out)} {i : Nat}
      {req : Req} {loc : Loc} {op : Op} {next : Ans op → Prog Op Ans ε Out} {answer : Ans op}
      (hthread : threads[i]? = some ⟨req, loc, .running (.call op next)⟩)
      (hanswer : S.enabled shared (threads.map Thread.loc) loc op answer) :
      Step ⟨shared, threads⟩ (.act i op answer)
        ⟨S.effect shared loc op answer,
          threads.set i ⟨req, S.update loc op answer, .running (next answer)⟩⟩
  | finish {shared : Shared} {threads : List (Thread Op Ans ε Loc Req Out)} {i : Nat}
      {req : Req} {loc : Loc} {value : Out}
      (hthread : threads[i]? = some ⟨req, loc, .running (.ret value)⟩) :
      Step ⟨shared, threads⟩ (.finish i)
        ⟨shared, threads.set i ⟨req, S.close loc, .ended (.ok value)⟩⟩
  | fail {shared : Shared} {threads : List (Thread Op Ans ε Loc Req Out)} {i : Nat}
      {req : Req} {loc : Loc} {error : ε}
      (hthread : threads[i]? = some ⟨req, loc, .running (.raise error)⟩) :
      Step ⟨shared, threads⟩ (.finish i)
        ⟨shared, threads.set i ⟨req, S.close loc, .ended (.error error)⟩⟩
  | crash {shared : Shared} {threads : List (Thread Op Ans ε Loc Req Out)} {i : Nat}
      {req : Req} {loc : Loc} {rest : Prog Op Ans ε Out}
      (hthread : threads[i]? = some ⟨req, loc, .running rest⟩) :
      Step ⟨shared, threads⟩ (.crash i) ⟨shared, threads.set i ⟨req, S.close loc, .died⟩⟩

-- Every order of moves that `allow` admits, from the first pool to the last.
def Run (allow : Pool Op Ans ε Loc Shared Req Out → Move Op Ans Req → Prop) :
    Pool Op Ans ε Loc Shared Req Out → Pool Op Ans ε Loc Shared Req Out → Prop :=
  Relation.ReflTransGen fun pool pool' => ∃ move, allow pool move ∧ S.Step pool move pool'

-- What is known of a thread whose program obeys `before` and `after`.
def Obedient (before : Req → Loc → Op → Prop) (after : Req → Loc → Except ε Out → Prop)
    (thread : Thread Op Ans ε Loc Req Out) : Prop :=
  match thread.phase with
  | .running rest => rest.Obeys S.toClient (before thread.req) (after thread.req) thread.loc
  | .ended out => ∃ loc, thread.loc = S.close loc ∧ after thread.req loc out
  | .died => ∃ loc, thread.loc = S.close loc

variable {S} {allow : Pool Op Ans ε Loc Shared Req Out → Move Op Ans Req → Prop}
  {pool pool' pool₀ : Pool Op Ans ε Loc Shared Req Out} {move : Move Op Ans Req}
  {before : Req → Loc → Op → Prop} {after : Req → Loc → Except ε Out → Prop}

theorem Run.invariant {I : Pool Op Ans ε Loc Shared Req Out → Prop} (hinit : I pool₀)
    (hstep : ∀ pool move pool', I pool → allow pool move → S.Step pool move pool' → I pool')
    (hrun : S.Run allow pool₀ pool) : I pool := by
  induction hrun with
  | refl => exact hinit
  | tail _ hlast ih =>
      obtain ⟨move, hallow, hmove⟩ := hlast
      exact hstep _ move _ ih hallow hmove

theorem Run.mono {allow' : Pool Op Ans ε Loc Shared Req Out → Move Op Ans Req → Prop}
    (h : ∀ pool move, allow pool move → allow' pool move) (hrun : S.Run allow pool₀ pool) :
    S.Run allow' pool₀ pool :=
  Relation.ReflTransGen.mono (fun _ _ ⟨move, ha, hs⟩ => ⟨move, h _ _ ha, hs⟩) _ _ hrun

-- A step touches one thread. Every other thread keeps its place and its state.
theorem forall_mem_set {P : Thread Op Ans ε Loc Req Out → Prop}
    {threads : List (Thread Op Ans ε Loc Req Out)} {i : Nat} {thread : Thread Op Ans ε Loc Req Out}
    (hall : ∀ t ∈ threads, P t) (hnew : P thread) : ∀ t ∈ threads.set i thread, P t := by
  intro t ht
  rcases List.mem_or_eq_of_mem_set ht with h | rfl
  · exact hall t h
  · exact hnew

-- What the threads have together, when one of them has got something more.
theorem flatMap_set_perm {β : Type} {f : Thread Op Ans ε Loc Req Out → List β}
    {threads : List (Thread Op Ans ε Loc Req Out)} {i : Nat} {t t' : Thread Op Ans ε Loc Req Out}
    (hi : threads[i]? = some t) {more : List β} (hf : f t' = more ++ f t) :
    ((threads.set i t').flatMap f).Perm (more ++ threads.flatMap f) := by
  obtain ⟨hlt, rfl⟩ := List.getElem?_eq_some_iff.mp hi
  have hnew := (List.set_perm_cons_eraseIdx hlt t').flatMap_right f
  have hold := (List.getElem_cons_eraseIdx_perm hlt).flatMap_right f
  rw [List.flatMap_cons] at hnew hold
  rw [hf, List.append_assoc] at hnew
  exact hnew.trans (hold.append_left more)

theorem Obedient.mono {before' : Req → Loc → Op → Prop} {after' : Req → Loc → Except ε Out → Prop}
    {thread : Thread Op Ans ε Loc Req Out} (h : S.Obedient before after thread)
    (hbefore : ∀ req loc op, before req loc op → before' req loc op)
    (hafter : ∀ req loc result, after req loc result → after' req loc result) :
    S.Obedient before' after' thread := by
  obtain ⟨req, loc, phase⟩ := thread
  cases phase with
  | running rest => exact Prog.Obeys.mono h (hbefore req) (hafter req)
  | ended out =>
      obtain ⟨loc', hloc, hout⟩ := h
      exact ⟨loc', hloc, hafter req loc' out hout⟩
  | died => exact h

theorem Step.obedient (hobey : ∀ req, (S.start req).Obeys S.toClient (before req) (after req) S.fresh)
    (hmove : S.Step pool move pool') (h : ∀ t ∈ pool.threads, S.Obedient before after t) :
    ∀ t ∈ pool'.threads, S.Obedient before after t := by
  cases hmove with
  | arrive shared threads req =>
      intro t ht
      rcases List.mem_append.mp ht with ht | ht
      · exact h t ht
      · rw [List.mem_singleton.mp ht]
        exact hobey req
  | act hthread hanswer =>
      have hrest := h _ (List.mem_of_getElem? hthread)
      exact forall_mem_set h (hrest.2 _ (S.sound_of_enabled _ _ _ _ _ hanswer))
  | finish hthread =>
      have hrest := h _ (List.mem_of_getElem? hthread)
      exact forall_mem_set h ⟨_, rfl, hrest⟩
  | fail hthread =>
      have hrest := h _ (List.mem_of_getElem? hthread)
      exact forall_mem_set h ⟨_, rfl, hrest⟩
  | crash hthread => exact forall_mem_set h ⟨_, rfl⟩

-- Thread `t` stands at place `i` and issues `op` next.
def Issues (pool : Pool Op Ans ε Loc Shared Req Out) (i : Nat)
    (t : Thread Op Ans ε Loc Req Out) (op : Op) : Prop :=
  pool.threads[i]? = some t ∧ ∃ next, t.phase = .running (.call op next)

theorem Obedient.issued {t : Thread Op Ans ε Loc Req Out} (h : S.Obedient before after t) {i : Nat} {op : Op}
    (hissues : Issues pool i t op) : before t.req t.loc op := by
  obtain ⟨-, next, hphase⟩ := hissues
  unfold Obedient at h
  rw [hphase] at h
  exact h.1

-- A thread dies of a crash only.
theorem Step.alive {P : Req → Prop} (hmove : S.Step pool move pool')
    (hcrash : ∀ i, move = .crash i → ∀ t ∈ pool.threads[i]?, ¬ P t.req)
    (h : ∀ t ∈ pool.threads, P t.req → t.phase ≠ .died) : ∀ t ∈ pool'.threads, P t.req → t.phase ≠ .died := by
  cases hmove with
  | arrive shared threads req =>
      intro t ht hreq
      rcases List.mem_append.mp ht with ht | ht
      · exact h t ht hreq
      · rw [List.mem_singleton.mp ht]
        simp
  | @crash _ _ i req loc rest hthread =>
      intro t ht hreq
      rcases List.mem_or_eq_of_mem_set ht with hold | rfl
      · exact h t hold hreq
      · exact absurd hreq (hcrash i rfl ⟨req, loc, .running rest⟩ hthread)
  | act => exact forall_mem_set h (by simp)
  | finish => exact forall_mem_set h (by simp)
  | fail => exact forall_mem_set h (by simp)

-- A property of one thread and of what is shared. It has to survive the
-- thread's own operations, those of the others, and the end of the thread.
theorem Step.forall_threads {P : Shared → Req → Loc → Prop} (hmove : S.Step pool move pool')
    (hobey : ∀ t ∈ pool.threads, S.Obedient before after t)
    (hfresh : ∀ req, move = .arrive req → P pool.shared req S.fresh)
    (hclose : ∀ req loc, P pool.shared req loc → P pool.shared req (S.close loc))
    (hown : ∀ i t op answer, move = .act i op answer → Issues pool i t op →
      before t.req t.loc op → S.enabled pool.shared (pool.threads.map Thread.loc) t.loc op answer →
      P pool.shared t.req t.loc →
      P (S.effect pool.shared t.loc op answer) t.req (S.update t.loc op answer))
    (hother : ∀ i t op answer req loc, move = .act i op answer → Issues pool i t op →
      before t.req t.loc op → P pool.shared req loc →
      P (S.effect pool.shared t.loc op answer) req loc)
    (h : ∀ t ∈ pool.threads, P pool.shared t.req t.loc) :
    ∀ t ∈ pool'.threads, P pool'.shared t.req t.loc := by
  cases hmove with
  | arrive shared threads req =>
      intro t ht
      rcases List.mem_append.mp ht with ht | ht
      · exact h t ht
      · rw [List.mem_singleton.mp ht]
        exact hfresh req rfl
  | act hthread hanswer =>
      have hmem := List.mem_of_getElem? hthread
      have hrest := hobey _ hmem
      exact forall_mem_set
        (fun t ht => hother _ _ _ _ _ _ rfl ⟨hthread, _, rfl⟩ hrest.1 (h t ht))
        (hown _ _ _ _ rfl ⟨hthread, _, rfl⟩ hrest.1 hanswer (h _ hmem))
  | finish hthread => exact forall_mem_set h (hclose _ _ (h _ (List.mem_of_getElem? hthread)))
  | fail hthread => exact forall_mem_set h (hclose _ _ (h _ (List.mem_of_getElem? hthread)))
  | crash hthread => exact forall_mem_set h (hclose _ _ (h _ (List.mem_of_getElem? hthread)))

-- A thread stays where it is, and its state moves on as `R` says.
theorem Step.get_later {R : Loc → Loc → Prop} (hmove : S.Step pool move pool')
    (hrefl : ∀ loc, R loc loc) (hclose : ∀ loc, R loc (S.close loc))
    (hupdate : ∀ i t op answer, move = .act i op answer → Issues pool i t op →
      R t.loc (S.update t.loc op answer)) {k : Nat}
    {t : Thread Op Ans ε Loc Req Out} (ht : pool.threads[k]? = some t) :
    ∃ t', pool'.threads[k]? = some t' ∧ t'.req = t.req ∧ R t.loc t'.loc := by
  have hset {threads : List (Thread Op Ans ε Loc Req Out)} {i : Nat}
      {old new : Thread Op Ans ε Loc Req Out} (hi : threads[i]? = some old)
      (hk : threads[k]? = some t) (hreq : new.req = old.req) (hloc : R old.loc new.loc) :
      ∃ t', (threads.set i new)[k]? = some t' ∧ t'.req = t.req ∧ R t.loc t'.loc := by
    by_cases hik : i = k
    · subst hik
      obtain ⟨hlt, -⟩ := List.getElem?_eq_some_iff.mp hi
      cases hi.symm.trans hk
      exact ⟨new, List.getElem?_set_self hlt, hreq, hloc⟩
    · exact ⟨t, by rw [List.getElem?_set_ne hik, hk], rfl, hrefl _⟩
  cases hmove with
  | arrive shared threads req =>
      refine ⟨t, ?_, rfl, hrefl _⟩
      rw [List.getElem?_append_left (List.getElem?_eq_some_iff.mp ht).1]
      exact ht
  | act hthread hanswer => exact hset hthread ht rfl (hupdate _ _ _ _ rfl ⟨hthread, _, rfl⟩)
  | finish hthread => exact hset hthread ht rfl (hclose _)
  | fail hthread => exact hset hthread ht rfl (hclose _)
  | crash hthread => exact hset hthread ht rfl (hclose _)

-- Where a thread of the next pool comes from: it has just arrived, it did not
-- move, it got an answer, or it came to its end.
inductive Origin (S : System Op Ans ε Loc Shared Req Out) (pool : Pool Op Ans ε Loc Shared Req Out)
    (move : Move Op Ans Req) (k : Nat) (t' : Thread Op Ans ε Loc Req Out) : Prop
  | fresh {req : Req} (hmove : move = .arrive req) (hloc : t'.loc = S.fresh)
  | still (hthread : pool.threads[k]? = some t')
  | acted {t : Thread Op Ans ε Loc Req Out} {op : Op} {answer : Ans op} (hmove : move = .act k op answer)
      (hissues : Issues pool k t op)
      (hanswer : S.enabled pool.shared (pool.threads.map Thread.loc) t.loc op answer) (hreq : t'.req = t.req)
      (hloc : t'.loc = S.update t.loc op answer)
  | finished {t : Thread Op Ans ε Loc Req Out} (hthread : pool.threads[k]? = some t) (hreq : t'.req = t.req)
      (hloc : t'.loc = S.close t.loc) (hphase : ∀ rest, t'.phase ≠ .running rest)

theorem Step.origin (hmove : S.Step pool move pool') {k : Nat} {t' : Thread Op Ans ε Loc Req Out}
    (hk : pool'.threads[k]? = some t') : Origin S pool move k t' := by
  have hset {threads : List (Thread Op Ans ε Loc Req Out)} {i : Nat} {new : Thread Op Ans ε Loc Req Out}
      (hk : (threads.set i new)[k]? = some t') : i ≠ k ∧ threads[k]? = some t' ∨ i = k ∧ new = t' := by
    by_cases hik : i = k
    · subst hik
      obtain ⟨hlt, hget⟩ := List.getElem?_eq_some_iff.mp hk
      rw [List.getElem_set_self] at hget
      exact .inr ⟨rfl, hget⟩
    · rw [List.getElem?_set_ne hik] at hk
      exact .inl ⟨hik, hk⟩
  cases hmove with
  | arrive shared threads req =>
      rw [List.getElem?_append] at hk
      split at hk
      · exact .still hk
      · have hmem := List.mem_singleton.mp (List.mem_of_getElem? hk)
        exact .fresh rfl (by rw [hmem])
  | act hthread hanswer =>
      rcases hset hk with ⟨-, hstill⟩ | ⟨rfl, rfl⟩
      · exact .still hstill
      · exact .acted rfl ⟨hthread, _, rfl⟩ hanswer rfl rfl
  | finish hthread =>
      rcases hset hk with ⟨-, hstill⟩ | ⟨rfl, rfl⟩
      · exact .still hstill
      · exact .finished hthread rfl rfl nofun
  | fail hthread =>
      rcases hset hk with ⟨-, hstill⟩ | ⟨rfl, rfl⟩
      · exact .still hstill
      · exact .finished hthread rfl rfl nofun
  | crash hthread =>
      rcases hset hk with ⟨-, hstill⟩ | ⟨rfl, rfl⟩
      · exact .still hstill
      · exact .finished hthread rfl rfl nofun

-- A property of every two threads. The state of the acting thread is held
-- against that of each other one.
theorem Step.pairwise {R : Loc → Loc → Prop} (hsymm : ∀ {loc loc'}, R loc loc' → R loc' loc)
    (hmove : S.Step pool move pool')
    (hfresh : ∀ req, move = .arrive req → ∀ t ∈ pool.threads, R t.loc S.fresh)
    (hclose : ∀ loc loc', R loc loc' → R (S.close loc) loc')
    (hown : ∀ i t op answer, move = .act i op answer → Issues pool i t op →
      S.enabled pool.shared (pool.threads.map Thread.loc) t.loc op answer →
      ∀ t' ∈ pool.threads.eraseIdx i, R t.loc t'.loc → R (S.update t.loc op answer) t'.loc)
    (h : (pool.threads.map Thread.loc).Pairwise R) : (pool'.threads.map Thread.loc).Pairwise R := by
  have hset {threads : List (Thread Op Ans ε Loc Req Out)} {i : Nat}
      {t t' : Thread Op Ans ε Loc Req Out} (hi : threads[i]? = some t)
      (hall : (threads.map Thread.loc).Pairwise R)
      (hnew : ∀ u ∈ threads.eraseIdx i, R t.loc u.loc → R t'.loc u.loc) :
      ((threads.set i t').map Thread.loc).Pairwise R := by
    obtain ⟨hlt, hget⟩ := List.getElem?_eq_some_iff.mp hi
    have hold : threads.Perm (t :: threads.eraseIdx i) := hget ▸ (List.getElem_cons_eraseIdx_perm hlt).symm
    rw [(hold.map _).pairwise_iff hsymm, List.map_cons, List.pairwise_cons] at hall
    rw [((List.set_perm_cons_eraseIdx hlt t').map _).pairwise_iff hsymm, List.map_cons,
      List.pairwise_cons]
    refine ⟨fun loc hloc => ?_, hall.2⟩
    obtain ⟨u, hu, rfl⟩ := List.mem_map.mp hloc
    exact hnew u hu (hall.1 u.loc hloc)
  cases hmove with
  | arrive shared threads req =>
      rw [List.map_append, List.pairwise_append]
      refine ⟨h, List.pairwise_singleton R _, fun loc hloc fresh hmem => ?_⟩
      obtain ⟨t, ht, rfl⟩ := List.mem_map.mp hloc
      rw [List.mem_singleton.mp hmem]
      exact hfresh req rfl t ht
  | act hthread hanswer => exact hset hthread h (hown _ _ _ _ rfl ⟨hthread, _, rfl⟩ hanswer)
  | finish hthread => exact hset hthread h fun u _ => hclose _ u.loc
  | fail hthread => exact hset hthread h fun u _ => hclose _ u.loc
  | crash hthread => exact hset hthread h fun u _ => hclose _ u.loc

theorem forall_of_pairwise {R : Loc → Loc → Prop} (hsymm : ∀ {loc loc'}, R loc loc' → R loc' loc)
    {threads : List (Thread Op Ans ε Loc Req Out)} (h : (threads.map Thread.loc).Pairwise R) {i k : Nat}
    {t u : Thread Op Ans ε Loc Req Out} (hi : threads[i]? = some t) (hk : threads[k]? = some u) (hne : i ≠ k) :
    R t.loc u.loc := by
  obtain ⟨hlt, rfl⟩ := List.getElem?_eq_some_iff.mp hi
  obtain ⟨hlt', rfl⟩ := List.getElem?_eq_some_iff.mp hk
  have hpairs := List.pairwise_iff_getElem.mp (List.pairwise_map.mp h)
  by_cases hik : i < k
  · exact hpairs i k hlt hlt' hik
  · exact hsymm (hpairs k i hlt' hlt (by omega))

-- The rule for invariants of interleaved runs. The programs are examined once,
-- alone; a step of the pool may then use what the moving thread obeys.
theorem Run.invariant_of_obeys {I : Pool Op Ans ε Loc Shared Req Out → Prop}
    (hobey : ∀ req, (S.start req).Obeys S.toClient (before req) (after req) S.fresh)
    (hinit : I pool₀) (hthreads : ∀ t ∈ pool₀.threads, S.Obedient before after t)
    (hstep : ∀ pool move pool', I pool → (∀ t ∈ pool.threads, S.Obedient before after t) →
      allow pool move → S.Step pool move pool' → I pool')
    (hrun : S.Run allow pool₀ pool) :
    I pool ∧ ∀ t ∈ pool.threads, S.Obedient before after t :=
  hrun.invariant (I := fun pool => I pool ∧ ∀ t ∈ pool.threads, S.Obedient before after t)
    ⟨hinit, hthreads⟩ fun _ _ _ hI hallow hmove =>
      ⟨hstep _ _ _ hI.1 hI.2 hallow hmove, hmove.obedient hobey hI.2⟩

end System

end Process
