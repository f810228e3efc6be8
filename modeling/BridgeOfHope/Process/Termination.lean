import BridgeOfHope.Process.Pool
import Mathlib.Logic.Hydra

namespace Process

variable {Op : Type} {Ans : Op → Type} {ε Loc Shared Req Out : Type}

-- The phases that one move of a thread can lead to. A program is a finite
-- tree, so there is no endless descent.
inductive Phase.After : Phase Op Ans ε Out → Phase Op Ans ε Out → Prop
  | act (op : Op) (next : Ans op → Prog Op Ans ε Out) (answer : Ans op) :
      After (.running (next answer)) (.running (.call op next))
  | ended (rest : Prog Op Ans ε Out) (out : Except ε Out) : After (.ended out) (.running rest)
  | died (rest : Prog Op Ans ε Out) : After .died (.running rest)

theorem Phase.after_wellFounded : WellFounded (@Phase.After Op Ans ε Out) := by
  have hended (out : Except ε Out) : Acc Phase.After (.ended out : Phase Op Ans ε Out) :=
    ⟨_, fun phase h => by cases h⟩
  have hdied : Acc Phase.After (.died : Phase Op Ans ε Out) := ⟨_, fun phase h => by cases h⟩
  refine ⟨fun phase => ?_⟩
  cases phase with
  | ended out => exact hended out
  | died => exact hdied
  | running rest =>
      induction rest with
      | ret value =>
          refine ⟨_, fun phase h => ?_⟩
          cases h with
          | ended _ out => exact hended out
          | died => exact hdied
      | raise error =>
          refine ⟨_, fun phase h => ?_⟩
          cases h with
          | ended _ out => exact hended out
          | died => exact hdied
      | call op next ih =>
          refine ⟨_, fun phase h => ?_⟩
          cases h with
          | act _ _ answer => exact ih answer
          | ended _ out => exact hended out
          | died => exact hdied

def Thread.IsRunning (thread : Thread Op Ans ε Loc Req Out) : Prop :=
  ∃ rest, thread.phase = .running rest

namespace System

variable {S : System Op Ans ε Loc Shared Req Out}
  {allow : Pool Op Ans ε Loc Shared Req Out → Move Op Ans Req → Prop}
  {pool pool' : Pool Op Ans ε Loc Shared Req Out} {move : Move Op Ans Req}

-- A move of a thread replaces its phase by a later one.
theorem Step.descends (hmove : S.Step pool move pool') (harrive : ∀ req, move ≠ .arrive req) :
    Relation.CutExpand Phase.After (pool'.threads.map Thread.phase : Multiset (Phase Op Ans ε Out))
        (pool.threads.map Thread.phase) ∧
      pool'.threads.map Thread.req = pool.threads.map Thread.req := by
  have hset {threads : List (Thread Op Ans ε Loc Req Out)} {i : Nat}
      {t t' : Thread Op Ans ε Loc Req Out} (hi : threads[i]? = some t)
      (hphase : Phase.After t'.phase t.phase) (hreq : t'.req = t.req) :
      Relation.CutExpand Phase.After
          ((threads.set i t').map Thread.phase : Multiset (Phase Op Ans ε Out))
          (threads.map Thread.phase) ∧
        (threads.set i t').map Thread.req = threads.map Thread.req := by
    obtain ⟨hlt, hget⟩ := List.getElem?_eq_some_iff.mp hi
    constructor
    · refine ⟨{t'.phase}, t.phase, by simpa using hphase, ?_⟩
      have hperm : (threads.set i t').Perm (t' :: threads.eraseIdx i) := List.set_perm_cons_eraseIdx hlt t'
      have hperm' : threads.Perm (t :: threads.eraseIdx i) := hget ▸ (List.getElem_cons_eraseIdx_perm hlt).symm
      rw [Multiset.coe_eq_coe.mpr (hperm.map _), Multiset.coe_eq_coe.mpr (hperm'.map _)]
      simp only [List.map_cons, ← Multiset.cons_coe, ← Multiset.singleton_add]
      ac_rfl
    · rw [List.map_set, hreq, ← hget]
      exact List.ext_getElem (by simp) fun n h₁ h₂ => by
        by_cases hn : i = n <;> simp [hn]
  cases hmove with
  | arrive _ _ req => exact absurd rfl (harrive req)
  | act hthread _ => exact hset hthread (.act _ _ _) rfl
  | finish hthread => exact hset hthread (.ended _ _) rfl
  | fail hthread => exact hset hthread (.ended _ _) rfl
  | crash hthread => exact hset hthread (.died _) rfl

-- Where no pool on the way is stuck, every thread that matters can be brought to its end.
theorem Run.completes {P : Req → Prop}
    (hprogress : ∀ pool', S.Run allow pool pool' → (∃ t ∈ pool'.threads, P t.req ∧ t.IsRunning) →
      ∃ move pool'', (∀ req, move ≠ .arrive req) ∧ allow pool' move ∧ S.Step pool' move pool'') :
    ∃ pool', S.Run allow pool pool' ∧ (∀ t ∈ pool'.threads, P t.req → ¬ t.IsRunning) ∧
      pool'.threads.map Thread.req = pool.threads.map Thread.req := by
  have hacc := (@Phase.after_wellFounded Op Ans ε Out).cutExpand.apply
    (pool.threads.map Thread.phase : Multiset (Phase Op Ans ε Out))
  generalize hphases : (pool.threads.map Thread.phase : Multiset (Phase Op Ans ε Out)) = phases at hacc
  induction hacc generalizing pool with
  | intro phases _ ih =>
      by_cases hrunning : ∃ t ∈ pool.threads, P t.req ∧ t.IsRunning
      · obtain ⟨move, pool₁, harrive, hallow, hmove⟩ := hprogress pool .refl hrunning
        obtain ⟨hcut, hreqs⟩ := hmove.descends harrive
        obtain ⟨pool', hrun, hended, hreqs'⟩ := ih _ (hphases ▸ hcut)
          (fun pool' hrun => hprogress pool' (.head ⟨move, hallow, hmove⟩ hrun)) rfl
        exact ⟨pool', .head ⟨move, hallow, hmove⟩ hrun, hended, hreqs'.trans hreqs⟩
      · exact ⟨pool, .refl, fun t ht hP h => hrunning ⟨t, ht, hP, h⟩, rfl⟩

end System

end Process
