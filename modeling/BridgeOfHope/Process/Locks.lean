import BridgeOfHope.Process.Program
import Mathlib.Data.Fintype.EquivFin
import Mathlib.Logic.Relation
import Mathlib.Order.WellFounded

namespace Process

-- A contender takes the locks of its plan in order and keeps each of them until
-- it is done. `taken` is how many it has so far.
structure Contender (L : Type*) where
  plan : List L
  taken : ℕ

variable {L R : Type*}

namespace Contender

def held (contender : Contender L) : List L := contender.plan.take contender.taken

def missing (contender : Contender L) : List L := contender.plan.drop contender.taken

-- Contender `i` has yet to take a lock that contender `j` has.
def WaitsFor (contenders : List (Contender L)) (i j : ℕ) : Prop :=
  ∃ c ∈ contenders[i]?, ∃ d ∈ contenders[j]?, ∃ lock ∈ c.missing, lock ∈ d.held

instance [DecidableEq L] (contenders : List (Contender L)) (i j : ℕ) : Decidable (WaitsFor contenders i j) :=
  inferInstanceAs (Decidable (∃ c ∈ contenders[i]?, ∃ d ∈ contenders[j]?, ∃ lock ∈ c.missing, lock ∈ d.held))

-- Every plan takes its locks in one global order.
def Ordered [Preorder R] (rank : L → R) (contenders : List (Contender L)) : Prop :=
  ∀ contender ∈ contenders, contender.plan.Pairwise fun lock lock' => rank lock < rank lock'

variable [Preorder R] {rank : L → R} {contenders : List (Contender L)} {i j : ℕ}

theorem Ordered.rank_lt (h : Ordered rank contenders) {contender : Contender L} {lock lock' : L}
    (hmem : contender ∈ contenders) (hheld : lock ∈ contender.held) (hmissing : lock' ∈ contender.missing) :
    rank lock < rank lock' := by
  have hplan := h contender hmem
  rw [← List.take_append_drop contender.taken contender.plan, List.pairwise_append] at hplan
  exact hplan.2.2 lock hheld lock' hmissing

-- Along a chain of waiting the ranks rise: what the first one misses ranks
-- below something that the last one has.
theorem Ordered.rises (h : Ordered rank contenders) (hchain : Relation.TransGen (WaitsFor contenders) i j) :
    ∃ c ∈ contenders[i]?, ∃ d ∈ contenders[j]?, ∃ lock ∈ c.missing, ∃ lock' ∈ d.held,
      rank lock ≤ rank lock' := by
  induction hchain with
  | single hwaits =>
      obtain ⟨c, hi, d, hj, lock, hmissing, hheld⟩ := hwaits
      exact ⟨c, hi, d, hj, lock, hmissing, lock, hheld, le_refl _⟩
  | tail _ hwaits ih =>
      obtain ⟨c, hi, d, hj, lock, hmissing, lock', hheld, hle⟩ := ih
      obtain ⟨d', hj', e, hk, lock'', hmissing', hheld'⟩ := hwaits
      cases Option.mem_unique hj hj'
      have hlt := h.rank_lt (List.mem_of_getElem? hj) hheld hmissing'
      exact ⟨c, hi, e, hk, lock, hmissing, lock'', hheld', hle.trans hlt.le⟩

-- Nobody waits for itself, however long the chain is.
theorem Ordered.acyclic (h : Ordered rank contenders) (i : ℕ) :
    ¬ Relation.TransGen (WaitsFor contenders) i i := by
  intro hcycle
  obtain ⟨c, hi, d, hi', lock, hmissing, lock', hheld, hle⟩ := h.rises hcycle
  cases Option.mem_unique hi hi'
  exact lt_irrefl _ (hle.trans_lt (h.rank_lt (List.mem_of_getElem? hi) hheld hmissing))

theorem WaitsFor.lt_length (h : WaitsFor contenders i j) : i < contenders.length ∧ j < contenders.length := by
  obtain ⟨c, hi, d, hj, -⟩ := h
  exact ⟨(List.getElem?_eq_some_iff.mp hi).1, (List.getElem?_eq_some_iff.mp hj).1⟩

-- Following who waits for whom comes to an end: there are finitely many contenders.
theorem Ordered.wellFounded (h : Ordered rank contenders) :
    WellFounded fun a b : Fin contenders.length => Relation.TransGen (WaitsFor contenders) b a := by
  have htrans : IsTrans (Fin contenders.length) fun a b => Relation.TransGen (WaitsFor contenders) b a :=
    ⟨fun _ _ _ hab hbc => hbc.trans hab⟩
  have hirrefl : Std.Irrefl fun a b : Fin contenders.length => Relation.TransGen (WaitsFor contenders) b a :=
    ⟨fun a => h.acyclic a⟩
  exact Finite.wellFounded_of_trans_of_irrefl _

-- Whoever waits, waits in the end for one that waits for nobody.
theorem Ordered.exists_free (h : Ordered rank contenders) (i : ℕ) :
    ∃ j, Relation.ReflTransGen (WaitsFor contenders) i j ∧ ∀ k, ¬ WaitsFor contenders j k := by
  by_cases hlt : i < contenders.length
  · obtain ⟨j, hj, hmin⟩ := h.wellFounded.has_min
      { j | Relation.ReflTransGen (WaitsFor contenders) i j } ⟨⟨i, hlt⟩, .refl⟩
    refine ⟨j, hj, fun k hwaits => ?_⟩
    exact hmin ⟨k, hwaits.lt_length.2⟩ (hj.tail hwaits) (.single hwaits)
  · exact ⟨i, .refl, fun k hwaits => hlt hwaits.lt_length.1⟩

end Contender

end Process
