import Mathlib.Data.List.Perm.Subperm
import Mathlib.Order.Lattice

-- SELECT … WHERE … ORDER BY … DESC LIMIT … OFFSET … over a table of rows.

structure Select (α κ : Type) where
  keep : α → Bool := fun _ => true
  key : α → κ
  limit : Option ℕ := none
  offset : ℕ := 0

namespace Select

variable {α κ : Type}

def window (query : Select α κ) (rows : List α) : List α :=
  query.limit.elim (rows.drop query.offset) (rows.drop query.offset).take

-- One page of `size` rows.
def page (query : Select α κ) (size i : ℕ) : Select α κ := { query with limit := some size, offset := i * size }

theorem window_sublist {query : Select α κ} (rows : List α) : (query.window rows).Sublist rows := by
  unfold window
  cases query.limit with
  | none => exact List.drop_sublist ..
  | some limit => exact (List.take_sublist ..).trans (List.drop_sublist ..)

variable [LinearOrder κ]

def Sorted (query : Select α κ) (rows : List α) : Prop :=
  rows.Pairwise fun row row' => query.key row' ≤ query.key row

-- What the database may return: rows of one key come in any order.
def Answers (query : Select α κ) (table rows : List α) : Prop :=
  ∃ sorted, sorted.Perm (table.filter query.keep) ∧ query.Sorted sorted ∧ rows = query.window sorted

def latestFirst (query : Select α κ) (rows : List α) : List α :=
  rows.mergeSort fun row row' => query.key row' ≤ query.key row

-- One of the answers.
def run (query : Select α κ) (table : List α) : List α :=
  query.window (query.latestFirst (table.filter query.keep))

-- The `n` latest of some rows.
structure Latest (key : α → κ) (n : ℕ) (all rows : List α) : Prop where
  subperm : rows.Subperm all
  length_eq : rows.length = min n all.length
  sorted : rows.Pairwise fun row row' => key row' ≤ key row
  cut : ∀ row ∈ rows, ∀ row' ∈ all, row' ∉ rows → key row' ≤ key row

variable {query : Select α κ} {table rows rows' : List α} {row row' : α}

theorem answers_run (query : Select α κ) (table : List α) : query.Answers table (query.run table) := by
  have htrans (a b c : α) (h : decide (query.key b ≤ query.key a) = true)
      (h' : decide (query.key c ≤ query.key b) = true) : decide (query.key c ≤ query.key a) = true := by
    simp only [decide_eq_true_eq] at h h' ⊢
    exact le_trans h' h
  have htotal (a b : α) :
      (decide (query.key b ≤ query.key a) || decide (query.key a ≤ query.key b)) = true := by
    simp only [Bool.or_eq_true, decide_eq_true_eq]
    exact le_total _ _
  refine ⟨query.latestFirst (table.filter query.keep), List.mergeSort_perm .., ?_, rfl⟩
  exact (List.pairwise_mergeSort htrans htotal _).imp fun h => by simpa using h

theorem Answers.sorted (h : query.Answers table rows) : query.Sorted rows := by
  obtain ⟨all, -, hsorted, rfl⟩ := h
  exact hsorted.sublist (window_sublist all)

theorem Answers.subperm (h : query.Answers table rows) : rows.Subperm (table.filter query.keep) := by
  obtain ⟨all, hperm, -, rfl⟩ := h
  exact (window_sublist all).subperm.trans hperm.subperm

theorem Answers.mem (h : query.Answers table rows) (hrow : row ∈ rows) : row ∈ table ∧ query.keep row = true :=
  List.mem_filter.mp (h.subperm.subset hrow)

-- What a limit cuts off is no later than what it leaves.
theorem Answers.latest {limit : ℕ} (h : query.Answers table rows) (hoffset : query.offset = 0)
    (hlimit : query.limit = some limit) : Latest query.key limit (table.filter query.keep) rows where
  subperm := h.subperm
  sorted := h.sorted
  length_eq := by
    obtain ⟨all, hperm, -, rfl⟩ := h
    simp [window, hoffset, hlimit, hperm.length_eq]
  cut row hrow row' hrow' hcut := by
    obtain ⟨all, hperm, hsorted, rfl⟩ := h
    have hmem : row' ∈ all := hperm.mem_iff.mpr hrow'
    simp only [window, hoffset, List.drop_zero, hlimit, Option.elim_some] at hrow hcut
    rw [← List.take_append_drop limit all] at hmem hsorted
    exact (List.pairwise_append.mp hsorted).2.2 row hrow row' ((List.mem_append.mp hmem).resolve_left hcut)

-- Nothing is left out where there is room for everything.
theorem Latest.perm {key : α → κ} {n : ℕ} {all : List α} (h : Latest key n all rows) (hroom : all.length ≤ n) :
    rows.Perm all :=
  h.subperm.perm_of_length_le (Nat.le_of_eq (h.length_eq.trans (Nat.min_eq_right hroom)).symm)

end Select
