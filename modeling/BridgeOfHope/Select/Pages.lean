import BridgeOfHope.Select
import Mathlib.Data.List.Nodup

namespace Select

-- When the pages of a table, asked for one by one, make up the table.

variable {α κ : Type} {size n : ℕ}

theorem flatMap_chunks (rows : List α) (size n : ℕ) :
    ((List.range n).flatMap fun i => (rows.drop (i * size)).take size) = rows.take (n * size) := by
  induction n with
  | zero => simp
  | succ n ih => rw [List.range_succ, List.flatMap_append, ih, Nat.succ_mul, List.take_add,
    List.flatMap_singleton]

variable [LinearOrder κ] {query : Select α κ} {table rows rows' : List α}

-- One page may end and the next begin with rows of one key.
def Torn (query : Select α κ) (size : ℕ) (table : List α) : Prop :=
  ∃ rows earlier a b later i, rows.Perm (table.filter query.keep) ∧ query.Sorted rows ∧
    rows = earlier ++ a :: b :: later ∧ earlier.length + 1 = (i + 1) * size ∧ query.key a = query.key b

theorem sorted_iff_map : query.Sorted rows ↔ (rows.map query.key).Pairwise fun key key' => key' ≤ key := by
  rw [List.pairwise_map]
  rfl

-- The keys come in one order only.
theorem map_key_unique (hperm : rows'.Perm rows) (h : query.Sorted rows) (h' : query.Sorted rows') :
    rows'.map query.key = rows.map query.key := by
  refine (hperm.map query.key).eq_of_pairwise (fun _ _ _ _ hle hle' => le_antisymm hle' hle) ?_ ?_
  · exact sorted_iff_map.mp h'
  · exact sorted_iff_map.mp h

-- In a sorted list, the rows from a key on come first.
theorem filter_key (h : query.Sorted rows) (key : κ) :
    rows.filter (fun row => key ≤ query.key row) =
      rows.take (rows.filter fun row => key ≤ query.key row).length := by
  induction rows with
  | nil => rfl
  | cons row rows ih =>
    obtain ⟨hrow, hrows⟩ := List.pairwise_cons.mp h
    by_cases hkey : key ≤ query.key row
    · simp only [List.filter_cons, hkey, decide_true, if_true, List.length_cons, List.take_succ_cons]
      rw [← ih hrows]
    · have hnone : rows.filter (fun row => key ≤ query.key row) = [] := by
        refine List.filter_eq_nil_iff.mpr fun row' hrow' hle => hkey ?_
        exact le_trans (by simpa using hle) (hrow row' hrow')
      simp [hkey, hnone]

omit [LinearOrder κ] in
theorem filter_eq_take {p : α → Bool} {j : ℕ} (htake : ∀ row ∈ rows.take j, p row = true)
    (hdrop : ∀ row ∈ rows.drop j, ¬ p row = true) : rows.filter p = rows.take j := by
  nth_rewrite 1 [← List.take_append_drop j rows]
  rw [List.filter_append, List.filter_eq_self.mpr htake, List.filter_eq_nil_iff.mpr hdrop, List.append_nil]

theorem le_of_index (h : query.Sorted rows) {i j : ℕ} {hi : i < rows.length} {hj : j < rows.length}
    (hij : i ≤ j) :
    query.key rows[j] ≤ query.key rows[i] := by
  rcases Nat.lt_or_eq_of_le hij with hlt | heq
  · exact List.pairwise_iff_getElem.mp h i j hi hj hlt
  · subst heq
    exact le_refl _

-- Where a cut parts two keys, it parts the same rows in every order.
theorem take_perm {j : ℕ} (hperm : rows'.Perm rows) (h : query.Sorted rows) (h' : query.Sorted rows')
    (hcut : ∀ earlier a b later, rows = earlier ++ a :: b :: later → earlier.length + 1 = j →
      query.key a ≠ query.key b) : (rows'.take j).Perm (rows.take j) := by
  by_cases hlast : rows.length ≤ j
  · rwa [List.take_of_length_le hlast, List.take_of_length_le (hperm.length_eq ▸ hlast)]
  cases j with
  | zero => simp
  | succ j =>
    have hj : j < rows.length := by omega
    have hj' : j + 1 < rows.length := by omega
    have hsplit : rows = rows.take j ++ rows[j] :: rows[j + 1] :: rows.drop (j + 2) := by
      rw [← List.drop_eq_getElem_cons hj', ← List.drop_eq_getElem_cons hj, List.take_append_drop]
    have hne := hcut _ _ _ _ hsplit (by simp; omega)
    have hle : query.key rows[j + 1] ≤ query.key rows[j] := le_of_index h (Nat.le_succ j)
    have hlt : query.key rows[j + 1] < query.key rows[j] := lt_of_le_of_ne hle hne.symm
    have hfilter : rows.filter (fun row => query.key rows[j] ≤ query.key row) = rows.take (j + 1) := by
      have hhigh : ∀ row ∈ rows.take (j + 1), query.key rows[j] ≤ query.key row := by
        intro row hrow
        obtain ⟨i, hi, rfl⟩ := List.mem_take_iff_getElem.mp hrow
        exact le_of_index h (by omega)
      have hlow : ∀ row ∈ rows.drop (j + 1), ¬ query.key rows[j] ≤ query.key row := by
        intro row hrow
        obtain ⟨i, hi, rfl⟩ := List.mem_drop_iff_getElem.mp hrow
        exact not_le_of_gt (lt_of_le_of_lt (le_of_index h (by omega)) hlt)
      exact filter_eq_take (by simpa using hhigh) (by simpa using hlow)
    have hfilter' := filter_key h' (query.key rows[j])
    have hboth := hperm.filter fun row => query.key rows[j] ≤ query.key row
    rw [hfilter] at hboth
    rw [hboth.length_eq, List.length_take, Nat.min_eq_left hj'.le] at hfilter'
    rwa [hfilter'] at hboth

theorem answers_all (hlimit : query.limit = none) (hoffset : query.offset = 0) :
    query.Answers table rows ↔ rows.Perm (table.filter query.keep) ∧ query.Sorted rows := by
  constructor
  · rintro ⟨all, hperm, hsorted, rfl⟩
    have hwindow : query.window all = all := by simp [window, hlimit, hoffset]
    rw [hwindow]
    exact ⟨hperm, hsorted⟩
  · rintro ⟨hperm, hsorted⟩
    exact ⟨rows, hperm, hsorted, by simp [window, hlimit, hoffset]⟩

theorem pages_of_not_torn (hlimit : query.limit = none) (hoffset : query.offset = 0)
    (hall : (table.filter query.keep).length ≤ n * size) (hwhole : ¬ query.Torn size table)
    {pages : ℕ → List α} (hpages : ∀ i < n, (query.page size i).Answers table (pages i)) :
    query.Answers table ((List.range n).flatMap pages) := by
  obtain ⟨all, hperm, hsorted, -⟩ := query.answers_run table
  have hchunks := flatMap_chunks all size n
  rw [List.take_of_length_le (hperm.length_eq ▸ hall)] at hchunks
  rw [answers_all hlimit hoffset]
  constructor
  · refine (List.Perm.flatMap_left _ fun i hi => ?_).trans (hchunks ▸ hperm)
    obtain ⟨all', hperm', hsorted', hrows⟩ := hpages i (List.mem_range.mp hi)
    have hsame := hperm'.trans hperm.symm
    -- both cuts of the page are clean
    have hcut (i : ℕ) : (all'.take (i * size)).Perm (all.take (i * size)) := by
      refine take_perm hsame hsorted hsorted' fun earlier a b later hsplit hlength hkey => ?_
      cases i with
      | zero => omega
      | succ i => exact hwhole ⟨all, earlier, a, b, later, i, hperm, hsorted, hsplit, hlength, hkey⟩
    have hnext := hcut (i + 1)
    rw [Nat.succ_mul, List.take_add, List.take_add] at hnext
    have hchunk := (List.perm_append_left_iff _).mp (((hcut i).symm.append_right _).trans hnext)
    rwa [hrows]
  · have hkeys : ((List.range n).flatMap pages).map query.key = all.map query.key := by
      have hpage : ∀ i ∈ List.range n,
          (pages i).map query.key = ((all.map query.key).drop (i * size)).take size := by
        intro i hi
        obtain ⟨all', hperm', hsorted', hrows⟩ := hpages i (List.mem_range.mp hi)
        rw [hrows, ← map_key_unique (hperm'.trans hperm.symm) hsorted hsorted', ← List.map_drop,
          ← List.map_take]
        rfl
      rw [List.map_flatMap, List.flatMap_congr hpage, flatMap_chunks, ← List.map_take,
        ← flatMap_chunks, hchunks]
    rw [sorted_iff_map, hkeys]
    exact sorted_iff_map.mp hsorted

-- What a tie at the end of a page allows: the last row of the page again on the next.
theorem Torn.pages (hlimit : query.limit = none) (hoffset : query.offset = 0) (hsize : 0 < size)
    (hnodup : (table.filter query.keep).Nodup) (hall : (table.filter query.keep).length ≤ n * size)
    (h : query.Torn size table) : ∃ pages : ℕ → List α,
      (∀ i < n, (query.page size i).Answers table (pages i)) ∧
        ¬ query.Answers table ((List.range n).flatMap pages) := by
  obtain ⟨rows, earlier, a, b, later, i, hperm, hsorted, hrows, hlength, hkey⟩ := h
  have hswap : (earlier ++ b :: a :: later).Perm (table.filter query.keep) := by
    refine List.Perm.trans ?_ (hrows ▸ hperm)
    exact (List.Perm.swap a b later).append_left earlier
  have hswapped : query.Sorted (earlier ++ b :: a :: later) := by
    rw [sorted_iff_map, hrows] at hsorted
    rw [sorted_iff_map]
    simpa [hkey] using hsorted
  let pages (k : ℕ) : List α :=
    ((if k = i + 1 then earlier ++ b :: a :: later else rows).drop (k * size)).take size
  refine ⟨pages, fun k _ => ?_, fun hanswers => ?_⟩
  · refine ⟨if k = i + 1 then earlier ++ b :: a :: later else rows, ?_, ?_, rfl⟩ <;> split <;> assumption
  · have hdistinct := (((answers_all hlimit hoffset).mp hanswers).1.nodup_iff).mpr hnodup
    have hshort : (i + 1) * size < n * size := by
      have hroom := hperm.length_eq ▸ hall
      rw [hrows, List.length_append, List.length_cons, List.length_cons] at hroom
      omega
    have hi : i + 1 < n := Nat.lt_of_mul_lt_mul_right hshort
    have hbefore : a ∈ pages i := by
      have hend : earlier.length = i * size + (size - 1) := by
        rw [Nat.succ_mul] at hlength
        omega
      have hpage : pages i = (rows.drop (i * size)).take size := by simp [pages]
      rw [hpage, List.mem_take_iff_getElem]
      refine ⟨size - 1, ?_, ?_⟩
      · simp [hrows]
        omega
      · simp [hrows, ← hend]
    have hafter : a ∈ pages (i + 1) := by
      have hpage : pages (i + 1) = (a :: later).take size := by
        have hdrop : (earlier ++ b :: a :: later).drop (earlier.length + 1) = a :: later := by simp
        simp [pages, ← hlength, hdrop]
      rw [hpage]
      cases size with
      | zero => omega
      | succ size => simp
    have hapart := (List.nodup_flatMap.mp hdistinct).2
    have hdisjoint := List.pairwise_iff_getElem.mp hapart i (i + 1) (by simp; omega) (by simpa)
      (Nat.lt_succ_self i)
    simp only [List.getElem_range] at hdisjoint
    exact hdisjoint hbefore hafter

-- Page after page gives every row once and in order, whatever orders the database
-- chooses, exactly when no page is torn.
theorem pages_iff (hlimit : query.limit = none) (hoffset : query.offset = 0) (hsize : 0 < size)
    (hnodup : (table.filter query.keep).Nodup) (hall : (table.filter query.keep).length ≤ n * size) :
    (∀ pages : ℕ → List α, (∀ i < n, (query.page size i).Answers table (pages i)) →
      query.Answers table ((List.range n).flatMap pages)) ↔ ¬ query.Torn size table := by
  constructor
  · intro h htorn
    obtain ⟨pages, hpages, hnot⟩ := htorn.pages hlimit hoffset hsize hnodup hall
    exact hnot (h pages hpages)
  · intro hwhole pages hpages
    exact pages_of_not_torn hlimit hoffset hall hwhole hpages

end Select
