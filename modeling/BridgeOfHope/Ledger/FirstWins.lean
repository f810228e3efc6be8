import Mathlib.Data.List.Forall2
import Mathlib.Data.List.Induction
import Mathlib.Data.List.Nodup
import Mathlib.Data.List.Perm.Basic

namespace FirstWins

variable {α β κ : Type}

-- Every entry of the one list has its partner in the other.
theorem exists_of_forall₂ {R : α → β → Prop} {as : List α} {bs : List β} (h : List.Forall₂ R as bs) :
    (∀ a ∈ as, ∃ b ∈ bs, R a b) ∧ ∀ b ∈ bs, ∃ a ∈ as, R a b := by
  induction h with
  | nil => exact ⟨nofun, nofun⟩
  | cons hhead _ ih =>
      refine ⟨fun a ha => ?_, fun b hb => ?_⟩
      · rcases List.mem_cons.mp ha with rfl | ha
        · exact ⟨_, List.mem_cons_self, hhead⟩
        · exact (ih.1 a ha).imp fun _ h => ⟨List.mem_cons_of_mem _ h.1, h.2⟩
      · rcases List.mem_cons.mp hb with rfl | hb
        · exact ⟨_, List.mem_cons_self, hhead⟩
        · exact (ih.2 b hb).imp fun _ h => ⟨List.mem_cons_of_mem _ h.1, h.2⟩

theorem map_eq_of_forall₂ {γ : Type} {R : α → β → Prop} {f : α → γ} {g : β → γ}
    (hsame : ∀ a b, R a b → f a = g b)
    {as : List α} {bs : List β} (h : List.Forall₂ R as bs) : as.map f = bs.map g := by
  induction h with
  | nil => rfl
  | cons hhead _ ih => simp only [List.map_cons, hsame _ _ hhead, ih]

-- Two stores that have taken in the same entries hold the same, but for what `view` leaves out.
theorem stored_perm {γ : Type} {R : α → β → Prop} (view : β → γ)
    (hview : ∀ a b b', R a b → R a b' → view b = view b') {entries entries' : List α} {rows rows' : List β}
    (hrows : List.Forall₂ R entries rows) (hrows' : List.Forall₂ R entries' rows')
    (hperm : entries.Perm entries') :
    (rows.map view).Perm (rows'.map view) := by
  obtain ⟨rows₁, hrows₁, hperm₁⟩ := List.perm_comp_forall₂ hperm hrows'
  have hsame : rows.map view = rows₁.map view := by
    clear hperm hperm₁ hrows'
    induction hrows generalizing rows₁ with
    | nil =>
        cases hrows₁
        rfl
    | cons hrow _ ih =>
        cases hrows₁ with
        | cons hrow₁ hrest => simp only [List.map_cons, hview _ _ _ hrow hrow₁, ih _ hrest]
  rw [hsame]
  exact hperm₁.map view

variable [DecidableEq κ] (key : α → κ)

-- What a store takes in from a log, when it has `stored` already. The first entry
-- with a key wins, and every later one is left out.
def news (stored : List α) : List α → List α
  | [] => []
  | a :: log => if key a ∈ stored.map key then news stored log else a :: news (stored ++ [a]) log

def firsts (log : List α) : List α := news key [] log

variable {key} {stored log log' : List α} {a : α}

theorem news_of_mem (h : key a ∈ stored.map key) : news key stored (a :: log) = news key stored log :=
  if_pos h

theorem news_of_not_mem (h : key a ∉ stored.map key) :
    news key stored (a :: log) = a :: news key (stored ++ [a]) log :=
  if_neg h

theorem mem_news : a ∈ news key stored log ↔
    ∃ pre post, log = pre ++ a :: post ∧ key a ∉ stored.map key ∧ key a ∉ pre.map key := by
  induction log generalizing stored with
  | nil => simp [news]
  | cons b log ih =>
      by_cases hb : key b ∈ stored.map key
      · rw [news_of_mem hb, ih]
        constructor
        · rintro ⟨pre, post, rfl, hstored, hpre⟩
          have hne : key a ≠ key b := fun h => hstored (h ▸ hb)
          exact ⟨b :: pre, post, rfl, hstored, by simpa [hne] using hpre⟩
        · rintro ⟨pre, post, hlog, hstored, hpre⟩
          cases pre with
          | nil =>
              obtain ⟨rfl, rfl⟩ := List.cons.inj hlog
              exact absurd hb hstored
          | cons c pre =>
              obtain ⟨rfl, rfl⟩ := List.cons.inj hlog
              exact ⟨pre, post, rfl, hstored, fun h => hpre (List.mem_cons_of_mem _ h)⟩
      · rw [news_of_not_mem hb, List.mem_cons, ih]
        constructor
        · rintro (rfl | ⟨pre, post, rfl, hstored, hpre⟩)
          · exact ⟨[], log, rfl, hb, List.not_mem_nil⟩
          · simp only [List.map_append, List.mem_append, List.map_cons, List.map_nil, List.mem_singleton,
              not_or] at hstored
            exact ⟨b :: pre, post, rfl, hstored.1, by simpa [hstored.2] using hpre⟩
        · rintro ⟨pre, post, hlog, hstored, hpre⟩
          cases pre with
          | nil =>
              obtain ⟨rfl, rfl⟩ := List.cons.inj hlog
              exact .inl rfl
          | cons c pre =>
              obtain ⟨rfl, rfl⟩ := List.cons.inj hlog
              simp only [List.map_cons, List.mem_cons, not_or] at hpre
              refine .inr ⟨pre, post, rfl, ?_, hpre.2⟩
              simpa [hpre.1] using hstored

theorem mem_firsts : a ∈ firsts key log ↔ ∃ pre post, log = pre ++ a :: post ∧ key a ∉ pre.map key := by
  simp [firsts, mem_news]

-- No key is taken in twice.
theorem news_keys_nodup (stored log : List α) : ((news key stored log).map key).Nodup := by
  induction log generalizing stored with
  | nil => exact List.nodup_nil
  | cons b log ih =>
      by_cases hb : key b ∈ stored.map key
      · rw [news_of_mem hb]
        exact ih stored
      · rw [news_of_not_mem hb, List.map_cons, List.nodup_cons]
        refine ⟨fun hmem => ?_, ih _⟩
        obtain ⟨c, hc, hkey⟩ := List.mem_map.mp hmem
        obtain ⟨pre, post, -, hstored, -⟩ := mem_news.mp hc
        exact hstored (by simp [hkey])

theorem firsts_keys_nodup (log : List α) : ((firsts key log).map key).Nodup := news_keys_nodup [] log

-- A log without repetitions is taken in whole.
theorem news_of_nodup (hnodup : ((stored ++ log).map key).Nodup) : news key stored log = log := by
  induction log generalizing stored with
  | nil => rfl
  | cons b log ih =>
      have hb : key b ∉ stored.map key := by
        simp only [List.map_append, List.nodup_append, List.map_cons] at hnodup
        exact fun hmem => hnodup.2.2 _ hmem _ List.mem_cons_self rfl
      rw [news_of_not_mem hb, ih (by simpa using hnodup)]

theorem firsts_firsts (log : List α) : firsts key (firsts key log) = firsts key log :=
  news_of_nodup (firsts_keys_nodup log)

-- Every key of the log is taken in.
theorem key_mem_firsts : key a ∈ (firsts key log).map key ↔ key a ∈ log.map key := by
  constructor
  · intro h
    obtain ⟨b, hb, hkey⟩ := List.mem_map.mp h
    obtain ⟨pre, post, rfl, -⟩ := mem_firsts.mp hb
    exact hkey ▸ List.mem_map_of_mem (by simp)
  · intro h
    induction log using List.reverseRecOn with
    | nil => cases h
    | append_singleton log b ih =>
        by_cases hold : key a ∈ log.map key
        · obtain ⟨c, hc, hkey⟩ := List.mem_map.mp (ih hold)
          obtain ⟨pre, post, rfl, hpre⟩ := mem_firsts.mp hc
          exact List.mem_map.mpr ⟨c, mem_firsts.mpr ⟨pre, post ++ [b], by simp, hpre⟩, hkey⟩
        · have hlast : key a = key b := by simpa [hold] using h
          exact List.mem_map.mpr ⟨b, mem_firsts.mpr ⟨log, [], rfl, hlast ▸ hold⟩, hlast.symm⟩

-- Where equal keys mean equal entries, the order of the log does not matter.
theorem firsts_perm (hperm : log.Perm log') (hcoherent : ∀ a ∈ log, ∀ b ∈ log, key a = key b → a = b) :
    (firsts key log).Perm (firsts key log') := by
  have hmem {log : List α} (hcoherent : ∀ a ∈ log, ∀ b ∈ log, key a = key b → a = b) (a : α) :
      a ∈ firsts key log ↔ a ∈ log := by
    constructor
    · intro h
      obtain ⟨pre, post, rfl, -⟩ := mem_firsts.mp h
      simp
    · intro h
      have hkey : key a ∈ log.map key := List.mem_map_of_mem h
      obtain ⟨b, hb, hkey⟩ := List.mem_map.mp (key_mem_firsts.mpr hkey)
      obtain ⟨pre, post, hlog, -⟩ := mem_firsts.mp hb
      have hin : b ∈ log := by simp [hlog]
      exact hcoherent b hin a h hkey ▸ hb
  have hcoherent' : ∀ a ∈ log', ∀ b ∈ log', key a = key b → a = b := by
    intro a ha b hb
    exact hcoherent a (hperm.mem_iff.mpr ha) b (hperm.mem_iff.mpr hb)
  have hnodup (log : List α) : (firsts key log).Nodup := List.Nodup.of_map key (firsts_keys_nodup log)
  refine (List.perm_ext_iff_of_nodup (hnodup log) (hnodup log')).mpr fun a => ?_
  rw [hmem hcoherent, hmem hcoherent', hperm.mem_iff]

end FirstWins
