import BridgeOfHope.Tokens
import Mathlib.Data.List.Basic

namespace BridgeOfHope

-- Reading the text of a UUID gives the UUID.

theorem hexValue_digitChar {n : ℕ} (h : n < 16) : hexValue n.digitChar = some n := by
  have hall : ∀ k : Fin 16, hexValue k.val.digitChar = some k.val := by decide
  exact hall ⟨n, h⟩

-- `text` is a numeral of `n` in base 16.
def Numeral (text : List Char) (n : ℕ) : Prop :=
  ∃ values, text.mapM hexValue = some values ∧ values.foldl (fun n v => 16 * n + v) 0 = n

theorem Numeral.snoc {text : List Char} {n d : ℕ} (h : Numeral text n) (hd : d < 16) :
    Numeral (text ++ [d.digitChar]) (16 * n + d) := by
  obtain ⟨values, hvalues, rfl⟩ := h
  refine ⟨values ++ [d], ?_, by simp⟩
  simp [List.mapM_append, hvalues, hexValue_digitChar hd]

theorem numeral_toDigits (n : ℕ) : Numeral (Nat.toDigits 16 n) n := by
  induction n using Nat.strongRecOn with
  | _ n ih =>
      rw [Nat.toDigits_eq_if (by decide)]
      split
      · next hlt => exact ⟨[n], by simp [hexValue_digitChar hlt], by simp⟩
      · next hge =>
          have hdiv : n / 16 < n := by omega
          have hsnoc := (ih _ hdiv).snoc (Nat.mod_lt n (by decide : 0 < 16))
          rwa [Nat.div_add_mod] at hsnoc

theorem Numeral.pad {text : List Char} {n : ℕ} (h : Numeral text n) (width : ℕ) :
    Numeral (List.replicate width '0' ++ text) n := by
  obtain ⟨values, hvalues, rfl⟩ := h
  induction width with
  | zero => exact ⟨values, hvalues, rfl⟩
  | succ width ih =>
      obtain ⟨values', hvalues', hvalue⟩ := ih
      have hzero : hexValue '0' = some 0 := by decide
      refine ⟨0 :: values', ?_, hvalue⟩
      rw [List.replicate_succ, List.cons_append, List.mapM_cons, hzero, hvalues']
      rfl

theorem hexValue_of_mem {text : List Char} {values : List ℕ} (h : text.mapM hexValue = some values)
    {c : Char} (hc : c ∈ text) : (hexValue c).isSome = true := by
  induction text generalizing values with
  | nil => cases hc
  | cons head text ih =>
      rw [List.mapM_cons] at h
      obtain ⟨value, hvalue, h⟩ := Option.bind_eq_some_iff.mp h
      obtain ⟨values', hvalues', -⟩ := Option.bind_eq_some_iff.mp h
      rcases List.mem_cons.mp hc with rfl | hc
      · rw [hvalue]
        rfl
      · exact ih hvalues' hc

-- Such a digit is an ASCII character.
theorem lt_of_hexValue {c : Char} (h : (hexValue c).isSome = true) : c.toNat < 127 := by
  have hle {a b : Char} (hab : a ≤ b) : a.toNat ≤ b.toNat := hab
  unfold hexValue at h
  split at h
  · next hdigit => exact Nat.lt_of_le_of_lt (hle hdigit.2) (by decide)
  · split at h
    · next hlower => exact Nat.lt_of_le_of_lt (hle hlower.2) (by decide)
    · split at h
      · next hupper => exact Nat.lt_of_le_of_lt (hle hupper.2) (by decide)
      · cases h

theorem Numeral.plain {text : List Char} {n : ℕ} (h : Numeral text n) {c : Char}
    (hc : hexValue c = none) : c ∉ text := by
  obtain ⟨values, hvalues, -⟩ := h
  intro hmem
  have := hexValue_of_mem hvalues hmem
  rw [hc] at this
  cases this

-- Nothing is left out of a text that lacks the first character of the part.
theorem without_of_not_mem {c : Char} {part text : List Char} (h : c ∉ text) :
    without (c :: part) 0 text = text := by
  induction text with
  | nil => rfl
  | cons head text ih =>
      have hhead : c ≠ head := fun heq => h (heq ▸ List.mem_cons_self)
      have htext : c ∉ text := fun hmem => h (List.mem_cons_of_mem _ hmem)
      have hprefix : (c :: part).isPrefixOf (head :: text) = false := by
        simp [List.isPrefixOf, hhead]
      simp [without, hprefix, ih htext]

theorem groups (text : List Char) : text.take 8 ++ ((text.drop 8).take 4 ++ ((text.drop 12).take 4 ++
    ((text.drop 16).take 4 ++ text.drop 20))) = text := by
  have hlast := List.take_append_drop 4 (text.drop 16)
  have hfourth := List.take_append_drop 4 (text.drop 12)
  have hthird := List.take_append_drop 4 (text.drop 8)
  rw [List.drop_drop] at hlast hfourth hthird
  rw [hlast, hfourth, hthird, List.take_append_drop]

theorem dropWhile_of_forall {p : Char → Bool} {text : List Char} (h : ∀ c ∈ text, p c = false) :
    text.dropWhile p = text := by
  cases text with
  | nil => rfl
  | cons c text => rw [List.dropWhile_cons_of_neg (by simp [h c List.mem_cons_self])]

def Uuid.hex (id : Uuid) : List Char :=
  List.replicate (32 - (Nat.toDigits 16 id.toNat).length) '0' ++ Nat.toDigits 16 id.toNat

theorem Uuid.numeral_hex (id : Uuid) : Numeral id.hex id.toNat := (numeral_toDigits id.toNat).pad _

theorem Uuid.length_hex (id : Uuid) : id.hex.length = 32 := by
  have hle : (Nat.toDigits 16 id.toNat).length ≤ 32 := by
    rw [Nat.length_toDigits_le_iff (by decide) (by decide)]
    exact id.isLt
  simp only [Uuid.hex, List.length_append, List.length_replicate]
  omega

theorem Uuid.toList_toText (id : Uuid) : id.toText.toList = id.hex.take 8 ++ '-' :: (id.hex.drop 8).take 4 ++
    '-' :: (id.hex.drop 12).take 4 ++ '-' :: (id.hex.drop 16).take 4 ++ '-' :: id.hex.drop 20 :=
  String.toList_ofList

-- Hexadecimal digits and dashes are all there is in the text.
theorem Uuid.not_mem_toText {id : Uuid} {c : Char} (hc : hexValue c = none) (hdash : c ≠ '-') :
    c ∉ id.toText.toList := by
  have hplain : c ∉ id.hex := (Uuid.numeral_hex id).plain hc
  intro hmem
  rw [Uuid.toList_toText] at hmem
  simp only [List.mem_append, List.mem_cons] at hmem
  rcases hmem with (((hmem | hmem | hmem) | hmem | hmem) | hmem | hmem) | hmem | hmem
  · exact hplain (List.mem_of_mem_take hmem)
  · exact hdash hmem
  · exact hplain (List.mem_of_mem_drop (List.mem_of_mem_take hmem))
  · exact hdash hmem
  · exact hplain (List.mem_of_mem_drop (List.mem_of_mem_take hmem))
  · exact hdash hmem
  · exact hplain (List.mem_of_mem_drop (List.mem_of_mem_take hmem))
  · exact hdash hmem
  · exact hplain (List.mem_of_mem_drop hmem)

theorem Uuid.filter_toText (id : Uuid) : id.toText.toList.filter (· ≠ '-') = id.hex := by
  have hkeep {part : List Char} (hsub : part.Sublist id.hex) : part.filter (· ≠ '-') = part := by
    refine List.filter_eq_self.mpr fun c hc => ?_
    have hdash : c ≠ '-' := fun h => (Uuid.numeral_hex id).plain (by decide) (hsub.subset (h ▸ hc))
    simpa using hdash
  rw [Uuid.toList_toText]
  simp only [List.filter_append, List.filter_cons, ne_eq, not_true_eq_false, decide_false,
    Bool.false_eq_true, if_false]
  rw [hkeep (List.take_sublist _ _), hkeep ((List.take_sublist _ _).trans (List.drop_sublist _ _)),
    hkeep ((List.take_sublist _ _).trans (List.drop_sublist _ _)),
    hkeep ((List.take_sublist _ _).trans (List.drop_sublist _ _)), hkeep (List.drop_sublist _ _)]
  simpa using groups id.hex

-- A plain numeral is what `int` reads.
theorem Numeral.intHex_eq {text : List Char} {n : ℕ} (h : Numeral text n) (hne : text ≠ []) :
    intHex text = some (n : ℤ) := by
  have hascii : text.map asciiDigit = text := by
    refine (List.map_congr_left fun c hc => ?_).trans (List.map_id text)
    have hsome := hexValue_of_mem h.choose_spec.1 hc
    exact if_pos (lt_of_hexValue hsome)
  have hplain {c : Char} (hc : hexValue c = none) : c ∉ text := h.plain hc
  have hblank {c : Char} (hc : c ∈ text) : isBlank c = false := by
    have hsome := hexValue_of_mem h.choose_spec.1 hc
    simp only [isBlank, decide_eq_false_iff_not]
    intro hmem
    simp only [List.mem_cons, List.not_mem_nil, or_false] at hmem
    rcases hmem with rfl | rfl | rfl | rfl | rfl | rfl <;> exact absurd hsome (by decide)
  have hhead {c : Char} (hc : hexValue c = none) : text.head? ≠ some c :=
    fun heq => hplain hc (List.mem_of_mem_head? heq)
  have hprefix : dropHexPrefix text = text := by
    refine if_neg fun h => ?_
    rcases h.2 with hsecond | hsecond
    · exact hplain (by decide) (List.mem_of_getElem? hsecond)
    · exact hplain (by decide) (List.mem_of_getElem? hsecond)
  have hscore : '_' ∉ text := hplain (by decide)
  have hkept : text.filter (· ≠ '_') = text :=
    List.filter_eq_self.mpr fun c hc => decide_eq_true fun heq => hscore (heq ▸ hc)
  obtain ⟨values, hvalues, hvalue⟩ := h
  have hdigits : hexDigits text = some values := by
    rw [hexDigits, List.splitOn_eq_singleton hscore, if_neg (by simpa using hne.symm), hkept, hvalues]
  have htrim : ((text.dropWhile isBlank).reverse.dropWhile isBlank).reverse = text := by
    rw [dropWhile_of_forall fun c hc => hblank hc,
      dropWhile_of_forall fun c hc => hblank (List.mem_reverse.mp hc), List.reverse_reverse]
  have hminus : text.head? ≠ some '-' := hhead (by decide)
  have hplus : text.head? ≠ some '+' := hhead (by decide)
  simp [intHex, hascii, htrim, hminus, hplus, hprefix, hdigits, hvalue]

theorem Uuid.ofText_toText [Platform] (id : Uuid) : Uuid.ofText id.toText = .ok id := by
  have hu : 'u' ∉ id.toText.toList := Uuid.not_mem_toText (by decide) (by decide)
  have hurn : without "urn:".toList 0 id.toText.toList = id.toText.toList := without_of_not_mem hu
  have huuid : without "uuid:".toList 0 id.toText.toList = id.toText.toList := without_of_not_mem hu
  have hbrace : ∀ c ∈ id.toText.toList, (c = '{' || c = '}') = false := by
    intro c hc
    have hopen : c ≠ '{' := fun h => Uuid.not_mem_toText (by decide) (by decide) (h ▸ hc)
    have hclose : c ≠ '}' := fun h => Uuid.not_mem_toText (by decide) (by decide) (h ▸ hc)
    simp [hopen, hclose]
  have hreverse : ∀ c ∈ id.toText.toList.reverse, (c = '{' || c = '}') = false :=
    fun c hc => hbrace c (List.mem_reverse.mp hc)
  have hne : id.hex ≠ [] := List.ne_nil_of_length_pos (by rw [id.length_hex]; decide)
  have hread : intHex id.hex = some (id.toNat : ℤ) := id.numeral_hex.intHex_eq hne
  have hbound : (0 : ℤ) ≤ (id.toNat : ℤ) ∧ (id.toNat : ℤ) < 2 ^ 128 :=
    ⟨Int.natCast_nonneg _, by exact_mod_cast id.isLt⟩
  simp only [Uuid.ofText, hurn, huuid, dropWhile_of_forall hbrace, dropWhile_of_forall hreverse,
    List.reverse_reverse, id.filter_toText, id.length_hex, hread, if_pos hbound]
  simp

end BridgeOfHope
