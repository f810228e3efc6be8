import BridgeOfHope.Payments.Mpesa

namespace BridgeOfHope.Payments

-- Which numbers `normalize_phone` takes, and what it makes of them.

def phoneDigits (raw : String) : List Char := raw.toList.filter isDecimal

-- Only these two digits start the number of a mobile subscriber.
def StartsMobile (digits : List Char) : Prop := digits.head? = some '1' ∨ digits.head? = some '7'

instance : DecidablePred StartsMobile := fun _ => inferInstanceAs (Decidable (_ ∨ _))

-- The spellings it knows, each with the nine digits that it keeps. Only the
-- international one says nothing about the first of them.
inductive Recognised : List Char → List Char → Prop
  | international {kept : List Char} (hlength : kept.length = 9) : Recognised ("254".toList ++ kept) kept
  | national {kept : List Char} (hlength : kept.length = 9) (hfirst : StartsMobile kept) :
      Recognised ('0' :: kept) kept
  | bare {kept : List Char} (hlength : kept.length = 9) (hfirst : StartsMobile kept) : Recognised kept kept

variable {raw phone : String} {digits kept : List Char}

theorem Recognised.length (h : Recognised digits kept) : kept.length = 9 := by
  cases h <;> assumption

theorem Recognised.subset (h : Recognised digits kept) : kept ⊆ digits := by
  cases h with
  | international => exact List.subset_append_right _ _
  | national => exact List.subset_cons_self _ _
  | bare => exact List.Subset.refl _

theorem recognised_of_ok (h : normalizePhone raw = .ok phone) :
    ∃ kept, Recognised (phoneDigits raw) kept ∧ phone = String.ofList ("254".toList ++ kept) := by
  have hbare {first : Char} (hmobile : first = '1' ∨ first = '7') {digits : List Char}
      (hstarts : [first] <+: digits) (hlength : digits.length = 9) : Recognised digits digits := by
    obtain ⟨rest, rfl⟩ := hstarts
    refine .bare hlength ?_
    simpa [StartsMobile] using hmobile
  have hdigits : raw.toList.filter isDecimal = phoneDigits raw := rfl
  unfold normalizePhone at h
  rw [hdigits] at h
  generalize phoneDigits raw = digits at h
  simp only [Bool.and_eq_true, List.isPrefixOf_iff_prefix, decide_eq_true_eq] at h
  split at h
  · next hshape =>
      obtain ⟨⟨kept, rfl⟩, hlength⟩ := hshape
      have hkept : kept.length = 9 := by simpa using hlength
      exact ⟨kept, .international hkept, (Except.ok.inj h).symm⟩
  split at h
  · next hshape =>
      obtain ⟨⟨⟨kept, rfl⟩, hlength⟩, hfirst⟩ := hshape
      have hkept : kept.length = 9 := by simpa using hlength
      refine ⟨kept, .national hkept ?_, (Except.ok.inj h).symm⟩
      cases kept with
      | nil => cases hkept
      | cons first rest => simpa [StartsMobile] using hfirst
  split at h
  · next hshape => exact ⟨digits, hbare (.inr rfl) hshape.1 hshape.2, (Except.ok.inj h).symm⟩
  split at h
  · next hshape => exact ⟨digits, hbare (.inl rfl) hshape.1 hshape.2, (Except.ok.inj h).symm⟩
  · cases h

theorem exists_mobile (hlength : kept.length = 9) (hfirst : StartsMobile kept) :
    ∃ first rest, kept = first :: rest ∧ (first = '1' ∨ first = '7') ∧ rest.length = 8 := by
  cases kept with
  | nil => cases hlength
  | cons first rest => exact ⟨first, rest, rfl, by simpa [StartsMobile] using hfirst, by simpa using hlength⟩

theorem ok_of_recognised (h : Recognised (phoneDigits raw) kept) :
    normalizePhone raw = .ok (String.ofList ("254".toList ++ kept)) := by
  have hdigits : raw.toList.filter isDecimal = phoneDigits raw := rfl
  unfold normalizePhone
  rw [hdigits]
  generalize phoneDigits raw = digits at h
  cases h with
  | international hlength => simp [hlength]
  | national hlength hfirst =>
      obtain ⟨first, rest, rfl, hmobile, hrest⟩ := exists_mobile hlength hfirst
      simp [hrest, hmobile]
  | bare hlength hfirst =>
      obtain ⟨first, rest, rfl, hmobile, hrest⟩ := exists_mobile hlength hfirst
      rcases hmobile with rfl | rfl
      · simp [hrest]
      · simp [hrest]

theorem normalizePhone_ok_iff : normalizePhone raw = .ok phone ↔
    ∃ kept, Recognised (phoneDigits raw) kept ∧ phone = String.ofList ("254".toList ++ kept) := by
  constructor
  · exact recognised_of_ok
  · rintro ⟨kept, hrecognised, rfl⟩
    exact ok_of_recognised hrecognised

theorem isDecimal_of_isDigit {c : Char} (h : c.isDigit = true) : isDecimal c = true := by
  have hbounds : 48 ≤ c.toNat ∧ c.toNat ≤ 57 := by simpa [Char.isDigit_iff_toNat] using h
  simp only [isDecimal, decimalZeros, List.any_cons, Bool.or_eq_true, Bool.and_eq_true, decide_eq_true_eq]
  omega

theorem isDecimal_of_mem {c : Char} (h : c ∈ phoneDigits raw) : isDecimal c = true := (List.mem_filter.mp h).2

-- A text that is made of digits is read as it stands.
theorem phoneDigits_ofList (h : ∀ c ∈ digits, isDecimal c = true) :
    phoneDigits (String.ofList digits) = digits := by
  rw [phoneDigits, String.toList_ofList]
  exact List.filter_eq_self.mpr h

theorem phoneDigits_normalized (h : Recognised (phoneDigits raw) kept) :
    phoneDigits (String.ofList ("254".toList ++ kept)) = "254".toList ++ kept := by
  refine phoneDigits_ofList fun c hc => ?_
  rcases List.mem_append.mp hc with hprefix | hkept
  · have hascii : ∀ c ∈ "254".toList, c.isDigit = true := List.all_eq_true.mp (by decide)
    exact isDecimal_of_isDigit (hascii c hprefix)
  · exact isDecimal_of_mem (h.subset hkept)

theorem normalizePhone_idempotent (h : normalizePhone raw = .ok phone) : normalizePhone phone = .ok phone := by
  obtain ⟨kept, hrecognised, rfl⟩ := normalizePhone_ok_iff.mp h
  refine normalizePhone_ok_iff.mpr ⟨kept, ?_, rfl⟩
  rw [phoneDigits_normalized hrecognised]
  exact .international hrecognised.length

-- A mobile number of Kenya: the country code, the digit that starts a mobile
-- subscriber's number, and eight more, all of them ASCII.
def KenyanMobile (phone : String) : Prop :=
  ∃ kept : List Char, kept.length = 9 ∧ StartsMobile kept ∧ (∀ c ∈ kept, c.isDigit = true) ∧
    phone = String.ofList ("254".toList ++ kept)

-- The two ways in which something else gets through.
inductive Misread : List Char → Prop
  | notMobile {kept : List Char} (hlength : kept.length = 9) (hfirst : ¬ StartsMobile kept) :
      Misread ("254".toList ++ kept)
  | notAscii {digits kept : List Char} (h : Recognised digits kept) {c : Char} (hc : c ∈ kept)
      (hascii : c.isDigit = false) : Misread digits

theorem kenyanMobile_iff : KenyanMobile (String.ofList ("254".toList ++ kept)) ↔
    kept.length = 9 ∧ StartsMobile kept ∧ ∀ c ∈ kept, c.isDigit = true := by
  constructor
  · rintro ⟨kept', hlength, hfirst, hascii, htext⟩
    have hsame : kept = kept' := List.append_cancel_left (String.ofList_injective htext)
    exact hsame ▸ ⟨hlength, hfirst, hascii⟩
  · rintro ⟨hlength, hfirst, hascii⟩
    exact ⟨kept, hlength, hfirst, hascii, rfl⟩

theorem normalizePhone_mobile (raw : String) :
    (∀ phone, normalizePhone raw = .ok phone → KenyanMobile phone) ↔ ¬ Misread (phoneDigits raw) := by
  constructor
  · intro hmobile hmisread
    generalize hdigits : phoneDigits raw = digits at hmisread
    cases hmisread with
    | notMobile hlength hfirst =>
        have hrecognised := Recognised.international hlength
        rw [← hdigits] at hrecognised
        exact hfirst (kenyanMobile_iff.mp (hmobile _ (ok_of_recognised hrecognised))).2.1
    | notAscii hrecognised hc hascii =>
        have hall := (kenyanMobile_iff.mp (hmobile _ (ok_of_recognised (hdigits ▸ hrecognised)))).2.2
        exact absurd (hall _ hc) (by simp [hascii])
  · intro hnot phone h
    obtain ⟨kept, hrecognised, rfl⟩ := normalizePhone_ok_iff.mp h
    refine kenyanMobile_iff.mpr ⟨hrecognised.length, ?_, fun c hc => ?_⟩
    · by_contra hfirst
      generalize phoneDigits raw = digits at hnot hrecognised
      cases hrecognised with
      | international hlength => exact hnot (.notMobile hlength hfirst)
      | national _ hmobile => exact hfirst hmobile
      | bare _ hmobile => exact hfirst hmobile
    · by_contra hascii
      exact hnot (.notAscii hrecognised hc (by simpa using hascii))

-- A landline in Nairobi, and a mobile number that is typed in Arabic-Indic digits.
theorem landline_accepted :
    (normalizePhone "+254 20 2345678" = .ok "254202345678" ∧ ¬ KenyanMobile "254202345678") ∧
      normalizePhone "07١٢ ٣٤٥ ٦٧٨" = .ok "2547١٢٣٤٥٦٧٨" ∧ ¬ KenyanMobile "2547١٢٣٤٥٦٧٨" := by
  have hlandline : "254202345678" = String.ofList ("254".toList ++ "202345678".toList) := by decide +kernel
  have harabic : "2547١٢٣٤٥٦٧٨" = String.ofList ("254".toList ++ "7١٢٣٤٥٦٧٨".toList) := by decide +kernel
  refine ⟨⟨by decide +kernel, ?_⟩, by decide +kernel, ?_⟩
  · rw [hlandline, kenyanMobile_iff]
    rintro ⟨-, hfirst, -⟩
    have hnot : ¬ StartsMobile "202345678".toList := by decide
    exact hnot hfirst
  · rw [harabic, kenyanMobile_iff]
    rintro ⟨-, -, hascii⟩
    have hdigit : '١'.isDigit = true := hascii '١' (by decide)
    exact absurd hdigit (by decide)

-- The nine digits that identify a mobile subscriber.
structure Subscriber where
  number : String
  length : number.length = 9
  ascii : ∀ c ∈ number.toList, c.isDigit = true
  mobile : StartsMobile number.toList

-- The three ways to spell the number, whatever stands between its digits.
def Spells (raw : String) (subscriber : Subscriber) : Prop :=
  phoneDigits raw = subscriber.number.toList ∨ phoneDigits raw = '0' :: subscriber.number.toList ∨
    phoneDigits raw = "254".toList ++ subscriber.number.toList

theorem spells_iff {subscriber : Subscriber} :
    Spells raw subscriber ↔ Recognised (phoneDigits raw) subscriber.number.toList := by
  obtain ⟨number, hlength, -, hmobile⟩ := subscriber
  have hlength' : number.toList.length = 9 := hlength
  show _ ∨ _ ∨ _ ↔ Recognised (phoneDigits raw) number.toList
  constructor
  · rintro (hbare | hnational | hinternational)
    · rw [hbare]
      exact .bare hlength' hmobile
    · rw [hnational]
      exact .national hlength' hmobile
    · rw [hinternational]
      exact .international hlength'
  · intro h
    generalize phoneDigits raw = digits at h
    cases h with
    | international => exact .inr (.inr rfl)
    | national => exact .inr (.inl rfl)
    | bare => exact .inl rfl

theorem normalizePhone_eq_iff (raw : String) (subscriber : Subscriber) :
    normalizePhone raw = .ok ("254" ++ subscriber.number) ↔ Spells raw subscriber := by
  have hphone : "254" ++ subscriber.number = String.ofList ("254".toList ++ subscriber.number.toList) := by
    rw [String.ofList_append, String.ofList_toList, String.ofList_toList]
  rw [spells_iff, hphone, normalizePhone_ok_iff]
  constructor
  · rintro ⟨kept, hrecognised, htext⟩
    have hsame : subscriber.number.toList = kept := List.append_cancel_left (String.ofList_injective htext)
    rw [hsame]
    exact hrecognised
  · intro hrecognised
    exact ⟨_, hrecognised, rfl⟩

theorem normalizePhone_canonical :
    (∀ raw (subscriber : Subscriber),
      normalizePhone raw = .ok ("254" ++ subscriber.number) ↔ Spells raw subscriber) ∧
    (∀ raw raw' (subscriber : Subscriber), Spells raw subscriber → Spells raw' subscriber →
      normalizePhone raw = normalizePhone raw') ∧
    (∀ raw raw' (subscriber subscriber' : Subscriber), Spells raw subscriber → Spells raw' subscriber' →
      subscriber.number ≠ subscriber'.number → normalizePhone raw ≠ normalizePhone raw') ∧
    ∀ raw phone, normalizePhone raw = .ok phone → normalizePhone phone = .ok phone := by
  refine ⟨normalizePhone_eq_iff, ?_, ?_, fun _ _ => normalizePhone_idempotent⟩
  · intro raw raw' subscriber h h'
    rw [(normalizePhone_eq_iff raw subscriber).mpr h, (normalizePhone_eq_iff raw' subscriber).mpr h']
  · intro raw raw' subscriber subscriber' h h' hne hsame
    rw [(normalizePhone_eq_iff raw subscriber).mpr h, (normalizePhone_eq_iff raw' subscriber').mpr h'] at hsame
    have htext : "254" ++ subscriber.number = "254" ++ subscriber'.number := Except.ok.inj hsame
    exact hne ((String.append_right_inj "254").mp htext)

def safaricomLine : Subscriber := ⟨"712345678", by decide, List.all_eq_true.mp (by decide), by decide⟩

theorem normalizePhone_canonical_spellings : normalizePhone "+254 (712) 345-678" =
    normalizePhone "0712345678" :=
  normalizePhone_canonical.2.1 _ _ safaricomLine (.inr (.inr (by decide +kernel)))
    (.inr (.inl (by decide +kernel)))

end BridgeOfHope.Payments
