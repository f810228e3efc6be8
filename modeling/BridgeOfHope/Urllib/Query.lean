import BridgeOfHope.Bytes.BigEndian
import BridgeOfHope.Urllib.Split
import BridgeOfHope.Urllib.Utf8

namespace Urllib

open BigEndian

def hexValue (c : Char) : Option ℕ :=
  if '0' ≤ c ∧ c ≤ '9' then some (c.toNat - '0'.toNat)
  else if 'a' ≤ c ∧ c ≤ 'f' then some (c.toNat - 'a'.toNat + 10)
  else if 'A' ≤ c ∧ c ≤ 'F' then some (c.toNat - 'A'.toNat + 10)
  else none

def hexPair (high low : Char) : Option UInt8 := do
  return UInt8.ofNat (16 * (← hexValue high) + (← hexValue low))

-- `unquote_to_bytes(string)`. A percent sign that starts no escape stands for itself.
def unquoteToBytes : List Char → List UInt8
  | [] => []
  | [c] => String.utf8EncodeChar c
  | [c, d] => String.utf8EncodeChar c ++ String.utf8EncodeChar d
  | c :: high :: low :: rest =>
      match (if c = '%' then hexPair high low else none) with
      | some byte => byte :: unquoteToBytes rest
      | none => String.utf8EncodeChar c ++ unquoteToBytes (high :: low :: rest)

-- `unquote(string)`
def unquote (string : List Char) : List Char := decode (unquoteToBytes string)

-- Letters, digits and `_.-~` are never quoted.
def isSafe (byte : UInt8) : Bool :=
  (Char.ofNat byte.toNat).isAlphanum || (Char.ofNat byte.toNat) ∈ ['_', '.', '-', '~']

def quoteByte (byte : UInt8) : List Char :=
  if byte = 0x20 then ['+']
  else if isSafe byte then [Char.ofNat byte.toNat]
  else ['%', (Nat.digitChar (byte.toNat / 16)).toUpper, (Nat.digitChar (byte.toNat % 16)).toUpper]

-- `quote_plus(string)`
def quotePlus (string : List Char) : List Char := (encode string).flatMap quoteByte

-- `urlencode(query)` of a list of pairs
def urlencode (query : List (String × String)) : String :=
  String.ofList (['&'].intercalate (query.map fun pair =>
    quotePlus pair.1.toList ++ '=' :: quotePlus pair.2.toList))

def unquotePlus (string : List Char) : String :=
  String.ofList (unquote (string.map fun c => if c = '+' then ' ' else c))

-- A blank value is only kept on demand, and a field without an equals sign has one.
def parseField (keepBlankValues : Bool) (field : List Char) : Option (String × String) :=
  match cut '=' field with
  | (name, some value) => if keepBlankValues ∨ value ≠
    [] then some (unquotePlus name, unquotePlus value) else none
  | (name, none) => if keepBlankValues ∧ name ≠ [] then some (unquotePlus name, "") else none

-- `parse_qsl(qs, keep_blank_values)`
def parseQsl (keepBlankValues : Bool) (qs : String) : List (String × String) :=
  (qs.toList.splitOn '&').filterMap (parseField keepBlankValues)

variable {byte : UInt8} {rest : List Char}

-- No delimiter of a query, no blank and no control character.
def quoted (string : List Char) : Bool := string.all fun c => c ≠ '&' ∧ c ≠ '=' ∧ c ≠ '#' ∧ ' ' < c

theorem quoted_quoteByte : ∀ byte, quoted (quoteByte byte) = true :=
  forall_byte (by decide +kernel)

theorem safe_byte : ∀ byte, isSafe byte = true → String.utf8EncodeChar (Char.ofNat byte.toNat) = [byte] ∧
    Char.ofNat byte.toNat ≠ '%' ∧ Char.ofNat byte.toNat ≠ '+' :=
  forall_byte (by decide +kernel)

theorem escaped_byte : ∀ byte : UInt8,
    hexPair (Nat.digitChar (byte.toNat / 16)).toUpper (Nat.digitChar (byte.toNat % 16)).toUpper = some byte ∧
      (Nat.digitChar (byte.toNat / 16)).toUpper ≠ '+' ∧ (Nat.digitChar (byte.toNat % 16)).toUpper ≠ '+' :=
  forall_byte (by decide +kernel)

theorem unquoteToBytes_char {c : Char} (h : c ≠ '%') :
    unquoteToBytes (c :: rest) = String.utf8EncodeChar c ++ unquoteToBytes rest := by
  rcases rest with _ | ⟨d, _ | ⟨e, rest⟩⟩
  · exact (List.append_nil _).symm
  · rfl
  · rw [unquoteToBytes, if_neg h]

theorem unquoteToBytes_escape {high low : Char} (h : hexPair high low = some byte) :
    unquoteToBytes ('%' :: high :: low :: rest) = byte :: unquoteToBytes rest := by
  rw [unquoteToBytes, if_pos rfl, h]

theorem unquoteToBytes_quoteByte :
    unquoteToBytes ((quoteByte byte).map (fun c => if c = '+' then ' ' else c) ++ rest) = byte ::
      unquoteToBytes rest := by
  unfold quoteByte
  split
  · next hspace =>
      rw [hspace]
      exact unquoteToBytes_char (by decide)
  split
  · next hsafe =>
      obtain ⟨hbytes, hpercent, hplus⟩ := safe_byte byte hsafe
      rw [List.map_singleton, if_neg hplus, List.singleton_append, unquoteToBytes_char hpercent, hbytes]
      rfl
  · obtain ⟨hpair, hhigh, hlow⟩ := escaped_byte byte
    have hpercent : ¬ '%' = '+' := by decide
    simp only [List.map_cons, List.map_nil, if_neg hpercent, if_neg hhigh, if_neg hlow]
    exact unquoteToBytes_escape hpair

theorem unquotePlus_quotePlus (string : List Char) : unquotePlus (quotePlus string) = String.ofList string := by
  have hbytes (bytes : List UInt8) :
      unquoteToBytes ((bytes.flatMap quoteByte).map fun c => if c = '+' then ' ' else c) = bytes := by
    induction bytes with
    | nil => rfl
    | cons byte bytes ih => rw [List.flatMap_cons, List.map_append, unquoteToBytes_quoteByte, ih]
  unfold unquotePlus unquote quotePlus
  rw [hbytes, decode_encode]

theorem quoted_quotePlus (string : List Char) : quoted (quotePlus string) = true := by
  unfold quotePlus
  induction encode string with
  | nil => rfl
  | cons byte bytes ih =>
      unfold quoted at ih ⊢
      rw [List.flatMap_cons, List.all_append, ih, Bool.and_true]
      exact quoted_quoteByte byte

theorem unquoteToBytes_ne_nil {string : List Char} (h : string ≠ []) : unquoteToBytes string ≠ [] := by
  cases string with
  | nil => exact absurd rfl h
  | cons c string =>
      have hchar : String.utf8EncodeChar c ≠ [] := String.utf8EncodeChar_ne_nil
      by_cases hpercent : c = '%'
      · rcases string with _ | ⟨d, _ | ⟨e, string⟩⟩
        · exact hchar
        · exact List.append_ne_nil_of_left_ne_nil hchar _
        · rw [unquoteToBytes]
          split
          · exact List.cons_ne_nil _ _
          · exact List.append_ne_nil_of_left_ne_nil hchar _
      · rw [unquoteToBytes_char hpercent]
        exact List.append_ne_nil_of_left_ne_nil hchar _

theorem unquotePlus_eq_empty {string : List Char} : unquotePlus string = "" ↔ string = [] := by
  constructor
  · intro hempty
    by_contra hstring
    have hmap : (string.map fun c => if c = '+' then ' ' else c) ≠ [] := by simpa using hstring
    have hdecode := decode_ne_nil (unquoteToBytes_ne_nil hmap)
    have hlist := congrArg String.toList hempty
    rw [unquotePlus, String.toList_ofList] at hlist
    exact hdecode hlist
  · rintro rfl
    rfl

theorem quotePlus_eq_nil {string : String} : quotePlus string.toList = [] ↔ string = "" := by
  rw [← unquotePlus_eq_empty, unquotePlus_quotePlus, String.ofList_toList]

theorem quotePlus_plain {string : List Char} {c : Char} (h : c ∈ quotePlus string) :
    c ≠ '&' ∧ c ≠ '=' ∧ c ≠ '#' ∧ ' ' < c := by
  simpa using List.all_eq_true.mp (quoted_quotePlus string) c h

variable {keepBlankValues : Bool}

theorem parseField_pair (name value : String) :
    parseField keepBlankValues (quotePlus name.toList ++ '=' :: quotePlus value.toList) =
      if keepBlankValues ∨ value ≠ "" then some (name, value) else none := by
  have hname : '=' ∉ quotePlus name.toList := fun hmem => (quotePlus_plain hmem).2.1 rfl
  have hvalue : quotePlus value.toList ≠ [] ↔ value ≠ "" := not_congr quotePlus_eq_nil
  unfold parseField
  rw [cut_append hname]
  simp only [hvalue, unquotePlus_quotePlus, String.ofList_toList]

-- What was encoded is parsed again, up to blank values.
theorem parseQsl_urlencode (query : List (String × String)) :
    parseQsl keepBlankValues (urlencode query) = query.filter fun pair => keepBlankValues ∨ pair.2 ≠ "" := by
  unfold parseQsl urlencode
  rw [String.toList_ofList]
  by_cases hquery : query = []
  · rw [hquery]
    cases keepBlankValues <;> rfl
  rw [List.splitOn_intercalate '&' ?_ (by simpa using hquery), List.filterMap_map]
  · clear hquery
    induction query with
    | nil => rfl
    | cons pair query ih =>
        have hpair := @parseField_pair keepBlankValues pair.1 pair.2
        rw [List.filterMap_cons, Function.comp_apply, hpair, ih]
        by_cases hkept : keepBlankValues ∨ pair.2 ≠ ""
        · rw [if_pos hkept, List.filter_cons_of_pos (by simpa using hkept)]
        · rw [if_neg hkept, List.filter_cons_of_neg (by simpa using hkept)]
  · intro field hfield hmem
    obtain ⟨pair, -, rfl⟩ := List.mem_map.mp hfield
    rcases List.mem_append.mp hmem with hname | hvalue
    · exact (quotePlus_plain hname).1 rfl
    · rcases List.mem_cons.mp hvalue with hequals | hvalue
      · cases hequals
      · exact (quotePlus_plain hvalue).1 rfl

-- Leaving the blank values out comes to the same before and after the parse.
theorem parseQsl_false (qs : String) : parseQsl false qs = (parseQsl true qs).filter fun pair =>
    pair.2 ≠ "" := by
  unfold parseQsl
  rw [List.filter_filterMap]
  refine List.filterMap_congr fun field _ => ?_
  unfold parseField
  split
  · next name value hcut =>
      by_cases hvalue : value = []
      · simp [hvalue, Option.filter_some, unquotePlus_eq_empty]
      · simp [hvalue, Option.filter_some, unquotePlus_eq_empty]
  · next name hcut =>
      by_cases hname : name = []
      · simp [hname]
      · simp [hname, Option.filter_some]

theorem mem_urlencode {query : List (String × String)} {c : Char} (h : c ∈ (urlencode query).toList) :
    c = '&' ∨ c = '=' ∨ ∃ string, c ∈ quotePlus string := by
  unfold urlencode at h
  rw [String.toList_ofList] at h
  induction query with
  | nil => cases h
  | cons pair query ih =>
      have hfield (hmem : c ∈ quotePlus pair.1.toList ++ '=' :: quotePlus pair.2.toList) :
          c = '=' ∨ ∃ string, c ∈ quotePlus string := by
        rcases List.mem_append.mp hmem with hname | hvalue
        · exact .inr ⟨_, hname⟩
        · rcases List.mem_cons.mp hvalue with hequals | hvalue
          · exact .inl hequals
          · exact .inr ⟨_, hvalue⟩
      cases query with
      | nil => exact .inr (hfield (by simpa using h))
      | cons next query =>
          rw [List.map_cons, List.map_cons, List.intercalate_cons_cons, List.append_assoc, List.mem_append] at h
          rcases h with hmem | hmem
          · exact .inr (hfield hmem)
          · rcases List.mem_append.mp hmem with hamp | hrest
            · exact .inl (List.mem_singleton.mp hamp)
            · exact ih (by simpa using hrest)

-- An encoded query ends at no delimiter and is left alone by the cleaning of a URL.
theorem urlencode_plain {query : List (String × String)} {c : Char} (h : c ∈ (urlencode query).toList) :
    c ≠ '#' ∧ isBreak c = false := by
  rcases mem_urlencode h with rfl | rfl | ⟨string, hmem⟩
  · exact ⟨by decide, rfl⟩
  · exact ⟨by decide, rfl⟩
  · obtain ⟨-, -, hhash, hspace⟩ := quotePlus_plain hmem
    refine ⟨hhash, ?_⟩
    by_contra hbreak
    simp only [isBreak, Bool.not_eq_false, Bool.or_eq_true, decide_eq_true_eq] at hbreak
    rcases hbreak with (rfl | rfl) | rfl
    · exact absurd hspace (by decide)
    · exact absurd hspace (by decide)
    · exact absurd hspace (by decide)

end Urllib
