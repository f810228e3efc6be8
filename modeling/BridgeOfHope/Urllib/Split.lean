import Mathlib.Data.List.Basic
import Mathlib.Data.Nat.Notation

namespace Urllib

structure SplitResult where
  scheme : String
  netloc : String
  path : String
  query : String
  fragment : String
deriving DecidableEq

-- `text.split(sep, 1)`: what stands before the first separator, and what stands after it.
def cut (sep : Char) : List Char → List Char × Option (List Char)
  | [] => ([], none)
  | c :: text => if c = sep then ([], some text) else (c :: (cut sep text).1, (cut sep text).2)

def isSchemeChar (c : Char) : Bool := c.isAlphanum || c = '+' || c = '-' || c = '.'

def isScheme (scheme : List Char) : Bool := scheme.head?.any Char.isAlpha && scheme.all isSchemeChar

def isDelimiter (c : Char) : Bool := c = '/' || c = '?' || c = '#'

def isBreak (c : Char) : Bool := c = '\t' || c = '\r' || c = '\n'

-- Blanks and control characters in front are dropped, and every tab and line break.
def clean (url : List Char) : List Char :=
  (url.dropWhile fun c => c ≤ ' ').filter fun c => !isBreak c

def splitScheme (url : List Char) : List Char × List Char :=
  match cut ':' url with
  | (scheme, some rest) => if isScheme scheme then (scheme.map Char.toLower, rest) else ([], url)
  | (_, none) => ([], url)

def splitNetloc : List Char → List Char × List Char
  | '/' :: '/' :: url => (url.takeWhile fun c => !isDelimiter c, url.dropWhile fun c => !isDelimiter c)
  | url => ([], url)

-- `urlsplit(url)`. It raises when `check` does not take the authority.
def urlsplit {ε : Type} (check : String → Except ε Unit) (url : String) : Except ε SplitResult := do
  let scheme := splitScheme (clean url.toList)
  let netloc := splitNetloc scheme.2
  let fragment := cut '#' netloc.2
  let query := cut '?' fragment.1
  check (String.ofList netloc.1)
  return {
    scheme := String.ofList scheme.1
    netloc := String.ofList netloc.1
    path := String.ofList query.1
    query := String.ofList (query.2.getD [])
    fragment := String.ofList (fragment.2.getD []) }

def usesNetloc : List String :=
  ["", "ftp", "http", "gopher", "nntp", "telnet", "imap", "wais", "file", "mms", "https", "shttp", "snews",
    "prospero", "rtsp", "rtsps", "rtspu", "rsync", "svn", "svn+ssh", "sftp", "nfs", "git",
      "git+ssh", "ws", "wss",
    "itms-services"]

def unsplitNetloc (parts : SplitResult) : List Char :=
  let path := parts.path.toList
  if parts.netloc ≠ "" then
    '/' :: '/' :: parts.netloc.toList ++ (if path ≠ [] ∧ path.head? ≠ some '/' then '/' :: path else path)
  else if path.take 2 = ['/', '/'] then '/' :: '/' :: path
  else if parts.scheme ≠ "" ∧ parts.scheme ∈ usesNetloc ∧
    (path = [] ∨ path.head? = some '/') then '/' :: '/' :: path
  else path

-- A part with its separator, unless it is empty.
def suffixed (sep : Char) (part : String) : List Char := if part ≠ "" then sep :: part.toList else []

-- `urlunsplit(parts)`
def urlunsplit (parts : SplitResult) : String :=
  let scheme := if parts.scheme ≠ "" then parts.scheme.toList ++ [':'] else []
  String.ofList (scheme ++ unsplitNetloc parts ++ suffixed '?' parts.query ++ suffixed '#' parts.fragment)

section Cut

variable {sep : Char} {text head tail : List Char}

theorem cut_append (h : sep ∉ head) : cut sep (head ++ sep :: tail) = (head, some tail) := by
  induction head with
  | nil => simp [cut]
  | cons c head ih =>
      obtain ⟨hc, hhead⟩ := not_or.mp (mt List.mem_cons.mpr h)
      rw [List.cons_append, cut, if_neg (Ne.symm hc), ih hhead]

theorem cut_of_not_mem (h : sep ∉ text) : cut sep text = (text, none) := by
  induction text with
  | nil => rfl
  | cons c text ih =>
      obtain ⟨hc, htext⟩ := not_or.mp (mt List.mem_cons.mpr h)
      rw [cut, if_neg (Ne.symm hc), ih htext]

theorem not_mem_cut : sep ∉ (cut sep text).1 := by
  induction text with
  | nil => exact List.not_mem_nil
  | cons c text ih =>
      rw [cut]
      split
      · exact List.not_mem_nil
      · next hc =>
          intro hmem
          rcases List.mem_cons.mp hmem with hsep | hmem
          · exact hc hsep.symm
          · exact ih hmem

theorem cut_subset : (cut sep text).1 ⊆ text ∧ (cut sep text).2.getD [] ⊆ text := by
  induction text with
  | nil => exact ⟨List.Subset.refl _, List.Subset.refl _⟩
  | cons c text ih =>
      rw [cut]
      split
      · exact ⟨List.nil_subset _, List.subset_cons_self _ _⟩
      · exact ⟨List.cons_subset_cons _ ih.1, List.Subset.trans ih.2 (List.subset_cons_self _ _)⟩

theorem head?_cut : (cut sep text).1.head? = none ∨ (cut sep text).1.head? = text.head? := by
  cases text with
  | nil => exact .inl rfl
  | cons c text =>
      rw [cut]
      split
      · exact .inl rfl
      · exact .inr rfl

end Cut

-- The parts of a URL with an authority, each one such that it is found again.
structure WellFormed (parts : SplitResult) : Prop where
  scheme : isScheme parts.scheme.toList = true
  lower : parts.scheme.toList.map Char.toLower = parts.scheme.toList
  given : parts.netloc ≠ ""
  netloc : ∀ c ∈ parts.netloc.toList, isDelimiter c = false
  rooted : ∀ c ∈ parts.path.toList.head?, c = '/'
  path : '?' ∉ parts.path.toList ∧ '#' ∉ parts.path.toList
  query : '#' ∉ parts.query.toList
  unbroken : ∀ c ∈ parts.netloc.toList ++ parts.path.toList ++ parts.query.toList ++ parts.fragment.toList,
    isBreak c = false

section Unsplit

variable {parts : SplitResult}

theorem cut_suffixed {sep : Char} {head : List Char} {part : String} (h : sep ∉ head) :
    (cut sep (head ++ suffixed sep part)).1 = head ∧
    (cut sep (head ++ suffixed sep part)).2.getD [] = part.toList := by
  unfold suffixed
  split
  · rw [cut_append h]
    exact ⟨rfl, rfl⟩
  · next hempty =>
      rw [Decidable.not_not.mp hempty, List.append_nil, cut_of_not_mem h]
      exact ⟨rfl, rfl⟩

theorem isSchemeChar_unbroken {c : Char} (h : isSchemeChar c = true) : isBreak c = false ∧ c ≠ ':' := by
  constructor
  · by_contra hbreak
    simp only [isBreak, Bool.not_eq_false, Bool.or_eq_true, decide_eq_true_eq] at hbreak
    rcases hbreak with (rfl | rfl) | rfl <;> cases h
  · rintro rfl
    cases h

theorem unsplitNetloc_eq (h : WellFormed parts) :
    unsplitNetloc parts = '/' :: '/' :: parts.netloc.toList ++ parts.path.toList := by
  have hpath : ¬ (parts.path.toList ≠ [] ∧ parts.path.toList.head? ≠ some '/') := by
    rintro ⟨hne, hhead⟩
    obtain ⟨c, rest, hlist⟩ := List.exists_cons_of_ne_nil hne
    rw [hlist] at hhead
    have hroot := h.rooted c (by rw [hlist]; rfl)
    rw [hroot] at hhead
    exact hhead rfl
  unfold unsplitNetloc
  simp only
  rw [if_pos h.given, if_neg hpath]

theorem urlunsplit_eq (h : WellFormed parts) : (urlunsplit parts).toList = parts.scheme.toList ++
    ':' :: '/' :: '/' ::
    (parts.netloc.toList ++ (parts.path.toList ++ suffixed '?' parts.query ++
      suffixed '#' parts.fragment)) := by
  have hscheme : parts.scheme ≠ "" := by
    intro hempty
    have := h.scheme
    rw [hempty] at this
    cases this
  unfold urlunsplit
  simp only
  rw [if_pos hscheme, unsplitNetloc_eq h, String.toList_ofList]
  simp only [List.append_assoc, List.cons_append, List.nil_append]

theorem splitNetloc_append {netloc tail : List Char} (hnetloc : ∀ c ∈ netloc, isDelimiter c = false)
    (htail : ∀ c ∈ tail.head?, isDelimiter c = true) :
    splitNetloc ('/' :: '/' :: (netloc ++ tail)) = (netloc, tail) := by
  have hpos : ∀ c ∈ netloc, (!isDelimiter c) = true := fun c hc => by rw [hnetloc c hc]; rfl
  show ((netloc ++ tail).takeWhile fun c => !isDelimiter c,
    (netloc ++ tail).dropWhile fun c => !isDelimiter c) = _
  rw [List.takeWhile_append_of_pos hpos, List.dropWhile_append_of_pos hpos]
  cases tail with
  | nil => rw [List.takeWhile_nil, List.dropWhile_nil, List.append_nil]
  | cons c tail =>
      have hneg : ¬ (!isDelimiter c) = true := by rw [htail c rfl]; decide
      rw [List.takeWhile_cons_of_neg (p := fun c => !isDelimiter c) hneg,
        List.dropWhile_cons_of_neg (p := fun c => !isDelimiter c) hneg, List.append_nil]

theorem isAlpha_not_blank {c : Char} (h : c.isAlpha = true) : ¬ c ≤ ' ' := by
  intro hblank
  have hle : c.val.toNat ≤ 32 := hblank
  have hcases : (c.isUpper || c.isLower) = true := h
  rcases (Bool.or_eq_true _ _).mp hcases with hupper | hlower
  · have hA : 65 ≤ c.val.toNat := (of_decide_eq_true hupper).1
    omega
  · have ha : 97 ≤ c.val.toNat := of_decide_eq_true (Bool.and_eq_true_iff.mp hlower).1
    omega

theorem clean_of_unbroken {url : List Char} (hhead : ∀ c ∈ url.head?, ¬ c ≤ ' ')
    (hall : ∀ c ∈ url, isBreak c = false) :
    clean url = url := by
  have hdrop : url.dropWhile (fun c => c ≤ ' ') = url := by
    cases url with
    | nil => rfl
    | cons c url => exact List.dropWhile_cons_of_neg (by simpa using hhead c rfl)
  unfold clean
  rw [hdrop]
  exact List.filter_eq_self.mpr fun c hc => by rw [hall c hc]; rfl

theorem mem_suffixed {sep c : Char} {part : String} (h : c ∈ suffixed sep part) :
    c = sep ∨ c ∈ part.toList := by
  unfold suffixed at h
  split at h
  · exact List.mem_cons.mp h
  · cases h

theorem suffixed_head {sep c : Char} {part : String} (h : c ∈ (suffixed sep part).head?) : c = sep := by
  unfold suffixed at h
  split at h
  · exact (Option.some.inj h).symm
  · cases h

theorem unbroken_urlunsplit (h : WellFormed parts) : ∀ c ∈ (urlunsplit parts).toList, isBreak c = false := by
  have hscheme := List.all_eq_true.mp (Bool.and_eq_true_iff.mp h.scheme).2
  intro c hc
  rw [urlunsplit_eq h] at hc
  simp only [List.mem_append, List.mem_cons] at hc
  have hunbroken := h.unbroken c
  simp only [List.mem_append] at hunbroken
  rcases hc with hc | rfl | rfl | rfl | hc | (hc | hc) | hc
  · exact (isSchemeChar_unbroken (hscheme c hc)).1
  · rfl
  · rfl
  · rfl
  · exact hunbroken (.inl (.inl (.inl hc)))
  · exact hunbroken (.inl (.inl (.inr hc)))
  · rcases mem_suffixed hc with rfl | hc
    · rfl
    · exact hunbroken (.inl (.inr hc))
  · rcases mem_suffixed hc with rfl | hc
    · rfl
    · exact hunbroken (.inr hc)

theorem clean_urlunsplit (h : WellFormed parts) : clean (urlunsplit parts).toList =
    (urlunsplit parts).toList := by
  refine clean_of_unbroken (fun c hc => ?_) (unbroken_urlunsplit h)
  have hfirst := (Bool.and_eq_true_iff.mp h.scheme).1
  rw [urlunsplit_eq h] at hc
  cases hlist : parts.scheme.toList with
  | nil =>
      rw [hlist] at hfirst
      cases hfirst
  | cons first rest =>
      rw [hlist] at hfirst hc
      cases hc
      exact isAlpha_not_blank hfirst

theorem delimited_tail (h : WellFormed parts) :
    ∀ c ∈ (parts.path.toList ++ suffixed '?' parts.query ++ suffixed '#' parts.fragment).head?,
      isDelimiter c = true := by
  intro c hc
  rw [List.append_assoc, List.head?_append] at hc
  cases hpath : parts.path.toList.head? with
  | some root =>
      rw [hpath] at hc
      cases hc
      rw [h.rooted c hpath]
      rfl
  | none =>
      rw [hpath, Option.none_or, List.head?_append] at hc
      cases hquery : (suffixed '?' parts.query).head? with
      | some mark =>
          rw [hquery] at hc
          cases hc
          rw [suffixed_head hquery]
          rfl
      | none =>
          rw [hquery, Option.none_or] at hc
          rw [suffixed_head hc]
          rfl

-- The parts are found again.
theorem urlsplit_urlunsplit {ε : Type} {check : String → Except ε Unit} (h : WellFormed parts)
    (hcheck : check parts.netloc = .ok ()) : urlsplit check (urlunsplit parts) = .ok parts := by
  have hscheme : splitScheme (urlunsplit parts).toList = (parts.scheme.toList, '/' :: '/' ::
      (parts.netloc.toList ++ (parts.path.toList ++ suffixed '?' parts.query ++
        suffixed '#' parts.fragment))) := by
    have hcolon : ':' ∉ parts.scheme.toList := by
      have hall := List.all_eq_true.mp (Bool.and_eq_true_iff.mp h.scheme).2
      exact fun hmem => (isSchemeChar_unbroken (hall _ hmem)).2 rfl
    unfold splitScheme
    rw [urlunsplit_eq h, cut_append hcolon]
    simp only [h.scheme, if_true, h.lower]
  have hhash : '#' ∉ parts.path.toList ++ suffixed '?' parts.query := by
    intro hmem
    rcases List.mem_append.mp hmem with hpath | hquery
    · exact h.path.2 hpath
    · rcases mem_suffixed hquery with hmark | hquery
      · cases hmark
      · exact h.query hquery
  obtain ⟨hquery, hfragment⟩ := @cut_suffixed '#' _ parts.fragment hhash
  obtain ⟨hpath, hquery'⟩ := @cut_suffixed '?' _ parts.query h.path.1
  unfold urlsplit
  rw [clean_urlunsplit h, hscheme]
  simp only [splitNetloc_append h.netloc (delimited_tail h), hquery, hfragment, hpath, hquery',
    String.ofList_toList, hcheck]
  rfl

section Found

variable {url : List Char}

theorem clean_unbroken : ∀ c ∈ clean url, isBreak c = false := by
  intro c hc
  have hkept := (List.mem_filter.mp hc).2
  simpa using hkept

theorem splitScheme_subset : (splitScheme url).2 ⊆ url := by
  have hcut := (@cut_subset ':' url).2
  unfold splitScheme
  split
  · next scheme rest hsplit =>
      split
      · rw [hsplit] at hcut
        exact hcut
      · exact List.Subset.refl _
  · exact List.Subset.refl _

theorem splitNetloc_subset : (splitNetloc url).1 ⊆ url ∧ (splitNetloc url).2 ⊆ url := by
  unfold splitNetloc
  split
  · next rest =>
      have hrest : rest ⊆ '/' :: '/' :: rest := List.subset_cons_of_subset _ (List.subset_cons_self _ _)
      exact ⟨List.Subset.trans (List.takeWhile_subset _) hrest,
        List.Subset.trans (List.dropWhile_subset _) hrest⟩
  · exact ⟨List.nil_subset _, List.Subset.refl _⟩

theorem splitNetloc_delimited (h : (splitNetloc url).1 ≠ []) :
    (∀ c ∈ (splitNetloc url).1, isDelimiter c = false) ∧
    ∀ c ∈ (splitNetloc url).2.head?, isDelimiter c = true := by
  revert h
  unfold splitNetloc
  split
  · next rest =>
      intro _
      refine ⟨fun c hc => by simpa using List.all_eq_true.mp List.all_takeWhile c hc, fun c hc => ?_⟩
      have hfirst := List.head?_dropWhile_not (fun c => !isDelimiter c) rest
      rw [hc] at hfirst
      simpa using hfirst
  · exact fun hnone => absurd rfl hnone

def pathOf (url : List Char) : List Char := (cut '?' (cut '#' (splitNetloc url).2).1).1

theorem pathOf_plain : '?' ∉ pathOf url ∧ '#' ∉ pathOf url :=
  ⟨not_mem_cut, fun hmem => not_mem_cut (cut_subset.1 hmem)⟩

theorem pathOf_subset : pathOf url ⊆ url :=
  fun _ hmem => splitNetloc_subset.2 (cut_subset.1 (cut_subset.1 hmem))

theorem head?_pathOf {c : Char} (h : c ∈ (pathOf url).head?) : c ∈ (splitNetloc url).2.head? := by
  rcases @head?_cut '?' (cut '#' (splitNetloc url).2).1 with hnone | hquery
  · rw [pathOf, hnone] at h
    cases h
  rcases @head?_cut '#' (splitNetloc url).2 with hnone | hfragment
  · rw [pathOf, hquery, hnone] at h
    cases h
  · rwa [pathOf, hquery, hfragment] at h

-- What follows an authority starts with a slash, if it is not the query or the fragment.
theorem pathOf_rooted (h : (splitNetloc url).1 ≠ []) : ∀ c ∈ (pathOf url).head?, c = '/' := by
  intro c hc
  have hmem : c ∈ pathOf url := List.mem_of_mem_head? hc
  have hcases := (splitNetloc_delimited h).2 c (head?_pathOf hc)
  simp only [isDelimiter, Bool.or_eq_true, decide_eq_true_eq] at hcases
  rcases hcases with (hroot | rfl) | rfl
  · exact hroot
  · exact absurd hmem pathOf_plain.1
  · exact absurd hmem pathOf_plain.2

end Found

theorem urlsplit_ok {ε : Type} {check : String → Except ε Unit} {url : String}
    (h : urlsplit check url = .ok parts) :
    check parts.netloc = .ok () ∧ ∃ rest, (∀ c ∈ rest, isBreak c = false) ∧
      parts.netloc.toList = (splitNetloc rest).1 ∧ parts.path.toList = pathOf rest ∧
        parts.fragment.toList ⊆ rest := by
  unfold urlsplit at h
  simp only at h
  cases hcheck : check (String.ofList (splitNetloc (splitScheme (clean url.toList)).2).1) with
  | error error =>
      rw [hcheck] at h
      cases h
  | ok _ =>
      rw [hcheck] at h
      cases h
      refine ⟨hcheck, (splitScheme (clean url.toList)).2, fun c hc => clean_unbroken c (splitScheme_subset hc),
        String.toList_ofList, String.toList_ofList, fun c hc => ?_⟩
      rw [String.toList_ofList] at hc
      exact splitNetloc_subset.2 (cut_subset.2 hc)

-- What a URL was split into is found again, under any scheme and with any query.
theorem wellFormed_of_urlsplit {ε : Type} {check : String → Except ε Unit} {url scheme query : String}
    (h : urlsplit check url = .ok parts) (hgiven : parts.netloc ≠ "") (hscheme : isScheme scheme.toList = true)
    (hlower : scheme.toList.map Char.toLower = scheme.toList)
    (hquery : ∀ c ∈ query.toList, c ≠ '#' ∧ isBreak c = false) :
    WellFormed { parts with scheme, query } ∧ check parts.netloc = .ok () := by
  obtain ⟨hcheck, rest, hunbroken, hnetloc, hpath, hfragment⟩ := urlsplit_ok h
  have hsplit : (splitNetloc rest).1 ≠ [] := by
    rw [← hnetloc]
    exact fun hempty => hgiven (String.toList_eq_nil_iff.mp hempty)
  refine ⟨⟨hscheme, hlower, hgiven, ?_, ?_, ?_, fun hmem => (hquery _ hmem).1 rfl, ?_⟩, hcheck⟩
  · rw [hnetloc]
    exact (splitNetloc_delimited hsplit).1
  · rw [hpath]
    exact pathOf_rooted hsplit
  · rw [hpath]
    exact pathOf_plain
  · intro c hc
    rw [hnetloc, hpath] at hc
    simp only [List.mem_append] at hc
    rcases hc with ((hc | hc) | hc) | hc
    · exact hunbroken c (splitNetloc_subset.1 hc)
    · exact hunbroken c (pathOf_subset hc)
    · exact (hquery c hc).2
    · exact hunbroken c (hfragment hc)

end Unsplit

end Urllib
