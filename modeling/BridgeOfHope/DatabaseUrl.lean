import BridgeOfHope.Dict
import BridgeOfHope.Python
import BridgeOfHope.Urllib.Query

namespace BridgeOfHope

open Urllib

-- `_to_asyncpg_url(url)`. What `urlsplit` asks of an authority is `checkNetloc`: brackets
-- hold an IP address, and no delimiter shows up in the normal form of its characters.
def toAsyncpgUrl (checkNetloc : String → Except Exn Unit) (url : String) : Except Exn String := do
  let parts ← urlsplit checkNetloc url
  let scheme := "postgresql+asyncpg"
  let query := Dict.ofPairs (parseQsl false parts.query)
  let (_, query) := query.pop "channel_binding"
  let (sslmode, query) := query.pop "sslmode"
  let query := if sslmode.getD "" ≠ "" ∨ "ssl" ∉ query.keys then query.setDefault "ssl" "require" else query
  let newQuery := urlencode query.items
  return urlunsplit { parts with scheme, query := newQuery }

abbrev Params := List (String × String)

def Params.names (params : Params) : List String := params.map Prod.fst

-- The parameters that asyncpg is given under their own names.
def understood (name : String) : Bool := name ≠ "sslmode" ∧ name ≠ "channel_binding"

def givenParams (params : Params) : Dict String String :=
  (Dict.ofPairs (params.filter fun param => param.2 ≠ "")).filterKeys understood

-- The parameters of the URL in the form in which `_to_asyncpg_url` writes them.
def asyncpgParams (params : Params) : Dict String String := (givenParams params).setDefault "ssl" "require"

-- A form that is kept as it stands.
structure Canonical (params : Params) : Prop where
  sslmode : "sslmode" ∉ params.names
  channelBinding : "channel_binding" ∉ params.names
  ssl : ∃ value, value ≠ "" ∧ (params.filter fun param => param.1 = "ssl") = [("ssl", value)]
  distinct : params.names.Nodup
  nonblank : ∀ param ∈ params, param.2 ≠ ""

section Parameters

variable {params : Params} {name : String} {param : String × String}

theorem mem_keys_givenParams : name ∈ (givenParams params).keys ↔
    (∃ value, (name, value) ∈ params ∧ value ≠ "") ∧ understood name = true := by
  rw [givenParams, Dict.mem_keys_filterKeys, Dict.mem_keys_ofPairs, List.mem_map]
  refine and_congr_left fun _ => ?_
  constructor
  · rintro ⟨⟨_, value⟩, hparam, rfl⟩
    obtain ⟨hmem, hvalue⟩ := List.mem_filter.mp hparam
    exact ⟨value, hmem, of_decide_eq_true hvalue⟩
  · rintro ⟨value, hmem, hvalue⟩
    exact ⟨(name, value), List.mem_filter.mpr ⟨hmem, decide_eq_true hvalue⟩, rfl⟩

theorem mem_givenParams (h : param ∈ (givenParams params).items) :
    param ∈ params ∧ param.2 ≠ "" ∧ understood param.1 = true := by
  obtain ⟨hmem, hname⟩ := List.mem_filter.mp h
  obtain ⟨hparam, hvalue⟩ := List.mem_filter.mp (Dict.mem_ofPairs hmem)
  exact ⟨hparam, of_decide_eq_true hvalue, hname⟩

-- Distinct parameters with values are all kept, and in their order.
theorem items_givenParams (hdistinct : (params.names.filter understood).Nodup)
    (hnonblank : ∀ param ∈ params, understood param.1 = true → param.2 ≠ "") :
    (givenParams params).items = params.filter fun param => understood param.1 := by
  have hvalues : ((params.filter fun param => param.2 ≠ "").filter fun param => understood param.1) =
      params.filter fun param => understood param.1 := by
    rw [List.filter_filter]
    refine List.filter_congr fun param hparam => ?_
    by_cases hname : understood param.1 = true
    · simp [hname, hnonblank param hparam hname]
    · simp [hname]
  rw [givenParams, Dict.filterKeys_ofPairs, hvalues]
  apply Dict.items_ofPairs
  rwa [Params.names, List.filter_map] at hdistinct

theorem understood_asyncpgParams (h : param ∈ (asyncpgParams params).items) :
    understood param.1 = true ∧ param.2 ≠ "" := by
  rcases Dict.mem_setDefault h with hgiven | rfl
  · obtain ⟨-, hvalue, hname⟩ := mem_givenParams hgiven
    exact ⟨hname, hvalue⟩
  · exact ⟨rfl, by decide⟩

theorem canonical_asyncpgParams : Canonical (asyncpgParams params).items := by
  have hunderstood : ∀ name ∈ (asyncpgParams params).keys, understood name = true := by
    intro name hname
    obtain ⟨param, hparam, rfl⟩ := List.mem_map.mp hname
    exact (understood_asyncpgParams hparam).1
  have hssl : "ssl" ∈ (asyncpgParams params).keys := Dict.mem_keys_setDefault.mpr (.inr rfl)
  obtain ⟨value, hmem, hvalue⟩ := Dict.items_of_mem_keys hssl
  refine ⟨fun h => ?_, fun h => ?_, ⟨value, (understood_asyncpgParams hmem).2, hvalue⟩,
    (asyncpgParams params).nodup, fun param hparam => (understood_asyncpgParams hparam).2⟩
  · exact absurd (hunderstood _ h) (by decide)
  · exact absurd (hunderstood _ h) (by decide)

theorem asyncpgParams_of_canonical (h : Canonical params) : (asyncpgParams params).items = params := by
  have hunderstood : ∀ param ∈ params, understood param.1 = true := by
    intro param hparam
    have hname : param.1 ∈ params.names := List.mem_map_of_mem hparam
    refine decide_eq_true ⟨fun hsame => h.sslmode ?_, fun hsame => h.channelBinding ?_⟩
    · rwa [← hsame]
    · rwa [← hsame]
  have hgiven : (givenParams params).items = params := by
    rw [items_givenParams (h.distinct.sublist List.filter_sublist) fun param hparam _ =>
      h.nonblank param hparam]
    exact List.filter_eq_self.mpr hunderstood
  have hssl : "ssl" ∈ (givenParams params).keys := by
    obtain ⟨value, -, hvalue⟩ := h.ssl
    have hmem : ("ssl", value) ∈ params := (List.mem_filter.mp (hvalue ▸ List.mem_singleton_self _)).1
    rw [Dict.keys, hgiven]
    exact List.mem_map_of_mem hmem
  rw [asyncpgParams, Dict.setDefault_of_mem hssl, hgiven]

end Parameters

variable {checkNetloc : String → Except Exn Unit} {url : String} {parts : SplitResult}

-- Whatever `sslmode` was, the default is only taken when there is no `ssl`.
theorem toAsyncpgUrl_eq (h : urlsplit checkNetloc url = .ok parts) : toAsyncpgUrl checkNetloc url =
    .ok (urlunsplit { parts with
      scheme := "postgresql+asyncpg"
      query := urlencode (asyncpgParams (parseQsl true parts.query)).items }) := by
  have hdefault (query : Dict String String) (sslmode : Option String) :
      (if sslmode.getD "" ≠ "" ∨ "ssl" ∉ query.keys then query.setDefault "ssl" "require" else query) =
        query.setDefault "ssl" "require" := by
    split
    · rfl
    · next hkept => exact (Dict.setDefault_of_mem (not_not.mp (not_or.mp hkept).2)).symm
  have hpops (query : Dict String String) :
      (query.filterKeys fun name => name ≠ "channel_binding").filterKeys (fun name => name ≠ "sslmode") =
        query.filterKeys understood := by
    apply Dict.ext
    simp [Dict.items_filterKeys, List.filter_filter, understood]
  have hpopped (query : Dict String String) := hdefault (query.pop "sslmode").2 (query.pop "sslmode").1
  have hparams := hpopped ((Dict.ofPairs (parseQsl false parts.query)).pop "channel_binding").2
  unfold toAsyncpgUrl
  rw [h]
  refine (congrArg (fun query : Dict String String => Except.ok (urlunsplit { parts with
    scheme := "postgresql+asyncpg", query := urlencode query.items })) hparams).trans ?_
  rw [Dict.pop, Dict.pop, hpops, parseQsl_false]
  rfl

-- The parts of the result, and the parameters in it.
theorem urlsplit_toAsyncpgUrl (h : urlsplit checkNetloc url = .ok parts) (hgiven : parts.netloc ≠ "") :
    ∃ result found, toAsyncpgUrl checkNetloc url = .ok result ∧ urlsplit checkNetloc result = .ok found ∧
      found.scheme = "postgresql+asyncpg" ∧ found.netloc = parts.netloc ∧ found.path = parts.path ∧
      found.fragment = parts.fragment ∧
      found.query = urlencode (asyncpgParams (parseQsl true parts.query)).items := by
  have hscheme : isScheme "postgresql+asyncpg".toList = true := by decide +kernel
  have hlower : "postgresql+asyncpg".toList.map Char.toLower = "postgresql+asyncpg".toList := by decide +kernel
  obtain ⟨hparts, hcheck⟩ := wellFormed_of_urlsplit h hgiven hscheme hlower fun c hc => urlencode_plain hc
  exact ⟨_, _, toAsyncpgUrl_eq h, urlsplit_urlunsplit hparts hcheck, rfl, rfl, rfl, rfl, rfl⟩

theorem parseQsl_asyncpgParams {params : Params} {query : String}
    (h : query = urlencode (asyncpgParams params).items) :
    parseQsl true query = (asyncpgParams params).items := by
  rw [h, parseQsl_urlencode]
  exact List.filter_eq_self.mpr fun _ _ => decide_eq_true (.inl rfl)

theorem toAsyncpgUrl_canonical (h : urlsplit checkNetloc url = .ok parts) (hgiven : parts.netloc ≠ "") :
    ∃ result found, toAsyncpgUrl checkNetloc url = .ok result ∧ urlsplit checkNetloc result = .ok found ∧
      found.scheme = "postgresql+asyncpg" ∧ found.netloc = parts.netloc ∧ found.path = parts.path ∧
      found.fragment = parts.fragment ∧ Canonical (parseQsl true found.query) ∧
      toAsyncpgUrl checkNetloc result = .ok result := by
  obtain ⟨result, found, hresult, hfound, hscheme, hnetloc, hpath, hfragment, hquery⟩ :=
    urlsplit_toAsyncpgUrl h hgiven
  have hparams := parseQsl_asyncpgParams hquery
  have hcanonical := @canonical_asyncpgParams (parseQsl true parts.query)
  refine ⟨result, found, hresult, hfound, hscheme, hnetloc, hpath, hfragment, hparams ▸ hcanonical, ?_⟩
  have hsame : { found with
      scheme := "postgresql+asyncpg", query := urlencode (asyncpgParams (parseQsl true found.query)).items } =
      { parts with
        scheme := "postgresql+asyncpg"
        query := urlencode (asyncpgParams (parseQsl true parts.query)).items } := by
    rw [hparams, asyncpgParams_of_canonical hcanonical, hnetloc, hpath, hfragment]
  rw [toAsyncpgUrl_eq hfound, hsame, ← toAsyncpgUrl_eq h, hresult]

theorem toAsyncpgUrl_canonical_neon : urlsplit (fun _ => (.ok () : Except Exn Unit))
    "postgresql://app:pw@ep-1.neon.tech/app?sslmode=require&channel_binding=require" =
      .ok ⟨"postgresql", "app:pw@ep-1.neon.tech", "/app", "sslmode=require&channel_binding=require", ""⟩ ∧
    "app:pw@ep-1.neon.tech" ≠ "" ∧
    ∃ result found, toAsyncpgUrl (fun _ => .ok ())
        "postgresql://app:pw@ep-1.neon.tech/app?sslmode=require&channel_binding=require" = .ok result ∧
      urlsplit (fun _ => (.ok () : Except Exn Unit)) result = .ok found ∧
      found.scheme = "postgresql+asyncpg" ∧ found.netloc = "app:pw@ep-1.neon.tech" ∧ found.path = "/app" ∧
      found.fragment = "" ∧ Canonical (parseQsl true found.query) ∧
      toAsyncpgUrl (fun _ => .ok ()) result = .ok result := by
  have hsplit : urlsplit (fun _ => (.ok () : Except Exn Unit))
      "postgresql://app:pw@ep-1.neon.tech/app?sslmode=require&channel_binding=require" =
        .ok ⟨"postgresql", "app:pw@ep-1.neon.tech", "/app", "sslmode=require&channel_binding=require", ""⟩ := by
    decide +kernel
  exact ⟨hsplit, by decide, toAsyncpgUrl_canonical hsplit (by decide)⟩

example : toAsyncpgUrl (fun _ => .ok ())
    "postgresql://app:pw@ep-1.neon.tech/app?sslmode=require&channel_binding=require" =
      .ok "postgresql+asyncpg://app:pw@ep-1.neon.tech/app?ssl=require" := by decide +kernel

-- What the parameters of the URL ask for, and what is made of it.

def libpqModes : List String := ["disable", "allow", "prefer", "require", "verify-ca", "verify-full"]

-- `sslmode` becomes `ssl`, unless there is one, and `channel_binding` goes.
def keptName (params : Params) (name : String) : Bool := understood name ∧ (name = "ssl" → "ssl" ∈ params.names)

structure Carried (params params' : Params) : Prop where
  tls : ∀ mode ∈ libpqModes, ("sslmode", mode) ∈ params → "ssl" ∉ params.names →
    (params'.filter fun param => param.1 = "ssl") = [("ssl", mode)]
  others : (params'.filter fun param => keptName params param.1) =
    params.filter fun param => keptName params param.1

structure Portable (params : Params) : Prop where
  tls : "ssl" ∉ params.names → ∀ mode ∈ libpqModes, ("sslmode", mode) ∈ params → mode = "require"
  distinct : (params.names.filter understood).Nodup
  nonblank : ∀ param ∈ params, understood param.1 = true → param.2 ≠ ""

section Carried

variable {params : Params} {param : String × String}

theorem keptName_iff (h : param ∈ params) : keptName params param.1 = understood param.1 := by
  have hssl : param.1 = "ssl" → "ssl" ∈ params.names := fun hname => hname ▸ List.mem_map_of_mem h
  rw [Bool.eq_iff_iff, keptName, decide_eq_true_eq]
  exact and_iff_left hssl

theorem filter_keptName : (params.filter fun param => keptName params param.1) =
    params.filter fun param => understood param.1 :=
  List.filter_congr fun _ hparam => keptName_iff hparam

-- Without an `ssl` parameter TLS is required, whatever `sslmode` says.
theorem items_asyncpgParams (h : "ssl" ∉ params.names) :
    (asyncpgParams params).items = (givenParams params).items ++ [("ssl", "require")] := by
  apply Dict.items_setDefault_of_not_mem
  intro hmem
  obtain ⟨⟨value, hparam, -⟩, -⟩ := mem_keys_givenParams.mp hmem
  exact h (List.mem_map_of_mem hparam)

theorem ssl_asyncpgParams (h : "ssl" ∉ params.names) :
    ((asyncpgParams params).items.filter fun param => param.1 = "ssl") = [("ssl", "require")] := by
  have hnone : ((givenParams params).items.filter fun param => param.1 = "ssl") = [] := by
    rw [List.filter_eq_nil_iff]
    intro param hparam hname
    exact h (of_decide_eq_true hname ▸ List.mem_map_of_mem (mem_givenParams hparam).1)
  rw [items_asyncpgParams h, List.filter_append, hnone]
  rfl

theorem portable_of_carried (h : Carried params (asyncpgParams params).items) : Portable params := by
  have hothers := h.others
  rw [filter_keptName] at hothers
  refine ⟨fun hssl mode hmode hparam => ?_, ?_, fun param hparam hname => ?_⟩
  · have htls := h.tls mode hmode hparam hssl
    rw [ssl_asyncpgParams hssl] at htls
    cases htls
    rfl
  · rw [Params.names, List.filter_map]
    exact hothers ▸ (asyncpgParams params).nodup.sublist (List.filter_sublist.map Prod.fst)
  · have hmem : param ∈ params.filter fun param => understood param.1 := List.mem_filter.mpr ⟨hparam, hname⟩
    rw [← hothers] at hmem
    exact (understood_asyncpgParams (List.mem_filter.mp hmem).1).2

theorem carried_of_portable (h : Portable params) : Carried params (asyncpgParams params).items := by
  have hgiven := items_givenParams h.distinct h.nonblank
  have hkept : ((givenParams params).items.filter fun param => keptName params param.1) =
      (givenParams params).items := by
    refine List.filter_eq_self.mpr fun param hparam => ?_
    obtain ⟨hmem, -, hname⟩ := mem_givenParams hparam
    rw [keptName_iff hmem, hname]
  refine ⟨fun mode hmode hparam hssl => ?_, ?_⟩
  · rw [ssl_asyncpgParams hssl, h.tls hssl mode hmode hparam]
  · rw [filter_keptName, ← hgiven]
    by_cases hssl : "ssl" ∈ params.names
    · obtain ⟨⟨_, value⟩, hparam, hname⟩ := List.mem_map.mp hssl
      cases hname
      have hmem : "ssl" ∈ (givenParams params).keys :=
        mem_keys_givenParams.mpr ⟨⟨value, hparam, h.nonblank _ hparam rfl⟩, rfl⟩
      rw [asyncpgParams, Dict.setDefault_of_mem hmem, hkept]
    · rw [items_asyncpgParams hssl, List.filter_append, hkept]
      simp [keptName, hssl]

end Carried

theorem toAsyncpgUrl_carries (h : urlsplit checkNetloc url = .ok parts) (hgiven : parts.netloc ≠ "") :
    (∃ result found, toAsyncpgUrl checkNetloc url = .ok result ∧ urlsplit checkNetloc result = .ok found ∧
      Carried (parseQsl true parts.query) (parseQsl true found.query)) ↔
        Portable (parseQsl true parts.query) := by
  obtain ⟨result, found, hresult, hfound, -, -, -, -, hquery⟩ := urlsplit_toAsyncpgUrl h hgiven
  constructor
  · rintro ⟨result', found', hresult', hfound', hcarried⟩
    cases hresult.symm.trans hresult'
    cases hfound.symm.trans hfound'
    rw [parseQsl_asyncpgParams hquery] at hcarried
    exact portable_of_carried hcarried
  · intro hportable
    refine ⟨result, found, hresult, hfound, ?_⟩
    rw [parseQsl_asyncpgParams hquery]
    exact carried_of_portable hportable

-- The name that the application gives itself is carried over.
theorem toAsyncpgUrl_carries_application_name : urlsplit (fun _ => (.ok () : Except Exn Unit))
    "postgresql://app:pw@db.example/app?sslmode=require&application_name=bridge+of+hope" =
      .ok ⟨"postgresql", "app:pw@db.example", "/app", "sslmode=require&application_name=bridge+of+hope", ""⟩ ∧
    "app:pw@db.example" ≠ "" ∧
    ∃ result found, toAsyncpgUrl (fun _ => .ok ())
        "postgresql://app:pw@db.example/app?sslmode=require&application_name=bridge+of+hope" = .ok result ∧
      urlsplit (fun _ => (.ok () : Except Exn Unit)) result = .ok found ∧
      Carried [("sslmode", "require"), ("application_name", "bridge of hope")] (parseQsl true found.query) ∧
      ("application_name", "bridge of hope") ∈ parseQsl true found.query := by
  have hsplit : urlsplit (fun _ => (.ok () : Except Exn Unit))
      "postgresql://app:pw@db.example/app?sslmode=require&application_name=bridge+of+hope" =
        .ok ⟨"postgresql", "app:pw@db.example", "/app",
          "sslmode=require&application_name=bridge+of+hope", ""⟩ := by
    decide +kernel
  have hparams : parseQsl true "sslmode=require&application_name=bridge+of+hope" =
      [("sslmode", "require"), ("application_name", "bridge of hope")] := by decide +kernel
  have hportable : Portable [("sslmode", "require"), ("application_name", "bridge of hope")] :=
    ⟨by decide, by decide, by decide⟩
  obtain ⟨result, found, hresult, hfound, hcarried⟩ :=
    (toAsyncpgUrl_carries hsplit (by decide)).mpr (hparams ▸ hportable)
  rw [hparams] at hcarried
  refine ⟨hsplit, by decide, result, found, hresult, hfound, hcarried, ?_⟩
  have hmem : ("application_name", "bridge of hope") ∈ (parseQsl true found.query).filter fun param =>
      keptName [("sslmode", "require"), ("application_name", "bridge of hope")] param.1 := by
    rw [hcarried.others]
    decide
  exact (List.mem_filter.mp hmem).1

-- A certificate that was to be verified no longer is.
theorem verify_full_lowered : ∃ url parts result found,
    urlsplit (fun _ => (.ok () : Except Exn Unit)) url = .ok parts ∧ parts.netloc ≠ "" ∧
      toAsyncpgUrl (fun _ => .ok ()) url = .ok result ∧
      urlsplit (fun _ => (.ok () : Except Exn Unit)) result = .ok found ∧
      parseQsl true parts.query = [("sslmode", "verify-full")] ∧
      parseQsl true found.query = [("ssl", "require")] ∧
      ¬ Carried (parseQsl true parts.query) (parseQsl true found.query) := by
  have hbefore : parseQsl true "sslmode=verify-full" = [("sslmode", "verify-full")] := by decide +kernel
  have hafter : parseQsl true "ssl=require" = [("ssl", "require")] := by decide +kernel
  refine ⟨"postgresql://app:pw@db.example/app?sslmode=verify-full",
    ⟨"postgresql", "app:pw@db.example", "/app", "sslmode=verify-full", ""⟩,
    "postgresql+asyncpg://app:pw@db.example/app?ssl=require",
    ⟨"postgresql+asyncpg", "app:pw@db.example", "/app", "ssl=require", ""⟩,
    by decide +kernel, by decide, by decide +kernel, by decide +kernel, hbefore, hafter, fun hcarried => ?_⟩
  rw [hbefore, hafter] at hcarried
  have htls := hcarried.tls "verify-full" (by decide) (by decide) (by decide)
  exact absurd htls (by decide)

end BridgeOfHope
