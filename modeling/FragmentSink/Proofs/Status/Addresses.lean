import FragmentSink.Status.Check
import Mathlib.Data.List.DropRight

/-
  Which host is asked for the health and for the metrics.

  The health is asked of the host that is given, however many
  slashes stand behind its address.  The metrics are asked of
  the same host exactly if its name does not begin with
  `health`: that word is lost with the slash in front of it,
  and the host that is left of the name is asked instead.

  Main statements:
    * `Parts.replace_append_self`
    * `Address.ofText?_singleSlash`
    * `Status.metricsAddress_of_not_health`
    * `Status.fetch_metricsAddress_health_append`
    * `Status.asked_of_host`
-/

namespace FragmentSink

------------------------------------------------------------
-- Replacing
------------------------------------------------------------

namespace Parts

variable {old new cs ds : List Char}
variable {c : Char}

/- The rest of an occurrence is skipped. -/
theorem replaceFrom_eq_drop
    (old new : List Char)
    (skip : Nat)
    (cs : List Char) :
    replaceFrom old new skip cs = replace old new (cs.drop skip) := by
  induction cs generalizing skip with
  | nil => cases skip <;> rfl
  | cons c cs ih =>
      cases skip with
      | zero => rfl
      | succ skip => exact ih skip

/- An occurrence at the front is replaced. -/
theorem replace_append_self
    (hOld : old ≠ [])
    (new cs : List Char) :
    replace old new (old ++ cs) = new ++ replace old new cs := by
  cases old with
  | nil => exact absurd rfl hOld
  | cons c old =>
      have hFront :
          (c :: old).isPrefixOf (c :: (old ++ cs)) = true := by
        rw [List.isPrefixOf_iff_prefix]
        exact List.prefix_append (c :: old) cs
      rw [replace, List.cons_append, replaceFrom, if_pos hFront,
        replaceFrom_eq_drop, List.length_cons, Nat.add_sub_cancel,
        List.drop_left]

/- A character at which nothing begins stays. -/
theorem replace_cons_of_miss
    (hFront : ¬ old <+: c :: cs) :
    replace old new (c :: cs) = c :: replace old new cs := by
  rw [replace, replaceFrom, if_neg]
  · rfl
  · rwa [List.isPrefixOf_iff_prefix]

/- A text without the first character of what is replaced stays. -/
theorem replace_append_of_not_mem
    (hOld : old.head? = some c)
    (hText : c ∉ cs) :
    replace old new (cs ++ ds) = cs ++ replace old new ds := by
  induction cs with
  | nil => rfl
  | cons d cs ih =>
      rw [List.mem_cons, not_or] at hText
      have hFront : ¬ old <+: d :: (cs ++ ds) := by
        intro hFront
        rw [← List.singleton_prefix_iff_head?_eq_some] at hOld
        have hHead := hOld.trans hFront
        rw [List.cons_prefix_cons] at hHead
        exact hText.1 hHead.1
      rw [List.cons_append, replace_cons_of_miss hFront,
        ih hText.2, List.cons_append]

/- A text without some character of what is replaced stays. -/
theorem replace_of_not_mem
    (hOld : c ∈ old)
    (hText : c ∉ cs) :
    replace old new cs = cs := by
  induction cs with
  | nil => rfl
  | cons d cs ih =>
      have hFront : ¬ old <+: d :: cs := fun h =>
        hText (h.subset hOld)
      rw [replace_cons_of_miss hFront,
        ih (fun h => hText (List.mem_cons_of_mem d h))]

/- A beginning without some character ends in front of that character. -/
theorem prefix_of_prefix_append_cons
    (hNot : c ∉ old)
    (hFront : old <+: cs ++ c :: ds) :
    old <+: cs := by
  rcases List.prefix_or_prefix_of_prefix hFront
      (List.prefix_append cs (c :: ds)) with
    hShort | ⟨rest, rfl⟩
  · exact hShort
  · rw [List.prefix_append_right_inj] at hFront
    cases rest with
    | nil => simp
    | cons d rest =>
        rw [List.cons_prefix_cons] at hFront
        rw [hFront.1] at hNot
        exact absurd
          (List.mem_append_right cs List.mem_cons_self) hNot

------------------------------------------------------------
-- Cutting the End
------------------------------------------------------------

variable {test : Char → Bool}

theorem trimEnd_eq_rdropWhile (test : Char → Bool) (cs : List Char) :
    trimEnd test cs = cs.rdropWhile test :=
  rfl

/- Nothing is dropped in front of a character that fails the test. -/
theorem trimEnd_append_cons
    (hKept : test c = false)
    (cs ds : List Char) :
    trimEnd test (cs ++ c :: ds) = cs ++ c :: trimEnd test ds := by
  simp only [trimEnd_eq_rdropWhile]
  induction ds using List.reverseRecOn with
  | nil =>
      exact List.rdropWhile_concat_neg _ _ _ (by simp [hKept])
  | append_singleton ds d ih =>
      rw [← List.cons_append, ← List.append_assoc,
        List.rdropWhile_concat, List.rdropWhile_concat]
      split
      · exact ih
      · rw [List.append_assoc, List.cons_append]

end Parts

------------------------------------------------------------
-- Slashes after a Scheme
------------------------------------------------------------

namespace Address

/- A slash behind the scheme of a web address is passed over. -/
theorem readWeb?_slash
    (scheme : String)
    (rest : List Char) :
    readWeb? scheme ('/' :: rest) = readWeb? scheme rest := by
  simp [readWeb?, SchemeKind.isSlash]

/- What counts of the text behind the first slash of a web address. -/
def countedOf (s : String) : List Char :=
  (Parts.trimEnd (fun c => c.toNat ≤ 0x20) s.toList).filter fun c =>
    c ≠ '\t' ∧ c ≠ '\n' ∧ c ≠ '\r'

theorem cleaned_http (s : String) :
    cleaned ("http:/" ++ s) = "http:/".toList ++ countedOf s := by
  have hFront :
      ("http:/".toList ++ s.toList).dropWhile
          (fun c => decide (c.toNat ≤ 0x20)) =
        "http:".toList ++ '/' :: s.toList :=
    List.dropWhile_cons_of_neg (by decide)
  rw [cleaned, Parts.trim, String.toList_append, hFront,
    Parts.trimEnd_append_cons (by decide), List.filter_append]
  rfl

theorem countedOf_slash (s : String) :
    countedOf ("/" ++ s) = '/' :: countedOf s := by
  have hTrimmed :
      Parts.trimEnd (fun c => c.toNat ≤ 0x20) ('/' :: s.toList) =
        '/' :: Parts.trimEnd (fun c => c.toNat ≤ 0x20) s.toList :=
    Parts.trimEnd_append_cons (by decide) [] s.toList
  rw [countedOf, String.toList_append]
  exact congrArg (List.filter _) hTrimmed

/- A web address is read behind its first slash. -/
theorem ofText?_http (s : String) :
    ofText? ("http:/" ++ s) = readWeb? "http" (countedOf s) := by
  have hCut :
      Scheme.cut? ("http:/".toList ++ countedOf s) =
        some ("http", '/' :: countedOf s) := rfl
  rw [ofText?, cleaned_http, hCut]
  exact readWeb?_slash "http" (countedOf s)

/- A second slash makes no difference. -/
theorem ofText?_singleSlash (s : String) :
    ofText? ("http:/" ++ s) = ofText? ("http://" ++ s) := by
  have hSlashes : "http://" ++ s = "http:/" ++ ("/" ++ s) := by
    rw [← String.append_assoc]
    rfl
  rw [hSlashes, ofText?_http, ofText?_http, countedOf_slash,
    readWeb?_slash]

end Address

------------------------------------------------------------
-- Addresses of a Host
------------------------------------------------------------

namespace Status

/- A text that may be the name of a host: nothing in it ends a host. -/
structure IsName (host : String) : Prop where
  colon : ':' ∉ host.toList
  slash : '/' ∉ host.toList

instance instDecidableIsName
    (host : String) : Decidable (IsName host) :=
  decidable_of_iff (':' ∉ host.toList ∧ '/' ∉ host.toList)
    ⟨fun h => ⟨h.1, h.2⟩, fun h => ⟨h.colon, h.slash⟩⟩

/- Where the health of a host is served by default, with slashes behind it. -/
def givenAddress (host : String) (slashes : Nat) : String :=
  "http://" ++ host ++ ":8080" ++
    .ofList (List.replicate slashes '/')

/- Where the metrics of a host are served by default. -/
def servedAddress (host : String) : String :=
  "http://" ++ host ++ ":9090/metrics"

variable {host rest : String}

theorem withoutSlashes_append_replicate
    {c : Char}
    (hKept : c ≠ '/')
    (cs : List Char)
    (slashes : Nat) :
    withoutSlashes (cs ++ c :: List.replicate slashes '/') =
      cs ++ [c] := by
  have hAll :
      Parts.trimEnd (· = '/') (List.replicate slashes '/') = [] := by
    rw [Parts.trimEnd_eq_rdropWhile, List.rdropWhile_eq_nil_iff]
    intro d hMem
    rw [List.eq_of_mem_replicate hMem]
    exact decide_eq_true rfl
  rw [withoutSlashes, Parts.trimEnd_append_cons (by simpa using hKept),
    hAll]

/- The health is asked of the host that is given. -/
theorem healthAddress_givenAddress
    (host : String)
    (slashes : Nat) :
    healthAddress (givenAddress host slashes) =
      "http://" ++ host ++ ":8080/health" := by
  have hBare :
      withoutSlashes (givenAddress host slashes).toList =
        ("http://" ++ host ++ ":808").toList ++ ['0'] := by
    rw [← withoutSlashes_append_replicate (by decide) _ slashes]
    simp [givenAddress]
  rw [healthAddress, hBare]
  apply String.toList_inj.mp
  simp

/- A text with the port of the metrics and slashes behind it. -/
def ported (cs : List Char) (slashes : Nat) : List Char :=
  cs ++ ":9090".toList ++ List.replicate slashes '/'

/- The port is replaced where it stands, and nowhere else. -/
theorem replace_port
    (hName : IsName host)
    (slashes : Nat) :
    Parts.replace ":8080".toList ":9090".toList
        (givenAddress host slashes).toList =
      "http://".toList ++ ported host.toList slashes := by
  have hSlashes : ':' ∉ List.replicate slashes '/' := by simp
  have hHost : ':' ∉ "//".toList ++ host.toList := by
    rw [List.mem_append, not_or]
    exact ⟨by decide, hName.colon⟩
  calc
    Parts.replace ":8080".toList ":9090".toList
        (givenAddress host slashes).toList
      = Parts.replace ":8080".toList ":9090".toList
          ("http".toList ++ ':' :: ("//".toList ++ host.toList ++
            (":8080".toList ++ List.replicate slashes '/'))) := by
        simp [givenAddress]
    _ = "http".toList ++ ':' :: ("//".toList ++ host.toList ++
          (":9090".toList ++ List.replicate slashes '/')) := by
        rw [Parts.replace_append_of_not_mem rfl (by decide),
          Parts.replace_cons_of_miss (by simp),
          Parts.replace_append_of_not_mem rfl hHost,
          Parts.replace_append_self (by decide),
          Parts.replace_of_not_mem (by decide) hSlashes]
    _ = "http://".toList ++ ported host.toList slashes := by
        simp [ported]

/- The word does not occur in a text without a slash, nor in what stands behind it. -/
theorem replace_ported
    {cs : List Char}
    (hSlash : '/' ∉ cs)
    (slashes : Nat) :
    Parts.replace "/health".toList [] (ported cs slashes) =
      ported cs slashes := by
  have hNumber : '/' ∉ cs ++ ":9090".toList := by
    rw [List.mem_append, not_or]
    exact ⟨hSlash, by decide⟩
  have hLetter : 'h' ∉ List.replicate slashes '/' := by simp
  rw [ported, Parts.replace_append_of_not_mem rfl hNumber,
    Parts.replace_of_not_mem (by decide) hLetter]

/- The address for the metrics, by what becomes of the second slash and the name behind it. -/
theorem metricsAddress_of_replace
    {left : List Char}
    {slashes : Nat}
    (hName : IsName host)
    (hLeft :
      Parts.replace "/health".toList []
          ('/' :: ported host.toList slashes) =
        ported left slashes) :
    metricsAddress (givenAddress host slashes) =
      "http:/" ++ .ofList left ++ ":9090/metrics" := by
  have hBare :
      Parts.replace "/health".toList []
          ("http://".toList ++ ported host.toList slashes) =
        ("http:/".toList ++ left ++ ":909".toList) ++
          '0' :: List.replicate slashes '/' := by
    calc
      Parts.replace "/health".toList []
          ("http://".toList ++ ported host.toList slashes)
        = Parts.replace "/health".toList []
            ("http:".toList ++
              '/' :: '/' :: ported host.toList slashes) := rfl
      _ = "http:".toList ++ '/' :: ported left slashes := by
          -- The first slash stands in front of a slash, so no word begins there.
          rw [Parts.replace_append_of_not_mem rfl (by decide),
            Parts.replace_cons_of_miss (by simp), hLeft]
      _ = ("http:/".toList ++ left ++ ":909".toList) ++
            '0' :: List.replicate slashes '/' := by
          simp [ported]
  rw [metricsAddress, replace_port hName, hBare,
    withoutSlashes_append_replicate (by decide)]
  apply String.toList_inj.mp
  simp

/- From the name of a host that begins with the word, the word is lost. -/
theorem metricsAddress_health_append
    (hName : IsName ("health" ++ rest))
    (slashes : Nat) :
    metricsAddress (givenAddress ("health" ++ rest) slashes) =
      "http:/" ++ rest ++ ":9090/metrics" := by
  have hSlash : '/' ∉ rest.toList := fun hMem =>
    hName.slash (by
      rw [String.toList_append]
      exact List.mem_append_right _ hMem)
  have hFound :
      '/' :: ported ("health" ++ rest).toList slashes =
        "/health".toList ++ ported rest.toList slashes := by
    simp [ported]
  have hLeft :
      Parts.replace "/health".toList []
          ('/' :: ported ("health" ++ rest).toList slashes) =
        ported rest.toList slashes := by
    rw [hFound, Parts.replace_append_self (by decide),
      replace_ported hSlash, List.nil_append]
  rw [metricsAddress_of_replace hName hLeft, String.ofList_toList]

/- Any other host is asked for its metrics where it serves them. -/
theorem metricsAddress_of_not_health
    (hName : IsName host)
    (hWord : ¬ "health".toList <+: host.toList)
    (slashes : Nat) :
    metricsAddress (givenAddress host slashes) =
      servedAddress host := by
  have hMiss :
      ¬ "/health".toList <+: '/' :: ported host.toList slashes := by
    intro hFront
    have hRest := (List.cons_prefix_cons.mp hFront).2
    rw [ported, List.append_assoc] at hRest
    exact hWord
      (Parts.prefix_of_prefix_append_cons (by decide) hRest)
  have hLeft :
      Parts.replace "/health".toList []
          ('/' :: ported host.toList slashes) =
        ported ('/' :: host.toList) slashes := by
    rw [Parts.replace_cons_of_miss hMiss,
      replace_ported hName.slash]
    rfl
  rw [metricsAddress_of_replace hName hLeft]
  apply String.toList_inj.mp
  simp [servedAddress]

/- Addresses that are read alike are answered alike. -/
theorem fetch_congr
    {a b : String}
    (hRead : Address.ofText? a = Address.ofText? b)
    (web : Web) :
    web.fetch a = web.fetch b := by
  rw [Web.fetch, Web.fetch, hRead]

/- A host whose name begins with the word is passed over for the host that the rest names. -/
theorem fetch_metricsAddress_health_append
    (hName : IsName ("health" ++ rest))
    (slashes : Nat)
    (web : Web) :
    web.fetch
        (metricsAddress (givenAddress ("health" ++ rest) slashes)) =
      web.fetch (servedAddress rest) := by
  apply fetch_congr
  rw [metricsAddress_health_append hName, String.append_assoc,
    Address.ofText?_singleSlash, ← String.append_assoc]
  rfl

/- An address that lost the word is not that of the same host. -/
theorem ne_servedAddress_health_append (rest : String) :
    "http:/" ++ rest ++ ":9090/metrics" ≠
      servedAddress ("health" ++ rest) := by
  intro hEq
  have hLength := congrArg String.length hEq
  simp only [servedAddress, String.length_append] at hLength
  have hFront : "http:/".length < "http://".length := by decide
  omega

/-
  The health is always asked of the host that is given.  The
  metrics are asked of that host if its name does not begin
  with the word, and else of the host that the rest names.
-/
theorem asked_of_host
    (hName : IsName host)
    (slashes : Nat) :
    healthAddress (givenAddress host slashes) =
        "http://" ++ host ++ ":8080/health" ∧
      (metricsAddress (givenAddress host slashes) =
          servedAddress host ↔
        ¬ "health".toList <+: host.toList) ∧
      ∀ rest, host = "health" ++ rest →
        ∀ web : Web,
          web.fetch (metricsAddress (givenAddress host slashes)) =
            web.fetch (servedAddress rest) := by
  refine ⟨healthAddress_givenAddress host slashes, ?_, ?_⟩
  · constructor
    · intro hSame hWord
      obtain ⟨rest, hRest⟩ := hWord
      have hHost : host = "health" ++ .ofList rest := by
        apply String.toList_inj.mp
        simp [← hRest]
      subst hHost
      rw [metricsAddress_health_append hName] at hSame
      exact ne_servedAddress_health_append _ hSame
    · intro hWord
      exact metricsAddress_of_not_health hName hWord slashes
  · rintro rest rfl web
    exact fetch_metricsAddress_health_append hName slashes web

/- The metrics of the host `healthcheck` are asked of the host `check`. -/
theorem asked_of_healthcheck :
    IsName "healthcheck" ∧
      metricsAddress (givenAddress "healthcheck" 0) ≠
        servedAddress "healthcheck" ∧
      ∀ web : Web,
        web.fetch (metricsAddress (givenAddress "healthcheck" 0)) =
          web.fetch (servedAddress "check") := by
  have hName : IsName "healthcheck" := by decide
  have hWord : "health".toList <+: "healthcheck".toList := by decide
  obtain ⟨-, hSame, hOther⟩ := asked_of_host hName 0
  exact ⟨hName, fun hEq => hSame.mp hEq hWord, hOther "check" rfl⟩

/- Of the name `health` nothing is left. -/
example :
    metricsAddress "http://health:8080" = "http:/:9090/metrics" := by
  decide

end Status

end FragmentSink
