/-
Where the questions to the storage manager go. The address of a question is
made by writing more text after the base address of the settings, so what it
stands for depends on how that text ends: behind a query or a fragment, a blank
or a backslash it is no longer a path of the base.
-/
import MediaVault.Proofs.Url.Paths
import MediaVault.Proofs.Vault.Questions

namespace MediaVault

/-! ## Queries -/

namespace Url

theorem formPairs_ne_empty {name value : String} (rest : List (String × String)) :
    formPairs ((name, value) :: rest) ≠ "" := by
  intro h
  have htext := congrArg String.toList h
  simp [formPairs, String.toList_intercalate] at htext

/-- Names and values are the whole query of an address that had none. -/
theorem query_addQuery {u : Url} {pairs : List (String × String)} (hquery : u.query = none)
    (hpairs : formPairs pairs ≠ "") : (u.addQuery pairs).query = some (formPairs pairs) := by
  simp [addQuery, hquery, hpairs]

end Url

namespace Client

open MediaVault.Action Network

variable {settings : Settings} {c : Client} {b : Url}

/-- The address of a question that is asked under a base: nothing of the base is changed but its
path, which goes on, and its query, which only holds what is asked for. -/
structure Endpoint (b : Url) (path : String) (pairs : List (String × String)) (u : Url) : Prop where
  scheme : u.scheme = b.scheme
  host : u.host = b.host
  port : u.port = b.port
  path : u.path.text = Url.lessSlash b.path.text ++ path
  query : u.query = some (Url.formPairs pairs)
  fragment : u.fragment = none

/-- A client keeps its base without the slash at its end. -/
theorem baseUrl_of_ofSettings (h : ofSettings settings = .ok c) :
    c.baseUrl = Url.lessSlash settings.baseUri := by
  rw [ofSettings_eq_ok h]
  rfl

theorem ofSettings_of_fault?_eq_none (hfault : settings.fault? = none)
    (hid : isHeaderValue settings.clientId = true)
    (hsecret : isHeaderValue settings.clientSecret = true) :
    ofSettings settings =
      .ok ⟨settings.baseUrl, settings.clientId, settings.clientSecret⟩ := by
  simp [ofSettings, hfault, hid, hsecret]

/-- A question goes to its own address under the base, and out if a request line can hold that. -/
theorem exists_endpoint (hc : ofSettings settings = .ok c) (hb : Url.IsBase settings.baseUri b)
    (hscheme : b.scheme = "http" ∨ b.scheme = "https") {tail : String} (htail : Url.IsSuffix tail)
    (name value : String) (rest : List (String × String)) :
    ∃ u,
      Endpoint b
        (UrlPath.segments
          ((Url.splitSegments true tail.toList).map (Percent.encode Url.pathReserved))).text
        ((name, value) :: rest) u ∧
      ∀ s : Session,
        (c.questioned ("/" ++ tail) ((name, value) :: rest) s).2.1.toList.map (·.request.url) =
          if fits u then [u] else [] := by
  obtain ⟨path, hread, hpath⟩ := hb.read_append htail
  have hhost : ({ b with path } : Url).host?.isSome = true :=
    Url.host?_isSome_of_read (u := b) hb.read_eq hb.server
  have hmanager : managerUrl (c.baseUrl ++ ("/" ++ tail)) = .ok { b with path } := by
    rw [managerUrl, baseUrl_of_ofSettings hc, ← String.append_assoc, hread]
    simp only [hhost, if_true]
  obtain ⟨u, hu⟩ : ∃ u, ({ b with path } : Url).addQuery ((name, value) :: rest) = u := ⟨_, rfl⟩
  have hasked : u.host?.isSome = true ∧ (u.scheme = "http" ∨ u.scheme = "https") := by
    rw [← hu]
    exact ⟨hhost, hscheme⟩
  refine ⟨u.anonymous, ?_, fun s => ?_⟩
  · constructor <;> simp only [Url.scheme_anonymous, Url.host_anonymous, Url.port_anonymous,
      Url.path_anonymous, Url.query_anonymous, Url.fragment_anonymous, ← hu]
    · rfl
    · rfl
    · rfl
    · exact hpath
    · exact Url.query_addQuery hb.query (Url.formPairs_ne_empty rest)
    · exact hb.fragment
  · rw [questioned, hmanager]
    simp only [hu]
    have hsent := congrArg (List.map (·.url))
      (requests_exchange_of_host hasked.1 hasked.2 s.network .get c.accessHeaders .nothing)
    rw [List.map_map] at hsent
    refine hsent.trans ?_
    split <;> rfl

/-- **Where questions go.** Under settings whose base address is one of HTTP, without a query and a
fragment and with an end that is no blank, control or backslash, a listing goes to `/backups/` and a
usage to `/usage` under the path of the base, less one slash at its end; scheme, host and port are
those of the base, and the query holds what is asked for and nothing else. -/
theorem questions_reach_endpoints (hc : ofSettings settings = .ok c)
    (hb : Url.IsBase settings.baseUri b) (hscheme : b.scheme = "http" ∨ b.scheme = "https") :
    (∀ lead cursor limit, ∃ u, Endpoint b "/backups/" (listPairs lead cursor limit) u ∧
      ∀ s : Session, ∃ sent,
        ((c.list lead cursor limit).runFrom s).2.attempts = s.attempts ++ sent ∧
        sent.map (·.request.url) = if fits u then [u] else []) ∧
    ∀ lead, ∃ u, Endpoint b "/usage" [("prefix", lead)] u ∧
      ∀ s : Session, ∃ sent,
        ((c.usage lead).runFrom s).2.attempts = s.attempts ++ sent ∧
        sent.map (·.request.url) = if fits u then [u] else [] := by
  refine ⟨fun lead cursor limit => ?_, fun lead => ?_⟩
  · have htail : Url.IsSuffix "backups/" := ⟨by decide, by decide, by decide⟩
    obtain ⟨u, hu, hsent⟩ := exists_endpoint hc hb hscheme htail "prefix" lead _
    refine ⟨u, hu, fun s => ⟨_, ?_, hsent s⟩⟩
    rw [runFrom_list]
    rfl
  · have htail : Url.IsSuffix "usage" := ⟨by decide, by decide, by decide⟩
    obtain ⟨u, hu, hsent⟩ := exists_endpoint hc hb hscheme htail "prefix" lead []
    refine ⟨u, hu, fun s => ⟨_, ?_, hsent s⟩⟩
    rw [runFrom_usage]
    rfl

/-- A base with a port and a path of its own. -/
theorem questions_reach_endpoints_under_path :
    let settings : Settings := ⟨"http://h:8080/a/", "id", "secret", 10, []⟩
    let c : Client := ⟨settings.baseUrl, "id", "secret"⟩
    let b : Url := ⟨"http", "", "", some (.name "h"), some 8080, .segments ["a", ""], none, none⟩
    ofSettings settings = .ok c ∧ Url.IsBase settings.baseUri b ∧
      ∃ u, Endpoint b "/backups/" [("prefix", "p"), ("limit", "10")] u ∧
        ∀ s : Session, ∃ sent,
          ((c.list "p" none 10).runFrom s).2.attempts = s.attempts ++ sent ∧
          sent.map (·.request.url) = if fits u then [u] else [] := by
  intro settings c b
  have hc : ofSettings settings = .ok c :=
    ofSettings_of_fault?_eq_none (by decide +kernel) (by decide) (by decide)
  have hb : Url.IsBase settings.baseUri b :=
    { read_eq := by decide +kernel
      server := ⟨by decide, by decide⟩
      query := rfl
      fragment := rfl
      last := ⟨"http://h:8080/a".toList, '/', [], ⟨by decide, by decide, by simp⟩, by decide,
        fun _ => rfl⟩ }
  exact ⟨hc, hb, (questions_reach_endpoints hc hb (.inl rfl)).1 "p" none 10⟩

/-- Settings are accepted that questions get lost under: behind a query or a fragment, a backslash
or a slash with a tab after it, and a blank makes the address of a question unreadable; a base
without a host has nobody to ask. -/
theorem accepted_without_endpoint :
    (["http://h/?x=1", "http://h/#f", "http://h/a\\", "http://h/a/\t", "http://sm.example ",
        "mailto:h"].map fun base =>
      let settings : Settings := ⟨base, "id", "secret", 10, []⟩
      (settings.fault?.isNone,
        (managerUrl (settings.baseUrl ++ "/backups/")).toOption.map (·.text))) =
    [(true, some "http://h/?x=1/backups/"), (true, some "http://h/#f/backups/"),
      (true, some "http://h/a//backups/"), (true, some "http://h/a//backups/"), (true, none),
      (true, none)] := by
  decide +kernel

end Client

end MediaVault
