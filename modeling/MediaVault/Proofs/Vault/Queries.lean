/-
What the storage manager is asked for, as it reads it. The address that a
question goes to is that of the operation with what is asked for in its query,
so nothing of it is lost, changed or added on the way. In a walk through the
pages of a listing the cursors of the pages come back as they were.
-/
import MediaVault.Proofs.Operator.Pages
import MediaVault.Proofs.Url.Forms
import MediaVault.Proofs.Vault.Endpoints

namespace MediaVault

/-! ## Addresses -/

namespace Url

variable {u : Url} {pairs : List (String × String)}

/-- The names and values in the query of an address. -/
def pairs? (u : Url) : Option (List (String × String)) := u.query.bind readPairs

/-- Names and values in a query do not change what else becomes of an address. -/
theorem anonymous_addQuery (u : Url) (pairs : List (String × String)) :
    (u.addQuery pairs).anonymous = { u.anonymous with query := (u.addQuery pairs).query } := by
  have hsame : (u.addQuery pairs).credentials? = u.credentials? := rfl
  unfold anonymous
  rw [hsame]
  split <;> rfl

/-- Addresses that only differ in their queries have different texts. -/
theorem text_withQuery_inj {q q' : String}
    (h : ({ u with query := some q } : Url).text = ({ u with query := some q' } : Url).text) :
    q = q' := by
  simp only [text, Option.elim] at h
  exact (String.append_right_inj _).mp
    ((String.append_right_inj _).mp ((String.append_left_inj _).mp h))

end Url

/-! ## Questions -/

namespace Client

open MediaVault.Action Network

variable {c : Client} {path : String} {pairs : List (String × String)} {u : Url} {s : Session}

/-- The address that a question is sent to, if there is one that can be asked. -/
def askedUrl? (c : Client) (path : String) (pairs : List (String × String)) : Option Url :=
  (managerUrl (c.baseUrl ++ path)).toOption.bind fun u =>
    if addressFailure? (u.addQuery pairs).anonymous = none then some (u.addQuery pairs).anonymous
    else none

/-- A question is sent once if it has an address that can be asked, and otherwise not at all. -/
theorem urls_questioned (c : Client) (path : String) (pairs : List (String × String))
    (s : Session) :
    (c.questioned path pairs s).2.1.toList.map (·.request.url) =
      (c.askedUrl? path pairs).toList := by
  unfold questioned askedUrl?
  rcases managerUrl (c.baseUrl ++ path) with f | u
  · rfl
  have hsent := congrArg (List.map (·.url))
    (requests_exchange s.network .get (u.addQuery pairs) c.accessHeaders .nothing)
  rw [List.map_map] at hsent
  refine hsent.trans ?_
  simp only [Except.toOption, Option.bind_some]
  split <;> rfl

theorem read_of_managerUrl {text : String} {v : Url} (h : managerUrl text = .ok v) :
    Url.read text = .ok v := by
  unfold managerUrl at h
  split at h
  · cases h
  next hread =>
    split at h
    · cases h
      exact hread
    · cases h

/-- **What is asked for** is all of the query of an address that is asked, and changes nothing else
in it. -/
theorem eq_of_askedUrl? (hbase : Url.Unmarked c.baseUrl) (hpath : Url.Unmarked path)
    (hpairs : Url.formPairs pairs ≠ "") (h : c.askedUrl? path pairs = some u) :
    ∃ v, managerUrl (c.baseUrl ++ path) = .ok v ∧
      u = { v.anonymous with query := some (Url.formPairs pairs) } := by
  unfold askedUrl? at h
  rcases hv : managerUrl (c.baseUrl ++ path) with f | v <;> rw [hv] at h
  · cases h
  refine ⟨v, rfl, ?_⟩
  have hquery : v.query = none := Url.query_of_read (read_of_managerUrl hv) (hbase.append hpath)
  simp only [Except.toOption, Option.bind_some, Option.ite_none_right_eq_some] at h
  rw [← Option.some_inj, ← h.2, Url.anonymous_addQuery, Url.query_addQuery hquery hpairs]

theorem pairs?_of_askedUrl? (hbase : Url.Unmarked c.baseUrl) (hpath : Url.Unmarked path)
    (hpairs : Url.formPairs pairs ≠ "") (h : c.askedUrl? path pairs = some u) :
    u.pairs? = some pairs := by
  obtain ⟨v, -, rfl⟩ := eq_of_askedUrl? hbase hpath hpairs h
  exact Url.readPairs_formPairs pairs

/-- Questions for different things under one path go to addresses with different texts. -/
theorem pairs_eq_of_text_eq {others : List (String × String)} {u' : Url}
    (hbase : Url.Unmarked c.baseUrl) (hpath : Url.Unmarked path) (hpairs : Url.formPairs pairs ≠ "")
    (hothers : Url.formPairs others ≠ "") (h : c.askedUrl? path pairs = some u)
    (h' : c.askedUrl? path others = some u') (htext : u.text = u'.text) : pairs = others := by
  obtain ⟨v, hv, rfl⟩ := eq_of_askedUrl? hbase hpath hpairs h
  obtain ⟨v', hv', rfl⟩ := eq_of_askedUrl? hbase hpath hothers h'
  rw [hv] at hv'
  cases hv'
  exact Url.formPairs_inj.mp (Url.text_withQuery_inj htext)

/-- A client of a base without a query and a fragment. -/
theorem unmarked_baseUrl {settings : Settings} {b : Url} (hc : ofSettings settings = .ok c)
    (hread : Url.read settings.baseUri = .ok b) (hquery : b.query = none)
    (hfragment : b.fragment = none) : Url.Unmarked c.baseUrl := by
  have hbase := Url.unmarked_of_read hread hquery hfragment
  rw [baseUrl_of_ofSettings hc]
  intro d hd
  refine hbase d ?_
  unfold Url.lessSlash at hd
  split at hd
  next rest hrest =>
    rw [String.toList_ofList, List.mem_reverse] at hd
    exact List.mem_reverse.mp (hrest ▸ List.mem_cons_of_mem _ hd)
  next => exact hd

/-- Where other addresses can be made from a base, a question has an address that can be asked,
unless a request line cannot hold it. -/
theorem exists_askedUrl? {settings : Settings} {b : Url} (hc : ofSettings settings = .ok c)
    (hb : Url.IsBase settings.baseUri b) (hscheme : b.scheme = "http" ∨ b.scheme = "https")
    {tail : String} (htail : Url.IsSuffix tail) (name value : String)
    (rest : List (String × String)) :
    ∃ u,
      Endpoint b
        (UrlPath.segments
          ((Url.splitSegments true tail.toList).map (Percent.encode Url.pathReserved))).text
        ((name, value) :: rest) u ∧
      c.askedUrl? ("/" ++ tail) ((name, value) :: rest) = if fits u then some u else none := by
  obtain ⟨u, hu, hsent⟩ := exists_endpoint hc hb hscheme htail name value rest
  have hurls := hsent { network := ⟨.available, [], []⟩ }
  rw [urls_questioned] at hurls
  refine ⟨u, hu, ?_⟩
  split at hurls
  next hfits => rw [if_pos hfits, Option.toList_eq_singleton_iff.mp hurls]
  next hfits => rw [if_neg hfits, Option.toList_eq_nil_iff.mp hurls]

/-! ## Listings and usages -/

theorem toString_inj {m n : Nat} : toString m = toString n ↔ m = n := by
  refine ⟨fun h => ?_, congrArg toString⟩
  rw [Nat.toString_eq_ofList_toDigits, Nat.toString_eq_ofList_toDigits, String.ofList_inj] at h
  have hvalue := congrArg (Nat.ofDigitChars 10 · 0) h
  rwa [Nat.ofDigitChars_ten_toDigits, Nat.ofDigitChars_ten_toDigits] at hvalue

theorem listPairs_inj {lead lead' : String} {cursor cursor' : Option String} {limit limit' : Nat} :
    listPairs lead cursor limit = listPairs lead' cursor' limit' ↔
      lead = lead' ∧ cursor = cursor' ∧ limit = limit' := by
  refine ⟨fun h => ?_, ?_⟩
  · simp only [listPairs, List.cons_append, List.cons.injEq, Prod.mk.injEq, true_and,
      List.nil_append] at h
    obtain ⟨hlead, hlimit, hcursor⟩ := h
    refine ⟨hlead, ?_, toString_inj.mp hlimit⟩
    cases cursor <;> cases cursor' <;> simp_all
  · rintro ⟨rfl, rfl, rfl⟩
    rfl

/-- What was answered was sent. -/
theorem attempt_of_questioned_eq_ok {reply : Reply}
    (h : (c.questioned path pairs s).1 = .ok reply) :
    ∃ a, (c.questioned path pairs s).2.1 = some a := by
  unfold questioned at h ⊢
  rcases hu : managerUrl (c.baseUrl ++ path) with f | u <;> simp only [hu] at h ⊢
  · cases h
  · obtain ⟨a, ha, -⟩ := attempt_of_exchange_eq_ok h
    exact ⟨a, ha⟩

/-- A question is sent, and its query holds what is asked for; or it fails unsent. -/
theorem sent_or_failed (hbase : Url.Unmarked c.baseUrl) (hpath : Url.Unmarked path)
    (hpairs : Url.formPairs pairs ≠ "") (s : Session) :
    (∃ a, (c.questioned path pairs s).2.1 = some a ∧ a.request.url.pairs? = some pairs) ∨
      (c.questioned path pairs s).2.1 = none ∧ ∃ f, (c.questioned path pairs s).1 = .error f := by
  rcases hattempt : (c.questioned path pairs s).2.1 with _ | a
  · rcases hresult : (c.questioned path pairs s).1 with f | reply
    · exact .inr ⟨rfl, f, rfl⟩
    · obtain ⟨a, ha⟩ := attempt_of_questioned_eq_ok hresult
      rw [hattempt] at ha
      cases ha
  · have hurls := c.urls_questioned path pairs s
    rw [hattempt] at hurls
    have hasked : c.askedUrl? path pairs = some a.request.url :=
      Option.toList_eq_singleton_iff.mp hurls.symm
    exact .inl ⟨a, rfl, pairs?_of_askedUrl? hbase hpath hpairs hasked⟩

theorem exists_sent_list (c : Client) (lead : String) (cursor : Option String) (limit : Nat)
    (s : Session) :
    ∃ sent, ((c.list lead cursor limit).runFrom s).2.attempts = s.attempts ++ sent ∧
      sent.map (·.request.url) =
        (c.askedUrl? ("/" ++ listingPath ++ "/") (listPairs lead cursor limit)).toList := by
  rw [runFrom_list]
  exact ⟨_, rfl, urls_questioned _ _ _ _⟩

theorem exists_sent_usage (c : Client) (lead : String) (s : Session) :
    ∃ sent, ((c.usage lead).runFrom s).2.attempts = s.attempts ++ sent ∧
      sent.map (·.request.url) = (c.askedUrl? "/usage" [("prefix", lead)]).toList := by
  rw [runFrom_usage]
  exact ⟨_, rfl, urls_questioned _ _ _ _⟩

end Client

/-! ## All pages of a listing -/

namespace Manager

variable {c : Client} {lead : String} {limit : Nat} {cursor cursor' : Option String}
variable {s s' : Session} {pages : List Page}

/-- What a question for a page asks for. -/
def pairsOf (q : Question) : List (String × String) := Client.listPairs q.lead q.cursor q.limit

/-- Requests that ask for these things, one after another. -/
def Asking (sent : List Attempt) (questions : List Question) : Prop :=
  sent.map (·.request.url.pairs?) = questions.map (some ∘ pairsOf)

theorem Asking.append {sent more : List Attempt} {asked further : List Question}
    (h : Asking sent asked) (hmore : Asking more further) :
    Asking (sent ++ more) (asked ++ further) := by
  rw [Asking, List.map_append, List.map_append, h, hmore]

/-- A question for a page is sent or fails unsent. -/
theorem sent_or_failed (hbase : Url.Unmarked c.baseUrl) (q : Question) (s : Session) :
    (∃ a, (ofClient c q s).2.attempts = s.attempts ++ [a] ∧ Asking [a] [q]) ∨
      (ofClient c q s).2.attempts = s.attempts ∧ ∃ f, (ofClient c q s).1 = .error f := by
  have hpath : Url.Unmarked ("/" ++ Client.listingPath ++ "/") := by decide
  have hpairs : Url.formPairs (pairsOf q) ≠ "" := Url.formPairs_ne_empty _
  rw [ofClient, Client.runFrom_list, Client.afterQuestion, ← pairsOf]
  dsimp only
  rcases Client.sent_or_failed hbase hpath hpairs s with ⟨a, ha, hasked⟩ | ⟨hnone, f, hf⟩
  · rw [ha]
    exact .inl ⟨a, rfl, by rw [Asking, List.map_singleton, List.map_singleton, hasked]; rfl⟩
  · rw [hnone, hf]
    exact .inr ⟨List.append_nil _, _, rfl⟩

/-- **The cursors of pages come back**: each page that leads on was asked for with the cursor of the
page before it. -/
theorem Leads.sent (hbase : Url.Unmarked c.baseUrl)
    (h : (ofClient c).Leads lead limit cursor s pages cursor' s') :
    ∃ sent, s'.attempts = s.attempts ++ sent ∧
      Asking sent (questions lead limit cursor pages).dropLast := by
  induction h with
  | here cursor s => exact ⟨[], (List.append_nil _).symm, rfl⟩
  | @on cursor _ s s' _ page next pages hanswer hnext _ _ ih =>
    obtain ⟨sent, hsent, hasked⟩ := ih
    rcases sent_or_failed hbase ⟨lead, cursor, limit⟩ s with ⟨a, ha, hfirst⟩ | ⟨_, f, hf⟩
    · rw [hanswer] at ha
      refine ⟨[a] ++ sent, by rw [hsent, ha, List.append_assoc], ?_⟩
      rw [questions_cons, hnext, List.dropLast_cons_of_ne_nil (by simp [questions])]
      exact hfirst.append hasked
    · rw [hanswer] at hf
      cases hf

/-- A walk ends with the question after pages that led on, and fails if that question fails. -/
theorem Ends.last_question {σ : Type} {m : Manager σ} {s s' : σ} {asked : List Question}
    {r : Except CommandFailure (List Entry)} (h : m.Ends lead limit s asked r s') :
    ∃ pages cursor s₁, m.Leads lead limit none s pages cursor s₁ ∧
      asked = questions lead limit none pages ∧ (m ⟨lead, cursor, limit⟩ s₁).2 = s' ∧
      ∀ f, (m ⟨lead, cursor, limit⟩ s₁).1 = .error f → r = .error (.vault f none) := by
  cases h with
  | complete hleads hanswer _ =>
    exact ⟨_, _, _, hleads, rfl, by rw [hanswer], fun f hf => by rw [hanswer] at hf; cases hf⟩
  | failed hleads hanswer =>
    exact ⟨_, _, _, hleads, rfl, by rw [hanswer], fun f hf => by rw [hanswer] at hf; cases hf; rfl⟩
  | repeated hleads hanswer _ =>
    exact ⟨_, _, _, hleads, rfl, by rw [hanswer], fun f hf => by rw [hanswer] at hf; cases hf⟩

/-- All pages of a listing are asked for with the cursors of the pages before them, up to the end of
the walk; only the last question may not have been sent, and then the listing fails. -/
theorem sent_listAll (hbase : Url.Unmarked c.baseUrl) (lead : String) (limit : Nat) (s : Session) :
    ∃ pages cursor s₁ r s' sent, (ofClient c).Leads lead limit none s pages cursor s₁ ∧
      (ofClient c).Ends lead limit s (questions lead limit none pages) r s' ∧
      (Pages.listAll c lead limit).run s = (r, s') ∧ s'.attempts = s.attempts ++ sent ∧
      (Asking sent (questions lead limit none pages) ∨
        Asking sent (questions lead limit none pages).dropLast ∧ ∃ f, r = .error f) := by
  obtain ⟨asked, r, s', hends, hrun⟩ := ends_listAll c lead limit s
  obtain ⟨pages, cursor, s₁, hleads, rfl, hlast, hfails⟩ := hends.last_question
  obtain ⟨sent, hsent, hasked⟩ := hleads.sent hbase
  rcases sent_or_failed hbase ⟨lead, cursor, limit⟩ s₁ with ⟨a, ha, hfirst⟩ | ⟨hnone, f, hf⟩
  · refine ⟨pages, cursor, s₁, r, s', sent ++ [a], hleads, hends, hrun, ?_, .inl ?_⟩
    · rw [← hlast, ha, hsent, List.append_assoc]
    · rw [hleads.questions_eq]
      exact hasked.append hfirst
  · refine ⟨pages, cursor, s₁, r, s', sent, hleads, hends, hrun, ?_, .inr ⟨hasked, _, hfails f hf⟩⟩
    rw [← hlast, hnone, hsent]

end Manager

/-! ## Both -/

namespace Client

open Network

/-- **A question says what was asked for and nothing else.** Under settings whose base address has
no query and no fragment, a listing or a usage sends one request at most, to an address that does
not depend on what happened before, and the query of that address is read as what is asked for, name
by name and in order. Where other addresses can be made from the base there is such an address,
unless a request line cannot hold it. Different things are asked at different addresses, whatever
signs are in them. In a walk through all pages, up to its end, each page was asked for with the
cursor of the page before it; only the last question may not have been sent, and then the walk
fails. -/
theorem queries_as_asked {settings : Settings} {c : Client} {b : Url}
    (hc : ofSettings settings = .ok c) (hread : Url.read settings.baseUri = .ok b)
    (hquery : b.query = none) (hfragment : b.fragment = none) :
    (∀ lead cursor limit (s : Session), ∃ sent,
      ((c.list lead cursor limit).runFrom s).2.attempts = s.attempts ++ sent ∧
      sent.map (·.request.url) =
        (c.askedUrl? "/backups/" (listPairs lead cursor limit)).toList ∧
      ∀ a ∈ sent, a.request.url.pairs? =
        some ([("prefix", lead), ("limit", toString limit)] ++
          (cursor.map ("cursor", ·)).toList)) ∧
    (∀ lead (s : Session), ∃ sent,
      ((c.usage lead).runFrom s).2.attempts = s.attempts ++ sent ∧
      sent.map (·.request.url) = (c.askedUrl? "/usage" [("prefix", lead)]).toList ∧
      ∀ a ∈ sent, a.request.url.pairs? = some [("prefix", lead)]) ∧
    (Url.IsBase settings.baseUri b → b.scheme = "http" ∨ b.scheme = "https" →
      (∀ lead cursor limit, ∃ u, Endpoint b "/backups/" (listPairs lead cursor limit) u ∧
        c.askedUrl? "/backups/" (listPairs lead cursor limit) = if fits u then some u else none) ∧
      ∀ lead, ∃ u, Endpoint b "/usage" [("prefix", lead)] u ∧
        c.askedUrl? "/usage" [("prefix", lead)] = if fits u then some u else none) ∧
    (∀ lead cursor limit lead' cursor' limit' u u',
      c.askedUrl? "/backups/" (listPairs lead cursor limit) = some u →
      c.askedUrl? "/backups/" (listPairs lead' cursor' limit') = some u' → u.text = u'.text →
      lead = lead' ∧ cursor = cursor' ∧ limit = limit') ∧
    (∀ lead lead' u u', c.askedUrl? "/usage" [("prefix", lead)] = some u →
      c.askedUrl? "/usage" [("prefix", lead')] = some u' → u.text = u'.text → lead = lead') ∧
    ∀ lead limit (s : Session), ∃ pages cursor s₁ r s' sent,
      (Manager.ofClient c).Leads lead limit none s pages cursor s₁ ∧
      (Manager.ofClient c).Ends lead limit s (Manager.questions lead limit none pages) r s' ∧
      (Pages.listAll c lead limit).run s = (r, s') ∧ s'.attempts = s.attempts ++ sent ∧
      (Manager.Asking sent (Manager.questions lead limit none pages) ∨
        Manager.Asking sent (Manager.questions lead limit none pages).dropLast ∧
          ∃ f, r = .error f) := by
  have hbase := unmarked_baseUrl hc hread hquery hfragment
  have hlistingTail : Url.IsSuffix "backups/" := ⟨by decide, by decide, by decide⟩
  have husageTail : Url.IsSuffix "usage" := ⟨by decide, by decide, by decide⟩
  have hlisting : Url.Unmarked "/backups/" := by decide
  have husage : Url.Unmarked "/usage" := by decide
  have hlist : ∀ lead cursor limit, Url.formPairs (listPairs lead cursor limit) ≠ "" :=
    fun _ _ _ => Url.formPairs_ne_empty _
  have hpart : ∀ lead, Url.formPairs [("prefix", lead)] ≠ "" := fun _ => Url.formPairs_ne_empty _
  refine ⟨fun lead cursor limit s => ?_, fun lead s => ?_, fun hb hscheme => ⟨?_, ?_⟩,
    fun lead cursor limit lead' cursor' limit' u u' h h' htext => ?_,
    fun lead lead' u u' h h' htext => ?_,
    fun lead limit s => Manager.sent_listAll hbase lead limit s⟩
  · obtain ⟨sent, hsent, hurls⟩ := exists_sent_list c lead cursor limit s
    refine ⟨sent, hsent, hurls, fun a ha => ?_⟩
    have hasked : a.request.url ∈ (c.askedUrl? "/backups/" (listPairs lead cursor limit)).toList :=
      hurls ▸ List.mem_map_of_mem ha
    exact pairs?_of_askedUrl? hbase hlisting (hlist lead cursor limit) (Option.mem_toList.mp hasked)
  · obtain ⟨sent, hsent, hurls⟩ := exists_sent_usage c lead s
    refine ⟨sent, hsent, hurls, fun a ha => ?_⟩
    have hasked : a.request.url ∈ (c.askedUrl? "/usage" [("prefix", lead)]).toList :=
      hurls ▸ List.mem_map_of_mem ha
    exact pairs?_of_askedUrl? hbase husage (hpart lead) (Option.mem_toList.mp hasked)
  · exact fun lead _ _ => exists_askedUrl? hc hb hscheme hlistingTail "prefix" lead _
  · exact fun lead => exists_askedUrl? hc hb hscheme husageTail "prefix" lead []
  · exact listPairs_inj.mp
      (pairs_eq_of_text_eq hbase hlisting (hlist _ _ _) (hlist _ _ _) h h' htext)
  · have hpairs := pairs_eq_of_text_eq hbase husage (hpart lead) (hpart lead') h h' htext
    simpa using hpairs

/-- A prefix and a cursor made of signs that mean something in an address, under a base with a user,
a port and a backslash at its end. -/
theorem queries_as_asked_signs :
    let settings : Settings := ⟨"http://u:p@h:8080/a\\", "id", "secret", 10, []⟩
    let c : Client := ⟨settings.baseUrl, "id", "secret"⟩
    let b : Url := ⟨"http", "u", "p", some (.name "h"), some 8080, .segments ["a", ""], none, none⟩
    ofSettings settings = .ok c ∧ Url.read settings.baseUri = .ok b ∧ b.query = none ∧
      b.fragment = none ∧
      ∀ s : Session, ∃ a,
        ((c.list "p&limit=1/" (some "a+b %2B#é\n") 10).runFrom s).2.attempts = s.attempts ++ [a] ∧
        a.request.url.query =
          some "prefix=p%26limit%3D1%2F&limit=10&cursor=a%2Bb+%252B%23%C3%A9%0A" ∧
        a.request.url.pairs? =
          some [("prefix", "p&limit=1/"), ("limit", "10"), ("cursor", "a+b %2B#é\n")] := by
  intro settings c b
  have hc : ofSettings settings = .ok c :=
    ofSettings_of_fault?_eq_none (by decide +kernel) (by decide) (by decide)
  have hread : Url.read settings.baseUri = .ok b := by decide +kernel
  refine ⟨hc, hread, rfl, rfl, fun s => ?_⟩
  obtain ⟨sent, hsent, hurls, hpairs⟩ :=
    (queries_as_asked hc hread rfl rfl).1 "p&limit=1/" (some "a+b %2B#é\n") 10 s
  have hasked :
      (c.askedUrl? "/backups/" (listPairs "p&limit=1/" (some "a+b %2B#é\n") 10)).map (·.query) =
        some (some "prefix=p%26limit%3D1%2F&limit=10&cursor=a%2Bb+%252B%23%C3%A9%0A") := by
    decide +kernel
  obtain ⟨u, hu, hquery⟩ := Option.map_eq_some_iff.mp hasked
  rw [hu, Option.toList_some, List.map_eq_singleton_iff] at hurls
  obtain ⟨a, rfl, ha⟩ := hurls
  exact ⟨a, hsent, by rw [ha, hquery], hpairs a List.mem_cons_self⟩

end Client

end MediaVault
