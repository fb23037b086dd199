/-
One page of a listing. A page is shown as a whole, entry by entry and without
what all of its keys begin with, or it is not shown at all: the status is
looked at first, then whether the body came to its end, then whether it is a
page, and last whether its keys belong there.
-/
import MediaVault.Proofs.Json.Reading
import MediaVault.Proofs.Seal.Intake
import MediaVault.Proofs.Vault.Questions

namespace MediaVault

/-! ## Bodies -/

/-- The source hands over some octets and then breaks for this reason. -/
inductive BreaksOff (reason : String) : List Arrival → Prop
  | after {before rest text} : Delivers before text →
      BreaksOff reason (before ++ .failure reason :: rest)

/-- A source comes to its end or breaks before. -/
theorem delivers_or_breaksOff (source : List Arrival) :
    (∃ text, Delivers source text) ∨ ∃ reason, BreaksOff reason source := by
  induction source with
  | nil => exact .inl ⟨[], .ended⟩
  | cons arrival source ih =>
    cases arrival with
    | failure reason => exact .inr ⟨reason, .after .ended⟩
    | pending =>
      rcases ih with ⟨text, htext⟩ | ⟨reason, ⟨hbefore⟩⟩
      · exact .inl ⟨text, .pending htext⟩
      · exact .inr ⟨reason, .after (.pending hbefore)⟩
    | chunk data =>
      rcases ih with ⟨text, htext⟩ | ⟨reason, ⟨hbefore⟩⟩
      · exact .inl ⟨data ++ text, .chunk htext⟩
      · exact .inr ⟨reason, .after (.chunk hbefore)⟩

namespace Reply

variable {r : Reply} {source : List Arrival} {text : Bytes} {reason : String}

/-- What was received of a body, with one arrival more. -/
def gather (got : Bytes) : Arrival → Except String Bytes
  | .pending => .ok got
  | .chunk data => .ok (got ++ data)
  | .failure reason => .error reason

theorem wholeBody_eq_foldlM (r : Reply) : r.wholeBody = r.body.foldlM gather [] := rfl

theorem foldlM_gather (h : Delivers source text) (got : Bytes) :
    source.foldlM gather got = .ok (got ++ text) := by
  induction h generalizing got with
  | ended =>
    rw [List.append_nil]
    rfl
  | pending _ ih => exact ih got
  | @chunk data _ text _ ih => exact (ih (got ++ data)).trans (by rw [List.append_assoc])

/-- **A body** is what was delivered up to its end. -/
theorem wholeBody_of_delivers (h : Delivers r.body text) : r.wholeBody = .ok text := by
  rw [wholeBody_eq_foldlM, foldlM_gather h, List.nil_append]

theorem foldlM_gather_of_breaksOff (h : BreaksOff reason source) (got : Bytes) :
    source.foldlM gather got = .error reason := by
  cases h with
  | after hbefore =>
    rw [List.foldlM_append, foldlM_gather hbefore]
    rfl

/-- There is no body where it breaks off. -/
theorem wholeBody_of_breaksOff (h : BreaksOff reason r.body) : r.wholeBody = .error reason :=
  foldlM_gather_of_breaksOff h []

end Reply

/-! ## Keys -/

namespace Entry

variable {lead : String} {e stored shown : Entry}

/-- The key begins with `lead`, octet by octet. -/
def Under (lead : String) (e : Entry) : Prop := Bytes.ofText lead <+: Bytes.ofText e.key

instance : Decidable (Under lead e) :=
  inferInstanceAs (Decidable (Bytes.ofText lead <+: Bytes.ofText e.key))

/-- A stored entry as it is shown: its key stands after `lead`, and its length is the same. -/
structure ShownAs (lead : String) (stored shown : Entry) : Prop where
  key : lead ++ shown.key = stored.key
  length : shown.length = stored.length

theorem isPrefixOf_iff_under : lead.toList.isPrefixOf e.key.toList = true ↔ e.Under lead := by
  rw [List.isPrefixOf_iff_prefix, Under, Bytes.ofText_isPrefix_iff]

/-- An entry whose key does not begin with `lead` is not shown. -/
theorem relativeTo?_eq_none : e.relativeTo? lead = none ↔ ¬ e.Under lead := by
  rw [relativeTo?, ← isPrefixOf_iff_under]
  split <;> simp_all

/-- What is shown of an entry gives its key back after `lead`. -/
theorem relativeTo?_eq_some : stored.relativeTo? lead = some shown ↔ ShownAs lead stored shown := by
  constructor
  · intro h
    rw [relativeTo?] at h
    split at h
    next hlead =>
      obtain ⟨rest, hkey⟩ := List.isPrefixOf_iff_prefix.mp hlead
      cases h
      refine ⟨String.toList_inj.mp ?_, rfl⟩
      rw [String.toList_append, String.toList_ofList, ← hkey, List.drop_left]
    next => cases h
  · rintro ⟨hkey, hlength⟩
    have hlead : lead.toList.isPrefixOf stored.key.toList = true := by
      rw [List.isPrefixOf_iff_prefix, ← hkey, String.toList_append]
      exact List.prefix_append _ _
    rw [relativeTo?, if_pos hlead, ← hkey, String.toList_append, List.drop_left,
      String.ofList_toList, ← hlength]

/-- An entry is shown as one entry only, and exactly if its key begins with `lead`. -/
theorem exists_shownAs_iff : (∃ shown, ShownAs lead e shown) ↔ e.Under lead := by
  simp only [← relativeTo?_eq_some]
  rw [← Option.isSome_iff_exists, ← not_iff_not, Bool.not_eq_true, Option.isSome_eq_false_iff,
    Option.isNone_iff_eq_none, relativeTo?_eq_none]

/-! ## Entries one after another -/

variable {entries others : List Entry}

theorem forall₂_filterMap (h : ∀ e ∈ entries, e.Under lead) :
    List.Forall₂ (ShownAs lead) entries (entries.filterMap (·.relativeTo? lead)) := by
  induction entries with
  | nil => exact .nil
  | cons e entries ih =>
    rw [List.forall_mem_cons] at h
    obtain ⟨shown, hshown⟩ := exists_shownAs_iff.mpr h.1
    simp only [List.filterMap_cons, relativeTo?_eq_some.mpr hshown]
    exact .cons hshown (ih h.2)

theorem filterMap_of_forall₂ (h : List.Forall₂ (ShownAs lead) entries others) :
    entries.filterMap (·.relativeTo? lead) = others := by
  induction h with
  | nil => rfl
  | cons hshown _ ih => simp only [List.filterMap_cons, relativeTo?_eq_some.mpr hshown, ih]

theorem under_of_forall₂ (h : List.Forall₂ (ShownAs lead) entries others) :
    ∀ e ∈ entries, e.Under lead := by
  induction h with
  | nil => exact List.forall_mem_nil _
  | cons hshown _ ih => exact List.forall_mem_cons.mpr ⟨exists_shownAs_iff.mp ⟨_, hshown⟩, ih⟩

end Entry

/-! ## Pages -/

namespace Page

open Json Json.Reader

variable {lead : String} {p stored shown : Page} {e : Entry} {f : Failure}

/-- A stored page as it is shown: every entry in its place, and the cursor as it came. -/
structure ShownAs (lead : String) (stored shown : Page) : Prop where
  entries : List.Forall₂ (Entry.ShownAs lead) stored.entries shown.entries
  cursor : shown.cursor = stored.cursor
  hasMore : shown.hasMore = true ↔ ∃ cursor, stored.cursor = some cursor

/-- The first entry of a page whose key does not begin with `lead`. -/
inductive FirstForeign (lead : String) (p : Page) (e : Entry) : Prop
  | among {front rest} : p.entries = front ++ e :: rest → (∀ x ∈ front, x.Under lead) →
      ¬ e.Under lead → FirstForeign lead p e

theorem stranger?_eq_none : p.stranger? lead = none ↔ ∀ e ∈ p.entries, e.Under lead := by
  simp only [stranger?, List.find?_eq_none, Option.isNone_iff_eq_none, Entry.relativeTo?_eq_none,
    not_not]

theorem stranger?_eq_some : p.stranger? lead = some e ↔ FirstForeign lead p e := by
  have hunder : ∀ x : Entry, (!(x.relativeTo? lead).isNone) = true ↔ x.Under lead := by
    intro x
    rw [Bool.not_eq_true', ← Bool.not_eq_true, Option.isNone_iff_eq_none, Entry.relativeTo?_eq_none,
      not_not]
  simp only [stranger?, List.find?_eq_some_iff_append, Option.isNone_iff_eq_none,
    Entry.relativeTo?_eq_none, hunder]
  constructor
  · rintro ⟨hforeign, front, rest, hentries, hfront⟩
    exact .among hentries hfront hforeign
  · rintro ⟨hentries, hfront, hforeign⟩
    exact ⟨hforeign, _, _, hentries, hfront⟩

/-- **A page is shown** exactly if all of its keys begin with `lead`. -/
theorem relativeTo_eq_ok : stored.relativeTo lead = .ok shown ↔ ShownAs lead stored shown := by
  constructor
  · intro h
    rw [relativeTo] at h
    rcases hstranger : stored.stranger? lead with _ | e <;> rw [hstranger] at h
    · cases h
      have hentries := Entry.forall₂_filterMap (stranger?_eq_none.mp hstranger)
      exact ⟨hentries, rfl, Option.isSome_iff_exists⟩
    · cases h
  · intro h
    rw [relativeTo, stranger?_eq_none.mpr (Entry.under_of_forall₂ h.entries)]
    dsimp only
    rw [Entry.filterMap_of_forall₂ h.entries, ← h.cursor]

/-- **A page is refused** for the first of its keys that does not begin with `lead`. -/
theorem relativeTo_eq_error :
    p.relativeTo lead = .error f ↔ ∃ e, FirstForeign lead p e ∧ f = .foreignKey e.key lead := by
  simp only [← stranger?_eq_some, relativeTo]
  rcases p.stranger? lead with _ | e
  · simp
  · simp [eq_comm]

theorem exists_shownAs_iff : (∃ shown, ShownAs lead p shown) ↔ ∀ e ∈ p.entries, e.Under lead := by
  refine ⟨fun ⟨_, h⟩ => Entry.under_of_forall₂ h.entries, fun h => ?_⟩
  exact ⟨⟨_, p.cursor⟩, Entry.forall₂_filterMap h, rfl, Option.isSome_iff_exists⟩

/-! ## Pages as they are written -/

/-- An entry as a JSON text. -/
def entryOctets (e : Entry) : Bytes :=
  gathered [("key", octets (.text e.key)), ("size", octets (.number e.length))]

/-- A cursor as a JSON text, which may be `null`. -/
def cursorOctets (cursor : Option String) : Bytes :=
  cursor.elim (Bytes.ofText "null") fun s => octets (.text s)

/-- A page as a JSON text, in which the cursor may be left out. -/
def envelope (entries : List Entry) (cursor : Option (Option String)) : Bytes :=
  gathered ([("objects", listed (entries.map entryOctets))] ++
    (cursor.map fun c => ("cursor", cursorOctets c)).toList)

theorem takes_entry (h : e.length ≤ Text.maxWord64) : Takes Entry.reader (entryOctets e) e := by
  have hmembers : Gathers (byName Entry.members) {}
      [("key", octets (.text e.key)), ("size", octets (.number e.length))]
      { key := some e.key, length := some e.length } :=
    .cons (.byName rfl rfl ((takes_text e.key).map _))
      (.cons (.byName rfl rfl ((takes_number h).map _)) (.nil _))
  have hrecord := takes_record hmembers
  refine ⟨hrecord.head, fun rest hrest => ?_⟩
  rw [entryOctets, Entry.reader, run_bind_of (hrecord.run rest hrest)]
  rfl

theorem takes_cursor (cursor : Option String) :
    Takes (orNull text) (cursorOctets cursor) cursor := by
  cases cursor with
  | none => exact takes_null text
  | some s =>
    refine (takes_text s).orNull ?_
    rw [octets, compact, ofText_writeText, List.head?_cons]
    decide

/-- **A written page** is read entry by entry, in their order. There is no cursor where it was left
out or is `null`; every other one is kept, the empty one too. -/
theorem ofJson?_envelope {entries : List Entry} (h : ∀ e ∈ entries, e.length ≤ Text.maxWord64)
    (cursor : Option (Option String)) :
    ofJson? (envelope entries cursor) = some ⟨entries, cursor.getD none⟩ := by
  have hentries : Takes (list Entry.reader) (listed (entries.map entryOctets)) entries := by
    refine takes_list ?_
    rw [List.forall₂_map_left_iff, List.forall₂_same]
    exact fun e he => takes_entry (h e he)
  have hfirst : Gathers (byName members) {} [("objects", listed (entries.map entryOctets))]
      { entries := some entries } :=
    .cons (.byName rfl rfl (hentries.map _)) (.nil _)
  have hlast : Gathers (byName members) { entries := some entries }
      (cursor.map fun c => ("cursor", cursorOctets c)).toList
      { entries := some entries, cursor } := by
    cases cursor with
    | none => exact .nil _
    | some c => exact .cons (.byName rfl rfl ((takes_cursor c).map _)) (.nil _)
  rw [ofJson?, envelope, (takes_record (hfirst.append hlast)).whole]
  rfl

end Page

/-! ## Answers -/

/-- The storage manager did what it was asked for. -/
def Reply.Fulfils (reply : Reply) : Prop := 200 ≤ reply.status ∧ reply.status < 300

instance (reply : Reply) : Decidable reply.Fulfils :=
  inferInstanceAs (Decidable (200 ≤ reply.status ∧ reply.status < 300))

/-- What a listing comes to by the answer to it. -/
inductive PageTaken (lead : String) (reply : Reply) : Except Failure Page → Prop
  | refused : ¬ reply.Fulfils → PageTaken lead reply (.error (.listing reply.status))
  | broken {reason} : reply.Fulfils → BreaksOff reason reply.body →
      PageTaken lead reply
        (.error (.http ⟨if reply.stalls then .stalledBody else .body, none, [.text reason]⟩))
  | unread {body} : reply.Fulfils → Delivers reply.body body → Page.ofJson? body = none →
      PageTaken lead reply (.error .json)
  | foreign {body page e} : reply.Fulfils → Delivers reply.body body →
      Page.ofJson? body = some page → page.FirstForeign lead e →
      PageTaken lead reply (.error (.foreignKey e.key lead))
  | shown {body page shown} : reply.Fulfils → Delivers reply.body body →
      Page.ofJson? body = some page → page.ShownAs lead shown → PageTaken lead reply (.ok shown)

namespace Client

variable {lead : String} {reply : Reply} {r : Except Failure Page}

theorem isSuccess_iff : reply.isSuccess = true ↔ reply.Fulfils := by
  simp [Reply.isSuccess, Reply.Fulfils]

/-- What is made of a page that was read. -/
theorem pageOf_eq_relativeTo {body : Bytes} {page : Page} (hstatus : reply.Fulfils)
    (hbody : Delivers reply.body body) (hpage : Page.ofJson? body = some page) :
    pageOf lead reply = page.relativeTo lead := by
  simp [pageOf, answerOf, isSuccess_iff.mpr hstatus, Reply.wholeBody_of_delivers hbody, hpage]

theorem pageOf_of_pageTaken (h : PageTaken lead reply r) : pageOf lead reply = r := by
  cases h with
  | refused hstatus => simp [pageOf, answerOf, isSuccess_iff, hstatus]
  | broken hstatus hbody =>
    simp [pageOf, answerOf, isSuccess_iff.mpr hstatus, Reply.wholeBody_of_breaksOff hbody,
      Reply.bodyFailure]
  | unread hstatus hbody hpage =>
    simp [pageOf, answerOf, isSuccess_iff.mpr hstatus, Reply.wholeBody_of_delivers hbody, hpage]
  | foreign hstatus hbody hpage hforeign =>
    rw [pageOf_eq_relativeTo hstatus hbody hpage]
    exact Page.relativeTo_eq_error.mpr ⟨_, hforeign, rfl⟩
  | shown hstatus hbody hpage hshown =>
    rw [pageOf_eq_relativeTo hstatus hbody hpage]
    exact Page.relativeTo_eq_ok.mpr hshown

/-- Every answer is taken in one way. -/
theorem pageTaken_pageOf (lead : String) (reply : Reply) :
    PageTaken lead reply (pageOf lead reply) := by
  by_cases hstatus : reply.Fulfils
  · rcases delivers_or_breaksOff reply.body with ⟨body, hbody⟩ | ⟨reason, hbody⟩
    · rcases hpage : Page.ofJson? body with _ | page
      · have h : PageTaken lead reply _ := .unread hstatus hbody hpage
        rwa [pageOf_of_pageTaken h]
      · rw [pageOf_eq_relativeTo hstatus hbody hpage]
        rcases hresult : page.relativeTo lead with f | shown
        · obtain ⟨e, hforeign, rfl⟩ := Page.relativeTo_eq_error.mp hresult
          exact .foreign hstatus hbody hpage hforeign
        · exact .shown hstatus hbody hpage (Page.relativeTo_eq_ok.mp hresult)
    · have h : PageTaken lead reply _ := .broken hstatus hbody
      rwa [pageOf_of_pageTaken h]
  · have h : PageTaken lead reply _ := .refused hstatus
    rwa [pageOf_of_pageTaken h]

theorem pageTaken_iff : PageTaken lead reply r ↔ pageOf lead reply = r := by
  refine ⟨pageOf_of_pageTaken, ?_⟩
  rintro rfl
  exact pageTaken_pageOf lead reply

/-- **A page is taken whole or not at all.** A listing that is answered comes to what `PageTaken`
says of the answer and to nothing else. Of the pages that came to their end, those are shown whose
keys all begin with `lead`. As a page is written, so it is read: with all of its entries in their
order and with its cursor, which is none where it was left out or is `null`. -/
theorem pages_taken_whole :
    (∀ (c : Client) lead cursor limit (s : Session) r,
      ((c.list lead cursor limit).runFrom s).1 = r ↔
        let x := c.questioned ("/" ++ listingPath ++ "/") (listPairs lead cursor limit) s
        (∃ f, x.1 = .error f ∧ r = .error (.http f)) ∨
          ∃ reply, x.1 = .ok reply ∧ PageTaken lead reply r) ∧
    (∀ lead (reply : Reply) body page, reply.Fulfils → Delivers reply.body body →
      Page.ofJson? body = some page →
      ((∃ shown, PageTaken lead reply (.ok shown)) ↔ ∀ e ∈ page.entries, e.Under lead)) ∧
    ∀ entries cursor, (∀ e ∈ entries, e.length ≤ Text.maxWord64) →
      Page.ofJson? (Page.envelope entries cursor) = some ⟨entries, cursor.getD none⟩ := by
  refine ⟨fun c lead cursor limit s r => ?_, fun lead reply body page hstatus hbody hpage => ?_,
    fun entries cursor h => Page.ofJson?_envelope h cursor⟩
  · rw [runFrom_list, afterQuestion]
    dsimp only
    generalize (c.questioned ("/" ++ listingPath ++ "/") (listPairs lead cursor limit) s).1 = x
    rcases x with f | reply
    · simp [bind, Except.bind, eq_comm]
    · simp [bind, Except.bind, pageTaken_iff]
  · simp only [pageTaken_iff, pageOf_eq_relativeTo hstatus hbody hpage, Page.relativeTo_eq_ok]
    exact Page.exists_shownAs_iff

/-- Three keys of which the second one begins like the first, and a size of 64 bits. An empty cursor
is one. -/
theorem pages_taken_whole_overlapping :
    let entries : List Entry := [⟨"é/", 0⟩, ⟨"é/é/", 1⟩, ⟨"é/\"", 0xffffffffffffffff⟩]
    let body := Page.envelope entries (some (some ""))
    let reply : Reply := ⟨200, none, [.pending, .chunk body], false⟩
    let s : Session := { network := ⟨.available, [.reply reply], []⟩ }
    (∀ e ∈ entries, e.length ≤ Text.maxWord64) ∧ reply.Fulfils ∧ Delivers reply.body body ∧
      Page.ofJson? body = some ⟨entries, some ""⟩ ∧
      (∃ shown, PageTaken "é/" reply (.ok shown)) ∧
      ((list ⟨"http://manager", "id", "secret"⟩ "é/" none 10).runFrom s).1 =
        .ok ⟨[⟨"", 0⟩, ⟨"é/", 1⟩, ⟨"\"", 0xffffffffffffffff⟩], some ""⟩ ∧
      ((list ⟨"http://manager", "id", "secret"⟩ "é/é" none 10).runFrom s).1 =
        .error (.foreignKey "é/" "é/é") := by
  intro entries body reply s
  obtain ⟨htaken, hwhole, hread⟩ := pages_taken_whole
  have hsizes : ∀ e ∈ entries, e.length ≤ Text.maxWord64 := by decide
  have hstatus : reply.Fulfils := by decide
  have hbody : Delivers reply.body body := .pending (.single body)
  have hpage : Page.ofJson? body = some ⟨entries, some ""⟩ := hread entries (some (some "")) hsizes
  have hanswer : ∀ lead, lead = "é/" ∨ lead = "é/é" →
      ((⟨"http://manager", "id", "secret"⟩ : Client).questioned ("/" ++ listingPath ++ "/")
        (listPairs lead none 10) s).1 = .ok reply := by
    rintro lead (rfl | rfl) <;> decide +kernel
  have hunder : ∀ e ∈ entries, e.Under "é/" := by decide +kernel
  refine ⟨hsizes, hstatus, hbody, hpage, (hwhole _ _ _ _ hstatus hbody hpage).mpr hunder, ?_, ?_⟩
  · refine (htaken _ _ _ _ s _).mpr (.inr ⟨reply, hanswer _ (.inl rfl), ?_⟩)
    refine .shown hstatus hbody hpage ⟨?_, rfl, by simp [Page.hasMore]⟩
    exact .cons ⟨rfl, rfl⟩ (.cons ⟨rfl, rfl⟩ (.cons ⟨rfl, rfl⟩ .nil))
  · refine (htaken _ _ _ _ s _).mpr (.inr ⟨reply, hanswer _ (.inr rfl), ?_⟩)
    have hentries : entries = [] ++ entries := rfl
    exact .foreign hstatus hbody hpage (.among hentries (List.forall_mem_nil _) (by decide +kernel))

end Client

end MediaVault
