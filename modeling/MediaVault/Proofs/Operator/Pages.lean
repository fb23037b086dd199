/-
How a walk through the pages of a listing goes, whatever answers its
questions. Pages lead on from one to the next as long as each brings a cursor
and not the one that it was asked for with; the walk follows them and ends at
the first answer that does not lead on. The only cursor that it knows again is
the last one it followed, so a cycle of two cursors is walked for ever.
-/
import Mathlib.Data.Finset.Card
import Mathlib.Data.Finset.Image
import Mathlib.Data.List.Chain
import MediaVault.Operator.Pages
import MediaVault.Proofs.Vault.Questions

namespace MediaVault

/-! ## Managers -/

/-- A question for one page of a listing. -/
structure Question where
  lead : String
  cursor : Option String
  limit : Nat
  deriving DecidableEq, Repr

/-- What answers questions for pages: its answer, and how it stands after it. -/
abbrev Manager (σ : Type) := Question → σ → Except Failure Page × σ

namespace Manager

variable {σ : Type} {m : Manager σ} {lead : String} {limit : Nat}
variable {cursor cursor' : Option String} {s s' s₁ : σ} {pages : List Page}

/-- The manager with a record of what it was asked. -/
def recorded (m : Manager σ) : Manager (σ × List Question) :=
  fun q s => ((m q s.1).1, (m q s.1).2, s.2 ++ [q])

/-- One page asked of the manager. -/
def fetch (m : Manager σ) (lead : String) (limit : Nat) (cursor : Option String) :
    ExceptT Failure (StateM σ) Page :=
  ExceptT.mk (m ⟨lead, cursor, limit⟩)

/-- All pages asked of the manager from a cursor on, in at most `steps` questions. -/
def walkFrom (m : Manager σ) (lead : String) (limit steps : Nat) (cursor : Option String)
    (s : σ) : Except CommandFailure (Option (List Entry)) × σ :=
  (Pages.walk (m.fetch lead limit) lead steps cursor).run s

/-- All pages asked of the manager in at most `steps` questions: what comes of it, how the manager
stands then, and what it was asked. -/
def listing (m : Manager σ) (lead : String) (limit steps : Nat) (s : σ) :
    Except CommandFailure (Option (List Entry)) × σ × List Question :=
  m.recorded.walkFrom lead limit steps none (s, [])

/-- **One step of a walk**: the manager is asked once, and its answer ends the walk or leads on. -/
theorem walkFrom_succ (m : Manager σ) (lead : String) (limit steps : Nat) (cursor : Option String)
    (s : σ) :
    m.walkFrom lead limit (steps + 1) cursor s =
      match m ⟨lead, cursor, limit⟩ s with
      | (.error f, s') => (.error (.vault f none), s')
      | (.ok page, s') =>
        match page.cursor with
        | none => (.ok (some page.entries), s')
        | some next =>
          if cursor = some next then (.error (Pages.repeated next lead), s')
          else
            match m.walkFrom lead limit steps (some next) s' with
            | (.error f, s'') => (.error f, s'')
            | (.ok rest, s'') => (.ok (rest.map (page.entries ++ ·)), s'') := by
  rw [walkFrom, Pages.walk, run_bind, run_adapt, fetch, ExceptT.run_mk]
  rcases m ⟨lead, cursor, limit⟩ s with ⟨f | page, s'⟩
  · rfl
  rcases hnext : page.cursor with _ | next
  · simp only [mapError_ok, hnext]
    rfl
  by_cases hrepeated : cursor = some next
  · simp only [mapError_ok, hnext, hrepeated, if_true, run_bind]
    rfl
  · simp only [mapError_ok, hnext, hrepeated, if_false, run_bind, walkFrom]
    rcases (Pages.walk (m.fetch lead limit) lead steps (some next)).run s' with ⟨f | rest, s''⟩ <;> rfl

/-! ## Pages that lead on -/

/-- The manager answers with these pages one after another, from one cursor to another: each page
brings the cursor of the next question, which is not the one that the page was asked for with. -/
inductive Leads (m : Manager σ) (lead : String) (limit : Nat) :
    Option String → σ → List Page → Option String → σ → Prop
  | here (cursor : Option String) (s : σ) : Leads m lead limit cursor s [] cursor s
  | on {cursor cursor' : Option String} {s s' s'' : σ} {page : Page} {next : String}
      {pages : List Page} : m ⟨lead, cursor, limit⟩ s = (.ok page, s') →
      page.cursor = some next → cursor ≠ some next →
      Leads m lead limit (some next) s' pages cursor' s'' →
      Leads m lead limit cursor s (page :: pages) cursor' s''

/-- The questions from a cursor on, each further one with the cursor of the page before it. -/
def questions (lead : String) (limit : Nat) (cursor : Option String) (pages : List Page) :
    List Question :=
  (cursor :: pages.map (·.cursor)).map (⟨lead, ·, limit⟩)

theorem length_questions (lead : String) (limit : Nat) (cursor : Option String)
    (pages : List Page) : (questions lead limit cursor pages).length = pages.length + 1 := by
  simp [questions]

theorem questions_cons (lead : String) (limit : Nat) (cursor : Option String) (page : Page)
    (pages : List Page) :
    questions lead limit cursor (page :: pages) =
      ⟨lead, cursor, limit⟩ :: questions lead limit page.cursor pages := rfl

/-- The last question is about the cursor that was come to. -/
theorem Leads.questions_eq (h : m.Leads lead limit cursor s pages cursor' s') :
    questions lead limit cursor pages =
      (questions lead limit cursor pages).dropLast ++ [⟨lead, cursor', limit⟩] := by
  induction h with
  | here => rfl
  | on _ hnext _ _ ih =>
    rw [questions_cons, hnext, List.dropLast_cons_of_ne_nil (by simp [questions]), List.cons_append,
      ← ih]

/-- Pages that lead on from where others lead to. -/
theorem Leads.append {cursor'' : Option String} {s'' : σ} {more : List Page}
    (h : m.Leads lead limit cursor s pages cursor' s')
    (h' : m.Leads lead limit cursor' s' more cursor'' s'') :
    m.Leads lead limit cursor s (pages ++ more) cursor'' s'' := by
  induction h with
  | here => exact h'
  | on hanswer hnext hne _ ih => exact .on hanswer hnext hne (ih h')

/-- The record changes nothing of how pages lead on, and holds the questions for them. -/
theorem Leads.recorded (h : m.Leads lead limit cursor s pages cursor' s') (asked : List Question) :
    m.recorded.Leads lead limit cursor (s, asked) pages cursor'
      (s', asked ++ (questions lead limit cursor pages).dropLast) := by
  induction h generalizing asked with
  | here cursor s =>
    have hnone : asked ++ (questions lead limit cursor []).dropLast = asked := by
      simp [questions]
    rw [hnone]
    exact .here _ _
  | @on cursor _ s s' _ page next pages hanswer hnext hne _ ih =>
    have hasked : asked ++ (questions lead limit cursor (page :: pages)).dropLast =
        asked ++ [⟨lead, cursor, limit⟩] ++ (questions lead limit (some next) pages).dropLast := by
      rw [questions_cons, hnext, List.dropLast_cons_of_ne_nil (by simp [questions]),
        List.append_assoc, List.singleton_append]
    rw [hasked]
    exact .on (by simp [Manager.recorded, hanswer]) hnext hne (ih _)

/-- A walk over pages that lead on goes on from where they lead to, with their entries before
all that follows. -/
theorem walkFrom_of_leads (h : m.Leads lead limit cursor s pages cursor' s') (n : Nat) :
    m.walkFrom lead limit (pages.length + n) cursor s =
      Prod.map (Except.map (Option.map (pages.flatMap (·.entries) ++ ·))) id
        (m.walkFrom lead limit n cursor' s') := by
  induction h with
  | here cursor s =>
    rw [List.length_nil, Nat.zero_add]
    rcases m.walkFrom lead limit n cursor s with ⟨f | entries | entries, s'⟩ <;> rfl
  | on hanswer hnext hne _ ih =>
    rw [List.length_cons, Nat.add_right_comm, walkFrom_succ, hanswer]
    simp only [hnext, if_neg hne, ih]
    generalize m.walkFrom lead limit n _ _ = rest
    rcases rest with ⟨f | entries | entries, s'⟩ <;> simp [Except.map]

/-! ## The end of a walk -/

/-- How a walk can end, after what questions, with what result, and with the manager in which
state. -/
inductive Ends (m : Manager σ) (lead : String) (limit : Nat) (s : σ) :
    List Question → Except CommandFailure (List Entry) → σ → Prop
  /-- A page without a cursor is the last one. -/
  | complete {pages : List Page} {cursor : Option String} {s₁ s' : σ} {last : Page} :
      Leads m lead limit none s pages cursor s₁ → m ⟨lead, cursor, limit⟩ s₁ = (.ok last, s') →
      last.cursor = none →
      Ends m lead limit s (questions lead limit none pages)
        (.ok ((pages ++ [last]).flatMap (·.entries))) s'
  /-- A question fails. -/
  | failed {pages : List Page} {cursor : Option String} {s₁ s' : σ} {f : Failure} :
      Leads m lead limit none s pages cursor s₁ → m ⟨lead, cursor, limit⟩ s₁ = (.error f, s') →
      Ends m lead limit s (questions lead limit none pages) (.error (.vault f none)) s'
  /-- A page brings the cursor that it was asked for with. -/
  | repeated {pages : List Page} {cursor : String} {s₁ s' : σ} {page : Page} :
      Leads m lead limit none s pages (some cursor) s₁ →
      m ⟨lead, some cursor, limit⟩ s₁ = (.ok page, s') → page.cursor = some cursor →
      Ends m lead limit s (questions lead limit none pages)
        (.error (Pages.repeated cursor lead)) s'

variable {asked : List Question} {r : Except CommandFailure (List Entry)} {n : Nat}

/-- What the question after pages that lead on makes of a walk. -/
theorem listing_of_leads (h : m.Leads lead limit none s pages cursor s₁) (n : Nat) :
    m.listing lead limit (pages.length + n) s =
      Prod.map (Except.map (Option.map (pages.flatMap (·.entries) ++ ·))) id
        (m.recorded.walkFrom lead limit n cursor
          (s₁, (questions lead limit none pages).dropLast)) :=
  walkFrom_of_leads (h.recorded []) n

/-- With enough questions a walk comes to its end, and no further question is asked then. -/
theorem Ends.listing_eq (h : m.Ends lead limit s asked r s') (hn : asked.length ≤ n) :
    m.listing lead limit n s = (r.map some, s', asked) := by
  cases h with
  | @complete pages cursor _ _ last hleads hanswer hlast =>
    obtain ⟨k, rfl⟩ := Nat.exists_eq_add_of_le (length_questions lead limit none pages ▸ hn)
    rw [Nat.add_assoc, Nat.add_comm 1 k, listing_of_leads hleads, walkFrom_succ]
    simp only [recorded, hanswer, hlast, ← hleads.questions_eq]
    simp [Except.map]
  | @failed pages cursor _ _ f hleads hanswer =>
    obtain ⟨k, rfl⟩ := Nat.exists_eq_add_of_le (length_questions lead limit none pages ▸ hn)
    rw [Nat.add_assoc, Nat.add_comm 1 k, listing_of_leads hleads, walkFrom_succ]
    simp only [recorded, hanswer, ← hleads.questions_eq]
    rfl
  | @repeated pages cursor _ _ page hleads hanswer hsame =>
    obtain ⟨k, rfl⟩ := Nat.exists_eq_add_of_le (length_questions lead limit none pages ▸ hn)
    rw [Nat.add_assoc, Nat.add_comm 1 k, listing_of_leads hleads, walkFrom_succ]
    simp only [recorded, hanswer, hsame, if_true, ← hleads.questions_eq]
    rfl

/-- As long as pages lead on there is no result. -/
theorem Leads.listing_eq (h : m.Leads lead limit none s pages cursor s') :
    m.listing lead limit pages.length s =
      (.ok none, s', (questions lead limit none pages).dropLast) :=
  listing_of_leads h 0

/-- After any number of questions a walk has ended, or every page so far led on. -/
theorem ends_or_leads (m : Manager σ) (lead : String) (limit n : Nat) (s : σ) :
    (∃ asked r s', m.Ends lead limit s asked r s' ∧ asked.length ≤ n) ∨
      ∃ pages cursor s', pages.length = n ∧ m.Leads lead limit none s pages cursor s' := by
  induction n with
  | zero => exact .inr ⟨[], none, s, rfl, .here none s⟩
  | succ n ih =>
    rcases ih with ⟨asked, r, s', hends, hn⟩ | ⟨pages, cursor, s₁, hlen, hleads⟩
    · exact .inl ⟨asked, r, s', hends, Nat.le_succ_of_le hn⟩
    have hasked : (questions lead limit none pages).length ≤ n + 1 := by
      rw [length_questions, hlen]
    -- The answer to the next question ends the walk in one of three ways or leads on.
    rcases hanswer : m ⟨lead, cursor, limit⟩ s₁ with ⟨f | page, s'⟩
    · exact .inl ⟨_, _, _, .failed hleads hanswer, hasked⟩
    rcases hnext : page.cursor with _ | next
    · exact .inl ⟨_, _, _, .complete hleads hanswer hnext, hasked⟩
    by_cases hsame : cursor = some next
    · subst hsame
      exact .inl ⟨_, _, _, .repeated hleads hanswer hnext, hasked⟩
    · refine .inr ⟨pages ++ [page], some next, s', by simp [hlen], ?_⟩
      exact hleads.append (.on hanswer hnext hsame (.here _ _))

/-- What a walk comes to within so many questions is how it ends. -/
theorem listing_eq_iff :
    m.listing lead limit n s = (r.map some, s', asked) ↔
      m.Ends lead limit s asked r s' ∧ asked.length ≤ n := by
  refine ⟨fun h => ?_, fun h => h.1.listing_eq h.2⟩
  rcases m.ends_or_leads lead limit n s with ⟨_, r', _, hends, hn⟩ | ⟨_, _, _, rfl, hleads⟩
  · rw [hends.listing_eq hn] at h
    obtain ⟨hr, rfl, rfl⟩ : r'.map some = r.map some ∧ _ ∧ _ := by simpa using h
    have : r' = r := by
      cases r' <;> cases r <;> simp_all [Except.map]
    exact ⟨this ▸ hends, hn⟩
  · rw [hleads.listing_eq] at h
    cases r <;> simp [Except.map] at h

/-- Managers that answer alike are walked alike. -/
theorem walkFrom_map {τ : Type} {m' : Manager τ} (view : σ → τ)
    (h : ∀ q s, m' q (view s) = Prod.map id view (m q s)) (lead : String) (limit n : Nat)
    (cursor : Option String) (s : σ) :
    m'.walkFrom lead limit n cursor (view s) =
      Prod.map id view (m.walkFrom lead limit n cursor s) := by
  induction n generalizing cursor s with
  | zero => rfl
  | succ n ih =>
    rw [walkFrom_succ, walkFrom_succ, h]
    rcases m ⟨lead, cursor, limit⟩ s with ⟨f | page, s'⟩
    · rfl
    dsimp only [Prod.map, id]
    rcases page.cursor with _ | next
    · rfl
    by_cases hsame : cursor = some next
    · simp only [hsame, if_true]
    · simp only [hsame, if_false, ih]
      generalize m.walkFrom lead limit n (some next) s' = rest
      rcases rest with ⟨f | entries, _⟩ <;> rfl

/-- The record changes nothing of a walk. -/
theorem walkFrom_eq_recorded (m : Manager σ) (lead : String) (limit n : Nat)
    (cursor : Option String) (s : σ) (asked : List Question) :
    m.walkFrom lead limit n cursor s =
      ((m.recorded.walkFrom lead limit n cursor (s, asked)).1,
        (m.recorded.walkFrom lead limit n cursor (s, asked)).2.1) :=
  walkFrom_map Prod.fst (fun _ _ => rfl) lead limit n cursor (s, asked)

/-- The manager was asked the first questions for pages that lead on. -/
theorem exists_asked_append (m : Manager σ) (lead : String) (limit n : Nat) (s : σ) :
    ∃ pages cursor s' rest, m.Leads lead limit none s pages cursor s' ∧
      (m.listing lead limit n s).2.2 ++ rest = questions lead limit none pages := by
  rcases m.ends_or_leads lead limit n s with ⟨asked, r, s', hends, hn⟩ | ⟨_, _, _, rfl, hleads⟩
  · rw [hends.listing_eq hn]
    cases hends with
    | complete hleads _ _ => exact ⟨_, _, _, [], hleads, List.append_nil _⟩
    | failed hleads _ => exact ⟨_, _, _, [], hleads, List.append_nil _⟩
    | repeated hleads _ _ => exact ⟨_, _, _, [], hleads, List.append_nil _⟩
  · rw [hleads.listing_eq]
    exact ⟨_, _, _, _, hleads, hleads.questions_eq.symm⟩

/-! ## Clients -/

/-- A client's storage manager, as the client asks it. -/
def ofClient (c : Client) : Manager Session :=
  fun q s => (c.list q.lead q.cursor q.limit).runFrom s

/-- Each page that leads on has used up an answer of the network. -/
theorem Leads.length_gets {c : Client} {s s' : Session}
    (h : (ofClient c).Leads lead limit cursor s pages cursor' s') :
    s.network.gets.length = pages.length + s'.network.gets.length := by
  induction h with
  | here => simp
  | @on cursor _ s s₁ _ page _ pages hanswer _ _ _ ih =>
    rw [ofClient, Client.runFrom_list, Client.afterQuestion] at hanswer
    obtain ⟨hpage, rfl⟩ := Prod.mk.inj hanswer
    rcases hx : (c.questioned ("/" ++ Client.listingPath ++ "/")
      (Client.listPairs lead cursor limit) s).1 with f | reply
    · rw [hx] at hpage
      cases hpage
    · obtain ⟨answer, hgets, -⟩ := Client.gets_of_questioned_eq_ok hx
      rw [hgets, List.length_cons, ih, List.length_cons]
      omega

/-- A listing of all pages has one question more than the network has answers. -/
theorem run_listAll (c : Client) (lead : String) (limit : Nat) (s : Session) :
    ((Pages.listAll c lead limit).run s : Except CommandFailure (List Entry) × Session) =
      match (ofClient c).walkFrom lead limit (s.network.gets.length + 1) none s with
      | (.ok (some entries), s') => (.ok entries, s')
      | (.ok none, s') => (.error (.vault .task none), s')
      | (.error f, s') => (.error f, s') := by
  rw [Pages.listAll, run_bind, run_get]
  dsimp only
  rw [run_bind]
  have hwalk : (Pages.walk (fun cursor => c.list lead cursor limit) lead
      (s.network.gets.length + 1) none).run s =
        (ofClient c).walkFrom lead limit (s.network.gets.length + 1) none s := rfl
  rw [hwalk]
  rcases (ofClient c).walkFrom lead limit (s.network.gets.length + 1) none s with
    ⟨f | entries | entries, s'⟩ <;> rfl

/-- **The pages of a client's listing come to an end**: its walk has enough questions for all
answers of the network, so it is the walk over its storage manager. -/
theorem ends_listAll (c : Client) (lead : String) (limit : Nat) (s : Session) :
    ∃ asked r s', (ofClient c).Ends lead limit s asked r s' ∧
      (Pages.listAll c lead limit).run s = (r, s') := by
  obtain ⟨asked, r, s', hends, hn⟩ | ⟨pages, cursor, s', hlen, hleads⟩ :=
    (ofClient c).ends_or_leads lead limit (s.network.gets.length + 1) s
  · refine ⟨asked, r, s', hends, ?_⟩
    have hwalk : (ofClient c).walkFrom lead limit (s.network.gets.length + 1) none s =
        (r.map some, s') := by
      rw [walkFrom_eq_recorded _ _ _ _ _ _ []]
      change ((listing _ _ _ _ _).1, (listing _ _ _ _ _).2.1) = _
      rw [hends.listing_eq hn]
    rw [run_listAll, hwalk]
    cases r <;> rfl
  · have := hleads.length_gets
    omega

/-- **A listing of all pages is its pages one after another, or a failure.** With any manager, what
comes of at most `n` questions and which they were is how the walk ends, or else the first `n` pages
lead on. A client's listing comes to an end. -/
theorem listing_pages :
    (∀ {σ : Type} (m : Manager σ) lead limit n s asked r s',
      m.listing lead limit n s = (r.map some, s', asked) ↔
        m.Ends lead limit s asked r s' ∧ asked.length ≤ n) ∧
    (∀ {σ : Type} (m : Manager σ) lead limit n s asked s',
      m.listing lead limit n s = (.ok none, s', asked) ↔
        ∃ pages cursor, pages.length = n ∧ m.Leads lead limit none s pages cursor s' ∧
          asked = (questions lead limit none pages).dropLast) ∧
    ∀ (c : Client) lead limit s, ∃ asked r s', (ofClient c).Ends lead limit s asked r s' ∧
      (Pages.listAll c lead limit).run s = (r, s') := by
  refine ⟨fun m lead limit n s asked r s' => listing_eq_iff,
    fun m lead limit n s asked s' => ⟨fun h => ?_, ?_⟩, ends_listAll⟩
  · rcases m.ends_or_leads lead limit n s with ⟨_, r, _, hends, hn⟩ | ⟨_, _, _, rfl, hleads⟩
    · rw [hends.listing_eq hn] at h
      cases r <;> simp [Except.map] at h
    · rw [hleads.listing_eq] at h
      obtain ⟨rfl, rfl⟩ : _ = s' ∧ _ = asked := by simpa using h
      exact ⟨_, _, rfl, hleads, rfl⟩
  · rintro ⟨pages, cursor, rfl, hleads, rfl⟩
    exact hleads.listing_eq

/-! ## Questions asked again -/

/-- Pages that lead on, taken apart. -/
theorem Leads.of_append {more : List Page}
    (h : m.Leads lead limit cursor s (pages ++ more) cursor' s') :
    ∃ cursor₁ s₁, m.Leads lead limit cursor s pages cursor₁ s₁ ∧
      m.Leads lead limit cursor₁ s₁ more cursor' s' := by
  induction pages generalizing cursor s with
  | nil => exact ⟨cursor, s, .here _ _, h⟩
  | cons page pages ih =>
    cases h with
    | on hanswer hnext hne hrest =>
      obtain ⟨cursor₁, s₁, hpages, hmore⟩ := ih hrest
      exact ⟨cursor₁, s₁, .on hanswer hnext hne hpages, hmore⟩

/-- No question is asked twice in a row. -/
theorem Leads.isChain_questions (h : m.Leads lead limit cursor s pages cursor' s') :
    (questions lead limit cursor pages).IsChain (· ≠ ·) := by
  induction h with
  | here => exact .singleton _
  | @on cursor _ _ _ _ page next pages _ hnext hne _ ih =>
    rw [questions_cons, hnext]
    refine .cons_cons (fun heq => hne ?_) ih
    exact (Question.mk.inj heq).2.1

/-- The manager does not go back: a cursor that it brings and that was followed before is the one
that it was just asked with. -/
def Forward (m : Manager σ) (lead : String) (limit : Nat) (s : σ) : Prop :=
  ∀ pages cursor s₁ page s' next, m.Leads lead limit none s pages cursor s₁ →
    m ⟨lead, cursor, limit⟩ s₁ = (.ok page, s') → page.cursor = some next →
    some next ∈ pages.map (·.cursor) → some next = cursor

/-- The cursors that the manager can bring are among these. -/
def Draws (m : Manager σ) (drawn : Finset String) : Prop :=
  ∀ q s page s' next, m q s = (.ok page, s') → page.cursor = some next → next ∈ drawn

/-- A manager that does not go back is asked about different cursors. -/
theorem Leads.nodup_cursors (hf : m.Forward lead limit s)
    (h : m.Leads lead limit none s pages cursor' s') :
    (none :: pages.map (·.cursor)).Nodup := by
  induction pages using List.reverseRecOn generalizing cursor' s' with
  | nil => simp
  | append_singleton pages page ih =>
    obtain ⟨cursor₁, s₁, hpages, hpage⟩ := h.of_append
    cases hpage with
    | @on _ _ _ _ _ _ next _ hanswer hnext hne hrest =>
      rw [List.map_append, ← List.cons_append, List.nodup_append]
      refine ⟨ih hpages, by simp, ?_⟩
      intro a ha b hb heq
      rw [List.map_singleton, List.mem_singleton, hnext] at hb
      rw [heq, hb] at ha
      rcases List.mem_cons.mp ha with hnone | hmem
      · cases hnone
      · exact hne (hf _ _ _ _ _ _ hpages hanswer hnext hmem).symm

/-- The cursors of pages that lead on are drawn from what the manager can bring. -/
theorem Leads.cursors_drawn {drawn : Finset String} (hd : m.Draws drawn)
    (h : m.Leads lead limit cursor s pages cursor' s') :
    ∀ x ∈ pages.map (·.cursor), x ∈ drawn.image some := by
  induction h with
  | here => simp
  | on hanswer hnext _ _ ih =>
    rw [List.map_cons, List.forall_mem_cons]
    refine ⟨?_, ih⟩
    rw [hnext]
    exact Finset.mem_image_of_mem _ (hd _ _ _ _ _ hanswer hnext)

/-- There are no more pages that lead on than cursors to lead on with. -/
theorem Leads.length_le {drawn : Finset String} (hf : m.Forward lead limit s) (hd : m.Draws drawn)
    (h : m.Leads lead limit none s pages cursor' s') : pages.length ≤ drawn.card := by
  have hnodup : (pages.map (·.cursor)).Nodup := (h.nodup_cursors hf).of_cons
  calc pages.length = (pages.map (·.cursor)).toFinset.card := by
        rw [List.toFinset_card_of_nodup hnodup, List.length_map]
    _ ≤ (drawn.image some).card :=
        Finset.card_le_card fun x hx => h.cursors_drawn hd x (List.mem_toFinset.mp hx)
    _ ≤ drawn.card := Finset.card_image_le

/-- **Which questions a walk repeats.** None is asked twice in a row, and a page that brings the
cursor that it was asked with is the end. If the manager does not go back, no question is asked
twice, and with `k` cursors to draw from the walk ends after at most `k + 1` of them. -/
theorem asked_once (m : Manager σ) (lead : String) (limit : Nat) (s : σ) :
    (∀ n, (m.listing lead limit n s).2.2.IsChain (· ≠ ·)) ∧
    (∀ pages cursor s₁ page s' n, m.Leads lead limit none s pages (some cursor) s₁ →
      m ⟨lead, some cursor, limit⟩ s₁ = (.ok page, s') → page.cursor = some cursor →
      pages.length < n →
      m.listing lead limit n s =
        (.error (Pages.repeated cursor lead), s', questions lead limit none pages)) ∧
    (m.Forward lead limit s →
      (∀ n, (m.listing lead limit n s).2.2.Nodup) ∧
      ∀ drawn, m.Draws drawn → ∃ asked r s', m.Ends lead limit s asked r s' ∧
        asked.length ≤ drawn.card + 1 ∧
        ∀ n, drawn.card + 1 ≤ n → m.listing lead limit n s = (r.map some, s', asked)) := by
  refine ⟨fun n => ?_, fun pages cursor s₁ page s' n hleads hanswer hsame hn => ?_,
    fun hf => ⟨fun n => ?_, fun drawn hd => ?_⟩⟩
  · obtain ⟨pages, cursor, s', rest, hleads, hasked⟩ := m.exists_asked_append lead limit n s
    have hchain := hleads.isChain_questions
    rw [← hasked] at hchain
    exact hchain.left_of_append
  · exact (Ends.repeated hleads hanswer hsame).listing_eq (by rwa [length_questions])
  · obtain ⟨pages, cursor, s', rest, hleads, hasked⟩ := m.exists_asked_append lead limit n s
    have hnodup : (questions lead limit none pages).Nodup :=
      (hleads.nodup_cursors hf).map fun a b hab => (Question.mk.inj hab).2.1
    rw [← hasked] at hnodup
    exact hnodup.of_append_left
  · rcases m.ends_or_leads lead limit (drawn.card + 1) s with
      ⟨asked, r, s', hends, hasked⟩ | ⟨pages, cursor, s', hlength, hleads⟩
    · exact ⟨asked, r, s', hends, hasked, fun n hn => hends.listing_eq (hasked.trans hn)⟩
    · have := hleads.length_le hf hd
      omega

/-- A manager that always brings the same page and cursor. -/
def standing : Manager Unit := fun _ _ => (.ok ⟨[⟨"k", 1⟩], some "a"⟩, ())

/-- The cursor that is always the same is followed once. -/
theorem asked_once_standing :
    standing.Forward "p/" 1 () ∧ standing.Draws {"a"} ∧
      (∀ n, 1 < n → standing.listing "p/" 1 n () =
        (.error (Pages.repeated "a" "p/"), (), [⟨"p/", none, 1⟩, ⟨"p/", some "a", 1⟩])) ∧
      (∀ n, (standing.listing "p/" 1 n ()).2.2.Nodup) ∧
      ∃ asked r s', standing.Ends "p/" 1 () asked r s' ∧ asked.length ≤ 2 := by
  have hforward : standing.Forward "p/" 1 () := by
    intro pages cursor s₁ page s' next hleads hanswer hnext hmem
    cases hanswer
    cases hleads with
    | here => simp at hmem
    | on hanswer₁ hnext₁ _ hrest =>
      cases hanswer₁
      cases hrest with
      | here => exact hnext.symm.trans hnext₁
      | on hanswer₂ hnext₂ hne _ =>
        cases hanswer₂
        exact absurd (hnext₁.symm.trans hnext₂) hne
  have hdraws : standing.Draws {"a"} := by
    intro q s page s' next hanswer hnext
    cases hanswer
    cases hnext
    exact Finset.mem_singleton_self _
  have hleads : standing.Leads "p/" 1 none () [⟨[⟨"k", 1⟩], some "a"⟩] (some "a") () :=
    .on rfl rfl (by decide) (.here _ _)
  obtain ⟨-, hrepeated, honce⟩ := standing.asked_once "p/" 1 ()
  obtain ⟨hnodup, hends⟩ := honce hforward
  obtain ⟨asked, r, s', hends, hasked, -⟩ := hends {"a"} hdraws
  exact ⟨hforward, hdraws, fun n hn => hrepeated _ _ _ _ _ n hleads rfl rfl hn, hnodup,
    asked, r, s', hends, hasked⟩

/-- A manager that brings one cursor of two in turn. -/
def backAndForth : Manager Bool := fun _ b => (.ok ⟨[], some (if b then "b" else "a")⟩, !b)

theorem walkFrom_backAndForth (lead : String) (limit n : Nat) (b : Bool)
    (h : cursor ≠ some (if b then "b" else "a")) :
    (backAndForth.walkFrom lead limit n cursor b).1 = .ok none := by
  induction n generalizing cursor b with
  | zero => rfl
  | succ n ih =>
    have hturn : some (if b then "b" else "a") ≠ some (if !b then "b" else "a") := by
      cases b <;> decide
    rw [walkFrom_succ]
    have hrest := ih (!b) hturn
    simp only [backAndForth, if_neg h] at hrest ⊢
    generalize walkFrom _ lead limit n _ _ = rest at hrest ⊢
    rcases rest with ⟨_ | _, _⟩
    · cases hrest
    · cases hrest
      rfl

/-- Two cursors in turn are followed for ever, each again and again. A client that follows them to a
page that it has seen collects it a second time. -/
theorem backAndForth_asked_again :
    ((backAndForth.listing "p/" 1 4 false).2.2.map (·.cursor) =
        [none, some "a", some "b", some "a"] ∧
      ¬ (backAndForth.listing "p/" 1 4 false).2.2.Nodup ∧
      ∀ n, (backAndForth.listing "p/" 1 n false).1 = .ok none) ∧
    let answer (text : String) : Answer := .reply (.announced 200 none (Bytes.ofText text))
    let s : Session := { network := ⟨.available,
      [answer "\x7b\"objects\":[\x7b\"key\":\"p/1\",\"size\":1\x7d],\"cursor\":\"a\"\x7d",
        answer "\x7b\"objects\":[\x7b\"key\":\"p/2\",\"size\":1\x7d],\"cursor\":\"b\"\x7d",
        answer "\x7b\"objects\":[\x7b\"key\":\"p/3\",\"size\":1\x7d],\"cursor\":\"a\"\x7d",
        answer "\x7b\"objects\":[\x7b\"key\":\"p/2\",\"size\":1\x7d]\x7d"], []⟩ }
    let x : Except CommandFailure (List Entry) × Session :=
      (Pages.listAll ⟨"http://manager", "id", "secret"⟩ "p/" 1).run s
    x.1.toOption = some [⟨"1", 1⟩, ⟨"2", 1⟩, ⟨"3", 1⟩, ⟨"2", 1⟩] ∧
      x.2.attempts.map (·.request.url.query) =
        [some "prefix=p%2F&limit=1", some "prefix=p%2F&limit=1&cursor=a",
          some "prefix=p%2F&limit=1&cursor=b", some "prefix=p%2F&limit=1&cursor=a"] := by
  refine ⟨⟨by decide, by decide, fun n => ?_⟩, by decide +kernel⟩
  have h := walkFrom_backAndForth "p/" 1 n false (show none ≠ some "a" by decide)
  rwa [walkFrom_eq_recorded _ _ _ _ _ _ []] at h

end Manager

end MediaVault
