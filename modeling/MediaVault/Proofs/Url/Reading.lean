/-
How an address of a server is laid out in its text: a scheme, slashes, an
authority and a path. A text without a query and a fragment is read by these
parts, so more text at its end only adds to its path.
-/
import MediaVault.Url.Reader
import Mathlib.Data.List.TakeWhile

namespace MediaVault

/-- What a reader made of steps gives, its first step gave something for. -/
theorem exists_of_bind_eq_ok {ε α β : Type} {x : Except ε α} {f : α → Except ε β} {b : β}
    (h : x >>= f = .ok b) : ∃ a, x = .ok a ∧ f a = .ok b := by
  cases x with
  | error e => cases h
  | ok a => exact ⟨a, rfl, h⟩

/-! ## Hosts -/

/-- A host of a known scheme is not the empty name. -/
theorem Host.ne_empty_of_read {cs : List Char} {host : Host} (h : Host.read cs = .ok host) :
    host ≠ .name "" := by
  unfold Host.read at h
  split at h
  next inner _ =>
    obtain ⟨text, -, h⟩ := exists_of_bind_eq_ok h
    obtain ⟨pieces, -, h⟩ := exists_of_bind_eq_ok h
    cases h
    simp
  next =>
    simp only at h
    split at h
    next s _ =>
      split at h
      · cases h
      split at h
      · cases h
      next hname =>
        split at h
        · obtain ⟨n, -, h⟩ := exists_of_bind_eq_ok h
          cases h
          simp
        · cases h
          simpa using hname
    · cases h

namespace Url

/-! ## Authorities -/

variable {scheme : String} {cs more authority path : List Char}

/-- The authority of an address of a known scheme: a user, a host and a port, of which only the host
must be there. -/
theorem readAuthority_of_special (hspecial : isSpecial scheme = true) (atEnd : Bool)
    (cs : List Char) :
    readAuthority scheme atEnd cs =
      if (splitHost false (splitUser cs).2).1 = [] then .error .emptyHost
      else do
        let host ← Host.read (splitHost false (splitUser cs).2).1
        let (port, rest) ← readPort scheme (splitHost false (splitUser cs).2).2
        let (user, password) := cutAt ':' ((splitUser cs).1.getD [])
        return (⟨Percent.encode userReserved user,
          Percent.encode userReserved (password.getD []), host, port⟩, rest) := by
  unfold readAuthority
  rcases splitUser cs with ⟨userPart, hostText⟩
  rcases hhost : splitHost false hostText with ⟨hostPart, after⟩
  by_cases hempty : hostPart = []
  · -- An authority of nothing but an empty user is refused for its host as well.
    simp only [hhost, hempty, hspecial, true_or, and_self, if_true]
    split <;> rfl
  · have hrest : hostText ≠ [] := by
      rintro rfl
      simp only [splitHost, Prod.mk.injEq] at hhost
      exact hempty hhost.1.symm
    simp only [hhost, hempty, hrest, hspecial, false_and, and_false, if_false, if_true]

theorem mem_of_mem_splitUser {c : Char} (h : c ∈ (splitUser cs).2) : c ∈ cs := by
  unfold splitUser at h
  simp only at h
  split at h
  · exact h
  · exact List.mem_reverse.mp ((List.takeWhile_prefix _).subset (List.mem_reverse.mp h))

/-- What follows a host is nothing or begins with a colon, and stood there before. -/
theorem splitHost_rest (inside : Bool) (cs : List Char) :
    ((splitHost inside cs).2 = [] ∨ (splitHost inside cs).2.head? = some ':') ∧
      (splitHost inside cs).2 <:+ cs := by
  induction cs generalizing inside with
  | nil => simp [splitHost]
  | cons c rest ih =>
    unfold splitHost
    split
    next hcolon => simp [hcolon.1]
    next =>
      obtain ⟨hhead, hsuffix⟩ := ih (if c = '[' then true else if c = ']' then false else inside)
      exact ⟨hhead, hsuffix.trans (List.suffix_cons c rest)⟩

/-- A port takes the whole text unless a backslash follows it. -/
theorem rest_of_readPort {port : Option Nat} {rest : List Char} (hcs : cs = [] ∨ cs.head? = some ':')
    (hslash : '\\' ∉ cs) (h : readPort scheme cs = .ok (port, rest)) : rest = [] := by
  rcases hcs with rfl | hcolon
  · cases h
    rfl
  obtain ⟨digits, rfl⟩ : ∃ digits, cs = ':' :: digits := by
    cases cs with
    | nil => cases hcolon
    | cons c digits => cases hcolon; exact ⟨digits, rfl⟩
  simp only [readPort] at h
  split at h
  · cases h
  next hport =>
    cases h
    refine Decidable.byContradiction fun hrest => hport (.inr ⟨hrest, fun hhead => hslash ?_⟩)
    have hmem := List.mem_of_mem_head? hhead
    exact List.mem_cons_of_mem _ ((List.dropWhile_suffix _).subset hmem)

/-- An authority without slashes is read to its end, and names a host. -/
theorem of_readAuthority_eq_ok (hspecial : isSpecial scheme = true) {atEnd : Bool} {a : Authority}
    {rest : List Char} (hslash : '\\' ∉ cs) (h : readAuthority scheme atEnd cs = .ok (a, rest)) :
    rest = [] ∧ a.host ≠ .name "" := by
  rw [readAuthority_of_special hspecial] at h
  split at h
  · cases h
  obtain ⟨host, hhost, h⟩ := exists_of_bind_eq_ok h
  obtain ⟨⟨port, rest'⟩, hport, h⟩ := exists_of_bind_eq_ok h
  cases h
  obtain ⟨hhead, hsuffix⟩ := splitHost_rest false (splitUser cs).2
  exact ⟨rest_of_readPort hhead (fun hmem => hslash (mem_of_mem_splitUser (hsuffix.subset hmem)))
    hport, Host.ne_empty_of_read hhost⟩

/-! ## Layouts -/

/-- A text that is laid out as the address of a server: a scheme and a colon, slashes, an authority
that is not empty, and a path that begins with a slash if there is one. -/
structure Layout (cs : List Char) (scheme : String) (slashes authority path : List Char) : Prop where
  scheme_eq : splitScheme? cs = some (scheme, slashes ++ authority ++ path)
  slashes_eq : ∀ c ∈ slashes, isSlash true c = true
  authority_eq : ∀ c ∈ authority, isSlash true c = false
  authority_ne : authority ≠ []
  path_eq : path = [] ∨ path.head?.any (isSlash true) = true
  unmarked : ∀ c ∈ slashes ++ authority ++ path, c ≠ '#' ∧ c ≠ '?'

theorem cutAt_of_not_mem {d : Char} (h : d ∉ cs) : cutAt d cs = (cs, none) := by
  have hdrop : cs.dropWhile (· ≠ d) = [] := by
    rw [List.dropWhile_eq_nil_iff]
    intro c hc
    simpa using ne_of_mem_of_not_mem hc h
  rw [cutAt, hdrop]

theorem of_cutAt_eq_none {d : Char} (h : (cutAt d cs).2 = none) : d ∉ cs := by
  intro hd
  have hdrop : cs.dropWhile (· ≠ d) ≠ [] := by
    rw [ne_eq, List.dropWhile_eq_nil_iff]
    intro hall
    simpa using hall d hd
  unfold cutAt at h
  split at h
  next hnil => exact hdrop hnil
  next => cases h

/-- A scheme of servers: it is known, and its addresses are not those of files. -/
def IsServer (scheme : String) : Prop := isSpecial scheme = true ∧ scheme ≠ "file"

/-- The address of a server with an authority and a path. -/
def served (scheme : String) (a : Authority) (path : List Char) : Url :=
  { scheme, user := a.user, password := a.password, host := some a.host, port := a.port
    path := readPath true path, query := none, fragment := none }

variable {s : String} {u : Url} {slashes : List Char} {a : Authority}

/-- The parts of an address that has an authority. -/
theorem of_readHierarchy {query fragment : Option String}
    (h : readHierarchy scheme cs query fragment = .ok u) :
    ∃ atEnd a rest,
      readAuthority scheme atEnd (cs.takeWhile (! isSlash (isSpecial scheme) ·)) = .ok (a, rest) ∧
      u = { scheme, user := a.user, password := a.password, host := some a.host, port := a.port
            path :=
              let path := rest ++ cs.dropWhile (! isSlash (isSpecial scheme) ·)
              if ¬ isSpecial scheme ∧ path = [] then .segments []
              else readPath (isSpecial scheme) path
            query, fragment } := by
  obtain ⟨⟨a, rest⟩, ha, h⟩ := exists_of_bind_eq_ok h
  cases h
  exact ⟨_, a, rest, ha, rfl⟩

/-- The scheme of an address stands at the beginning of its text, and its query and its fragment
behind their marks. -/
theorem cuts_of_read (h : read s = .ok u) :
    ∃ text, splitScheme? (clean s) = some (u.scheme, text) ∧
      u.query =
        (cutAt '?' (cutAt '#' text).1).2.map (Percent.encode (queryReserved u.scheme)) ∧
      u.fragment = (cutAt '#' text).2.map (Percent.encode fragmentReserved) := by
  unfold read at h
  rcases hsplit : splitScheme? (clean s) with _ | ⟨scheme, text⟩
  · simp only [hsplit] at h
    cases h
  refine ⟨text, ?_⟩
  simp only [hsplit] at h
  split at h
  · obtain ⟨x, -, h⟩ := exists_of_bind_eq_ok h
    cases h
    exact ⟨rfl, rfl, rfl⟩
  split at h
  · obtain ⟨_, _, _, -, rfl⟩ := of_readHierarchy h
    exact ⟨rfl, rfl, rfl⟩
  split at h
  · obtain ⟨_, _, _, -, rfl⟩ := of_readHierarchy h
    exact ⟨rfl, rfl, rfl⟩
  · cases h
    exact ⟨rfl, rfl, rfl⟩
  · cases h
    exact ⟨rfl, rfl, rfl⟩

theorem scheme_of_read (h : read s = .ok u) :
    ∃ rest, splitScheme? (clean s) = some (u.scheme, rest) := by
  obtain ⟨text, hsplit, -, -⟩ := cuts_of_read h
  exact ⟨text, hsplit⟩

/-- The address of a server has an authority, which ends at the first slash after those that follow
the scheme. -/
theorem exists_authority (h : read s = .ok u) (hserver : IsServer u.scheme) :
    ∃ text atEnd a,
      let cut := cutAt '?' (cutAt '#' text).1
      let cs := cut.1.dropWhile (isSlash true)
      splitScheme? (clean s) = some (u.scheme, text) ∧ a.host ≠ .name "" ∧
      readAuthority u.scheme atEnd (cs.takeWhile (! isSlash true ·)) = .ok (a, []) ∧
      u = { served u.scheme a (cs.dropWhile (! isSlash true ·)) with
            query := cut.2.map (Percent.encode (queryReserved u.scheme))
            fragment := (cutAt '#' text).2.map (Percent.encode fragmentReserved) } := by
  obtain ⟨hspecial, hfile⟩ := hserver
  obtain ⟨text, hsplit⟩ := scheme_of_read h
  unfold read at h
  simp only [hsplit, hfile, hspecial, if_true, if_false] at h
  obtain ⟨atEnd, a, rest, ha, hu⟩ := of_readHierarchy h
  rw [hspecial] at ha hu
  generalize hcs : (cutAt '?' (cutAt '#' text).1).1.dropWhile (isSlash true) = cs at ha hu
  have hslash : '\\' ∉ cs.takeWhile (! isSlash true ·) := fun hmem => by
    simpa [isSlash] using List.mem_takeWhile_imp hmem
  obtain ⟨rfl, hhost⟩ := of_readAuthority_eq_ok hspecial hslash ha
  refine ⟨text, atEnd, a, hsplit, hhost, by rw [hcs]; exact ha, ?_⟩
  rw [hu, hcs]
  simp [served]

/-- The address of a server has a host. -/
theorem host?_isSome_of_read (h : read s = .ok u) (hserver : IsServer u.scheme) :
    u.host?.isSome = true := by
  obtain ⟨_, _, a, _, hhost, _, hu⟩ := exists_authority h hserver
  have hsome : u.host = some a.host := by rw [hu]; rfl
  simp [host?, hsome, hhost]

/-- **The text of an address** of a server without a query and a fragment is laid out like one, and
its authority is read to the end. -/
theorem exists_layout (h : read s = .ok u) (hserver : IsServer u.scheme) (hquery : u.query = none)
    (hfragment : u.fragment = none) :
    ∃ slashes authority path a, Layout (clean s) u.scheme slashes authority path ∧
      readAuthority u.scheme false authority = .ok (a, []) ∧ u = served u.scheme a path := by
  have hspecial := hserver.1
  obtain ⟨text, atEnd, a, hsplit, -, ha, hu⟩ := exists_authority h hserver
  -- Without a fragment and a query nothing is cut off the end.
  have hsharp : '#' ∉ text := of_cutAt_eq_none (by rw [hu] at hfragment; simpa using hfragment)
  rw [cutAt_of_not_mem hsharp] at ha hu
  have hmark : '?' ∉ text := of_cutAt_eq_none (by rw [hu] at hquery; simpa using hquery)
  rw [cutAt_of_not_mem hmark] at ha hu
  simp only at ha hu
  generalize hcs : text.dropWhile (isSlash true) = cs at ha hu
  have hauthority : ∀ c ∈ cs.takeWhile (! isSlash true ·), isSlash true c = false := fun c hc => by
    simpa using List.mem_takeWhile_imp hc
  have hparts : text.takeWhile (isSlash true) ++ cs.takeWhile (! isSlash true ·) ++
      cs.dropWhile (! isSlash true ·) = text := by
    rw [List.append_assoc, List.takeWhile_append_dropWhile, ← hcs, List.takeWhile_append_dropWhile]
  refine ⟨text.takeWhile (isSlash true), cs.takeWhile (! isSlash true ·),
    cs.dropWhile (! isSlash true ·), a, ?_, ?_, ?_⟩
  · exact
      { scheme_eq := by rw [hparts, hsplit]
        slashes_eq := fun c hc => List.mem_takeWhile_imp hc
        authority_eq := hauthority
        authority_ne := fun hnil => by
          rw [hnil, readAuthority_of_special hspecial] at ha
          cases ha
        path_eq := by
          have hhead := List.head?_dropWhile_not (! isSlash true ·) cs
          cases hpath : cs.dropWhile (! isSlash true ·) with
          | nil => exact .inl rfl
          | cons c path =>
            rw [hpath] at hhead
            exact .inr (by simpa using hhead)
        unmarked := fun c hc => by
          rw [hparts] at hc
          exact ⟨ne_of_mem_of_not_mem hc hsharp, ne_of_mem_of_not_mem hc hmark⟩ }
  · rw [← ha, readAuthority_of_special hspecial, readAuthority_of_special hspecial]
  · rw [hu]
    rfl

/-- An authority ends where the path begins. -/
theorem Layout.cut (h : Layout cs scheme slashes authority path) :
    (slashes ++ authority ++ path).dropWhile (isSlash true) = authority ++ path ∧
      (authority ++ path).takeWhile (! isSlash true ·) = authority ∧
      (authority ++ path).dropWhile (! isSlash true ·) = path := by
  have hauthority : ∀ c ∈ authority, (! isSlash true c) = true := fun c hc => by
    simpa using h.authority_eq c hc
  have hpath : path.takeWhile (! isSlash true ·) = [] ∧ path.dropWhile (! isSlash true ·) = path := by
    rcases path with _ | ⟨c, path⟩
    · exact ⟨rfl, rfl⟩
    · have hc : isSlash true c = true := by simpa using h.path_eq
      simp [hc]
  refine ⟨?_, ?_, ?_⟩
  · rw [List.append_assoc, List.dropWhile_append_of_pos h.slashes_eq]
    obtain ⟨c, rest, rfl⟩ := List.exists_cons_of_ne_nil h.authority_ne
    have hc : isSlash true c = false := h.authority_eq c List.mem_cons_self
    rw [List.cons_append, List.dropWhile_cons_of_neg (by simp [hc])]
  · rw [List.takeWhile_append_of_pos hauthority, hpath.1, List.append_nil]
  · rw [List.dropWhile_append_of_pos hauthority, hpath.2]

/-- **A text that is laid out so** is read by its parts. -/
theorem read_of_layout (h : Layout (clean s) scheme slashes authority path)
    (hserver : IsServer scheme) (ha : readAuthority scheme false authority = .ok (a, [])) :
    read s = .ok (served scheme a path) := by
  obtain ⟨hspecial, hfile⟩ := hserver
  obtain ⟨hslashes, htake, hdrop⟩ := h.cut
  have hsharp : '#' ∉ slashes ++ authority ++ path := fun hmem => (h.unmarked _ hmem).1 rfl
  have hmark : '?' ∉ slashes ++ authority ++ path := fun hmem => (h.unmarked _ hmem).2 rfl
  unfold read
  simp only [h.scheme_eq, cutAt_of_not_mem hsharp, cutAt_of_not_mem hmark, hfile, hspecial, if_true,
    if_false, hslashes, readHierarchy, htake, hdrop, readAuthority_of_special hspecial _ authority]
  rw [readAuthority_of_special hspecial] at ha
  rw [ha]
  rfl

/-! ## More text -/

/-- What a text is cut at is not moved by more text at the end. -/
theorem cut_append {p : Char → Bool} {c : Char} {rest : List Char} (h : cs.dropWhile p = c :: rest)
    (more : List Char) :
    (cs ++ more).dropWhile p = c :: (rest ++ more) ∧ (cs ++ more).takeWhile p = cs.takeWhile p := by
  refine ⟨by rw [List.dropWhile_append, h]; rfl, ?_⟩
  rw [List.takeWhile_append, if_neg]
  intro hlength
  have hcs := congrArg List.length (cs.takeWhile_append_dropWhile (p := p))
  rw [List.length_append, hlength, h, List.length_cons] at hcs
  omega

theorem splitScheme?_append {rest : List Char} (h : splitScheme? cs = some (scheme, rest))
    (more : List Char) : splitScheme? (cs ++ more) = some (scheme, rest ++ more) := by
  unfold splitScheme? at h ⊢
  simp only at h ⊢
  split at h
  next rest' hdrop =>
    obtain ⟨hdrop', htake⟩ := cut_append hdrop more
    have hhead : (cs ++ more).head? = cs.head? := by
      cases cs with
      | nil => cases hdrop
      | cons => rfl
    rw [hdrop', htake, hhead]
    split at h
    next halpha =>
      cases h
      exact if_pos halpha
    next => cases h
  next => cases h

theorem suffix_of_splitScheme? {rest : List Char} (h : splitScheme? cs = some (scheme, rest)) :
    rest <:+ cs := by
  unfold splitScheme? at h
  simp only at h
  split at h
  next rest' hdrop =>
    split at h
    · cases h
      exact (List.suffix_cons ':' rest).trans (hdrop ▸ List.dropWhile_suffix _)
    · cases h
  · cases h

/-- A sign that cannot stand in a scheme stands behind its colon. -/
theorem mem_of_splitScheme? {rest : List Char} (h : splitScheme? cs = some (scheme, rest))
    {c : Char} (hmem : c ∈ cs) (hc : c = '#' ∨ c = '?') : c ∈ rest := by
  unfold splitScheme? at h
  simp only at h
  split at h
  next rest' hdrop =>
    split at h
    · cases h
      rw [← cs.takeWhile_append_dropWhile, hdrop, List.mem_append, List.mem_cons] at hmem
      rcases hmem with hmem | rfl | hmem
      · have hin := List.mem_takeWhile_imp hmem
        rcases hc with rfl | rfl <;> simp at hin
      · rcases hc with hc | hc <;> cases hc
      · exact hmem
    · cases h
  · cases h

/-- The text ends as its path does, or as its authority if there is no path. -/
theorem Layout.getLast? (h : Layout cs scheme slashes authority path) :
    cs.getLast? = path.getLast?.or authority.getLast? := by
  obtain ⟨front, hfront⟩ := suffix_of_splitScheme? h.scheme_eq
  have hsome : authority.getLast?.isSome = true := by
    rw [List.getLast?_isSome]
    exact h.authority_ne
  rw [← hfront, List.getLast?_append, List.getLast?_append, List.getLast?_append]
  cases path.getLast? <;> cases hlast : authority.getLast? <;> simp_all

/-- Text that can stand in a path: no blanks or controls, and nothing that ends a path. -/
def IsPathText (cs : List Char) : Prop := ∀ c ∈ cs, 0x20 < c.toNat ∧ c ≠ '#' ∧ c ≠ '?'

instance (cs : List Char) : Decidable (IsPathText cs) :=
  List.decidableBAll (fun c : Char => 0x20 < c.toNat ∧ c ≠ '#' ∧ c ≠ '?') cs

/-- More text is added to the path, if it cannot be taken for a part of the authority. -/
theorem Layout.append (h : Layout cs scheme slashes authority path) (hmore : IsPathText more)
    (hjoin : path ≠ [] ∨ more.head?.any (isSlash true) = true) :
    Layout (cs ++ more) scheme slashes authority (path ++ more) where
  scheme_eq := by rw [splitScheme?_append h.scheme_eq, List.append_assoc _ path]
  slashes_eq := h.slashes_eq
  authority_eq := h.authority_eq
  authority_ne := h.authority_ne
  path_eq := by
    rcases h.path_eq with rfl | hhead
    · exact .inr (hjoin.resolve_left (by simp))
    · right
      rcases path with _ | ⟨c, path⟩
      · cases hhead
      · exact hhead
  unmarked := by
    intro c hc
    rw [← List.append_assoc, List.mem_append] at hc
    rcases hc with hc | hc
    · exact h.unmarked c hc
    · exact (hmore c hc).2

/-- A text ends in a sign that counts, but for tabs and line ends. -/
structure EndsIn (cs front : List Char) (c : Char) (gap : List Char) : Prop where
  eq : cs = front ++ c :: gap
  counts : 0x20 < c.toNat
  gap : ∀ d ∈ gap, d = '\t' ∨ d = '\n' ∨ d = '\r'

variable {front gap : List Char} {c : Char}

/-- A sign that counts keeps what follows it when a text is cut at its front. -/
theorem dropWhile_outer_append (hc : 0x20 < c.toNat) (front rest : List Char) :
    (front ++ c :: rest).dropWhile (·.toNat ≤ 0x20) =
      front.dropWhile (·.toNat ≤ 0x20) ++ c :: rest := by
  rw [List.dropWhile_append]
  split
  next hempty =>
    rw [List.isEmpty_iff.mp hempty, List.nil_append]
    exact List.dropWhile_cons_of_neg (by simpa using hc)
  next => rfl

/-- A text that is cut at both ends ends in its last sign that counts. -/
theorem trim_append (hc : 0x20 < c.toNat) (hgap : ∀ d ∈ gap, d.toNat ≤ 0x20) (front : List Char) :
    (((front ++ c :: gap).dropWhile (·.toNat ≤ 0x20)).reverse.dropWhile (·.toNat ≤ 0x20)).reverse =
      front.dropWhile (·.toNat ≤ 0x20) ++ [c] := by
  rw [dropWhile_outer_append hc, List.reverse_append, List.reverse_cons, List.append_assoc,
    List.dropWhile_append_of_pos (by simpa using hgap), List.singleton_append,
    List.dropWhile_cons_of_neg (by simpa using hc), List.reverse_cons, List.reverse_reverse]

/-- Signs that count are not left out. -/
theorem filter_of_lt (cs : List Char) (h : ∀ c ∈ cs, 0x20 < c.toNat) :
    (cs.filter fun c => c ≠ '\t' ∧ c ≠ '\n' ∧ c ≠ '\r') = cs := by
  rw [List.filter_eq_self]
  intro c hmem
  have hc := h c hmem
  simp only [decide_eq_true_eq]
  refine ⟨?_, ?_, ?_⟩ <;> rintro rfl <;> simp at hc

theorem EndsIn.filter_gap (h : EndsIn cs front c gap) :
    (gap.filter fun c => c ≠ '\t' ∧ c ≠ '\n' ∧ c ≠ '\r') = [] := by
  rw [List.filter_eq_nil_iff]
  intro d hd
  rcases h.gap d hd with rfl | rfl | rfl <;> simp

theorem EndsIn.clean_eq (h : EndsIn s.toList front c gap) :
    clean s = ((front.dropWhile (·.toNat ≤ 0x20)).filter fun c =>
      c ≠ '\t' ∧ c ≠ '\n' ∧ c ≠ '\r') ++ [c] := by
  have hgap : ∀ d ∈ gap, d.toNat ≤ 0x20 := fun d hd => by
    rcases h.gap d hd with rfl | rfl | rfl <;> decide
  rw [clean, h.eq, trim_append h.counts hgap, List.filter_append,
    filter_of_lt [c] (by simpa using h.counts)]

theorem EndsIn.getLast?_clean (h : EndsIn s.toList front c gap) : (clean s).getLast? = some c := by
  rw [h.clean_eq, List.getLast?_concat]

/-- **More text** stays what it is at the end of a text that ends in a sign that counts. -/
theorem EndsIn.clean_append {t : String} (h : EndsIn s.toList front c gap)
    (ht : IsPathText t.toList) (hne : t.toList ≠ []) : clean (s ++ t) = clean s ++ t.toList := by
  obtain ⟨init, last, hinit⟩ : ∃ init last, t.toList = init ++ [last] :=
    ⟨_, _, (List.dropLast_concat_getLast hne).symm⟩
  have hlast : 0x20 < last.toNat := (ht last (by simp [hinit])).1
  have hjoined : (s ++ t).toList = (front ++ c :: (gap ++ init)) ++ last :: [] := by
    rw [String.toList_append, h.eq, hinit]
    simp
  rw [clean, hjoined, trim_append hlast (by simp), dropWhile_outer_append h.counts, h.clean_eq]
  have hkept : ((c :: (gap ++ init) ++ [last]).filter fun c => c ≠ '\t' ∧ c ≠ '\n' ∧ c ≠ '\r') =
      c :: (init ++ [last]) := by
    rw [← List.singleton_append, List.append_assoc, List.append_assoc, List.filter_append,
      List.filter_append, h.filter_gap, List.nil_append,
      filter_of_lt [c] (by simpa using h.counts),
      filter_of_lt (init ++ [last]) (fun d hd => (ht d (hinit ▸ hd)).1), List.singleton_append]
  rw [List.append_assoc, List.filter_append, hkept, hinit]
  simp

/-! ## Marks -/

/-- The text has no mark of a query or of a fragment. -/
def Unmarked (text : String) : Prop := ∀ c ∈ text.toList, c ≠ '#' ∧ c ≠ '?'

instance (text : String) : Decidable (Unmarked text) :=
  List.decidableBAll (fun c : Char => c ≠ '#' ∧ c ≠ '?') text.toList

theorem Unmarked.append {t : String} (hs : Unmarked s) (ht : Unmarked t) : Unmarked (s ++ t) := by
  intro c hc
  rw [String.toList_append, List.mem_append] at hc
  exact hc.elim (hs c) (ht c)

theorem mem_of_mem_clean (h : c ∈ clean s) : c ∈ s.toList := by
  have htrimmed := (List.mem_filter.mp h).1
  rw [List.mem_reverse] at htrimmed
  have hfront := (List.dropWhile_suffix _).subset htrimmed
  exact (List.dropWhile_suffix _).subset (List.mem_reverse.mp hfront)

/-- Signs that are dropped at an end are all of the kind that is dropped. -/
theorem mem_dropWhile_of_neg {p : Char → Bool} (h : c ∈ cs) (hp : ¬ p c = true) :
    c ∈ cs.dropWhile p := by
  rw [← cs.takeWhile_append_dropWhile (p := p), List.mem_append] at h
  exact h.resolve_left fun htaken => hp (List.mem_takeWhile_imp htaken)

/-- Signs that count are kept wherever they stand. -/
theorem mem_clean (h : c ∈ s.toList) (hc : 0x20 < c.toNat) : c ∈ clean s := by
  have houter : ¬ decide (c.toNat ≤ 0x20) = true := by simpa using hc
  rw [clean, List.mem_filter, List.mem_reverse]
  refine ⟨mem_dropWhile_of_neg (List.mem_reverse.mpr (mem_dropWhile_of_neg h houter)) houter, ?_⟩
  rw [decide_eq_true_eq]
  refine ⟨?_, ?_, ?_⟩ <;> rintro rfl <;> exact absurd hc (by decide)

/-- The text of an address without a query and a fragment has no mark of one. -/
theorem unmarked_of_read (h : read s = .ok u) (hquery : u.query = none)
    (hfragment : u.fragment = none) : Unmarked s := by
  obtain ⟨text, hsplit, hq, hf⟩ := cuts_of_read h
  have hsharp : '#' ∉ text := of_cutAt_eq_none (by simpa [hf] using hfragment)
  have hmark : '?' ∉ text := of_cutAt_eq_none (by
    rw [cutAt_of_not_mem hsharp] at hq
    simpa [hq] using hquery)
  intro c hc
  constructor
  · rintro rfl
    exact hsharp (mem_of_splitScheme? hsplit (mem_clean hc (by decide)) (.inl rfl))
  · rintro rfl
    exact hmark (mem_of_splitScheme? hsplit (mem_clean hc (by decide)) (.inr rfl))

/-- A text without a mark is that of an address without a query. -/
theorem query_of_read (h : read s = .ok u) (hmark : Unmarked s) : u.query = none := by
  obtain ⟨text, hsplit, hq, -⟩ := cuts_of_read h
  have hkept : ∀ c ∈ text, c ≠ '#' ∧ c ≠ '?' := fun c hc =>
    hmark c (mem_of_mem_clean ((suffix_of_splitScheme? hsplit).subset hc))
  rw [hq, cutAt_of_not_mem fun hmem => (hkept _ hmem).1 rfl,
    cutAt_of_not_mem fun hmem => (hkept _ hmem).2 rfl]
  rfl

end Url

end MediaVault
