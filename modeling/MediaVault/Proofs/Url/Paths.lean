/-
Paths that go on after another one. Segments that stand for themselves are
added to the place that the first path leads to, whether or not it ends in a
slash of its own.
-/
import MediaVault.Proofs.Url.Reading

namespace MediaVault

namespace Percent

variable {reserved : List Char}

theorem digit_ne_slash {n : Nat} (h : n < 16) : digit n ≠ '/' := by
  have hall : ∀ n < 16, digit n ≠ '/' := by decide
  exact hall n h

/-- No slash is made out of another character. -/
theorem not_mem_encodeChar {c : Char} (hc : c ≠ '/') : '/' ∉ encodeChar reserved c := by
  unfold encodeChar
  split
  · simpa using hc.symm
  · intro hmem
    obtain ⟨x, -, hx⟩ := List.mem_flatMap.mp hmem
    have hhigh := digit_ne_slash (show x.toNat / 16 < 16 from Nat.div_lt_of_lt_mul x.toNat_lt)
    have hlow := digit_ne_slash (Nat.mod_lt x.toNat (show 0 < 16 by decide))
    simp [escape, hhigh.symm, hlow.symm] at hx

theorem encodeChar_ne_nil (reserved : List Char) (c : Char) : encodeChar reserved c ≠ [] := by
  unfold encodeChar
  split
  · simp
  · intro hnil
    have hlength := String.length_utf8EncodeChar c
    rcases hcs : String.utf8EncodeChar c with _ | ⟨x, rest⟩
    · rw [hcs] at hlength
      exact absurd hlength.symm (Nat.ne_of_gt c.utf8Size_pos)
    · rw [hcs] at hnil
      simp [escape] at hnil

/-- A text that is not empty ends in no slash if it has none. -/
theorem exists_getLast?_encode (reserved : List Char) {cs : List Char} (hne : cs ≠ [])
    (hslash : '/' ∉ cs) :
    ∃ c, (encode reserved cs).toList.getLast? = some c ∧ c ≠ '/' := by
  have hnone : '/' ∉ (encode reserved cs).toList := by
    rw [encode, String.toList_ofList]
    intro hmem
    obtain ⟨c, hc, hmem⟩ := List.mem_flatMap.mp hmem
    exact not_mem_encodeChar (ne_of_mem_of_not_mem hc hslash) hmem
  rcases hlast : (encode reserved cs).toList.getLast? with _ | c
  · obtain ⟨c, rest, rfl⟩ := List.exists_cons_of_ne_nil hne
    rw [List.getLast?_eq_none_iff, encode, String.toList_ofList, List.flatMap_cons] at hlast
    exact absurd (List.append_eq_nil_iff.mp hlast).1 (encodeChar_ne_nil reserved c)
  · exact ⟨c, rfl, ne_of_mem_of_not_mem (List.mem_of_getLast? hlast) hnone⟩

end Percent

namespace Url

/-! ## Segments -/

variable {special : Bool} {cs tail : List Char} {path : List String}

theorem splitSegments_ne_nil (special : Bool) (cs : List Char) : splitSegments special cs ≠ [] := by
  cases cs with
  | nil => simp [splitSegments]
  | cons c rest =>
    unfold splitSegments
    split
    · simp
    · split <;> simp

/-- A slash ends a segment. -/
theorem splitSegments_append_slash (special : Bool) (cs tail : List Char) :
    splitSegments special (cs ++ '/' :: tail) =
      splitSegments special cs ++ splitSegments special tail := by
  induction cs with
  | nil => simp [splitSegments, isSlash]
  | cons c cs ih =>
    rw [List.cons_append, splitSegments, splitSegments]
    split
    · rw [ih, List.cons_append]
    · rw [ih]
      obtain ⟨part, parts, hparts⟩ := List.exists_cons_of_ne_nil (splitSegments_ne_nil special cs)
      rw [hparts]
      rfl

theorem slash_not_mem_of_mem_splitSegments {segment : List Char}
    (h : segment ∈ splitSegments special cs) : '/' ∉ segment := by
  induction cs generalizing segment with
  | nil => simp_all [splitSegments]
  | cons c cs ih =>
    unfold splitSegments at h
    split at h
    · rcases List.mem_cons.mp h with rfl | h
      · simp
      · exact ih h
    next hc =>
      obtain ⟨part, parts, hparts⟩ := List.exists_cons_of_ne_nil (splitSegments_ne_nil special cs)
      rw [hparts] at h ih
      have hslash : '/' ≠ c := by
        rintro rfl
        simp [isSlash] at hc
      rcases List.mem_cons.mp h with rfl | h
      · simpa [hslash] using ih List.mem_cons_self
      · exact ih (List.mem_cons_of_mem part h)

/-- A text that does not end in a slash has a last segment that is not empty. -/
theorem exists_splitSegments_concat {c : Char} (h : cs.getLast? = some c)
    (hc : isSlash special c = false) :
    ∃ front segment, splitSegments special cs = front ++ [segment] ∧ segment ≠ [] := by
  induction cs with
  | nil => cases h
  | cons d cs ih =>
    rcases cs with _ | ⟨e, cs⟩
    · rw [List.getLast?_singleton, Option.some.injEq] at h
      subst h
      exact ⟨[], [d], by simp [splitSegments, hc], by simp⟩
    rw [List.getLast?_cons_cons] at h
    obtain ⟨front, segment, hsplit, hne⟩ := ih h
    rw [splitSegments, hsplit]
    split
    · exact ⟨[] :: front, segment, rfl, hne⟩
    · rcases front with _ | ⟨part, parts⟩
      · exact ⟨[], d :: segment, rfl, by simp⟩
      · exact ⟨(d :: part) :: parts, segment, rfl, hne⟩

/-! ## Walks -/

/-- The place that one segment leads to, if it is not the last one. -/
def step (path : List String) (segment : List Char) : List String :=
  if isDoubleDot segment then above path
  else if isDot segment then path
  else path ++ [Percent.encode pathReserved segment]

/-- A walk goes on from the place that was reached. -/
theorem walk_append (front : List (List Char)) {rest : List (List Char)} (hrest : rest ≠ [])
    (path : List String) :
    walk false path (front ++ rest) = walk false (front.foldl step path) rest := by
  induction front generalizing path with
  | nil => rfl
  | cons segment front ih =>
    have hne : front ++ rest ≠ [] := by simp [hrest]
    rw [List.cons_append, walk, List.foldl_cons, step]
    simp only [hne, if_false, List.append_nil, Bool.false_eq_true, false_and, ih]
    split
    · rfl
    split <;> rfl

/-- A segment that stands for itself. -/
def IsPlain (segment : List Char) : Prop := isDoubleDot segment = false ∧ isDot segment = false

instance (segment : List Char) : Decidable (IsPlain segment) :=
  inferInstanceAs (Decidable (_ ∧ _))

/-- Segments that stand for themselves are added as they are. -/
theorem walk_of_isPlain {segments : List (List Char)} (h : ∀ segment ∈ segments, IsPlain segment)
    (path : List String) :
    walk false path segments = path ++ segments.map (Percent.encode pathReserved) := by
  induction segments generalizing path with
  | nil => simp [walk]
  | cons segment segments ih =>
    rw [List.forall_mem_cons] at h
    obtain ⟨⟨hdouble, hdot⟩, hrest⟩ := h
    rw [walk]
    simp [hdouble, hdot, ih hrest]

/-! ## Texts -/

/-- A text without one slash at its end. -/
def lessSlash (s : String) : String :=
  match s.toList.reverse with
  | '/' :: rest => String.ofList rest.reverse
  | _ => s

theorem lessSlash_append (s : String) : lessSlash (s ++ "/") = s := by
  simp [lessSlash]

theorem lessSlash_of_getLast? {s : String} (h : s.toList.getLast? ≠ some '/') : lessSlash s = s := by
  unfold lessSlash
  split
  next rest hrest =>
    rw [List.getLast?_eq_head?_reverse, hrest] at h
    exact absurd rfl h
  next => rfl

theorem text_segments_append (front rest : List String) :
    (UrlPath.segments (front ++ rest)).text =
      (UrlPath.segments front).text ++ (UrlPath.segments rest).text := by
  simp [UrlPath.text, List.map_append]

theorem text_segments_singleton (s : String) : (UrlPath.segments [s]).text = "/" ++ s := by
  simp [UrlPath.text]

/-! ## Paths -/

/-- What has to be added to a path so that more segments follow it. -/
def goOn (path tail : List Char) : List Char :=
  if path.getLast? = some '/' then tail else '/' :: tail

theorem walk_nil_segment (path : List String) : walk false path [[]] = path ++ [""] := by
  rw [walk_of_isPlain (by simp [IsPlain, isDoubleDot, isDot])]
  rfl

/-- The last segment of a path that does not end in a slash is a step like any other, but for a
slash after a step that names none. -/
theorem lessSlash_walk_singleton {segment : List Char} (hne : segment ≠ []) (hslash : '/' ∉ segment)
    (path : List String) :
    lessSlash (UrlPath.segments (walk false path [segment])).text =
      (UrlPath.segments (step path segment)).text := by
  simp only [walk, step, if_true, Bool.false_eq_true, false_and, if_false]
  split
  · rw [text_segments_append]
    exact lessSlash_append _
  split
  · rw [text_segments_append]
    exact lessSlash_append _
  · obtain ⟨c, hlast, hc⟩ := Percent.exists_getLast?_encode pathReserved hne hslash
    refine lessSlash_of_getLast? ?_
    rw [text_segments_append, text_segments_singleton, String.toList_append, String.toList_append,
      List.getLast?_append, List.getLast?_append, hlast]
    simpa using hc

/-- **The place that a path leads to**: what follows the path goes on from there, and the path itself
says no more but for one slash at its end. -/
theorem exists_place {cs : List Char} (hne : cs ≠ []) (hlast : cs.getLast? ≠ some '\\') :
    ∃ place,
      (∀ tail, walk false [] (splitSegments true (cs ++ goOn cs tail)) =
        walk false place (splitSegments true tail)) ∧
      lessSlash (UrlPath.segments (walk false [] (splitSegments true cs))).text =
        (UrlPath.segments place).text := by
  obtain ⟨c, hc⟩ : ∃ c, cs.getLast? = some c := ⟨_, List.getLast?_eq_some_getLast hne⟩
  by_cases hslash : c = '/'
  · subst hslash
    obtain ⟨front, rfl⟩ := List.getLast?_eq_some_iff.mp hc
    refine ⟨(splitSegments true front).foldl step [], fun tail => ?_, ?_⟩
    · rw [goOn, if_pos hc, List.append_assoc, List.singleton_append, splitSegments_append_slash,
        walk_append _ (splitSegments_ne_nil true tail)]
    · rw [splitSegments_append_slash, walk_append _ (splitSegments_ne_nil true []), splitSegments,
        walk_nil_segment, text_segments_append, text_segments_singleton]
      exact lessSlash_append _
  · refine ⟨(splitSegments true cs).foldl step [], fun tail => ?_, ?_⟩
    · rw [goOn, if_neg (by simpa [hc] using hslash), splitSegments_append_slash,
        walk_append _ (splitSegments_ne_nil true tail)]
    · have hother : isSlash true c = false := by
        rw [hc] at hlast
        simpa [isSlash, hslash] using hlast
      obtain ⟨front, segment, hsplit, hsegment⟩ := exists_splitSegments_concat hc hother
      have hmem : segment ∈ splitSegments true cs := by simp [hsplit]
      have hnone := slash_not_mem_of_mem_splitSegments hmem
      rw [hsplit, walk_append _ (by simp), lessSlash_walk_singleton hsegment hnone,
        List.foldl_append]
      rfl

/-- After a path of one slash at most there are only the segments that follow it. -/
theorem text_readPath_slash {tail : List Char}
    (htail : ∀ segment ∈ splitSegments true tail, IsPlain segment) :
    (readPath true ('/' :: tail)).text =
      "" ++ (UrlPath.segments
        ((splitSegments true tail).map (Percent.encode pathReserved))).text := by
  rw [String.empty_append, readPath, dropSlash, if_pos (by simp [isSlash]), List.drop_one,
    List.tail_cons, walk_of_isPlain htail, List.nil_append]

/-- **More segments after a path**: the text of the whole is that of the path, without one slash at
its end, and that of the segments. -/
theorem text_readPath_goOn {path tail : List Char}
    (hpath : path = [] ∨ path.head?.any (isSlash true) = true) (hlast : path.getLast? ≠ some '\\')
    (htail : ∀ segment ∈ splitSegments true tail, IsPlain segment) :
    (readPath true (path ++ goOn path tail)).text =
      lessSlash (readPath true path).text ++
        (UrlPath.segments ((splitSegments true tail).map (Percent.encode pathReserved))).text := by
  rcases path with _ | ⟨c, cs⟩
  · exact text_readPath_slash htail
  have hc : isSlash true c = true := by simpa using hpath
  have hread : ∀ more, readPath true (c :: cs ++ more) =
      .segments (walk false [] (splitSegments true (cs ++ more))) := fun more => by
    simp [readPath, dropSlash, hc]
  rcases cs with _ | ⟨d, cs⟩
  · have hslash : c = '/' ∨ c = '\\' := by simpa [isSlash] using hc
    obtain rfl := hslash.resolve_right (by simpa using hlast)
    exact text_readPath_slash htail
  · have hgo : goOn (c :: d :: cs) tail = goOn (d :: cs) tail := by
      rw [goOn, goOn, List.getLast?_cons_cons]
    obtain ⟨place, hwalk, htext⟩ := exists_place (List.cons_ne_nil d cs)
      (by rwa [List.getLast?_cons_cons] at hlast)
    have hself := hread []
    rw [List.append_nil, List.append_nil] at hself
    rw [hgo, hread, hwalk, hself, htext, walk_of_isPlain htail, text_segments_append]

/-! ## Addresses -/

/-- A text that other addresses can be made from by adding to its path: the address of a server with
no query and no fragment. Its last sign, but for tabs and line ends, counts and is not a backslash;
nothing follows it if it is a slash. -/
structure IsBase (s : String) (b : Url) : Prop where
  read_eq : read s = .ok b
  server : IsServer b.scheme
  query : b.query = none
  fragment : b.fragment = none
  last : ∃ front c gap, EndsIn s.toList front c gap ∧ c ≠ '\\' ∧ (c = '/' → gap = [])

/-- What can be added to a path as segments that stand for themselves. -/
structure IsSuffix (tail : String) : Prop where
  nonempty : tail.toList ≠ []
  text : IsPathText tail.toList
  plain : ∀ segment ∈ splitSegments true tail.toList, IsPlain segment

theorem IsPathText.goOn {tail : List Char} (h : IsPathText tail) (path : List Char) :
    IsPathText (goOn path tail) := by
  unfold Url.goOn
  split
  · exact h
  · exact List.forall_mem_cons.mpr ⟨by decide, h⟩

/-- What is written after one slash is what goes on after the text. -/
theorem lessSlash_append_tail (s tail : String) :
    lessSlash s ++ "/" ++ tail = s ++ String.ofList (goOn s.toList tail.toList) := by
  rw [← String.toList_inj]
  unfold lessSlash goOn
  split
  next rest hrest =>
    have hs : s.toList = rest.reverse ++ ['/'] := by
      rw [← List.reverse_reverse s.toList, hrest, List.reverse_cons]
    simp [hs]
  next hnone =>
    have hlast : s.toList.getLast? ≠ some '/' := by
      intro hlast
      obtain ⟨front, hs⟩ := List.getLast?_eq_some_iff.mp hlast
      exact hnone front.reverse (by simp [hs])
    simp [hlast]

theorem goOn_ne_nil {tail : List Char} (hne : tail ≠ []) (path : List Char) :
    goOn path tail ≠ [] := by
  unfold goOn
  split
  · exact hne
  · exact List.cons_ne_nil _ _

/-- Only a text with nothing after its last sign ends in a slash. -/
theorem EndsIn.getLast?_eq_slash_iff {cs front gap : List Char} {c : Char}
    (h : EndsIn cs front c gap) (hslash : c = '/' → gap = []) :
    cs.getLast? = some '/' ↔ c = '/' := by
  rw [h.eq, List.getLast?_append, List.getLast?_cons]
  constructor
  · intro hlast
    rcases hgap : gap.getLast? with _ | d
    · simpa [hgap] using hlast
    · have hd : d = '/' := by simpa [hgap] using hlast
      rcases h.gap d (List.mem_of_getLast? hgap) with rfl | rfl | rfl <;> cases hd
  · rintro rfl
    simp [hslash rfl]

/-- A slash at the end of an address is the end of its path: an authority has none. -/
theorem Layout.getLast?_path_eq_slash_iff {cs slashes authority path : List Char} {scheme : String}
    (h : Layout cs scheme slashes authority path) :
    path.getLast? = some '/' ↔ cs.getLast? = some '/' := by
  rw [h.getLast?]
  cases path.getLast? with
  | some d => rfl
  | none =>
    rw [Option.none_or]
    constructor
    · intro hnone
      cases hnone
    · intro hlast
      have hslash := h.authority_eq '/' (List.mem_of_getLast? hlast)
      simp [isSlash] at hslash

/-- **An address made from a base**: only the path changes, which goes on after that of the base. -/
theorem IsBase.read_append {s tail : String} {b : Url} (hb : IsBase s b) (htail : IsSuffix tail) :
    ∃ path, read (lessSlash s ++ "/" ++ tail) = .ok { b with path } ∧
      path.text = lessSlash b.path.text ++
        (UrlPath.segments
          ((splitSegments true tail.toList).map (Percent.encode pathReserved))).text := by
  obtain ⟨front, c, gap, hends, hback, hslash⟩ := hb.last
  obtain ⟨slashes, authority, path, a, hlayout, ha, hserved⟩ :=
    exists_layout hb.read_eq hb.server hb.query hb.fragment
  have hend : (clean s).getLast? = some c := hends.getLast?_clean
  have hgo : goOn s.toList tail.toList = goOn path tail.toList := by
    simp only [goOn, hends.getLast?_eq_slash_iff hslash, hlayout.getLast?_path_eq_slash_iff, hend,
      Option.some.injEq]
  have hpath : path.getLast? ≠ some '\\' := by
    intro hpath
    rw [hlayout.getLast?, hpath, Option.some_or, Option.some.injEq] at hend
    exact hback hend.symm
  have hmore := htail.text.goOn path
  have hne := goOn_ne_nil htail.nonempty path
  have hjoin : path ≠ [] ∨ (goOn path tail.toList).head?.any (isSlash true) = true := by
    rcases path with _ | ⟨d, path⟩
    · exact .inr (by simp [goOn, isSlash])
    · exact .inl (List.cons_ne_nil d path)
  have hclean : clean (lessSlash s ++ "/" ++ tail) = clean s ++ goOn path tail.toList := by
    rw [lessSlash_append_tail, hgo, hends.clean_append (by simpa using hmore) (by simpa using hne),
      String.toList_ofList]
  have hlonger := hlayout.append hmore hjoin
  rw [← hclean] at hlonger
  have hread := read_of_layout hlonger hb.server ha
  refine ⟨readPath true (path ++ goOn path tail.toList), ?_, ?_⟩
  · rw [hread, hserved]
    rfl
  · rw [text_readPath_goOn hlayout.path_eq hpath htail.plain, hserved]
    rfl

end Url

end MediaVault
