/-
What a write leaves alone. A path creates or replaces a file only in a
directory that is there, so no directory comes into being with the file, and
every other place has what it had. A path leads where it led before.
-/
import MediaVault.Operator.Disk
import MediaVault.Proofs.Url.Reading

namespace MediaVault

namespace Disk

variable {d : Disk} {place other : Location} {content : Bytes} {path : String}

/-! ## Directories -/

theorem isDirectory_iff :
    d.isDirectory place = true ↔
      place = ["/"] ∨ (∀ name ∈ place, name = "..") ∨ (∃ dir ∈ d.directories, place <+: dir) ∨
        ∃ file ∈ d.files, place <+: file.1 ∧ place ≠ file.1 := by
  simp [isDirectory, or_assoc]

/-- What leads to a directory is one. -/
theorem isDirectory_of_isPrefix (h : d.isDirectory place = true) (hother : other <+: place) :
    d.isDirectory other = true := by
  rw [isDirectory_iff] at h ⊢
  rcases h with rfl | hup | ⟨dir, hdir, hplace⟩ | ⟨file, hfile, hplace, hne⟩
  · rcases List.prefix_cons_iff.mp hother with rfl | ⟨rest, rfl, hrest⟩
    · exact .inr (.inl (List.forall_mem_nil _))
    · rw [List.prefix_nil.mp hrest]
      exact .inl rfl
  · exact .inr (.inl fun name hname => hup name (hother.subset hname))
  · exact .inr (.inr (.inl ⟨dir, hdir, hother.trans hplace⟩))
  · refine .inr (.inr (.inr ⟨file, hfile, hother.trans hplace, ?_⟩))
    rintro rfl
    exact hne (List.IsPrefix.eq_of_length_le hplace hother.length_le)

theorem isDirectory_of_nodeAt (h : d.nodeAt place = .directory) : d.isDirectory place = true := by
  unfold nodeAt at h
  split at h
  · cases h
  split at h
  next hdir => exact hdir
  · cases h

/-- Every place on the way to this one is a directory. -/
def Reached (d : Disk) (place : Location) : Prop :=
  ∀ other, other <+: place → other ≠ place → d.isDirectory other = true

theorem reached_of_isDirectory (h : d.isDirectory place = true) : d.Reached place :=
  fun _ hother _ => isDirectory_of_isPrefix h hother

/-- A name in a directory. -/
theorem reached_append (h : d.isDirectory place = true) (name : String) :
    d.Reached (place ++ [name]) := by
  intro other hother hne
  rcases List.prefix_concat_iff.mp hother with rfl | hother
  · exact absurd rfl hne
  · exact isDirectory_of_isPrefix h hother

/-- A name or a pair of points leads on from a directory to a place that is reached. -/
theorem reached_step (h : d.isDirectory place = true) (name : String) :
    d.Reached (place.step name) := by
  unfold Location.step
  split
  · exact reached_of_isDirectory h
  split
  · unfold Location.above
    split
    · exact reached_append h ".."
    · exact reached_append h ".."
    · exact reached_of_isDirectory h
    · exact reached_of_isDirectory (isDirectory_of_isPrefix h place.dropLast_prefix)
  · exact reached_append h name

theorem reached_follow {names : List String} (h : d.Reached place)
    (hfollow : d.follow place names = .ok other) : d.Reached other := by
  induction names generalizing place with
  | nil =>
    cases hfollow
    exact h
  | cons name rest ih =>
    rw [follow] at hfollow
    split at hfollow
    · cases hfollow
    · cases hfollow
    next hdirectory =>
      split at hfollow
      · cases hfollow
      · exact ih (reached_step (isDirectory_of_nodeAt hdirectory) name) hfollow

theorem reached_start (d : Disk) (path : String) : d.Reached (Location.start path) := by
  refine reached_of_isDirectory (isDirectory_iff.mpr ?_)
  unfold Location.start
  split
  · exact .inl rfl
  · exact .inr (.inl (List.forall_mem_nil _))

/-! ## The place of a new file -/

/-- Where there is no directory, a file can be created. -/
def create (d : Disk) (place : Location) : Except FileFault Location :=
  match d.nodeAt place with
  | .directory => .error .directory
  | _ => .ok place

theorem of_create {names : List String} {start : Location}
    (h : d.follow start names >>= d.create = .ok place) :
    d.follow start names = .ok place ∧ d.nodeAt place ≠ .directory := by
  obtain ⟨reached, hfollow, h⟩ := exists_of_bind_eq_ok h
  unfold create at h
  split at h
  · cases h
  next hnot =>
    cases h
    exact ⟨hfollow, hnot⟩

/-- A file is created or replaced where its path leads, in a directory and not in place of one. -/
theorem of_target_eq_ok (h : d.target path = .ok place) :
    d.locate path = .ok place ∧ d.Reached place ∧ d.nodeAt place ≠ .directory := by
  unfold target at h
  obtain ⟨names, hnames, h⟩ := exists_of_bind_eq_ok h
  have hfollow : d.follow (Location.start path) names = .ok place ∧
      d.nodeAt place ≠ .directory := by
    dsimp only at h
    split at h
    · split at h
      · split at h
        · -- A name with a slash after it is refused, whether or not its directory is there.
          obtain ⟨_, -, h⟩ := exists_of_bind_eq_ok h
          cases h
        · exact of_create h
      · exact of_create h
    · exact of_create h
  refine ⟨?_, reached_follow (reached_start d path) hfollow.1, hfollow.2⟩
  rw [locate, hnames]
  exact hfollow.1

/-! ## Files that are set -/

theorem mem_setFile {file : Location × Bytes} :
    file ∈ (d.setFile place content).files ↔
      (file ∈ d.files ∧ file.1 ≠ place) ∨ file = (place, content) := by
  simp [setFile]

/-- A file that is set in a directory makes no other place one. -/
theorem isDirectory_setFile (h : d.Reached place) (content : Bytes) (other : Location) :
    (d.setFile place content).isDirectory other = d.isDirectory other := by
  rw [Bool.eq_iff_iff]
  constructor
  · intro hother
    rcases isDirectory_iff.mp hother with hroot | hup | hdir | ⟨file, hfile, hother, hne⟩
    · exact isDirectory_iff.mpr (.inl hroot)
    · exact isDirectory_iff.mpr (.inr (.inl hup))
    · exact isDirectory_iff.mpr (.inr (.inr (.inl hdir)))
    · rcases mem_setFile.mp hfile with ⟨hkept, -⟩ | rfl
      · exact isDirectory_iff.mpr (.inr (.inr (.inr ⟨file, hkept, hother, hne⟩)))
      · exact h other hother hne
  · intro hother
    rw [isDirectory_iff] at hother ⊢
    refine hother.imp_right (Or.imp_right (Or.imp_right ?_))
    rintro ⟨file, hfile, hother, hne⟩
    by_cases hplace : file.1 = place
    · exact ⟨(place, content), mem_setFile.mpr (.inr rfl), hplace ▸ hother, hplace ▸ hne⟩
    · exact ⟨file, mem_setFile.mpr (.inl ⟨hfile, hplace⟩), hother, hne⟩

theorem nodeAt_setFile_self (d : Disk) (place : Location) (content : Bytes) :
    (d.setFile place content).nodeAt place = .file content := by
  have hfind : (d.setFile place content).files.find? (·.1 = place) = some (place, content) := by
    rw [setFile, List.find?_append, List.find?_eq_none.mpr (by simp), Option.none_or,
      List.find?_cons_of_pos (by simp)]
  rw [nodeAt, hfind]

/-- **Every other place** has what it had. -/
theorem nodeAt_setFile_of_ne (h : d.Reached place) (content : Bytes) (hne : other ≠ place) :
    (d.setFile place content).nodeAt other = d.nodeAt other := by
  have hfind : (d.setFile place content).files.find? (·.1 = other) =
      d.files.find? (·.1 = other) := by
    have hplace : List.find? (fun file : Location × Bytes => decide (file.1 = other))
        [(place, content)] = none := by simp [hne.symm]
    rw [setFile, List.find?_append, hplace, Option.or_none, List.find?_filter]
    congr 1
    funext file
    by_cases hfile : file.1 = other
    · simp [hfile, hne]
    · simp [hfile]
  rw [nodeAt, nodeAt, hfind, isDirectory_setFile h]

/-! ## Paths -/

/-- The places that are directories, and so where names lead, are the same after a file was set. -/
theorem follow_setFile (h : d.Reached place) (hnot : d.nodeAt place ≠ .directory) (content : Bytes)
    {start reached : Location} {names : List String} :
    (d.setFile place content).follow start names = .ok reached ↔
      d.follow start names = .ok reached := by
  induction names generalizing start with
  | nil => rfl
  | cons name rest ih =>
    rw [follow, follow]
    by_cases hstart : start = place
    · -- Nothing leads on from a file, and nothing led on from what it replaced.
      subst hstart
      rw [nodeAt_setFile_self]
      cases hnode : d.nodeAt start with
      | file | nothing => simp
      | directory => exact absurd hnode hnot
    · rw [nodeAt_setFile_of_ne h content hstart]
      cases d.nodeAt start with
      | file | nothing => rfl
      | directory =>
        dsimp only
        by_cases hname : maxName < name.utf8ByteSize
        · rw [if_pos hname, if_pos hname]
        · rw [if_neg hname, if_neg hname]
          exact ih

theorem locate_setFile (h : d.Reached place) (hnot : d.nodeAt place ≠ .directory) (content : Bytes)
    {reached : Location} :
    (d.setFile place content).locate path = .ok reached ↔ d.locate path = .ok reached := by
  rw [locate, locate]
  rcases names path with f | names
  · rfl
  · exact follow_setFile h hnot content

/-- The content of a file is what there is at the place of its path. -/
theorem content?_eq_some {got : Bytes} :
    d.content? path = some got ↔
      ∃ reached, d.locate path = .ok reached ∧ d.nodeAt reached = .file got := by
  rw [content?, read]
  rcases hlocate : d.locate path with f | reached
  · simp [bind, Except.bind, Except.toOption]
  · simp only [bind, Except.bind, Except.ok.injEq, exists_eq_left']
    cases hnode : d.nodeAt reached with
    | file content =>
      rw [Node.file.injEq]
      exact Option.some_inj
    | directory | nothing => simp [Except.toOption, throw, throwThe, MonadExceptOf.throw]

/-! ## What a write changes -/

/-- One file is set, and nothing else is changed: paths lead where they led before, and neither is
there anything else at another place nor is anything else read from a path that leads elsewhere. -/
structure SetsOnly (d d' : Disk) (place : Location) (content : Bytes) : Prop where
  self : d'.nodeAt place = .file content
  other : ∀ other, other ≠ place → d'.nodeAt other = d.nodeAt other
  leads : ∀ path reached, d'.locate path = .ok reached ↔ d.locate path = .ok reached
  content? : ∀ path, d'.content? path =
    if d.locate path = .ok place then some content else d.content? path

/-- **A write** sets the file that its path leads to, and nothing else. -/
theorem setsOnly_setFile (h : d.target path = .ok place) (content : Bytes) :
    SetsOnly d (d.setFile place content) place content := by
  obtain ⟨-, hreached, hnot⟩ := of_target_eq_ok h
  have hself := nodeAt_setFile_self d place content
  have hother : ∀ other, other ≠ place →
      (d.setFile place content).nodeAt other = d.nodeAt other := fun other hne =>
    nodeAt_setFile_of_ne hreached content hne
  have hleads : ∀ path reached,
      (d.setFile place content).locate path = .ok reached ↔ d.locate path = .ok reached :=
    fun path reached => locate_setFile hreached hnot content
  refine ⟨hself, hother, hleads, fun path => ?_⟩
  split
  next hplace =>
    exact content?_eq_some.mpr ⟨place, (hleads path place).mpr hplace, hself⟩
  next hplace =>
    refine Option.ext fun got => ?_
    rw [content?_eq_some, content?_eq_some]
    refine exists_congr fun reached => ?_
    rw [hleads]
    refine and_congr_right fun hlocate => ?_
    rw [hother reached fun heq => hplace (heq ▸ hlocate)]

end Disk

end MediaVault
