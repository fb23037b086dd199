/-
What opening a sealed file into another file comes to. The whole object is
opened before anything is written, so a secret that is none, a file that
cannot be read and an object that was changed or cut short all leave every
file as it was. Otherwise the one text that is sealed to the object is written
to one file, which may be the one that was read.
-/
import MediaVault.Operator.Run
import MediaVault.Proofs.Operator.Disk
import MediaVault.Proofs.Seal.Stopping
import MediaVault.Proofs.Vault.Action

namespace MediaVault

/-! ## Objects -/

namespace SealKey

variable {k : SealKey} {text other sealed : Bytes}

/-- The text is sealed to this object, in whatever chunks it arrives. -/
def Seals (k : SealKey) (text sealed : Bytes) : Prop :=
  ∀ source, Delivers source text →
    (SealStream.start k.cipher text.length).GivesOut source sealed none

theorem seals_of_openObject (h : k.openObject sealed = .ok text) : k.Seals text sealed := by
  intro source hsource
  rw [← sealFrom_of_openObject h]
  exact SealStream.givesOut_of_delivers k.lawful_cipher hsource (counted_of_openObject h)

/-- A text that is sealed without a fault has no more segments than can be counted. -/
theorem Seals.counted (h : k.Seals text sealed) :
    text.length / Seal.segmentLength ≤ Place.limit := by
  have hdrain := (h [.chunk text] (.single text)).drain
  have hstop := SealStream.snd_drain k.lawful_cipher text.length [.chunk text]
  rw [hdrain, SealStream.stop_start,
    SealStream.intake_of_delivers (.single text) (Nat.zero_add _)] at hstop
  split at hstop
  · cases hstop
  next hcapacity =>
    have hlt : text.length < Seal.segmentLength * (Place.limit + 1) := by
      rw [Nat.mul_comm]
      exact Nat.lt_of_not_le hcapacity
    exact Nat.lt_succ_iff.mp (Nat.div_lt_of_lt_mul hlt)

/-- **An object opens** exactly to the text that is sealed to it. -/
theorem openObject_eq_ok : k.openObject sealed = .ok text ↔ k.Seals text sealed := by
  refine ⟨seals_of_openObject, fun h => ?_⟩
  have hgives := SealStream.givesOut_of_delivers k.lawful_cipher (.single text) h.counted
  have hsame : k.cipher.sealFrom 0 text = sealed := by
    have hdrain := hgives.drain.symm.trans (h _ (.single text)).drain
    exact (Prod.mk.inj hdrain).1
  rw [← hsame]
  exact openObject_sealFrom k h.counted

theorem Seals.unique (h : k.Seals text sealed) (hother : k.Seals other sealed) : text = other := by
  have hopen := (openObject_eq_ok.mpr h).symm.trans (openObject_eq_ok.mpr hother)
  exact Except.ok.inj hopen

end SealKey

/-! ## Commands -/

namespace Decrypt

variable {d : Disk} {input output key lead : String}

/-- What opening a file into another one comes to, and the files after it. -/
inductive Opened (d : Disk) (input output key lead : String) :
    Except CommandFailure Unit → Disk → Prop
  /-- The texts stand for no secret. -/
  | noSecret {f} : SealKey.ofTexts key lead = .error f →
      Opened d input output key lead (.error f) d
  | unread {k f} : SealKey.ofTexts key lead = .ok k → d.read input = .error f →
      Opened d input output key lead (.error (.other ("reading " ++ input) [f.message])) d
  /-- No text is sealed to what was read. -/
  | unopened {k sealed f} : SealKey.ofTexts key lead = .ok k → d.read input = .ok sealed →
      (∀ text, ¬ k.Seals text sealed) → k.openObject sealed = .error f →
      Opened d input output key lead (.error (.crypto f)) d
  /-- No file can be created or replaced there. -/
  | unwritten {k sealed text f} : SealKey.ofTexts key lead = .ok k → d.read input = .ok sealed →
      k.Seals text sealed → d.target output = .error f →
      Opened d input output key lead (.error (.other ("writing " ++ output) [f.message])) d
  /-- The text that is sealed to what was read is all of the one file that changed. -/
  | written {k sealed text place d'} : SealKey.ofTexts key lead = .ok k →
      d.read input = .ok sealed → k.Seals text sealed → d.target output = .ok place →
      d.SetsOnly d' place text → d'.content? output = some text →
      Opened d input output key lead (.ok ()) d'

/-- What opening a file into another one comes to, and the files after it. -/
def outcome (d : Disk) (input output key lead : String) : Except CommandFailure Unit × Disk :=
  match run d input output key lead with
  | .error f => (.error f, d)
  | .ok (d', _) => (.ok (), d')

/-- The command changes the files as opening does. -/
theorem fst_carryOut (i : Invocation) (given : Option String) (input output key lead : String)
    (p : Progress) :
    let x : Except CommandFailure Unit × Progress :=
      (i.carryOut given (.decrypt input output key lead)).run p
    (x.1, x.2.disk) = outcome p.disk input output key lead := by
  rw [Invocation.carryOut, run_bind, run_get]
  dsimp only
  rw [run_bind, outcome]
  rcases run p.disk input output key lead with f | ⟨disk, line⟩ <;> rfl

/-- Nothing is written of an object that does not open. -/
theorem outcome_of_unopened {k : SealKey} {sealed : Bytes} {f : SealFault}
    (hk : SealKey.ofTexts key lead = .ok k) (hread : d.read input = .ok sealed)
    (hopen : k.openObject sealed = .error f) :
    outcome d input output key lead = (.error (.crypto f), d) := by
  simp only [outcome, run, textOf, hk, hread, hopen]

/-- The text of an object that opens is written, or no file can be. -/
theorem opened_outcome_of_opened {k : SealKey} {sealed text : Bytes}
    (hk : SealKey.ofTexts key lead = .ok k) (hread : d.read input = .ok sealed)
    (hopen : k.openObject sealed = .ok text) :
    Opened d input output key lead (outcome d input output key lead).1
      (outcome d input output key lead).2 := by
  have hseals := SealKey.openObject_eq_ok.mp hopen
  have htext : textOf d input key lead = .ok text := by simp only [textOf, hk, hread, hopen]
  rcases htarget : d.target output with f | place
  · have hwrite : d.write output text = .error f := by
      rw [Disk.write, htarget]
      rfl
    simp only [outcome, run, htext, hwrite]
    exact .unwritten hk hread hseals htarget
  · have hwrite : d.write output text = .ok (d.setFile place text) := by
      rw [Disk.write, htarget]
      rfl
    have hsets := Disk.setsOnly_setFile htarget text
    simp only [outcome, run, htext, hwrite]
    refine .written hk hread hseals htarget hsets ?_
    rw [hsets.content?, if_pos (Disk.of_target_eq_ok htarget).1]

/-- **Opening a file** comes to one of these outcomes. -/
theorem opened_outcome (d : Disk) (input output key lead : String) :
    Opened d input output key lead (outcome d input output key lead).1
      (outcome d input output key lead).2 := by
  rcases hk : SealKey.ofTexts key lead with f | k
  · simp only [outcome, run, textOf, hk]
    exact .noSecret hk
  rcases hread : d.read input with f | sealed
  · simp only [outcome, run, textOf, hk, hread]
    exact .unread hk hread
  rcases hopen : k.openObject sealed with f | text
  · rw [outcome_of_unopened hk hread hopen]
    refine .unopened hk hread (fun text htext => ?_) hopen
    rw [SealKey.openObject_eq_ok.mpr htext] at hopen
    cases hopen
  · exact opened_outcome_of_opened hk hread hopen

variable {r : Except CommandFailure Unit} {d' : Disk}

/-- Opening a file succeeds exactly if a text is sealed to it and a file can be written. -/
theorem Opened.eq_ok_iff (h : Opened d input output key lead r d') :
    r = .ok () ↔ ∃ k sealed text place, SealKey.ofTexts key lead = .ok k ∧
      d.read input = .ok sealed ∧ k.Seals text sealed ∧ d.target output = .ok place := by
  cases h with
  | noSecret hk =>
    refine iff_of_false nofun ?_
    rintro ⟨_, _, _, _, hk', -⟩
    rw [hk] at hk'
    cases hk'
  | unread hk hread =>
    refine iff_of_false nofun ?_
    rintro ⟨_, _, _, _, -, hread', -⟩
    rw [hread] at hread'
    cases hread'
  | unopened hk hread hnone _ =>
    refine iff_of_false nofun ?_
    rintro ⟨_, _, text, _, hk', hread', htext, -⟩
    rw [hk] at hk'
    rw [hread] at hread'
    cases hk'
    cases hread'
    exact hnone text htext
  | unwritten _ _ _ htarget =>
    refine iff_of_false nofun ?_
    rintro ⟨_, _, _, _, -, -, -, htarget'⟩
    rw [htarget] at htarget'
    cases htarget'
  | written hk hread htext htarget _ _ =>
    exact iff_of_true rfl ⟨_, _, _, _, hk, hread, htext, htarget⟩

/-- What was written is the text that is sealed to what was read. -/
theorem Opened.setsOnly {k : SealKey} {sealed text : Bytes}
    (h : Opened d input output key lead (.ok ()) d') (hk : SealKey.ofTexts key lead = .ok k)
    (hread : d.read input = .ok sealed) (htext : k.Seals text sealed) :
    (∃ place, d.SetsOnly d' place text) ∧ d'.content? output = some text := by
  cases h with
  | written hk' hread' htext' _ hsets hcontent =>
    rw [hk] at hk'
    rw [hread] at hread'
    cases hk'
    cases hread'
    rw [htext.unique htext']
    exact ⟨⟨_, hsets⟩, hcontent⟩

/-- **Opening is all or nothing.** A run that is to open a file into another one comes to one of the
outcomes of `Opened`: either it fails and every file is as it was, or what the input held before is
what a text is sealed to, the output holds that text and no other place is changed. It succeeds
whenever there is such a text and a place to write it to, and there is one text at most. Of an
object that has whole segments at its front and cannot be opened after them nothing is written. -/
theorem opened_or_unchanged (i : Invocation) (given : Option String)
    (input output key lead : String) (p : Progress) :
    let x : Except CommandFailure Unit × Progress :=
      (i.carryOut given (.decrypt input output key lead)).run p
    Opened p.disk input output key lead x.1 x.2.disk ∧
      (x.1 = .ok () ↔ ∃ k sealed text place, SealKey.ofTexts key lead = .ok k ∧
        p.disk.read input = .ok sealed ∧ k.Seals text sealed ∧
        p.disk.target output = .ok place) ∧
      (∀ (k : SealKey) text other sealed, k.Seals text sealed → k.Seals other sealed →
        text = other) ∧
      ∀ k text rest f, SealKey.ofTexts key lead = .ok k →
        p.disk.read input =
          .ok (Seal.joined (k.cipher.encryptAll (Seal.fullSegments 0 text)) ++ rest) →
        text.length / Seal.segmentLength ≤ Place.limit →
        k.cipher.openFrom
          (Seal.joined (k.cipher.encryptAll (Seal.fullSegments 0 text)) ++ rest).length
          (text.length / Seal.segmentLength) rest = .error f →
        x.1 = .error (.crypto f) ∧ x.2.disk = p.disk := by
  intro x
  have hx : (x.1, x.2.disk) = outcome p.disk input output key lead :=
    fst_carryOut i given input output key lead p
  have hopened : Opened p.disk input output key lead x.1 x.2.disk := by
    have houtcome := opened_outcome p.disk input output key lead
    rw [← hx] at houtcome
    exact houtcome
  refine ⟨hopened, hopened.eq_ok_iff, fun k text other sealed h hother => h.unique hother,
    fun k text rest f hk hread hcounted hrest => ?_⟩
  have hopen : k.openObject
      (Seal.joined (k.cipher.encryptAll (Seal.fullSegments 0 text)) ++ rest) = .error f :=
    SegmentCipher.openFrom_fullSegments_append k.lawful_cipher (by rwa [Nat.zero_add])
      (by rwa [Nat.zero_add])
  rw [outcome_of_unopened hk hread hopen] at hx
  exact Prod.mk.inj hx

/-! ## One file in place of itself -/

/-- A file and another one beside it. -/
def pairOfFiles (content : Bytes) : Disk := ⟨[(["a"], content), (["b"], [7])], []⟩

theorem names_a : Disk.names "a" = .ok ["a"] := by
  have hsplit : "a".splitOn "/" = ["a"] := by
    rw [String.splitOn, if_neg (by decide), String.splitOnAux, if_neg (by decide),
      if_neg (by decide), String.splitOnAux, if_pos (by decide)]
    decide
  rw [Disk.names, Location.names, hsplit]
  decide +kernel

theorem target_pairOfFiles (content : Bytes) : (pairOfFiles content).target "a" = .ok ["a"] := by
  have hstart : Location.start "a" = [] := by decide +kernel
  have hslash : "a".endsWith "/" = false := by decide +kernel
  rw [Disk.target, names_a, hstart]
  simp only [hslash]
  rfl

theorem read_pairOfFiles (content : Bytes) : (pairOfFiles content).read "a" = .ok content := by
  have hlocate := (Disk.of_target_eq_ok (target_pairOfFiles content)).1
  rw [Disk.read, hlocate]
  rfl

/-- A file is opened in place of itself. With its final segment cut off it stays as it is. -/
theorem opened_or_unchanged_in_place :
    let key := "AAAAAAAAAAAAAAAAAAAAAAAAAAAAAAAAAAAAAAAAAAA="
    let lead := "AAAAAAAAAAA="
    let k := SealKey.ofRandom []
    let network : Network := ⟨.available, [], []⟩
    let opened (content : Bytes) : Except CommandFailure Unit × Progress :=
      ((⟨[], [], pairOfFiles content, network, []⟩ : Invocation).carryOut none
        (.decrypt "a" "a" key lead)).run { disk := pairOfFiles content, session := { network } }
    let text := List.replicate Seal.segmentLength 7
    let sealed := k.cipher.sealFrom 0 text
    let front := Seal.joined (k.cipher.encryptAll (Seal.fullSegments 0 text))
    SealKey.ofTexts key lead = .ok k ∧ k.Seals text sealed ∧ (opened sealed).1 = .ok () ∧
      (∃ place, (pairOfFiles sealed).SetsOnly (opened sealed).2.disk place text) ∧
      (opened sealed).2.disk.content? "a" = some text ∧
      (opened front).1 = .error (.crypto (.malformed front.length)) ∧
      (opened front).2.disk = pairOfFiles front := by
  intro key lead k network opened text sealed front
  have hk : SealKey.ofTexts key lead = .ok k := by
    have hkey : Base64.decode (Bytes.ofText key) = .ok (List.replicate 32 0) := by decide +kernel
    have hlead : Base64.decode (Bytes.ofText lead) = .ok (List.replicate 8 0) := by decide +kernel
    rw [SealKey.ofTexts, hkey, hlead]
    rfl
  have hcounted : text.length / Seal.segmentLength ≤ Place.limit := by
    rw [List.length_replicate]
    decide
  have hseals : k.Seals text sealed :=
    SealKey.openObject_eq_ok.mp (SealKey.openObject_sealFrom k hcounted)
  have hmain (content : Bytes) :=
    opened_or_unchanged ⟨[], [], pairOfFiles content, network, []⟩ none "a" "a" key lead
      { disk := pairOfFiles content, session := { network } }
  obtain ⟨hopened, hok, -, -⟩ := hmain sealed
  have hdone : (opened sealed).1 = .ok () :=
    hok.mpr ⟨k, sealed, text, ["a"], hk, read_pairOfFiles sealed, hseals, target_pairOfFiles sealed⟩
  have hwritten : Opened (pairOfFiles sealed) "a" "a" key lead (.ok ()) (opened sealed).2.disk := by
    rw [← hdone]
    exact hopened
  obtain ⟨hsets, hcontent⟩ := hwritten.setsOnly hk (read_pairOfFiles sealed) hseals
  have hfront := List.append_nil front
  obtain ⟨-, -, -, hcut⟩ := hmain front
  have hkept := hcut k text [] (.malformed front.length) hk
    (by rw [hfront]; exact read_pairOfFiles front) hcounted
    (by rw [hfront]; exact SegmentCipher.openFrom_nil _ _ _)
  exact ⟨hk, hseals, hdone, hsets, hcontent, hkept⟩

end Decrypt

end MediaVault
