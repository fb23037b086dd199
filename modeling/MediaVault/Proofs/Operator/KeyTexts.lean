/-
Key material has one text. A secret is read from two texts exactly if each is
the Base64 of its part, so there is one pair of texts for every secret; other
texts are refused, the ones that are no Base64 before those of a wrong length.
The lines that a copy prints of a fresh secret hold that pair, and a later copy
or opening that is given it works with the secret that sealed the object.
-/
import MediaVault.Proofs.Operator.Opening
import MediaVault.Proofs.Text.Base64
import MediaVault.Proofs.Text.Octets
import MediaVault.Proofs.Url.Forms

namespace MediaVault

/-- A text is settled by its octets. -/
theorem Bytes.ofText_injective : Function.Injective Bytes.ofText := by
  intro s t h
  have hread := congrArg Bytes.text? h
  rw [Bytes.text?_ofText, Bytes.text?_ofText] at hread
  exact Option.some.inj hread

namespace Base64

variable {x : UInt8} {octets : Bytes}

/-- What is written is of ASCII, and there is no end of a line in it. -/
theorem of_mem_encode (h : x ∈ encode octets) : x.toNat < 0x80 ∧ Char.ofNat x.toNat ≠ '\n' := by
  have hsymbols : ∀ n < 64, (symbol n).toNat < 0x80 ∧ Char.ofNat (symbol n).toNat ≠ '\n' := by
    decide +kernel
  obtain ⟨ns, _, pads, hns, -, -, -, htext, -⟩ := spells_encode octets
  rw [htext, List.mem_append] at h
  rcases h with h | h
  · obtain ⟨n, hn, rfl⟩ := List.mem_map.mp h
    exact hsymbols n (hns n hn)
  · rw [List.eq_of_mem_replicate h]
    decide

end Base64

namespace SealKey

variable {key lead s : String} {k : SealKey} {a b : Bytes} {f : CommandFailure}

/-! ## One part -/

/-- The text is the Base64 of these octets. -/
def Shows (s : String) (b : Bytes) : Prop := Base64.Spells (Bytes.ofText s) b

theorem ofText_shown (b : Bytes) : Bytes.ofText (shown b) = Base64.encode b := by
  rw [shown, Bytes.ofText_ofList_of_ascii, List.map_map]
  · conv => rhs; rw [← List.map_id (Base64.encode b)]
    refine List.map_congr_left fun x _ => ?_
    rw [Function.comp_apply, Url.toNat_charOfOctet, UInt8.ofNat_toNat, id]
  · intro c hc
    obtain ⟨x, hx, rfl⟩ := List.mem_map.mp hc
    rw [Url.toNat_charOfOctet]
    exact (Base64.of_mem_encode hx).1

theorem shows_iff : Shows s b ↔ s = shown b := by
  rw [Shows, Base64.spells_iff, ← ofText_shown]
  exact Bytes.ofText_injective.eq_iff

theorem decode_ofText : Base64.decode (Bytes.ofText s) = .ok b ↔ Shows s b := by
  rw [Base64.decode_eq_ok, Shows, Base64.spells_iff]

/-- What is refused is the Base64 of nothing. -/
theorem not_shows_of_decode {f : Base64.DecodeFault} (h : Base64.decode (Bytes.ofText s) = .error f) :
    ∀ b, ¬ Shows s b := by
  intro b hb
  rw [decode_ofText.mpr hb] at h
  cases h

theorem newline_not_mem_shown (b : Bytes) : '\n' ∉ (shown b).toList := by
  rw [shown, String.toList_ofList]
  intro h
  obtain ⟨x, hx, heq⟩ := List.mem_map.mp h
  exact (Base64.of_mem_encode hx).2 heq

/-! ## Both parts -/

theorem ofBytes_eq_ok : ofBytes a b = .ok k ↔ a = k.key ∧ b = k.lead := by
  unfold ofBytes
  constructor
  · intro h
    split at h
    · split at h
      · cases h
        exact ⟨rfl, rfl⟩
      · cases h
    · cases h
  · rintro ⟨rfl, rfl⟩
    rw [dif_pos k.length_key, dif_pos k.length_lead]

/-- **A secret is read** from the Base64 of its key and of its lead, and from nothing else. -/
theorem ofTexts_eq_ok : ofTexts key lead = .ok k ↔ Shows key k.key ∧ Shows lead k.lead := by
  rw [← decode_ofText, ← decode_ofText, ofTexts]
  constructor
  · intro h
    split at h
    · cases h
    next a ha =>
    split at h
    · cases h
    next b hb =>
    split at h
    · cases h
    next c hc =>
      cases h
      obtain ⟨rfl, rfl⟩ := ofBytes_eq_ok.mp hc
      exact ⟨ha, hb⟩
  · rintro ⟨ha, hb⟩
    simp only [ha, hb, ofBytes_eq_ok.mpr ⟨rfl, rfl⟩]

/-- Why two texts stand for no secret: the first of these reasons. -/
inductive Unread (key lead : String) : CommandFailure → Prop
  /-- The first text is no Base64; what is wrong with it is said beneath. -/
  | key {g : Base64.DecodeFault} : (∀ x, ¬ Shows key x) →
      Base64.decode (Bytes.ofText key) = .error g →
      Unread key lead (.other "key is not valid base64" [g.message])
  | lead {x : Bytes} {g : Base64.DecodeFault} : Shows key x → (∀ y, ¬ Shows lead y) →
      Base64.decode (Bytes.ofText lead) = .error g →
      Unread key lead (.other "nonce is not valid base64" [g.message])
  | keyLength {x y : Bytes} : Shows key x → Shows lead y → x.length ≠ Seal.keyLength →
      Unread key lead (.crypto (.keyLength x.length))
  | leadLength {x y : Bytes} : Shows key x → Shows lead y → x.length = Seal.keyLength →
      y.length ≠ Seal.leadLength → Unread key lead (.crypto (.leadLength y.length))

theorem ofTexts_eq_error : ofTexts key lead = .error f ↔ Unread key lead f := by
  unfold ofTexts
  constructor
  · intro h
    split at h
    next hkey =>
      cases h
      exact .key (not_shows_of_decode hkey) hkey
    next a ha =>
    split at h
    next hlead =>
      cases h
      exact .lead (decode_ofText.mp ha) (not_shows_of_decode hlead) hlead
    next b hb =>
    unfold ofBytes at h
    split at h
    next hbytes =>
      cases h
      split at hbytes
      next hk =>
        split at hbytes
        · cases hbytes
        next hl =>
          cases hbytes
          exact .leadLength (decode_ofText.mp ha) (decode_ofText.mp hb) hk hl
      next hk =>
        cases hbytes
        exact .keyLength (decode_ofText.mp ha) (decode_ofText.mp hb) hk
    · cases h
  · intro h
    cases h with
    | key _ hkey => simp only [hkey]
    | lead ha _ hlead => simp only [decode_ofText.mpr ha, hlead]
    | keyLength ha hb hk =>
      simp only [decode_ofText.mpr ha, decode_ofText.mpr hb, ofBytes, dif_neg hk]
    | leadLength ha hb hk hl =>
      simp only [decode_ofText.mpr ha, decode_ofText.mpr hb, ofBytes, dif_pos hk, dif_neg hl]

theorem ofTexts_shown (k : SealKey) : ofTexts (shown k.key) (shown k.lead) = .ok k :=
  ofTexts_eq_ok.mpr ⟨shows_iff.mpr rfl, shows_iff.mpr rfl⟩

end SealKey

/-! ## Commands -/

namespace Invocation

variable {i : Invocation} {key lead : Option String} {k : SealKey} {shown : String}

/-- A copy with a secret that is settled, after what is shown of it. -/
def copying (i : Invocation) (given : Option String) (source : Url) (length : Nat)
    (location : String) (vault : Nat) (headers : List (String × String)) (k : SealKey)
    (shown : String) : Step Unit := do
  let (_, client) ← i.connect given
  print shown
  perform (Command.copy client source length k
    { vault, location, headers := UploadGrant.gather headers })

theorem carryOut_copy (h : SealKey.forCopy i.random key lead = .ok (k, shown))
    (given : Option String) (source : Url) (length : Nat) (location : String) (vault : Nat)
    (headers : List (String × String)) :
    i.carryOut given (.copy source length location vault headers key lead) =
      i.copying given source length location vault headers k shown := by
  simp only [carryOut, copying, h, require, pure_bind]

end Invocation

namespace Decrypt

variable {d : Disk} {input output key lead : String}

/-- With the secret that sealed it an object is opened into any file that can be written. -/
theorem fst_outcome_of_seals {k : SealKey} {text sealed : Bytes} {place : List String}
    (hk : SealKey.ofTexts key lead = .ok k) (hread : d.read input = .ok sealed)
    (hseals : k.Seals text sealed) (htarget : d.target output = .ok place) :
    (outcome d input output key lead).1 = .ok () ∧
      (outcome d input output key lead).2.content? output = some text := by
  have hopened := opened_outcome d input output key lead
  have hdone := hopened.eq_ok_iff.mpr ⟨k, sealed, text, place, hk, hread, hseals, htarget⟩
  rw [hdone] at hopened
  exact ⟨hdone, (hopened.setsOnly hk hread hseals).2⟩

end Decrypt

namespace SealKey

/-- What shows a secret: two lines with the Base64 of its parts, which are read as that secret. -/
theorem lines_read (k : SealKey) :
    ∃ key lead, k.lines = "key=" ++ key ++ "\nnonce=" ++ lead ++ "\n" ∧
      '\n' ∉ key.toList ∧ '\n' ∉ lead.toList ∧ ofTexts key lead = .ok k :=
  ⟨shown k.key, shown k.lead, rfl, newline_not_mem_shown _, newline_not_mem_shown _,
    ofTexts_shown k⟩

/-- **A secret has one text.** Two texts are read as a secret exactly if they are the Base64 of its
parts, and are refused for the first of the reasons in `Unread`; every secret has one pair of texts.
A copy without texts works with a fresh secret and shows it in two lines. The texts in these lines
are read as that secret: a copy that is given them works with it and shows nothing, and an object
that it sealed is opened with them. -/
theorem one_text_per_secret :
    (∀ key lead k, ofTexts key lead = .ok k ↔ Shows key k.key ∧ Shows lead k.lead) ∧
    (∀ key lead f, ofTexts key lead = .error f ↔ Unread key lead f) ∧
    (∀ k, ∃! texts : String × String, ofTexts texts.1 texts.2 = .ok k) ∧
    ∀ (i : Invocation) given source length location vault headers,
      let k := ofRandom i.random
      i.carryOut given (.copy source length location vault headers none none) =
        i.copying given source length location vault headers k k.lines ∧
      ∃ key lead, k.lines = "key=" ++ key ++ "\nnonce=" ++ lead ++ "\n" ∧
        '\n' ∉ key.toList ∧ '\n' ∉ lead.toList ∧ ofTexts key lead = .ok k ∧
        (∀ (j : Invocation) given source length location vault headers,
          j.carryOut given (.copy source length location vault headers (some key) (some lead)) =
            j.copying given source length location vault headers k "") ∧
        ∀ (j : Invocation) given (p : Progress) input output text sealed place,
          p.disk.read input = .ok sealed → k.Seals text sealed →
          p.disk.target output = .ok place →
          let x : Except CommandFailure Unit × Progress :=
            (j.carryOut given (.decrypt input output key lead)).run p
          x.1 = .ok () ∧ x.2.disk.content? output = some text := by
  refine ⟨fun key lead k => ofTexts_eq_ok, fun key lead f => ofTexts_eq_error, fun k => ?_,
    fun i given source length location vault headers => ?_⟩
  · refine ⟨(shown k.key, shown k.lead), ofTexts_shown k, fun texts h => ?_⟩
    obtain ⟨hkey, hlead⟩ := ofTexts_eq_ok.mp h
    exact Prod.ext (shows_iff.mp hkey) (shows_iff.mp hlead)
  intro k
  obtain ⟨key, lead, hlines, hkey, hlead, hread⟩ := lines_read k
  refine ⟨Invocation.carryOut_copy rfl _ _ _ _ _ _, key, lead, hlines, hkey, hlead, hread, ?_, ?_⟩
  · intro j given source length location vault headers
    have hgiven : forCopy j.random (some key) (some lead) = .ok (k, "") := by
      rw [forCopy, hread]
      rfl
    exact Invocation.carryOut_copy hgiven _ _ _ _ _ _
  · intro j given p input output text sealed place hsealed hseals htarget x
    have hx : (x.1, x.2.disk) = Decrypt.outcome p.disk input output key lead :=
      Decrypt.fst_carryOut j given input output key lead p
    have hdone := Decrypt.fst_outcome_of_seals hread hsealed hseals htarget
    rw [← hx] at hdone
    exact hdone

/-- The text of a secret of zeros is shown by a copy and opens what the copy sealed. Without its
padding it is the text of nothing. -/
theorem one_text_of_zeros :
    let key := "AAAAAAAAAAAAAAAAAAAAAAAAAAAAAAAAAAAAAAAAAAA="
    let lead := "AAAAAAAAAAA="
    let k := ofRandom []
    let sealed := k.cipher.sealFrom 0 [7]
    let network : Network := ⟨.available, [], []⟩
    let i : Invocation := ⟨[], [], Decrypt.pairOfFiles sealed, network, []⟩
    let opened : Except CommandFailure Unit × Progress :=
      (i.carryOut none (.decrypt "a" "a" key lead)).run
        { disk := Decrypt.pairOfFiles sealed, session := { network } }
    k.lines = "key=" ++ key ++ "\nnonce=" ++ lead ++ "\n" ∧
      opened.1 = .ok () ∧ opened.2.disk.content? "a" = some [7] ∧
      ofTexts "AAAAAAAAAAAAAAAAAAAAAAAAAAAAAAAAAAAAAAAAAAA" lead ≠ .ok k := by
  intro key lead k sealed network i opened
  obtain ⟨hread, -, honly, hcopy⟩ := one_text_per_secret
  have hk : ofTexts key lead = .ok k := by
    refine (hread key lead k).mpr ⟨decode_ofText.mp ?_, decode_ofText.mp ?_⟩ <;> decide +kernel
  have hsole (texts : String × String) (h : ofTexts texts.1 texts.2 = .ok k) :
      texts = (key, lead) :=
    (honly k).unique h hk
  obtain ⟨-, key', lead', hlines, -, -, hk', -, hopen⟩ :=
    hcopy i none ⟨"https", "", "", none, none, .segments [], none, none⟩ 0 "" 0 []
  obtain ⟨rfl, rfl⟩ := Prod.mk.inj (hsole (key', lead') hk')
  have hseals : k.Seals [7] sealed := openObject_eq_ok.mp (openObject_sealFrom k (by decide))
  obtain ⟨hdone, hcontent⟩ := hopen i none
    { disk := Decrypt.pairOfFiles sealed, session := { network } } "a" "a" [7] sealed ["a"]
    (Decrypt.read_pairOfFiles sealed) hseals (Decrypt.target_pairOfFiles sealed)
  refine ⟨hlines, hdone, hcontent, fun h => ?_⟩
  have hpadded := congrArg Prod.fst (hsole (_, lead) h)
  exact absurd hpadded (by decide)

end SealKey

end MediaVault
