/-
Grants and settings as they are written. What is written of one is read as the
same again: of a grant up to the order of its header fields, in whatever order
they were written, since a field is known by its name. A part that may be left
out has its default only where it is left out.
-/
import MediaVault.Proofs.Json.Reading
import MediaVault.Vault.Settings
import MediaVault.Vault.Upload

namespace MediaVault

open Json Json.Reader

/-! ## Grants -/

namespace UploadGrant

variable {headers order : List (String × String)} {name value : String}

/-- Grants for the same upload: the header fields may be in another order. -/
structure Same (a b : UploadGrant) : Prop where
  vault : a.vault = b.vault
  location : a.location = b.location
  headers : a.headers.Perm b.headers

/-- A grant as JSON, whose header fields may be left out. -/
def written (vault : Nat) (location : String) (headers : Option (List (String × String))) : Json :=
  .record ([("cdn", .number vault), ("signedUploadLocation", .text location)] ++
    (headers.map fun fields =>
      ("headers", Json.record (fields.map fun (name, value) => (name, .text value)))).toList)

theorem setHeader_of_not_mem (h : name ∉ headers.map (·.1)) (value : String) :
    setHeader headers name value = headers ++ [(name, value)] := by
  have hkept : headers.filter (·.1 ≠ name) = headers := by
    rw [List.filter_eq_self]
    intro field hfield
    have hne : field.1 ≠ name := fun heq => h (heq ▸ List.mem_map_of_mem hfield)
    simpa using hne
  rw [setHeader, hkept]

/-- Header fields of different names are gathered in their order. -/
theorem gathers_setHeader (hnames : ((headers ++ order).map (·.1)).Nodup) :
    Gathers (fun name headers => do return setHeader headers name (← text)) headers
      (order.map fun field => (field.1, octets (.text field.2))) (headers ++ order) := by
  induction order generalizing headers with
  | nil =>
    rw [List.append_nil]
    exact .nil headers
  | cons field order ih =>
    obtain ⟨name, value⟩ := field
    have hnew : name ∉ headers.map (·.1) := by
      rw [List.map_append, List.map_cons] at hnames
      exact fun hmem => (List.nodup_append.mp hnames).2.2 name hmem name List.mem_cons_self rfl
    rw [← List.singleton_append, ← List.append_assoc] at hnames ⊢
    refine .cons ?_ (ih hnames)
    rw [← setHeader_of_not_mem hnew]
    exact (takes_text value).map (setHeader headers name)

/-- **What is written of a grant** is read part by part. Header fields that were left out are
none. -/
theorem ofJson?_written {vault : Nat} (hvault : vault ≤ Text.maxWord32) (location : String)
    (headers : Option (List (String × String))) (hnames : ((headers.getD []).map (·.1)).Nodup) :
    ofJson? (written vault location headers).octets = some ⟨vault, location, headers.getD []⟩ := by
  have hfirst : Gathers (byName members) {}
      [("cdn", octets (.number vault)), ("signedUploadLocation", octets (.text location))]
      { vault := some vault, location := some location } :=
    .cons (.byName rfl rfl ((takes_number hvault).map _))
      (.cons (.byName rfl rfl ((takes_text location).map _)) (.nil _))
  have hlast : Gathers (byName members) { vault := some vault, location := some location }
      (headers.map fun fields => ("headers",
        octets (.record (fields.map fun field => (field.1, .text field.2))))).toList
      { vault := some vault, location := some location, headers } := by
    cases headers with
    | none => exact .nil _
    | some fields =>
      have hgathers : Gathers _ [] (fields.map fun field => (field.1, octets (.text field.2)))
          fields := gathers_setHeader hnames
      have hfields := takes_object hgathers
      refine .cons (.byName rfl rfl ?_) (.nil _)
      rw [octets_record, List.map_map]
      exact hfields.map _
  rw [written, octets_record, List.map_append, ← Option.toList_map, Option.map_map, ofJson?]
  exact congrArg (·.bind ofDraft?) (takes_record (hfirst.append hlast)).whole

end UploadGrant

/-! ## Settings -/

namespace Settings

/-- Settings as JSON, of which those that have a default may be left out. -/
def written (baseUri clientId clientSecret : String) (connectTimeout : Option Nat)
    (trusted : Option (List String)) : Json :=
  .record ([("base_uri", .text baseUri), ("client_id", .text clientId),
      ("client_secret", .text clientSecret)] ++
    (connectTimeout.map fun n => ("connect_timeout_secs", Json.number n)).toList ++
    (trusted.map fun texts => ("cdn_ca_certificates", Json.list (texts.map .text))).toList)

theorem takes_texts (texts : List String) :
    Takes (list text) (octets (.list (texts.map .text))) texts := by
  rw [octets_list, List.map_map]
  refine takes_list ?_
  rw [List.forall₂_map_left_iff, List.forall₂_same]
  exact fun s _ => takes_text s

/-- **What is written of settings** is read part by part. What was left out has its default. -/
theorem ofJson?_written (baseUri clientId clientSecret : String) {connectTimeout : Option Nat}
    (hconnect : ∀ n ∈ connectTimeout, n ≤ Text.maxWord64) (trusted : Option (List String)) :
    ofJson? (written baseUri clientId clientSecret connectTimeout trusted).octets =
      some ⟨baseUri, clientId, clientSecret, connectTimeout.getD defaultTimeout,
        trusted.getD []⟩ := by
  have htexts : Gathers (byName members) {}
      [("base_uri", octets (.text baseUri)), ("client_id", octets (.text clientId)),
        ("client_secret", octets (.text clientSecret))]
      { baseUri := some baseUri, clientId := some clientId, clientSecret := some clientSecret } :=
    .cons (.byName rfl rfl ((takes_text baseUri).map _))
      (.cons (.byName rfl rfl ((takes_text clientId).map _))
        (.cons (.byName rfl rfl ((takes_text clientSecret).map _)) (.nil _)))
  have htimeout : Gathers (byName members)
      { baseUri := some baseUri, clientId := some clientId, clientSecret := some clientSecret }
      (connectTimeout.map fun n => ("connect_timeout_secs", octets (.number n))).toList
      { baseUri := some baseUri, clientId := some clientId, clientSecret := some clientSecret,
        connectTimeout } := by
    cases connectTimeout with
    | none => exact .nil _
    | some n => exact .cons (.byName rfl rfl ((takes_number (hconnect n rfl)).map _)) (.nil _)
  have htrusted : Gathers (byName members)
      { baseUri := some baseUri, clientId := some clientId, clientSecret := some clientSecret,
        connectTimeout }
      (trusted.map fun texts =>
        ("cdn_ca_certificates", octets (.list (texts.map .text)))).toList
      { baseUri := some baseUri, clientId := some clientId, clientSecret := some clientSecret,
        connectTimeout, trusted } := by
    cases trusted with
    | none => exact .nil _
    | some texts => exact .cons (.byName rfl rfl ((takes_texts texts).map _)) (.nil _)
  rw [written, octets_record, List.map_append, List.map_append, ← Option.toList_map,
    ← Option.toList_map, Option.map_map, Option.map_map, ofJson?]
  exact congrArg (·.bind ofDraft?) (takes_record ((htexts.append htimeout).append htrusted)).whole

end Settings

/-! ## Both -/

/-- **Reading undoes writing.** A grant whose header fields are written in any order is read as the
same grant, and settings are read as they were. Header fields that are not in the text of a grant
are none; a waiting time that is not in the text of settings is ten seconds, and no certificates
are trusted there. -/
theorem same_of_written :
    (∀ (g : UploadGrant) (order : List (String × String)), g.vault ≤ Text.maxWord32 →
      (g.headers.map (·.1)).Nodup → order.Perm g.headers →
      ∃ read,
        UploadGrant.ofJson? ({ g with headers := order } : UploadGrant).toJson.octets = some read ∧
          read.Same g) ∧
    (∀ a : Settings, a.connectTimeout ≤ Text.maxWord64 →
      Settings.ofJson? a.toJson.octets = some a) ∧
    (∀ vault location, vault ≤ Text.maxWord32 →
      UploadGrant.ofJson? (UploadGrant.written vault location none).octets =
        some ⟨vault, location, []⟩) ∧
    ∀ baseUri clientId clientSecret connectTimeout trusted,
      (∀ n ∈ connectTimeout, n ≤ Text.maxWord64) →
      Settings.ofJson?
          (Settings.written baseUri clientId clientSecret connectTimeout trusted).octets =
        some ⟨baseUri, clientId, clientSecret, connectTimeout.getD 10, trusted.getD []⟩ := by
  refine ⟨fun g order hvault hnames horder => ?_, fun a ha => ?_, fun vault location hvault => ?_,
    fun _ _ _ _ _ hconnect => Settings.ofJson?_written _ _ _ hconnect _⟩
  · have hread := UploadGrant.ofJson?_written hvault g.location (some order)
      ((horder.map _).nodup_iff.mpr hnames)
    exact ⟨_, hread, rfl, rfl, horder⟩
  · have hconnect : ∀ n ∈ some a.connectTimeout, n ≤ Text.maxWord64 := by simpa using ha
    exact Settings.ofJson?_written a.baseUri a.clientId a.clientSecret hconnect (some a.trusted)
  · exact UploadGrant.ofJson?_written hvault location none (by simp)

/-- A grant with every kind of character that has a form of its own, and settings with the greatest
waiting time. -/
theorem same_of_written_escaped :
    let g : UploadGrant := ⟨0xffffffff, "\x00\x1f\"\\/\x08\u00e9", [("a", "\n"), ("\t", "😀")]⟩
    let order := g.headers.reverse
    let a : Settings := ⟨"http://h", "id", "\"", 0xffffffffffffffff, ["a\r\n", ""]⟩
    g.vault ≤ Text.maxWord32 ∧ (g.headers.map (·.1)).Nodup ∧ order.Perm g.headers ∧
      a.connectTimeout ≤ Text.maxWord64 ∧
      (∃ read,
        UploadGrant.ofJson? ({ g with headers := order } : UploadGrant).toJson.octets = some read ∧
          read.Same g) ∧
      Settings.ofJson? a.toJson.octets = some a := by
  intro g order a
  obtain ⟨hgrant, hsettings, -, -⟩ := same_of_written
  have hvault : g.vault ≤ Text.maxWord32 := by decide
  have hnames : (g.headers.map (·.1)).Nodup := by decide
  have hconnect : a.connectTimeout ≤ Text.maxWord64 := by decide
  have horder : order.Perm g.headers := g.headers.reverse_perm
  exact ⟨hvault, hnames, horder, hconnect, hgrant g order hvault hnames horder,
    hsettings a hconnect⟩

end MediaVault
