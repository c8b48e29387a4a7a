import RowMapping.Proofs.Fallible
import RowMapping.Proofs.Files.Tree
import RowMapping.Proofs.Files.Utf8
import RowMapping.Settings.Load

/-!
# Settings that files hold

`Settings.Loads` says which settings a file holds: it has the bytes of a text, the text is a
document, and a section of the document has the settings.  `Settings.Stops` is the first of these
steps that fails.  `Settings.load` gives the one or the other: `load_eq_iff`.

A settings error is reported, unless the path has a null character, the bytes are those of no text,
or the document has a number with too many digits: `reported_load_iff`.
-/

namespace RowMapping
open RowMapping.Files

/-! ### sections -/

/-- the value in which a document has the settings -/
inductive IsSection (entries : List (String × Value)) : Value → Prop where
  | whole : entries.lookup "tool" = none → IsSection entries (.table entries)
  | tool {tools : List (String × Value)} {v : Value} : entries.lookup "tool" = some (.table tools) →
      tools.lookup "row-gen" = some v → IsSection entries v

theorem settingsSection?_eq_some_iff {entries : List (String × Value)} {v : Value} :
    settingsSection? entries = some v ↔ IsSection entries v := by
  unfold settingsSection?
  constructor
  · intro h
    split at h
    next hnone =>
      cases h
      exact .whole hnone
    next tool htool =>
      cases tool with
      | table tools => exact .tool htool h
      | _ => cases h
  · intro h
    cases h with
    | whole hnone => rw [hnone]
    | tool htool hsection =>
      rw [htool]
      exact hsection

theorem settingsSection?_eq_none_iff {entries : List (String × Value)} :
    settingsSection? entries = none ↔ ∀ v, ¬ IsSection entries v := by
  rw [Option.eq_none_iff_forall_ne_some]
  exact forall_congr' fun v => not_congr settingsSection?_eq_some_iff

namespace Settings
variable {texts : PlatformTexts} {files : FileTree} {path : String} {bytes : List UInt8}
  {s : Settings} {e : SettingsError}

/-! ### bytes -/

/-- the document of which a file has the bytes -/
def HoldsDocument (bytes : List UInt8) (entries : List (String × Value)) : Prop :=
  ∃ text, bytes = utf8Bytes text ∧ Toml.parse (plainNewlines text) = .ok entries

/-- the first step that fails from bytes to settings -/
inductive StopsAtBytes (texts : PlatformTexts) (path : String) (bytes : List UInt8) :
    SettingsError → Prop where
  | notText {fault : Utf8Fault} : decodeUtf8 bytes = .error fault →
      StopsAtBytes texts path bytes (.notText fault)
  | malformed {text : List Char} : bytes = utf8Bytes text →
      Toml.parse (plainNewlines text) = .error .malformed →
      StopsAtBytes texts path bytes (.malformed path (texts.ofDocument text))
  | tooManyDigits {text : List Char} {count : Nat} : bytes = utf8Bytes text →
      Toml.parse (plainNewlines text) = .error (.tooManyDigits count) →
      StopsAtBytes texts path bytes (.tooManyDigits count)
  | noSection {entries : List (String × Value)} : HoldsDocument bytes entries →
      (∀ v, ¬ IsSection entries v) → StopsAtBytes texts path bytes (.noSection path)
  | invalid {text : List Char} {entries : List (String × Value)} {v : Value}
      {issues : List Issue} : bytes = utf8Bytes text →
      Toml.parse (plainNewlines text) = .ok entries → IsSection entries v →
      ofValue v = .error issues →
      StopsAtBytes texts path bytes (.invalid path issues (texts.ofSettings text))

theorem ofBytes_of_error {fault : Utf8Fault} (h : decodeUtf8 bytes = .error fault) :
    ofBytes texts path bytes = .error (.notText fault) := by
  unfold ofBytes
  rw [h]
  rfl

theorem ofBytes_of_text {text : List Char} (h : bytes = utf8Bytes text) :
    ofBytes texts path bytes = match Toml.parse (plainNewlines text) with
      | .error .malformed => .error (.malformed path (texts.ofDocument text))
      | .error (.tooManyDigits count) => .error (.tooManyDigits count)
      | .ok entries => match settingsSection? entries with
        | none => .error (.noSection path)
        | some v => (ofValue v).mapError fun issues =>
            .invalid path issues (texts.ofSettings text) := by
  unfold ofBytes
  rw [decodeUtf8_eq_ok_iff.mpr h]
  rfl

theorem ofBytes_of_document {text : List Char} {entries : List (String × Value)}
    (h : bytes = utf8Bytes text) (hparse : Toml.parse (plainNewlines text) = .ok entries) :
    ofBytes texts path bytes = match settingsSection? entries with
      | none => .error (.noSection path)
      | some v => (ofValue v).mapError fun issues =>
          .invalid path issues (texts.ofSettings text) := by
  rw [ofBytes_of_text h, hparse]

theorem ofBytes_of_section {text : List Char} {entries : List (String × Value)} {v : Value}
    (h : bytes = utf8Bytes text) (hparse : Toml.parse (plainNewlines text) = .ok entries)
    (hsection : IsSection entries v) : ofBytes texts path bytes
      = (ofValue v).mapError fun issues => .invalid path issues (texts.ofSettings text) := by
  rw [ofBytes_of_document h hparse, settingsSection?_eq_some_iff.mpr hsection]

theorem ofBytes_of_stops (h : StopsAtBytes texts path bytes e) :
    ofBytes texts path bytes = .error e := by
  cases h with
  | notText hfault => exact ofBytes_of_error hfault
  | malformed hbytes hparse => rw [ofBytes_of_text hbytes, hparse]
  | tooManyDigits hbytes hparse => rw [ofBytes_of_text hbytes, hparse]
  | noSection hdocument hnone =>
    obtain ⟨text, hbytes, hparse⟩ := hdocument
    rw [ofBytes_of_document hbytes hparse, settingsSection?_eq_none_iff.mpr hnone]
  | invalid hbytes hparse hsection hissues =>
    rw [ofBytes_of_section hbytes hparse hsection, hissues]
    rfl

/-- bytes hold settings, or there is a first step that fails -/
theorem holds_or_stops (texts : PlatformTexts) (path : String) (bytes : List UInt8) :
    (∃ entries v s, HoldsDocument bytes entries ∧ IsSection entries v ∧ ofValue v = .ok s) ∨
      ∃ e, StopsAtBytes texts path bytes e := by
  cases hdecode : decodeUtf8 bytes with
  | error fault => exact .inr ⟨_, .notText hdecode⟩
  | ok text =>
    have hbytes := decodeUtf8_eq_ok_iff.mp hdecode
    cases hparse : Toml.parse (plainNewlines text) with
    | error fault =>
      cases fault with
      | malformed => exact .inr ⟨_, .malformed hbytes hparse⟩
      | tooManyDigits count => exact .inr ⟨_, .tooManyDigits hbytes hparse⟩
    | ok entries =>
      have hdocument : HoldsDocument bytes entries := ⟨text, hbytes, hparse⟩
      cases hsection : settingsSection? entries with
      | none => exact .inr ⟨_, .noSection hdocument (settingsSection?_eq_none_iff.mp hsection)⟩
      | some v =>
        have hv := settingsSection?_eq_some_iff.mp hsection
        cases hvalue : ofValue v with
        | error issues => exact .inr ⟨_, .invalid hbytes hparse hv hvalue⟩
        | ok s => exact .inl ⟨entries, v, s, hdocument, hv, hvalue⟩

/-! ### files -/

/-- the settings that a file holds -/
def Loads (files : FileTree) (path : String) (s : Settings) : Prop :=
  ∃ bytes entries v, files.read path = .ok bytes ∧ HoldsDocument bytes entries ∧
    IsSection entries v ∧ ofValue v = .ok s

/-- the first step that fails from a path to settings -/
inductive Stops (texts : PlatformTexts) (files : FileTree) (path : String) :
    SettingsError → Prop where
  | unreadable {fault : FileFault} : files.read path = .error fault →
      Stops texts files path (.unreadable (normalPath path) fault (texts.ofFile fault path))
  | bytes {bytes : List UInt8} {e : SettingsError} : files.read path = .ok bytes →
      StopsAtBytes texts (normalPath path) bytes e → Stops texts files path e

theorem load_of_read (h : files.read path = .ok bytes) :
    load texts files path = ofBytes texts (normalPath path) bytes := by
  unfold load
  rw [h]
  rfl

theorem load_of_loads (h : Loads files path s) : load texts files path = .ok s := by
  obtain ⟨bytes, entries, v, hread, ⟨text, hbytes, hparse⟩, hsection, hvalue⟩ := h
  rw [load_of_read hread, ofBytes_of_section hbytes hparse hsection, hvalue]
  rfl

theorem load_of_stops (h : Stops texts files path e) : load texts files path = .error e := by
  cases h with
  | unreadable hfault =>
    unfold load
    rw [hfault]
    rfl
  | bytes hread hstops => rw [load_of_read hread, ofBytes_of_stops hstops]

theorem loads_or_stops (texts : PlatformTexts) (files : FileTree) (path : String) :
    (∃ s, Loads files path s) ∨ ∃ e, Stops texts files path e := by
  cases hread : files.read path with
  | error fault => exact .inr ⟨_, .unreadable hread⟩
  | ok bytes =>
    obtain ⟨entries, v, s, hholds⟩ | ⟨e, hstops⟩ := holds_or_stops texts (normalPath path) bytes
    · exact .inl ⟨s, bytes, entries, v, hread, hholds⟩
    · exact .inr ⟨e, .bytes hread hstops⟩

theorem load_eq_iff (texts : PlatformTexts) (files : FileTree) (path : String) :
    (∀ s, load texts files path = .ok s ↔ Loads files path s) ∧
      ∀ e, load texts files path = .error e ↔ Stops texts files path e :=
  eq_iff_of_total (fun _ => load_of_loads) (fun _ => load_of_stops) (loads_or_stops texts files path)

/-! ### reported errors -/

/-- that a file can only fail to hold settings for a reason that is reported -/
structure IsOrdinary (files : FileTree) (path : String) : Prop where
  noNull : hasNull path = false
  isText : ∀ bytes, files.read path = .ok bytes → ∃ text, bytes = utf8Bytes text
  fewDigits : ∀ text count, files.read path = .ok (utf8Bytes text) →
    Toml.parse (plainNewlines text) ≠ .error (.tooManyDigits count)

theorem isReported_of_stopsAtBytes (h : StopsAtBytes texts path bytes e)
    (htext : ∃ text, bytes = utf8Bytes text)
    (hdigits : ∀ text count, bytes = utf8Bytes text →
      Toml.parse (plainNewlines text) ≠ .error (.tooManyDigits count)) : e.isReported = true := by
  cases h with
  | notText hfault =>
    obtain ⟨text, hbytes⟩ := htext
    rw [decodeUtf8_eq_ok_iff.mpr hbytes] at hfault
    cases hfault
  | tooManyDigits hbytes hparse => exact absurd hparse (hdigits _ _ hbytes)
  | malformed | noSection | invalid => rfl

theorem read_of_hasNull (h : hasNull path = true) : files.read path = .error .nullInPath := by
  unfold FileTree.read
  exact if_pos h

/-- All errors of a file are reported exactly if its path has no null character and the file, if it
can be read at all, is a text in which no number has too many digits.  Whatever they are, settings
are those of the section, and an error is that of the first step that fails. -/
theorem reported_load_iff (texts : PlatformTexts) (files : FileTree) (path : String) :
    ((∀ e, load texts files path = .error e → e.isReported = true) ↔ IsOrdinary files path) ∧
      (∀ s, load texts files path = .ok s ↔ Loads files path s) ∧
      ∀ e, load texts files path = .error e ↔ Stops texts files path e := by
  refine ⟨⟨fun h => ⟨?_, ?_, ?_⟩, ?_⟩, load_eq_iff texts files path⟩
  · refine Bool.eq_false_iff.mpr fun hnull => ?_
    have hreported := h _ (load_of_stops (.unreadable (read_of_hasNull hnull)))
    cases hreported
  · intro bytes hread
    cases hdecode : decodeUtf8 bytes with
    | ok text => exact ⟨text, decodeUtf8_eq_ok_iff.mp hdecode⟩
    | error fault =>
      have hreported := h _ (load_of_stops (.bytes hread (.notText hdecode)))
      cases hreported
  · intro text count hread hparse
    have hreported := h _ (load_of_stops (.bytes hread (.tooManyDigits rfl hparse)))
    cases hreported
  · rintro ⟨hnull, htext, hdigits⟩ e he
    cases ((load_eq_iff texts files path).2 e).mp he with
    | unreadable hfault =>
      show FileFault.isOfSystem _ = true
      rw [FileTree.isOfSystem_of_read hfault, hnull]
      rfl
    | bytes hread hstops =>
      refine isReported_of_stopsAtBytes hstops (htext _ hread) fun text count hbytes => ?_
      exact hdigits text count (hbytes ▸ hread)

/-- the byte 255 is no text, and the error that tells so is none of the program's own -/
theorem not_reported_load_byte : ¬ ∀ e,
    load ⟨fun _ _ => "", fun _ => "", fun _ => ""⟩ { files := [(["row-gen.toml"], [0xff])] }
      "row-gen.toml" = .error e → e.isReported = true := by
  intro h
  have hreported := h (.notText ⟨0, 0, 0xff, .invalidStart⟩) (by rfl)
  cases hreported

end Settings
end RowMapping
