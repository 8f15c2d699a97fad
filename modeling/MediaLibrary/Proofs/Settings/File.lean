import MediaLibrary.Proofs.Json.Faithful
import MediaLibrary.Settings.File

/-!
# Settings — the file holds what was saved

Saved settings are read from the file as they were, whatever texts they hold, for
their numbers have 64 bits. Only valid settings get into the file or out of it.

* `Settings.codec_faithful` — settings lose nothing in the file;
* `Settings.check_ok_iff` — the settings that are valid;
* `SettingsFile.load_of_save`, `SettingsFile.isValid_of_load` — saving and loading.
-/

namespace MediaLibrary

open Json

-- ---------------------------------------------------------------------------
-- The codec
-- ---------------------------------------------------------------------------

/-- The sizes have 64 bits. -/
structure SearchSettings.Fits (s : SearchSettings) : Prop where
  defaultPageSize : Text.fitsInt64 s.defaultPageSize = true
  maxPageSize : Text.fitsInt64 s.maxPageSize = true

/-- The numbers have 64 bits, and the time has no sign. -/
structure DatabaseSettings.Fits (s : DatabaseSettings) : Prop where
  busyTimeoutMs : s.busyTimeoutMs ≤ Text.nat64Max
  cacheSizeKb : Text.fitsInt64 s.cacheSizeKb = true

/-- The numbers of the settings have 64 bits. -/
structure Settings.Fits (s : Settings) : Prop where
  search : s.search.Fits
  database : s.database.Fits

/-- The defaults are in range. -/
theorem Settings.fits_default : Settings.Fits {} :=
  ⟨⟨by decide, by decide⟩, ⟨by decide, by decide⟩⟩

/-- The settings of searches come back. -/
theorem SearchSettings.codec_faithful : SearchSettings.codec.Faithful SearchSettings.Fits :=
  Codec.record_faithful (by decide +kernel)
    (.cons (Member.of_faithful Codec.int64_faithful (fun _ h => h.defaultPageSize)
        fun _ _ h hv => { h with defaultPageSize := hv }) <|
      .cons (Member.of_faithful Codec.int64_faithful (fun _ h => h.maxPageSize)
        fun _ _ h hv => { h with maxPageSize := hv }) .nil)
    Settings.fits_default.search fun _ => rfl

theorem DatabaseSettings.codec_faithful : DatabaseSettings.codec.Faithful DatabaseSettings.Fits :=
  Codec.record_faithful (by decide +kernel)
    (.cons (Member.of_faithful Codec.nat64_faithful (fun _ h => h.busyTimeoutMs)
        fun _ _ h hv => { h with busyTimeoutMs := hv }) <|
      .cons (Member.of_faithful Codec.int64_faithful (fun _ h => h.cacheSizeKb)
        fun _ _ h hv => { h with cacheSizeKb := hv }) .nil)
    Settings.fits_default.database fun _ => rfl

theorem LoggingSettings.codec_lossless : LoggingSettings.codec.Lossless :=
  Codec.record_faithful (by decide +kernel)
    (.cons (Member.of_lossless Codec.text_lossless fun _ _ _ => trivial) <|
      .cons (Member.of_lossless Codec.boolean_lossless fun _ _ _ => trivial) .nil)
    trivial fun _ => rfl

/-- Settings come back section by section. -/
theorem Settings.codec_faithful : Settings.codec.Faithful Settings.Fits :=
  Codec.record_faithful (by decide +kernel)
    (.cons (Member.of_faithful SearchSettings.codec_faithful (fun _ h => h.search)
        fun _ _ h hv => { h with search := hv }) <|
      .cons (Member.of_faithful DatabaseSettings.codec_faithful (fun _ h => h.database)
        fun _ _ h hv => { h with database := hv }) <|
      .cons (Member.of_lossless LoggingSettings.codec_lossless fun _ _ h => { h with }) .nil)
    Settings.fits_default fun _ => rfl

-- ---------------------------------------------------------------------------
-- Valid settings
-- ---------------------------------------------------------------------------

/-- The cache has a size, and so have pages; the default size is not above the greatest. -/
structure Settings.IsValid (s : Settings) : Prop where
  cache : 1 ≤ s.database.cacheSizeKb
  page : 1 ≤ s.search.defaultPageSize
  pageMax : s.search.defaultPageSize ≤ s.search.maxPageSize

/-- The check passes just valid settings. -/
theorem Settings.check_ok_iff (s : Settings) : s.check = .ok () ↔ s.IsValid := by
  have hIff : s.IsValid ↔ ¬s.database.cacheSizeKb ≤ 0 ∧
      ¬(s.search.defaultPageSize ≤ 0 ∨ s.search.maxPageSize ≤ 0) ∧
      ¬s.search.maxPageSize < s.search.defaultPageSize := by
    constructor
    · rintro ⟨hCache, hPage, hMax⟩
      omega
    · intro h
      exact ⟨by omega, by omega, by omega⟩
  rw [hIff]
  by_cases hCache : s.database.cacheSizeKb ≤ 0
  · simp [check, hCache, throw, throwThe, MonadExceptOf.throw, bind, Except.bind]
  by_cases hPage : s.search.defaultPageSize ≤ 0 ∨ s.search.maxPageSize ≤ 0
  · simp [check, hCache, hPage, throw, throwThe, MonadExceptOf.throw, bind, Except.bind]
  by_cases hMax : s.search.maxPageSize < s.search.defaultPageSize
  · simp [check, hCache, hPage, hMax, throw, throwThe, MonadExceptOf.throw]
  · simp [check, hCache, hPage, hMax, pure, Except.pure]

namespace SettingsFile

/-- Valid settings are read from their own text. -/
theorem parse_written {s : Settings} (hFits : s.Fits) (hValid : s.IsValid) :
    parse (written s) = .ok s := by
  have hRead : Settings.codec.readText (written s) = .ok s :=
    Settings.codec_faithful.readText_pretty hFits
  rw [parse, hRead]
  show (do s.check; return s) = _
  rw [(Settings.check_ok_iff s).mpr hValid]
  rfl

/-- What is loaded is valid. -/
theorem isValid_of_load {file : SettingsFile} {s : Settings} (h : file.load = .ok s) :
    s.IsValid := by
  cases file with
  | absent =>
    cases h
    exact ⟨by decide, by decide, by decide⟩
  | text content =>
    obtain ⟨s', -, h⟩ := exists_of_bind h
    obtain ⟨⟨⟩, hCheck, hSame⟩ := exists_of_bind h
    cases hSame
    exact (Settings.check_ok_iff s).mp hCheck
  | binary | directory => cases h

/-- The numbers that are loaded have 64 bits. -/
theorem fits_of_load {file : SettingsFile} {s : Settings} (h : file.load = .ok s) : s.Fits := by
  cases file with
  | absent =>
    cases h
    exact Settings.fits_default
  | text content =>
    obtain ⟨s', hRead, h⟩ := exists_of_bind h
    obtain ⟨⟨⟩, -, hSame⟩ := exists_of_bind h
    cases hSame
    cases hText : Settings.codec.readText content with
    | error e => rw [hText] at hRead; cases hRead
    | ok s' =>
      rw [hText] at hRead
      cases hRead
      exact Settings.codec_faithful.fits_of_readText hText
  | binary | directory => cases h

/-- Saving succeeds for valid settings where a file can be, and leaves their text. -/
theorem save_ok_iff {file file' : SettingsFile} {s : Settings} :
    file.save s = .ok file' ↔ s.IsValid ∧ file ≠ .directory ∧ file' = text (written s) := by
  rw [← Settings.check_ok_iff]
  unfold save
  cases hCheck : s.check with
  | error fault =>
    constructor
    · intro h
      cases h
    · rintro ⟨hOk, -⟩
      cases hOk
  | ok _ =>
    cases file with
    | directory =>
      constructor
      · intro h
        cases h
      · rintro ⟨-, hNot, -⟩
        exact absurd rfl hNot
    | absent | text | binary =>
      constructor
      · intro h
        cases h
        exact ⟨rfl, by simp, rfl⟩
      · rintro ⟨-, -, rfl⟩
        rfl

/-- After settings were saved, they are in the file. -/
theorem load_of_save {file file' : SettingsFile} {s : Settings} (hFits : s.Fits)
    (h : file.save s = .ok file') : file'.load = .ok s := by
  obtain ⟨hValid, -, rfl⟩ := save_ok_iff.mp h
  exact parse_written hFits hValid

/-- A text is read from its bytes. -/
theorem ofBytes_toUTF8 (content : String) : ofBytes content.toUTF8 = text content := by
  have hText : String.fromUTF8? content.toUTF8 = some content := dif_pos content.isValidUTF8
  rw [ofBytes, hText]

end SettingsFile

end MediaLibrary
