import MediaLibrary.Proofs.Library.Agreement

/-!
# Library — saved settings are kept

The check stands on both sides of the file: what it lets in it lets out again. So settings
come back from the file as they were saved, the numbers at the ends of their ranges and
every character of the level included, whatever was in the file before. What the check does
not let in leaves the file alone; and a file that somebody else has written holds the same
settings once they have been saved.

* `settings_are_kept` — saving and loading, on any file.
-/

namespace MediaLibrary

/-- Where there can be a file, saving settings with numbers of 64 bits succeeds exactly if the cache
has a size, and pages have one that is not above the greatest. The file then consists of the bytes
of their text, and loading it gives the settings. Saving that fails changes nothing in the library.
What is loaded from any file can be saved to it, and loaded again. -/
theorem settings_are_kept :
    (∀ s : Settings, s.Fits →
      (∀ file, file ≠ .directory → ((∃ file', SettingsFile.save file s = .ok file') ↔
        1 ≤ s.database.cacheSizeKb ∧ 1 ≤ s.search.defaultPageSize ∧
          s.search.defaultPageSize ≤ s.search.maxPageSize)) ∧
      (∀ file file', SettingsFile.save file s = .ok file' →
        file' = .ofBytes (SettingsFile.written s).toUTF8 ∧ file'.load = .ok s) ∧
      ∀ l e l', (Library.saveSettings s).on l = (.error e, l') → l' = l) ∧
    ∀ file s, SettingsFile.load file = .ok s →
      ∃ file', file.save s = .ok file' ∧ file'.load = .ok s := by
  refine ⟨fun s hFits => ⟨fun file hFile => ?_, fun file file' hSave => ⟨?_, ?_⟩,
    fun _ _ _ => Library.eq_of_saveSettings_error⟩, fun file s hLoad => ?_⟩
  · constructor
    · rintro ⟨file', hSave⟩
      have hValid := (SettingsFile.save_ok_iff.mp hSave).1
      exact ⟨hValid.cache, hValid.page, hValid.pageMax⟩
    · rintro ⟨hCache, hPage, hMax⟩
      exact ⟨_, SettingsFile.save_ok_iff.mpr ⟨⟨hCache, hPage, hMax⟩, hFile, rfl⟩⟩
  · rw [SettingsFile.ofBytes_toUTF8]
    exact (SettingsFile.save_ok_iff.mp hSave).2.2
  · exact SettingsFile.load_of_save hFits hSave
  · have hFile : file ≠ .directory := by
      rintro rfl
      cases hLoad
    have hSave := SettingsFile.save_ok_iff.mpr ⟨SettingsFile.isValid_of_load hLoad, hFile, rfl⟩
    exact ⟨_, hSave, SettingsFile.load_of_save (SettingsFile.fits_of_load hLoad) hSave⟩

/-- Settings with the greatest numbers, and with quotes, a backslash and control characters in the
level. -/
def Settings.extreme : Settings where
  search :=
    { defaultPageSize := 9223372036854775807, maxPageSize := 9223372036854775807 }
  database :=
    { busyTimeoutMs := 18446744073709551615, cacheSizeKb := 9223372036854775807 }
  logging := { level := "\"\\\u0000\n\u001f\u2028", fileLogging := false }

/-- They replace what is no text at all. A page of no media is refused, and a file that leaves out
most of the settings is completed. -/
theorem settings_are_kept_extreme :
    Settings.extreme.Fits ∧
      (∃ file, SettingsFile.save (.binary [0xff]) Settings.extreme = .ok file ∧
        file.load = .ok Settings.extreme) ∧
      (¬∃ file, SettingsFile.save .absent { search := { defaultPageSize := 0 } } = .ok file) ∧
      ∃ file, SettingsFile.save (.text "\x7b\"search\":\x7b\"maxPageSize\":30\x7d\x7d")
          { search := { maxPageSize := 30 } } = .ok file ∧
        file.load = .ok { search := { maxPageSize := 30 } } := by
  have hFits : Settings.extreme.Fits := ⟨⟨by decide, by decide⟩, ⟨by decide, by decide⟩⟩
  have hLoad : SettingsFile.load (.text "\x7b\"search\":\x7b\"maxPageSize\":30\x7d\x7d") =
      .ok { search := { maxPageSize := 30 } } := by
    cbv
  obtain ⟨hSaves, hKept, -⟩ := settings_are_kept.1 _ hFits
  have hSmall : Settings.Fits { search := { defaultPageSize := 0 } } :=
    ⟨⟨by decide, by decide⟩, Settings.fits_default.database⟩
  obtain ⟨file, hSave⟩ := (hSaves (.binary [0xff]) (by simp)).mpr (by decide)
  refine ⟨hFits, ⟨file, hSave, (hKept _ _ hSave).2⟩, ?_, settings_are_kept.2 _ _ hLoad⟩
  rw [(settings_are_kept.1 _ hSmall).1 .absent (by simp)]
  decide

end MediaLibrary
