import MediaLibrary.Proofs.Search.Stages
import MediaLibrary.Proofs.Settings.File

/-!
# Library — the settings in force are those of the file

An open library has its settings twice: in the file, and in force for searches. The
two are written one after the other, and only after the settings were checked; so
whatever is done with the library, in whatever order, and whether it succeeds or
fails, they agree and are valid. That is why a search without a limit cannot be
refused for the size of its page.

* `Command.KeepsSettings` — commands that leave the settings alone, with rules for their parts;
* `Library.Action`, `Library.afterAll` — what can be done with a library, and runs of it;
* `Library.saveSettings_on`, `Library.resetSettings_on` — new settings, or none at all;
* `Library.Action.after_agrees`, `Library.afterAll_agrees` — one step, and a run;
* `settings_agree` — after an opening and a run.
-/

namespace MediaLibrary

open Database (ready)

-- ---------------------------------------------------------------------------
-- Commands that leave the settings alone
-- ---------------------------------------------------------------------------

namespace Command

variable {α β : Type}

/-- The library after a command, whether it succeeded or failed. -/
def after (command : Command α) (l : Library) : Library :=
  (command.on l).2

/-- The command changes neither the file of the settings nor those in force. -/
def KeepsSettings (command : Command α) : Prop :=
  ∀ l, (command.after l).directory.settings = l.directory.settings ∧
    (command.after l).live = l.live

/-- To do nothing keeps the settings. -/
theorem KeepsSettings.pure (a : α) : KeepsSettings (pure a) :=
  fun _ => ⟨rfl, rfl⟩

theorem KeepsSettings.get : KeepsSettings (get : Command Library) :=
  fun _ => ⟨rfl, rfl⟩

theorem KeepsSettings.ofExcept (outcome : Except Error α) :
    KeepsSettings (MonadExcept.ofExcept outcome) := by
  intro l
  rw [after, on_ofExcept]
  exact ⟨rfl, rfl⟩

/-- Work on the database is none on the settings. -/
theorem KeepsSettings.work (w : Work α) : KeepsSettings (Command.work w) := by
  intro l
  rw [after, on_work]
  exact ⟨rfl, rfl⟩

/-- Commands that keep the settings do so one after the other. -/
theorem KeepsSettings.bind {command : Command α} {next : α → Command β}
    (h : command.KeepsSettings) (hNext : ∀ a, (next a).KeepsSettings) :
    (command >>= next).KeepsSettings := by
  intro l
  have hFirst := h l
  rw [after] at hFirst ⊢
  rw [on_bind]
  rcases hOn : command.on l with ⟨_ | a, l'⟩ <;> rw [hOn] at hFirst
  · exact hFirst
  · obtain ⟨hFile, hLive⟩ := hNext a l'
    exact ⟨hFile.trans hFirst.1, hLive.trans hFirst.2⟩

end Command

namespace Library

open Command

/-- A search keeps the settings. -/
theorem searchMedia_keepsSettings (query : String) (filters : Option Filters)
    (limit afterId beforeId offset : Option Int) :
    (searchMedia query filters limit afterId beforeId offset).KeepsSettings :=
  .bind .get fun _ => .bind .get fun _ => .work _

theorem tagMedia_keepsSettings (mediaId : Int) (input : String) (now : Int) :
    (tagMedia mediaId input now).KeepsSettings :=
  .bind (.ofExcept _) fun _ => .work _

theorem loadSettings_keepsSettings : loadSettings.KeepsSettings :=
  .bind .get fun _ => .ofExcept _

-- ---------------------------------------------------------------------------
-- New settings
-- ---------------------------------------------------------------------------

/-- Settings that can be saved are in the file and in force then. Others change nothing. -/
theorem saveSettings_on (s : Settings) (l : Library) :
    (saveSettings s).on l =
      match l.directory.settings.save s with
      | .ok file => (.ok (), { l with directory.settings := file, live := s })
      | .error fault => (.error (.settings fault), l) := by
  simp only [saveSettings, on_bind, on_get, on_ofExcept]
  cases l.directory.settings.save s <;> rfl

/-- A reset saves the default settings, and fails as saving them fails. -/
theorem resetSettings_on (l : Library) :
    resetSettings.on l =
      (((saveSettings {}).on l).1.map fun _ => {}, ((saveSettings {}).on l).2) := by
  rw [resetSettings, on_bind]
  rcases (saveSettings {}).on l with ⟨_ | _, l'⟩ <;> rfl

/-- Settings that cannot be saved change nothing. -/
theorem eq_of_saveSettings_error {l l' : Library} {s : Settings} {e : Error}
    (h : (saveSettings s).on l = (.error e, l')) : l' = l := by
  rw [saveSettings_on] at h
  split at h
  · cases h
  · exact (Prod.mk.inj h).2.symm

theorem eq_of_resetSettings_error {l l' : Library} {e : Error}
    (h : resetSettings.on l = (.error e, l')) : l' = l := by
  rw [resetSettings_on] at h
  rcases hSave : (saveSettings {}).on l with ⟨_ | _, l₁⟩ <;> rw [hSave] at h <;> cases h
  exact eq_of_saveSettings_error hSave

-- ---------------------------------------------------------------------------
-- Runs
-- ---------------------------------------------------------------------------

/-- What can be done with an open library: its commands, and any work on its database. The settings
that are saved come with numbers of 64 bits. -/
inductive Action : Type 1 where
  | searchMedia (query : String) (filters : Option Filters)
      (limit afterId beforeId offset : Option Int)
  | parseQuery (text : String)
  | parseFilters (text : String)
  | stats
  | tagByName (name : String)
  | suggestTags (start : String) (limit : Option Int)
  | tagsFor (mediaId : Int)
  | tagMedia (mediaId : Int) (input : String) (now : Int)
  | untagMedia (mediaId tagId now : Int)
  | loadSettings
  | saveSettings (settings : Settings) (fits : settings.Fits)
  | resetSettings
  | storage {α : Type} (work : Work α)

/-- The library after an action, whether it succeeded or failed. -/
def Action.after (l : Library) : Action → Library
  | searchMedia query filters limit afterId beforeId offset =>
    (Library.searchMedia query filters limit afterId beforeId offset).after l
  | parseQuery text => (Library.parseQuery text).after l
  | parseFilters text => (Library.parseFilters text).after l
  | stats => Library.stats.after l
  | tagByName name => (Library.tagByName name).after l
  | suggestTags start limit => (Library.suggestTags start limit).after l
  | tagsFor mediaId => (Library.tagsFor mediaId).after l
  | tagMedia mediaId input now => (Library.tagMedia mediaId input now).after l
  | untagMedia mediaId tagId now => (Library.untagMedia mediaId tagId now).after l
  | loadSettings => Library.loadSettings.after l
  | saveSettings settings _ => (Library.saveSettings settings).after l
  | resetSettings => Library.resetSettings.after l
  | storage work => (Command.work work).after l

/-- The library after a run of actions. -/
def afterAll (l : Library) (actions : List Action) : Library :=
  actions.foldl Action.after l

/-- The file holds the settings in force. -/
def Agrees (l : Library) : Prop :=
  l.directory.settings.load = .ok l.live

/-- A command that keeps the settings keeps the agreement. -/
theorem Agrees.of_keepsSettings {α : Type} {l : Library} (h : l.Agrees) {command : Command α}
    (hKeeps : command.KeepsSettings) : (command.after l).Agrees := by
  obtain ⟨hFile, hLive⟩ := hKeeps l
  rw [Agrees, hFile, hLive]
  exact h

/-- Settings that were saved are those of the file, and if they were not, nothing has changed. -/
theorem Agrees.saveSettings {l : Library} (h : l.Agrees) {s : Settings} (hFits : s.Fits) :
    ((Library.saveSettings s).after l).Agrees := by
  rw [after, saveSettings_on]
  cases hSave : l.directory.settings.save s with
  | error fault => exact h
  | ok file => exact SettingsFile.load_of_save hFits hSave

/-- Defaults that are saved are also used. -/
theorem Agrees.resetSettings {l : Library} (h : l.Agrees) :
    (Library.resetSettings.after l).Agrees := by
  rw [after, resetSettings_on]
  exact h.saveSettings Settings.fits_default

/-- Every action keeps the agreement. -/
theorem Action.after_agrees {l : Library} (h : l.Agrees) (action : Action) :
    (action.after l).Agrees := by
  cases action with
  | saveSettings settings fits => exact h.saveSettings fits
  | resetSettings => exact h.resetSettings
  | searchMedia => exact h.of_keepsSettings (searchMedia_keepsSettings _ _ _ _ _ _)
  | tagMedia => exact h.of_keepsSettings (tagMedia_keepsSettings _ _ _)
  | loadSettings => exact h.of_keepsSettings loadSettings_keepsSettings
  | parseQuery => exact h.of_keepsSettings (.ofExcept _)
  | parseFilters => exact h.of_keepsSettings (.pure _)
  | stats | tagByName | suggestTags | tagsFor | untagMedia | storage =>
    exact h.of_keepsSettings (.work _)

theorem afterAll_agrees {l : Library} (h : l.Agrees) (actions : List Action) :
    (l.afterAll actions).Agrees := by
  induction actions generalizing l with
  | nil => exact h
  | cons action actions ih => exact ih (action.after_agrees h)

/-- A library is opened with the settings of its file. -/
theorem agrees_of_start {opening : Opening} {directory : DataDirectory} {store : Option Store}
    {now : Int} {l : Library} (h : start opening directory store now = .ok l) : l.Agrees := by
  obtain ⟨settings, hSettings, h⟩ := exists_of_bind h
  have hLoad : directory.settings.load = .ok settings := by
    unfold DataDirectory.loadSettings at hSettings
    split at hSettings
    · cases hSettings
    · cases hFile : directory.settings.load with
      | error fault => rw [hFile] at hSettings; cases hSettings
      | ok s => rw [hFile] at hSettings; cases hSettings; rfl
  have hBegun : (directory.beginLogging opening settings.logging now).settings =
      directory.settings := by
    unfold DataDirectory.beginLogging
    split <;> rfl
  have hOpen : l.directory = directory.beginLogging opening settings.logging now ∧
      l.live = settings := by
    cases opening with
    | inMemory =>
      cases h
      exact ⟨rfl, rfl⟩
    | onDisk | logging =>
      obtain ⟨_, -, h⟩ := exists_of_bind h
      cases h
      exact ⟨rfl, rfl⟩
  rw [Agrees, hOpen.1, hBegun, hOpen.2, hLoad]

-- ---------------------------------------------------------------------------
-- Searches without a limit
-- ---------------------------------------------------------------------------

/-- A search without a limit asks for a page of the default size. -/
theorem searchMedia_on (l : Library) (query : String) (filters : Option Filters)
    (afterId beforeId offset : Option Int) :
    (searchMedia query filters none afterId beforeId offset).on l =
      (search ⟨query, filters.getD {}, l.live.search.defaultPageSize, afterId, beforeId,
        offset⟩).on l := by
  simp only [searchMedia, on_bind, on_get, Option.getD_none]

end Library

/-- With valid settings, a search without a limit that is in order gets as far as the database, and
its page holds no more media than the default size. -/
theorem Library.searchMedia_cases {l : Library} (hValid : l.live.IsValid) {query : String}
    {q : Query} (hQuery : Query.parse query = .ok q) (filters : Option Filters)
    {afterId beforeId offset : Option Int}
    (hAnchors : [afterId, beforeId, offset].countP (·.isSome) ≤ 1) (hOffset : ∀ n ∈ offset, 0 ≤ n) :
    ∃ sel w, Selection.compile q (filters.getD {}) = .ok sel ∧ 1 ≤ w.limit ∧
      w.limit ≤ l.live.search.defaultPageSize ∧
      (searchMedia query filters none afterId beforeId offset).on l =
        (l.database.fetch sel w, l) := by
  rw [searchMedia_on, search_on]
  set r : SearchRequest := ⟨query, filters.getD {}, l.live.search.defaultPageSize, afterId,
    beforeId, offset⟩
  have hFine : ¬r.IsFaulty := by
    have hPage := hValid.page
    rintro (hLimit | hSeveral | ⟨n, hn, hNegative⟩)
    · exact absurd hLimit (by show ¬l.live.search.defaultPageSize ≤ 0; omega)
    · exact absurd hSeveral (Nat.not_lt.mpr hAnchors)
    · exact absurd hNegative (Int.not_lt.mpr (hOffset n hn))
  obtain ⟨hFaulty, -⟩ | ⟨-, w, sel, hWindow, hSel, hPlan⟩ :=
    SearchRequest.plan_cases (r := r) hQuery l.live.search.maxPageSize
  · exact absurd hFaulty hFine
  · have hLimit := Window.limit_eq_of_make hWindow
    refine ⟨sel, w, hSel, Window.limit_of_make hWindow, ?_, by rw [hPlan]; rfl⟩
    rw [hLimit.2]
    exact Int.min_le_left _ _

/-- After a successful opening and any run of commands and work on the database, the settings in
force are the ones that loading the file gives, and they are valid. Saving or resetting that fails
changes nothing. So a search without a limit whose query can be read, with one place at most and no
negative offset, fails at nothing but the database; its page holds no more media than the default
size, and it has a page where the tables exist, the lock works, all rows stand for media and the
query is not too large for the store. -/
theorem settings_agree {opening : Opening} {directory : DataDirectory} {store : Option Store}
    {now : Int} {l₀ l : Library} (hStart : Library.start opening directory store now = .ok l₀)
    (actions : List Library.Action) (hRun : l₀.afterAll actions = l) :
    (l.directory.settings.load = .ok l.live ∧ Library.loadSettings.on l = (.ok l.live, l)) ∧
    (1 ≤ l.live.search.defaultPageSize ∧
      l.live.search.defaultPageSize ≤ l.live.search.maxPageSize ∧
      1 ≤ l.live.database.cacheSizeKb) ∧
    (∀ s e l', (Library.saveSettings s).on l = (.error e, l') → l' = l) ∧
    (∀ e l', Library.resetSettings.on l = (.error e, l') → l' = l) ∧
    ∀ query q filters afterId beforeId offset, Query.parse query = .ok q →
      [afterId, beforeId, offset].countP (·.isSome) ≤ 1 → (∀ n ∈ offset, 0 ≤ n) →
      ∃ outcome, (Library.searchMedia query filters none afterId beforeId offset).on l =
          (outcome, l) ∧
        (∀ e, outcome = .error e → e = .defect .brokenLock ∨ ∃ fault, e = .storage fault) ∧
        (∀ page, outcome = .ok page →
          (page.media.length : Int) ≤ l.live.search.defaultPageSize) ∧
        ∀ s sel, l.database = ready s → (∀ row ∈ s.media, ∃ m, row.decode = .ok m) →
          Selection.compile q (filters.getD {}) = .ok sel → sel.Fits →
          ∃ page, outcome = .ok page := by
  have hAgrees : l.Agrees := hRun ▸ Library.afterAll_agrees (Library.agrees_of_start hStart) actions
  have hValid : l.live.IsValid := SettingsFile.isValid_of_load hAgrees
  refine ⟨⟨hAgrees, ?_⟩, ⟨hValid.page, hValid.pageMax, hValid.cache⟩,
    fun _ _ _ => Library.eq_of_saveSettings_error, fun _ _ => Library.eq_of_resetSettings_error, ?_⟩
  · have hLoad : l.directory.settings.load = .ok l.live := hAgrees
    simp only [Library.loadSettings, Command.on_bind, Command.on_get, Command.on_ofExcept, hLoad]
    rfl
  · intro query q filters afterId beforeId offset hQuery hAnchors hOffset
    obtain ⟨sel, w, hSel, hRoom, hDefault, hOn⟩ :=
      Library.searchMedia_cases hValid hQuery filters hAnchors hOffset
    refine ⟨_, hOn, fun e => Database.fault_of_fetch, ?_, ?_⟩
    · intro page hPage
      exact Int.le_trans (Database.length_of_fetch hRoom hPage) hDefault
    · intro s sel' hReady hRows hSel' hFits
      obtain rfl := Except.ok.inj (hSel.symm.trans hSel')
      rw [hReady]
      exact Database.exists_fetch hRows hSel hFits hRoom

/-- Pages of one medium are saved, then a default size above the greatest is refused. -/
def Library.smallPages : List Library.Action :=
  [.saveSettings { search := { defaultPageSize := 1, maxPageSize := 2 } }
      ⟨⟨by decide, by decide⟩, Settings.fits_default.database⟩,
    .saveSettings { search := { defaultPageSize := 3, maxPageSize := 2 } }
      ⟨⟨by decide, by decide⟩, Settings.fits_default.database⟩]

/-- The pages that were saved are those of the file and of a search, and what was refused is
nowhere. -/
theorem settings_agree_smallPages :
    ∃ l₀, Library.start .inMemory {} Database.taggedImage.store 0 = .ok l₀ ∧
      (l₀.afterAll Library.smallPages).directory.settings.load =
        .ok { search := { defaultPageSize := 1, maxPageSize := 2 } } ∧
      ∃ page, ((Library.searchMedia "cat" none none none none (some 0)).on
          (l₀.afterAll Library.smallPages)).1 = .ok page ∧ page.media.length ≤ 1 := by
  obtain ⟨s, hStore, hSound⟩ := Database.reachable_taggedImage.sound
  have hStart : Library.start .inMemory {} Database.taggedImage.store 0 =
      .ok ⟨.inMemory, {}, {}, { store := Database.taggedImage.store }⟩ := rfl
  have hQuery : Query.parse "cat" = .ok { included := ["cat"] } := by cbv
  obtain ⟨⟨hLoad, -⟩, -, -, -, hSearch⟩ := settings_agree hStart Library.smallPages rfl
  obtain ⟨outcome, hOn, -, hRoom, hPage⟩ :=
    hSearch "cat" _ none none none (some 0) hQuery (by decide) (by simp)
  have hReady : ({ store := Database.taggedImage.store } : Database) = ready s := by
    rw [hStore]
    rfl
  obtain ⟨sel, hSel⟩ := Selection.exists_compile_of_parse hQuery {}
  have hFits : sel.Fits := Selection.fits_of_compile hSel (by decide +kernel)
  obtain ⟨page, rfl⟩ :=
    hPage s sel hReady (fun row hRow => ⟨row.read, hSound.decode_media hRow⟩) hSel hFits
  have hOne : (page.media.length : Int) ≤ 1 := hRoom page rfl
  exact ⟨_, hStart, hLoad, page, by rw [hOn], by exact_mod_cast hOne⟩

end MediaLibrary
