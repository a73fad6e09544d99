import X0xCompute.Config.Store

/-!
# Storing any configuration

Which configurations can be stored, and the command of `x0x-compute.rs` that prints the
active configuration and may write the default one before.
-/

namespace X0xCompute

open Lib
open Lib.TomlValue (Same)

/-- What the command line tool fails with. -/
inductive CliError where
  | compute (error : ComputeError)
  | toml (error : String)

namespace ComputeConfig

variable {Disk : Type}

/-- `Command::PrintConfig`: the text that is printed. -/
def printConfig (platform : Platform Disk) (path : Option PathBuf) (writeDefault : Bool) :
    EStateM CliError Disk String := do
  let disk ← get
  match loadOrDefault platform path disk with
  | .error e => throw (.compute e)
  | .ok config =>
    if writeDefault then
      let _ ← (ComputeConfig.writeDefault platform path).adaptExcept CliError.compute
    match platform.toml.toStringPretty (codec platform.sockets) config with
    | .error e => throw (.toml e)
    | .ok text => return text

variable {platform : Platform Disk}

/-- The printer takes exactly the storable configurations. -/
theorem toStringPretty_eq_ok_iff {config : ComputeConfig} :
    (∃ text, platform.toml.toStringPretty (codec platform.sockets) config = .ok text) ↔
      config.Storable := by
  refine Iff.trans ?_ (@codec_encodes_iff platform.sockets config)
  unfold TomlCrate.toStringPretty Codec.Encodes
  cases hencode : (codec platform.sockets).encode config with
  | error e => simp
  | ok v =>
    obtain ⟨entries, rfl⟩ := Fields.exists_table_of_record_encode hencode
    simp

theorem not_storable_iff {config : ComputeConfig} :
    ¬ config.Storable ↔
      (∃ path ∈ config.paths, utf8Text? path.bytes = none) ∨
        2 ^ 63 ≤ config.resourceAnnounceIntervalSecs.toNat := by
  have htext : ∀ path : PathBuf,
      (¬ ∃ text, path.text = .ok text) ↔ utf8Text? path.bytes = none := by
    intro path
    unfold PathBuf.text
    cases utf8Text? path.bytes <;> simp
  by_cases hpaths : ∀ path ∈ config.paths, ∃ text, path.text = .ok text
  · have hnone : ¬ ∃ path ∈ config.paths, utf8Text? path.bytes = none := by
      intro h
      rcases h with ⟨path, hpath, hbytes⟩
      exact (htext path).mpr hbytes (hpaths path hpath)
    refine ⟨?_, ?_⟩
    · intro h
      exact Or.inr (le_of_not_gt fun hinterval => h ⟨hpaths, hinterval⟩)
    · intro h hstorable
      exact absurd hstorable.interval (not_lt.mpr (h.resolve_left hnone))
  · refine iff_of_true (fun h => hpaths h.paths) (Or.inl ?_)
    simp only [not_forall] at hpaths
    rcases hpaths with ⟨path, hpath, hbytes⟩
    exact ⟨path, hpath, (htext path).mp hbytes⟩

/-- What is printed of a configuration is read as that configuration. -/
theorem fromStr_toStringPretty {config : ComputeConfig}
    (hkeeps : (codec platform.sockets).Keeps config)
    (htoml : ∀ entries, (codec platform.sockets).encode config = .ok (.table entries) →
      platform.toml.Keeps entries) {text : String}
    (hprint : platform.toml.toStringPretty (codec platform.sockets) config = .ok text) :
    platform.toml.fromStr (codec platform.sockets) text = .ok config := by
  obtain ⟨entries, hencode, hdecode⟩ := exists_table_of_keeps hkeeps
  rw [TomlCrate.toStringPretty_of_encode hencode, Except.ok.injEq] at hprint
  obtain ⟨entries', hparse, hsame⟩ := htoml entries hencode
  rw [← hprint]
  exact TomlCrate.fromStr_eq_ok_iff.mpr ⟨entries', hparse, hdecode entries' hsame⟩

/-- Writing once the directory is there. -/
theorem writeToPath_of_parent {config : ComputeConfig} {path parent : PathBuf}
    {before between : Disk} (hparent : path.parent = some parent)
    (hdir : (platform.files.createDirAll parent).run before = .ok () between) :
    (writeToPath platform config path).run before =
      match platform.toml.toStringPretty (codec platform.sockets) config with
      | .error e => .error (.tomlEncode e) between
      | .ok raw => ((platform.files.write path raw).adaptExcept ComputeError.io).run between := by
  unfold writeToPath
  rw [hparent]
  simp only [EStateM.run_bind, EStateM.run_adaptExcept, hdir]
  cases platform.toml.toStringPretty (codec platform.sockets) config with
  | error e => rfl
  | ok raw => simp only [EStateM.run_adaptExcept]

/-- A configuration is refused by the encoder exactly when it is not storable, once its
directory could be made. -/
theorem writeToPath_refuses_iff {config : ComputeConfig} {path : PathBuf} {before : Disk} :
    (∃ e after, (writeToPath platform config path).run before = .error (.tomlEncode e) after) ↔
      (∃ parent between, path.parent = some parent ∧
        (platform.files.createDirAll parent).run before = .ok () between) ∧
      ¬ config.Storable := by
  cases hparent : path.parent with
  | none =>
    have hrun : (writeToPath platform config path).run before =
        .error (.missingParentDirectory path) before := by
      unfold writeToPath
      rw [hparent]
      rfl
    simp [hrun]
  | some parent =>
    cases hdir : (platform.files.createDirAll parent).run before with
    | error e between =>
      have hrun : (writeToPath platform config path).run before = .error (.io e) between := by
        unfold writeToPath
        rw [hparent]
        simp only [EStateM.run_bind, EStateM.run_adaptExcept, hdir]
      simp [hrun, hdir]
    | ok u between =>
      rw [writeToPath_of_parent hparent hdir, ← @toStringPretty_eq_ok_iff _ platform]
      cases platform.toml.toStringPretty (codec platform.sockets) config with
      | error e => simp [hdir]
      | ok raw =>
        simp only [EStateM.run_adaptExcept]
        cases (platform.files.write path raw).run between <;> simp

/-- A configuration that was written is storable. -/
theorem storable_of_writeToPath {config : ComputeConfig} {path : PathBuf} {before after : Disk}
    (hwritten : (writeToPath platform config path).run before = .ok () after) :
    config.Storable := by
  have heffect := writeToPath_effect platform config path before
  rw [hwritten] at heffect
  cases heffect with
  | written hprint _ => exact toStringPretty_eq_ok_iff.mp ⟨_, hprint⟩

/-- Storing any configuration. The encoder refuses exactly the configurations with a path
that is not UTF-8 or an interval of 2^63 seconds or more, once the directory could be made;
what is written was storable, and if its address is parsed from the text it is displayed as,
it is loaded again, equal in every field; and everything that is loaded from a file is
storable. -/
theorem any_config_saved (hsockets : platform.sockets.RoundTrips)
    (hfiles : platform.files.KeepsWrites) {config : ComputeConfig}
    (htoml : ∀ entries, (codec platform.sockets).encode config = .ok (.table entries) →
      platform.toml.Keeps entries) (path : PathBuf) (before : Disk) :
    ((∃ e after,
        (writeToPath platform config path).run before = .error (.tomlEncode e) after) ↔
      (∃ parent between, path.parent = some parent ∧
        (platform.files.createDirAll parent).run before = .ok () between) ∧
      ((∃ dir ∈ config.paths, utf8Text? dir.bytes = none) ∨
        2 ^ 63 ≤ config.resourceAnnounceIntervalSecs.toNat)) ∧
    (∀ after, (writeToPath platform config path).run before = .ok () after →
      config.Storable ∧
        (platform.sockets.parse (platform.sockets.display config.apiBind) =
            some config.apiBind →
          loadOrDefault platform (some path) after = .ok config)) ∧
    ∀ source disk,
      platform.files.pathExists (source.getD (defaultPath platform)) disk = true →
      loadOrDefault platform source disk = .ok config → config.Storable := by
  refine ⟨?_, ?_, ?_⟩
  · rw [writeToPath_refuses_iff, not_storable_iff]
  · intro after hwritten
    have hstorable := storable_of_writeToPath hwritten
    refine ⟨hstorable, ?_⟩
    intro hsocket
    exact loadOrDefault_of_writeToPath (codec_keeps hstorable hsocket) hfiles htoml hwritten
  · intro source disk hexists hload
    have hkeeps := keeps_of_loadOrDefault hsockets hexists hload
    exact codec_encodes_iff.mp hkeeps.encodes

theorem any_config_saved_laptop :
    ∃ after,
      (writeToPath laptop laptopConfig (.ofText "/home/me/backup.toml")).run [] = .ok () after ∧
      loadOrDefault laptop (some (.ofText "/home/me/backup.toml")) after = .ok laptopConfig := by
  have hsaved := any_config_saved laptop_sockets_roundTrips FileSystem.newestFirst_keepsWrites
    (fun _ => laptop_toml_keeps) (.ofText "/home/me/backup.toml") []
  exact ⟨_, rfl, (hsaved.2.1 _ rfl).2 rfl⟩

/-! ## Printing the configuration -/

/-- A configuration that does not load ends the command before anything is written. -/
theorem printConfig_of_error {path : Option PathBuf} {disk : Disk} {e : ComputeError}
    (hload : loadOrDefault platform path disk = .error e) (writeDefault : Bool) :
    (printConfig platform path writeDefault).run disk = .error (.compute e) disk := by
  unfold printConfig
  simp only [EStateM.run_bind, EStateM.run_get, hload]
  rfl

/-- Without the flag the command reads the disk only. -/
theorem printConfig_false_iff {path : Option PathBuf} {disk after : Disk}
    {config : ComputeConfig} (hload : loadOrDefault platform path disk = .ok config)
    {text : String} :
    (printConfig platform path false).run disk = .ok text after ↔
      after = disk ∧ platform.toml.toStringPretty (codec platform.sockets) config = .ok text := by
  unfold printConfig
  simp only [EStateM.run_bind, EStateM.run_get, hload]
  cases platform.toml.toStringPretty (codec platform.sockets) config with
  | error e =>
    have hthrow : (throw (CliError.toml e) : EStateM CliError Disk String).run disk =
        .error (.toml e) disk := rfl
    simp [hthrow]
  | ok raw => simp [and_comm, @eq_comm _ disk]

/-- With the flag the default configuration is written and the loaded one is printed. -/
theorem printConfig_true_iff {path : Option PathBuf} {disk after : Disk}
    {config : ComputeConfig} (hload : loadOrDefault platform path disk = .ok config)
    {text : String} :
    (printConfig platform path true).run disk = .ok text after ↔
      (writeToPath platform (.default (defaultDataDir platform))
          (path.getD (defaultPath platform))).run disk = .ok () after ∧
        platform.toml.toStringPretty (codec platform.sockets) config = .ok text := by
  unfold printConfig ComputeConfig.writeDefault
  simp only [EStateM.run_bind, EStateM.run_get, hload, if_true, EStateM.run_adaptExcept]
  cases (writeToPath platform (.default (defaultDataDir platform))
      (path.getD (defaultPath platform))).run disk with
  | error e between => simp
  | ok u between =>
    cases platform.toml.toStringPretty (codec platform.sockets) config with
    | error e =>
      have hthrow : (throw (CliError.toml e) : EStateM CliError Disk String).run between =
          .error (.toml e) between := rfl
      simp [hthrow]
    | ok raw => simp [and_comm]

/-- What is loaded, from a file or for want of one, is kept by the codec if it can be stored. -/
theorem keeps_of_storable (hsockets : platform.sockets.RoundTrips)
    (haddr : platform.sockets.parse (platform.sockets.display
      (ComputeConfig.default (defaultDataDir platform)).apiBind) =
        some (ComputeConfig.default (defaultDataDir platform)).apiBind)
    {path : Option PathBuf} {disk : Disk} {config : ComputeConfig}
    (hload : loadOrDefault platform path disk = .ok config) (hstorable : config.Storable) :
    (codec platform.sockets).Keeps config := by
  by_cases hexists : platform.files.pathExists (path.getD (defaultPath platform)) disk = true
  · exact keeps_of_loadOrDefault hsockets hexists hload
  · have hdefault : config = .default (defaultDataDir platform) := by
      simp only [loadOrDefault, hexists] at hload
      exact (Except.ok.inj hload).symm
    rw [hdefault] at hstorable ⊢
    exact codec_keeps hstorable haddr

/-- What `print-config` prints and leaves behind. If the active configuration does not load,
nothing is written. Otherwise the command succeeds on a file that is there, and whenever it
succeeds, it prints a text that is read as the configuration that was active when it started;
without the flag the disk is as it was; and with the flag the default configuration is what is
loaded from then on, so that the same command without the flag prints that. -/
theorem print_config_runs (hsockets : platform.sockets.RoundTrips)
    (hfiles : platform.files.KeepsWrites)
    {path : Option PathBuf} {disk : Disk}
    (htoml : ∀ config, loadOrDefault platform path disk = .ok config ∨
        config = .default (defaultDataDir platform) →
      ∀ entries, (codec platform.sockets).encode config = .ok (.table entries) →
        platform.toml.Keeps entries)
    (haddr : platform.sockets.parse (platform.sockets.display
      (ComputeConfig.default (defaultDataDir platform)).apiBind) =
        some (ComputeConfig.default (defaultDataDir platform)).apiBind) :
    (∀ e, loadOrDefault platform path disk = .error e → ∀ writeDefault,
      (printConfig platform path writeDefault).run disk = .error (.compute e) disk) ∧
    ∀ config, loadOrDefault platform path disk = .ok config →
      (platform.files.pathExists (path.getD (defaultPath platform)) disk = true →
        ∃ text, (printConfig platform path false).run disk = .ok text disk) ∧
      (∀ text after, (printConfig platform path false).run disk = .ok text after →
        after = disk ∧ platform.toml.fromStr (codec platform.sockets) text = .ok config) ∧
      ∀ text after, (printConfig platform path true).run disk = .ok text after →
        platform.toml.fromStr (codec platform.sockets) text = .ok config ∧
        loadOrDefault platform path after = .ok (.default (defaultDataDir platform)) ∧
        ∃ text', (printConfig platform path false).run after = .ok text' after ∧
          platform.toml.fromStr (codec platform.sockets) text' =
            .ok (.default (defaultDataDir platform)) := by
  refine ⟨fun e hload writeDefault => printConfig_of_error hload writeDefault, ?_⟩
  intro config hload
  have hread {text : String}
      (hprint : platform.toml.toStringPretty (codec platform.sockets) config = .ok text) :
      platform.toml.fromStr (codec platform.sockets) text = .ok config := by
    have hstorable := toStringPretty_eq_ok_iff.mp ⟨text, hprint⟩
    exact fromStr_toStringPretty (keeps_of_storable hsockets haddr hload hstorable)
      (htoml config (Or.inl hload)) hprint
  refine ⟨?_, ?_, ?_⟩
  · intro hexists
    have hkeeps := keeps_of_loadOrDefault hsockets hexists hload
    obtain ⟨text, hprint⟩ := toStringPretty_eq_ok_iff.mpr (codec_encodes_iff.mp hkeeps.encodes)
    exact ⟨text, (printConfig_false_iff hload).mpr ⟨rfl, hprint⟩⟩
  · intro text after hrun
    obtain ⟨hsame, hprint⟩ := (printConfig_false_iff hload).mp hrun
    exact ⟨hsame, hread hprint⟩
  · intro text after hrun
    obtain ⟨hwritten, hprint⟩ := (printConfig_true_iff hload).mp hrun
    have hstorable := storable_of_writeToPath hwritten
    have hdefault := codec_keeps hstorable haddr
    have hloads : loadOrDefault platform path after =
        .ok (.default (defaultDataDir platform)) :=
      loadOrDefault_of_writeToPath hdefault hfiles (htoml _ (Or.inr rfl)) hwritten
    obtain ⟨text', hprint'⟩ := toStringPretty_eq_ok_iff.mpr hstorable
    exact ⟨hread hprint, hloads, text', (printConfig_false_iff hloads).mpr ⟨rfl, hprint'⟩,
      fromStr_toStringPretty hdefault (htoml _ (Or.inr rfl)) hprint'⟩

/-! ## The laptop's configuration gives way to the default one -/

/-- The values of the laptop's default document. -/
def defaultValues : TomlTable :=
  [("api_bind", .string "127.0.0.1:12800"),
    ("data_dir", .string "/home/me/.local/share/x0x-compute"),
    ("capability_topic", .string "x0x.compute.capabilities.v1"),
    ("join_network_on_start", .boolean false),
    ("announce_on_start", .boolean false),
    ("require_user_id", .boolean false),
    ("resource_announce_interval_secs", .integer 60)]

def defaultRuntime : String × TomlValue :=
  ("runtime", .table
    [("backend", .string "skeleton"),
      ("skeleton_response_prefix", .string "x0x-compute skeleton response")])

def defaultText : String :=
  "api_bind = \"127.0.0.1:12800\"\n" ++
  "data_dir = \"/home/me/.local/share/x0x-compute\"\n" ++
  "capability_topic = \"x0x.compute.capabilities.v1\"\n" ++
  "join_network_on_start = false\n" ++
  "announce_on_start = false\n" ++
  "require_user_id = false\n" ++
  "resource_announce_interval_secs = 60\n" ++
  "models = []\n" ++
  "\n[mesh]\n" ++
  "name = \"friends\"\n" ++
  "trusted_friends_only = true\n" ++
  "require_trusted_contacts = true\n" ++
  "prefer_user_identity = true\n" ++
  "\n[runtime]\n" ++
  "backend = \"skeleton\"\n" ++
  "skeleton_response_prefix = \"x0x-compute skeleton response\"\n" ++
  "\n[x0x]\n"

theorem defaultText_ne_printedText : defaultText ≠ printedText := by
  decide +kernel

theorem defaultText_ne_handwrittenText : defaultText ≠ handwrittenText := by
  decide +kernel

/-- A `toml` crate that knows the default document too. -/
def resetToml : TomlCrate where
  parse raw :=
    if raw = defaultText then
      .ok (defaultValues ++
        ("models", .array []) :: [laptopMesh, defaultRuntime, ("x0x", .table [])])
    else laptopToml.parse raw
  pretty entries :=
    match entries.lookup "join_network_on_start" with
    | some (.boolean true) => printedText
    | _ => defaultText
  shapeError _ := "TOML parse error"

theorem resetToml_parse_defaultText :
    resetToml.parse defaultText = .ok (defaultValues ++
      ("models", .array []) :: [laptopMesh, defaultRuntime, ("x0x", .table [])]) := by
  simp only [resetToml, if_pos]

theorem resetToml_parse_of_ne {raw : String} (h : raw ≠ defaultText) :
    resetToml.parse raw = laptopToml.parse raw := by
  simp only [resetToml, if_neg h]

def resetLaptop : Platform (List (PathBuf × String)) :=
  { laptop with toml := resetToml }

theorem resetLaptop_pathExists (path : PathBuf) (text : String) :
    resetLaptop.files.pathExists path [(path, text)] = true := by
  simp [resetLaptop, laptop, FileSystem.newestFirst]

/-- A single document is loaded as what the crate reads in it. -/
theorem resetLaptop_loads {text : String} {entries : TomlTable} {config : ComputeConfig}
    (hparse : resetToml.parse text = .ok entries)
    (hdecode : (codec resetLaptop.sockets).decode (.table entries) = some config)
    (path : PathBuf) :
    loadOrDefault resetLaptop (some path) [(path, text)] = .ok config := by
  have hread : resetLaptop.files.readToString path [(path, text)] = .ok text := by
    simp [resetLaptop, laptop, FileSystem.newestFirst]
  exact (loadOrDefault_eq_ok_iff (resetLaptop_pathExists path text)).mpr
    ⟨text, hread, TomlCrate.fromStr_eq_ok_iff.mpr ⟨entries, hparse, hdecode⟩⟩

theorem encode_laptopConfig :
    (codec resetLaptop.sockets).encode laptopConfig = .ok (.table
      (laptopValues ++ ([laptopMesh, laptopRuntime] ++ ("models", .array []) :: [laptopX0x]))) :=
  rfl

theorem encode_default :
    (codec resetLaptop.sockets).encode (.default (defaultDataDir resetLaptop)) = .ok (.table
      (defaultValues ++
        ([laptopMesh, defaultRuntime] ++ ("models", .array []) :: [("x0x", .table [])]))) :=
  rfl

/-- Both documents keep what they print. -/
theorem resetLaptop_toml_keeps {config : ComputeConfig}
    (hconfig : config = laptopConfig ∨ config = .default (defaultDataDir resetLaptop))
    {entries : TomlTable}
    (h : (codec resetLaptop.sockets).encode config = .ok (.table entries)) :
    resetLaptop.toml.Keeps entries := by
  rcases hconfig with rfl | rfl
  · rw [encode_laptopConfig] at h
    cases h
    exact ⟨_, (resetToml_parse_of_ne defaultText_ne_printedText.symm).trans
      laptopToml_parse_printedText,
      Same.of_perm (List.Perm.append_left _ List.perm_middle) (by decide)⟩
  · rw [encode_default] at h
    cases h
    exact ⟨_, resetToml_parse_defaultText,
      Same.of_perm (List.Perm.append_left _ List.perm_middle) (by decide)⟩

theorem print_config_runs_resetLaptop :
    ∃ text after,
      (printConfig resetLaptop (some (.ofText "/etc/x0x-compute.toml")) true).run
        [(.ofText "/etc/x0x-compute.toml", handwrittenText)] = .ok text after ∧
      resetLaptop.toml.fromStr (codec resetLaptop.sockets) text = .ok laptopConfig ∧
      loadOrDefault resetLaptop (some (.ofText "/etc/x0x-compute.toml")) after =
        .ok (.default (defaultDataDir resetLaptop)) := by
  have hload : loadOrDefault resetLaptop (some (.ofText "/etc/x0x-compute.toml"))
      [(.ofText "/etc/x0x-compute.toml", handwrittenText)] = .ok laptopConfig :=
    resetLaptop_loads ((resetToml_parse_of_ne defaultText_ne_handwrittenText.symm).trans
      laptopToml_parse_handwrittenText) rfl _
  have hkeeps : ∀ config,
      loadOrDefault resetLaptop (some (.ofText "/etc/x0x-compute.toml"))
          [(.ofText "/etc/x0x-compute.toml", handwrittenText)] = .ok config ∨
        config = .default (defaultDataDir resetLaptop) →
      ∀ entries, (codec resetLaptop.sockets).encode config = .ok (.table entries) →
        resetLaptop.toml.Keeps entries := by
    intro config hconfig entries
    apply resetLaptop_toml_keeps
    rw [hload, Except.ok.injEq] at hconfig
    exact hconfig.imp_left Eq.symm
  have hdefault : resetLaptop.toml.toStringPretty (codec resetLaptop.sockets)
      (.default (defaultDataDir resetLaptop)) = .ok defaultText :=
    TomlCrate.toStringPretty_of_encode encode_default
  have hlaptop : resetLaptop.toml.toStringPretty (codec resetLaptop.sockets) laptopConfig =
      .ok printedText :=
    TomlCrate.toStringPretty_of_encode encode_laptopConfig
  have hwritten : (writeToPath resetLaptop (.default (defaultDataDir resetLaptop))
      (.ofText "/etc/x0x-compute.toml")).run [(.ofText "/etc/x0x-compute.toml", handwrittenText)] =
        .ok () [(.ofText "/etc/x0x-compute.toml", defaultText),
          (.ofText "/etc/x0x-compute.toml", handwrittenText)] := by
    have hparent : (PathBuf.ofText "/etc/x0x-compute.toml").parent = some (.ofText "/etc") := by
      decide +kernel
    rw [writeToPath_of_parent hparent rfl, hdefault]
    rfl
  have hrun := (printConfig_true_iff hload).mpr ⟨hwritten, hlaptop⟩
  have hruns := @print_config_runs _ resetLaptop laptop_sockets_roundTrips
    FileSystem.newestFirst_keepsWrites _ _ hkeeps rfl
  have hreset := (hruns.2 laptopConfig hload).2.2 _ _ hrun
  exact ⟨_, _, hrun, hreset.1, hreset.2.1⟩

end ComputeConfig

end X0xCompute
