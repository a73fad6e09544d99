import X0xCompute.Config.Format
import X0xCompute.Error

/-!
# Loading and saving the configuration

The functions of `config.rs` over the directories of the user, a file system and the `toml`
crate, which are parameters. A configuration that was loaded from a file is saved without
loss.
-/

namespace X0xCompute

open Lib
open Lib.TomlValue (Same)

/-! ## Paths -/

/-- The separator `/`. -/
def separator : U8 := 0x2f

/-- `Path::join`: an absolute path replaces the base. -/
def PathBuf.join (base path : PathBuf) : PathBuf :=
  if path.bytes.head? = some separator then path
  else if base.bytes.getLast?.all (· = separator) then ⟨base.bytes ++ path.bytes⟩
  else ⟨base.bytes ++ separator :: path.bytes⟩

/-- The root or the leading `.` of a path, and what follows it. -/
def PathBuf.start (path : PathBuf) : List U8 × List U8 :=
  match path.bytes with
  | 0x2f :: body => ([0x2f], body)
  | [0x2e] => ([0x2e], [])
  | 0x2e :: 0x2f :: body => ([0x2e], 0x2f :: body)
  | bytes => ([], bytes)

/-- Repeated separators and a `.` between separators are not components of a path. -/
def isComponent (segment : List U8) : Bool := segment ≠ [] ∧ segment ≠ [0x2e]

/-- `Path::parent`: the path without its last component, if that is not the root. -/
def PathBuf.parent (path : PathBuf) : Option PathBuf :=
  let (start, body) := path.start
  match (body.splitOn separator).reverse.dropWhile (! isComponent ·) with
  | [] => if start = [0x2e] then some ⟨[]⟩ else none
  | _ :: rest =>
    let segments := (rest.dropWhile (! isComponent ·)).reverse
    some ⟨start ++ [separator].intercalate segments⟩

example : (PathBuf.ofText "/etc/x0x/./config.toml").parent = some (.ofText "/etc/x0x") := by
  decide

/-! ## What the configuration code calls -/

/-- The functions of `std::fs` over the state of a disk, with the texts of their errors. -/
structure FileSystem (Disk : Type) where
  pathExists : PathBuf → Disk → Bool
  readToString : PathBuf → Disk → Except String String
  createDirAll : PathBuf → EStateM String Disk Unit
  write : PathBuf → String → EStateM String Disk Unit

/-- A file that was written exists and is read as it was written. -/
def FileSystem.KeepsWrites {Disk : Type} (files : FileSystem Disk) : Prop :=
  ∀ path text disk disk', (files.write path text).run disk = .ok () disk' →
    files.pathExists path disk' = true ∧ files.readToString path disk' = .ok text

/-- The `toml` crate: its parser with the texts of its errors, its printer, and the text of
its error for a document that does not have the expected shape. -/
structure TomlCrate where
  parse : String → Except String TomlTable
  pretty : TomlTable → String
  shapeError : String → String

/-- The printed form of the table is parsed to the same table. -/
def TomlCrate.Keeps (toml : TomlCrate) (entries : TomlTable) : Prop :=
  ∃ entries', toml.parse (toml.pretty entries) = .ok entries' ∧
    Same (.table entries) (.table entries')

/-- `toml::from_str`. -/
def TomlCrate.fromStr {α : Type} (toml : TomlCrate) (codec : Codec α) (raw : String) :
    Except String α :=
  match toml.parse raw with
  | .error e => .error e
  | .ok entries =>
    match codec.decode (.table entries) with
    | some a => .ok a
    | none => .error (toml.shapeError raw)

/-- `toml::to_string_pretty`: a document is a table. -/
def TomlCrate.toStringPretty {α : Type} (toml : TomlCrate) (codec : Codec α) (a : α) :
    Except String String :=
  match codec.encode a with
  | .error e => .error e
  | .ok (.table entries) => .ok (toml.pretty entries)
  | .ok _ => .error "unsupported rust type"

/-- What the configuration code finds on a machine: the directories of `dirs` and of the
process, where there are any, the file system, and the crates it calls. -/
structure Platform (Disk : Type) where
  configDir : Option PathBuf
  dataDir : Option PathBuf
  currentDir : Option PathBuf
  files : FileSystem Disk
  toml : TomlCrate
  sockets : SocketAddrText

/-! ## Loading and saving -/

section

variable {Disk : Type} (platform : Platform Disk)

def fallbackBaseDir : PathBuf := platform.currentDir.getD (.ofText ".")

def defaultConfigDir : PathBuf :=
  match platform.configDir with
  | some path => path.join (.ofText "x0x-compute")
  | none => ((fallbackBaseDir platform).join (.ofText ".config")).join (.ofText "x0x-compute")

def defaultDataDir : PathBuf :=
  match platform.dataDir with
  | some path => path.join (.ofText "x0x-compute")
  | none =>
    (((fallbackBaseDir platform).join (.ofText ".local")).join (.ofText "share")).join
      (.ofText "x0x-compute")

namespace ComputeConfig

def defaultPath : PathBuf := (defaultConfigDir platform).join (.ofText "config.toml")

/-- Loads configuration from `path`, or returns defaults when the file does not exist. -/
def loadOrDefault (path : Option PathBuf) (disk : Disk) : Except ComputeError ComputeConfig :=
  let configPath := path.getD (defaultPath platform)
  if platform.files.pathExists configPath disk then
    match platform.files.readToString configPath disk with
    | .error e => .error (.io e)
    | .ok raw => (platform.toml.fromStr (codec platform.sockets) raw).mapError .tomlDecode
  else .ok (.default (defaultDataDir platform))

/-- Writes the configuration to disk. -/
def writeToPath (config : ComputeConfig) (path : PathBuf) : EStateM ComputeError Disk Unit := do
  match path.parent with
  | none => throw (.missingParentDirectory path)
  | some parent =>
    (platform.files.createDirAll parent).adaptExcept .io
    match platform.toml.toStringPretty (codec platform.sockets) config with
    | .error e => throw (.tomlEncode e)
    | .ok raw => (platform.files.write path raw).adaptExcept .io

/-- Writes a default config to `path` and returns the resolved path. -/
def writeDefault (path : Option PathBuf) : EStateM ComputeError Disk PathBuf := do
  let resolved := path.getD (defaultPath platform)
  writeToPath platform (.default (defaultDataDir platform)) resolved
  return resolved

end ComputeConfig

end

/-! ## What each function does -/

section

variable {α : Type} {toml : TomlCrate} {codec : Codec α} {raw : String} {a : α}

theorem TomlCrate.fromStr_eq_ok_iff :
    toml.fromStr codec raw = .ok a ↔
      ∃ entries, toml.parse raw = .ok entries ∧ codec.decode (.table entries) = some a := by
  unfold TomlCrate.fromStr
  cases hparse : toml.parse raw with
  | error e => simp
  | ok entries =>
    cases hdecode : codec.decode (.table entries) with
    | none => simp [hdecode]
    | some a' => simp [hdecode]

theorem TomlCrate.toStringPretty_of_encode {entries : TomlTable}
    (h : codec.encode a = .ok (.table entries)) :
    toml.toStringPretty codec a = .ok (toml.pretty entries) := by
  simp [TomlCrate.toStringPretty, h]

end

namespace ComputeConfig

variable {Disk : Type} {platform : Platform Disk}

/-- Loading a file that exists reads it and decodes what it holds. -/
theorem loadOrDefault_eq_ok_iff {path : Option PathBuf} {disk : Disk} {config : ComputeConfig}
    (hexists : platform.files.pathExists (path.getD (defaultPath platform)) disk = true) :
    loadOrDefault platform path disk = .ok config ↔
      ∃ raw, platform.files.readToString (path.getD (defaultPath platform)) disk = .ok raw ∧
        platform.toml.fromStr (codec platform.sockets) raw = .ok config := by
  unfold loadOrDefault
  simp only [hexists, ↓reduceIte]
  cases hread : platform.files.readToString (path.getD (defaultPath platform)) disk with
  | error e => simp
  | ok raw =>
    cases hload : platform.toml.fromStr (codec platform.sockets) raw with
    | error e => simp [hload, Except.mapError]
    | ok loaded => simp [hload, Except.mapError]

/-- Everything that writing a configuration to a path can do to a disk. -/
inductive WriteEffect (platform : Platform Disk) (config : ComputeConfig) (path : PathBuf)
    (disk : Disk) : EStateM.Result ComputeError Disk Unit → Prop where
  | noParent (h : path.parent = none) :
      WriteEffect platform config path disk (.error (.missingParentDirectory path) disk)
  | noDirectory {parent : PathBuf} {e : String} {disk' : Disk}
      (h : (platform.files.createDirAll parent).run disk = .error e disk') :
      WriteEffect platform config path disk (.error (.io e) disk')
  | notEncoded {e : String} {disk' : Disk}
      (h : platform.toml.toStringPretty (codec platform.sockets) config = .error e) :
      WriteEffect platform config path disk (.error (.tomlEncode e) disk')
  | notWritten {raw e : String} {between disk' : Disk}
      (h : (platform.files.write path raw).run between = .error e disk') :
      WriteEffect platform config path disk (.error (.io e) disk')
  | written {raw : String} {between disk' : Disk}
      (hprint : platform.toml.toStringPretty (codec platform.sockets) config = .ok raw)
      (h : (platform.files.write path raw).run between = .ok () disk') :
      WriteEffect platform config path disk (.ok () disk')

theorem writeToPath_effect (platform : Platform Disk) (config : ComputeConfig) (path : PathBuf)
    (disk : Disk) :
    WriteEffect platform config path disk ((writeToPath platform config path).run disk) := by
  unfold writeToPath
  cases hparent : path.parent with
  | none => exact .noParent hparent
  | some parent =>
    simp only [EStateM.run_bind, EStateM.run_adaptExcept]
    cases hdir : (platform.files.createDirAll parent).run disk with
    | error e disk' => exact .noDirectory hdir
    | ok _ between =>
      cases hprint : platform.toml.toStringPretty (codec platform.sockets) config with
      | error e => exact .notEncoded hprint
      | ok raw =>
        simp only [EStateM.run_adaptExcept]
        cases hwrite : (platform.files.write path raw).run between with
        | error e disk' => exact .notWritten hwrite
        | ok _ disk' => exact .written hprint hwrite

/-! ## Saving what was loaded -/

theorem keeps_of_loadOrDefault (hsockets : platform.sockets.RoundTrips) {path : Option PathBuf}
    {disk : Disk} {config : ComputeConfig}
    (hexists : platform.files.pathExists (path.getD (defaultPath platform)) disk = true)
    (hload : loadOrDefault platform path disk = .ok config) :
    (codec platform.sockets).Keeps config := by
  obtain ⟨raw, -, hraw⟩ := (loadOrDefault_eq_ok_iff hexists).mp hload
  obtain ⟨entries, -, hdecode⟩ := TomlCrate.fromStr_eq_ok_iff.mp hraw
  exact codec_faithful hsockets _ _ hdecode

/-- What is kept is kept as a table. -/
theorem exists_table_of_keeps {sockets : SocketAddrText} {config : ComputeConfig}
    (h : (codec sockets).Keeps config) :
    ∃ entries, (codec sockets).encode config = .ok (.table entries) ∧
      ∀ entries', Same (.table entries) (.table entries') →
        (codec sockets).decode (.table entries') = some config := by
  obtain ⟨v, hencode, hdecode⟩ := h
  obtain ⟨entries, rfl⟩ := Fields.exists_table_of_record_encode hencode
  exact ⟨entries, hencode, fun entries' hsame => hdecode _ hsame⟩

/-- The encoder takes what the codec keeps. -/
theorem writeToPath_encodes {config : ComputeConfig}
    (hkeeps : (codec platform.sockets).Keeps config) {path : PathBuf} {before after : Disk}
    {e : String} :
    (writeToPath platform config path).run before ≠ .error (.tomlEncode e) after := by
  obtain ⟨entries, hencode, -⟩ := exists_table_of_keeps hkeeps
  have heffect := writeToPath_effect platform config path before
  intro hfail
  rw [hfail] at heffect
  cases heffect with
  | notEncoded herror =>
    rw [TomlCrate.toStringPretty_of_encode hencode] at herror
    cases herror

/-- What the codec keeps is loaded from where it was written. -/
theorem loadOrDefault_of_writeToPath {config : ComputeConfig}
    (hkeeps : (codec platform.sockets).Keeps config) (hfiles : platform.files.KeepsWrites)
    (htoml : ∀ entries, (codec platform.sockets).encode config = .ok (.table entries) →
      platform.toml.Keeps entries) {path : PathBuf} {before after : Disk}
    (hwritten : (writeToPath platform config path).run before = .ok () after) :
    loadOrDefault platform (some path) after = .ok config := by
  obtain ⟨entries, hencode, hdecode⟩ := exists_table_of_keeps hkeeps
  have heffect := writeToPath_effect platform config path before
  rw [hwritten] at heffect
  cases heffect with
  | written hraw hwrite =>
    rw [TomlCrate.toStringPretty_of_encode hencode, Except.ok.injEq] at hraw
    subst hraw
    obtain ⟨hthere, hread⟩ := hfiles _ _ _ _ hwrite
    obtain ⟨entries', hparse, hsame⟩ := htoml entries hencode
    have hfrom : platform.toml.fromStr (codec platform.sockets)
        (platform.toml.pretty entries) = .ok config :=
      TomlCrate.fromStr_eq_ok_iff.mpr ⟨entries', hparse, hdecode entries' hsame⟩
    exact (loadOrDefault_eq_ok_iff hthere).mpr ⟨_, hread, hfrom⟩

/-- A configuration loaded from a file is never refused by the encoder, and once it is
written it is loaded again, equal in every field. -/
theorem saved_config_loads (hsockets : platform.sockets.RoundTrips)
    (hfiles : platform.files.KeepsWrites) {source : Option PathBuf} {disk : Disk}
    {config : ComputeConfig}
    (hexists : platform.files.pathExists (source.getD (defaultPath platform)) disk = true)
    (hload : loadOrDefault platform source disk = .ok config)
    (htoml : ∀ entries, (codec platform.sockets).encode config = .ok (.table entries) →
      platform.toml.Keeps entries) (path : PathBuf) (before : Disk) :
    (∀ e after, (writeToPath platform config path).run before ≠ .error (.tomlEncode e) after) ∧
    ∀ after, (writeToPath platform config path).run before = .ok () after →
      loadOrDefault platform (some path) after = .ok config := by
  have hkeeps := keeps_of_loadOrDefault hsockets hexists hload
  refine ⟨?_, ?_⟩
  · intro e after
    exact writeToPath_encodes hkeeps
  · intro after hwritten
    exact loadOrDefault_of_writeToPath hkeeps hfiles htoml hwritten

end ComputeConfig

/-! ## A configuration on a laptop -/

/-- The default configuration with the largest interval that TOML carries. -/
def laptopConfig : ComputeConfig :=
  { ComputeConfig.default (.ofText "/var/lib/x0x-compute") with
    joinNetworkOnStart := true
    announceOnStart := true
    resourceAnnounceIntervalSecs := 9223372036854775807
    runtime := { backend := .skeleton, skeletonResponsePrefix := "hello" }
    x0x := { (default : X0xConfig) with agentKeyPath := some (.ofText "/etc/x0x/agent.key") } }

/-- A disk that keeps the files written to it, newest first. -/
def FileSystem.newestFirst : FileSystem (List (PathBuf × String)) where
  pathExists path disk := (disk.lookup path).isSome
  readToString path disk :=
    match disk.lookup path with
    | some text => .ok text
    | none => .error "No such file or directory (os error 2)"
  createDirAll _ := pure ()
  write path text := modify ((path, text) :: ·)

theorem FileSystem.newestFirst_keepsWrites : FileSystem.newestFirst.KeepsWrites := by
  intro path text disk disk' hwrite
  cases hwrite
  simp [FileSystem.newestFirst]

/-- The values of the laptop's document. -/
def laptopValues : TomlTable :=
  [("api_bind", .string "127.0.0.1:12800"),
    ("data_dir", .string "/var/lib/x0x-compute"),
    ("capability_topic", .string "x0x.compute.capabilities.v1"),
    ("join_network_on_start", .boolean true),
    ("announce_on_start", .boolean true),
    ("require_user_id", .boolean false),
    ("resource_announce_interval_secs", .integer 9223372036854775807)]

def laptopMesh : String × TomlValue :=
  ("mesh", .table
    [("name", .string "friends"),
      ("trusted_friends_only", .boolean true),
      ("require_trusted_contacts", .boolean true),
      ("prefer_user_identity", .boolean true)])

def laptopRuntime : String × TomlValue :=
  ("runtime", .table
    [("backend", .string "skeleton"),
      ("skeleton_response_prefix", .string "hello")])

def laptopX0x : String × TomlValue :=
  ("x0x", .table [("agent_key_path", .string "/etc/x0x/agent.key")])

def laptopValuesText : String :=
  "api_bind = \"127.0.0.1:12800\"\n" ++
  "data_dir = \"/var/lib/x0x-compute\"\n" ++
  "capability_topic = \"x0x.compute.capabilities.v1\"\n" ++
  "join_network_on_start = true\n" ++
  "announce_on_start = true\n" ++
  "require_user_id = false\n" ++
  "resource_announce_interval_secs = 9223372036854775807\n"

def laptopTablesText : String :=
  "\n[mesh]\n" ++
  "name = \"friends\"\n" ++
  "trusted_friends_only = true\n" ++
  "require_trusted_contacts = true\n" ++
  "prefer_user_identity = true\n" ++
  "\n[runtime]\n" ++
  "backend = \"skeleton\"\n" ++
  "skeleton_response_prefix = \"hello\"\n" ++
  "\n[x0x]\n" ++
  "agent_key_path = \"/etc/x0x/agent.key\"\n"

/-- The document as its author wrote it, with a key of its own and without models. -/
def handwrittenText : String := "owner = \"me\"\n" ++ laptopValuesText ++ laptopTablesText

/-- The document as it is printed: the values of a table stand before its tables. -/
def printedText : String := laptopValuesText ++ "models = []\n" ++ laptopTablesText

theorem printedText_ne_handwrittenText : printedText ≠ handwrittenText := by
  unfold printedText handwrittenText
  generalize laptopValuesText = values
  generalize laptopTablesText = tables
  intro h
  have hmodels : "models = []\n".length = 12 := by decide
  have howner : "owner = \"me\"\n".length = 13 := by decide
  have hlength := congrArg String.length h
  simp only [String.length_append, hmodels, howner] at hlength
  omega

/-- A `toml` crate that knows the two documents. -/
def laptopToml : TomlCrate where
  parse raw :=
    if raw = handwrittenText then
      .ok (("owner", .string "me") :: laptopValues ++ [laptopMesh, laptopRuntime, laptopX0x])
    else if raw = printedText then
      .ok (laptopValues ++ ("models", .array []) :: [laptopMesh, laptopRuntime, laptopX0x])
    else .error "TOML parse error"
  pretty _ := printedText
  shapeError _ := "TOML parse error"

theorem laptopToml_parse_handwrittenText :
    laptopToml.parse handwrittenText = .ok
      (("owner", .string "me") :: laptopValues ++ [laptopMesh, laptopRuntime, laptopX0x]) := by
  simp [laptopToml]

theorem laptopToml_parse_printedText :
    laptopToml.parse printedText = .ok
      (laptopValues ++ ("models", .array []) :: [laptopMesh, laptopRuntime, laptopX0x]) := by
  simp [laptopToml, printedText_ne_handwrittenText]

/-- A platform that finds the two documents. -/
def laptop : Platform (List (PathBuf × String)) where
  configDir := some (.ofText "/home/me/.config")
  dataDir := some (.ofText "/home/me/.local/share")
  currentDir := none
  files := .newestFirst
  toml := laptopToml
  sockets :=
    { display := fun addr => if addr = laptopConfig.apiBind then "127.0.0.1:12800" else ""
      parse := fun text => if text = "127.0.0.1:12800" then some laptopConfig.apiBind else none }

theorem laptop_sockets_roundTrips : laptop.sockets.RoundTrips := by
  intro addr text hparse
  simp only [laptop] at hparse
  split_ifs at hparse
  cases hparse
  rfl

theorem laptop_toml_keeps {entries : TomlTable}
    (h : (ComputeConfig.codec laptop.sockets).encode laptopConfig = .ok (.table entries)) :
    laptop.toml.Keeps entries := by
  have hencode : (ComputeConfig.codec laptop.sockets).encode laptopConfig = .ok (.table
      (laptopValues ++ ([laptopMesh, laptopRuntime] ++ ("models", .array []) :: [laptopX0x]))) :=
    rfl
  rw [hencode] at h
  cases h
  exact ⟨_, laptopToml_parse_printedText,
    Same.of_perm (List.Perm.append_left _ List.perm_middle) (by decide)⟩

theorem saved_config_loads_laptop :
    ∃ after,
      (ComputeConfig.writeToPath laptop laptopConfig (.ofText "/home/me/backup.toml")).run
        [(.ofText "/etc/x0x-compute.toml", handwrittenText)] = .ok () after ∧
      ComputeConfig.loadOrDefault laptop (some (.ofText "/home/me/backup.toml")) after =
        .ok laptopConfig := by
  have hexists (path : PathBuf) (text : String) :
      laptop.files.pathExists path [(path, text)] = true := by
    simp [laptop, FileSystem.newestFirst]
  have hread (path : PathBuf) (text : String) :
      laptop.files.readToString path [(path, text)] = .ok text := by
    simp [laptop, FileSystem.newestFirst]
  have hload : ComputeConfig.loadOrDefault laptop (some (.ofText "/etc/x0x-compute.toml"))
      [(.ofText "/etc/x0x-compute.toml", handwrittenText)] = .ok laptopConfig :=
    (ComputeConfig.loadOrDefault_eq_ok_iff (hexists _ _)).mpr ⟨handwrittenText, hread _ _,
      TomlCrate.fromStr_eq_ok_iff.mpr ⟨_, laptopToml_parse_handwrittenText, rfl⟩⟩
  exact ⟨_, rfl, (ComputeConfig.saved_config_loads laptop_sockets_roundTrips
    FileSystem.newestFirst_keepsWrites (hexists _ _) hload (fun _ => laptop_toml_keeps)
    (.ofText "/home/me/backup.toml") _).2 _ rfl⟩

end X0xCompute
