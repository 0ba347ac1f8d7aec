import Confinement.Proofs.Settings.Overlay

/-!
# Precedence of the layers

Every field of the settings that are loaded is what the uppermost layer that has its key says, and
the standard setting if none does (`load_reads_uppermost`).  There is one exception: a command line
that spells out every standard setting does not count, so other layers take precedence over it
(`repeated_standard_gives_way`).
-/

namespace Confinement.Settings

open CommandLine Host

/-! ## Fields -/

/-- The fields of settings. -/
inductive Field where
  | socket
  | logFilter
  | logFormat
  | idleTimeout
  | maxClients
  | user
  | group
  | labeller
  | store
  | cynagoraSocket
  | policyDirectory
  | allowEmptyRecords

namespace Field

/-- The key of a field in a layer. -/
def key : Field → String
  | socket => "socket"
  | logFilter => "log_filter"
  | logFormat => "log_format"
  | idleTimeout => "idle_timeout"
  | maxClients => "max_clients"
  | user => "user"
  | group => "group"
  | labeller => "mac_backend"
  | store => "permission_backend"
  | cynagoraSocket => "cynagora_socket"
  | policyDirectory => "policy_dir"
  | allowEmptyRecords => "allow_empty_records"

/-- What a field holds. -/
def Content : Field → Type
  | socket | cynagoraSocket => Endpoint
  | logFilter | policyDirectory => String
  | logFormat => LogFormat
  | idleTimeout | maxClients => Nat
  | user | group => Option String
  | labeller => LabellerKind
  | store => StoreKind
  | allowEmptyRecords => Bool

/-- What a field holds in some settings. -/
def content (settings : Settings) : (field : Field) → field.Content
  | socket => settings.socket
  | logFilter => settings.logFilter
  | logFormat => settings.logFormat
  | idleTimeout => settings.idleTimeout
  | maxClients => settings.maxClients
  | user => settings.user
  | group => settings.group
  | labeller => settings.labeller
  | store => settings.store
  | cynagoraSocket => settings.cynagoraSocket
  | policyDirectory => settings.policyDirectory
  | allowEmptyRecords => settings.allowEmptyRecords

def endpoint? (value : Value) : Option Endpoint := (endpointOfValue value).toOption

/-- How a field is read from what stands under its key. -/
def read (found : Option Value) : (field : Field) → Option field.Content
  | socket | cynagoraSocket => found.bind endpoint?
  | logFilter | policyDirectory => found.bind Value.asText?
  | logFormat => found.bind (choice? LogFormat.word LogFormat.all)
  | idleTimeout | maxClients => found.bind (Value.asNat? Text.longBound)
  | user | group => optionalText? found
  | labeller => found.bind (choice? LabellerKind.word LabellerKind.all)
  | store => found.bind (choice? StoreKind.word StoreKind.all)
  | allowEmptyRecords => found.bind Value.asBool?

/-- Whether a field is one of a few words. -/
def IsChoice (field : Field) : Prop := field = logFormat ∨ field = labeller ∨ field = store

end Field

/-- Whether every field of some settings is read from what stands under its key. -/
def Reads (found : String → Option Value) (settings : Settings) : Prop :=
  ∀ field : Field, field.read (found field.key) = some (field.content settings)

theorem ofValue?_eq_some_iff {value : Value} {settings : Settings} :
    ofValue? value = some settings ↔ Reads (Value.lookup? value.entries) settings := by
  -- Only the steps of the reading are opened, not the lookups within them.
  have step {First Second : Type} {first : Option First} {next : First → Option Second}
      {result : Second} :
      (first >>= next) = some result ↔ ∃ found, first = some found ∧ next found = some result :=
    Option.bind_eq_some_iff
  simp only [ofValue?, step]
  constructor
  · rintro ⟨socket, reads_socket, logFilter, reads_logFilter, logFormat, reads_logFormat,
      idleTimeout, reads_idleTimeout, maxClients, reads_maxClients, user, reads_user,
      group, reads_group, labeller, reads_labeller, store, reads_store,
      cynagoraSocket, reads_cynagoraSocket, policyDirectory, reads_policyDirectory,
      allowEmptyRecords, reads_allowEmptyRecords, same⟩
    obtain rfl := Option.some.inj same
    intro field
    cases field with
    | socket => exact reads_socket
    | logFilter => exact reads_logFilter
    | logFormat => exact reads_logFormat
    | idleTimeout => exact reads_idleTimeout
    | maxClients => exact reads_maxClients
    | user => exact reads_user
    | group => exact reads_group
    | labeller => exact reads_labeller
    | store => exact reads_store
    | cynagoraSocket => exact reads_cynagoraSocket
    | policyDirectory => exact reads_policyDirectory
    | allowEmptyRecords => exact reads_allowEmptyRecords
  · intro reads
    exact ⟨_, reads .socket, _, reads .logFilter, _, reads .logFormat, _, reads .idleTimeout,
      _, reads .maxClients, _, reads .user, _, reads .group, _, reads .labeller,
      _, reads .store, _, reads .cynagoraSocket, _, reads .policyDirectory,
      _, reads .allowEmptyRecords, rfl⟩

theorem reads_standard : Reads (Value.lookup? standard.layer.entries) standard :=
  ofValue?_eq_some_iff.1 (by decide +kernel)

/-- Settings can be read where every field stands as it does where some can be read. -/
theorem exists_reads
    {found : String → Option Value}
    (each : ∀ key, ∃ other settings, Reads other settings ∧ found key = other key) :
    ∃ settings, Reads found settings := by
  have content (field : Field) : ∃ content, field.read (found field.key) = some content := by
    obtain ⟨other, settings, reads, same⟩ := each field.key
    rw [same]
    exact ⟨_, reads field⟩
  choose contents reads using content
  refine ⟨⟨contents .socket, contents .logFilter, contents .logFormat, contents .idleTimeout,
    contents .maxClients, contents .user, contents .group, contents .labeller, contents .store,
    contents .cynagoraSocket, contents .policyDirectory, contents .allowEmptyRecords⟩, ?_⟩
  intro field
  rw [reads]
  cases field with
  | socket | logFilter | logFormat | idleTimeout | maxClients | user | group | labeller | store
  | cynagoraSocket | policyDirectory | allowEmptyRecords => rfl

/-! ## Fields over tables -/

section

variable {Content : Type} {read : Value → Option Content} {value wider : Value} {content : Content}

/-- What is read of a value that is no table is read wherever that value stands. -/
theorem Value.Includes.read_eq
    {entries more : List (String × Value)} {key : String}
    (included : Includes entries more)
    (flat : ∀ value content, read value = some content → value.isTable = false)
    (reads : (lookup? entries key).bind read = some content) :
    (lookup? more key).bind read = some content := by
  obtain ⟨value, found, read_value⟩ := Option.bind_eq_some_iff.1 reads
  rw [included key value found (flat value content read_value)]
  exact read_value

theorem Value.isTable_of_asText? (value : Value) (text : String)
    (reads : value.asText? = some text) : value.isTable = false := by
  cases value with
  | table entries => cases reads
  | null | bool | natural | integer | other | text | list => rfl

theorem Value.isTable_of_asNat? (bound : Nat) (value : Value) (number : Nat)
    (reads : asNat? bound value = some number) : value.isTable = false := by
  cases value with
  | table entries => cases reads
  | null | bool | natural | integer | other | text | list => rfl

theorem Value.isTable_of_asBool? (value : Value) (truth : Bool)
    (reads : value.asBool? = some truth) : value.isTable = false := by
  cases value with
  | table entries => cases reads
  | null | bool | natural | integer | other | text | list => rfl

theorem Transport.isTable_of_ofValue? (value : Value) (transport : Transport)
    (reads : ofValue? value = some transport) : value.isTable = false := by
  cases value with
  | table entries => cases reads
  | null | bool | natural | integer | other | text | list => rfl

theorem isTable_of_optionalText? (value : Value) (text : Option String)
    (reads : optionalText? (some value) = some text) : value.isTable = false := by
  cases value with
  | table entries => cases reads
  | null | bool | natural | integer | other | text | list => rfl

/-- An endpoint is read from a table by its own fields, whatever else the table has. -/
theorem Value.Includes.endpointOfTable?_eq
    {entries more : List (String × Value)} {endpoint : Endpoint}
    (included : Includes entries more)
    (reads : endpointOfTable? entries = some endpoint) :
    endpointOfTable? more = some endpoint := by
  obtain ⟨transport, form, fields⟩ := Option.bind_eq_some_iff.1 reads
  rw [endpointOfTable?, included.read_eq Transport.isTable_of_ofValue? form]
  change Transport.endpoint? _ _ _ transport = some endpoint
  cases transport with
  | unix =>
      obtain ⟨path, reads_path, made⟩ := Option.map_eq_some_iff.1 fields
      exact Option.map_eq_some_iff.2
        ⟨path, included.read_eq Value.isTable_of_asText? reads_path, made⟩
  | tcp =>
      rw [Transport.endpoint?] at fields ⊢
      split at fields
      · rename_i host port reads_host reads_port
        rw [included.read_eq Value.isTable_of_asText? reads_host,
          included.read_eq (Value.isTable_of_asNat? 65536) reads_port]
        exact fields
      · cases fields

theorem Value.Extends.endpoint?_eq
    {endpoint : Endpoint}
    (extended : Extends value wider)
    (reads : Field.endpoint? value = some endpoint) :
    Field.endpoint? wider = some endpoint := by
  cases value with
  | table entries =>
      rcases extended with rfl | ⟨_, table, included⟩
      · exact reads
      · cases wider with
        | table more =>
            have own : endpointOfTable? entries = some endpoint := by
              rw [Field.endpoint?, endpointOfValue] at reads
              cases found : endpointOfTable? entries with
              | none =>
                  rw [found] at reads
                  cases reads
              | some other =>
                  rw [found] at reads
                  exact reads
            have reads_more : endpointOfTable? more = some endpoint :=
              included.endpointOfTable?_eq own
            rw [Field.endpoint?, endpointOfValue, reads_more]
            rfl
        | null | bool | natural | integer | other | text | list => cases table
  | null | bool | natural | integer | other | text | list =>
      rw [extended.eq_of_not_isTable rfl]
      exact reads

theorem Value.Extends.read_eq
    (read : Value → Option Content)
    (extended : Extends value wider)
    (flat : ∀ value content, read value = some content → value.isTable = false)
    (reads : read value = some content) :
    read wider = some content := by
  rw [extended.eq_of_not_isTable (flat value content reads)]
  exact reads

end

/-- A field that is no choice is read the same where more entries stand in its table. -/
theorem Field.read_eq_of_extends
    {field : Field} {found wider : Option Value} {content : field.Content}
    (free : ¬field.IsChoice)
    (extended : Option.Rel Value.Extends found wider)
    (reads : field.read found = some content) :
    field.read wider = some content := by
  cases extended with
  | none => exact reads
  | some extended =>
      cases field with
      | socket | cynagoraSocket => exact extended.endpoint?_eq reads
      | logFilter | policyDirectory => exact extended.read_eq _ Value.isTable_of_asText? reads
      | idleTimeout | maxClients => exact extended.read_eq _ (Value.isTable_of_asNat? _) reads
      | allowEmptyRecords => exact extended.read_eq _ Value.isTable_of_asBool? reads
      | logFormat => exact absurd (.inl rfl) free
      | labeller => exact absurd (.inr (.inl rfl)) free
      | store => exact absurd (.inr (.inr rfl)) free
      | user | group =>
          exact extended.read_eq (fun value => optionalText? (some value))
            isTable_of_optionalText? reads

/-! ## Loading -/

/-- What is read from a file is a table. -/
theorem Source.isTable_of_readFrom
    {tree : FileTree} {fuel : Nat} {above : List Place} {path : String} {value : Value}
    (found : readFrom tree fuel above path = .ok (some value)) :
    value.isTable = true := by
  cases fuel with
  | zero => cases found
  | succ fuel =>
      rw [readFrom] at found
      split at found
      · cases found
      · cases found
      · rename_i place content _
        split at found
        · cases found
        · cases own : entries place content with
          | error fault =>
              rw [own] at found
              cases found
          | ok own_entries =>
              rw [own] at found
              dsimp only [bind, Except.bind, pure, Except.pure] at found
              split at found
              · cases found
                rfl
              · split at found
                · cases found
                · split at found
                  · cases found
                  · cases found
                    rfl
              · cases found

theorem Source.isTable_of_searchOptional
    {tree : FileTree} {faults : List SourceFault} {paths : List String} {value : Value}
    (found : (searchOptional tree faults paths).found = some value) :
    value.isTable = true := by
  induction paths generalizing faults with
  | nil => cases found
  | cons path rest hypothesis =>
      rw [searchOptional] at found
      split at found
      · rename_i given reads
        obtain rfl : given = value := Option.some.inj found
        exact isTable_of_readFrom reads
      · exact hypothesis found
      · exact hypothesis found

theorem Source.isTable_of_search
    {tree : FileTree} {required : Option String} {optional : List String} {value : Value}
    (found : (search tree required optional).found = some value) :
    value.isTable = true := by
  cases required with
  | none => exact isTable_of_searchOptional found
  | some path =>
      rw [search] at found
      split at found
      · rename_i given reads
        obtain rfl : given = value := Option.some.inj found
        exact isTable_of_readFrom reads
      · exact isTable_of_searchOptional found
      · exact isTable_of_searchOptional found

section

variable (given : List Given) (environment : List (String × String)) (tree : FileTree)

/-- What a search for a configuration file comes to, with the options given. -/
def fileSearch : Source.Search :=
  Source.search tree (givenFile? given) (optionalFiles environment)

/-- The layers below the command line, the uppermost last. -/
def lowerLayers : List Value :=
  [(fileSearch given environment tree).found.getD (.table []), Environment.layer environment]

/-- All layers, the uppermost last. -/
def allLayers : List Value := lowerLayers given environment tree ++ [commandLayer given]

/-- The layers that count. -/
def countedLayers : List Value :=
  if repeatsStandard given then lowerLayers given environment tree
  else allLayers given environment tree

theorem isTable_of_mem_allLayers :
    ∀ layer ∈ allLayers given environment tree, layer.isTable = true := by
  intro layer member
  rcases List.mem_append.1 member with member | member
  · rcases List.mem_cons.1 member with rfl | member
    · cases found : (fileSearch given environment tree).found with
      | none => rfl
      | some value => exact Source.isTable_of_search found
    · obtain rfl := List.mem_singleton.1 member
      rfl
  · obtain rfl := List.mem_singleton.1 member
    rfl

theorem countedLayers_sublist :
    (countedLayers given environment tree).Sublist (allLayers given environment tree) := by
  rw [countedLayers]
  split
  · exact List.sublist_append_left _ _
  · exact List.Sublist.refl _

end

/-- A layer that can be loaded by itself. -/
def Acceptable (layer : Value) : Prop := (ofValue? (joined [layer])).isSome = true

instance (layer : Value) : Decidable (Acceptable layer) := inferInstanceAs (Decidable (_ = true))

/-- Some layer says what the uppermost does, or else the standard settings do. -/
theorem uppermost_eq_of_some_layer (layers : List Value) (key : String) :
    (∃ layer ∈ layers, uppermost layers key = uppermost [layer] key) ∨
      uppermost layers key = uppermost [] key := by
  induction layers using List.reverseRecOn with
  | nil => exact .inr rfl
  | append_singleton layers layer hypothesis =>
      have own := uppermost_concat [] layer key
      rw [uppermost_concat]
      cases told : said layer key with
      | some value =>
          rw [told] at own
          exact .inl ⟨layer, List.mem_append_right _ (List.mem_singleton_self _), own.symm⟩
      | none =>
          rcases hypothesis with ⟨other, member, same⟩ | same
          · exact .inl ⟨other, List.mem_append_left _ member, same⟩
          · exact .inr same

/-- Layers that are acceptable by themselves are so together. -/
theorem exists_reads_uppermost
    {layers : List Value}
    (tables : ∀ layer ∈ layers, layer.isTable = true)
    (acceptable : ∀ layer ∈ layers, Acceptable layer) :
    ∃ settings, Reads (uppermost layers) settings := by
  refine exists_reads fun key => ?_
  rcases uppermost_eq_of_some_layer layers key with ⟨layer, member, same⟩ | same
  · obtain ⟨settings, read⟩ := Option.isSome_iff_exists.1 (acceptable layer member)
    refine ⟨uppermost [layer], settings, ?_, same⟩
    intro field
    rw [← lookup?_joined (fun other only => ?_) (List.pairwise_singleton _ _)]
    · exact ofValue?_eq_some_iff.1 read field
    · rw [List.mem_singleton.1 only]
      exact tables layer member
  · exact ⟨uppermost [], standard, reads_standard, same⟩

/-- Joined layers are read as the uppermost of them says. -/
theorem reads_joined
    {layers : List Value} {settings : Settings}
    (tables : ∀ layer ∈ layers, layer.isTable = true)
    (apart : ∀ field : Field, field.IsChoice → layers.Pairwise fun lower upper =>
      ¬(SaysTable lower field.key ∧ SaysTable upper field.key))
    (reads : Reads (uppermost layers) settings) :
    Reads (Value.lookup? (joined layers).entries) settings := by
  intro field
  by_cases choice : field.IsChoice
  · rw [lookup?_joined tables (apart field choice)]
    exact reads field
  · exact Field.read_eq_of_extends choice (extends_lookup?_joined tables) (reads field)

/-- What is loaded when nothing is at fault. -/
theorem load_eq_ok
    {words : List String} {environment : List (String × String)} {tree : FileTree}
    {command : Parsed Given} {settings : Settings}
    (typed : grammar.read words = .ok command)
    (sound : (fileSearch command.items environment tree).faults = [])
    (reads : Reads
      (Value.lookup? (joined (countedLayers command.items environment tree)).entries) settings) :
    load words environment tree = .ok settings := by
  have spelt : ofValue? (joined
      [(fileSearch command.items environment tree).found.getD (.table []),
        Environment.layer environment, givenLayer command.items]) = some settings := by
    change ofValue? (joined (lowerLayers command.items environment tree ++ [_])) = _
    rw [countedLayers] at reads
    rw [ofValue?_eq_some_iff, givenLayer]
    split at reads
    · rename_i repeats
      rw [if_pos repeats, joined_concat]
      exact reads
    · rename_i counts
      rw [if_neg counts]
      exact reads
  rw [load, typed]
  dsimp only [Except.toOption, Option.map_some, Option.getD_some]
  rw [← fileSearch, spelt, sound]
  rfl

/--
Layers that are acceptable by themselves load, and every field is what the uppermost layer that has
its key says of it, or the standard setting.  A command line that repeats every standard setting
does not count.  No two layers may spell a choice by a table, since the tables would be joined.
-/
theorem load_reads_uppermost
    {words : List String} {environment : List (String × String)} {tree : FileTree}
    {command : Parsed Given}
    (typed : grammar.read words = .ok command)
    (sound : (fileSearch command.items environment tree).faults = [])
    (acceptable : ∀ layer ∈ allLayers command.items environment tree, Acceptable layer)
    (apart : ∀ field : Field, field.IsChoice →
      (allLayers command.items environment tree).Pairwise fun lower upper =>
        ¬(SaysTable lower field.key ∧ SaysTable upper field.key)) :
    ∃ settings, load words environment tree = .ok settings ∧
      Reads (uppermost (countedLayers command.items environment tree)) settings := by
  have tables : ∀ layer ∈ countedLayers command.items environment tree, layer.isTable = true :=
    fun layer member => isTable_of_mem_allLayers _ _ _ layer
      ((countedLayers_sublist _ _ _).subset member)
  obtain ⟨settings, reads⟩ := exists_reads_uppermost tables fun layer member =>
    acceptable layer ((countedLayers_sublist _ _ _).subset member)
  refine ⟨settings, load_eq_ok typed sound (reads_joined tables ?_ reads), reads⟩
  exact fun field choice => (apart field choice).sublist (countedLayers_sublist _ _ _)

/-! ## Given settings -/

/-- An environment with one setting. -/
def raised : List (String × String) := [("SEC_LSM_MANAGER_MAX_CLIENTS", "9")]

theorem keys?_max_clients : Environment.keys? "MAX_CLIENTS" = some ["max_clients"] := by
  have whole : "max_clients".splitOn "__" = ["max_clients"] := by
    rw [String.splitOn, if_neg (by decide)]
    iterate 3 rw [String.splitOnAux, if_neg (by decide +kernel), if_neg (by decide +kernel)]
    -- The one underscore begins like the separator.
    rw [String.splitOnAux, if_neg (by decide +kernel), if_pos (by decide +kernel),
      if_neg (by decide +kernel)]
    iterate 8 rw [String.splitOnAux, if_neg (by decide +kernel), if_neg (by decide +kernel)]
    rw [String.splitOnAux, if_pos (by decide +kernel)]
    decide +kernel
  have part : "max_clients".splitOn "." = ["max_clients"] := by
    rw [String.splitOn, if_neg (by decide)]
    iterate 11 rw [String.splitOnAux, if_neg (by decide +kernel), if_neg (by decide +kernel)]
    rw [String.splitOnAux, if_pos (by decide +kernel)]
    decide +kernel
  have small : lowered "MAX_CLIENTS" = "max_clients" := by decide +kernel
  have bare : Text.trim (String.intercalate "." ["max_clients"]) = "max_clients" := by
    decide +kernel
  rw [Environment.keys?, small, whole, bare, part]
  rfl

theorem layer_raised : Environment.layer raised = .table [("max_clients", .natural 9)] := by
  have name : Environment.ownName? "SEC_LSM_MANAGER_MAX_CLIENTS" = some "MAX_CLIENTS" := by
    decide +kernel
  have content : Environment.typed "9" = .natural 9 := by rfl
  rw [Environment.layer, Environment.entries, raised, List.foldl_cons, name, Option.bind_some,
    keys?_max_clients, content]
  rfl

/-- A command line that can be read, with what can be decided of it. -/
theorem exists_of_decide
    {words : List String} {property : Parsed Given → Prop} [DecidablePred property]
    (decided : (grammar.read words).toOption.any (fun command => property command) = true) :
    ∃ command, grammar.read words = .ok command ∧ property command := by
  cases typed : grammar.read words with
  | error error =>
      rw [typed] at decided
      cases decided
  | ok command =>
      rw [typed] at decided
      exact ⟨command, rfl, of_decide_eq_true decided⟩

/-- A file with two settings in the working directory. -/
def withFile : FileTree :=
  FileTree.empty.insert ["tmp", "work", commonFile]
    (.file "max_clients = 5\nuser = \"u\"\n".toUTF8.toList)

/-- A field in each layer, and one that the environment and the file have. -/
theorem load_reads_uppermost_of_three_layers :
    ∃ command settings, grammar.read ["--idle-timeout", "7"] = .ok command ∧
      (fileSearch command.items raised withFile).faults = [] ∧
      (∀ layer ∈ allLayers command.items raised withFile, Acceptable layer) ∧
      load ["--idle-timeout", "7"] raised withFile = .ok settings ∧
      Reads (uppermost (countedLayers command.items raised withFile)) settings ∧
      settings = { standard with idleTimeout := 7, maxClients := 9, user := some "u" } := by
  obtain ⟨command, typed, sound, fit, counts, joined_layers⟩ :=
    exists_of_decide (by decide +kernel :
    (grammar.read ["--idle-timeout", "7"]).toOption.any (fun command =>
      let search := fileSearch command.items raised withFile
      let layers := [search.found.getD (.table []), .table [("max_clients", .natural 9)],
        commandLayer command.items]
      search.faults = [] ∧
        (∀ layer ∈ layers, Acceptable layer ∧
          ∀ key ∈ ["log_format", "mac_backend", "permission_backend"], ¬SaysTable layer key) ∧
        repeatsStandard command.items = false ∧
        ofValue? (joined layers) =
          some { standard with idleTimeout := 7, maxClients := 9, user := some "u" }) = true)
  have layers : allLayers command.items raised withFile =
      [(fileSearch command.items raised withFile).found.getD (.table []),
        .table [("max_clients", .natural 9)], commandLayer command.items] := by
    rw [allLayers, lowerLayers, layer_raised]
    rfl
  rw [← layers] at fit joined_layers
  have acceptable := fun layer member => (fit layer member).1
  have apart : ∀ field : Field, field.IsChoice →
      (allLayers command.items raised withFile).Pairwise fun lower upper =>
        ¬(SaysTable lower field.key ∧ SaysTable upper field.key) := by
    intro field choice
    refine List.pairwise_of_forall_mem_list fun lower member upper _ both => ?_
    refine (fit lower member).2 field.key ?_ both.1
    rcases choice with rfl | rfl | rfl
    · exact List.mem_cons_self
    · exact List.mem_cons_of_mem _ List.mem_cons_self
    · exact List.mem_cons_of_mem _ (List.mem_cons_of_mem _ List.mem_cons_self)
  obtain ⟨settings, loaded, reads⟩ := load_reads_uppermost typed sound acceptable apart
  refine ⟨command, settings, typed, sound, acceptable, loaded, reads, ?_⟩
  have own : load ["--idle-timeout", "7"] raised withFile = .ok _ :=
    load_eq_ok typed sound (by
      rw [countedLayers, counts, if_neg Bool.false_ne_true]
      exact ofValue?_eq_some_iff.1 joined_layers)
  exact Except.ok.inj (loaded.symm.trans own)

/-- A command line that spells out every standard setting. -/
def repeating : List String :=
  ["--socket", "unix:/run/sec-lsm-manager/sec-lsm-manager.socket", "--log-filter", "info",
    "--log-format", "json", "--idle-timeout", "0", "--max-clients", "3", "--mac-backend", "auto",
    "--permission-backend", "cynagora", "--cynagora-socket",
    "unix:/var/run/cynagora/cynagora.admin", "--policy-dir", "/var/lib/sec-lsm-manager"]

/-- The environment takes precedence over a command line that repeats every standard setting. -/
theorem repeated_standard_gives_way :
    ∃ command settings, grammar.read repeating = .ok command ∧
      (fileSearch command.items raised .empty).faults = [] ∧
      (∀ layer ∈ allLayers command.items raised .empty, Acceptable layer) ∧
      load repeating raised .empty = .ok settings ∧
      settings.maxClients = 9 ∧
      Field.read (said (commandLayer command.items) "max_clients") .maxClients = some (3 : Nat) ∧
      ¬Reads (uppermost (allLayers command.items raised .empty)) settings := by
  obtain ⟨command, typed, sound, acceptable, repeats, joined_layers, told⟩ :=
    exists_of_decide (by decide +kernel :
      (grammar.read repeating).toOption.any (fun (command : Parsed Given) =>
        let search := fileSearch command.items raised .empty
        let lower := [search.found.getD (.table []), .table [("max_clients", .natural 9)]]
        search.faults = [] ∧
          (∀ layer ∈ lower ++ [commandLayer command.items], Acceptable layer) ∧
          repeatsStandard command.items = true ∧
          ofValue? (joined lower) = some { standard with maxClients := 9 } ∧
          (said (commandLayer command.items) "max_clients").bind (Value.asNat? Text.longBound) =
            some (3 : Nat)) = true)
  have lower : lowerLayers command.items raised .empty =
      [(fileSearch command.items raised .empty).found.getD (.table []),
        .table [("max_clients", .natural 9)]] := by
    rw [lowerLayers, layer_raised]
  rw [← lower] at acceptable joined_layers
  have loaded : load repeating raised .empty = .ok _ :=
    load_eq_ok typed sound (by
      rw [countedLayers, if_pos repeats]
      exact ofValue?_eq_some_iff.1 joined_layers)
  refine ⟨command, _, typed, sound, acceptable, loaded, rfl, told, fun reads => ?_⟩
  have own : Field.read ((said (commandLayer command.items) "max_clients").or
      (uppermost (lowerLayers command.items raised .empty) "max_clients")) .maxClients =
        some (9 : Nat) := by
    rw [← uppermost_concat]
    exact reads .maxClients
  cases command_told : said (commandLayer command.items) "max_clients" with
  | none =>
      rw [command_told] at told
      cases told
  | some value =>
      rw [command_told] at told own
      exact absurd (Option.some.inj (own.symm.trans told)) (by decide)

end Confinement.Settings
