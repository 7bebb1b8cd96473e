import Sluicery.Core.CommandArgs

/-!
# The place of the application's arguments

The arguments of the application stand after the freeform tokens and before
the source, and are read by whoever reads the whole command line.
`application_undisplaced_iff` says when they are read as they are meant.
-/

namespace Sluicery.Core.Options

open Sluicery.Library Sluicery.Library.Optparse Sluicery.Db

/-! ## Arguments of the application -/

/-- The options which the builders write, with how many values they take. -/
def applicationOptions : List (String × Nat) :=
  [("--sleep-requests", 1), ("--sleep-interval", 1),
    ("--max-sleep-interval", 1), ("--limit-rate", 1), ("--retries", 1),
    ("--fragment-retries", 1), ("--format", 1), ("--merge-output-format", 1),
    ("--remux-video", 1), ("--extract-audio", 0), ("--audio-format", 1),
    ("--audio-quality", 1), ("--embed-metadata", 0),
    ("--no-embed-metadata", 0), ("--embed-thumbnail", 0),
    ("--no-embed-thumbnail", 0), ("--embed-chapters", 0),
    ("--no-embed-chapters", 0), ("--no-write-subs", 0), ("--write-subs", 0),
    ("--sub-langs", 1), ("--write-auto-subs", 0), ("--no-write-auto-subs", 0),
    ("--embed-subs", 0), ("--no-embed-subs", 0), ("--concurrent-fragments", 1),
    ("--parse-metadata", 1), ("--windows-filenames", 0),
    ("--trim-filenames", 1), ("--flat-playlist", 0), ("--simulate", 0),
    ("--print", 1), ("--ignore-config", 0), ("--no-playlist", 0),
    ("--paths", 1), ("--output", 1), ("--continue", 0), ("--newline", 0),
    ("--progress", 0), ("--progress-template", 1), ("--cookies", 1)]

/-- The parser has the options of the application, with as many values. -/
def KnowsApplication (parser : Parser) : Prop :=
  ∀ entry ∈ applicationOptions, ∃ option,
    named parser entry.1 = some option ∧ option.nargs = entry.2

/-- A directive of the application. -/
def IsApplication (directive : Directive) : Prop :=
  (directive.name, directive.value.toList.length) ∈ applicationOptions

theorem isLongName_of_isApplication
    {directive : Directive} (isApplication : IsApplication directive) :
    IsLongName directive.name := by
  have areLong : ∀ entry ∈ applicationOptions, IsLongName entry.1 := by
    decide
  exact areLong _ isApplication

theorem known_of_isApplication
    {parser : Parser} {directive : Directive}
    (knows : KnowsApplication parser)
    (isApplication : IsApplication directive) :
    directive.Known parser :=
  knows _ isApplication

/-- The directives of a discovery. -/
def discoverDirectives : List Directive :=
  [{ name := "--flat-playlist" }, { name := "--simulate" },
    { name := "--print", value := some (printPrefix ++ "%()j") }]

/-- The directives of a format probe. -/
def formatProbeDirectives : List Directive :=
  [{ name := "--ignore-config" }, { name := "--simulate" },
    { name := "--no-playlist" },
    { name := "--print", value := some (printPrefix ++ "%()j") }]

/-- The directives of a download. -/
def downloadDirectives (workRoot tempRoot : PurePosixPath)
    (relativeOutput : String) : List Directive :=
  [{ name := "--paths", value := some ("home:" ++ workRoot.asPosix) },
    { name := "--paths", value := some ("temp:" ++ tempRoot.asPosix) },
    { name := "--output", value := some relativeOutput },
    { name := "--continue" }, { name := "--newline" }, { name := "--progress" },
    { name := "--progress-template",
      value := some ("download:" ++ progressPrefix ++ "%(progress)j") },
    { name := "--print",
      value := some ("after_move:" ++ printPrefix ++ "%(filepath)s") },
    { name := "--print",
      value := some ("after_move:" ++ resultPrefix ++ resultTemplate) }]

/-! ## Written arguments -/

/-- The arguments are directives of the application. -/
def IsWritten (arguments : List String) : Prop :=
  ∃ directives : List Directive,
    arguments = directives.flatMap Directive.tokens ∧
      ∀ directive ∈ directives, IsApplication directive

theorem isWritten_nil : IsWritten [] :=
  ⟨[], rfl, by simp⟩

theorem IsWritten.append
    {left right : List String}
    (isLeft : IsWritten left) (isRight : IsWritten right) :
    IsWritten (left ++ right) := by
  rcases isLeft with ⟨first, rfl, firstApplication⟩
  rcases isRight with ⟨second, rfl, secondApplication⟩
  apply Exists.intro (first ++ second)
  constructor
  · rw [List.flatMap_append]
  · intro directive member
    rcases List.mem_append.mp member with inFirst | inSecond
    · exact firstApplication directive inFirst
    · exact secondApplication directive inSecond

theorem isWritten_flag
    {name : String} (listed : (name, 0) ∈ applicationOptions) :
    IsWritten [name] :=
  ⟨[{ name }], rfl, by simpa [IsApplication] using listed⟩

theorem isWritten_value
    {name : String} (listed : (name, 1) ∈ applicationOptions)
    (value : String) :
    IsWritten [name, value] :=
  ⟨[{ name, value := some value }], rfl,
    by simpa [IsApplication] using listed⟩

theorem IsWritten.complete
    {parser : Parser} {arguments : List String}
    (knows : KnowsApplication parser) (isWritten : IsWritten arguments) :
    Complete parser arguments := by
  rcases isWritten with ⟨directives, rfl, areApplication⟩
  apply complete_directives
  · exact fun directive member =>
      isLongName_of_isApplication (areApplication directive member)
  · exact fun directive member =>
      known_of_isApplication knows (areApplication directive member)

theorem isWritten_boolArg
    {enabled disabled : String}
    (listedEnabled : (enabled, 0) ∈ applicationOptions)
    (listedDisabled : (disabled, 0) ∈ applicationOptions) (value : Value) :
    IsWritten (boolArg enabled disabled value) := by
  rw [boolArg]
  split
  · exact isWritten_flag listedEnabled
  · exact isWritten_flag listedDisabled

theorem isWritten_parseMetadataArgs (value : Value) :
    IsWritten (parseMetadataArgs value) := by
  rw [parseMetadataArgs]
  induction value.members with
  | nil => exact isWritten_nil
  | cons expression rest induction =>
      rw [List.flatMap_cons]
      exact (isWritten_value (by decide) expression).append induction

/-- Every structured field is rendered with options of the application. -/
theorem isWritten_fieldToArgs
    {entry : String × (Value → List String)} (member : entry ∈ fieldToArgs)
    (value : Value) :
    IsWritten (entry.2 value) := by
  simp only [fieldToArgs, List.mem_cons, List.not_mem_nil, or_false] at member
  rcases member with rfl | rfl | rfl | rfl | rfl | rfl | rfl | rfl | rfl |
    rfl | rfl | rfl | rfl
  · exact isWritten_value (by decide) value.str
  · exact (isWritten_value (by decide) value.str).append
      (isWritten_value (by decide) value.str)
  · show IsWritten (audioExtractArgs value)
    rw [audioExtractArgs]
    split
    · exact isWritten_flag (by decide)
    · exact isWritten_nil
  · exact isWritten_value (by decide) value.str
  · exact isWritten_value (by decide) value.str
  · exact isWritten_boolArg (by decide) (by decide) value
  · exact isWritten_boolArg (by decide) (by decide) value
  · exact isWritten_boolArg (by decide) (by decide) value
  · show IsWritten (subtitleLangArgs value)
    rw [subtitleLangArgs]
    split
    · exact isWritten_flag (by decide)
    · exact (isWritten_flag (by decide)).append
        (isWritten_value (by decide) value.str)
  · exact isWritten_boolArg (by decide) (by decide) value
  · exact isWritten_boolArg (by decide) (by decide) value
  · exact isWritten_value (by decide) value.str
  · exact isWritten_parseMetadataArgs value

/-- A loop which adds written arguments in every round adds written ones. -/
theorem args_foldl
    {Entry : Type} {entries : List Entry}
    {round : CommandAccumulator → Entry → CommandAccumulator}
    (adds : ∀ entry ∈ entries, ∀ accumulator, ∃ written, IsWritten written ∧
      (round accumulator entry).args = accumulator.args ++ written)
    (accumulator : CommandAccumulator) :
    ∃ written, IsWritten written ∧
      (entries.foldl round accumulator).args = accumulator.args ++ written := by
  induction entries generalizing accumulator with
  | nil => exact ⟨[], isWritten_nil, (List.append_nil _).symm⟩
  | cons entry rest induction =>
      rcases adds entry List.mem_cons_self accumulator with
        ⟨first, isFirst, addsFirst⟩
      rcases induction
          (fun later member => adds later (List.mem_cons_of_mem _ member))
          (round accumulator entry) with
        ⟨second, isSecond, addsSecond⟩
      exact ⟨first ++ second, isFirst.append isSecond, by
        rw [List.foldl_cons, addsSecond, addsFirst, List.append_assoc]⟩

theorem args_commonRateArgs
    (settings : String → Option Value) (accumulator : CommandAccumulator) :
    ∃ written, IsWritten written ∧
      (commonRateArgs settings accumulator).args =
        accumulator.args ++ written := by
  apply args_foldl
  intro entry member accumulator
  have areListed : ∀ entry ∈ rateOptions,
      (entry.2, 1) ∈ applicationOptions := by
    decide
  exact ⟨_, isWritten_value (areListed entry member) _,
    CommandAccumulator.args_add _ _ _ _ _⟩

theorem args_renderStructured
    (resolved : ResolvedFields) (accumulator : CommandAccumulator) :
    ∃ written, IsWritten written ∧
      (renderStructured resolved accumulator).args =
        accumulator.args ++ written := by
  apply args_foldl
  intro entry member accumulator
  cases resolved entry.1 with
  | none => exact ⟨[], isWritten_nil, (List.append_nil _).symm⟩
  | some field =>
      exact ⟨_, isWritten_fieldToArgs member field.value,
        CommandAccumulator.args_add _ _ _ _ _⟩

/-! ## Freeform tokens -/

/-- The tokens of a freeform text. -/
def textTokens (value : Option String) : List String :=
  match value with
  | none => []
  | some text =>
      if text.toList.all isSpace then []
      else
        match Shlex.split text with
        | .error _ => []
        | .ok tokens => tokens

theorem tokens_guardFreeform
    {value : Option String} {sourceLabel : String}
    {permissions : Permissions} {commandKind : CommandKind}
    {guarded : GuardedTokens}
    (accepted : guardFreeform value sourceLabel permissions commandKind =
      .ok guarded) :
    guarded.tokens = textTokens value := by
  rw [guardFreeform.eq_def] at accepted
  split at accepted
  · cases accepted
    rfl
  · next text =>
      split at accepted
      · next isBlank =>
          cases accepted
          simp only [textTokens, isBlank, ite_true]
      · next notBlank =>
          split at accepted
          · cases accepted
          · next tokens isSplit =>
              have isTokens : textTokens (some text) = tokens := by
                simp only [textTokens, notBlank, isSplit]
                simp
              rw [isTokens]
              exact (guardOptions_eq_ok accepted).1

theorem mem_add {members : List String} {member other : String} :
    other ∈ add members member ↔ other ∈ members ∨ other = member := by
  rw [add]
  split
  · next contained =>
      constructor
      · exact Or.inl
      · rintro (inMembers | rfl)
        · exact inMembers
        · exact List.contains_iff_mem.mp contained
  · simp

theorem reservedOverrides_withReason
    (sourceLabel : String) (commandKind : CommandKind) (option : String)
    (guarded : GuardedTokens) :
    (withReason sourceLabel commandKind option guarded).reservedOverrides =
      guarded.reservedOverrides := by
  rw [withReason]
  split
  · rfl
  · split
    · rfl
    · rfl

/-- Without expert mode only the exec options are overridden. -/
theorem overrides_guardOption
    {sourceLabel : String} {permissions : Permissions}
    {commandKind : CommandKind} {guarded next : GuardedTokens}
    {option : String} (notExpert : permissions.expertMode = false)
    (passed : guardOption sourceLabel permissions commandKind guarded option =
      .ok next)
    (onlyExec : ∀ name ∈ guarded.reservedOverrides, name ∈ execOptions) :
    ∀ name ∈ next.reservedOverrides, name ∈ execOptions := by
  rw [guardOption] at passed
  split at passed
  · cases passed
  split at passed
  · cases passed
  split at passed
  · cases passed
  split at passed
  · cases passed
  split at passed
  · next isExec =>
      split at passed
      · cases passed
        intro name member
        rcases mem_add.mp member with inOverrides | rfl
        · exact onlyExec name inOverrides
        · exact isExec
      · cases passed
  split at passed
  · rw [notExpert] at passed
    cases passed
  · cases passed
    rw [reservedOverrides_withReason]
    exact onlyExec

theorem overrides_guardOptions
    {sourceLabel : String} {permissions : Permissions}
    {commandKind : CommandKind} {occurrences : List ParsedOption}
    {guarded finish : GuardedTokens}
    (notExpert : permissions.expertMode = false)
    (passed : guardOptions sourceLabel permissions commandKind occurrences
      guarded = .ok finish)
    (onlyExec : ∀ name ∈ guarded.reservedOverrides, name ∈ execOptions) :
    ∀ name ∈ finish.reservedOverrides, name ∈ execOptions := by
  induction occurrences generalizing guarded with
  | nil =>
      cases passed
      exact onlyExec
  | cons occurrence rest induction =>
      rw [guardOptions] at passed
      split at passed
      · cases passed
      · next next passedHere =>
          exact induction passed
            (overrides_guardOption notExpert passedHere onlyExec)

theorem overrides_guardFreeform
    {value : Option String} {sourceLabel : String}
    {permissions : Permissions} {commandKind : CommandKind}
    {guarded : GuardedTokens} (notExpert : permissions.expertMode = false)
    (accepted : guardFreeform value sourceLabel permissions commandKind =
      .ok guarded) :
    ∀ name ∈ guarded.reservedOverrides, name ∈ execOptions := by
  rw [guardFreeform.eq_def] at accepted
  split at accepted
  · cases accepted
    simp
  · split at accepted
    · cases accepted
      simp
    · split at accepted
      · cases accepted
      · exact overrides_guardOptions notExpert accepted (by simp)

theorem mem_foldl_add
    {members added : List String} {name : String}
    (member : name ∈ added.foldl add members) :
    name ∈ members ∨ name ∈ added := by
  induction added generalizing members with
  | nil => exact Or.inl member
  | cons first rest induction =>
      rcases induction member with inMembers | inRest
      · rcases mem_add.mp inMembers with here | rfl
        · exact Or.inl here
        · exact Or.inr List.mem_cons_self
      · exact Or.inr (List.mem_cons_of_mem _ inRest)

/-- The tokens of guarded layers are those of their texts. -/
theorem guardLayers_eq_ok
    {permissions : Permissions} {commandKind : CommandKind}
    {layers : List FreeformLayer} {found guarded : GuardedLayers}
    (notExpert : permissions.expertMode = false)
    (passed : guardLayers permissions commandKind layers found = .ok guarded)
    (onlyExec : ∀ name ∈ found.overridden, name ∈ execOptions) :
    guarded.layers.flatMap (·.guarded.tokens) =
        found.layers.flatMap (·.guarded.tokens) ++
          (layers.map FreeformLayer.value).flatMap textTokens ∧
      ∀ name ∈ guarded.overridden, name ∈ execOptions := by
  induction layers generalizing found with
  | nil =>
      cases passed
      exact ⟨(List.append_nil _).symm, onlyExec⟩
  | cons layer rest induction =>
      rw [guardLayers] at passed
      split at passed
      · cases passed
      · next tokens accepted =>
          rcases induction passed (by
            intro name member
            rcases mem_foldl_add member with inFound | inTokens
            · exact onlyExec name inFound
            · exact overrides_guardFreeform notExpert accepted name
                inTokens) with ⟨sameTokens, onlyExecLater⟩
          constructor
          · rw [sameTokens]
            simp [tokens_guardFreeform accepted]
          · exact onlyExecLater

theorem args_addGuardedLayers
    (layers : List GuardedLayer) (accumulator : CommandAccumulator) :
    (addGuardedLayers layers accumulator).args =
      accumulator.args ++ layers.flatMap (·.guarded.tokens) := by
  rw [addGuardedLayers]
  induction layers generalizing accumulator with
  | nil => exact (List.append_nil _).symm
  | cons layer rest induction =>
      rw [List.foldl_cons, induction, CommandAccumulator.args_add,
        List.flatMap_cons, List.append_assoc]

/-! ## Built commands -/

/-- The arguments of the settings. -/
def rateArgs (settings : String → Option Value) : List String :=
  (commonRateArgs settings {}).args

/-- The arguments of the settings and of the structured fields. -/
def structuredArgs (settings : String → Option Value)
    (structured : ResolvedFields) : List String :=
  (renderStructured structured (commonRateArgs settings {})).args

/-- The arguments about file names of a download. -/
def fileNameArgs (settings : String → Option Value)
    (request : DownloadRequest) : List String :=
  if request.strategyName = "flat" then
    ["--windows-filenames", "--trim-filenames",
      pyStr (settings "download.trim_filenames")]
  else ["--windows-filenames"]

/-- What a command is built from, in the order of its arguments. -/
structure Composition where
  /-- What is written for settings and structured fields. -/
  written : List String
  /-- The freeform texts of the layers. -/
  texts : List (Option String)
  /-- The directives of the application. -/
  directives : List Directive
  url : String

/-- The freeform tokens. -/
def Composition.freeform (composition : Composition) : List String :=
  composition.texts.flatMap textTokens

/-- A builder has accepted a composition without expert mode. -/
inductive Built (surroundings : Surroundings) :
    Composition → BuiltCommand → Prop where
  | discover (playlist : Playlist) (profile : Option Profile)
      (overrides : OptionOverrides) (envAllowExec : Bool)
      (command : BuiltCommand)
      (notExpert : hasExpertMode profile = false)
      (accepted : buildDiscoverArgs surroundings playlist profile overrides
        envAllowExec = .ok command) :
      Built surroundings
        { written := rateArgs surroundings.settings
          texts := [playlist.ytdlpArgs, overrides.ytdlpArgs]
          directives := discoverDirectives
          url := playlist.url } command
  | formatProbe (profile : Profile) (sourceUrl : String)
      (envAllowExec : Bool) (structured : ResolvedFields)
      (command : BuiltCommand)
      (notExpert : profile.expertMode = false)
      (resolved : resolveStructuredFields surroundings.settings
        (kindText profile.kind) (some profile) {} = .ok structured)
      (accepted : buildFormatProbeArgs surroundings profile sourceUrl
        envAllowExec = .ok command) :
      Built surroundings
        { written := structuredArgs surroundings.settings structured
          texts := [profile.ytdlpArgs]
          directives := formatProbeDirectives
          url := sourceUrl } command
  | download (request : DownloadRequest) (layout : ResolvedLayout)
      (structured : ResolvedFields) (command : BuiltCommand)
      (notExpert : hasExpertMode request.profile = false)
      (hasLayout : request.layout surroundings = .ok layout)
      (resolved : resolveStructuredFields surroundings.settings
        request.selectedKind request.profile request.overrides =
          .ok structured)
      (accepted : buildDownloadArgs surroundings request = .ok command) :
      Built surroundings
        { written := structuredArgs surroundings.settings structured ++
            fileNameArgs surroundings.settings request
          texts := [request.profile.bind Profile.ytdlpArgs,
            request.playlist.bind Playlist.ytdlpArgs,
            request.overrides.ytdlpArgs]
          directives := downloadDirectives request.workRoot request.tempRoot
            layout.relativeOutputTemplate
          url := request.sourceUrl } command

/-- The command line of a composition. -/
def Composition.args (composition : Composition) : List String :=
  composition.written ++ composition.freeform ++
    composition.directives.flatMap Directive.tokens ++ ["--", composition.url]

theorem isWritten_rateArgs (settings : String → Option Value) :
    IsWritten (rateArgs settings) := by
  rcases args_commonRateArgs settings {} with ⟨rates, areWritten, same⟩
  rw [rateArgs, same]
  exact areWritten

theorem isWritten_structuredArgs
    (settings : String → Option Value) (structured : ResolvedFields) :
    IsWritten (structuredArgs settings structured) := by
  rcases args_renderStructured structured (commonRateArgs settings {}) with
    ⟨fields, areWritten, same⟩
  rw [structuredArgs, same]
  exact (isWritten_rateArgs settings).append areWritten

theorem isWritten_fileNameArgs
    (settings : String → Option Value) (request : DownloadRequest) :
    IsWritten (fileNameArgs settings request) := by
  have isFlag : IsWritten ["--windows-filenames"] :=
    isWritten_flag (by decide)
  rw [fileNameArgs]
  split
  · exact isFlag.append (isWritten_value (by decide) _)
  · exact isFlag

/-- The arguments of the settings and fields are directives of their own. -/
theorem isWritten_of_built
    {surroundings : Surroundings} {composition : Composition}
    {command : BuiltCommand}
    (isBuilt : Built surroundings composition command) :
    IsWritten composition.written := by
  cases isBuilt with
  | discover => exact isWritten_rateArgs _
  | formatProbe => exact isWritten_structuredArgs _ _
  | download =>
      exact (isWritten_structuredArgs _ _).append (isWritten_fileNameArgs _ _)

theorem isApplication_of_built
    {surroundings : Surroundings} {composition : Composition}
    {command : BuiltCommand}
    (isBuilt : Built surroundings composition command) :
    ∀ directive ∈ composition.directives, IsApplication directive := by
  cases isBuilt with
  | discover => simp [discoverDirectives, IsApplication, applicationOptions]
  | formatProbe =>
      simp [formatProbeDirectives, IsApplication, applicationOptions]
  | download => simp [downloadDirectives, IsApplication, applicationOptions]

/-- A text with another character is not `--`. -/
theorem ne_hyphens_of_mem
    {text : String} (char : Char) (member : char ∈ text.toList)
    (notHyphen : char ≠ '-') :
    "--" ≠ text := by
  rintro rfl
  rcases List.mem_cons.mp member with here | inRest
  · exact notHyphen here
  · exact notHyphen (List.mem_singleton.mp inRest)

theorem hyphens_notMem_downloadDirectives
    (workRoot tempRoot : PurePosixPath) (layout : ResolvedLayout) :
    "--" ∉ (downloadDirectives workRoot tempRoot
      layout.relativeOutputTemplate).flatMap Directive.tokens := by
  have home : "--" ≠ "home:" ++ workRoot.asPosix :=
    ne_hyphens_of_mem ':' (by simp) (by decide)
  have temp : "--" ≠ "temp:" ++ tempRoot.asPosix :=
    ne_hyphens_of_mem ':' (by simp) (by decide)
  have output : "--" ≠ layout.relativeOutputTemplate :=
    ne_hyphens_of_mem '/' (by simp [ResolvedLayout.relativeOutputTemplate])
      (by decide)
  have progress : "--" ≠ "download:" ++ progressPrefix ++ "%(progress)j" :=
    ne_hyphens_of_mem ':' (by simp) (by decide)
  have print : "--" ≠ "after_move:" ++ printPrefix ++ "%(filepath)s" :=
    ne_hyphens_of_mem ':' (by simp) (by decide)
  have result : "--" ≠ "after_move:" ++ resultPrefix ++ resultTemplate :=
    ne_hyphens_of_mem ':' (by simp) (by decide)
  simp [downloadDirectives, Directive.tokens, home, temp, output, progress,
    print, result]

/-- The application writes no `--` but before the source. -/
theorem hyphens_notMem_of_built
    {surroundings : Surroundings} {composition : Composition}
    {command : BuiltCommand}
    (isBuilt : Built surroundings composition command) :
    "--" ∉ composition.directives.flatMap Directive.tokens := by
  have print : "--" ≠ printPrefix ++ "%()j" :=
    ne_hyphens_of_mem 'S' (by simp [printPrefix]) (by decide)
  cases isBuilt with
  | discover => simp [discoverDirectives, Directive.tokens, print]
  | formatProbe => simp [formatProbeDirectives, Directive.tokens, print]
  | download => exact hyphens_notMem_downloadDirectives _ _ _

theorem args_buildDiscoverArgs
    {surroundings : Surroundings} {playlist : Playlist}
    {profile : Option Profile} {overrides : OptionOverrides}
    {envAllowExec : Bool} {command : BuiltCommand}
    (notExpert : hasExpertMode profile = false)
    (accepted : buildDiscoverArgs surroundings playlist profile overrides
      envAllowExec = .ok command) :
    command.args = rateArgs surroundings.settings ++
      [playlist.ytdlpArgs, overrides.ytdlpArgs].flatMap textTokens ++
      discoverDirectives.flatMap Directive.tokens ++ ["--", playlist.url] := by
  simp only [buildDiscoverArgs] at accepted
  split at accepted
  · cases accepted
  · next guarded passed =>
      rcases guardLayers_eq_ok notExpert passed (by simp) with
        ⟨sameTokens, onlyExec⟩
      have noPrint : "--print" ∉ guarded.overridden := fun member =>
        absurd (onlyExec _ member) (by decide)
      split at accepted
      · cases accepted
      · cases accepted
        rw [if_neg noPrint]
        simp only [CommandAccumulator.args_add, args_addGuardedLayers,
          sameTokens]
        simp [rateArgs, discoverDirectives, Directive.tokens]

theorem args_buildFormatProbeArgs
    {surroundings : Surroundings} {profile : Profile} {sourceUrl : String}
    {envAllowExec : Bool} {structured : ResolvedFields}
    {command : BuiltCommand}
    (notExpert : profile.expertMode = false)
    (resolved : resolveStructuredFields surroundings.settings
      (kindText profile.kind) (some profile) {} = .ok structured)
    (accepted : buildFormatProbeArgs surroundings profile sourceUrl
      envAllowExec = .ok command) :
    command.args = structuredArgs surroundings.settings structured ++
      [profile.ytdlpArgs].flatMap textTokens ++
      formatProbeDirectives.flatMap Directive.tokens ++
      ["--", sourceUrl] := by
  simp only [buildFormatProbeArgs, resolved] at accepted
  split at accepted
  · cases accepted
  split at accepted
  · cases accepted
  next guarded passed =>
    rcases guardLayers_eq_ok
      (show (permissionsOf (some profile) envAllowExec).expertMode = false
        from notExpert) passed (by simp) with ⟨sameTokens, -⟩
    split at accepted
    · cases accepted
    · cases accepted
      simp only [CommandAccumulator.args_add, args_addGuardedLayers,
        sameTokens]
      simp [structuredArgs, formatProbeDirectives, Directive.tokens]

theorem args_addDownloadReserved
    {request : DownloadRequest} {relativeOutput : String}
    {reserved : List String} (accumulator : CommandAccumulator)
    (onlyExec : ∀ name ∈ reserved, name ∈ execOptions) :
    (addDownloadReserved request relativeOutput reserved accumulator).args =
      accumulator.args ++ (downloadDirectives request.workRoot
        request.tempRoot relativeOutput).flatMap Directive.tokens := by
  have noPaths : "--paths" ∉ reserved := fun member =>
    absurd (onlyExec _ member) (by decide)
  have noTemplate : "--progress-template" ∉ reserved := fun member =>
    absurd (onlyExec _ member) (by decide)
  have noPrint : "--print" ∉ reserved := fun member =>
    absurd (onlyExec _ member) (by decide)
  simp only [addDownloadReserved, if_neg noPaths, if_neg noTemplate,
    if_neg noPrint, CommandAccumulator.args_add]
  simp [downloadDirectives, Directive.tokens]

theorem texts_freeformLayers (request : DownloadRequest) :
    request.freeformLayers.map FreeformLayer.value =
      [request.profile.bind Profile.ytdlpArgs,
        request.playlist.bind Playlist.ytdlpArgs,
        request.overrides.ytdlpArgs] := by
  rw [DownloadRequest.freeformLayers]
  cases request.profile <;> cases request.playlist <;> rfl

theorem args_buildDownloadArgs
    {surroundings : Surroundings} {request : DownloadRequest}
    {layout : ResolvedLayout} {structured : ResolvedFields}
    {command : BuiltCommand}
    (notExpert : hasExpertMode request.profile = false)
    (hasLayout : request.layout surroundings = .ok layout)
    (resolved : resolveStructuredFields surroundings.settings
      request.selectedKind request.profile request.overrides = .ok structured)
    (accepted : buildDownloadArgs surroundings request = .ok command) :
    command.args = structuredArgs surroundings.settings structured ++
      fileNameArgs surroundings.settings request ++
      [request.profile.bind Profile.ytdlpArgs,
        request.playlist.bind Playlist.ytdlpArgs,
        request.overrides.ytdlpArgs].flatMap textTokens ++
      (downloadDirectives request.workRoot request.tempRoot
        layout.relativeOutputTemplate).flatMap Directive.tokens ++
      ["--", request.sourceUrl] := by
  simp only [buildDownloadArgs, hasLayout, resolved] at accepted
  split at accepted
  · cases accepted
  split at accepted
  · cases accepted
  split at accepted
  · cases accepted
  next guarded passed =>
    rcases guardLayers_eq_ok notExpert passed (by simp) with
      ⟨sameTokens, onlyExec⟩
    cases accepted
    rw [fileNameArgs]
    split
    · simp only [CommandAccumulator.args_add, args_addGuardedLayers,
        args_addDownloadReserved _ onlyExec, sameTokens, texts_freeformLayers]
      simp [structuredArgs]
    · simp only [CommandAccumulator.args_add, args_addGuardedLayers,
        args_addDownloadReserved _ onlyExec, sameTokens, texts_freeformLayers]
      simp [structuredArgs]

/-- Only the directives of the application follow the freeform tokens. -/
theorem args_of_built
    {surroundings : Surroundings} {composition : Composition}
    {command : BuiltCommand}
    (isBuilt : Built surroundings composition command) :
    command.args = composition.args := by
  cases isBuilt with
  | discover playlist profile overrides envAllowExec command notExpert
      accepted =>
      exact args_buildDiscoverArgs notExpert accepted
  | formatProbe profile sourceUrl envAllowExec structured command notExpert
      resolved accepted =>
      exact args_buildFormatProbeArgs notExpert resolved accepted
  | download request layout structured command notExpert hasLayout resolved
      accepted =>
      exact args_buildDownloadArgs notExpert hasLayout resolved accepted

/-! ## Placement -/

/-- What the application means by the tokens which it puts last. -/
def meantRoles (parser : Parser) (directives : List Directive) : List Role :=
  directives.flatMap (Directive.roles parser) ++ [.terminator, .positional]

/-- The directive which `add_cookie_argument` puts in. -/
def cookieDirective (path : String) : Directive :=
  { name := "--cookies", value := some path }

/--
The command line with the cookie put in is accepted; each argument of the
application is read as it is meant, at the place where it was written, and
nothing but the source is read as a positional argument.
-/
def Undisplaced (parser : Parser) (directives : List Directive)
    (args : List String) (cookie : Option String) : Prop :=
  match cookie with
  | none => ∃ first,
      parse parser args = .ok (first ++ meantRoles parser directives) ∧
        Role.positional ∉ first
  | some path => ∃ first before after,
      parse parser (addCookieArgument args (some path)) =
          .ok (before ++ (cookieDirective path).roles parser ++ after) ∧
        before.length = args.idxOf "--" ∧
        before ++ after = first ++ meantRoles parser directives ∧
        Role.positional ∉ first

section Placement

variable {parser : Parser} {directives : List Directive}
  {preceding args : List String} {url : String}

theorem roles_applicationDirectives
    (knows : KnowsApplication parser)
    (areApplication : ∀ directive ∈ directives, IsApplication directive) :
    roles parser .options (directives.flatMap Directive.tokens) =
      .ok (directives.flatMap (Directive.roles parser), .options) := by
  apply roles_directives
  · exact fun directive member =>
      isLongName_of_isApplication (areApplication directive member)
  · exact fun directive member =>
      known_of_isApplication knows (areApplication directive member)

theorem roles_meant
    (knows : KnowsApplication parser)
    (areApplication : ∀ directive ∈ directives, IsApplication directive)
    (url : String) :
    roles parser .options
        (directives.flatMap Directive.tokens ++ ["--", url]) =
      .ok (meantRoles parser directives, .positionals) :=
  roles_append_eq_ok_iff.mpr
    ⟨_, .options, _, roles_applicationDirectives knows areApplication,
      roles_terminator parser [url], rfl⟩

/-- The first of the meant roles is met only where options are read. -/
theorem mode_of_meantRoles
    {mode finish : Mode} (knows : KnowsApplication parser)
    (areApplication : ∀ directive ∈ directives, IsApplication directive)
    (read : roles parser mode
      (directives.flatMap Directive.tokens ++ ["--", url]) =
        .ok (meantRoles parser directives, finish)) :
    mode = .options := by
  cases directives with
  | nil =>
      rcases roles_cons_eq_ok_iff.mp read with
        ⟨role, next, later, stepped, -, same⟩
      cases same
      exact mode_eq_options_of_step stepped (Or.inl rfl)
  | cons directive rest =>
      rcases known_of_isApplication knows
        (areApplication directive List.mem_cons_self) with
        ⟨option, isName, -⟩
      rw [List.flatMap_cons, Directive.tokens] at read
      rcases roles_cons_eq_ok_iff.mp read with
        ⟨role, next, later, stepped, -, same⟩
      rw [meantRoles, List.flatMap_cons, Directive.roles, isName] at same
      cases same
      exact mode_eq_options_of_step stepped (Or.inr ⟨[option], rfl⟩)

/-- Roles at the end of a command line are those of the tokens at its end. -/
theorem roles_split
    {mode finish : Mode} {left right : List String} {first second : List Role}
    (sameLength : right.length = second.length)
    (read : roles parser mode (left ++ right) =
      .ok (first ++ second, finish)) :
    ∃ middle, roles parser mode left = .ok (first, middle) ∧
      roles parser middle right = .ok (second, finish) := by
  rcases roles_append_eq_ok_iff.mp read with
    ⟨readFirst, middle, readSecond, isFirst, isSecond, same⟩
  have lengths : second.length = readSecond.length := by
    rw [← sameLength, length_roles isSecond]
  rcases List.append_inj' same lengths with ⟨rfl, rfl⟩
  exact ⟨middle, isFirst, isSecond⟩

theorem length_meantRoles
    (knows : KnowsApplication parser)
    (areApplication : ∀ directive ∈ directives, IsApplication directive)
    (url : String) :
    (directives.flatMap Directive.tokens ++ ["--", url]).length =
      (meantRoles parser directives).length :=
  (length_roles (roles_meant knows areApplication url)).symm

/-- What comes before arguments in their place is read on its own. -/
theorem roles_preceding
    {first : List Role} (knows : KnowsApplication parser)
    (areApplication : ∀ directive ∈ directives, IsApplication directive)
    (parsed : parse parser
      (preceding ++ (directives.flatMap Directive.tokens ++ ["--", url])) =
        .ok (first ++ meantRoles parser directives)) :
    roles parser .options preceding = .ok (first, .options) := by
  rcases parse_eq_ok_iff.mp parsed with ⟨finish, read, -⟩
  rcases roles_split (length_meantRoles knows areApplication url) read with
    ⟨middle, readFirst, readMeant⟩
  rw [mode_of_meantRoles knows areApplication readMeant] at readFirst
  exact readFirst

/-- Without a cookie what comes before must be complete. -/
theorem undisplaced_none_iff
    (knows : KnowsApplication parser)
    (areApplication : ∀ directive ∈ directives, IsApplication directive) :
    Undisplaced parser directives
        (preceding ++ (directives.flatMap Directive.tokens ++ ["--", url]))
        none ↔ Complete parser preceding := by
  constructor
  · rintro ⟨first, parsed, noPositional⟩
    exact ⟨first, roles_preceding knows areApplication parsed, noPositional⟩
  · rintro ⟨first, readFirst, noPositional⟩
    apply Exists.intro first
    constructor
    · apply parse_eq_ok_iff.mpr
      apply Exists.intro .positionals
      exact ⟨roles_append_eq_ok_iff.mpr
        ⟨first, .options, _, readFirst, roles_meant knows areApplication url,
          rfl⟩, Or.inr rfl⟩
    · exact noPositional

/-- The cookie is put before the source when no earlier token is `--`. -/
theorem addCookieArgument_of_notMem
    {body : List String} (absent : "--" ∉ body) (url path : String) :
    (body ++ ["--", url]).idxOf "--" = body.length ∧
      addCookieArgument (body ++ ["--", url]) (some path) =
        body ++ (cookieDirective path).tokens ++ ["--", url] := by
  have index : (body ++ ["--", url]).idxOf "--" = body.length := by
    rw [List.idxOf_append_of_notMem absent, List.idxOf_cons_self,
      Nat.add_zero]
  constructor
  · exact index
  · rw [addCookieArgument, index, List.take_left, List.drop_left]
    rfl

theorem isApplication_cookieDirective (path : String) :
    IsApplication (cookieDirective path) := by
  simp [IsApplication, cookieDirective, applicationOptions]

theorem roles_cookieDirective
    (knows : KnowsApplication parser) (path : String) :
    roles parser .options (cookieDirective path).tokens =
      .ok ((cookieDirective path).roles parser, .options) :=
  roles_directive
    (isLongName_of_isApplication (isApplication_cookieDirective path))
    (known_of_isApplication knows (isApplication_cookieDirective path))

theorem undisplaced_some_of_complete
    (knows : KnowsApplication parser)
    (areApplication : ∀ directive ∈ directives, IsApplication directive)
    (isComplete : Complete parser preceding)
    (absent : "--" ∉ preceding ++ directives.flatMap Directive.tokens)
    (url path : String) :
    Undisplaced parser directives
      (preceding ++ directives.flatMap Directive.tokens ++ ["--", url])
      (some path) := by
  rcases isComplete with ⟨first, readFirst, noPositional⟩
  rcases addCookieArgument_of_notMem absent url path with ⟨index, inserted⟩
  have readBody : roles parser .options
      (preceding ++ directives.flatMap Directive.tokens) =
        .ok (first ++ directives.flatMap (Directive.roles parser),
          .options) :=
    roles_append_eq_ok_iff.mpr ⟨first, .options, _, readFirst,
      roles_applicationDirectives knows areApplication, rfl⟩
  have readCookie := roles_append_eq_ok_iff.mpr
    ⟨_, .options, _, readBody, roles_cookieDirective knows path, rfl⟩
  have readAll := roles_append_eq_ok_iff.mpr
    ⟨_, .options, _, readCookie, roles_terminator parser [url], rfl⟩
  apply Exists.intro first
  apply Exists.intro (first ++ directives.flatMap (Directive.roles parser))
  apply Exists.intro [.terminator, .positional]
  constructor
  · rw [inserted]
    exact parse_eq_ok_iff.mpr ⟨.positionals, readAll, Or.inr rfl⟩
  constructor
  · rw [index, length_roles readBody]
  constructor
  · rw [meantRoles, List.append_assoc]
  · exact noPositional

/-- A cookie which is read as a cookie leaves the rest as it was. -/
theorem roles_of_undisplaced_some
    {line : List String} {path : String} {before after : List Role}
    (knows : KnowsApplication parser)
    (parsed : parse parser (addCookieArgument line (some path)) =
      .ok (before ++ (cookieDirective path).roles parser ++ after))
    (atCookie : before.length = line.idxOf "--") :
    ∃ finish, (finish = .options ∨ finish = .positionals) ∧
      roles parser .options (line.take (line.idxOf "--")) =
        .ok (before, .options) ∧
      roles parser .options (line.drop (line.idxOf "--")) =
        .ok (after, finish) := by
  rcases parse_eq_ok_iff.mp parsed with ⟨finish, read, isEnd⟩
  have index : line.idxOf "--" ≤ line.length := List.idxOf_le_length
  rcases roles_append_eq_ok_iff.mp read with
    ⟨readCookie, middle, readAfter, isCookie, isAfter, same⟩
  have lengths : before.length + 2 = readCookie.length := by
    rw [length_roles isCookie, List.length_append, List.length_take]
    simp only [List.length_cons, List.length_nil]
    omega
  rcases known_of_isApplication knows (isApplication_cookieDirective path) with
    ⟨option, isName, arity⟩
  have meant : (cookieDirective path).roles parser =
      [.options [option], .value option] := by
    rw [Directive.roles, isName]
    rfl
  rcases List.append_inj same (by
    rw [List.length_append, meant]
    exact lengths) with ⟨rfl, rfl⟩
  rcases roles_split (by rw [meant]; rfl) isCookie with
    ⟨atOption, readBefore, readHere⟩
  have isOptions : atOption = .options := by
    rw [meant] at readHere
    rcases roles_cons_eq_ok_iff.mp readHere with
      ⟨role, next, later, stepped, -, sameRoles⟩
    cases sameRoles
    exact mode_eq_options_of_step stepped (Or.inr ⟨[option], rfl⟩)
  rw [isOptions] at readBefore readHere
  have isMiddle : middle = .options := by
    have readDirective := roles_cookieDirective knows path
    rw [show (cookieDirective path).tokens = ["--cookies", path] from rfl,
      readHere] at readDirective
    cases readDirective
    rfl
  rw [isMiddle] at isAfter
  exact ⟨finish, isEnd, readBefore, isAfter⟩

/-- A cookie in its place is at the source, and what precedes is complete. -/
theorem complete_of_undisplaced_some
    {path : String} (knows : KnowsApplication parser)
    (areApplication : ∀ directive ∈ directives, IsApplication directive)
    (undisplaced : Undisplaced parser directives
      (preceding ++ directives.flatMap Directive.tokens ++ ["--", url])
      (some path)) :
    Complete parser preceding ∧
      "--" ∉ preceding ++ directives.flatMap Directive.tokens := by
  rcases undisplaced with
    ⟨first, before, after, parsed, atCookie, same, noPositional⟩
  rcases roles_of_undisplaced_some knows parsed atCookie with
    ⟨finish, isEnd, readBefore, readAfter⟩
  have readLine := roles_append_eq_ok_iff.mpr
    ⟨before, .options, after, readBefore, readAfter, rfl⟩
  rw [List.take_append_drop, same, List.append_assoc] at readLine
  have readFirst := roles_preceding knows areApplication
    (parse_eq_ok_iff.mpr ⟨finish, readLine, isEnd⟩)
  constructor
  · exact ⟨first, readFirst, noPositional⟩
  · intro member
    have readBody := roles_append_eq_ok_iff.mpr
      ⟨first, .options, _, readFirst,
        roles_applicationDirectives knows areApplication, rfl⟩
    -- The cookie stands before a token of the body, and that token is `--`.
    have inside := List.idxOf_lt_length_of_mem member
    rw [List.idxOf_append_of_mem member] at atCookie readAfter
    rw [← length_roles readBody, ← atCookie] at inside
    have isTerminator : ∃ later, after = .terminator :: later := by
      rw [atCookie, length_roles readBody] at inside
      rw [List.drop_append_of_le_length inside.le,
        List.drop_eq_getElem_cons inside, List.getElem_idxOf inside,
        List.cons_append, roles_terminator] at readAfter
      cases readAfter
      exact ⟨_, rfl⟩
    rcases isTerminator with ⟨later, rfl⟩
    have found : (first ++ directives.flatMap (Directive.roles parser))[
        before.length]? = some .terminator := by
      have inLine : (first ++ directives.flatMap (Directive.roles parser) ++
          [.terminator, .positional])[before.length]? = _ :=
        List.getElem?_append_left inside
      rw [← inLine, List.append_assoc, ← meantRoles, ← same]
      simp
    exact terminator_notMem readBody (List.mem_of_getElem? found)

end Placement

/--
The arguments of the application are read as they are meant when, and only
when, the freeform tokens are options with all their values and, with a
cookie, no token before the application's is `--`.
-/
theorem application_undisplaced_iff
    {surroundings : Surroundings} {composition : Composition}
    {command : BuiltCommand} {parser : Parser}
    (isBuilt : Built surroundings composition command)
    (knows : KnowsApplication parser) (cookie : Option String) :
    Undisplaced parser composition.directives command.args cookie ↔
      Complete parser composition.freeform ∧
        (cookie.isSome → "--" ∉ composition.written ++
          composition.freeform) := by
  have areApplication := isApplication_of_built isBuilt
  have withoutWritten :
      Complete parser (composition.written ++ composition.freeform) ↔
        Complete parser composition.freeform :=
    ((isWritten_of_built isBuilt).complete knows).append_iff
  have inBody : "--" ∈ composition.written ++ composition.freeform ++
        composition.directives.flatMap Directive.tokens ↔
      "--" ∈ composition.written ++ composition.freeform := by
    rw [List.mem_append, or_iff_left (hyphens_notMem_of_built isBuilt)]
  rw [args_of_built isBuilt, Composition.args, ← withoutWritten]
  cases cookie with
  | none =>
      rw [List.append_assoc _ _ ["--", composition.url],
        undisplaced_none_iff knows areApplication]
      simp
  | some path =>
      constructor
      · intro undisplaced
        rcases complete_of_undisplaced_some knows areApplication undisplaced
          with ⟨isComplete, absent⟩
        exact ⟨isComplete, fun _ member => absent (inBody.mpr member)⟩
      · rintro ⟨isComplete, absent⟩
        exact undisplaced_some_of_complete knows areApplication isComplete
          (fun member => absent rfl (inBody.mp member)) composition.url path

/-- The options of the application, and a format by its short name. -/
def applicationParser : Parser :=
  { names := ["-f", "--format"], nargs := 1 } ::
    applicationOptions.map fun entry => { names := [entry.1], nargs := entry.2 }

theorem knowsApplication_applicationParser :
    KnowsApplication applicationParser := by
  have found : ∀ entry ∈ applicationOptions,
      (named applicationParser entry.1).map OptionDef.nargs = some entry.2 := by
    decide
  intro entry member
  exact Option.map_eq_some_iff.mp (found entry member)

/-- The code's defaults of the rates, and a layout below the folder name. -/
def defaultSurroundings : Surroundings where
  settings key :=
    (lookup
      [("download.sleep_requests", "1.5"), ("download.sleep_interval", "3"),
        ("download.max_sleep_interval", "12"), ("download.limit_rate", "8M"),
        ("download.retries", "5"), ("download.fragment_retries", "10")]
      key).map fun text => { str := text, truthy := true }
  sourceUrlError _ := none
  resolveLayout _ context :=
    .ok
      { subpath := context.playlistFolderName
        outputTemplate := "%(title).120B [%(id)s].%(ext)s" }

/-- A Playlist with a freeform text. -/
def playlistWith (text : String) : Playlist where
  name := "music"
  folderName := "music"
  url := "https://example.com/playlist"
  ytdlpArgs := some text

theorem application_undisplaced_format :
    ∃ command,
      Built defaultSurroundings
        { written := rateArgs defaultSurroundings.settings
          texts := [some "-f best", none]
          directives := discoverDirectives
          url := "https://example.com/playlist" } command ∧
      Undisplaced applicationParser discoverDirectives command.args
        (some "/run/sluicery/cookies.txt") := by
  have isBuilt : Built defaultSurroundings _ _ :=
    Built.discover (playlistWith "-f best") none {} false _ rfl rfl
  apply Exists.intro _
  constructor
  · exact isBuilt
  · apply (application_undisplaced_iff isBuilt
      knowsApplication_applicationParser (some "/run/sluicery/cookies.txt")).mpr
    constructor
    · exact ⟨[.options [{ names := ["-f", "--format"], nargs := 1 }],
        .value { names := ["-f", "--format"], nargs := 1 }], by rfl,
        by decide⟩
    · intro
      decide

/-- A freeform text which ends in `-f` takes `--flat-playlist` as its value. -/
theorem flatPlaylist_displaced_format :
    ∃ command,
      Built defaultSurroundings
        { written := rateArgs defaultSurroundings.settings
          texts := [some "-f", none]
          directives := discoverDirectives
          url := "https://example.com/playlist" } command ∧
      ¬ Undisplaced applicationParser discoverDirectives command.args none := by
  have isBuilt : Built defaultSurroundings _ _ :=
    Built.discover (playlistWith "-f") none {} false _ rfl rfl
  apply Exists.intro _
  constructor
  · exact isBuilt
  · intro undisplaced
    rw [args_of_built isBuilt, Composition.args,
      List.append_assoc _ _ ["--", _],
      undisplaced_none_iff knowsApplication_applicationParser
        (isApplication_of_built isBuilt)] at undisplaced
    rcases undisplaced with ⟨found, read, -⟩
    have missing : parse applicationParser
        (rateArgs defaultSurroundings.settings ++ ["-f"]) =
          .error .missingValue := by
      rfl
    have parsed : parse applicationParser
        (rateArgs defaultSurroundings.settings ++ ["-f"]) = .ok found :=
      parse_eq_ok_iff.mpr ⟨.options, read, Or.inl rfl⟩
    rw [missing] at parsed
    cases parsed

end Sluicery.Core.Options
