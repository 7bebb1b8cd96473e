import Sluicery.Core.OptionGuard
import Sluicery.Db.Models
import Sluicery.Library.PosixPath
import Mathlib.Data.List.Sort

/-!
# Composing command lines

`build_discover_args`, `build_format_probe_args` and `build_download_args` put
the layers of options after one another: the rates and the structured fields,
the guarded freeform texts, the arguments of the application itself, and last
the source after `--`.  A cookie is put in later by `add_cookie_argument`.
-/

namespace Sluicery.Core.Options

open Sluicery.Library Sluicery.Db

/-! ## Values and layers -/

/--
A Python value by what is read of it: `str`, `bool`, and its members.  A value
which is not iterable has no members here; as `parse_metadata` it would raise
a `TypeError`.
-/
structure Value where
  str : String
  truthy : Bool
  members : List String := []
deriving DecidableEq, Repr

/-- `str(value)`. -/
def pyStr : Option Value → String
  | none => "None"
  | some value => value.str

inductive Layer where
  | l1
  | l2
  | l3
  | l4
  | l5
  | l6
deriving DecidableEq, Repr

/-- `ArgumentOrigin`. -/
structure ArgumentOrigin where
  arguments : List String
  layer : Layer
  source : String
  field : Option String := none
deriving DecidableEq, Repr

/-- `TimeoutSpec`. -/
structure TimeoutSpec where
  idleSec : Option Value
  absoluteSec : Option Value
  termGraceSec : Option Value
deriving DecidableEq, Repr

/-- `BuiltCommand`. -/
structure BuiltCommand where
  args : List String
  origins : List ArgumentOrigin
  warnings : List String
  resolvedOutputPath : Option PurePosixPath
  timeout : TimeoutSpec
deriving DecidableEq, Repr

/-- `OptionOverrides`. -/
structure OptionOverrides where
  structured : List (String × Option Value) := []
  ytdlpArgs : Option String := none

/-- `_ResolvedField`. -/
structure ResolvedField where
  value : Value
  layer : Layer
  source : String
  field : String
deriving DecidableEq, Repr

/-- What is read of a Profile; `fields` gives its structured fields. -/
structure Profile where
  name : String
  kind : ProfileKind
  layoutStrategy : String := "flat"
  outputTemplate : Option String := none
  ytdlpArgs : Option String := none
  expertMode : Bool := false
  allowExec : Bool := false
  fields : String → Option Value := fun _ => none

/-- What is read of a Playlist. -/
structure Playlist where
  name : String
  folderName : String
  url : String
  ytdlpArgs : Option String := none
deriving DecidableEq, Repr

/-- `LayoutContext`. -/
structure LayoutContext where
  playlistName : String
  playlistFolderName : String
  profileName : String
  profileKind : String
  subpath : String
  customOutputTemplate : Option String := none
deriving DecidableEq, Repr

/-- `ResolvedLayout`. -/
structure ResolvedLayout where
  subpath : String
  outputTemplate : String
  warnings : List String := []
deriving DecidableEq, Repr

/-- `relative_output_template`. -/
def ResolvedLayout.relativeOutputTemplate (layout : ResolvedLayout) : String :=
  layout.subpath ++ "/" ++ layout.outputTemplate

/--
What the builders ask of other modules: the settings, why an address is
refused as a source, and the layout of a context.
-/
structure Surroundings where
  settings : String → Option Value
  sourceUrlError : String → Option String
  resolveLayout : String → LayoutContext → Except String ResolvedLayout

/-! ## Structured fields -/

def valueArg (option : String) (value : Value) : List String :=
  [option, value.str]

def boolArg (enabled disabled : String) (value : Value) : List String :=
  [if value.truthy then enabled else disabled]

def audioExtractArgs (value : Value) : List String :=
  if value.truthy then ["--extract-audio"] else []

def containerArgs (value : Value) : List String :=
  ["--merge-output-format", value.str, "--remux-video", value.str]

def subtitleLangArgs (value : Value) : List String :=
  if value.str.toList.all isSpace then ["--no-write-subs"]
  else ["--write-subs", "--sub-langs", value.str]

def parseMetadataArgs (value : Value) : List String :=
  value.members.flatMap fun expression => ["--parse-metadata", expression]

/-- `FIELD_TO_ARGS`. -/
def fieldToArgs : List (String × (Value → List String)) :=
  [("format_selector", valueArg "--format"),
    ("container", containerArgs),
    ("audio_extract", audioExtractArgs),
    ("audio_format", valueArg "--audio-format"),
    ("audio_quality", valueArg "--audio-quality"),
    ("embed_metadata", boolArg "--embed-metadata" "--no-embed-metadata"),
    ("embed_thumbnail", boolArg "--embed-thumbnail" "--no-embed-thumbnail"),
    ("embed_chapters", boolArg "--embed-chapters" "--no-embed-chapters"),
    ("subtitle_langs", subtitleLangArgs),
    ("subtitle_auto", boolArg "--write-auto-subs" "--no-write-auto-subs"),
    ("subtitle_embed", boolArg "--embed-subs" "--no-embed-subs"),
    ("concurrent_fragments", valueArg "--concurrent-fragments"),
    ("parse_metadata", parseMetadataArgs)]

/-- `FIELD_ORDER`. -/
def fieldOrder : List String := fieldToArgs.map Prod.fst

/-- `PROFILE_FIELDS`. -/
def profileFields : List String := fieldOrder.filter (· != "parse_metadata")

/-- The fields which some layer sets. -/
abbrev ResolvedFields := String → Option ResolvedField

/-- `resolved[field_name] = …`, unless the value is None. -/
def setField (fieldName : String) (value : Option Value) (layer : Layer)
    (source field : String) (resolved : ResolvedFields) : ResolvedFields :=
  match value with
  | none => resolved
  | some value => fun name =>
      if name = fieldName then some { value, layer, source, field }
      else resolved name

/-- `sorted` of strings. -/
def sorted (texts : List String) : List String :=
  texts.insertionSort (· ≤ ·)

/-- `_resolve_structured_fields`. -/
def resolveStructuredFields (settings : String → Option Value)
    (kind : String) (profile : Option Profile) (overrides : OptionOverrides) :
    Except String ResolvedFields :=
  let resolved : ResolvedFields :=
    setField "concurrent_fragments" (settings "download.concurrent_fragments")
      .l2 "グローバル既定" "download.concurrent_fragments" fun _ => none
  let resolved := fieldOrder.foldl (fun resolved name =>
    let key := "defaults." ++ kind ++ "." ++ name
    setField name (settings key) .l3 ("種別既定 " ++ kind) key resolved) resolved
  let resolved :=
    match profile with
    | none => resolved
    | some profile => profileFields.foldl (fun resolved name =>
        setField name (profile.fields name) .l4 ("Profile " ++ profile.name)
          name resolved) resolved
  let unknown := (overrides.structured.map Prod.fst).filter fun name =>
    !fieldOrder.contains name
  if unknown = [] then
    .ok (overrides.structured.foldl (fun resolved entry =>
      setField entry.1 entry.2 .l6 "一時上書き" entry.1 resolved) resolved)
  else
    .error ("未対応の一時上書きフィールドです: " ++
      String.intercalate ", " (sorted unknown))

/-! ## Accumulating arguments -/

/-- `_CommandAccumulator`. -/
structure CommandAccumulator where
  args : List String := []
  origins : List ArgumentOrigin := []
deriving DecidableEq, Repr

/-- `_CommandAccumulator.add`. -/
def CommandAccumulator.add (accumulator : CommandAccumulator)
    (arguments : List String) (layer : Layer) (source : String)
    (field : Option String := none) : CommandAccumulator :=
  if arguments = [] then accumulator
  else
    { args := accumulator.args ++ arguments
      origins := accumulator.origins ++ [{ arguments, layer, source, field }] }

@[simp]
theorem CommandAccumulator.args_add
    (accumulator : CommandAccumulator) (arguments : List String)
    (layer : Layer) (source : String) (field : Option String) :
    (accumulator.add arguments layer source field).args =
      accumulator.args ++ arguments := by
  rw [CommandAccumulator.add]
  split
  · next isEmpty => rw [isEmpty, List.append_nil]
  · rfl

/-- The options of `_common_rate_args` by their settings. -/
def rateOptions : List (String × String) :=
  [("download.sleep_requests", "--sleep-requests"),
    ("download.sleep_interval", "--sleep-interval"),
    ("download.max_sleep_interval", "--max-sleep-interval"),
    ("download.limit_rate", "--limit-rate"),
    ("download.retries", "--retries"),
    ("download.fragment_retries", "--fragment-retries")]

/-- `_common_rate_args`. -/
def commonRateArgs (settings : String → Option Value)
    (accumulator : CommandAccumulator) : CommandAccumulator :=
  rateOptions.foldl (fun accumulator entry =>
    accumulator.add [entry.2, pyStr (settings entry.1)] .l2 "グローバル既定"
      (some entry.1)) accumulator

/-- `_render_structured`. -/
def renderStructured (resolved : ResolvedFields)
    (accumulator : CommandAccumulator) : CommandAccumulator :=
  fieldToArgs.foldl (fun accumulator entry =>
    match resolved entry.1 with
    | none => accumulator
    | some field =>
        accumulator.add (entry.2 field.value) field.layer field.source
          (some field.field)) accumulator

/-! ## Freeform layers -/

/-- A layer of freeform text with its source. -/
structure FreeformLayer where
  layer : Layer
  source : String
  value : Option String
deriving DecidableEq, Repr

/-- A guarded layer. -/
structure GuardedLayer where
  layer : Layer
  source : String
  guarded : GuardedTokens
deriving DecidableEq, Repr

/-- What `_guard_layers` returns. -/
structure GuardedLayers where
  layers : List GuardedLayer := []
  warnings : List String := []
  overridden : List String := []
deriving DecidableEq, Repr

/-- `bool(profile and profile.expert_mode)`. -/
def hasExpertMode (profile : Option Profile) : Bool :=
  profile.any Profile.expertMode

/-- The permissions which a Profile gives. -/
def permissionsOf (profile : Option Profile) (envAllowExec : Bool) :
    Permissions where
  expertMode := hasExpertMode profile
  envAllowExec := envAllowExec
  profileAllowExec := profile.any Profile.allowExec

/-- `_guard_layers`. -/
def guardLayers (permissions : Permissions) (commandKind : CommandKind) :
    List FreeformLayer → GuardedLayers → Except String GuardedLayers
  | [], found => .ok found
  | layer :: rest, found =>
      match guardFreeform layer.value layer.source permissions commandKind with
      | .error message => .error message
      | .ok guarded =>
          guardLayers permissions commandKind rest
            { layers := found.layers ++ [
                { layer := layer.layer, source := layer.source, guarded }]
              warnings := found.warnings ++ guarded.warnings
              overridden := guarded.reservedOverrides.foldl add
                found.overridden }

/-- `_add_guarded_layers`. -/
def addGuardedLayers (layers : List GuardedLayer)
    (accumulator : CommandAccumulator) : CommandAccumulator :=
  layers.foldl (fun accumulator layer =>
    accumulator.add layer.guarded.tokens layer.layer layer.source
      (some "ytdlp_args")) accumulator

/-! ## Builders -/

/-- `_timeout`. -/
def timeoutOf (settings : String → Option Value) (commandKind : CommandKind) :
    TimeoutSpec :=
  let termGrace := settings "ytdlp.term_grace_sec"
  match commandKind with
  | .discover =>
      let discover := settings "ytdlp.discover_timeout_sec"
      { idleSec := discover, absoluteSec := discover, termGraceSec := termGrace }
  | .download =>
      { idleSec := settings "ytdlp.idle_timeout_sec"
        absoluteSec := settings "ytdlp.absolute_timeout_sec"
        termGraceSec := termGrace }

/-- The text of a kind of command. -/
def CommandKind.text : CommandKind → String
  | .discover => "discover"
  | .download => "download"

/-- `_reserved_warning`. -/
def reservedWarning (option : String) (commandKind : CommandKind) : String :=
  if option ∈ ["--print", "--progress-template"] then
    "expert_mode の `" ++ option ++ "` を優先したため L1 の同引数を注入しません。" ++
      "進捗・生成パスを取得できない可能性があります"
  else if option = "--paths" then
    "expert_mode の `--paths` を優先したため L1 の出力先を注入しません。" ++
      commandKind.text ++ " のファイル追跡が壊れる可能性があります"
  else
    "expert_mode の `" ++ option ++
      "` が L1 の出力プロトコルへ影響する可能性があります"

/-- `PROGRESS_PREFIX`. -/
def progressPrefix : String := "SLUICERY_PROGRESS "

/-- `PRINT_PREFIX`. -/
def printPrefix : String := "SLUICERY_PRINT "

/-- `RESULT_PREFIX`. -/
def resultPrefix : String := "SLUICERY_RESULT "

/-- The source of an L1 group. -/
def reservedSource : String := "アプリ予約引数"

/-- `build_discover_args`. -/
def buildDiscoverArgs (surroundings : Surroundings) (playlist : Playlist)
    (profile : Option Profile) (overrides : OptionOverrides)
    (envAllowExec : Bool) : Except String BuiltCommand :=
  let accumulator := commonRateArgs surroundings.settings {}
  match guardLayers (permissionsOf profile envAllowExec) .discover
      [{ layer := .l5, source := "Playlist " ++ playlist.name,
          value := playlist.ytdlpArgs },
        { layer := .l6, source := "一時上書き", value := overrides.ytdlpArgs }]
      {} with
  | .error message => .error message
  | .ok guarded =>
      let accumulator := addGuardedLayers guarded.layers accumulator
      let accumulator := accumulator.add ["--flat-playlist"] .l1 reservedSource
      let accumulator := accumulator.add ["--simulate"] .l1 reservedSource
      let accumulator :=
        if "--print" ∈ guarded.overridden then accumulator
        else accumulator.add ["--print", printPrefix ++ "%()j"] .l1
          reservedSource
      let warnings := guarded.warnings ++
        (sorted guarded.overridden).map (reservedWarning · .discover)
      match surroundings.sourceUrlError playlist.url with
      | some message => .error message
      | none =>
          let accumulator := accumulator.add ["--", playlist.url] .l1
            ("Playlist " ++ playlist.name) (some "url")
          .ok
            { args := accumulator.args
              origins := accumulator.origins
              warnings := warnings.eraseDups
              resolvedOutputPath := none
              timeout := timeoutOf surroundings.settings .discover }

/-- `ProfileKind.value`. -/
def kindText : ProfileKind → String
  | .video => "video"
  | .music => "music"
  | .other => "other"

/-- `build_format_probe_args`. -/
def buildFormatProbeArgs (surroundings : Surroundings) (profile : Profile)
    (sourceUrl : String) (envAllowExec : Bool) : Except String BuiltCommand :=
  match surroundings.sourceUrlError sourceUrl with
  | some message => .error message
  | none =>
      let accumulator := commonRateArgs surroundings.settings {}
      match resolveStructuredFields surroundings.settings
          (kindText profile.kind) (some profile) {} with
      | .error message => .error message
      | .ok structured =>
          let accumulator := renderStructured structured accumulator
          match guardLayers (permissionsOf (some profile) envAllowExec)
              .download
              [{ layer := .l4, source := "Profile " ++ profile.name,
                  value := profile.ytdlpArgs }] {} with
          | .error message => .error message
          | .ok guarded =>
              if guarded.overridden ≠ [] then
                .error ("フォーマット検査では予約引数を使用できません: " ++
                  String.intercalate ", " (sorted guarded.overridden))
              else
                let accumulator := addGuardedLayers guarded.layers accumulator
                let accumulator := accumulator.add
                  ["--ignore-config", "--simulate", "--no-playlist"] .l1
                  "フォーマット検査"
                let accumulator := accumulator.add
                  ["--print", printPrefix ++ "%()j"] .l1 "フォーマット検査"
                let accumulator := accumulator.add ["--", sourceUrl] .l1
                  "検査URL" (some "source_url")
                .ok
                  { args := accumulator.args
                    origins := accumulator.origins
                    warnings := guarded.warnings.eraseDups
                    resolvedOutputPath := none
                    timeout := timeoutOf surroundings.settings .discover }

/-- The arguments of `build_download_args`. -/
structure DownloadRequest where
  targetId : Option Nat := none
  sourceUrl : String
  stagingDir : PurePosixPath
  workId : String
  playlist : Option Playlist := none
  profile : Option Profile := none
  subpath : Option String := none
  kind : Option String := none
  overrides : OptionOverrides := {}
  envAllowExec : Bool := false

/-- `kind or (profile.kind.value if … else "video")`. -/
def DownloadRequest.selectedKind (request : DownloadRequest) : String :=
  match request.kind with
  | none => (request.profile.map fun profile => kindText profile.kind).getD
      "video"
  | some kind =>
      if kind = "" then
        (request.profile.map fun profile => kindText profile.kind).getD "video"
      else kind

/-- The layout strategy of the Profile. -/
def DownloadRequest.strategyName (request : DownloadRequest) : String :=
  (request.profile.map Profile.layoutStrategy).getD "flat"

/-- The layout of a request. -/
def DownloadRequest.layout (request : DownloadRequest)
    (surroundings : Surroundings) : Except String ResolvedLayout :=
  surroundings.resolveLayout request.strategyName
    { playlistName := (request.playlist.map Playlist.name).getD "fetch"
      playlistFolderName :=
        (request.playlist.map Playlist.folderName).getD "fetch"
      profileName :=
        (request.profile.map Profile.name).getD request.selectedKind
      profileKind := request.selectedKind
      subpath := request.subpath.getD "\x7bplaylist.folder_name\x7d"
      customOutputTemplate := request.profile.bind Profile.outputTemplate }

/-- `staging_dir / work_id`. -/
def DownloadRequest.workRoot (request : DownloadRequest) : PurePosixPath :=
  request.stagingDir.join (.ofString request.workId)

/-- `work_root / ".tmp"`. -/
def DownloadRequest.tempRoot (request : DownloadRequest) : PurePosixPath :=
  request.workRoot.join (.ofString ".tmp")

/-- The freeform layers of a download. -/
def DownloadRequest.freeformLayers (request : DownloadRequest) :
    List FreeformLayer :=
  [match request.profile with
    | some profile =>
        { layer := .l4, source := "Profile " ++ profile.name,
          value := profile.ytdlpArgs }
    | none => { layer := .l4, source := "Profileなし", value := none },
    match request.playlist with
    | some playlist =>
        { layer := .l5, source := "Playlist " ++ playlist.name,
          value := playlist.ytdlpArgs }
    | none => { layer := .l5, source := "Playlistなし", value := none },
    { layer := .l6, source := "一時上書き",
      value := request.overrides.ytdlpArgs }]

/-- What a printed result looks like. -/
def resultTemplate : String :=
  "\x7b\"file_path\": %(filepath)j, \"format_id\": %(format_id)j\x7d"

/-- The L1 groups of a download, but for the source. -/
def addDownloadReserved (request : DownloadRequest) (relativeOutput : String)
    (reserved : List String) (accumulator : CommandAccumulator) :
    CommandAccumulator :=
  let accumulator :=
    if "--paths" ∈ reserved then accumulator
    else
      (accumulator.add ["--paths", "home:" ++ request.workRoot.asPosix] .l1
        reservedSource).add ["--paths", "temp:" ++ request.tempRoot.asPosix]
        .l1 reservedSource
  let accumulator := accumulator.add ["--output", relativeOutput] .l1
    ("layout " ++ request.strategyName) (some "output_template")
  let accumulator := accumulator.add ["--continue", "--newline", "--progress"]
    .l1 reservedSource
  let accumulator :=
    if "--progress-template" ∈ reserved then accumulator
    else accumulator.add
      ["--progress-template",
        "download:" ++ progressPrefix ++ "%(progress)j"] .l1 reservedSource
  if "--print" ∈ reserved then accumulator
  else
    (accumulator.add
      ["--print", "after_move:" ++ printPrefix ++ "%(filepath)s"] .l1
      reservedSource).add
      ["--print", "after_move:" ++ resultPrefix ++ resultTemplate] .l1
      reservedSource

/-- `build_download_args`. -/
def buildDownloadArgs (surroundings : Surroundings)
    (request : DownloadRequest) : Except String BuiltCommand :=
  match surroundings.sourceUrlError request.sourceUrl with
  | some message => .error message
  | none =>
      if request.selectedKind ∉ ["video", "music", "other"] then
        .error ("未対応の Profile kind です: " ++ request.selectedKind)
      else
        match request.layout surroundings with
        | .error message => .error message
        | .ok layout =>
            let accumulator := commonRateArgs surroundings.settings {}
            match resolveStructuredFields surroundings.settings
                request.selectedKind request.profile request.overrides with
            | .error message => .error message
            | .ok structured =>
                let accumulator := renderStructured structured accumulator
                let accumulator := accumulator.add ["--windows-filenames"] .l2
                  "ファイル名既定"
                let accumulator :=
                  if request.strategyName = "flat" then
                    accumulator.add
                      ["--trim-filenames",
                        pyStr (surroundings.settings
                          "download.trim_filenames")] .l2 "ファイル名既定"
                      (some "download.trim_filenames")
                  else accumulator
                match guardLayers
                    (permissionsOf request.profile request.envAllowExec)
                    .download request.freeformLayers {} with
                | .error message => .error message
                | .ok guarded =>
                    let accumulator :=
                      addGuardedLayers guarded.layers accumulator
                    let relativeOutput := layout.relativeOutputTemplate
                    let accumulator := addDownloadReserved request
                      relativeOutput guarded.overridden accumulator
                    let warnings := guarded.warnings ++ layout.warnings ++
                      (sorted guarded.overridden).map
                        (reservedWarning · .download)
                    let sourceLabel :=
                      match request.targetId with
                      | some id =>
                          if id = 0 then "source_url"
                          else "Target " ++ toString id
                      | none => "source_url"
                    let accumulator := accumulator.add
                      ["--", request.sourceUrl] .l1 sourceLabel
                      (some "source_url")
                    .ok
                      { args := accumulator.args
                        origins := accumulator.origins
                        warnings := warnings.eraseDups
                        resolvedOutputPath := some
                          (request.workRoot.join (.ofString relativeOutput))
                        timeout :=
                          timeoutOf surroundings.settings .download }

/-- `add_cookie_argument`, with the path of the cookie. -/
def addCookieArgument (args : List String) (cookie : Option String) :
    List String :=
  match cookie with
  | none => args
  | some path =>
      let delimiter := args.idxOf "--"
      args.take delimiter ++ ["--cookies", path] ++ args.drop delimiter

end Sluicery.Core.Options
