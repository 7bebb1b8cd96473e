import Sluicery.Core.CommandArgs
import Sluicery.Library.PercentTemplate

/-!
# Layouts

`resolve_subpath` makes the directory of a Playlist from its names, and
`resolve_layout` joins it with the template of a file.  The command line hands
both to yt-dlp as one output template; the folder move takes the directory as
it is.
-/

namespace Sluicery.Layout

open Sluicery.Library Sluicery.Core.Options

/-! ## Names -/

/-- The names which a subpath template can refer to. -/
structure Variables where
  playlistName : String
  playlistFolderName : String
  profileName : String
  profileKind : String
deriving DecidableEq, Repr

/-- What the standard library does with names. -/
structure Names where
  /-- `unicodedata.normalize("NFC", value)`. -/
  normalize : String → String
  /-- `PureWindowsPath(value).is_absolute()`. -/
  isWindowsAbsolute : String → Bool
  /-- `template.format_map(variables)`. -/
  formatMap : String → Variables → Except String String

/-- `WINDOWS_RESERVED_NAMES`. -/
def windowsReservedNames : List String :=
  ["CON", "PRN", "AUX", "NUL", "COM1", "COM2", "COM3", "COM4", "COM5",
    "COM6", "COM7", "COM8", "COM9", "LPT1", "LPT2", "LPT3", "LPT4", "LPT5",
    "LPT6", "LPT7", "LPT8", "LPT9"]

/-- `FORBIDDEN_COMPONENT_CHARS`. -/
def isForbidden (character : Char) : Bool :=
  character ∈ ['\\', '/', ':', '*', '?', '"', '<', '>', '|']

/-- `CONTROL_CHARS`. -/
def isControl (character : Char) : Bool :=
  character.toNat < 32 || character.toNat == 127

/-- `value.rstrip(" .")`. -/
def stripEnd (value : List Char) : List Char :=
  (value.reverse.dropWhile fun character =>
    character == ' ' || character == '.').reverse

/-- `WINDOWS_DRIVE`. -/
def hasDrive : List Char → Bool
  | letter :: ':' :: _ => letter.isAlpha
  | _ => false

variable (names : Names)

/-- `sanitize_component`. -/
def sanitizeComponent (value : String) : Except String String :=
  let normalized := stripEnd
    (((names.normalize value).toList.filter fun character =>
      !isControl character).map fun character =>
        if isForbidden character then '_' else character)
  if normalized = [] ∨ normalized = ['.'] ∨ normalized = ['.', '.'] then
    .error "空、`.`、`..` はパス要素に使用できません"
  else
    let stem := (normalized.takeWhile (· ≠ '.')).map Char.toUpper
    if String.ofList stem ∈ windowsReservedNames then
      .ok (String.ofList ('_' :: normalized))
    else .ok (String.ofList normalized)

/-- `value.replace("\\", "/")`. -/
def withSlashes (value : String) : List Char :=
  value.toList.map fun character => if character = '\\' then '/' else character

/-- `validate_relative_path`. -/
def validateRelativePath (value : String) : Except String Unit :=
  let normalized := names.normalize value
  if normalized = "" ∨ normalized.toList.head? = some '/' ∨
      names.isWindowsAbsolute normalized ∨ hasDrive normalized.toList then
    .error "subpath には空文字または絶対パスを指定できません"
  else if ((withSlashes normalized).splitOn '/').any fun part =>
      part ∈ [[], ['.'], ['.', '.']] then
    .error "subpath に空要素、`.`、`..` は使用できません"
  else .ok ()

/-- `sanitize_relative_path`. -/
def sanitizeRelativePath (value : String) : Except String String := do
  validateRelativePath names value
  let parts ← ((withSlashes (names.normalize value)).splitOn '/').mapM
    fun part => sanitizeComponent names (String.ofList part)
  return String.intercalate "/" parts

/-- `resolve_subpath`. -/
def resolveSubpath (template : String) (ctx : LayoutContext) :
    Except String String := do
  let folderName ← sanitizeComponent names ctx.playlistFolderName
  match names.formatMap template
      { playlistName := ctx.playlistName
        playlistFolderName := folderName
        profileName := ctx.profileName
        profileKind := ctx.profileKind } with
  | .error message =>
      throw ("subpath テンプレートを展開できません: " ++ message)
  | .ok expanded => sanitizeRelativePath names expanded

/-! ## Strategies -/

/-- `ValidationError`. -/
structure ValidationError where
  field : String
  message : String
deriving DecidableEq, Repr

/-- `LayoutStrategy`. -/
structure LayoutStrategy where
  outputTemplate : LayoutContext → String
  validate : LayoutContext → List ValidationError
  warnings : LayoutContext → List String

def videoTemplate : String :=
  "%(upload_date>%Y-%m-%d&\x7b\x7d |)s%(title).120B [%(id)s].%(ext)s"

def musicTemplate : String :=
  "%(playlist_index|0)03d %(track,title).120B [%(id)s].%(ext)s"

/-- `FlatLayout`. -/
def flatLayout : LayoutStrategy where
  outputTemplate ctx :=
    if ctx.profileKind = "music" then musicTemplate else videoTemplate
  validate ctx :=
    if ctx.profileKind ∉ ["video", "music"] then
      [⟨"profile.kind", "flat レイアウトは video / music のみ対応します"⟩]
    else []
  warnings _ := []

/-- `ctx.custom_output_template or ""`. -/
def customTemplate (ctx : LayoutContext) : String :=
  ctx.customOutputTemplate.getD ""

def requiredSuffix : String := "[%(id)s].%(ext)s"

/-- `CustomLayout.validate`. -/
def validateCustom (ctx : LayoutContext) : List ValidationError :=
  let template := customTemplate ctx
  if template = "" then
    [⟨"output_template", "custom では output_template が必須です"⟩]
  else
    let normalized := withSlashes template
    (if template.toList.head? = some '/' ∨
        names.isWindowsAbsolute template then
      [⟨"output_template", "絶対パスは指定できません"⟩]
    else []) ++
    (if ['.', '.'] ∈ normalized.splitOn '/' then
      [⟨"output_template", "パス traversal（..）は指定できません"⟩]
    else []) ++
    (if requiredSuffix.toList <:+ normalized then []
    else
      [⟨"output_template",
        "末尾（拡張子の直前）に `[%(id)s]` を含めてください"⟩])

/-- `CustomLayout`. -/
def customLayout : LayoutStrategy where
  outputTemplate := customTemplate
  validate := validateCustom names
  warnings ctx :=
    if '/' ∈ (customTemplate ctx).toList ∨
        '\\' ∈ (customTemplate ctx).toList then
      ["custom output_template のパス区切りは --paths home からの" ++
        "相対パスとして解釈されます"]
    else []

/-- The strategy of a name. -/
def strategyOf (strategyName : String) : Option LayoutStrategy :=
  if strategyName = "flat" then some flatLayout
  else if strategyName = "custom" then some (customLayout names)
  else none

/-- `resolve_layout`. -/
def resolveLayout (strategyName : String) (ctx : LayoutContext) :
    Except String ResolvedLayout :=
  match strategyOf names strategyName with
  | none => .error ("未対応の layout_strategy です: " ++ strategyName)
  | some strategy =>
      let errors := strategy.validate ctx
      if errors ≠ [] then
        .error (String.intercalate "; "
          (errors.map fun error => error.field ++ ": " ++ error.message))
      else do
        let subpath ← resolveSubpath names ctx.subpath ctx
        return {
          subpath
          outputTemplate := strategy.outputTemplate ctx
          warnings := strategy.warnings ctx }

/-! ## The directory of a file -/

open PercentTemplate

/-- The values of an item; the tool leaves no `/` in a value. -/
structure Metadata where
  value : List Char → List Char → List Char
  noSlash : ∀ name specification, '/' ∉ value name specification

/-- The path which the tool makes of a template. -/
def outputPath (conversions : Conversions) (metadata : Metadata)
    (template : String) : String :=
  String.ofList (render conversions metadata.value template.toList)

/-- The directory of a path. -/
def directoryOf (path : String) : String :=
  String.ofList
    ((path.toList.reverse.dropWhile (· ≠ '/')).drop 1).reverse

/-- The file of an item is in the directory, where its own template puts it. -/
structure PlacedIn (conversions : Conversions) (layout : ResolvedLayout)
    (directory : String) (metadata : Metadata) : Prop where
  below : outputPath conversions metadata layout.relativeOutputTemplate =
    directory ++ "/" ++
      outputPath conversions metadata layout.outputTemplate
  directly : '/' ∉ layout.outputTemplate.toList →
    directoryOf
        (outputPath conversions metadata layout.relativeOutputTemplate) =
      directory

/-- The layout of a context is resolved below its subpath. -/
theorem resolveSubpath_of_resolveLayout
    {names : Names} {strategyName : String} {ctx : LayoutContext}
    {layout : ResolvedLayout}
    (resolved : resolveLayout names strategyName ctx = .ok layout) :
    resolveSubpath names ctx.subpath ctx = .ok layout.subpath := by
  unfold resolveLayout at resolved
  split at resolved
  · cases resolved
  · dsimp only at resolved
    split at resolved
    · cases resolved
    · cases subpath : resolveSubpath names ctx.subpath ctx with
      | error message => simp [subpath, bind, Except.bind] at resolved
      | ok subpath' =>
          simp only [subpath, bind, Except.bind, pure, Except.pure,
            Except.ok.injEq] at resolved
          rw [← resolved]

theorem directoryOf_append
    {directory name : String} (noSlash : '/' ∉ name.toList) :
    directoryOf (directory ++ "/" ++ name) = directory := by
  have dropped : (name.toList.reverse ++ ['/'] ++
      directory.toList.reverse).dropWhile (· ≠ '/') =
        '/' :: directory.toList.reverse := by
    rw [List.append_assoc, List.dropWhile_append_of_pos]
    · rfl
    · intro character member
      simp only [ne_eq, decide_not, Bool.not_eq_true',
        decide_eq_false_iff_not]
      rintro rfl
      exact noSlash (List.mem_reverse.mp member)
  unfold directoryOf
  simp only [String.toList_append, List.reverse_append]
  rw [← List.append_assoc]
  have slash : "/".toList.reverse = ['/'] := rfl
  rw [slash, dropped, List.drop_one, List.tail_cons, List.reverse_reverse,
    String.ofList_toList]

theorem toList_relativeOutputTemplate (layout : ResolvedLayout) :
    layout.relativeOutputTemplate.toList =
      layout.subpath.toList ++ '/' :: layout.outputTemplate.toList := by
  simp [ResolvedLayout.relativeOutputTemplate]

theorem placedIn_of_isLiteral
    {conversions : Conversions} {layout : ResolvedLayout}
    (literal : isLiteral conversions ('/' :: layout.outputTemplate.toList)
      layout.subpath.toList = true) (metadata : Metadata) :
    PlacedIn conversions layout layout.subpath metadata := by
  have below : outputPath conversions metadata
      layout.relativeOutputTemplate =
        layout.subpath ++ "/" ++
          outputPath conversions metadata layout.outputTemplate := by
    apply String.toList_injective
    rw [outputPath, toList_relativeOutputTemplate, String.toList_ofList,
      render_append literal, render_cons rfl]
    simp [outputPath]
  refine ⟨below, ?_⟩
  intro noSlash
  rw [below]
  refine directoryOf_append ?_
  intro member
  rw [outputPath, String.toList_ofList] at member
  exact noSlash (mem_render (by decide) metadata.noSlash member)

theorem isLiteral_of_placedIn
    {conversions : Conversions} {layout : ResolvedLayout}
    (placed : ∀ metadata,
      PlacedIn conversions layout layout.subpath metadata) :
    isLiteral conversions ('/' :: layout.outputTemplate.toList)
      layout.subpath.toList = true := by
  rw [isLiteral_iff]
  intro length
  rcases placed ⟨row length, fun name specification member =>
    absurd (List.eq_of_mem_replicate member) (by decide)⟩ with ⟨below, -⟩
  have path := congrArg String.toList below
  rw [outputPath, toList_relativeOutputTemplate, String.toList_ofList]
    at path
  rw [path, String.toList_append, String.toList_append]
  exact List.prefix_append _ _

/-- The tool puts the files of a Playlist into the directory of the folder
move exactly when it keeps the text of the subpath. -/
theorem placedIn_resolveSubpath_iff
    {names : Names} {conversions : Conversions} {strategyName : String}
    {ctx : LayoutContext} {layout : ResolvedLayout}
    (resolved : resolveLayout names strategyName ctx = .ok layout) :
    (∀ metadata, ∃ directory,
      resolveSubpath names ctx.subpath
          { ctx with customOutputTemplate := none } = .ok directory ∧
        PlacedIn conversions layout directory metadata) ↔
      isLiteral conversions ('/' :: layout.outputTemplate.toList)
        layout.subpath.toList = true := by
  have moved : resolveSubpath names ctx.subpath
      { ctx with customOutputTemplate := none } = .ok layout.subpath := by
    have subpath := resolveSubpath_of_resolveLayout resolved
    exact subpath
  constructor
  · intro placed
    refine isLiteral_of_placedIn fun metadata => ?_
    rcases placed metadata with ⟨directory, found, placedIn⟩
    obtain rfl := Except.ok.inj (moved.symm.trans found)
    exact placedIn
  · intro literal metadata
    exact ⟨layout.subpath, moved, placedIn_of_isLiteral literal metadata⟩

/-- Names in plain letters, with the usual template of a subpath. -/
def plainNames : Names where
  normalize value := value
  isWindowsAbsolute _ := false
  formatMap template values :=
    if template = "\x7bplaylist.folder_name\x7d" then
      .ok values.playlistFolderName
    else .error "KeyError"

/-- The flags, the width and the precision of a specification. -/
def isFlag (character : Char) : Bool :=
  character.isDigit || character ∈ ['#', '-', '+', ' ', '.']

/-- Specifications of one letter, with flags, a width and a precision. -/
def letterConversions : Conversions where
  split text :=
    match text.dropWhile isFlag with
    | [] => none
    | letter :: rest =>
        if letter.isAlpha then
          some (text.takeWhile isFlag ++ [letter], rest)
        else none
  append_of_split := by
    intro text specification rest isSplit
    split at isSplit
    · cases isSplit
    · next letter after isAfter =>
        split at isSplit
        · obtain ⟨rfl, rfl⟩ := Prod.mk.inj (Option.some.inj isSplit)
          have whole := List.takeWhile_append_dropWhile (p := isFlag) (l := text)
          rw [isAfter] at whole
          simp [whole]
        · cases isSplit
  split_string := by
    intro rest
    rfl

/-- A Playlist with the folder name, in the usual layout. -/
def contextOf (folderName : String) : LayoutContext where
  playlistName := "Music"
  playlistFolderName := folderName
  profileName := "Video"
  profileKind := "video"
  subpath := "\x7bplaylist.folder_name\x7d"

theorem placedIn_music :
    resolveLayout plainNames "flat" (contextOf "Music") =
      .ok ⟨"Music", videoTemplate, []⟩ ∧
    ∀ metadata, ∃ directory,
      resolveSubpath plainNames (contextOf "Music").subpath
          { contextOf "Music" with customOutputTemplate := none } =
            .ok directory ∧
        PlacedIn letterConversions ⟨"Music", videoTemplate, []⟩ directory
          metadata := by
  have resolved : resolveLayout plainNames "flat" (contextOf "Music") =
      .ok ⟨"Music", videoTemplate, []⟩ := by decide
  exact ⟨resolved, (placedIn_resolveSubpath_iff resolved).mpr (by decide)⟩

/-- A doubled percent sign of a folder name is written as one. -/
theorem not_placedIn_percent :
    resolveLayout plainNames "flat" (contextOf "100%% Music") =
      .ok ⟨"100%% Music", videoTemplate, []⟩ ∧
    resolveSubpath plainNames (contextOf "100%% Music").subpath
        (contextOf "100%% Music") = .ok "100%% Music" ∧
    ¬ ∀ metadata, PlacedIn letterConversions
        ⟨"100%% Music", videoTemplate, []⟩ "100%% Music" metadata := by
  refine ⟨by decide, by decide, ?_⟩
  intro placed
  exact absurd (isLiteral_of_placedIn placed) (by decide)

end Sluicery.Layout
