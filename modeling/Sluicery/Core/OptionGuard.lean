import Sluicery.Library.Optparse
import Sluicery.Library.Shlex

/-!
# The guard of freeform options

`guard_freeform` splits a freeform text into tokens and refuses reserved
options by the text of the tokens; the tokens are then passed on unchanged.
yt-dlp reads them by the rules of optparse.  `freeform_guard_sound_iff` says
which spellings get a reserved option past the guard.
-/

namespace Sluicery.Core.Options

open Sluicery.Library Sluicery.Library.Optparse

/-! ## Tables -/

inductive CommandKind where
  | discover
  | download
deriving DecidableEq, Repr

/-- `table.get(key)`. -/
def lookup (table : List (String × String)) (key : String) : Option String :=
  (table.find? fun entry => entry.1 == key).map Prod.snd

/-- `OPTION_ALIASES`. -/
def optionAliases : List (String × String) :=
  [("--paths", "--paths"),
    ("-P", "--paths"),
    ("--output", "--output"),
    ("-o", "--output"),
    ("--print", "--print"),
    ("-O", "--print"),
    ("--print-to-file", "--print-to-file"),
    ("--progress-template", "--progress-template"),
    ("--download-archive", "--download-archive"),
    ("--load-info-json", "--load-info-json"),
    ("--dump-json", "--dump-json"),
    ("-j", "--dump-json"),
    ("--dump-single-json", "--dump-single-json"),
    ("--exec", "--exec"),
    ("--exec-before-download", "--exec-before-download"),
    ("--quiet", "--quiet"),
    ("-q", "--quiet"),
    ("--no-progress", "--no-progress"),
    ("--simulate", "--simulate"),
    ("-s", "--simulate"),
    ("--restrict-filenames", "--restrict-filenames"),
    ("--no-windows-filenames", "--no-windows-filenames"),
    ("--no-newline", "--no-newline"),
    ("--cookies", "--cookies"),
    ("--cookies-from-browser", "--cookies-from-browser")]

/-- `RESERVED_OPTIONS`. -/
def reservedOptions : List String :=
  ["--paths", "--output", "--print", "--print-to-file",
    "--progress-template", "--download-archive", "--load-info-json",
    "--dump-json", "--dump-single-json", "--exec",
    "--exec-before-download", "--cookies", "--cookies-from-browser"]

/-- `EXEC_OPTIONS`. -/
def execOptions : List String := ["--exec", "--exec-before-download"]

/-- `WARNING_REASONS`. -/
def warningReasons : List (String × String) :=
  [("--quiet", "進捗出力を抑制し、進捗・パスの取得を妨げる可能性があります"),
    ("--no-progress", "進捗出力を抑制します"),
    ("--simulate", "download ではファイルが生成されません"),
    ("--restrict-filenames",
      "非ASCII文字を置換し、日本語のファイル名方針と衝突します"),
    ("--no-windows-filenames",
      "Windows / SMB 向けのファイル名方針と衝突します"),
    ("--no-newline", "標準出力の行単位パースを壊す可能性があります")]

/-- `SHORT_VALUE_ALIASES`. -/
def shortValueAliases : List (String × String) :=
  [("-P", "--paths"), ("-o", "--output"), ("-O", "--print")]

/-! ## `parse_managed_options` -/

/-- `ParsedOption`. -/
structure ParsedOption where
  canonical : String
  token : String
  index : Nat
  value : Option String
deriving DecidableEq, Repr

/-- The short form with an attached value at the start of a token. -/
def shortForm (token : String) : Option (String × String) :=
  shortValueAliases.find? fun short =>
    short.1.toList.isPrefixOf token.toList &&
      decide (short.1.toList.length < token.toList.length)

/-- The managed option in one token. -/
def parseManagedOption (index : Nat) (token : String)
    (next : Option String) : Option ParsedOption :=
  match lookup optionAliases (longSpelling token) with
  | some canonical =>
      some
        { canonical
          token
          index
          value :=
            match (partitionAt '=' token.toList).2 with
            | some inline => some (String.ofList inline)
            | none => next }
  | none =>
      (shortForm token).map fun short =>
        { canonical := short.2
          token
          index
          value := some (String.ofList
            (token.toList.drop short.1.toList.length)) }

/-- `parse_managed_options`, from the given index on. -/
def parseManagedOptions : Nat → List String → List ParsedOption
  | _, [] => []
  | index, token :: rest =>
      (parseManagedOption index token rest.head?).toList ++
        parseManagedOptions (index + 1) rest

/-! ## `guard_freeform` -/

/-- The permissions of the caller. -/
structure Permissions where
  expertMode : Bool := false
  envAllowExec : Bool := false
  profileAllowExec : Bool := false
deriving DecidableEq, Repr

/-- `env_allow_exec and profile_allow_exec`. -/
def Permissions.allowExec (permissions : Permissions) : Bool :=
  permissions.envAllowExec && permissions.profileAllowExec

/-- `GuardedTokens`. -/
structure GuardedTokens where
  tokens : List String := []
  warnings : List String := []
  reservedOverrides : List String := []
deriving DecidableEq, Repr

/-- A member once. -/
def add (members : List String) (member : String) : List String :=
  if members.contains member then members else members ++ [member]

/-- The warning about an option which is no reserved one. -/
def withReason (sourceLabel : String) (commandKind : CommandKind)
    (option : String) (guarded : GuardedTokens) : GuardedTokens :=
  match lookup warningReasons option with
  | none => guarded
  | some reason =>
      if option = "--simulate" ∧ commandKind = .discover then guarded
      else
        { guarded with
          warnings := add guarded.warnings
            (sourceLabel ++ ": `" ++ option ++ "` — " ++ reason) }

/-- One round of the loop over the managed options. -/
def guardOption (sourceLabel : String) (permissions : Permissions)
    (commandKind : CommandKind) (guarded : GuardedTokens)
    (option : String) : Except String GuardedTokens :=
  if option = "--cookies-from-browser" then
    .error ("`--cookies-from-browser` はコンテナ内にブラウザが無いため使用できません。" ++
      "PlaylistのCookie設定を使用してください")
  else if option = "--cookies" then
    .error ("`--cookies` は自由入力では指定できません。" ++
      "PlaylistのCookie設定を使用してください")
  else if option = "--output" then
    .error ("`--output` / `-o` は自由入力では指定できません。" ++
      "layout_strategy=custom と profile.output_template を使用してください")
  else if option = "--download-archive" then
    .error ("`--download-archive` は使用できません。" ++
      "Item / Target が唯一の状態管理源です")
  else if option ∈ execOptions then
    if permissions.allowExec then
      .ok { guarded with
        reservedOverrides := add guarded.reservedOverrides option
        warnings := add guarded.warnings (sourceLabel ++ ": `" ++ option ++
          "` による任意コマンド実行が有効です") }
    else
      .error ("`" ++ option ++ "` は ALLOW_EXEC=true と " ++
        "Profile.allow_exec=true の両方が必要です")
  else if option ∈ reservedOptions then
    if permissions.expertMode then
      .ok (withReason sourceLabel commandKind option { guarded with
        reservedOverrides := add guarded.reservedOverrides option
        warnings := add guarded.warnings (sourceLabel ++
          ": expert_mode により予約引数 `" ++ option ++ "` を許可しました。" ++
          "ファイル追跡や出力の取得が壊れる可能性があります") })
    else
      .error (sourceLabel ++ ": 予約引数 `" ++ option ++
        "` は expert_mode=false では指定できません")
  else .ok (withReason sourceLabel commandKind option guarded)

/-- The loop over the managed options. -/
def guardOptions (sourceLabel : String) (permissions : Permissions)
    (commandKind : CommandKind) :
    List ParsedOption → GuardedTokens → Except String GuardedTokens
  | [], guarded => .ok guarded
  | occurrence :: rest, guarded =>
      match guardOption sourceLabel permissions commandKind guarded
          occurrence.canonical with
      | .error message => .error message
      | .ok next => guardOptions sourceLabel permissions commandKind rest next

/-- `str.isspace` of a character. -/
def isSpace (char : Char) : Bool :=
  let code := char.toNat
  (9 ≤ code && code ≤ 13) || (28 ≤ code && code ≤ 32) || code == 0x85 ||
    code == 0xa0 || code == 0x1680 || (0x2000 ≤ code && code ≤ 0x200a) ||
    code == 0x2028 || code == 0x2029 || code == 0x202f || code == 0x205f ||
    code == 0x3000

/-- `guard_freeform`. -/
def guardFreeform (value : Option String) (sourceLabel : String)
    (permissions : Permissions) (commandKind : CommandKind) :
    Except String GuardedTokens :=
  match value with
  | none => .ok {}
  | some text =>
      if text.toList.all isSpace then .ok {}
      else
        match Shlex.split text with
        | .error message =>
            .error (sourceLabel ++ " の引用符が不正です: " ++ message)
        | .ok tokens =>
            guardOptions sourceLabel permissions commandKind
              (parseManagedOptions 0 tokens) { tokens }

/-! ## What the guard refuses -/

/-- The canonical names which are refused with these permissions. -/
def refused (permissions : Permissions) (canonical : String) : Bool :=
  ["--cookies-from-browser", "--cookies", "--output",
      "--download-archive"].contains canonical ||
    (!permissions.allowExec && execOptions.contains canonical) ||
    (!permissions.expertMode && reservedOptions.contains canonical &&
      !execOptions.contains canonical)

theorem not_refused_of_guardOption
    {sourceLabel : String} {permissions : Permissions}
    {commandKind : CommandKind} {guarded next : GuardedTokens}
    {option : String}
    (passed : guardOption sourceLabel permissions commandKind guarded option =
      .ok next) :
    refused permissions option = false := by
  rw [guardOption] at passed
  split at passed
  · cases passed
  split at passed
  · cases passed
  split at passed
  · cases passed
  split at passed
  · cases passed
  next notBrowser notCookies notOutput notArchive =>
    split at passed
    · next isExec =>
        split at passed
        · next allowed =>
            simp [refused, notBrowser, notCookies, notOutput, notArchive,
              isExec, allowed]
        · cases passed
    · next notExec =>
        split at passed
        · split at passed
          · next expert =>
              simp [refused, notBrowser, notCookies, notOutput, notArchive,
                notExec, expert]
          · cases passed
        · next notReserved =>
            simp [refused, notBrowser, notCookies, notOutput, notArchive,
              notExec, notReserved]

theorem tokens_withReason
    (sourceLabel : String) (commandKind : CommandKind) (option : String)
    (guarded : GuardedTokens) :
    (withReason sourceLabel commandKind option guarded).tokens =
      guarded.tokens := by
  rw [withReason]
  split
  · rfl
  · split
    · rfl
    · rfl

theorem tokens_guardOption
    {sourceLabel : String} {permissions : Permissions}
    {commandKind : CommandKind} {guarded next : GuardedTokens}
    {option : String}
    (passed : guardOption sourceLabel permissions commandKind guarded option =
      .ok next) :
    next.tokens = guarded.tokens := by
  rw [guardOption] at passed
  split at passed
  · cases passed
  split at passed
  · cases passed
  split at passed
  · cases passed
  split at passed
  · cases passed
  split at passed
  · split at passed
    · cases passed
      rfl
    · cases passed
  split at passed
  · split at passed
    · cases passed
      exact tokens_withReason _ _ _ _
    · cases passed
  · cases passed
    exact tokens_withReason _ _ _ _

/-- The loop refuses every refused name and changes no token. -/
theorem guardOptions_eq_ok
    {sourceLabel : String} {permissions : Permissions}
    {commandKind : CommandKind} {occurrences : List ParsedOption}
    {guarded finish : GuardedTokens}
    (passed : guardOptions sourceLabel permissions commandKind occurrences
      guarded = .ok finish) :
    finish.tokens = guarded.tokens ∧
      ∀ occurrence ∈ occurrences,
        refused permissions occurrence.canonical = false := by
  induction occurrences generalizing guarded with
  | nil =>
      cases passed
      exact ⟨rfl, by simp⟩
  | cons occurrence rest induction =>
      rw [guardOptions] at passed
      split at passed
      · cases passed
      · next next passedHere =>
          rcases induction passed with ⟨sameTokens, later⟩
          constructor
          · rw [sameTokens, tokens_guardOption passedHere]
          · intro other member
            rcases List.mem_cons.mp member with rfl | inRest
            · exact not_refused_of_guardOption passedHere
            · exact later other inRest

/-- The canonical name of the managed option in a token. -/
def managedName (token : String) : Option String :=
  match lookup optionAliases (longSpelling token) with
  | some canonical => some canonical
  | none => (shortForm token).map Prod.snd

theorem canonical_parseManagedOption
    (index : Nat) (token : String) (next : Option String) :
    (parseManagedOption index token next).map ParsedOption.canonical =
      managedName token := by
  rw [parseManagedOption, managedName]
  split
  · rfl
  · cases shortForm token with
    | none => rfl
    | some short => rfl

theorem mem_parseManagedOptions
    {index : Nat} {tokens : List String} {token canonical : String}
    (member : token ∈ tokens)
    (isManaged : managedName token = some canonical) :
    ∃ occurrence ∈ parseManagedOptions index tokens,
      occurrence.canonical = canonical := by
  induction tokens generalizing index with
  | nil => cases member
  | cons first rest induction =>
      rw [parseManagedOptions]
      rcases List.mem_cons.mp member with rfl | inRest
      · rw [← canonical_parseManagedOption index token rest.head?,
          Option.map_eq_some_iff] at isManaged
        rcases isManaged with ⟨occurrence, found, same⟩
        exact ⟨occurrence, by simp [found], same⟩
      · rcases induction inRest with ⟨occurrence, inLater, same⟩
        exact ⟨occurrence, List.mem_append_right _ inLater, same⟩

/-- No token of an accepted text is managed under a refused name. -/
theorem not_refused_of_accepted
    {value : Option String} {sourceLabel : String}
    {permissions : Permissions} {commandKind : CommandKind}
    {guarded : GuardedTokens}
    (accepted : guardFreeform value sourceLabel permissions commandKind =
      .ok guarded)
    {token canonical : String} (member : token ∈ guarded.tokens)
    (isManaged : managedName token = some canonical) :
    refused permissions canonical = false := by
  rw [guardFreeform.eq_def] at accepted
  split at accepted
  · cases accepted
    cases member
  · split at accepted
    · cases accepted
      cases member
    · split at accepted
      · cases accepted
      · rcases guardOptions_eq_ok accepted with ⟨sameTokens, notRefused⟩
        rw [sameTokens] at member
        rcases mem_parseManagedOptions member isManaged with
          ⟨occurrence, inOccurrences, rfl⟩
        exact notRefused occurrence inOccurrences

/-! ## Hidden spellings -/

/-- The options which no accepted text may enact. -/
def protectedOptions (permissions : Permissions) : List String :=
  if permissions.expertMode || permissions.allowExec then
    ["--output", "--download-archive", "--cookies", "--cookies-from-browser"]
  else reservedOptions

/-- The option goes by a protected name. -/
def IsProtected (permissions : Permissions) (option : OptionDef) : Prop :=
  ∃ name ∈ option.names, name ∈ protectedOptions permissions

/-- The table lists the spelling under a name which the guard refuses. -/
def IsListed (table : List (String × String)) (permissions : Permissions)
    (spelling : String) : Prop :=
  ∃ canonical, lookup table spelling = some canonical ∧
    refused permissions canonical = true

/-- The spellings of a protected option which the guard does not look for. -/
inductive IsHidden (parser : Parser) (permissions : Permissions)
    (token : String) : Prop where
  /-- A long name is shortened to a prefix. -/
  | abbreviated (rest : List Char) (option : OptionDef)
      (isLong : token.toList = '-' :: '-' :: rest)
      (shortened : named parser (longSpelling token) = none)
      (unambiguous : completions parser (longSpelling token) = [option])
      (isProtected : IsProtected permissions option)
  /-- A long name which `OPTION_ALIASES` lacks. -/
  | unlisted (rest : List Char) (option : OptionDef)
      (isLong : token.toList = '-' :: '-' :: rest)
      (isName : named parser (longSpelling token) = some option)
      (missing : ¬ IsListed optionAliases permissions (longSpelling token))
      (isProtected : IsProtected permissions option)
  /-- A short name alone which `OPTION_ALIASES` lacks. -/
  | unlistedShort (char : Char) (option : OptionDef)
      (isShort : token.toList = ['-', char]) (notHyphen : char ≠ '-')
      (isName : named parser (shortName char) = some option)
      (missing : ¬ IsListed optionAliases permissions (shortName char))
      (isProtected : IsProtected permissions option)
  /-- A short name with text attached which `SHORT_VALUE_ALIASES` lacks. -/
  | attached (char next : Char) (rest : List Char) (option : OptionDef)
      (isShort : token.toList = '-' :: char :: next :: rest)
      (notHyphen : char ≠ '-')
      (isName : named parser (shortName char) = some option)
      (missing : ¬ IsListed shortValueAliases permissions (shortName char))
      (isProtected : IsProtected permissions option)
  /-- A short name after a flag in a cluster. -/
  | clustered (char : Char) (rest : List Char) (flag option : OptionDef)
      (found : List OptionDef) (mode : Mode)
      (isShort : token.toList = '-' :: char :: rest) (notHyphen : char ≠ '-')
      (isFlag : named parser (shortName char) = some flag)
      (takesNone : flag.nargs = 0)
      (follows : readShort parser rest = .ok (found, mode))
      (isRead : option ∈ found)
      (isProtected : IsProtected permissions option)

/-! ## What is read in a token -/

theorem mem_readShort_of_named
    {parser : Parser} {char : Char} {rest : List Char} {option : OptionDef}
    {found : List OptionDef} {next : Mode}
    (read : readShort parser (char :: rest) = .ok (found, next))
    (isName : named parser (shortName char) = some option) :
    option ∈ found := by
  rw [readShort, isName] at read
  dsimp only at read
  split at read
  · split at read
    · cases read
    · cases read
      exact List.mem_cons_self
  · cases read
    exact List.mem_cons_self

/-- The first option of a cluster, and the options after a flag. -/
theorem mem_readShort_cases
    {parser : Parser} {char : Char} {rest : List Char} {option : OptionDef}
    {found : List OptionDef} {next : Mode}
    (read : readShort parser (char :: rest) = .ok (found, next))
    (member : option ∈ found) :
    named parser (shortName char) = some option ∨
      ∃ flag later mode, named parser (shortName char) = some flag ∧
        flag.nargs = 0 ∧ readShort parser rest = .ok (later, mode) ∧
        option ∈ later := by
  rw [readShort] at read
  split at read
  · cases read
  · next flag isName =>
      split at read
      · next takesNone =>
          split at read
          · cases read
          · next later readRest =>
              cases read
              rcases List.mem_cons.mp member with rfl | inLater
              · exact Or.inl isName
              · exact Or.inr ⟨flag, later.1, later.2, isName, takesNone,
                  readRest, inLater⟩
      · cases read
        rw [List.mem_singleton.mp member]
        exact Or.inl isName

/-- A long option is the only one in its token. -/
theorem readLong_eq_ok
    {parser : Parser} {token : String} {found : List OptionDef} {next : Mode}
    (read : readLong parser token = .ok (found, next)) :
    ∃ option, matchLong parser (longSpelling token) = .ok option ∧
      found = [option] := by
  rw [readLong] at read
  split at read
  · cases read
  · next option isMatch =>
      split at read
      · cases read
        exact ⟨option, isMatch, rfl⟩
      · split at read
        · cases read
        · cases read
          exact ⟨option, isMatch, rfl⟩

/-- A hidden spelling enacts a protected option. -/
theorem isProtected_of_isHidden
    {parser : Parser} {permissions : Permissions} {token : String}
    {found : List OptionDef} {next : Mode}
    (isHidden : IsHidden parser permissions token)
    (read : readToken parser token = .ok (.options found, next)) :
    ∃ option ∈ found, IsProtected permissions option := by
  have inLong (rest : List Char) (option : OptionDef)
      (isLong : token.toList = '-' :: '-' :: rest)
      (isMatch : matchLong parser (longSpelling token) = .ok option) :
      option ∈ found := by
    rcases (readToken_eq_options_iff.mp read).2 with
      ⟨-, -, readHere⟩ | ⟨char, later, isShort, notHyphen, -⟩
    · rcases readLong_eq_ok readHere with ⟨other, isOther, rfl⟩
      rw [isMatch] at isOther
      cases isOther
      exact List.mem_singleton.mpr rfl
    · rw [isLong] at isShort
      cases isShort
      exact absurd rfl notHyphen
  have inShort (char : Char) (rest : List Char)
      (isShort : token.toList = '-' :: char :: rest)
      (notHyphen : char ≠ '-') :
      readShort parser (char :: rest) = .ok (found, next) := by
    rcases (readToken_eq_options_iff.mp read).2 with
      ⟨later, isLong, -⟩ | ⟨other, later, isOther, -, readHere⟩
    · rw [isShort] at isLong
      cases isLong
      exact absurd rfl notHyphen
    · rw [isShort] at isOther
      cases isOther
      exact readHere
  cases isHidden with
  | abbreviated rest option isLong shortened unambiguous isProtected =>
      have isMatch : matchLong parser (longSpelling token) = .ok option := by
        rw [matchLong, shortened, unambiguous]
      exact ⟨option, inLong rest option isLong isMatch, isProtected⟩
  | unlisted rest option isLong isName missing isProtected =>
      have isMatch : matchLong parser (longSpelling token) = .ok option := by
        rw [matchLong, isName]
      exact ⟨option, inLong rest option isLong isMatch, isProtected⟩
  | unlistedShort char option isShort notHyphen isName missing isProtected =>
      exact ⟨option,
        mem_readShort_of_named (inShort char [] isShort notHyphen) isName,
        isProtected⟩
  | attached char after rest option isShort notHyphen isName missing
      isProtected =>
      exact ⟨option,
        mem_readShort_of_named (inShort char _ isShort notHyphen) isName,
        isProtected⟩
  | clustered char rest flag option later mode isShort notHyphen isFlag
      takesNone follows isRead isProtected =>
      have readHere := inShort char rest isShort notHyphen
      rw [readShort, isFlag] at readHere
      dsimp only at readHere
      rw [if_pos takesNone, follows] at readHere
      cases readHere
      exact ⟨option, List.mem_cons_of_mem _ isRead, isProtected⟩

/-! ## What the guard looks for -/

/-- A short name stands alone in `OPTION_ALIASES`. -/
theorem lookup_optionAliases_eq_none
    {spelling : String} {char next : Char} {rest : List Char}
    (isShort : spelling.toList = '-' :: char :: next :: rest)
    (notHyphen : char ≠ '-') :
    lookup optionAliases spelling = none := by
  have shapes : ∀ entry ∈ optionAliases,
      entry.1.toList.length = 2 ∨ entry.1.toList[1]? = some '-' := by
    decide
  rw [lookup, Option.map_eq_none_iff, List.find?_eq_none]
  intro entry member same
  have isSpelling : entry.1 = spelling := by simpa using same
  rcases shapes entry member with twoLong | isLong
  · rw [isSpelling, isShort] at twoLong
    cases twoLong
  · rw [isSpelling, isShort] at isLong
    exact notHyphen (Option.some.inj isLong)

theorem mem_of_lookup
    {table : List (String × String)} {key value : String}
    (found : lookup table key = some value) :
    (key, value) ∈ table := by
  rw [lookup, Option.map_eq_some_iff] at found
  rcases found with ⟨⟨first, second⟩, isEntry, rfl⟩
  have isKey : first = key := by simpa using List.find?_some isEntry
  rw [← isKey]
  exact List.mem_of_find?_eq_some isEntry

/-- The short names which are looked for with text attached. -/
theorem char_of_shortValueAliases
    {char : Char} {canonical : String}
    (listed : lookup shortValueAliases (shortName char) = some canonical) :
    char = 'P' ∧ canonical = "--paths" ∨
      char = 'o' ∧ canonical = "--output" ∨
      char = 'O' ∧ canonical = "--print" := by
  have shapes : ∀ entry ∈ shortValueAliases,
      (entry.1.toList[1]? = some 'P' ∧ entry.2 = "--paths") ∨
        (entry.1.toList[1]? = some 'o' ∧ entry.2 = "--output") ∨
        (entry.1.toList[1]? = some 'O' ∧ entry.2 = "--print") := by
    decide
  have isChar : (shortName char).toList[1]? = some char := by
    rw [shortName, String.toList_ofList]
    rfl
  simpa only [isChar, Option.some.injEq] using shapes _ (mem_of_lookup listed)

/-- A listed short name with text attached is managed under that name. -/
theorem managedName_of_attached
    {token canonical : String} {char next : Char} {rest : List Char}
    (isShort : token.toList = '-' :: char :: next :: rest)
    (listed : lookup shortValueAliases (shortName char) = some canonical) :
    managedName token = some canonical := by
  by_cases isInline : next = '='
  · -- The text before `=` is the short name alone.
    rcases char_of_shortValueAliases listed with
      ⟨rfl, rfl⟩ | ⟨rfl, rfl⟩ | ⟨rfl, rfl⟩
    all_goals
      rw [managedName, longSpelling, isShort, isInline]
      simp only [partitionAt, if_false, if_true, Char.reduceEq]
      rfl
  · have notHyphen : char ≠ '-' := by
      rcases char_of_shortValueAliases listed with
        ⟨rfl, -⟩ | ⟨rfl, -⟩ | ⟨rfl, -⟩ <;> decide
    have notEquals : char ≠ '=' := by
      rcases char_of_shortValueAliases listed with
        ⟨rfl, -⟩ | ⟨rfl, -⟩ | ⟨rfl, -⟩ <;> decide
    have isLonger : (longSpelling token).toList =
        '-' :: char :: next :: (partitionAt '=' rest).1 := by
      rw [longSpelling, String.toList_ofList, isShort]
      simp [partitionAt, notEquals, isInline]
    rw [managedName, lookup_optionAliases_eq_none isLonger notHyphen]
    dsimp only
    rcases char_of_shortValueAliases listed with
      ⟨rfl, rfl⟩ | ⟨rfl, rfl⟩ | ⟨rfl, rfl⟩
    all_goals
      rw [shortForm, isShort]
      simp [shortValueAliases, List.isPrefixOf]

/-- A listed name alone is managed under that name. -/
theorem managedName_of_listed
    {token canonical : String}
    (listed : lookup optionAliases (longSpelling token) = some canonical) :
    managedName token = some canonical := by
  rw [managedName, listed]

/-- A short name alone is its own spelling. -/
theorem longSpelling_of_short
    {token : String} {char : Char}
    (isShort : token.toList = ['-', char]) (notEquals : char ≠ '=') :
    longSpelling token = shortName char := by
  rw [longSpelling, shortName, isShort]
  simp [partitionAt, notEquals]

/-- What is enacted in a token which the guard passes is hidden in it. -/
theorem isHidden_of_isProtected
    {parser : Parser} {permissions : Permissions} {token : String}
    {found : List OptionDef} {next : Mode} {option : OptionDef}
    (passed : ∀ canonical, managedName token = some canonical →
      refused permissions canonical = false)
    (read : readToken parser token = .ok (.options found, next))
    (member : option ∈ found) (isProtected : IsProtected permissions option) :
    IsHidden parser permissions token := by
  have notManaged {canonical : String}
      (isManaged : managedName token = some canonical) :
      ¬ refused permissions canonical = true := by
    rw [passed canonical isManaged]
    exact Bool.false_ne_true
  rcases (readToken_eq_options_iff.mp read).2 with
    ⟨rest, isLong, readHere⟩ | ⟨char, rest, isShort, notHyphen, readHere⟩
  · rcases readLong_eq_ok readHere with ⟨other, isMatch, rfl⟩
    cases List.mem_singleton.mp member
    rw [matchLong] at isMatch
    split at isMatch
    · next isName =>
        cases isMatch
        have missing : ¬ IsListed optionAliases permissions
            (longSpelling token) := by
          rintro ⟨canonical, listed, isRefused⟩
          exact notManaged (managedName_of_listed listed) isRefused
        exact .unlisted rest option isLong isName missing isProtected
    · next shortened =>
        split at isMatch
        · cases isMatch
        · next isOnly =>
            cases isMatch
            exact .abbreviated rest option isLong shortened isOnly isProtected
        · cases isMatch
  · rcases mem_readShort_cases readHere member with
      isName | ⟨flag, later, mode, isFlag, takesNone, follows, inLater⟩
    · cases rest with
      | nil =>
          have missing : ¬ IsListed optionAliases permissions
              (shortName char) := by
            rintro ⟨canonical, listed, isRefused⟩
            by_cases isEquals : char = '='
            · have isNone : lookup optionAliases (shortName '=') = none := by
                decide
              rw [isEquals, isNone] at listed
              cases listed
            · rw [← longSpelling_of_short isShort isEquals] at listed
              exact notManaged (managedName_of_listed listed) isRefused
          exact .unlistedShort char option isShort notHyphen isName missing
            isProtected
      | cons after rest =>
          have missing : ¬ IsListed shortValueAliases permissions
              (shortName char) := by
            rintro ⟨canonical, listed, isRefused⟩
            exact notManaged (managedName_of_attached isShort listed) isRefused
          exact .attached char after rest option isShort notHyphen isName
            missing isProtected
    · exact .clustered char rest flag option later mode isShort notHyphen
        isFlag takesNone follows inLater isProtected

/-! ## Soundness -/

/--
An accepted text enacts no protected option when, and only when, none of its
option tokens is a hidden spelling.
-/
theorem freeform_guard_sound_iff
    {value : Option String} {sourceLabel : String}
    {permissions : Permissions} {commandKind : CommandKind}
    {guarded : GuardedTokens} {parser : Parser} {found : List Role}
    {finish : Mode}
    (accepted : guardFreeform value sourceLabel permissions commandKind =
      .ok guarded)
    (read : roles parser .options guarded.tokens = .ok (found, finish)) :
    (∀ option ∈ enacted found, ¬ IsProtected permissions option) ↔
      ∀ token ∈ optionTokens guarded.tokens found,
        ¬ IsHidden parser permissions token := by
  constructor
  · intro sound token member isHidden
    rcases readToken_of_mem_optionTokens read member with
      ⟨-, options, next, readHere⟩
    rcases isProtected_of_isHidden isHidden readHere with
      ⟨option, inOptions, isProtected⟩
    have isEnacted : option ∈ enacted found :=
      (mem_enacted_iff read).mpr
        ⟨token, member, options, next, readHere, inOptions⟩
    exact sound option isEnacted isProtected
  · intro noneHidden option isEnacted isProtected
    rcases (mem_enacted_iff read).mp isEnacted with
      ⟨token, member, options, next, readHere, inOptions⟩
    have inTokens := (readToken_of_mem_optionTokens read member).1
    have passed (canonical : String)
        (isManaged : managedName token = some canonical) :=
      not_refused_of_accepted accepted inTokens isManaged
    exact noneHidden token member
      (isHidden_of_isProtected passed readHere inOptions isProtected)

/-- Some of the options of yt-dlp. -/
def ytdlpOptions : Parser :=
  [{ names := ["-f", "--format"], nargs := 1 },
    { names := ["-q", "--quiet"], nargs := 0 },
    { names := ["-o", "--output"], nargs := 1 },
    { names := ["--cookies"], nargs := 1 },
    { names := ["--cookies-from-browser"], nargs := 1 }]

theorem freeform_guard_sound_format :
    guardFreeform (some "-f best") "Playlist music" {} .download =
        .ok { tokens := ["-f", "best"] } ∧
      ∀ option ∈ enacted
          [.options [{ names := ["-f", "--format"], nargs := 1 }],
            .value { names := ["-f", "--format"], nargs := 1 }],
        ¬ IsProtected {} option := by
  have accepted :
      guardFreeform (some "-f best") "Playlist music" {} .download =
        .ok { tokens := ["-f", "best"] } := rfl
  apply And.intro accepted
  apply (freeform_guard_sound_iff accepted
    (show roles ytdlpOptions .options ["-f", "best"] =
        .ok ([.options [{ names := ["-f", "--format"], nargs := 1 }],
          .value { names := ["-f", "--format"], nargs := 1 }], .options) by
      rfl)).mpr
  intro token member isHidden
  cases List.mem_singleton.mp member
  rcases isProtected_of_isHidden isHidden
      (show readToken ytdlpOptions "-f" =
        .ok (.options [{ names := ["-f", "--format"], nargs := 1 }],
          .awaiting { names := ["-f", "--format"], nargs := 1 } 0) by rfl) with
    ⟨option, isFormat, name, isName, isReserved⟩
  cases List.mem_singleton.mp isFormat
  have apart : ∀ name ∈ ["-f", "--format"], name ∉ protectedOptions {} := by
    decide
  exact apart name isName isReserved

/-- `-qo x` is accepted, and yt-dlp reads `--output` in it. -/
theorem output_enacted_quietCluster :
    guardFreeform (some "-qo x") "Playlist music" {} .download =
        .ok { tokens := ["-qo", "x"] } ∧
      roles ytdlpOptions .options ["-qo", "x"] =
        .ok ([.options [{ names := ["-q", "--quiet"], nargs := 0 },
            { names := ["-o", "--output"], nargs := 1 }],
          .value { names := ["-o", "--output"], nargs := 1 }], .options) ∧
      ¬ ∀ option ∈ enacted
          [.options [{ names := ["-q", "--quiet"], nargs := 0 },
              { names := ["-o", "--output"], nargs := 1 }],
            .value { names := ["-o", "--output"], nargs := 1 }],
        ¬ IsProtected {} option := by
  constructor
  · rfl
  constructor
  · rfl
  · intro sound
    apply sound { names := ["-o", "--output"], nargs := 1 } (by decide)
    exact ⟨"--output", by decide, by decide⟩

end Sluicery.Core.Options
