import Sluicery.Core.Naming
import Sluicery.Library.FormatString

/-!
# Exceptions of `resolve_subpath`

A subpath template can go on from its variables to their attributes and items,
convert what it finds and format it.  `resolve_subpath` makes a
`LayoutValidationError` of an `AttributeError`, a `KeyError` and a `ValueError`
of the expansion; the other exceptions, and those of the folder name, get out.
What Python does with objects other than the variables and strings is up to a
`Language`.
-/

namespace Sluicery.Layout

open Sluicery.Library Sluicery.Core.Options

/-! ## Objects -/

/-- The exceptions, as the handlers tell them apart. -/
inductive ExceptionKind where
  | attributeError
  | keyError
  | valueError
  | typeError
  | indexError
  | other
deriving DecidableEq, Repr

/-- An exception with its text. -/
structure PyException where
  kind : ExceptionKind
  message : String
deriving DecidableEq, Repr

/-- `except (AttributeError, KeyError, ValueError)`. -/
def PyException.IsCaught (exception : PyException) : Prop :=
  exception.kind ∈
    [ExceptionKind.attributeError, .keyError, .valueError]

instance (exception : PyException) : Decidable exception.IsCaught :=
  inferInstanceAs (Decidable (_ ∈ _))

/-- What a template can reach. -/
inductive PyObject (Other : Type) where
  /-- `_PlaylistVariables`. -/
  | playlist
  /-- `_ProfileVariables`. -/
  | profile
  | str (text : List Char)
  | other (object : Other)
deriving DecidableEq

/-- What Python does with objects beyond the fields of the variables and the
items of a string. -/
structure Language where
  Other : Type
  /-- Attributes which are no fields of the variables. -/
  attributeOf : PyObject Other → List Char →
    Except PyException (PyObject Other)
  keyOf : Other → List Char → Except PyException (PyObject Other)
  indexOf : Other → Nat → Except PyException (PyObject Other)
  /-- `str`, `repr` and `ascii`. -/
  convert : Char → PyObject Other → Except PyException (List Char)
  /-- `format(text, spec)` with a specification. -/
  formatStr : List Char → List Char → Except PyException (List Char)
  formatOther : Other → List Char → Except PyException (List Char)

variable (language : Language) (values : Variables)

/-- The fields of `_PlaylistVariables` and `_ProfileVariables`. -/
def fieldOf (object : PyObject language.Other) (name : List Char) :
    Option String :=
  match object with
  | .playlist =>
      if name = "name".toList then some values.playlistName
      else if name = "folder_name".toList then
        some values.playlistFolderName
      else none
  | .profile =>
      if name = "name".toList then some values.profileName
      else if name = "kind".toList then some values.profileKind
      else none
  | .str _ | .other _ => none

/-- The name of the class of the variables. -/
def className (object : PyObject language.Other) : String :=
  match object with
  | .playlist => "_PlaylistVariables"
  | .profile => "_ProfileVariables"
  | .str _ => "str"
  | .other _ => "object"

/-- `object[...]` of an object without items. -/
def notSubscriptable (object : PyObject language.Other) : PyException where
  kind := .typeError
  message := "'" ++ className language object ++
    "' object is not subscriptable"

/-- `template.format_map(variables)` over the objects. -/
def interpreter :
    FormatString.Interpreter (PyObject language.Other) PyException where
  valueError message := ⟨.valueError, message⟩
  lookup name :=
    if name = "playlist".toList then .ok .playlist
    else if name = "profile".toList then .ok .profile
    else .error ⟨.keyError, "'" ++ String.ofList name ++ "'"⟩
  getAttribute object name :=
    match fieldOf language values object name with
    | some value => .ok (.str value.toList)
    | none => language.attributeOf object name
  getKey object name :=
    match object with
    | .other object => language.keyOf object name
    | .str _ =>
        .error ⟨.typeError, "string indices must be integers, not 'str'"⟩
    | object => .error (notSubscriptable language object)
  getIndex object position :=
    match object with
    | .other object => language.indexOf object position
    | .str text =>
        match text[position]? with
        | some char => .ok (.str [char])
        | none => .error ⟨.indexError, "string index out of range"⟩
    | object => .error (notSubscriptable language object)
  convert conversion object :=
    (language.convert conversion object).map .str
  format object spec :=
    match object with
    | .other object => language.formatOther object spec
    | .str text => if spec = [] then .ok text else language.formatStr text spec
    | object =>
        if spec = [] then language.convert 's' object
        else
          .error
            { kind := .typeError
              message := "unsupported format string passed to " ++
                className language object ++ ".__format__" }

/-! ## `resolve_subpath` -/

/-- How `resolve_subpath` fails. -/
inductive SubpathFailure where
  | layoutValidation (message : String)
  | exception (exception : PyException)
deriving DecidableEq, Repr

variable (names : Names)

/-- The variables of a context, with its sanitized folder name. -/
def variablesOf (ctx : LayoutContext) (folderName : String) : Variables where
  playlistName := ctx.playlistName
  playlistFolderName := folderName
  profileName := ctx.profileName
  profileKind := ctx.profileKind

/-- `resolve_subpath`, with every exception. -/
def resolveSubpathOf (template : String) (ctx : LayoutContext) :
    Except SubpathFailure String :=
  match sanitizeComponent names ctx.playlistFolderName with
  | .error message => .error (.exception ⟨.valueError, message⟩)
  | .ok folderName =>
      match (interpreter language (variablesOf ctx folderName)).formatMap
          template.toList with
      | .error exception =>
          if exception.IsCaught then
            .error (.layoutValidation
              ("subpath テンプレートを展開できません: " ++ exception.message))
          else .error (.exception exception)
      | .ok expanded =>
          match sanitizeRelativePath names (String.ofList expanded) with
          | .error message => .error (.layoutValidation message)
          | .ok path => .ok path

/-- A path which the storage keeps as it is, or a `LayoutValidationError`. -/
def EndsAsDocumented : Except SubpathFailure String → Prop
  | .ok path => Storage.validateRelativePath path false = .ok path
  | .error (.layoutValidation _) => True
  | .error (.exception _) => False

/-! ## Regular templates -/

/-- The steps of a template which raise no other exception: an item of a string
is one of its characters, the variables have no items and no specification, and
what Python does beyond that raises nothing else. -/
def demands : FormatString.Demands (PyObject language.Other) where
  onAttribute object name :=
    (fieldOf language values object name).isSome ∨
      FailsOnly PyException.IsCaught (language.attributeOf object name)
  onKey object name :=
    match object with
    | .other object =>
        FailsOnly PyException.IsCaught (language.keyOf object name)
    | _ => False
  onIndex object position :=
    match object with
    | .other object =>
        FailsOnly PyException.IsCaught (language.indexOf object position)
    | .str text => position < text.length
    | _ => False
  onConvert conversion object :=
    FailsOnly PyException.IsCaught (language.convert conversion object)
  onFormat object spec :=
    match object with
    | .other object =>
        FailsOnly PyException.IsCaught (language.formatOther object spec)
    | .str text =>
        spec = [] ∨
          FailsOnly PyException.IsCaught (language.formatStr text spec)
    | object =>
        spec = [] ∧
          FailsOnly PyException.IsCaught (language.convert 's' object)

/-- Every step of the template which is reached is one of these. -/
def IsRegular (template : String) : Prop :=
  (demands language values).Regular (interpreter language values)
    template.toList

variable {language values names}

theorem failsOnly_map {Value Result : Type} {allowed : PyException → Prop}
    (convert : Value → Result) (result : Except PyException Value) :
    FailsOnly allowed (result.map convert) ↔ FailsOnly allowed result := by
  cases result with
  | error exception => simp [Except.map]
  | ok value => simp [Except.map]

theorem isCaught_valueError (message : String) :
    PyException.IsCaught ⟨.valueError, message⟩ := by
  simp [PyException.IsCaught]

theorem not_isCaught_typeError (message : String) :
    ¬ PyException.IsCaught ⟨.typeError, message⟩ := by
  simp [PyException.IsCaught]

theorem decides_demands :
    (demands language values).Decides (interpreter language values)
      PyException.IsCaught where
  valueError := isCaught_valueError
  lookup := by
    intro name
    show FailsOnly _ (if name = "playlist".toList then _
      else if name = "profile".toList then _ else _)
    split
    · exact failsOnly_ok _
    · split
      · exact failsOnly_ok _
      · rw [failsOnly_error, PyException.IsCaught]
        exact List.mem_cons_of_mem _ List.mem_cons_self
  access := by
    intro object accessor
    cases accessor with
    | attr name =>
        show FailsOnly _ (match fieldOf language values object name with
          | some value => _
          | none => _) ↔
          (fieldOf language values object name).isSome ∨ _
        cases fieldOf language values object name with
        | some value => simp
        | none => simp
    | key name =>
        cases object with
        | other object => exact Iff.rfl
        | str text =>
            exact iff_of_false (by
              rw [FormatString.Interpreter.access]
              exact fun fails => not_isCaught_typeError _
                ((failsOnly_error _).mp fails)) not_false
        | playlist =>
            exact iff_of_false (fun fails => not_isCaught_typeError _
              ((failsOnly_error _).mp fails)) not_false
        | profile =>
            exact iff_of_false (fun fails => not_isCaught_typeError _
              ((failsOnly_error _).mp fails)) not_false
    | index position =>
        cases object with
        | other object => exact Iff.rfl
        | str text =>
            show FailsOnly _ (match text[position]? with
              | some char => _
              | none => _) ↔ position < text.length
            cases found : text[position]? with
            | some char =>
                have inText := (List.getElem?_eq_some_iff.mp found).1
                simp [inText]
            | none =>
                have outside := List.getElem?_eq_none_iff.mp found
                simp only [failsOnly_error, Nat.not_lt.mpr outside, iff_false,
                  PyException.IsCaught]
                decide
        | playlist =>
            exact iff_of_false (fun fails => not_isCaught_typeError _
              ((failsOnly_error _).mp fails)) not_false
        | profile =>
            exact iff_of_false (fun fails => not_isCaught_typeError _
              ((failsOnly_error _).mp fails)) not_false
  convert := fun conversion object => failsOnly_map _ _
  format := by
    intro object spec
    have refused : ∀ message : String,
        ¬ FailsOnly PyException.IsCaught
          (.error ⟨.typeError, message⟩ : Except PyException (List Char)) :=
      fun message fails =>
        not_isCaught_typeError message ((failsOnly_error _).mp fails)
    cases object with
    | other object => exact Iff.rfl
    | str text =>
        show FailsOnly _ (if spec = [] then _ else _) ↔ spec = [] ∨ _
        by_cases empty : spec = []
        · simp [empty]
        · simp [empty]
    | playlist =>
        show FailsOnly _ (if spec = [] then _ else _) ↔ spec = [] ∧ _
        by_cases empty : spec = []
        · simp [empty]
        · simp [empty, not_isCaught_typeError]
    | profile =>
        show FailsOnly _ (if spec = [] then _ else _) ↔ spec = [] ∧ _
        by_cases empty : spec = []
        · simp [empty]
        · simp [empty, not_isCaught_typeError]

/-- The exception of a refused folder name gets out. -/
theorem not_endsAsDocumented_of_error
    {template : String} {ctx : LayoutContext} {message : String}
    (refused : sanitizeComponent names ctx.playlistFolderName =
      .error message) :
    ¬ EndsAsDocumented (resolveSubpathOf language names template ctx) := by
  rw [resolveSubpathOf, refused]
  exact id

theorem endsAsDocumented_iff_of_ok
    {template : String} {ctx : LayoutContext} {folderName : String}
    (sanitized : sanitizeComponent names ctx.playlistFolderName =
      .ok folderName) :
    EndsAsDocumented (resolveSubpathOf language names template ctx) ↔
      IsRegular language (variablesOf ctx folderName) template := by
  rw [resolveSubpathOf, sanitized]
  dsimp only
  rw [IsRegular, ← FormatString.Demands.failsOnly_formatMap_iff
    decides_demands]
  cases (interpreter language (variablesOf ctx folderName)).formatMap
      template.toList with
  | error exception =>
      rw [failsOnly_error]
      dsimp only
      split
      · next caught => exact iff_of_true trivial caught
      · next uncaught => exact iff_of_false id uncaught
  | ok expanded =>
      refine iff_of_true ?_ (failsOnly_ok _)
      dsimp only
      cases path : sanitizeRelativePath names (String.ofList expanded) with
      | error message => trivial
      | ok path => exact Core.Naming.validateRelativePath_sanitized path

/-- `resolve_subpath` ends as documented if the folder name can be sanitized
and every step of the template is regular, and only then. -/
theorem resolveSubpath_documented_iff
    (language : Language) (names : Names) (template : String)
    (ctx : LayoutContext) :
    EndsAsDocumented (resolveSubpathOf language names template ctx) ↔
      ∃ folderName,
        sanitizeComponent names ctx.playlistFolderName = .ok folderName ∧
          IsRegular language (variablesOf ctx folderName) template := by
  cases sanitized : sanitizeComponent names ctx.playlistFolderName with
  | error message =>
      refine iff_of_false (not_endsAsDocumented_of_error sanitized) ?_
      rintro ⟨folderName, impossible, -⟩
      cases impossible
  | ok folderName =>
      rw [endsAsDocumented_iff_of_ok sanitized]
      simp only [Except.ok.injEq, exists_eq_left']

/-! ## Templates of the documented fields -/

/-- The fields which the layouts document. -/
def documentedFields : List FormatString.Field :=
  ["playlist.name", "playlist.folder_name", "profile.name",
    "profile.kind"].map fun name => { name := name.toList }

/-- The template is text and documented fields, up to a slip of its syntax. -/
def usesDocumentedFields (template : String) : Bool :=
  (FormatString.pieces .text template.toList).all fun piece =>
    match piece with
    | .field field => field ∈ documentedFields
    | .literal _ | .malformed _ => true

/-- A documented field is a string, which is formatted as it is. -/
theorem regularField_documented
    {expand : List Char → Except PyException (List Char)}
    {regular : List Char → Prop} {field : FormatString.Field}
    (documented : field ∈ documentedFields) :
    (demands language values).RegularField (interpreter language values)
      expand regular field := by
  have ofVariable : ∀ {object : PyObject language.Other} {name : List Char}
      {value : String},
      (interpreter language values).variableOf field.first = .ok object →
      field.accessors = [.ok (.attr name)] →
      fieldOf language values object name = some value →
      field.conversion = none → field.isNested = false → field.spec = [] →
      (demands language values).RegularField (interpreter language values)
        expand regular field := by
    intro object name value isVariable accessors isField plain notNested
      noSpec start isStart
    cases isVariable.symm.trans isStart
    have reaches : (interpreter language values).getAttribute object name =
        .ok (.str value.toList) := by
      show (match fieldOf language values object name with
        | some value => _
        | none => _) = _
      rw [isField]
    rw [accessors]
    constructor
    · refine ⟨Or.inl ?_, fun _ _ => trivial⟩
      rw [isField]
      rfl
    · intro found isFound
      rw [FormatString.Interpreter.accessAll, FormatString.Interpreter.access,
        reaches] at isFound
      cases isFound
      rw [plain, notNested, noSpec]
      constructor
      · rintro _ ⟨⟩
      · rintro _ ⟨⟩
        constructor
        · rintro ⟨⟩
        · rintro _ ⟨⟩
          exact Or.inl rfl
  rw [documentedFields, List.mem_map] at documented
  rcases documented with ⟨name, isName, rfl⟩
  simp only [List.mem_cons, List.not_mem_nil, or_false] at isName
  rcases isName with rfl | rfl | rfl | rfl
  · exact @ofVariable .playlist "name".toList _ rfl rfl rfl rfl rfl rfl
  · exact @ofVariable .playlist "folder_name".toList _ rfl rfl rfl rfl rfl
      rfl
  · exact @ofVariable .profile "name".toList _ rfl rfl rfl rfl rfl rfl
  · exact @ofVariable .profile "kind".toList _ rfl rfl rfl rfl rfl rfl

theorem isRegular_of_usesDocumentedFields
    {template : String} (uses : usesDocumentedFields template = true) :
    IsRegular language values template := by
  rw [usesDocumentedFields] at uses
  show (demands language values).RegularPieces (interpreter language values)
    _ _ (FormatString.pieces .text template.toList)
  revert uses
  induction FormatString.pieces .text template.toList with
  | nil =>
      intro _
      trivial
  | cons piece rest induction =>
      intro uses
      rw [List.all_cons, Bool.and_eq_true] at uses
      cases piece with
      | literal => exact induction uses.2
      | malformed => trivial
      | field field =>
          exact ⟨regularField_documented (of_decide_eq_true uses.1),
            fun _ _ => induction uses.2⟩

/-- Only the folder name can raise where a template keeps to the documented
fields. -/
theorem resolveSubpath_documented_of_fields
    {template : String} (uses : usesDocumentedFields template = true)
    (ctx : LayoutContext) :
    EndsAsDocumented (resolveSubpathOf language names template ctx) ↔
      ∃ folderName,
        sanitizeComponent names ctx.playlistFolderName = .ok folderName := by
  cases sanitized : sanitizeComponent names ctx.playlistFolderName with
  | error message =>
      refine iff_of_false (not_endsAsDocumented_of_error sanitized) ?_
      rintro ⟨folderName, impossible⟩
      cases impossible
  | ok folderName =>
      rw [endsAsDocumented_iff_of_ok sanitized]
      exact iff_of_true (isRegular_of_usesDocumentedFields uses)
        ⟨folderName, rfl⟩

/-! ## The resolver without exceptions -/

/-- The names, with the expansion of templates by the interpreter. -/
def namesWith (language : Language) (names : Names) : Names :=
  { names with
    formatMap := fun template values =>
      match (interpreter language values).formatMap template.toList with
      | .error exception => .error exception.message
      | .ok expanded => .ok (String.ofList expanded) }

/-- Where no exception gets out, this is the resolver of the layouts. -/
theorem resolveSubpath_eq
    {language : Language} {names : Names} {template : String}
    {ctx : LayoutContext} {result : Except String String}
    (documented : resolveSubpathOf language names template ctx =
      result.mapError SubpathFailure.layoutValidation) :
    resolveSubpath (namesWith language names) template ctx = result := by
  have component : sanitizeComponent (namesWith language names)
      ctx.playlistFolderName =
        sanitizeComponent names ctx.playlistFolderName := rfl
  have relative : ∀ value, sanitizeRelativePath (namesWith language names)
      value = sanitizeRelativePath names value := fun _ => rfl
  have expansion : ∀ values, (namesWith language names).formatMap template
      values =
        match (interpreter language values).formatMap template.toList with
        | .error exception => .error exception.message
        | .ok expanded => .ok (String.ofList expanded) := fun _ => rfl
  rw [resolveSubpathOf] at documented
  rw [resolveSubpath, component]
  split at documented
  · cases result with
    | error message => cases documented
    | ok path => cases documented
  · next folderName sanitized =>
      rw [sanitized]
      show (match (namesWith language names).formatMap template
          (variablesOf ctx folderName) with
        | .error message =>
            throw ("subpath テンプレートを展開できません: " ++ message)
        | .ok expanded =>
            sanitizeRelativePath (namesWith language names) expanded) = result
      rw [expansion]
      split at documented
      · split at documented
        · cases result with
          | error message =>
              cases documented
              rfl
          | ok path => cases documented
        · cases result with
          | error message => cases documented
          | ok path => cases documented
      · dsimp only
        rw [relative]
        split at documented
        · next message refused =>
            rw [refused]
            cases result with
            | error message =>
                cases documented
                rfl
            | ok path => cases documented
        · next path kept =>
            rw [kept]
            cases result with
            | error message => cases documented
            | ok path =>
                cases documented
                rfl

/-! ## The template of the folder name -/

/-- The template which names the folder and nothing else. -/
def folderTemplate : String := "\x7bplaylist.folder_name\x7d"

theorem formatMap_folderTemplate (values : Variables) :
    (interpreter language values).formatMap folderTemplate.toList =
      .ok values.playlistFolderName.toList := by
  have parsed : FormatString.pieces .text folderTemplate.toList =
      [.field { name := "playlist.folder_name".toList }] := by
    decide
  rw [FormatString.Interpreter.formatMap, FormatString.Interpreter.expand,
    parsed]
  show Except.ok (values.playlistFolderName.toList ++ []) = _
  rw [List.append_nil]

theorem resolveSubpath_folderTemplate
    {ctx : LayoutContext} {path : String}
    (safe : Core.Naming.SafeName names ctx.playlistFolderName)
    (resolved : resolveSubpath (namesWith language names) folderTemplate ctx =
      .ok path) : path = ctx.playlistFolderName := by
  have component : sanitizeComponent (namesWith language names)
      ctx.playlistFolderName = .ok ctx.playlistFolderName := safe.kept
  have expansion : (namesWith language names).formatMap folderTemplate
      { playlistName := ctx.playlistName
        playlistFolderName := ctx.playlistFolderName
        profileName := ctx.profileName
        profileKind := ctx.profileKind } = .ok ctx.playlistFolderName := by
    rw [namesWith]
    dsimp only
    rw [formatMap_folderTemplate]
    dsimp only
    rw [String.ofList_toList]
  rw [resolveSubpath, component, bind_eq_ok_iff] at resolved
  rcases resolved with ⟨folderName, isName, relative⟩
  cases isName
  rw [expansion] at relative
  exact Core.Naming.eq_of_sanitizeRelativePath safe relative

/-- In the template of the folder name, the folder of a safe name is that of
the files exactly when the name is text of the template language. -/
theorem placedIn_folderName_iff
    {conversions : PercentTemplate.Conversions} {strategyName : String}
    {ctx : LayoutContext} {layout : ResolvedLayout}
    (isFolder : ctx.subpath = folderTemplate)
    (safe : Core.Naming.SafeName names ctx.playlistFolderName)
    (resolved : resolveLayout (namesWith language names) strategyName ctx =
      .ok layout) :
    (∀ metadata,
      PlacedIn conversions layout ctx.playlistFolderName metadata) ↔
      PercentTemplate.isLiteral conversions
        ('/' :: layout.outputTemplate.toList)
        ctx.playlistFolderName.toList = true := by
  have subpath := resolveSubpath_of_resolveLayout resolved
  rw [isFolder] at subpath
  rw [← resolveSubpath_folderTemplate safe subpath]
  exact ⟨isLiteral_of_placedIn, placedIn_of_isLiteral⟩

/-- Python with no objects but the variables and strings. -/
def plainLanguage : Language where
  Other := Empty
  attributeOf _ name :=
    .error ⟨.attributeError, "no attribute " ++ String.ofList name⟩
  keyOf object := object.elim
  indexOf object := object.elim
  convert _ _ := .ok []
  formatStr _ _ := .error ⟨.valueError, "Invalid format specifier"⟩
  formatOther object := object.elim

/-- The item of a variable is a `TypeError`, which gets out. -/
theorem resolveSubpath_undocumented :
    resolveSubpathOf plainLanguage plainNames "\x7bplaylist[name]\x7d"
        (contextOf "Music") =
      .error (.exception
        ⟨.typeError, "'_PlaylistVariables' object is not subscriptable"⟩) ∧
    ¬ EndsAsDocumented (resolveSubpathOf plainLanguage plainNames
        "\x7bplaylist[name]\x7d" (contextOf "Music")) := by
  have raised : resolveSubpathOf plainLanguage plainNames
      "\x7bplaylist[name]\x7d" (contextOf "Music") =
        .error (.exception
          ⟨.typeError, "'_PlaylistVariables' object is not subscriptable"⟩) := by
    decide +kernel
  refine ⟨raised, ?_⟩
  rw [raised]
  exact id

end Sluicery.Layout
