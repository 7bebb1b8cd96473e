import Mathlib.Data.List.Basic

/-!
# Reading command lines by the rules of optparse

An option table decides what each token of a command line is: a token in
which options are read, a value of an option, the terminator `--`, or a
positional argument.  A long option may be shortened to a prefix of one name
and may carry its value after `=`; short flags may be clustered, and the last
of a cluster may carry its value.  An option takes the tokens after it as its
values whatever they look like.

The reader is an automaton over the tokens, so a command line is read piece
by piece: `roles_append`.
-/

namespace Sluicery.Library.Optparse

/-! ## Options -/

/-- An option with its spellings, hyphens included, and how many values it takes. -/
structure OptionDef where
  names : List String
  nargs : Nat
deriving DecidableEq, Repr

/-- The options of a program. -/
abbrev Parser := List OptionDef

inductive ParseError where
  | noSuchOption (spelling : String)
  | ambiguousOption (spelling : String)
  | takesNoValue (spelling : String)
  | missingValue
deriving DecidableEq, Repr

/-- The text before the first separator, and the text after it. -/
def partitionAt (separator : Char) : List Char → List Char × Option (List Char)
  | [] => ([], none)
  | char :: rest =>
      if char = separator then ([], some rest)
      else
        let later := partitionAt separator rest
        (char :: later.1, later.2)

/-- The option with exactly this name. -/
def named (parser : Parser) (name : String) : Option OptionDef :=
  parser.find? fun option => option.names.contains name

/-- The options with a name which starts with the spelling, once a name. -/
def completions (parser : Parser) (spelling : String) : List OptionDef :=
  parser.flatMap fun option =>
    (option.names.filter fun name =>
      spelling.toList.isPrefixOf name.toList).map fun _ => option

/--
A long option by its name or by a prefix of one name.  This is the rule of the
standard `optparse`; a parser may also take a prefix shared by several names
of one option.
-/
def matchLong (parser : Parser) (spelling : String) :
    Except ParseError OptionDef :=
  match named parser spelling with
  | some option => .ok option
  | none =>
      match completions parser spelling with
      | [] => .error (.noSuchOption spelling)
      | [option] => .ok option
      | _ => .error (.ambiguousOption spelling)

/-! ## Tokens -/

/-- What a token of a command line is. -/
inductive Role where
  | options (found : List OptionDef)
  | value (option : OptionDef)
  | terminator
  | positional
deriving DecidableEq, Repr

/-- What the next token is read as. -/
inductive Mode where
  | options
  /-- A value, and so many more of them. -/
  | awaiting (option : OptionDef) (more : Nat)
  | positionals
deriving DecidableEq, Repr

/-- The mode after an option of whose values some were given in its token. -/
def afterOption (option : OptionDef) (given : Nat) : Mode :=
  match option.nargs - given with
  | 0 => .options
  | more + 1 => .awaiting option more

/-- The name in a token with a long option. -/
def longSpelling (token : String) : String :=
  String.ofList (partitionAt '=' token.toList).1

/-- A token with a long option. -/
def readLong (parser : Parser) (token : String) :
    Except ParseError (List OptionDef × Mode) :=
  match matchLong parser (longSpelling token) with
  | .error failure => .error failure
  | .ok option =>
      match (partitionAt '=' token.toList).2 with
      | none => .ok ([option], afterOption option 0)
      | some _ =>
          if option.nargs = 0 then .error (.takesNoValue (longSpelling token))
          else .ok ([option], afterOption option 1)

/-- The name of a short option. -/
def shortName (char : Char) : String :=
  String.ofList ['-', char]

/-- A cluster of short options, without its hyphen. -/
def readShort (parser : Parser) :
    List Char → Except ParseError (List OptionDef × Mode)
  | [] => .ok ([], .options)
  | char :: rest =>
      match named parser (shortName char) with
      | none => .error (.noSuchOption (shortName char))
      | some option =>
          if option.nargs = 0 then
            match readShort parser rest with
            | .error failure => .error failure
            | .ok later => .ok (option :: later.1, later.2)
          else
            .ok ([option], afterOption option (if rest.isEmpty then 0 else 1))

/-- A token where options are read: its role, and the mode after it. -/
def readToken (parser : Parser) (token : String) :
    Except ParseError (Role × Mode) :=
  let withRole := fun read : Except ParseError (List OptionDef × Mode) =>
    match read with
    | .error failure => .error failure
    | .ok found => .ok (Role.options found.1, found.2)
  if token = "--" then .ok (.terminator, .positionals)
  else
    match token.toList with
    | '-' :: '-' :: _ => withRole (readLong parser token)
    | '-' :: char :: rest => withRole (readShort parser (char :: rest))
    | _ => .ok (.positional, .options)

/-- One token in any mode. -/
def step (parser : Parser) (mode : Mode) (token : String) :
    Except ParseError (Role × Mode) :=
  match mode with
  | .options => readToken parser token
  | .awaiting option 0 => .ok (.value option, .options)
  | .awaiting option (more + 1) => .ok (.value option, .awaiting option more)
  | .positionals => .ok (.positional, .positionals)

/-! ## Command lines -/

/-- The roles of the tokens, and the mode after them. -/
def roles (parser : Parser) :
    Mode → List String → Except ParseError (List Role × Mode)
  | mode, [] => .ok ([], mode)
  | mode, token :: rest =>
      match step parser mode token with
      | .error failure => .error failure
      | .ok read =>
          match roles parser read.2 rest with
          | .error failure => .error failure
          | .ok later => .ok (read.1 :: later.1, later.2)

/-- The roles of the tokens of a whole command line. -/
def parse (parser : Parser) (tokens : List String) :
    Except ParseError (List Role) :=
  match roles parser .options tokens with
  | .error failure => .error failure
  | .ok (_, .awaiting _ _) => .error .missingValue
  | .ok (found, _) => .ok found

theorem roles_cons_eq_ok_iff
    {parser : Parser} {mode finish : Mode} {token : String}
    {rest : List String} {found : List Role} :
    roles parser mode (token :: rest) = .ok (found, finish) ↔
      ∃ role next later, step parser mode token = .ok (role, next) ∧
        roles parser next rest = .ok (later, finish) ∧
        found = role :: later := by
  rw [roles]
  constructor
  · intro read
    split at read
    · cases read
    · next stepped =>
        split at read
        · cases read
        · next isLater =>
            cases read
            exact ⟨_, _, _, stepped, isLater, rfl⟩
  · rintro ⟨role, next, later, stepped, isLater, rfl⟩
    rw [stepped]
    dsimp only
    rw [isLater]

/-- A command line is read piece by piece. -/
theorem roles_append_eq_ok_iff
    {parser : Parser} {mode finish : Mode} {left right : List String}
    {found : List Role} :
    roles parser mode (left ++ right) = .ok (found, finish) ↔
      ∃ first middle second,
        roles parser mode left = .ok (first, middle) ∧
        roles parser middle right = .ok (second, finish) ∧
        found = first ++ second := by
  induction left generalizing mode found with
  | nil =>
      constructor
      · exact fun read => ⟨[], mode, found, rfl, read, rfl⟩
      · rintro ⟨first, middle, second, empty, read, rfl⟩
        cases empty
        exact read
  | cons token rest induction =>
      rw [List.cons_append, roles_cons_eq_ok_iff]
      constructor
      · rintro ⟨role, next, later, stepped, read, rfl⟩
        rcases induction.mp read with
          ⟨first, middle, second, readFirst, readSecond, rfl⟩
        exact ⟨role :: first, middle, second,
          roles_cons_eq_ok_iff.mpr
            ⟨role, next, first, stepped, readFirst, rfl⟩,
          readSecond, rfl⟩
      · rintro ⟨first, middle, second, readFirst, readSecond, rfl⟩
        rcases roles_cons_eq_ok_iff.mp readFirst with
          ⟨role, next, later, stepped, readLater, rfl⟩
        exact ⟨role, next, later ++ second, stepped,
          induction.mpr ⟨later, middle, second, readLater, readSecond, rfl⟩,
          rfl⟩

/-- Every token has one role. -/
theorem length_roles
    {parser : Parser} {mode finish : Mode} {tokens : List String}
    {found : List Role}
    (read : roles parser mode tokens = .ok (found, finish)) :
    found.length = tokens.length := by
  induction tokens generalizing mode found with
  | nil =>
      cases read
      rfl
  | cons token rest induction =>
      rcases roles_cons_eq_ok_iff.mp read with
        ⟨role, next, later, -, readLater, rfl⟩
      rw [List.length_cons, List.length_cons, induction readLater]

/-! ## Where options are read -/

/-- The tokens in which options are read. -/
def optionTokens : List String → List Role → List String
  | token :: tokens, .options _ :: found =>
      token :: optionTokens tokens found
  | _ :: tokens, _ :: found => optionTokens tokens found
  | _, _ => []

/-- The options which are read in some token. -/
def enacted : List Role → List OptionDef
  | [] => []
  | .options found :: rest => found ++ enacted rest
  | _ :: rest => enacted rest

/-- What is read in a token which has options. -/
theorem readToken_of_step
    {parser : Parser} {mode next : Mode} {token : String}
    {found : List OptionDef}
    (stepped : step parser mode token = .ok (.options found, next)) :
    mode = .options ∧
      readToken parser token = .ok (.options found, next) := by
  rw [step.eq_def] at stepped
  split at stepped
  · exact ⟨rfl, stepped⟩
  · cases stepped
  · cases stepped
  · cases stepped

/-- An option is enacted when it is read in one of the option tokens. -/
theorem mem_enacted_iff
    {parser : Parser} {mode finish : Mode} {tokens : List String}
    {found : List Role} {option : OptionDef}
    (read : roles parser mode tokens = .ok (found, finish)) :
    option ∈ enacted found ↔
      ∃ token ∈ optionTokens tokens found, ∃ options next,
        readToken parser token = .ok (.options options, next) ∧
          option ∈ options := by
  induction tokens generalizing mode found with
  | nil =>
      cases read
      simp [enacted, optionTokens]
  | cons token rest induction =>
      rcases roles_cons_eq_ok_iff.mp read with
        ⟨role, next, later, stepped, readLater, rfl⟩
      have inLater := induction readLater
      cases role with
      | options options =>
          rcases readToken_of_step stepped with ⟨-, readHere⟩
          rw [enacted, optionTokens, List.mem_append, inLater]
          constructor
          · rintro (here | ⟨other, member, readOther⟩)
            · exact ⟨token, List.mem_cons_self, options, next, readHere, here⟩
            · exact ⟨other, List.mem_cons_of_mem _ member, readOther⟩
          · rintro ⟨other, member, options', next', readOther, inOptions⟩
            rcases List.mem_cons.mp member with rfl | inRest
            · rw [readHere] at readOther
              cases readOther
              exact Or.inl inOptions
            · exact Or.inr ⟨other, inRest, options', next', readOther,
                inOptions⟩
      | value option' => exact inLater
      | terminator => exact inLater
      | positional => exact inLater

/-- An option token is one of the tokens, and options are read in it. -/
theorem readToken_of_mem_optionTokens
    {parser : Parser} {mode finish : Mode} {tokens : List String}
    {found : List Role} {token : String}
    (read : roles parser mode tokens = .ok (found, finish))
    (member : token ∈ optionTokens tokens found) :
    token ∈ tokens ∧ ∃ options next,
      readToken parser token = .ok (.options options, next) := by
  induction tokens generalizing mode found with
  | nil =>
      cases read
      cases member
  | cons first rest induction =>
      rcases roles_cons_eq_ok_iff.mp read with
        ⟨role, next, later, stepped, readLater, rfl⟩
      have inLater := fun inRest => induction readLater inRest
      cases role with
      | options options =>
          rcases List.mem_cons.mp member with rfl | inRest
          · exact ⟨List.mem_cons_self, options, next,
              (readToken_of_step stepped).2⟩
          · exact ⟨List.mem_cons_of_mem _ (inLater inRest).1,
              (inLater inRest).2⟩
      | value option =>
          exact ⟨List.mem_cons_of_mem _ (inLater member).1,
            (inLater member).2⟩
      | terminator =>
          exact ⟨List.mem_cons_of_mem _ (inLater member).1,
            (inLater member).2⟩
      | positional =>
          exact ⟨List.mem_cons_of_mem _ (inLater member).1,
            (inLater member).2⟩

/-- Options are read in a long option and in a cluster of short ones. -/
theorem readToken_eq_options_iff
    {parser : Parser} {token : String} {found : List OptionDef}
    {next : Mode} :
    readToken parser token = .ok (.options found, next) ↔
      token ≠ "--" ∧
        ((∃ rest, token.toList = '-' :: '-' :: rest ∧
            readLong parser token = .ok (found, next)) ∨
          ∃ char rest, token.toList = '-' :: char :: rest ∧ char ≠ '-' ∧
            readShort parser (char :: rest) = .ok (found, next)) := by
  have opened (read : Except ParseError (List OptionDef × Mode)) :
      (match read with
        | .error failure => .error failure
        | .ok found => .ok (Role.options found.1, found.2)) =
          (.ok (.options found, next) : Except ParseError (Role × Mode)) ↔
        read = .ok (found, next) := by
    cases read with
    | error failure => simp
    | ok read =>
        rcases read with ⟨readFound, readNext⟩
        simp
  rw [readToken.eq_def]
  split
  · next isTerminator => simp [isTerminator]
  · next notTerminator =>
      split
      · next rest isLong => simp [opened, notTerminator, isLong]
      · next char rest notLong isShort =>
          have notHyphen : char ≠ '-' := notLong
          simp [opened, notTerminator, isShort, notHyphen]
      · next isLong isShort =>
          constructor
          · intro read
            cases read
          · rintro ⟨-, ⟨rest, same, -⟩ | ⟨char, rest, same, -⟩⟩
            · exact absurd same (isLong rest)
            · exact absurd same (isShort char rest)

/-! ## Complete pieces -/

/--
The tokens are options with all their values: nothing is read as a positional
argument, no terminator is met and no value is missing at the end.
-/
def Complete (parser : Parser) (tokens : List String) : Prop :=
  ∃ found, roles parser .options tokens = .ok (found, .options) ∧
    Role.positional ∉ found

theorem Complete.append
    {parser : Parser} {left right : List String}
    (isLeft : Complete parser left) (isRight : Complete parser right) :
    Complete parser (left ++ right) := by
  rcases isLeft with ⟨first, readFirst, firstOptions⟩
  rcases isRight with ⟨second, readSecond, secondOptions⟩
  exact ⟨first ++ second,
    roles_append_eq_ok_iff.mpr
      ⟨first, .options, second, readFirst, readSecond, rfl⟩,
    by simp [firstOptions, secondOptions]⟩

/-- What follows complete tokens is read on its own. -/
theorem Complete.append_iff
    {parser : Parser} {left right : List String}
    (isLeft : Complete parser left) :
    Complete parser (left ++ right) ↔ Complete parser right := by
  constructor
  · rintro ⟨found, read, noPositional⟩
    rcases roles_append_eq_ok_iff.mp read with
      ⟨first, middle, second, readFirst, readSecond, rfl⟩
    rcases isLeft with ⟨whole, readWhole, -⟩
    rw [readWhole] at readFirst
    cases readFirst
    exact ⟨second, readSecond, fun member =>
      noPositional (List.mem_append_right _ member)⟩
  · exact isLeft.append

/-- After the terminator every token is positional. -/
theorem roles_positionals
    (parser : Parser) (tokens : List String) :
    roles parser .positionals tokens =
      .ok (tokens.map fun _ => .positional, .positionals) := by
  induction tokens with
  | nil => rfl
  | cons token rest induction =>
      apply roles_cons_eq_ok_iff.mpr
      exact ⟨.positional, .positionals, _, rfl, induction, rfl⟩

/-- Options and the terminator are met only where options are read. -/
theorem mode_eq_options_of_step
    {parser : Parser} {mode next : Mode} {token : String} {role : Role}
    (stepped : step parser mode token = .ok (role, next))
    (isOption : role = .terminator ∨ ∃ found, role = .options found) :
    mode = .options := by
  rw [step.eq_def] at stepped
  split at stepped
  · rfl
  all_goals
    cases stepped
    rcases isOption with isTerminator | ⟨found, isOptions⟩
    · cases isTerminator
    · cases isOptions

theorem next_eq_positionals_of_terminator
    {parser : Parser} {mode next : Mode} {token : String}
    (stepped : step parser mode token = .ok (.terminator, next)) :
    next = .positionals := by
  have isOptions := mode_eq_options_of_step stepped (Or.inl rfl)
  rw [isOptions, step, readToken.eq_def] at stepped
  split at stepped
  · cases stepped
    rfl
  · split at stepped
    · dsimp only at stepped
      split at stepped <;> cases stepped
    · dsimp only at stepped
      split at stepped <;> cases stepped
    · cases stepped

/-- No terminator is among tokens after which options are still read. -/
theorem terminator_notMem
    {parser : Parser} {mode : Mode} {tokens : List String}
    {found : List Role}
    (read : roles parser mode tokens = .ok (found, .options)) :
    Role.terminator ∉ found := by
  induction tokens generalizing mode found with
  | nil =>
      cases read
      simp
  | cons token rest induction =>
      rcases roles_cons_eq_ok_iff.mp read with
        ⟨role, next, later, stepped, readLater, rfl⟩
      intro member
      rcases List.mem_cons.mp member with rfl | inLater
      · rw [next_eq_positionals_of_terminator stepped,
          roles_positionals] at readLater
        cases readLater
      · exact induction readLater inLater

/-- A command line with a terminator after complete tokens. -/
theorem roles_terminator
    (parser : Parser) (tokens : List String) :
    roles parser .options ("--" :: tokens) =
      .ok (.terminator :: tokens.map fun _ => .positional, .positionals) :=
  roles_cons_eq_ok_iff.mpr
    ⟨.terminator, .positionals, _, rfl, roles_positionals parser tokens, rfl⟩

theorem parse_eq_ok_iff
    {parser : Parser} {tokens : List String} {found : List Role} :
    parse parser tokens = .ok found ↔
      ∃ finish, roles parser .options tokens = .ok (found, finish) ∧
        (finish = .options ∨ finish = .positionals) := by
  rw [parse]
  cases read : roles parser .options tokens with
  | error failure => simp
  | ok result =>
      rcases result with ⟨other, mode⟩
      cases mode with
      | options => simp
      | awaiting option more => simp
      | positionals => simp

/-! ## Directives -/

/-- A long option written on its own, with the value after it. -/
structure Directive where
  name : String
  value : Option String := none
deriving DecidableEq, Repr

/-- The tokens of a directive. -/
def Directive.tokens (directive : Directive) : List String :=
  directive.name :: directive.value.toList

/-- What the tokens of a directive are meant as. -/
def Directive.roles (parser : Parser) (directive : Directive) : List Role :=
  match named parser directive.name with
  | none => []
  | some option =>
      .options [option] :: directive.value.toList.map fun _ => .value option

/-- The parser has the option of a directive, with as many values. -/
def Directive.Known (parser : Parser) (directive : Directive) : Prop :=
  ∃ option, named parser directive.name = some option ∧
    option.nargs = directive.value.toList.length

/-- A long name with nothing after `=`. -/
def IsLongName (name : String) : Prop :=
  name ≠ "--" ∧ ['-', '-'] <+: name.toList ∧ '=' ∉ name.toList

instance (name : String) : Decidable (IsLongName name) := by
  unfold IsLongName
  infer_instance

theorem partitionAt_of_notMem
    {separator : Char} {text : List Char} (absent : separator ∉ text) :
    partitionAt separator text = (text, none) := by
  induction text with
  | nil => rfl
  | cons char rest induction =>
      have notHere : char ≠ separator := fun same =>
        absent (same ▸ List.mem_cons_self)
      have notLater : separator ∉ rest := fun member =>
        absent (List.mem_cons_of_mem _ member)
      rw [partitionAt, if_neg notHere, induction notLater]

theorem readToken_of_isLongName
    {parser : Parser} {name : String} {option : OptionDef}
    (isLong : IsLongName name) (isName : named parser name = some option) :
    readToken parser name =
      .ok (.options [option], afterOption option 0) := by
  rcases isLong with ⟨notTerminator, ⟨rest, isHyphens⟩, noEquals⟩
  have split : partitionAt '=' name.toList = (name.toList, none) :=
    partitionAt_of_notMem noEquals
  have spelled : longSpelling name = name := by
    rw [longSpelling, split, String.ofList_toList]
  have readHere : readLong parser name =
      .ok ([option], afterOption option 0) := by
    rw [readLong, spelled, matchLong, isName, split]
  exact readToken_eq_options_iff.mpr
    ⟨notTerminator, Or.inl ⟨rest, isHyphens.symm, readHere⟩⟩

/-- A directive of a known option is read as it is meant. -/
theorem roles_directive
    {parser : Parser} {directive : Directive}
    (isLong : IsLongName directive.name) (isKnown : directive.Known parser) :
    roles parser .options directive.tokens =
      .ok (directive.roles parser, .options) := by
  rcases isKnown with ⟨option, isName, arity⟩
  have readName := readToken_of_isLongName isLong isName
  rw [Directive.tokens, Directive.roles, isName]
  dsimp only
  cases hasValue : directive.value with
  | none =>
      rw [hasValue] at arity
      have after : afterOption option 0 = .options := by
        rw [afterOption, arity]
        rfl
      rw [after] at readName
      exact roles_cons_eq_ok_iff.mpr
        ⟨.options [option], .options, [], readName, rfl, rfl⟩
  | some value =>
      rw [hasValue] at arity
      have after : afterOption option 0 = .awaiting option 0 := by
        rw [afterOption, arity]
        rfl
      rw [after] at readName
      apply roles_cons_eq_ok_iff.mpr
      exact ⟨.options [option], .awaiting option 0, [.value option], readName,
        rfl, rfl⟩

theorem positional_notMem_roles
    (parser : Parser) (directive : Directive) :
    Role.positional ∉ directive.roles parser := by
  rw [Directive.roles]
  split
  · simp
  · simp

/-- Directives of known options are read as they are meant. -/
theorem roles_directives
    {parser : Parser} {directives : List Directive}
    (isLong : ∀ directive ∈ directives, IsLongName directive.name)
    (isKnown : ∀ directive ∈ directives, directive.Known parser) :
    roles parser .options (directives.flatMap Directive.tokens) =
      .ok (directives.flatMap (Directive.roles parser), .options) := by
  induction directives with
  | nil => rfl
  | cons directive rest induction =>
      rw [List.flatMap_cons, List.flatMap_cons]
      apply roles_append_eq_ok_iff.mpr
      refine ⟨_, .options, _, roles_directive
        (isLong _ List.mem_cons_self) (isKnown _ List.mem_cons_self), ?_, rfl⟩
      apply induction
      · exact fun later member => isLong _ (List.mem_cons_of_mem _ member)
      · exact fun later member => isKnown _ (List.mem_cons_of_mem _ member)

theorem complete_directives
    {parser : Parser} {directives : List Directive}
    (isLong : ∀ directive ∈ directives, IsLongName directive.name)
    (isKnown : ∀ directive ∈ directives, directive.Known parser) :
    Complete parser (directives.flatMap Directive.tokens) := by
  apply Exists.intro _
  constructor
  · exact roles_directives isLong isKnown
  · intro member
    rcases List.mem_flatMap.mp member with ⟨directive, -, isPositional⟩
    exact positional_notMem_roles parser directive isPositional

end Sluicery.Library.Optparse
