import Sluicery.Core.CommandPlacement

/-!
# Layers of options and their provenance

A structured field is written once, with the value of the highest layer that
sets it.  The groups of arguments keep the order of the command line, and the
freeform texts come after everything that the settings and the structured
fields have written.
-/

namespace Sluicery.Core.Options

open Sluicery.Library Sluicery.Db

/-! ## The highest layer -/

/-- The number of a layer. -/
def Layer.level : Layer → Nat
  | .l1 => 1
  | .l2 => 2
  | .l3 => 3
  | .l4 => 4
  | .l5 => 5
  | .l6 => 6

/-- What a layer sets a structured field to; only None is not a setting. -/
def layerField (settings : String → Option Value) (request : DownloadRequest)
    (name : String) : Layer → Option ResolvedField
  | .l2 =>
      if name = "concurrent_fragments" then
        (settings "download.concurrent_fragments").map fun value =>
          { value, layer := .l2, source := "グローバル既定"
            field := "download.concurrent_fragments" }
      else none
  | .l3 =>
      if name ∈ fieldOrder then
        let key := "defaults." ++ request.selectedKind ++ "." ++ name
        (settings key).map fun value =>
          { value, layer := .l3
            source := "種別既定 " ++ request.selectedKind, field := key }
      else none
  | .l4 =>
      match request.profile with
      | none => none
      | some profile =>
          if name ∈ profileFields then
            (profile.fields name).map fun value =>
              { value, layer := .l4, source := "Profile " ++ profile.name
                field := name }
          else none
  | .l6 =>
      request.overrides.structured.reverse.findSome? fun entry =>
        if entry.1 = name then
          entry.2.map fun value =>
            { value, layer := .l6, source := "一時上書き", field := entry.1 }
        else none
  | .l1 => none
  | .l5 => none

/-- A field as its highest layer sets it. -/
def IsHighest (settings : String → Option Value) (request : DownloadRequest)
    (name : String) (field : ResolvedField) : Prop :=
  layerField settings request name field.layer = some field ∧
    ∀ layer : Layer, field.layer.level < layer.level →
      layerField settings request name layer = none

/-- The layers, from the highest one on. -/
def layersDown : List Layer := [.l6, .l5, .l4, .l3, .l2, .l1]

/-- A field as the first of the layers that sets it. -/
def highestField (settings : String → Option Value)
    (request : DownloadRequest) (name : String) : Option ResolvedField :=
  layersDown.findSome? (layerField settings request name)

/-- In a falling list the first layer that sets a field is the highest one. -/
theorem findSome?_eq_some_iff_of_falling
    {layers : List Layer} {sets : Layer → Option ResolvedField}
    (falling : layers.Pairwise fun left right => right.level < left.level)
    (owned : ∀ layer field, sets layer = some field → field.layer = layer)
    (field : ResolvedField) :
    layers.findSome? sets = some field ↔
      field.layer ∈ layers ∧ sets field.layer = some field ∧
        ∀ layer ∈ layers, field.layer.level < layer.level →
          sets layer = none := by
  induction layers with
  | nil => simp
  | cons first rest induction =>
      rw [List.pairwise_cons] at falling
      cases found : sets first with
      | none =>
          rw [List.findSome?_cons, found]
          show rest.findSome? sets = some field ↔ _
          rw [induction falling.2]
          constructor
          · rintro ⟨member, isSet, noHigher⟩
            exact ⟨List.mem_cons_of_mem _ member, isSet,
              List.forall_mem_cons.2 ⟨fun _ => found, noHigher⟩⟩
          · rintro ⟨member, isSet, noHigher⟩
            rcases List.mem_cons.1 member with same | later
            · rw [same, found] at isSet
              cases isSet
            · exact ⟨later, isSet, fun layer isLater =>
                noHigher layer (List.mem_cons_of_mem _ isLater)⟩
      | some top =>
          rw [List.findSome?_cons, found]
          show some top = some field ↔ _
          constructor
          · intro isTop
            cases isTop
            have same := owned first _ found
            constructor
            · rw [same]
              exact List.mem_cons_self
            constructor
            · rw [same, found]
            · intro layer member higher
              rw [same] at higher
              rcases List.mem_cons.1 member with rfl | later
              · exact absurd higher (lt_irrefl _)
              · exact absurd higher (falling.1 layer later).not_gt
          · rintro ⟨member, isSet, noHigher⟩
            rcases List.mem_cons.1 member with same | later
            · rw [← found, ← same, isSet]
            · have hidden := noHigher first List.mem_cons_self
                (falling.1 _ later)
              rw [found] at hidden
              cases hidden

section Highest

variable {settings : String → Option Value} {request : DownloadRequest}
  {name : String} {layer : Layer} {field : ResolvedField}

theorem layer_of_layerField
    (sets : layerField settings request name layer = some field) :
    field.layer = layer := by
  cases layer with
  | l1 => cases sets
  | l5 => cases sets
  | l2 =>
      rw [layerField] at sets
      split at sets
      · rcases Option.map_eq_some_iff.1 sets with ⟨value, -, rfl⟩
        rfl
      · cases sets
  | l3 =>
      rw [layerField] at sets
      split at sets
      · rcases Option.map_eq_some_iff.1 sets with ⟨value, -, rfl⟩
        rfl
      · cases sets
  | l4 =>
      rw [layerField] at sets
      split at sets
      · cases sets
      split at sets
      · rcases Option.map_eq_some_iff.1 sets with ⟨value, -, rfl⟩
        rfl
      · cases sets
  | l6 =>
      rcases List.exists_of_findSome?_eq_some sets with ⟨entry, -, found⟩
      split at found
      · rcases Option.map_eq_some_iff.1 found with ⟨value, -, rfl⟩
        rfl
      · cases found

theorem highestField_eq_some_iff :
    highestField settings request name = some field ↔
      IsHighest settings request name field := by
  have falling : layersDown.Pairwise fun left right =>
      right.level < left.level := by
    decide
  have complete : ∀ layer, layer ∈ layersDown := by
    intro layer
    cases layer <;> decide
  rw [highestField, findSome?_eq_some_iff_of_falling falling
    fun layer field => layer_of_layerField]
  constructor
  · rintro ⟨-, isSet, noHigher⟩
    exact ⟨isSet, fun layer => noHigher layer (complete layer)⟩
  · rintro ⟨isSet, noHigher⟩
    exact ⟨complete _, isSet, fun layer _ => noHigher layer⟩

end Highest

/-! ## Resolving the fields -/

/-- The last entry for a name decides. -/
theorem foldl_setField
    {Entry : Type} (entries : List Entry) (key : Entry → String)
    (value : Entry → Option Value) (layer : Layer) (source : String)
    (field : Entry → String) (resolved : ResolvedFields) (name : String) :
    entries.foldl (fun resolved entry =>
        setField (key entry) (value entry) layer source (field entry)
          resolved) resolved name =
      (entries.reverse.findSome? fun entry =>
        if key entry = name then
          (value entry).map fun value =>
            { value, layer, source, field := field entry }
        else none).or (resolved name) := by
  induction entries generalizing resolved with
  | nil => rfl
  | cons entry rest induction =>
      rw [List.foldl_cons, induction, List.reverse_cons,
        List.findSome?_append, Option.or_assoc]
      congr 1
      rw [List.findSome?_cons, List.findSome?_nil]
      cases value entry with
      | none => simp [setField]
      | some isSet =>
          by_cases same : key entry = name
          · simp [setField, same]
          · simp [setField, same, Ne.symm same]

/-- Among names, only the name itself is looked at. -/
theorem findSome?_name
    (names : List String) (name : String)
    (found : String → Option ResolvedField) :
    (names.findSome? fun other =>
        if other = name then found other else none) =
      if name ∈ names then found name else none := by
  induction names with
  | nil => rfl
  | cons first rest induction =>
      rw [List.findSome?_cons, induction]
      by_cases same : first = name
      · subst same
        cases isFound : found first with
        | none => simp
        | some field => simp
      · simp [same, Ne.symm same]

/-- A layer which looks at each name once. -/
theorem foldl_setField_names
    (names : List String) (value : String → Option Value) (layer : Layer)
    (source : String) (field : String → String) (resolved : ResolvedFields)
    (name : String) :
    names.foldl (fun resolved other =>
        setField other (value other) layer source (field other) resolved)
        resolved name =
      (if name ∈ names then
        (value name).map fun value =>
          { value, layer, source, field := field name }
      else none).or (resolved name) := by
  rw [foldl_setField names (fun other => other), findSome?_name]
  simp only [List.mem_reverse]

theorem highestField_eq_or
    (settings : String → Option Value) (request : DownloadRequest)
    (name : String) :
    highestField settings request name =
      (layerField settings request name .l6).or
        ((layerField settings request name .l4).or
          ((layerField settings request name .l3).or
            (layerField settings request name .l2))) := by
  simp only [highestField, layersDown, List.findSome?_cons]
  cases layerField settings request name .l6
  · cases layerField settings request name .l4
    · cases layerField settings request name .l3
      · cases layerField settings request name .l2 <;> rfl
      · rfl
    · rfl
  · rfl

/-- Each field is resolved as its highest layer sets it. -/
theorem resolved_eq_highestField
    {settings : String → Option Value} {request : DownloadRequest}
    {structured : ResolvedFields}
    (resolved : resolveStructuredFields settings request.selectedKind
      request.profile request.overrides = .ok structured) (name : String) :
    structured name = highestField settings request name := by
  simp only [resolveStructuredFields] at resolved
  split at resolved
  · cases resolved
    rw [foldl_setField, highestField_eq_or]
    have defaults : setField "concurrent_fragments"
        (settings "download.concurrent_fragments") .l2 "グローバル既定"
        "download.concurrent_fragments" (fun _ => none) name =
        layerField settings request name .l2 := by
      rw [layerField]
      cases settings "download.concurrent_fragments" with
      | none => simp [setField]
      | some value => rfl
    have kindDefaults := foldl_setField_names fieldOrder
      (fun other => settings
        ("defaults." ++ request.selectedKind ++ "." ++ other)) .l3
      ("種別既定 " ++ request.selectedKind)
      (fun other => "defaults." ++ request.selectedKind ++ "." ++ other)
      (setField "concurrent_fragments"
        (settings "download.concurrent_fragments") .l2 "グローバル既定"
        "download.concurrent_fragments" fun _ => none) name
    rw [defaults] at kindDefaults
    congr 1
    cases hasProfile : request.profile with
    | none =>
        simp only [layerField, hasProfile]
        exact kindDefaults
    | some profile =>
        simp only [layerField, hasProfile]
        rw [foldl_setField_names profileFields profile.fields .l4
          ("Profile " ++ profile.name) fun other => other]
        exact congrArg _ kindDefaults
  · cases resolved

/-! ## Groups of arguments -/

/-- The group of some arguments, if there are any. -/
def groupOf (arguments : List String) (layer : Layer) (source : String)
    (field : Option String := none) : List ArgumentOrigin :=
  if arguments = [] then [] else [{ arguments, layer, source, field }]

@[simp]
theorem CommandAccumulator.origins_add
    (accumulator : CommandAccumulator) (arguments : List String)
    (layer : Layer) (source : String) (field : Option String) :
    (accumulator.add arguments layer source field).origins =
      accumulator.origins ++ groupOf arguments layer source field := by
  rw [CommandAccumulator.add, groupOf]
  split
  · exact (List.append_nil _).symm
  · rfl

/-- The groups of `_common_rate_args`. -/
def rateGroups (settings : String → Option Value) : List ArgumentOrigin :=
  rateOptions.flatMap fun entry =>
    groupOf [entry.2, pyStr (settings entry.1)] .l2 "グローバル既定"
      (some entry.1)

/-- The groups of the structured fields, each with its field. -/
def fieldGroups (settings : String → Option Value)
    (request : DownloadRequest) : List (String × ArgumentOrigin) :=
  fieldToArgs.flatMap fun entry =>
    match highestField settings request entry.1 with
    | none => []
    | some field =>
        (groupOf (entry.2 field.value) field.layer field.source
          (some field.field)).map (entry.1, ·)

/-- The groups about file names. -/
def fileNameGroups (settings : String → Option Value)
    (request : DownloadRequest) : List ArgumentOrigin :=
  groupOf ["--windows-filenames"] .l2 "ファイル名既定" ++
    if request.strategyName = "flat" then
      groupOf ["--trim-filenames",
          pyStr (settings "download.trim_filenames")] .l2 "ファイル名既定"
        (some "download.trim_filenames")
    else []

/-- The groups of the freeform texts. -/
def freeformGroups (request : DownloadRequest) : List ArgumentOrigin :=
  request.freeformLayers.flatMap fun layer =>
    groupOf (textTokens layer.value) layer.layer layer.source
      (some "ytdlp_args")

theorem flatMap_groupOf
    (arguments : List String) (layer : Layer) (source : String)
    (field : Option String) :
    (groupOf arguments layer source field).flatMap ArgumentOrigin.arguments =
      arguments := by
  rw [groupOf]
  split
  · next isEmpty => exact isEmpty.symm
  · exact List.append_nil _

theorem origins_foldl
    {Entry : Type} {entries : List Entry}
    {round : CommandAccumulator → Entry → CommandAccumulator}
    {groups : Entry → List ArgumentOrigin}
    (adds : ∀ entry accumulator, (round accumulator entry).origins =
      accumulator.origins ++ groups entry)
    (accumulator : CommandAccumulator) :
    (entries.foldl round accumulator).origins =
      accumulator.origins ++ entries.flatMap groups := by
  induction entries generalizing accumulator with
  | nil => exact (List.append_nil _).symm
  | cons entry rest induction =>
      rw [List.foldl_cons, induction, adds, List.append_assoc,
        List.flatMap_cons]

theorem origins_commonRateArgs
    (settings : String → Option Value) (accumulator : CommandAccumulator) :
    (commonRateArgs settings accumulator).origins =
      accumulator.origins ++ rateGroups settings := by
  apply origins_foldl
  intro entry accumulator
  exact CommandAccumulator.origins_add _ _ _ _ _

theorem origins_renderStructured
    {settings : String → Option Value} {request : DownloadRequest}
    {structured : ResolvedFields}
    (same : ∀ name, structured name = highestField settings request name)
    (accumulator : CommandAccumulator) :
    (renderStructured structured accumulator).origins =
      accumulator.origins ++
        (fieldGroups settings request).map Prod.snd := by
  rw [fieldGroups, List.map_flatMap]
  apply origins_foldl
  intro entry accumulator
  rw [same]
  cases highestField settings request entry.1 with
  | none => exact (List.append_nil _).symm
  | some field =>
      show (accumulator.add _ _ _ _).origins = _
      rw [CommandAccumulator.origins_add, List.map_map]
      exact congrArg _ (List.map_id _).symm

theorem origins_addGuardedLayers
    (layers : List GuardedLayer) (accumulator : CommandAccumulator) :
    (addGuardedLayers layers accumulator).origins =
      accumulator.origins ++ layers.flatMap fun layer =>
        groupOf layer.guarded.tokens layer.layer layer.source
          (some "ytdlp_args") := by
  apply origins_foldl
  intro layer accumulator
  exact CommandAccumulator.origins_add _ _ _ _ _

/-- A guarded layer keeps the tokens of its text. -/
theorem groups_guardLayers
    {permissions : Permissions} {commandKind : CommandKind}
    {layers : List FreeformLayer} {found guarded : GuardedLayers}
    (passed : guardLayers permissions commandKind layers found =
      .ok guarded) :
    (guarded.layers.flatMap fun layer =>
        groupOf layer.guarded.tokens layer.layer layer.source
          (some "ytdlp_args")) =
      (found.layers.flatMap fun layer =>
        groupOf layer.guarded.tokens layer.layer layer.source
          (some "ytdlp_args")) ++
      layers.flatMap fun layer =>
        groupOf (textTokens layer.value) layer.layer layer.source
          (some "ytdlp_args") := by
  induction layers generalizing found with
  | nil =>
      cases passed
      exact (List.append_nil _).symm
  | cons layer rest induction =>
      rw [guardLayers] at passed
      split at passed
      · cases passed
      · next tokens accepted =>
          rw [induction passed]
          simp [tokens_guardFreeform accepted]

/-- Only groups of the application come after an accumulator. -/
def Reserves (accumulator next : CommandAccumulator) : Prop :=
  ∃ groups : List ArgumentOrigin,
    (∀ group ∈ groups, group.layer = .l1) ∧
      next.origins = accumulator.origins ++ groups

/-- What every added group of the application keeps. -/
theorem addDownloadReserved_keeps
    {kept : CommandAccumulator → Prop} {accumulator : CommandAccumulator}
    (adds : ∀ next arguments source field, kept next →
      kept (next.add arguments .l1 source field))
    (holds : kept accumulator) (request : DownloadRequest)
    (relativeOutput : String) (reserved : List String) :
    kept (addDownloadReserved request relativeOutput reserved accumulator) := by
  simp only [addDownloadReserved]
  split_ifs <;> repeat' first | exact holds | apply adds

section Reserves

variable {accumulator next : CommandAccumulator}

theorem Reserves.refl : Reserves accumulator accumulator :=
  ⟨[], by simp, (List.append_nil _).symm⟩

theorem Reserves.add
    (reserves : Reserves accumulator next) (arguments : List String)
    (source : String) (field : Option String := none) :
    Reserves accumulator (next.add arguments .l1 source field) := by
  rcases reserves with ⟨groups, areOwn, same⟩
  exists groups ++ groupOf arguments .l1 source field
  constructor
  · intro group member
    rcases List.mem_append.1 member with earlier | added
    · exact areOwn group earlier
    · rw [groupOf] at added
      split at added
      · cases added
      · rw [List.mem_singleton.1 added]
  · rw [CommandAccumulator.origins_add, same, List.append_assoc]

/-- The application adds groups of its own layer only. -/
theorem reserves_addDownloadReserved
    (request : DownloadRequest) (relativeOutput : String)
    (reserved : List String) (accumulator : CommandAccumulator) :
    Reserves accumulator
      (addDownloadReserved request relativeOutput reserved accumulator) := by
  apply addDownloadReserved_keeps
  · intro next arguments source field reserves
    exact reserves.add arguments source field
  · exact Reserves.refl

theorem exists_of_reserves
    {origins : List ArgumentOrigin} (same : accumulator.origins = origins)
    (reserves : Reserves accumulator next) :
    ∃ reserved : List ArgumentOrigin,
      (∀ group ∈ reserved, group.layer = .l1) ∧
        next.origins = origins ++ reserved := by
  subst same
  exact reserves

end Reserves

/-! ## Groups and arguments -/

/-- The groups are the arguments, one after another. -/
def Aligned (accumulator : CommandAccumulator) : Prop :=
  accumulator.origins.flatMap ArgumentOrigin.arguments = accumulator.args

section Aligned

variable {accumulator : CommandAccumulator}

theorem aligned_empty : Aligned {} := rfl

theorem Aligned.add
    (aligned : Aligned accumulator) (arguments : List String)
    (layer : Layer) (source : String) (field : Option String := none) :
    Aligned (accumulator.add arguments layer source field) := by
  rw [Aligned, CommandAccumulator.origins_add, CommandAccumulator.args_add,
    List.flatMap_append, flatMap_groupOf, aligned]

theorem Aligned.foldl
    {Entry : Type} {entries : List Entry}
    {round : CommandAccumulator → Entry → CommandAccumulator}
    (adds : ∀ entry accumulator, Aligned accumulator →
      Aligned (round accumulator entry))
    (aligned : Aligned accumulator) :
    Aligned (entries.foldl round accumulator) := by
  induction entries generalizing accumulator with
  | nil => exact aligned
  | cons entry rest induction => exact induction (adds entry _ aligned)

theorem Aligned.commonRateArgs
    (aligned : Aligned accumulator) (settings : String → Option Value) :
    Aligned (commonRateArgs settings accumulator) := by
  apply Aligned.foldl _ aligned
  intro entry accumulator aligned
  exact aligned.add _ _ _ _

theorem Aligned.renderStructured
    (aligned : Aligned accumulator) (structured : ResolvedFields) :
    Aligned (renderStructured structured accumulator) := by
  apply Aligned.foldl _ aligned
  intro entry accumulator aligned
  cases structured entry.1 with
  | none => exact aligned
  | some field => exact aligned.add _ _ _ _

theorem Aligned.addGuardedLayers
    (aligned : Aligned accumulator) (layers : List GuardedLayer) :
    Aligned (addGuardedLayers layers accumulator) := by
  apply Aligned.foldl _ aligned
  intro layer accumulator aligned
  exact aligned.add _ _ _ _

theorem Aligned.addDownloadReserved
    (aligned : Aligned accumulator) (request : DownloadRequest)
    (relativeOutput : String) (reserved : List String) :
    Aligned (addDownloadReserved request relativeOutput reserved
      accumulator) := by
  apply addDownloadReserved_keeps _ aligned
  intro next arguments source field isAligned
  exact isAligned.add arguments .l1 source field

end Aligned

/-! ## Layers of a download -/

/-- The arguments of the settings and of the structured fields. -/
def settledArgs (settings : String → Option Value)
    (request : DownloadRequest) : List String :=
  (rateGroups settings ++ (fieldGroups settings request).map Prod.snd ++
    fileNameGroups settings request).flatMap ArgumentOrigin.arguments

/-- The tokens of the freeform text of a Profile. -/
def profileTokens (request : DownloadRequest) : List String :=
  textTokens (request.profile.bind Profile.ytdlpArgs)

/-- The tokens of the freeform text of a Playlist. -/
def playlistTokens (request : DownloadRequest) : List String :=
  textTokens (request.playlist.bind Playlist.ytdlpArgs)

/-- The tokens of the freeform text of the overrides. -/
def overrideTokens (request : DownloadRequest) : List String :=
  textTokens request.overrides.ytdlpArgs

/-- The last token that passes a test. -/
def lastToken (test : String → Bool) (tokens : List String) : Option String :=
  (tokens.filter test).getLast?

theorem lastToken_append
    (test : String → Bool) (left right : List String) :
    lastToken test (left ++ right) =
      (lastToken test right).or (lastToken test left) := by
  rw [lastToken, List.filter_append, List.getLast?_append, lastToken,
    lastToken]

/-- The layers of a command, before what the application reserves. -/
structure IsLayered (settings : String → Option Value)
    (request : DownloadRequest) (command : BuiltCommand)
    (reserved : List ArgumentOrigin) : Prop where
  /-- A structured field has one group at most. -/
  once : ((fieldGroups settings request).map Prod.fst).Nodup
  /-- The group is written for the field as its highest layer sets it. -/
  highest : ∀ name group, (name, group) ∈ fieldGroups settings request ↔
    ∃ render field, (name, render) ∈ fieldToArgs ∧
      IsHighest settings request name field ∧ render field.value ≠ [] ∧
      group =
        { arguments := render field.value, layer := field.layer
          source := field.source, field := some field.field }
  origins : command.origins = rateGroups settings ++
    (fieldGroups settings request).map Prod.snd ++
    fileNameGroups settings request ++ freeformGroups request ++ reserved
  /-- Only the application adds anything after the freeform texts. -/
  application : ∀ group ∈ reserved, group.layer = .l1
  /-- The groups are the arguments, one after another. -/
  concatenation :
    command.origins.flatMap ArgumentOrigin.arguments = command.args
  args : command.args = settledArgs settings request ++
    (profileTokens request ++ playlistTokens request ++
      overrideTokens request) ++
    reserved.flatMap ArgumentOrigin.arguments
  /-- Of what is written before them the last layer decides. -/
  overriding : ∀ test : String → Bool,
    lastToken test (settledArgs settings request ++
        (profileTokens request ++ playlistTokens request ++
          overrideTokens request)) =
      (lastToken test (overrideTokens request)).or
        ((lastToken test (playlistTokens request)).or
          ((lastToken test (profileTokens request)).or
            (lastToken test (settledArgs settings request))))

theorem flatMap_freeformGroups (request : DownloadRequest) :
    (freeformGroups request).flatMap ArgumentOrigin.arguments =
      profileTokens request ++ playlistTokens request ++
        overrideTokens request := by
  have texts := texts_freeformLayers request
  rw [freeformGroups, List.flatMap_assoc]
  simp only [flatMap_groupOf]
  rw [← List.flatMap_map FreeformLayer.value textTokens, texts]
  simp [profileTokens, playlistTokens, overrideTokens]

theorem sublist_fieldGroups
    (settings : String → Option Value) (request : DownloadRequest) :
    ((fieldGroups settings request).map Prod.fst).Sublist fieldOrder := by
  rw [fieldGroups, fieldOrder]
  induction fieldToArgs with
  | nil => exact List.Sublist.slnil
  | cons entry rest induction =>
      rw [List.flatMap_cons, List.map_append, List.map_cons]
      cases highestField settings request entry.1 with
      | none => exact induction.cons _
      | some field =>
          simp only [groupOf]
          split
          · exact induction.cons _
          · exact induction.cons_cons _

theorem mem_fieldGroups_iff
    {settings : String → Option Value} {request : DownloadRequest}
    {name : String} {group : ArgumentOrigin} :
    (name, group) ∈ fieldGroups settings request ↔
      ∃ render field, (name, render) ∈ fieldToArgs ∧
        IsHighest settings request name field ∧ render field.value ≠ [] ∧
        group =
          { arguments := render field.value, layer := field.layer
            source := field.source, field := some field.field } := by
  rw [fieldGroups, List.mem_flatMap]
  constructor
  · rintro ⟨⟨written, render⟩, listed, member⟩
    split at member
    · cases member
    · next field highest =>
        rcases List.mem_map.1 member with ⟨found, inGroup, same⟩
        cases same
        rw [groupOf] at inGroup
        split at inGroup
        · cases inGroup
        · next notEmpty =>
            exact ⟨render, field, listed, highestField_eq_some_iff.1 highest,
              notEmpty, List.mem_singleton.1 inGroup⟩
  · rintro ⟨render, field, listed, highest, notEmpty, rfl⟩
    exists (name, render)
    constructor
    · exact listed
    · simp only [highestField_eq_some_iff.2 highest, groupOf,
        if_neg notEmpty]
      simp

/-- The groups before what the application reserves. -/
theorem origins_beforeReserved
    {settings : String → Option Value} {request : DownloadRequest}
    {structured : ResolvedFields} {permissions : Permissions}
    {guarded : GuardedLayers}
    (resolved : resolveStructuredFields settings request.selectedKind
      request.profile request.overrides = .ok structured)
    (passed : guardLayers permissions .download request.freeformLayers {} =
      .ok guarded) :
    (addGuardedLayers guarded.layers
      (if request.strategyName = "flat" then
        ((renderStructured structured (commonRateArgs settings {})).add
          ["--windows-filenames"] .l2 "ファイル名既定").add
          ["--trim-filenames", pyStr (settings "download.trim_filenames")]
          .l2 "ファイル名既定" (some "download.trim_filenames")
      else
        (renderStructured structured (commonRateArgs settings {})).add
          ["--windows-filenames"] .l2 "ファイル名既定")).origins =
      rateGroups settings ++ (fieldGroups settings request).map Prod.snd ++
        fileNameGroups settings request ++ freeformGroups request := by
  have rates : (commonRateArgs settings {}).origins = rateGroups settings :=
    origins_commonRateArgs settings {}
  have fields := origins_renderStructured
    (resolved_eq_highestField resolved) (commonRateArgs settings {})
  have tokens := groups_guardLayers passed
  rw [origins_addGuardedLayers, tokens, freeformGroups, fileNameGroups]
  split
  · simp only [CommandAccumulator.origins_add, fields, rates,
      List.append_assoc]
    rfl
  · simp only [CommandAccumulator.origins_add, fields, rates,
      List.append_assoc]
    rfl

/-- The groups of a built download, in their order. -/
theorem origins_buildDownloadArgs
    {surroundings : Surroundings} {request : DownloadRequest}
    {command : BuiltCommand}
    (accepted : buildDownloadArgs surroundings request = .ok command) :
    Aligned { args := command.args, origins := command.origins } ∧
      ∃ reserved : List ArgumentOrigin,
        (∀ group ∈ reserved, group.layer = .l1) ∧
          command.origins = rateGroups surroundings.settings ++
            (fieldGroups surroundings.settings request).map Prod.snd ++
            fileNameGroups surroundings.settings request ++
            freeformGroups request ++ reserved := by
  simp only [buildDownloadArgs] at accepted
  split at accepted
  · cases accepted
  split at accepted
  · cases accepted
  split at accepted
  · cases accepted
  split at accepted
  · cases accepted
  next structured resolved =>
    split at accepted
    · cases accepted
    next guarded passed =>
      cases accepted
      constructor
      · apply Aligned.add _ _ _ _ _
        apply Aligned.addDownloadReserved
        apply Aligned.addGuardedLayers
        have settled := (aligned_empty.commonRateArgs
          surroundings.settings).renderStructured structured
        have named := settled.add ["--windows-filenames"] .l2 "ファイル名既定"
        split
        · exact named.add _ _ _ _
        · exact named
      · exact exists_of_reserves (origins_beforeReserved resolved passed)
          ((reserves_addDownloadReserved _ _ _ _).add _ _ _)

/--
A built download has the groups of its layers in their order, each structured
field as its highest layer sets it.
-/
theorem download_layers
    {surroundings : Surroundings} {request : DownloadRequest}
    {command : BuiltCommand}
    (accepted : buildDownloadArgs surroundings request = .ok command) :
    ∃ reserved, IsLayered surroundings.settings request command reserved := by
  rcases origins_buildDownloadArgs accepted with
    ⟨aligned, reserved, areOwn, sameOrigins⟩
  have settled : command.args =
      settledArgs surroundings.settings request ++
        (profileTokens request ++ playlistTokens request ++
          overrideTokens request) ++
        reserved.flatMap ArgumentOrigin.arguments := by
    have same : command.origins.flatMap ArgumentOrigin.arguments =
      command.args := aligned
    rw [← same, sameOrigins, List.flatMap_append, List.flatMap_append,
      flatMap_freeformGroups, settledArgs]
  exists reserved
  constructor
  · exact (sublist_fieldGroups _ _).nodup (by decide)
  · intro name group
    exact mem_fieldGroups_iff
  · exact sameOrigins
  · exact areOwn
  · exact aligned
  · exact settled
  · intro test
    simp only [lastToken_append, Option.or_assoc]

/-- A download whose overrides take back what the Profile extracts. -/
def withoutExtraction : DownloadRequest where
  sourceUrl := "https://example.com/watch"
  stagingDir := { root := "/", parts := ["staging"] }
  workId := "work"
  playlist := some (playlistWith "-f best")
  profile := some
    { name := "audio", kind := .music
      fields := fun name =>
        if name = "audio_extract" then some { str := "True", truthy := true }
        else none }
  overrides :=
    { structured := [("audio_extract", some
        { str := "False", truthy := false })] }

example :
    fieldGroups defaultSurroundings.settings withoutExtraction = [] := by
  decide

theorem download_layers_withoutExtraction :
    ∃ command,
      buildDownloadArgs defaultSurroundings withoutExtraction = .ok command ∧
        ∃ reserved, IsLayered defaultSurroundings.settings withoutExtraction
          command reserved := by
  apply Exists.intro _
  constructor
  · rfl
  · exact download_layers rfl

end Sluicery.Core.Options
