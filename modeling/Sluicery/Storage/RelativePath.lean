import Sluicery.Library.PosixPath

/-!
# Relative paths in a storage

`validate_relative_path` makes the normal POSIX path which the adapters join
with their root.  It refuses absolute paths and steps to a parent.
-/

namespace Sluicery.Storage

open Sluicery.Library

/-- `validate_relative_path`; the error is the text of a `StoragePathError`. -/
def validateRelativePath (rel : String) (allowEmpty : Bool) :
    Except String String :=
  if '\x00' ∈ rel.toList then
    .error "Storage 相対パスに NUL は使用できません"
  else
    let normalized := String.ofList (rel.toList.map fun char =>
      if char = '\\' then '/' else char)
    if normalized = "" ∨ normalized = "." then
      if allowEmpty then .ok "" else .error "Storage 相対パスを空にできません"
    else
      let path := PurePosixPath.ofString normalized
      if path.root ≠ "" ∨ ".." ∈ path.parts then
        .error "Storage 相対パスに絶対パスまたは traversal は使用できません"
      else if path.parts = [] then
        if allowEmpty then .ok ""
        else .error "Storage 相対パスを空にできません"
      else .ok ({ root := "", parts := path.parts } : PurePosixPath).asPosix

/-- A name of a file or directory which is kept as it is. -/
structure IsComponent (part : String) : Prop
    extends PurePosixPath.IsPart part where
  noNul : '\x00' ∉ part.toList
  noBackslash : '\\' ∉ part.toList
  noParent : part ≠ ".."

/-- Components with slashes between them are a valid path. -/
theorem validateRelativePath_intercalate
    {parts : List String} (components : ∀ part ∈ parts, IsComponent part)
    (nonempty : parts ≠ []) (allowEmpty : Bool) :
    validateRelativePath (String.intercalate "/" parts) allowEmpty =
      .ok (String.intercalate "/" parts) := by
  have areParts : ∀ part ∈ parts, PurePosixPath.IsPart part :=
    fun part member => (components part member).toIsPart
  have normal : (⟨"", parts⟩ : PurePosixPath).IsNormal :=
    ⟨List.mem_cons_self, fun member => areParts _ member⟩
  have text : (⟨"", parts⟩ : PurePosixPath).asPosix =
      String.intercalate "/" parts := by
    rw [PurePosixPath.asPosix, if_neg fun both => nonempty both.2,
      String.empty_append]
  have path := PurePosixPath.ofString_asPosix normal
  rw [text] at path
  have absent : ∀ char : Char, char ≠ '/' →
      (∀ part ∈ parts, char ∉ part.toList) →
        char ∉ (String.intercalate "/" parts).toList := by
    intro char noSlash inNone member
    rcases PurePosixPath.mem_intercalate member with
      isSlash | ⟨part, isPart, inPart⟩
    · exact noSlash isSlash
    · exact inNone part isPart inPart
  have same : String.ofList ((String.intercalate "/" parts).toList.map
      fun char => if char = '\\' then '/' else char) =
        String.intercalate "/" parts := by
    rw [List.map_congr_left (g := id), List.map_id, String.ofList_toList]
    intro char member
    rw [if_neg]
    · rfl
    · rintro rfl
      exact absent '\\' (by decide)
        (fun part isPart => (components part isPart).noBackslash) member
  rw [validateRelativePath, if_neg (absent '\x00' (by decide)
    fun part isPart => (components part isPart).noNul)]
  dsimp only
  rw [same, path]
  have moves : ¬ (String.intercalate "/" parts = "" ∨
      String.intercalate "/" parts = ".") := by
    have empty : ∀ found : String, (PurePosixPath.ofString found).parts = [] →
        String.intercalate "/" parts ≠ found := by
      rintro _ noParts rfl
      rw [path] at noParts
      exact nonempty noParts
    rw [not_or]
    constructor
    · apply empty
      rw [PurePosixPath.parts_ofString]
      decide +kernel
    · apply empty
      rw [PurePosixPath.parts_ofString]
      decide +kernel
  rw [if_neg moves, if_neg]
  · rw [if_neg nonempty, text]
  · rintro (absolute | parent)
    · exact absolute rfl
    · exact (components _ parent).noParent rfl

end Sluicery.Storage
