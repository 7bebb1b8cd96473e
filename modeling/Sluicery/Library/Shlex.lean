import Mathlib.Data.List.Basic

/-!
# Splitting a text by the rules of the shell

`shlex.split` in POSIX mode: words are separated by blanks, quotes and
backslashes are removed, and comments are not recognised.
-/

namespace Sluicery.Library.Shlex

/-- `whitespace`. -/
def isBlank (char : Char) : Bool :=
  char == ' ' || char == '\t' || char == '\r' || char == '\n'

/-- `quotes`. -/
def isQuote (char : Char) : Bool :=
  char == '\'' || char == '"'

/-- Where the reader is. -/
inductive Lexing where
  | blank
  | word
  | quoted (quote : Char)
  /-- After a backslash, in the given quote or in none. -/
  | escaped (quote : Option Char)

/-- A word is there if it has a character or a quote. -/
def emit (word : List Char) (hasQuote : Bool) (later : List String) :
    List String :=
  if word.isEmpty && !hasQuote then later else String.ofList word :: later

/-- The words of the rest, with the word read so far. -/
def read : List Char → Lexing → List Char → Bool →
    Except String (List String)
  | [], .blank, _, _ => .ok []
  | [], .word, word, hasQuote => .ok (emit word hasQuote [])
  | [], .quoted _, _, _ => .error "No closing quotation"
  | [], .escaped _, _, _ => .error "No escaped character"
  | char :: rest, .blank, _, _ =>
      if isBlank char then read rest .blank [] false
      else if char = '\\' then read rest (.escaped none) [] false
      else if isQuote char then read rest (.quoted char) [] false
      else read rest .word [char] false
  | char :: rest, .word, word, hasQuote =>
      if isBlank char then
        (read rest .blank [] false).map (emit word hasQuote)
      else if isQuote char then read rest (.quoted char) word hasQuote
      else if char = '\\' then read rest (.escaped none) word hasQuote
      else read rest .word (word ++ [char]) hasQuote
  | char :: rest, .quoted quote, word, _ =>
      if char = quote then read rest .word word true
      else if char = '\\' ∧ quote = '"' then
        read rest (.escaped (some quote)) word true
      else read rest (.quoted quote) (word ++ [char]) true
  | char :: rest, .escaped none, word, hasQuote =>
      read rest .word (word ++ [char]) hasQuote
  | char :: rest, .escaped (some quote), word, hasQuote =>
      -- Within quotes only the quote and the backslash can be escaped.
      if char ≠ '\\' ∧ char ≠ quote then
        read rest (.quoted quote) (word ++ ['\\', char]) hasQuote
      else read rest (.quoted quote) (word ++ [char]) hasQuote

/-- `shlex.split`. -/
def split (text : String) : Except String (List String) :=
  read text.toList .blank [] false

example : split "-o 'a b'\"c\\\"\" \\-q ''" =
    .ok ["-o", "a bc\"", "-q", ""] := rfl

end Sluicery.Library.Shlex
