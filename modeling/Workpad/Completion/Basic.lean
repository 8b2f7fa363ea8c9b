import Workpad.Text.Blank
import Workpad.Text.Case

/-!
Completion of the word being typed. The word is the longest end of the buffer without white space
and separators; the first symbol of the table that it begins, case aside, is offered in the casing
of the word. Nothing is offered for a symbol that is already complete.
-/
namespace Workpad

inductive Category where
  | keyword
  | function
  | type
  | constant
  | library
deriving DecidableEq, Repr

def Category.label : Category → String
  | .keyword => "keyword"
  | .function => "function"
  | .type => "class"
  | .constant => "constant"
  | .library => "module"

structure Symbol where
  text : String
  category : Category
deriving DecidableEq, Repr

/-- A proposed completion; `typed` is the length of the word it was proposed for. -/
structure Suggestion where
  text : String
  category : Category
  typed : Nat
deriving DecidableEq, Repr

/-- The part of the text beyond what has been typed, counted in characters. -/
def Suggestion.ghost (s : Suggestion) : String := String.ofList (s.text.toList.drop s.typed)

namespace Completion

def separators : List Char :=
  ['(', ')', '{', '}', '[', ']', '.', ',', ':', ';', '=', '+', '-', '*', '/']

def isBreak (c : Char) : Bool := Text.isBlank c || separators.contains c

/-- The word being typed at the end of the text; empty if the text ends in a break. -/
def activeWord (s : List Char) : List Char := (s.reverse.takeWhile fun c => !isBreak c).reverse

/-- `word` begins `symbol` and does not end it, case aside. -/
def begins (word symbol : List Char) : Bool :=
  let w := Text.lower word
  let s := Text.lower symbol
  w.isPrefixOf s && s != w

/-- One capital first, and nothing after it that lower-casing would change. -/
def isCapitalized : List Char → Bool
  | [] => false
  | c :: r => Text.isUppercase c && Text.lower r == r

def capitalize : List Char → List Char
  | [] => []
  | c :: r => Text.upperChar c ++ Text.lower r

/-- The symbol in the casing of the word: a word that is its own upper case wins over one that is
its own lower case, and both over a capitalized one. Mixed casing leaves the symbol as it is. -/
def adapt (word symbol : List Char) : List Char :=
  if Text.upper word == word then Text.upper symbol
  else if Text.lower word == word then Text.lower symbol
  else if isCapitalized word then capitalize symbol
  else symbol

def ofWord? (table : List Symbol) (word : List Char) : Option Suggestion :=
  if word.isEmpty then none
  else (table.find? fun s => begins word s.text.toList).map fun s =>
    { text := String.ofList (adapt word s.text.toList), category := s.category
      typed := word.length }

end Completion

def suggest? (table : List Symbol) (buffer : String) : Option Suggestion :=
  Completion.ofWord? table (Completion.activeWord buffer.toList)

def suggestText (table : List Symbol) (buffer : String) : String :=
  ((suggest? table buffer).map (·.text)).getD ""

end Workpad
