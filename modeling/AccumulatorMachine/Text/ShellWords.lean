import AccumulatorMachine.Text.Blank

/-!
# Words of a command line

A command line is split in words the way a shell does it.  Spaces, tabs and line
feeds separate words; single quotes keep everything, double quotes all but some
backslashes; a backslash keeps the next character, or drops the line feed after
it; a number sign where a word could start opens a comment up to the end of the
line.  A line with an open quote has no words.
-/

namespace AccumulatorMachine
namespace Text

/-- Where the reader of a command line stands. -/
inductive ShellMode
  | between
  | afterBackslash
  | inWord
  | inWordAfterBackslash
  | inSingleQuotes
  | inDoubleQuotes
  | inDoubleQuotesAfterBackslash
  | inComment
  deriving DecidableEq, Repr

/-- The characters that separate words. -/
def isSeparator (c : Char) : Bool :=
  c == ' ' || c == '\t' || c == '\n'

/-- The characters that a backslash keeps between double quotes. -/
def isEscapable (c : Char) : Bool :=
  c == '$' || c == '\x60' || c == '"' || c == '\\'

/-- Split the rest of a line, given backwards the word read so far. -/
def shellWordsFrom (mode : ShellMode) (word : Text) : Text → Option (List Text)
  | [] =>
      match mode with
      | .between | .inComment => some []
      | .inWord => some [word.reverse]
      | .afterBackslash | .inWordAfterBackslash => some [('\\' :: word).reverse]
      | .inSingleQuotes | .inDoubleQuotes | .inDoubleQuotesAfterBackslash => none
  | c :: rest =>
      match mode with
      | .between =>
          if c = '\'' then shellWordsFrom .inSingleQuotes word rest
          else if c = '"' then shellWordsFrom .inDoubleQuotes word rest
          else if c = '\\' then shellWordsFrom .afterBackslash word rest
          else if isSeparator c then shellWordsFrom .between word rest
          else if c = '#' then shellWordsFrom .inComment word rest
          else shellWordsFrom .inWord (c :: word) rest
      | .afterBackslash =>
          if c = '\n' then shellWordsFrom .between word rest
          else shellWordsFrom .inWord (c :: word) rest
      | .inWord =>
          if c = '\'' then shellWordsFrom .inSingleQuotes word rest
          else if c = '"' then shellWordsFrom .inDoubleQuotes word rest
          else if c = '\\' then shellWordsFrom .inWordAfterBackslash word rest
          else if isSeparator c then (shellWordsFrom .between [] rest).map (word.reverse :: ·)
          else shellWordsFrom .inWord (c :: word) rest
      | .inWordAfterBackslash =>
          if c = '\n' then shellWordsFrom .inWord word rest
          else shellWordsFrom .inWord (c :: word) rest
      | .inSingleQuotes =>
          if c = '\'' then shellWordsFrom .inWord word rest
          else shellWordsFrom .inSingleQuotes (c :: word) rest
      | .inDoubleQuotes =>
          if c = '"' then shellWordsFrom .inWord word rest
          else if c = '\\' then shellWordsFrom .inDoubleQuotesAfterBackslash word rest
          else shellWordsFrom .inDoubleQuotes (c :: word) rest
      | .inDoubleQuotesAfterBackslash =>
          if c = '\n' then shellWordsFrom .inDoubleQuotes word rest
          else if isEscapable c then shellWordsFrom .inDoubleQuotes (c :: word) rest
          else shellWordsFrom .inDoubleQuotes (c :: '\\' :: word) rest
      | .inComment =>
          if c = '\n' then shellWordsFrom .between word rest
          else shellWordsFrom .inComment word rest

/-- The words of a command line, unless a quote is left open. -/
def shellWords? (line : Text) : Option (List Text) :=
  shellWordsFrom .between [] line

/-- The first so many bytes of a text, if they are whole characters. -/
def takeBytes? : Nat → Text → Option Text
  | 0, _ => some []
  | _ + 1, [] => none
  | count + 1, c :: rest =>
      if c.utf8Size ≤ count + 1 then
        (takeBytes? (count + 1 - c.utf8Size) rest).map (c :: ·)
      else
        none

end Text
end AccumulatorMachine
