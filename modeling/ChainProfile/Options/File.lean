import ChainProfile.Options.Entries
import ChainProfile.Text.Field

/-! Option files. A line is a key, an equals sign and a value; a number sign or a semicolon starts a
comment, and a key alone has the empty value. Blanks around keys and values do not count, so neither
does the carriage return of a line that ends in two characters. -/

namespace ChainProfile.Options

open Text (trim split cut?)

def isCommentStart (c : Char) : Bool := c = '#' || c = ';'

def sides (line : List Char) : List Char × List Char := (cut? '=' line).getD (line, [])

def entryOfLine? (line : List Char) : Option (String × String) :=
  let (left, right) := sides (trim (line.takeWhile fun c => !isCommentStart c))
  let key := trim left
  if key = [] then none
  else some (String.ofList (key.map Char.toLower), String.ofList (trim right))

def ofText (text : String) : Options :=
  ((split '\n' text.toList).filterMap entryOfLine?).map row

inductive File
  | missing
  | unreadable
  | bytes (content : ByteArray)

/-- A missing file is no error; a file that is no text is one. -/
def ofFile : File → Except OptionError (Option Options)
  | .missing => .ok none
  | .unreadable => .error .unreadableFile
  | .bytes content =>
    match String.fromUTF8? content with
    | some text => .ok (some (ofText text))
    | none => .error .unreadableFile

end ChainProfile.Options
