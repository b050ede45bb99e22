import DryRun.Text.Quote

/-!
# Lines of a settings file

A file of settings is cut into lines. A line goes on behind its break while a quote is open or a
backslash comes before the break; a comment begins with a hash behind a single blank, or is a line
of its own.
-/

namespace DryRun

namespace Settings

open Unicode

/-- Where a reader stands in a line. -/
inductive LineState where
  | plain
  /-- Behind a blank, where a comment may begin. -/
  | blank
  | escape
  | inside (quote : Quote)
  | insideEscape (quote : Quote)
  | comment
  deriving DecidableEq, Repr

namespace LineState

/-- The state behind a character that begins nothing but quotes and escapes. -/
def enter (c : Char) : LineState :=
  if c = '\\' then escape
  else
    match Quote.ofChar? c with
    | some quote => inside quote
    | none => plain

/-- The state behind a character. -/
def step (state : LineState) (c : Char) : LineState :=
  match state with
  | plain => if isBlank c && c != '\n' && c != '\r' then blank else enter c
  | blank => if c = '#' then comment else enter c
  | escape => plain
  | inside quote =>
    if c = '\\' then insideEscape quote else if c = quote.char then plain else inside quote
  | insideEscape quote => inside quote
  | comment => comment

/-- The part of a text that is no comment, and the state behind the text. -/
def read (state : LineState) : Text → Text × LineState
  | [] => ([], state)
  | c :: rest =>
    if state.step c = comment then ([], comment)
    else
      let (kept, last) := read (state.step c) rest
      (c :: kept, last)

end LineState

/-- A text cut behind each of its line breaks. -/
def physicalLines : Text → List Text
  | [] => []
  | c :: rest =>
    if c = '\n' then [c] :: physicalLines rest else Text.growFirst c (physicalLines rest)

/-- A line without the break that it may end with. -/
def dropBreak (line : Text) : Text :=
  match line.getLast? with
  | some '\n' => Text.dropReturn line.dropLast
  | _ => line

/-- The lines of cut text, `front` being the beginning of one that goes on; a line that has no end
is left out. -/
def linesFrom (state : LineState) (front : Text) : List Text → List Text
  | [] => []
  | part :: rest =>
    let whole := front ++ part
    if (Text.trimStart whole).head? = some '#' then linesFrom .plain [] rest
    else
      match state.read part with
      | (_, .plain) => dropBreak whole :: linesFrom .plain [] rest
      | (kept, .comment) => (front ++ kept) :: linesFrom .plain [] rest
      | (_, next) => linesFrom next whole rest

/-- The lines of a settings file. -/
def lines (text : Text) : List Text := linesFrom .plain [] (physicalLines text)

end Settings

end DryRun
