import BrokerTrial.Toml.Document

/-!
# Pointing into a text

A complaint about a place in a text: the line and column, the line itself, and carets under the part
of the place that is on that line.
-/

namespace BrokerTrial.Toml

def byteSize (chars : List Char) : Nat := chars.foldl (fun n c => n + c.utf8Size) 0

def firstLine (chars : List Char) : List Char := chars.takeWhile (· ≠ '\n')

/-- The characters of a text before the place where `rest` is left of it. -/
def before (chars rest : List Char) : List Char :=
  chars.take (chars.length - rest.length)

/-- A complaint about a place in `text`. Columns are counted in characters and carets in bytes; there is
one caret at least. -/
def excerpt (text : String) (span : Span) (message : String) : String :=
  let chars := text.toList
  let head := before chars span.start
  let line := head.count '\n' + 1
  let ahead := (head.reverse.takeWhile (· ≠ '\n')).reverse
  let content := ahead ++ firstLine span.start
  let column := ahead.length
  let number := toString line
  let margin := String.ofList (List.replicate (number.length + 1) ' ') ++ "|"
  let length := byteSize span.start - byteSize span.stop
  let carets := max 1 (min length (byteSize content - column))
  "TOML parse error at line " ++ number ++ ", column " ++ toString (column + 1) ++ "\n" ++
    margin ++ "\n" ++
    number ++ " | " ++ String.ofList content ++ "\n" ++
    margin ++ String.ofList (List.replicate (column + 1) ' ') ++
      String.ofList (List.replicate carets '^') ++ "\n" ++
    message ++ "\n"

end BrokerTrial.Toml
