import SemanticLayer.Service.Response
import SemanticLayer.Text.Utf8

/-
# Connections

A client sends lines and gets one line back for each that is not blank.  A line
may have as many bytes as the limit, its end not counted; at a longer one the
service answers with an error and hangs up, because it cannot tell where the
next line starts.
-/

namespace SemanticLayer.Connection

/-- The bytes that a line may have. -/
def lineLimit : Nat := 65536

/-- The byte that ends a line. -/
def lineEnd : UInt8 := 10

/-- A piece of what a client sends. -/
inductive Piece where
  /-- A line, with its end if it has one. -/
  | line (bytes : List UInt8)
  /-- The start of a line that is longer than the limit. -/
  | overlong
deriving DecidableEq

/-- The first piece of bytes, and the bytes behind it. -/
def firstPiece (bytes : List UInt8) : Piece × List UInt8 :=
  let window := bytes.take (lineLimit + 1)
  let body := window.takeWhile (· != lineEnd)
  if body.length < window.length then
    (.line (body ++ [lineEnd]), bytes.drop (body.length + 1))
  else if lineLimit < window.length then (.overlong, bytes.drop window.length)
  else (.line window, [])

/-- A piece of something takes something away from it. -/
theorem length_firstPiece_lt (bytes : List UInt8) (h : bytes ≠ []) :
    (firstPiece bytes).2.length < bytes.length := by
  have : 0 < bytes.length := List.length_pos_iff.2 h
  unfold firstPiece
  dsimp only
  split
  · simp; omega
  · split
    · simp; omega
    · simpa using this

/-- The request in a line: its text without the blanks at its ends. -/
def requestOf (bytes : List UInt8) : String := Text.trim (String.ofList (Text.decodeUtf8 bytes))

/-- What is sent back for the bytes of a client.  `handle` answers a request, or breaks off. -/
def respond (handle : String → Option Json) (bytes : List UInt8) : List Json :=
  if h : bytes = [] then []
  else
    match firstPiece bytes, length_firstPiece_lt bytes h with
    | (.overlong, _), _ => [(ServiceError.tooLong lineLimit).toJson]
    | (.line line, rest), _ =>
      let request := requestOf line
      if request.isEmpty then respond handle rest
      else
        match handle request with
        | some response => response :: respond handle rest
        | none => []
termination_by bytes.length

/-- What is sent back, as text: every response on a line of its own. -/
def output (responses : List Json) : String :=
  String.join (responses.map fun r => r.write ++ "\n")

end SemanticLayer.Connection
