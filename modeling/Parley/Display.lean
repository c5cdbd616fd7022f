/-! # Display

A terminal as the chat sees it: twelve kinds of drawing, and the text that each writes. The
display remembers whether a reply is being written and whether a frame of the thinking indicator
is showing, so that a frame is always erased before anything else is written.
-/

namespace Parley

/-- One thing to draw. Replies arrive in pieces between `beginReply` and `finishReply`. -/
inductive Drawing where
  | primary (text : String)
  | secondary (text : String)
  | info (text : String)
  | success (text : String)
  | warning (text : String)
  | error (text : String)
  | beginReply (label : String)
  | replyText (text : String)
  | finishReply
  | frame (mark : String)
  | clearThinking
  | clearScreen
  deriving DecidableEq, Repr

structure Display where
  colored : Bool := true
  inReply : Bool := false
  frameShowing : Bool := false
  deriving DecidableEq, Repr

namespace Style

def bold : String := "\x1b[1m"
def dim : String := "\x1b[2m"
def reset : String := "\x1b[0m"
def cyan : String := "\x1b[36m"
def yellow : String := "\x1b[33m"
def green : String := "\x1b[32m"
def red : String := "\x1b[31m"

end Style

namespace Display

def eraseLine : String := "\r\x1b[2K"

def eraseScreen : String := "\x1b[2J\x1b[H"

/-- What must be written to remove a showing frame. -/
def erasure (d : Display) : String :=
  if d.frameShowing then eraseLine else ""

def withoutFrame (d : Display) : Display :=
  { d with frameShowing := false }

/-- A whole line, in a style or plain. An open reply is broken off first. -/
def line (d : Display) (style : Option String) (text : String) : Display × String :=
  let breakOff := if d.inReply then "\n" else ""
  let body :=
    match style with
    | some s => if d.colored then s ++ text ++ Style.reset else text
    | none => text
  ({ d with frameShowing := false, inReply := false }, d.erasure ++ breakOff ++ body ++ "\n")

def replyLabel (d : Display) (label : String) : String :=
  if d.colored then Style.bold ++ Style.cyan ++ label ++ ":" ++ Style.reset ++ " "
  else label ++ ": "

/-- Draws one thing: the display afterwards and the text written. -/
def draw (d : Display) : Drawing → Display × String
  | .primary text => d.line none text
  | .secondary text => d.line (some Style.dim) text
  | .info text => d.line (some Style.cyan) text
  | .success text => d.line (some Style.green) text
  | .warning text => d.line (some Style.yellow) ("Warning: " ++ text)
  | .error text => d.line (some Style.red) ("Error: " ++ text)
  | .beginReply label =>
    ({ d with frameShowing := false, inReply := true }, d.erasure ++ d.replyLabel label)
  | .replyText text => (d.withoutFrame, d.erasure ++ text)
  | .finishReply => ({ d with frameShowing := false, inReply := false }, d.erasure ++ "\n")
  | .frame mark =>
    if d.inReply || !d.colored then (d, "")
    else ({ d with frameShowing := true }, "\r" ++ Style.dim ++ mark ++ " thinking..." ++ Style.reset)
  | .clearThinking => (d.withoutFrame, d.erasure)
  | .clearScreen => ({ d with frameShowing := false, inReply := false }, eraseScreen)

def after (d : Display) : List Drawing → Display
  | [] => d
  | x :: xs => after (d.draw x).1 xs

def texts (d : Display) : List Drawing → List String
  | [] => []
  | x :: xs => (d.draw x).2 :: texts (d.draw x).1 xs

def output (d : Display) (xs : List Drawing) : String :=
  String.join (d.texts xs)

/-- How a display describes itself; its state stays hidden. -/
def description : String := "Console \x7b .. \x7d"

end Display

end Parley
