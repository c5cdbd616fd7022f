import Parley.Error
import Parley.Text.Cluster

/-! # Lines of input and interrupts

Where the lines of a session come from. A terminal that is not a screen gives its input line by
line and writes a prompt only if it is a simple one. A backspace in a line deletes what a reader
takes for one character. An interrupt from the keyboard goes to the turn under way, and to nothing
else.
-/

namespace Parley

inductive Reading where
  | line (text : String)
  | interrupted
  deriving DecidableEq, Repr

namespace Reading

def endOfInput : Error :=
  .input "end of input" .none

/-- The error of a reading in the course of which the source stops for good. -/
def stopped : Error :=
  .input "line reader stopped" (.foreign "a character was cut in two")

/-- The error of every reading after that. -/
def unavailable : Error :=
  .input "line editor is unavailable" .none

def failed (cause : Cause) : Error :=
  .input "could not read input" cause

def asInputError (e : Error) : Error :=
  if e.isInput then e else failed (.error e)

def next (lines : List String) : Except Error Reading × List String :=
  match lines with
  | [] => (.error endOfInput, [])
  | l :: rest => (.ok (.line l), rest)

end Reading

/-- A terminal that is no screen: the bytes still to be read. -/
structure Terminal where
  showsPrompt : Bool
  input : List UInt8
  stopped : Bool := false
  deriving DecidableEq, Repr

namespace Terminal

def splitLine : List UInt8 → List UInt8 × List UInt8
  | [] => ([], [])
  | b :: rest =>
    if b = 0x0A then ([b], rest)
    else
      let (line, after) := splitLine rest
      (b :: line, after)

/-- Removes the end of a line: a line feed, with a carriage return before it. -/
def withoutEnd (line : List Char) : List Char :=
  match line.reverse with
  | '\n' :: '\r' :: rest => rest.reverse
  | '\n' :: rest => rest.reverse
  | _ => line

/-- Removes bytes from a text that stands with its last character first; none if that cuts a
character in two. -/
def removeBytes? : Nat → List Char → Option (List Char)
  | 0, cs => some cs
  | _, [] => some []
  | n, c :: cs => if c.utf8Size ≤ n then removeBytes? (n - c.utf8Size) cs else none

/-- The number of bytes of a cluster, kept in one byte. -/
def byteSize (cluster : List Char) : UInt8 :=
  UInt8.ofNat ((cluster.map Char.utf8Size).foldr (· + ·) 0)

/-- Lets each backspace among some clusters delete the cluster before it. The first arguments hold
what stands so far, its last character first, and the sizes of its clusters. Of a cluster whose
size does not fit in a byte only a part is deleted, and there is no result if the part would begin
in the middle of a character. -/
def erase? (kept : List Char) (sizes : List UInt8) : List (List Char) → Option (List Char)
  | [] => some kept.reverse
  | ['\x08'] :: rest =>
    match sizes with
    | [] => erase? kept [] rest
    | n :: sizes =>
      match removeBytes? n.toNat kept with
      | some kept => erase? kept sizes rest
      | none => none
  | cluster :: rest => erase? (cluster.reverse ++ kept) (byteSize cluster :: sizes) rest

def applyBackspaces? (line : List Char) : Option (List Char) :=
  erase? [] [] (Text.clusters line)

/-- Reads a line: the reading, what is written, and the terminal afterwards. A line that is no
text is used up. -/
def readLine (t : Terminal) (prompt : String) : Except Error Reading × String × Terminal :=
  if t.stopped then (.error Reading.unavailable, "", t)
  else
    let (line, input) := splitLine t.input
    let written := if t.showsPrompt then prompt else ""
    if line.isEmpty then (.error Reading.endOfInput, written, { t with input })
    else
      match Utf8.decode line with
      | .error fault =>
        (.error (Reading.failed (.foreign fault.message)), written, { t with input })
      | .ok cs =>
        match applyBackspaces? (withoutEnd cs) with
        | some cs => (.ok (.line (String.ofList cs)), written, { t with input })
        | none => (.error Reading.stopped, written, { t with input, stopped := true })

end Terminal

/-- Where an interrupt goes: the token of the turn under way, if there is one. -/
structure Interrupter (τ : Type) where
  armed : Option τ := none
  deriving DecidableEq, Repr, Inhabited

namespace Interrupter

variable {τ : Type}

def arm (_ : Interrupter τ) (token : τ) : Interrupter τ :=
  { armed := some token }

def disarm (_ : Interrupter τ) : Interrupter τ :=
  { armed := none }

/-- Interrupts: the token to cancel, if a turn is under way. A second interrupt finds nothing. -/
def interrupt (i : Interrupter τ) : Option τ × Interrupter τ :=
  (i.armed, { armed := none })

end Interrupter

end Parley
