import Dispatch.Number.Numeral

/-!
# Replies

What the server answers, and how an answer is read.  Both kinds of text count as text, and a text
that is a numeral counts as the integer it denotes; nothing else is converted.
-/

namespace Dispatch.Redis

/-- What comes back for a command. -/
inductive Reply where
  | int (i : Int)
  | bulk (text : String)
  | status (text : String)
  | nil
  | array (items : List Reply)
  /-- The server refuses. -/
  | refused (message : String)
  /-- The connection broke. -/
  | broken
deriving Repr

/-- A signed 64-bit numeral, which may carry either sign. -/
def readInt? (s : String) : Option Int :=
  match s.toList with
  | '-' :: digits =>
    ((Numeral.readDigits (Numeral.maxSigned + 1) digits).toOption).map fun n => -(n : Int)
  | cs => ((Numeral.read Numeral.maxSigned cs).toOption).map fun n => (n : Int)

namespace Reply

/-- A text of either kind. -/
def text? : Reply → Option String
  | bulk s => some s
  | status s => some s
  | _ => none

/-- An integer, or a text that denotes one. -/
def int? : Reply → Option Int
  | int i => some i
  | r => r.text?.bind readInt?

/-- Two texts. -/
def pair? : Reply → Option (String × String)
  | array [a, b] => do return (← a.text?, ← b.text?)
  | _ => none

/-- `nil`, or something else. -/
def nullable {α : Type} (read : Reply → Option α) : Reply → Option (Option α)
  | nil => some none
  | r => (read r).map some

end Reply

end Dispatch.Redis
