/-!
# Failures of callbacks

What a channel's own code reports when it cannot go on. `context` puts a description in front of a
failure, or in the place of a value that is missing; either way the result is a plain message.
-/

namespace ChannelHandshake

/-- Why a callback failed. -/
inductive Failure where
  | message (text : String)
  /-- A failed input or output operation, with its text. -/
  | io (text : String)
  /-- An error of the channel's own, with its text. -/
  | callback (text : String)
deriving DecidableEq, Repr

namespace Failure

/-- What a reader is told. -/
def text : Failure → String
  | message text | io text | callback text => text

/-- An error with the text `cause`, described by `context`. -/
def inContext (context cause : String) : Failure :=
  .message (context ++ ": " ++ cause)

/-- A value that is not there, described by `context`. -/
def missing (context : String) : Failure :=
  .message context

/-- The value of a result; a failure is put into `context`. -/
def context {α : Type} (context : String) : Except Failure α → Except Failure α
  | .ok a => .ok a
  | .error e => .error (inContext context e.text)

/-- The value of an option; its absence is described by `context`. -/
def optionContext {α : Type} (context : String) : Option α → Except Failure α
  | some a => .ok a
  | none => .error (missing context)

end Failure

end ChannelHandshake
