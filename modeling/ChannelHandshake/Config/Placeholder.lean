import ChannelHandshake.Text.Split

/-!
# Placeholders

A text may hold placeholders, a name or a name and a fallback after a colon and a hyphen, between
braces after a dollar sign. The first brace that follows closes a placeholder. A name that has a
value is replaced by it, one without a value by the fallback; a placeholder with neither, or
without a name, stands for itself. What is inserted is not read again, and a placeholder that is
never closed ends the reading: the rest of the text stands as it is.

Main statement: `length_findOpening`, each placeholder leaves less text to read.
-/

namespace ChannelHandshake.Placeholder

/-- The text before the first opening, last character first and after `done`, and the text behind
the opening. -/
def findOpening : List Char → List Char → Option (List Char × List Char)
  | [], _ => none
  | '$' :: '\x7b' :: rest, done => some (done, rest)
  | c :: rest, done => findOpening rest (c :: done)

theorem length_findOpening {text done before after : List Char}
    (h : findOpening text done = some (before, after)) : after.length < text.length := by
  fun_induction findOpening text done <;> grind

/-- A name with an optional fallback: the body of a placeholder cut at the first colon that a
hyphen follows. -/
def splitFallback : List Char → List Char → List Char × Option (List Char)
  | [], done => (done.reverse, none)
  | ':' :: '-' :: fallback, done => (done.reverse, some fallback)
  | c :: rest, done => splitFallback rest (c :: done)

/-- A placeholder as it is written. -/
def written (body : List Char) : List Char :=
  '$' :: '\x7b' :: body ++ ['\x7d']

/-- What a placeholder stands for. -/
def resolve (value : String → Option String) (body : List Char) : List Char :=
  let (name, fallback) := splitFallback body []
  if name.isEmpty then written body
  else
    match value (String.ofList name), fallback with
    | some v, _ => v.toList
    | none, some fallback => fallback
    | none, none => written body

/-- The text after its placeholders are replaced, following what is in `done`, last character
first. -/
def substituteAfter (value : String → Option String) (text done : List Char) : List Char :=
  match _hopen : findOpening text done with
  | none => text.reverseAux done |>.reverse
  | some (before, after) =>
    match _hclose : Text.splitAtFirst '\x7d' after with
    | none => text.reverseAux done |>.reverse
    | some (body, rest) =>
      -- what was inserted lies behind the place from which reading goes on
      substituteAfter value rest ((resolve value body).reverseAux before)
termination_by text.length
decreasing_by
  have hafter := length_findOpening _hopen
  have hrest := (Text.splitAtFirst_eq_some_iff.1 _hclose).1
  simp only [hrest, List.length_append, List.length_cons] at hafter
  omega

/-- `text` with its placeholders replaced by what `value` knows of their names. -/
def substitute (value : String → Option String) (text : String) : String :=
  String.ofList (substituteAfter value text.toList [])

end ChannelHandshake.Placeholder
