/-!
# Text cut at its first separator

Main statements: `splitAtFirst_eq_none_iff`, there is nothing to cut exactly when the separator
does not occur; `splitAtFirst_eq_some_iff`, a cut is at the first separator and loses nothing.
-/

namespace ChannelHandshake.Text

/-- What stands before and after the first `separator`, if it occurs. -/
def splitAtFirst (separator : Char) (text : List Char) : Option (List Char × List Char) :=
  match text.dropWhile (· != separator) with
  | _ :: after => some (text.takeWhile (· != separator), after)
  | [] => none

theorem splitAtFirst_eq_none_iff {separator : Char} {text : List Char} :
    splitAtFirst separator text = none ↔ separator ∉ text := by
  induction text with
  | nil => simp [splitAtFirst]
  | cons c rest ih =>
    by_cases h : c = separator <;>
      grind [splitAtFirst, List.takeWhile_cons, List.dropWhile_cons]

theorem splitAtFirst_eq_some_iff {separator : Char} {text before after : List Char} :
    splitAtFirst separator text = some (before, after) ↔
      text = before ++ separator :: after ∧ separator ∉ before := by
  induction text generalizing before with
  | nil => simp [splitAtFirst]
  | cons c rest ih =>
    by_cases h : c = separator <;> cases before <;>
      grind [splitAtFirst, List.takeWhile_cons, List.dropWhile_cons]

/-- `parts` one after the other with `separator` between them. -/
def joined (separator : String) (parts : List String) : String :=
  separator.intercalate parts

end ChannelHandshake.Text
