import ChannelHandshake.Text.Split

/-!
# Texts in pieces

The pieces of a text are what stands between the separators in it. Parts that are joined can be told
apart if none of them holds the separator (`pieces_joined`). A part that holds it falls into pieces
of its own, the first of which goes with what was before it (`pieces_append_of_not_mem`).
-/

namespace ChannelHandshake.Text

/-- What stands between the separators of a text. -/
def pieces (separator : Char) (text : String) : List String :=
  (text.toList.splitOn separator).map String.ofList

/-! ## Lists of characters -/

theorem splitOn_append_of_not_mem {separator : Char} {before : List Char}
    (h : separator ∉ before) (after : List Char) :
    (before ++ after).splitOn separator = (after.splitOn separator).modifyHead (before ++ ·) := by
  induction before with
  | nil =>
    obtain ⟨first, rest, hsplit⟩ := List.exists_cons_of_ne_nil (List.splitOn_ne_nil separator after)
    simp [hsplit]
  | cons c before ih =>
    obtain ⟨hc, hbefore⟩ : separator ≠ c ∧ separator ∉ before := by simpa using h
    rw [List.cons_append, List.splitOn_cons_eq_if_modifyHead, if_neg (by simpa using Ne.symm hc),
      ih hbefore, List.modifyHead_modifyHead]
    rfl

theorem not_mem_of_mem_splitOn {separator : Char} {part text : List Char}
    (h : part ∈ text.splitOn separator) : separator ∉ part := by
  induction text generalizing part with
  | nil =>
    obtain rfl : part = [] := by simpa using h
    exact List.not_mem_nil
  | cons c text ih =>
    obtain ⟨first, rest, hsplit⟩ := List.exists_cons_of_ne_nil (List.splitOn_ne_nil separator text)
    rw [List.splitOn_cons_eq_if_modifyHead] at h
    split at h
    · rcases List.mem_cons.1 h with rfl | hpart
      · exact List.not_mem_nil
      · exact ih hpart
    · rename_i hc
      rw [hsplit, List.modifyHead_cons] at h
      rw [hsplit] at ih
      rcases List.mem_cons.1 h with rfl | hpart
      · have hne : separator ≠ c := fun heq => hc (by simp [heq])
        simpa [hne] using ih List.mem_cons_self
      · exact ih (List.mem_cons_of_mem first hpart)

/-! ## Pieces -/

section Pieces

variable {separator : Char} {text part : String}

theorem exists_pieces_eq_cons (separator : Char) (text : String) :
    ∃ first rest, pieces separator text = first :: rest :=
  List.exists_cons_of_ne_nil (by simp [pieces])

theorem pieces_of_not_mem (h : separator ∉ text.toList) : pieces separator text = [text] := by
  rw [pieces, List.splitOn_eq_singleton h, List.map_singleton, String.ofList_toList]

theorem not_mem_of_mem_pieces (h : part ∈ pieces separator text) : separator ∉ part.toList := by
  obtain ⟨chars, hchars, rfl⟩ := List.mem_map.1 h
  rw [String.toList_ofList]
  exact not_mem_of_mem_splitOn hchars

/-- A separator ends a piece. -/
theorem pieces_append_separator (text text' : String) :
    pieces separator (text ++ separator.toString ++ text') =
      pieces separator text ++ pieces separator text' := by
  have hlist : (text ++ separator.toString ++ text').toList =
      text.toList ++ separator :: text'.toList := by
    simp
  rw [pieces, hlist, List.splitOn_append_cons_self, List.map_append]
  rfl

/-- What does not hold the separator goes with the first piece of what is behind it. -/
theorem pieces_append_of_not_mem (h : separator ∉ part.toList) (text : String) :
    pieces separator (part ++ text) = (pieces separator text).modifyHead (part ++ ·) := by
  obtain ⟨first, rest, hsplit⟩ :=
    List.exists_cons_of_ne_nil (List.splitOn_ne_nil separator text.toList)
  rw [pieces, pieces, String.toList_append, splitOn_append_of_not_mem h, hsplit]
  simp

end Pieces

/-! ## Joined parts -/

/-- Parts that do not hold the separator can be told apart when they are joined. -/
theorem pieces_joined {separator : Char} {parts : List String} (hne : parts ≠ [])
    (hparts : ∀ part ∈ parts, separator ∉ part.toList) :
    pieces separator (joined separator.toString parts) = parts := by
  have hsplit : ([separator].intercalate (parts.map String.toList)).splitOn separator =
      parts.map String.toList :=
    List.splitOn_intercalate separator (by simpa using hparts) (by simpa using hne)
  have hlist : (joined separator.toString parts).toList =
      [separator].intercalate (parts.map String.toList) := by
    simp [joined, String.toList_intercalate]
  rw [pieces, hlist, hsplit, List.map_map]
  simp

/-- The first of several joined parts is a piece, if it does not hold the separator. -/
theorem pieces_joined_cons_cons {separator : Char} {part : String}
    (h : separator ∉ part.toList) (next : String) (rest : List String) :
    pieces separator (joined separator.toString (part :: next :: rest)) =
      part :: pieces separator (joined separator.toString (next :: rest)) := by
  rw [joined, String.intercalate_cons_cons, pieces_append_separator, pieces_of_not_mem h]
  rfl

/-- Joined parts hold only what the parts and the separator hold. -/
theorem not_mem_joined {c : Char} {separator : String} (hseparator : c ∉ separator.toList)
    {parts : List String} (hparts : ∀ part ∈ parts, c ∉ part.toList) :
    c ∉ (joined separator parts).toList := by
  induction parts with
  | nil => simp [joined]
  | cons part rest ih =>
    obtain ⟨hpart, hrest⟩ := List.forall_mem_cons.1 hparts
    cases rest with
    | nil => simpa [joined] using hpart
    | cons next rest =>
      rw [joined, String.intercalate_cons_cons]
      simp only [String.toList_append, List.mem_append, not_or]
      exact ⟨⟨hpart, hseparator⟩, ih hrest⟩

end ChannelHandshake.Text
