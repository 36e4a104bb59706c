import ChannelHandshake.ChannelName

/-!
# Names read back

The canonical text of a name is read as that name (`parse_text`): a namespace holds no colon, so the
first colon of the text is the one between the parts. No two names share a text (`text_injective`).

A path holds no colon either, so a path alone is read as a name of the default namespace. These are
all the spellings that a name has (`parse_eq_ok_iff`).
-/

namespace ChannelHandshake.ChannelName

theorem make_scope_path (n : ChannelName) : make n.scope n.path = .ok n := by
  rw [make, dif_neg n.scope_ne_empty, dif_neg n.path_ne_empty, dif_pos n.scope_chars,
    dif_pos n.path_chars]

theorem make_eq_ok_iff {scope path : String} {n : ChannelName} :
    make scope path = .ok n ↔ n.scope = scope ∧ n.path = path := by
  constructor
  · intro h
    unfold make at h
    split at h
    · simp at h
    split at h
    · simp at h
    split at h
    · split at h
      · cases h
        exact ⟨rfl, rfl⟩
      · simp at h
    · simp at h
  · rintro ⟨rfl, rfl⟩
    exact n.make_scope_path

theorem colon_not_mem_scope (n : ChannelName) : ':' ∉ n.scope.toList := by
  intro h
  have hchar := List.all_eq_true.1 n.scope_chars ':' h
  exact absurd hchar (by decide)

theorem splitAtFirst_parts {scope : String} (h : ':' ∉ scope.toList) (path : String) :
    Text.splitAtFirst ':' (scope ++ ":" ++ path).toList = some (scope.toList, path.toList) := by
  rw [Text.splitAtFirst_eq_some_iff]
  exact ⟨by simp, h⟩

theorem splitAtFirst_text (n : ChannelName) :
    Text.splitAtFirst ':' n.text.toList = some (n.scope.toList, n.path.toList) :=
  splitAtFirst_parts n.colon_not_mem_scope n.path

/-- The canonical text of a name spells that name. -/
theorem parse_text (n : ChannelName) : parse n.text = .ok n := by
  rw [parse, splitAtFirst_text]
  simp only [String.ofList_toList, make_scope_path]

theorem colon_not_mem_path (n : ChannelName) : ':' ∉ n.path.toList := by
  intro h
  have hchar := List.all_eq_true.1 n.path_chars ':' h
  exact absurd hchar (by decide)

theorem colon_mem_text (n : ChannelName) : ':' ∈ n.text.toList := by
  have hsplit := n.splitAtFirst_text
  rw [Text.splitAtFirst_eq_some_iff] at hsplit
  rw [hsplit.1]
  exact List.mem_append_right _ List.mem_cons_self

/-- The texts that spell a name: inside the default namespace the path alone is enough. -/
def spellings (n : ChannelName) : List String :=
  if n.scope = defaultNamespace then [n.path, n.text] else [n.text]

theorem mem_spellings_iff {n : ChannelName} {text : String} :
    text ∈ n.spellings ↔ text = n.text ∨ n.scope = defaultNamespace ∧ text = n.path := by
  unfold spellings
  split
  · rename_i hscope
    simp [hscope, or_comm]
  · rename_i hscope
    simp [hscope]

/-- The path alone is another spelling than the canonical one. -/
theorem path_ne_text (n : ChannelName) : n.path ≠ n.text := by
  intro h
  exact n.colon_not_mem_path (h ▸ n.colon_mem_text)

theorem nodup_spellings (n : ChannelName) : n.spellings.Nodup := by
  unfold spellings
  split
  · simp [n.path_ne_text]
  · simp

/-- A text spells the names among whose spellings it is. -/
theorem parse_eq_ok_iff {text : String} {n : ChannelName} :
    parse text = .ok n ↔ text ∈ n.spellings := by
  rw [mem_spellings_iff]
  constructor
  · intro h
    rw [parse] at h
    split at h
    · rename_i scope path hsplit
      rw [Text.splitAtFirst_eq_some_iff] at hsplit
      obtain ⟨hscope, hpath⟩ := make_eq_ok_iff.1 h
      have htext : n.text.toList = text.toList := by
        simp [ChannelName.text, hscope, hpath, hsplit.1]
      exact .inl (String.toList_injective htext).symm
    · obtain ⟨hscope, hpath⟩ := make_eq_ok_iff.1 h
      exact .inr ⟨hscope, hpath.symm⟩
  · rintro (rfl | ⟨hscope, rfl⟩)
    · exact n.parse_text
    · have hsplit := Text.splitAtFirst_eq_none_iff.2 n.colon_not_mem_path
      rw [parse, hsplit]
      exact make_eq_ok_iff.2 ⟨hscope, rfl⟩

theorem text_ne_empty (n : ChannelName) : n.text ≠ "" := by
  intro h
  simp [text] at h

theorem text_injective {a b : ChannelName} (h : a.text = b.text) : a = b := by
  have hparse := parse_text a
  rw [h, parse_text b] at hparse
  exact (Except.ok.inj hparse).symm

end ChannelHandshake.ChannelName
