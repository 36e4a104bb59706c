import ChannelHandshake.Proofs.Manifest.Offence

/-!
# Manifests that were received

Whatever bytes a peer sends, a manifest that is read from them is clean, since all three readers end
in `Manifest.check`. In a clean manifest a name has at most one version, which is the one that
`versionOf` finds.
-/

namespace ChannelHandshake.Manifest

/-- Some reader takes the payload for the manifest `m`. -/
def Accepts (payload : List UInt8) (m : Manifest) : Prop :=
  decodeList payload = .ok m ∨ (∃ sender, decodeFrame payload = .ok (sender, m)) ∨
    decode payload = .ok m

/-- What a bare list that is read consists of. -/
theorem exists_of_decodeList {payload : List UInt8} {m : Manifest}
    (h : decodeList payload = .ok m) :
    ∃ v, readJson payload = .ok v ∧ ofJson? v = some m ∧ Clean m := by
  rw [decodeList] at h
  cases hread : readJson payload with
  | error error => simp [hread, bind, Except.bind] at h
  | ok v =>
    simp only [hread, bind, Except.bind] at h
    split at h
    · rename_i listed hlist
      obtain ⟨hclean, rfl⟩ := check_eq_ok_iff.1 h
      exact ⟨v, rfl, hlist, hclean⟩
    · simp at h

theorem clean_of_decodeList {payload : List UInt8} {m : Manifest}
    (h : decodeList payload = .ok m) : Clean m := by
  obtain ⟨v, -, -, hclean⟩ := exists_of_decodeList h
  exact hclean

theorem clean_of_decodeFrame {payload : List UInt8} {sender : Side} {m : Manifest}
    (h : decodeFrame payload = .ok (sender, m)) : Clean m := by
  rw [decodeFrame] at h
  cases hread : readJson payload with
  | error error => simp [hread, bind, Except.bind] at h
  | ok v =>
    simp only [hread, bind, Except.bind] at h
    split at h
    · split at h
      · rename_i listed _
        cases hcheck : check listed with
        | error error => simp [hcheck] at h
        | ok m' =>
          simp only [hcheck, pure, Except.pure, Except.ok.injEq, Prod.mk.injEq] at h
          obtain ⟨hclean, rfl⟩ := check_eq_ok_iff.1 hcheck
          exact h.2 ▸ hclean
      · simp at h
    · simp at h

theorem Accepts.clean {payload : List UInt8} {m : Manifest} (h : Accepts payload m) : Clean m := by
  rcases h with h | ⟨sender, h⟩ | h
  · exact clean_of_decodeList h
  · exact clean_of_decodeFrame h
  · rw [decode] at h
    split at h
    · rename_i sender m' hframe
      cases h
      exact clean_of_decodeFrame hframe
    · exact clean_of_decodeList h
    · simp at h

/-- The version of a name is that of the entry with this name. -/
theorem Clean.versionOf_eq_some_iff {m : Manifest} (hclean : Clean m) {name version : String} :
    m.versionOf name = some version ↔ ⟨name, version⟩ ∈ m := by
  rw [versionOf, Option.map_eq_some_iff]
  constructor
  · rintro ⟨e, hfind, rfl⟩
    have hname : e.name = name := by simpa using List.find?_some hfind
    rw [← hname]
    exact List.mem_of_find?_eq_some hfind
  · intro hmem
    obtain ⟨before, after, rfl⟩ := List.append_of_mem hmem
    have hne := key_ne_of_nodup hclean.names_nodup
    refine ⟨⟨name, version⟩, ?_, rfl⟩
    rw [List.find?_eq_some_iff_append]
    refine ⟨by simp, before, after, rfl, ?_⟩
    intro e he
    simpa using hne e he

end ChannelHandshake.Manifest
