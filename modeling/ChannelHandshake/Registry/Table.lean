import ChannelHandshake.Registry.Channel

/-!
# The table of channels

A registry holds its channels by name, in the order of the names and each name once. Channels are
added and changed but never removed.

Main statements: `find?_eq_some_iff`, a channel is found under its name and no other;
`mem_insert?`, an insertion adds exactly the new channel; `insert?_eq_none_iff`, it is refused
exactly when the name is taken.
-/

namespace ChannelHandshake

namespace ChannelName

theorem lt_irrefl (a : ChannelName) : ¬a < a := by
  intro h
  rcases h with h | ⟨-, h⟩ <;> exact String.lt_irrefl _ h

theorem lt_trans {a b c : ChannelName} (hab : a < b) (hbc : b < c) : a < c := by
  rcases hab with hab | ⟨hab, hab'⟩ <;> rcases hbc with hbc | ⟨hbc, hbc'⟩
  · exact .inl (String.lt_trans hab hbc)
  · exact .inl (hbc ▸ hab)
  · exact .inl (hab ▸ hbc)
  · exact .inr ⟨hab.trans hbc, String.lt_trans hab' hbc'⟩

theorem eq_or_lt_of_not_lt {a b : ChannelName} (h : ¬a < b) : a = b ∨ b < a := by
  have hscope : a.scope = b.scope ∨ b.scope < a.scope := by
    have := String.not_lt.1 fun hlt => h (.inl hlt)
    grind [String.le_antisymm, String.not_lt]
  rcases hscope with hs | hs
  · have hpath : a.path = b.path ∨ b.path < a.path := by
      have := String.not_lt.1 fun hlt => h (.inr ⟨hs, hlt⟩)
      grind [String.le_antisymm, String.not_lt]
    rcases hpath with hp | hp
    · exact .inl (ChannelName.ext hs hp)
    · exact .inr (.inr ⟨hs.symm, hp⟩)
  · exact .inr (.inl hs)

end ChannelName

namespace Channel

/-- Channels in strictly increasing order of their names. -/
def Sorted (channels : List Channel) : Prop :=
  channels.Pairwise fun a b => a.name < b.name

/-- A list of channels with one more at its place, unless its name is taken. -/
def insertInto (c : Channel) : List Channel → Option (List Channel)
  | [] => some [c]
  | d :: rest =>
    if c.name < d.name then some (c :: d :: rest)
    else if c.name = d.name then none
    else (insertInto c rest).map (d :: ·)

theorem mem_insertInto {c x : Channel} {channels result : List Channel}
    (h : insertInto c channels = some result) : x ∈ result ↔ x = c ∨ x ∈ channels := by
  fun_induction insertInto c channels generalizing result <;> grind [Option.map_eq_some_iff]

theorem sorted_insertInto {c : Channel} {channels result : List Channel}
    (hs : Sorted channels) (h : insertInto c channels = some result) : Sorted result := by
  fun_induction insertInto c channels generalizing result with
  | case1 =>
    simp only [Option.some.injEq] at h
    simp [Sorted, ← h]
  | case2 d rest hlt =>
    simp only [Option.some.injEq] at h
    subst h
    simp only [Sorted, List.pairwise_cons] at hs ⊢
    refine ⟨fun x hx => ?_, hs⟩
    rcases List.mem_cons.1 hx with rfl | hx
    · exact hlt
    · exact ChannelName.lt_trans hlt (hs.1 x hx)
  | case3 => simp at h
  | case4 d rest hlt hne ih =>
    obtain ⟨tail, htail, rfl⟩ := Option.map_eq_some_iff.1 h
    simp only [Sorted, List.pairwise_cons] at hs ⊢
    refine ⟨fun x hx => ?_, ih hs.2 htail⟩
    rcases (mem_insertInto htail).1 hx with rfl | hx
    · exact (ChannelName.eq_or_lt_of_not_lt hlt).resolve_left hne
    · exact hs.1 x hx

end Channel

/-- The channels of a process, by name. -/
structure Registry where
  channels : List Channel
  sorted : Channel.Sorted channels

namespace Registry

/-- No channel. -/
def empty : Registry :=
  ⟨[], .nil⟩

/-- The names of the channels, in order. -/
def names (r : Registry) : List ChannelName :=
  r.channels.map Channel.name

/-- How many channels there are. -/
def size (r : Registry) : Nat :=
  r.channels.length

/-- A registry without channels can talk to peers that do not negotiate at all. -/
def acceptsVanilla (r : Registry) : Bool :=
  r.size == 0

/-- The channel of this name. -/
def find? (r : Registry) (name : ChannelName) : Option Channel :=
  r.channels.find? (·.name = name)

/-- The registry with one more channel, unless the name is taken. -/
def insert? (r : Registry) (c : Channel) : Option Registry :=
  match h : Channel.insertInto c r.channels with
  | some channels => some ⟨channels, Channel.sorted_insertInto r.sorted h⟩
  | none => none

/-- The registry with the channel of this name changed by `f`, which keeps the names. -/
def modify (r : Registry) (name : ChannelName) (f : Channel → Channel)
    (hf : ∀ c, (f c).name = c.name) : Registry where
  channels := r.channels.map fun c => if c.name = name then f c else c
  sorted := by
    refine List.pairwise_map.2 (r.sorted.imp fun {a b} hab => ?_)
    split <;> split <;> simpa only [hf] using hab

/-- The registry after one more call of a channel's supplier. -/
def afterSupply (r : Registry) (name : ChannelName) : Registry :=
  r.modify name Channel.afterSupply fun _ => rfl

/-- The registry with one more gatherer attached to a channel. -/
def attach (r : Registry) (name : ChannelName) (g : Gatherer) : Registry :=
  r.modify name (Channel.attach g) fun _ => rfl

/-- The registry after one more run of a channel's gatherer. -/
def afterRun (r : Registry) (name : ChannelName) (index : Nat) : Registry :=
  r.modify name (Channel.afterRun index) fun _ => rfl

theorem mem_insert? {r r' : Registry} {c x : Channel} (h : r.insert? c = some r') :
    x ∈ r'.channels ↔ x = c ∨ x ∈ r.channels := by
  unfold insert? at h
  split at h
  · rename_i channels hc
    simp only [Option.some.injEq] at h
    exact h ▸ Channel.mem_insertInto hc
  · simp at h

theorem insert?_eq_none_iff {r : Registry} {c : Channel} :
    r.insert? c = none ↔ c.name ∈ r.names := by
  have key : ∀ channels : List Channel, Channel.Sorted channels →
      (Channel.insertInto c channels = none ↔ c.name ∈ channels.map Channel.name) := by
    intro channels hs
    induction channels with
    | nil => simp [Channel.insertInto]
    | cons d rest ih =>
      simp only [Channel.Sorted, List.pairwise_cons] at hs
      have := ih hs.2
      simp only [Channel.insertInto, List.map_cons, List.mem_cons]
      split
      · rename_i hlt
        have hne : c.name ≠ d.name := fun he => ChannelName.lt_irrefl _ (he ▸ hlt)
        have hnot : c.name ∉ rest.map Channel.name := by
          intro hm
          obtain ⟨x, hx, hxn⟩ := List.mem_map.1 hm
          exact ChannelName.lt_irrefl _ (ChannelName.lt_trans hlt (hxn ▸ hs.1 x hx))
        simp_all
      · split <;> simp_all
  rw [names, ← key r.channels r.sorted, insert?]
  split <;> simp_all

theorem find?_eq_some_iff {r : Registry} {name : ChannelName} {c : Channel} :
    r.find? name = some c ↔ c ∈ r.channels ∧ c.name = name := by
  have key : ∀ channels : List Channel, Channel.Sorted channels →
      (channels.find? (·.name = name) = some c ↔ c ∈ channels ∧ c.name = name) := by
    intro channels hs
    induction channels with
    | nil => simp
    | cons d rest ih =>
      simp only [Channel.Sorted, List.pairwise_cons] at hs
      by_cases hd : d.name = name
      · simp only [List.find?_cons, hd, decide_true, Option.some.injEq, List.mem_cons]
        constructor
        · rintro rfl
          exact ⟨.inl rfl, hd⟩
        · rintro ⟨rfl | hc, hn⟩
          · rfl
          · exact absurd (hd ▸ hn ▸ hs.1 c hc) (ChannelName.lt_irrefl _)
      · simp only [List.find?_cons, hd, decide_false, List.mem_cons, ih hs.2]
        grind
  exact key r.channels r.sorted

end Registry

end ChannelHandshake
