import Std.Data.HashMap
import ChannelHandshake.Proofs.Config.Locality

/-!
# The check in one pass

A configuration can be checked in one pass that keeps for each name the index at which it was
declared first. A channel that repeats a name does not replace that index, and one whose name is
invalid takes an index without declaring anything (`Covers.add`). After any channels the pass so
knows where each name was first declared (`getElem?_first_foldl_add`), and its findings are those of
the check (`lintInOnePass_eq`).
-/

namespace ChannelHandshake

namespace Config

/-- What is kept of the channels checked so far. -/
structure Declared where
  /-- For each name that was declared, the index of the first channel that did so. -/
  first : Std.HashMap ChannelName Nat
  /-- The number of the channels. -/
  count : Nat

namespace Declared

/-- No channel has been checked. -/
def empty : Declared :=
  ⟨∅, 0⟩

/-- What is kept after one more channel. -/
def add (declared : Declared) (c : ChannelConfig) : Declared where
  first :=
    match nameOf? c with
    | none => declared.first
    | some name => declared.first.insertIfNew name declared.count
  count := declared.count + 1

/-- Findings about the name of the next channel. -/
def lintName (declared : Declared) (c : ChannelConfig) (place : String) : List Diagnostic :=
  match ChannelName.parse c.name with
  | .error e => [⟨.error, .name, place ++ ".name", e.message⟩]
  | .ok name =>
    match declared.first[name]? with
    | some first =>
      [⟨.error, .duplicate, place ++ ".name",
        "channel " ++ name.text ++ " is already declared at " ++ channelPath first⟩]
    | none => []

/-- Findings about the next channel. -/
def lintChannel (side : Side) (declared : Declared) (c : ChannelConfig) : List Diagnostic :=
  let place := channelPath declared.count
  declared.lintName c place ++ lintVersion c place ++ lintPolicy c.client (place ++ ".client")
    ++ lintPolicy c.server (place ++ ".server") ++ lintPayloads side c place

/-- One step of the pass: the findings so far with those about the next channel. -/
def step (side : Side) (s : List Diagnostic × Declared) (c : ChannelConfig) :
    List Diagnostic × Declared :=
  (s.1 ++ s.2.lintChannel side c, s.2.add c)

/-- What is kept is what one knows of channels with the names `before`, with none for a name that
is invalid. -/
structure Covers (declared : Declared) (before : List (Option ChannelName)) : Prop where
  count_eq : declared.count = before.length
  first_eq : ∀ name, declared.first[name]? = before.idxOf? (some name)

theorem covers_empty : empty.Covers [] where
  count_eq := rfl
  first_eq name := by simp [empty]

variable {declared : Declared} {before : List (Option ChannelName)}

theorem idxOf?_concat (declaration : Option ChannelName) (name : ChannelName) :
    (before ++ [declaration]).idxOf? (some name) =
      (before.idxOf? (some name)).or
        (if declaration = some name then some before.length else none) := by
  simp only [List.idxOf?, List.findIdx?_append, List.findIdx?_singleton, beq_iff_eq]
  split <;> simp

namespace Covers

/-- A channel declares its name at its own index, unless the name has an index already. -/
theorem add (h : declared.Covers before) (c : ChannelConfig) :
    (declared.add c).Covers (before ++ [nameOf? c]) := by
  refine ⟨?_, fun name => ?_⟩
  · rw [Declared.add, h.count_eq, List.length_append, List.length_singleton]
  · rw [idxOf?_concat, ← h.first_eq, Declared.add]
    cases hname : nameOf? c with
    | none => simp
    | some n =>
      rw [Std.HashMap.getElem?_insertIfNew, h.count_eq]
      by_cases hmem : name ∈ declared.first
      · obtain ⟨first, hfirst⟩ : ∃ first, declared.first[name]? = some first :=
          Option.isSome_iff_exists.1 (Std.HashMap.mem_iff_isSome_getElem?.1 hmem)
        grind
      · have hnone : declared.first[name]? = none := Std.HashMap.getElem?_eq_none hmem
        grind

theorem foldl_add (h : declared.Covers before) (channels : List ChannelConfig) :
    (channels.foldl Declared.add declared).Covers (before ++ channels.map nameOf?) := by
  induction channels generalizing declared before with
  | nil => rwa [List.map_nil, List.append_nil]
  | cons c channels ih =>
    rw [List.map_cons, List.append_cons]
    exact ih (h.add c)

theorem lintChannel_eq (h : declared.Covers before) (side : Side) (c : ChannelConfig) :
    declared.lintChannel side c = Config.lintChannel side before c := by
  have hname : ∀ place, declared.lintName c place = Config.lintName before c place := by
    intro place
    rw [Declared.lintName, Config.lintName]
    cases ChannelName.parse c.name with
    | error e => rfl
    | ok name =>
      have hfirst := h.first_eq name
      cases hindex : before.idxOf? (some name) <;> simp [hfirst, hindex]
  rw [Declared.lintChannel, Config.lintChannel, h.count_eq, hname]

theorem fst_foldl_step (h : declared.Covers before) (side : Side) (channels : List ChannelConfig)
    (done : List Diagnostic) :
    (channels.foldl (step side) (done, declared)).1 =
      done ++ lintChannels side before channels := by
  induction channels generalizing declared before done with
  | nil => rw [lintChannels, List.append_nil, List.foldl_nil]
  | cons c channels ih =>
    rw [List.foldl_cons, step, ih (h.add c), h.lintChannel_eq, lintChannels, List.append_assoc]

end Covers

/-- Before each channel the pass knows where the names of those before it were first declared. -/
theorem getElem?_first_foldl_add {channels : List ChannelConfig} {name : ChannelName}
    {i first : Nat} :
    ((channels.take i).foldl add empty).first[name]? = some first ↔
      IsFirst channels name i first := by
  have h : ((channels.take i).foldl add empty).Covers (namesBefore channels i) :=
    covers_empty.foldl_add (channels.take i)
  rw [h.first_eq, idxOf?_namesBefore_eq_some_iff]

end Declared

/-- What is wrong or doubtful about a configuration, found in one pass. -/
def lintInOnePass (c : Config) : List Diagnostic :=
  let start : List Diagnostic :=
    if c.channels.isEmpty then
      [⟨.info, .name, "channels", "no channels configured; only vanilla peers will be accepted"⟩]
    else []
  (c.channels.foldl (Declared.step c.side) (start, .empty)).1

/-- A check needs to read the configuration once only. -/
theorem lintInOnePass_eq (c : Config) : c.lintInOnePass = c.lint := by
  rw [lintInOnePass, Declared.covers_empty.fst_foldl_step, lint]
  split
  · rename_i hnil
    rw [List.isEmpty_iff.1 hnil, lintChannels, List.append_nil]
  · exact List.nil_append _

end Config

end ChannelHandshake
