import ChannelHandshake.Proofs.ChannelName.Spelling
import ChannelHandshake.Proofs.Json.Reading

/-!
# The grammar of names

A text that spells a name is its canonical form or, inside the default namespace, its path. Which
names there are is said by two alphabets (`exists_make_eq_ok_iff`); any other text is refused with
its parts and the first fault that is found in them (`make_eq_error_iff`). As JSON a name is a
string in which its canonical text stands as it is (`render_toJson`).
-/

namespace ChannelHandshake

namespace ChannelName

/-! ## Alphabets -/

/-- The characters of a namespace. -/
def scopeAlphabet : List Char :=
  "abcdefghijklmnopqrstuvwxyz0123456789_.-".toList

/-- The characters of a path. -/
def pathAlphabet : List Char :=
  '/' :: scopeAlphabet

theorem toNat_lt_of_isNamespaceChar {c : Char} (h : isNamespaceChar c = true) :
    c.toNat < 128 := by
  have hz : 'z'.toNat < 128 := by decide
  have h9 : '9'.toNat < 128 := by decide
  simp only [isNamespaceChar, Bool.or_eq_true, Bool.and_eq_true, decide_eq_true_eq,
    beq_iff_eq] at h
  rcases h with (((⟨-, h⟩ | ⟨-, h⟩) | rfl) | rfl) | rfl
  · exact lt_of_le_of_lt h hz
  · exact lt_of_le_of_lt h h9
  · decide
  · decide
  · decide

theorem isNamespaceChar_iff {c : Char} : isNamespaceChar c = true ↔ c ∈ scopeAlphabet := by
  -- both sides hold of ASCII characters only, and these can be gone through
  have hsmall : ∀ n < 128,
      (isNamespaceChar (Char.ofNat n) = true ↔ Char.ofNat n ∈ scopeAlphabet) := by
    decide +kernel
  have halphabet : ∀ d ∈ scopeAlphabet, d.toNat < 128 := by
    have hall : scopeAlphabet.all (·.toNat < 128) = true := by decide
    simpa using hall
  constructor
  · intro h
    have hc := hsmall c.toNat (toNat_lt_of_isNamespaceChar h)
    rw [Char.ofNat_toNat] at hc
    exact hc.1 h
  · intro h
    have hc := hsmall c.toNat (halphabet c h)
    rw [Char.ofNat_toNat] at hc
    exact hc.2 h

theorem isPathChar_iff {c : Char} : isPathChar c = true ↔ c ∈ pathAlphabet := by
  rw [isPathChar, Bool.or_eq_true, isNamespaceChar_iff, beq_iff_eq, pathAlphabet, List.mem_cons,
    or_comm]

/-! ## Faults -/

/-- The fault is there in a name of these parts. -/
def Fault.AppliesTo (scope path : String) : Fault → Prop
  | .emptyNamespace => scope = ""
  | .emptyPath => path = ""
  | .badNamespace => ∃ c ∈ scope.toList, c ∉ scopeAlphabet
  | .badPath => ∃ c ∈ path.toList, c ∉ pathAlphabet

/-- The faults in the order in which they are looked for. -/
def Fault.inOrder : List Fault :=
  [.emptyNamespace, .emptyPath, .badNamespace, .badPath]

/-- The fault is there, and none of those that are looked for before it. -/
def Fault.IsFirst (scope path : String) (fault : Fault) : Prop :=
  fault.AppliesTo scope path ∧
    ∀ earlier ∈ Fault.inOrder.takeWhile (· ≠ fault), ¬earlier.AppliesTo scope path

theorem scope_chars_iff (scope : String) :
    scope.toList.all isNamespaceChar = true ↔ ∀ c ∈ scope.toList, c ∈ scopeAlphabet := by
  simp only [List.all_eq_true, isNamespaceChar_iff]

theorem path_chars_iff (path : String) :
    path.toList.all isPathChar = true ↔ ∀ c ∈ path.toList, c ∈ pathAlphabet := by
  simp only [List.all_eq_true, isPathChar_iff]

/-- Two parts are a name, or the first of their faults is told. -/
theorem make_cases (scope path : String) :
    ((∃ n, make scope path = .ok n) ∧ ∀ fault : Fault, ¬fault.AppliesTo scope path) ∨
    ∃ fault : Fault, make scope path = .error ⟨scope ++ ":" ++ path, fault⟩ ∧
      fault.IsFirst scope path := by
  have hscope := scope_chars_iff scope
  have hpath := path_chars_iff path
  unfold make
  split
  · rename_i hempty
    exact .inr ⟨.emptyNamespace, rfl, hempty, by simp [Fault.inOrder]⟩
  split
  · rename_i hs hempty
    refine .inr ⟨.emptyPath, rfl, hempty, ?_⟩
    simpa [Fault.inOrder, Fault.AppliesTo] using hs
  split
  · rename_i hs hp hsc
    rw [hscope] at hsc
    split
    · rename_i hpc
      rw [hpath] at hpc
      refine .inl ⟨⟨_, rfl⟩, ?_⟩
      rintro (_ | _ | _ | _)
      · exact hs
      · exact hp
      · rintro ⟨c, hc, hbad⟩
        exact hbad (hsc c hc)
      · rintro ⟨c, hc, hbad⟩
        exact hbad (hpc c hc)
    · rename_i hpc
      rw [hpath] at hpc
      push Not at hpc
      refine .inr ⟨.badPath, rfl, hpc, ?_⟩
      simpa [Fault.inOrder, Fault.AppliesTo] using ⟨hs, hp, hsc⟩
  · rename_i hs hp hsc
    rw [hscope] at hsc
    push Not at hsc
    refine .inr ⟨.badNamespace, rfl, hsc, ?_⟩
    simpa [Fault.inOrder, Fault.AppliesTo] using ⟨hs, hp⟩

theorem Fault.IsFirst.unique {scope path : String} {fault fault' : Fault}
    (h : fault.IsFirst scope path) (h' : fault'.IsFirst scope path) : fault = fault' := by
  by_contra hne
  -- one of the two is looked for before the other
  have hbefore : fault ∈ Fault.inOrder.takeWhile (· ≠ fault') ∨
      fault' ∈ Fault.inOrder.takeWhile (· ≠ fault) := by
    revert hne
    cases fault <;> cases fault' <;> decide
  rcases hbefore with hbefore | hbefore
  · exact h'.2 fault hbefore h.1
  · exact h.2 fault' hbefore h'.1

theorem make_eq_error_iff {scope path : String} {e : Invalid} :
    make scope path = .error e ↔
      e.text = scope ++ ":" ++ path ∧ e.fault.IsFirst scope path := by
  rcases make_cases scope path with ⟨⟨n, hok⟩, hnone⟩ | ⟨fault, herror, hfirst⟩
  · constructor
    · intro h
      rw [hok] at h
      cases h
    · rintro ⟨-, hfirst⟩
      exact absurd hfirst.1 (hnone e.fault)
  · rw [herror]
    constructor
    · intro h
      cases h
      exact ⟨rfl, hfirst⟩
    · obtain ⟨text, fault'⟩ := e
      rintro ⟨rfl, hfirst'⟩
      rw [hfirst.unique hfirst']

/-- Two parts are a name if neither is empty and both keep to their alphabets. -/
theorem exists_make_eq_ok_iff {scope path : String} :
    (∃ n, make scope path = .ok n) ↔
      (scope ≠ "" ∧ ∀ c ∈ scope.toList, c ∈ scopeAlphabet) ∧
        path ≠ "" ∧ ∀ c ∈ path.toList, c ∈ pathAlphabet := by
  constructor
  · rintro ⟨n, h⟩
    obtain ⟨rfl, rfl⟩ := make_eq_ok_iff.1 h
    exact ⟨⟨n.scope_ne_empty, (scope_chars_iff _).1 n.scope_chars⟩, n.path_ne_empty,
      (path_chars_iff _).1 n.path_chars⟩
  · rintro ⟨⟨hs, hsc⟩, hp, hpc⟩
    exact ⟨⟨scope, path, hs, hp, (scope_chars_iff _).2 hsc, (path_chars_iff _).2 hpc⟩,
      make_eq_ok_iff.2 ⟨rfl, rfl⟩⟩

/-! ## Parts -/

/-- A text and the parts that it is read as: those before and behind its first colon, or, without a
colon, the default namespace and the text itself. -/
inductive HasParts : String → String → String → Prop where
  | cut {scope path : String} (hscope : ':' ∉ scope.toList) :
      HasParts (scope ++ ":" ++ path) scope path
  | bare {path : String} (hpath : ':' ∉ path.toList) : HasParts path defaultNamespace path

theorem exists_hasParts (text : String) : ∃ scope path, HasParts text scope path := by
  cases hsplit : Text.splitAtFirst ':' text.toList with
  | none => exact ⟨_, _, .bare (Text.splitAtFirst_eq_none_iff.1 hsplit)⟩
  | some parts =>
    obtain ⟨scope, path⟩ := parts
    obtain ⟨htext, hscope⟩ := Text.splitAtFirst_eq_some_iff.1 hsplit
    have hcut : text = String.ofList scope ++ ":" ++ String.ofList path := by
      apply String.toList_injective
      simp [htext]
    rw [hcut]
    exact ⟨_, _, .cut (by simpa using hscope)⟩

namespace HasParts

variable {text scope path : String}

theorem parse_eq (h : HasParts text scope path) : parse text = make scope path := by
  cases h with
  | cut hscope =>
    rw [parse, splitAtFirst_parts hscope]
    simp only [String.ofList_toList]
  | bare hpath => rw [parse, Text.splitAtFirst_eq_none_iff.2 hpath]

/-- A text has no other parts. -/
theorem unique {scope' path' : String} (h : HasParts text scope path)
    (h' : HasParts text scope' path') : scope' = scope ∧ path' = path := by
  generalize htext : text = text' at h'
  cases h with
  | bare hpath =>
    cases h' with
    | bare hpath' => exact ⟨rfl, htext.symm⟩
    | cut hscope' =>
      rw [htext] at hpath
      simp at hpath
  | cut hscope =>
    cases h' with
    | bare hpath' =>
      rw [← htext] at hpath'
      simp at hpath'
    | cut hscope' =>
      have hsplit := splitAtFirst_parts hscope' path'
      rw [← htext, splitAtFirst_parts hscope path, Option.some.injEq, Prod.mk.injEq] at hsplit
      exact ⟨String.toList_injective hsplit.1.symm, String.toList_injective hsplit.2.symm⟩

end HasParts

/-- A canonical text keeps to the alphabet of paths and the colon. -/
theorem mem_alphabet_of_mem_text {n : ChannelName} {c : Char} (h : c ∈ n.text.toList) :
    c ∈ ':' :: pathAlphabet := by
  simp only [text, String.toList_append, List.mem_append] at h
  rcases h with (h | h) | h
  · have hscope := (scope_chars_iff _).1 n.scope_chars c h
    exact List.mem_cons_of_mem _ (List.mem_cons_of_mem _ hscope)
  · have hcolon : c = ':' := by simpa using h
    exact hcolon ▸ List.mem_cons_self
  · exact List.mem_cons_of_mem _ ((path_chars_iff _).1 n.path_chars c h)

/-- Any other character can stand between canonical texts. -/
theorem not_mem_text {c : Char} (hc : c ∉ ':' :: pathAlphabet) (n : ChannelName) :
    c ∉ n.text.toList :=
  fun h => hc (mem_alphabet_of_mem_text h)

/-! ## JSON -/

/-- Nothing in a canonical text needs an escape. -/
theorem escapedChar_of_mem_text {n : ChannelName} {c : Char} (h : c ∈ n.text.toList) :
    Json.escapedChar c = [c] := by
  have hplain : ∀ d ∈ ':' :: pathAlphabet, Json.escapedChar d = [d] := by
    apply List.map_inj_left.1
    decide
  exact hplain c (mem_alphabet_of_mem_text h)

/-- The JSON form of a name is its canonical text between quotes. -/
theorem render_toJson (n : ChannelName) : n.toJson.render = "\"" ++ n.text ++ "\"" := by
  have hquote : Json.quote n.text = '"' :: n.text.toList ++ ['"'] :=
    Json.quote_of_plain fun _ => escapedChar_of_mem_text
  apply String.toList_injective
  simp [toJson, Json.Value.render, Json.Value.tokens, Json.Token.spelling, hquote]

theorem ofJson?_eq_some_iff {v : Json.Value} {n : ChannelName} :
    ofJson? v = some n ↔ ∃ text, v = .string (some text) ∧ parse text = .ok n := by
  constructor
  · intro h
    unfold ofJson? at h
    split at h
    · rename_i text
      refine ⟨text, rfl, ?_⟩
      cases hparse : parse text with
      | ok n' =>
        rw [hparse] at h
        cases h
        rfl
      | error e => simp [hparse, Except.toOption] at h
    · simp at h
  · rintro ⟨text, rfl, hparse⟩
    rw [ofJson?, hparse]
    rfl

/-- The JSON form of a name is read as that name. -/
theorem ofJson?_ofBytes?_toJson (n : ChannelName) :
    (Json.Value.ofBytes? (Utf8.encode n.toJson.render)).bind ofJson? = some n := by
  have hread := Json.Value.ofBytes?_encode_render (Json.Value.numberFree_string (some n.text))
  rw [toJson, hread, Option.bind_some]
  exact ofJson?_eq_some_iff.2 ⟨n.text, rfl, n.parse_text⟩

/-- A payload is read as a name if it is a JSON string whose text spells the name. -/
theorem ofBytes?_bind_ofJson?_eq_some_iff {payload : List UInt8} {n : ChannelName} :
    (Json.Value.ofBytes? payload).bind ofJson? = some n ↔
      ∃ text, Json.Spells payload [.string (some text)] ∧ parse text = .ok n := by
  simp only [Option.bind_eq_some_iff, ofJson?_eq_some_iff]
  constructor
  · rintro ⟨v, hread, text, rfl, hparse⟩
    exact ⟨text, by simpa [Json.Value.tokens] using Json.Value.ofBytes?_eq_some_iff.1 hread, hparse⟩
  · rintro ⟨text, hspells, hparse⟩
    refine ⟨.string (some text), ?_, text, rfl, hparse⟩
    rw [Json.Value.ofBytes?_eq_some_iff, Json.Value.tokens]
    exact hspells

end ChannelName

/-- The grammar of names. A text spells a name if it is the canonical text or, inside the default
namespace, the path; so names and canonical texts belong together one to one, and a name has two
spellings inside the default namespace and one outside of it. The names are the pairs of a namespace
and a path that are not empty and keep to their alphabets. Every text has parts, those at its first
colon or else the default namespace and the text, and it is no name if these have a fault: it is
refused with its parts and with their first fault. The JSON form of a name is its canonical text
between quotes, and what is read as a name is any JSON string whose text spells one. -/
theorem grammar_of_names :
    (∀ (s : String) (n : ChannelName), ChannelName.parse s = .ok n ↔
      s = n.text ∨ n.scope = "netreg" ∧ s = n.path) ∧
    (∀ n : ChannelName, ChannelName.parse n.text = .ok n) ∧
    (∀ n n' : ChannelName, n.text = n'.text ↔ n = n') ∧
    (∀ n : ChannelName, ∃ spellings : List String, spellings.Nodup ∧
      spellings.length = (if n.scope = "netreg" then 2 else 1) ∧
      ∀ s, ChannelName.parse s = .ok n ↔ s ∈ spellings) ∧
    (∀ (scope path : String) (n : ChannelName), ChannelName.make scope path = .ok n ↔
      n.scope = scope ∧ n.path = path) ∧
    (∀ scope path : String, (∃ n, ChannelName.make scope path = .ok n) ↔
      (scope ≠ "" ∧ ∀ c ∈ scope.toList, c ∈ ChannelName.scopeAlphabet) ∧
        path ≠ "" ∧ ∀ c ∈ path.toList, c ∈ ChannelName.pathAlphabet) ∧
    (∀ s : String, ∃ scope path, ChannelName.HasParts s scope path ∧
      (∀ scope' path', ChannelName.HasParts s scope' path' → scope' = scope ∧ path' = path) ∧
      ∀ e, ChannelName.parse s = .error e ↔
        e.text = scope ++ ":" ++ path ∧ e.fault.IsFirst scope path) ∧
    (∀ n : ChannelName, n.toJson.render = "\"" ++ n.text ++ "\"" ∧
      (Json.Value.ofBytes? (Utf8.encode n.toJson.render)).bind ChannelName.ofJson? = some n) ∧
    ∀ (payload : List UInt8) (n : ChannelName),
      (Json.Value.ofBytes? payload).bind ChannelName.ofJson? = some n ↔
        ∃ s, Json.Spells payload [.string (some s)] ∧ ChannelName.parse s = .ok n := by
  refine ⟨?_, ChannelName.parse_text, ?_, ?_, fun _ _ _ => ChannelName.make_eq_ok_iff,
    fun _ _ => ChannelName.exists_make_eq_ok_iff, ?_, ?_,
    fun _ _ => ChannelName.ofBytes?_bind_ofJson?_eq_some_iff⟩
  · intro s n
    rw [ChannelName.parse_eq_ok_iff, ChannelName.mem_spellings_iff]
    rfl
  · intro n n'
    constructor
    · exact ChannelName.text_injective
    · rintro rfl
      rfl
  · intro n
    refine ⟨n.spellings, n.nodup_spellings, ?_, fun s => ChannelName.parse_eq_ok_iff⟩
    unfold ChannelName.spellings defaultNamespace
    split <;> rfl
  · intro s
    obtain ⟨scope, path, hparts⟩ := ChannelName.exists_hasParts s
    refine ⟨scope, path, hparts, fun _ _ => hparts.unique, fun e => ?_⟩
    rw [hparts.parse_eq, ChannelName.make_eq_error_iff]
  · exact fun n => ⟨n.render_toJson, n.ofJson?_ofBytes?_toJson⟩

end ChannelHandshake
