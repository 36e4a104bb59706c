import ChannelHandshake.Proofs.Registry.Growth
import ChannelHandshake.Proofs.Registry.Verdict
import ChannelHandshake.Session

/-!
# What the metrics account for

A history holds what operations on registries have led to: what was returned by the attempts to
register, by the validations and by the gathers, and how each run of a gatherer ended. It accounts
for metrics that have moved by what it holds (`History.Accounts`), and histories that account for
one step after the other account for all of them. Every operation moves the metrics by what it adds
to the history and by nothing else (`accounts_perform`), so after a run the metrics can be read off
its history (`metrics_of_history`).
-/

namespace ChannelHandshake

/-! ## Histories -/

/-- The attempt found its name taken. -/
def Attempt.conflicted (a : Attempt) : Bool :=
  match a.result with
  | .error (.alreadyRegistered _) => true
  | _ => false

/-- The gatherer came to the end of its acts. -/
def GatherEnd.isDone : GatherEnd → Bool
  | .done => true
  | .failed _ | .panicked => false

/-- What operations on registries have led to, each part in the order in which it happened. -/
structure History where
  /-- The attempts to register, those of behaviours included, with the names of the registries. -/
  attempts : List (String × Attempt)
  /-- What validations returned. -/
  reports : List Report
  /-- How the runs of gatherers ended, with the channels of the gatherers. -/
  endings : List (ChannelName × GatherEnd)
  /-- What gathers returned. -/
  harvests : List (List LoginPayload)

namespace History

/-- Nothing has happened. -/
def empty : History :=
  ⟨[], [], [], []⟩

/-- One history after the other. -/
instance : Append History where
  append h h' :=
    { attempts := h.attempts ++ h'.attempts
      reports := h.reports ++ h'.reports
      endings := h.endings ++ h'.endings
      harvests := h.harvests ++ h'.harvests }

/-- What behaviours do in the registry called `name`: attempts to register and runs of gatherers. -/
def ofBehaviours (name : String) (attempts : List Attempt)
    (endings : List (ChannelName × GatherEnd)) : History :=
  ⟨attempts.map (name, ·), [], endings, []⟩

/-- How much a history adds to a series. A gauge is set, nothing is added to it. -/
def total (h : History) : Series → Nat
  | .conflicts => h.attempts.countP fun (_, a) => a.conflicted
  | .registered => 0
  | .validations side accepted =>
    h.reports.countP fun r => r.side = side && r.isAccepted = accepted
  | .rejections side channel => h.reports.countP fun r => r.side = side && channel ∈ r.rejected
  | .durations side => h.reports.countP fun r => r.side = side
  | .payloads => h.harvests.flatten.length
  | .gatherFailures channel =>
    h.endings.countP fun (c, ending) => c = channel && !ending.isDone

/-- The name of the registry that most recently accepted a registration. -/
def lastRegistry (h : History) : Option String :=
  (h.attempts.filter fun (_, a) => a.succeeded).getLast?.map Prod.fst

theorem total_empty (t : Series) : empty.total t = 0 := by
  cases t <;> rfl

theorem append_def (h h' : History) :
    h ++ h' = ⟨h.attempts ++ h'.attempts, h.reports ++ h'.reports, h.endings ++ h'.endings,
      h.harvests ++ h'.harvests⟩ := rfl

theorem total_append (h h' : History) (t : Series) :
    (h ++ h').total t = h.total t + h'.total t := by
  cases t with
  | registered => rfl
  | payloads =>
    rw [append_def, total, List.flatten_append, List.length_append]
    rfl
  | conflicts => exact List.countP_append
  | validations side accepted => exact List.countP_append
  | rejections side channel => exact List.countP_append
  | durations side => exact List.countP_append
  | gatherFailures channel => exact List.countP_append

theorem lastRegistry_append (h h' : History) :
    (h ++ h').lastRegistry = h'.lastRegistry.or h.lastRegistry := by
  rw [lastRegistry, append_def, List.filter_append, List.getLast?_append, Option.map_or]
  rfl

theorem ofBehaviours_append (name : String) (attempts attempts' : List Attempt)
    (endings endings' : List (ChannelName × GatherEnd)) :
    ofBehaviours name (attempts ++ attempts') (endings ++ endings') =
      ofBehaviours name attempts endings ++ ofBehaviours name attempts' endings' := by
  rw [ofBehaviours, List.map_append]
  rfl

/-- The metrics move from `m` to `m'` by what the history holds, while the sizes of the registries
move from `size` to `size'`. The gauge is the size of the registry that has accepted the last
registration; without a registration no size changes. -/
structure Accounts (h : History) (m m' : Metrics) (size size' : String → Nat) : Prop where
  counter : ∀ t, t ≠ .registered → m'.value t = m.value t + h.total t
  gauge : m'.value .registered = (h.lastRegistry.map size').getD (m.value .registered)
  size_eq : h.lastRegistry = none → size' = size

theorem Accounts.empty (m : Metrics) (size : String → Nat) :
    History.empty.Accounts m m size size where
  counter t _ := by rw [total_empty, Nat.add_zero]
  gauge := rfl
  size_eq _ := rfl

theorem Accounts.append {h h' : History} {m m' m'' : Metrics} {size size' size'' : String → Nat}
    (hfirst : h.Accounts m m' size size') (hrest : h'.Accounts m' m'' size' size'') :
    (h ++ h').Accounts m m'' size size'' where
  counter t ht := by
    rw [hrest.counter t ht, hfirst.counter t ht, total_append, Nat.add_assoc]
  gauge := by
    rw [hrest.gauge, lastRegistry_append]
    cases hlast : h'.lastRegistry with
    | none =>
      rw [Option.map_none, Option.getD_none, hfirst.gauge, hrest.size_eq hlast, Option.none_or]
    | some name => rfl
  size_eq hnone := by
    rw [lastRegistry_append, Option.or_eq_none_iff] at hnone
    rw [hrest.size_eq hnone.1, hfirst.size_eq hnone.2]

end History

namespace State

/-! ## Accounts of changes -/

/-- The history accounts for what happens to one registry. -/
abbrev Accounts (h : History) (s s' : State) : Prop :=
  h.Accounts s.journal.metrics s'.journal.metrics (fun _ => s.registry.size)
    fun _ => s'.registry.size

theorem Accounts.of_eq {s s' : State} (hmetrics : s'.journal.metrics = s.journal.metrics)
    (hsize : s'.registry.size = s.registry.size) : Accounts .empty s s' := by
  rw [Accounts, hmetrics, hsize]
  exact .empty _ _

/-- One registration moves the counter of conflicts or the gauge. -/
theorem accounts_register (name : String) (s : State) (r : Registration) :
    Accounts (.ofBehaviours name [⟨r, (s.register r).1⟩] []) s (s.register r).2 := by
  rw [register]
  cases hinsert : s.registry.insert? (.ofRegistration r) with
  | none =>
    refine ⟨fun t _ => (Metrics.value_add _ _ _ _).trans ?_, Metrics.value_add _ _ _ _,
      fun _ => rfl⟩
    cases t <;> rfl
  | some registry =>
    refine ⟨fun t ht => ((Metrics.value_set _ _ _ _).trans (if_neg ht)).trans ?_,
      Metrics.value_set _ _ _ _, fun hnone => ?_⟩
    · cases t <;> rfl
    · cases hnone

end State

/-- The change is a registration, or leaves the metrics as they are. -/
def Change.IsQuiet : Change → Prop
  | .note write => ∀ j, (write j).metrics = j.metrics
  | .register _ | .attach .. | .supply .. | .gather .. => True

theorem Registry.size_modify (r : Registry) (name : ChannelName) (f : Channel → Channel)
    (hf : ∀ c, (f c).name = c.name) : (r.modify name f hf).size = r.size :=
  List.length_map _

namespace State

theorem accounts_change (name : String) (s : State) {change : Change} (h : change.IsQuiet) :
    Accounts (.ofBehaviours name (s.attemptsOf change) []) s (s.change change) := by
  cases htarget : change.target? with
  | some channel =>
    have hsize : (s.change change).registry.size = s.registry.size := by
      rw [s.registry_change htarget, Registry.size_modify]
    have hmetrics : (s.change change).journal.metrics = s.journal.metrics := by
      cases change <;> cases htarget <;> rfl
    rw [s.attemptsOf_of_target? htarget]
    exact .of_eq hmetrics hsize
  | none =>
    rcases Change.of_target?_eq_none htarget with ⟨r, rfl⟩ | ⟨write, rfl⟩
    · exact s.accounts_register name r
    · exact .of_eq (h s.journal) rfl

theorem accounts_replay (name : String) (s : State) (changes : List Change)
    (h : ∀ change ∈ changes, change.IsQuiet) :
    Accounts (.ofBehaviours name (s.attempts changes) []) s (s.replay changes) := by
  induction changes generalizing s with
  | nil => exact .of_eq rfl rfl
  | cons change changes ih =>
    have hfirst := s.accounts_change name (h change List.mem_cons_self)
    have hrest := ih (s.change change) fun x hx => h x (List.mem_cons_of_mem change hx)
    have hhistory := History.ofBehaviours_append name (s.attemptsOf change)
      ((s.change change).attempts changes) [] []
    exact hhistory ▸ hfirst.append hrest

theorem attempts_append (s : State) (changes changes' : List Change) :
    s.attempts (changes ++ changes') =
      s.attempts changes ++ (s.replay changes).attempts changes' := by
  induction changes generalizing s with
  | nil => rfl
  | cons change changes ih =>
    rw [List.cons_append, attempts, attempts, ih, List.append_assoc]
    rfl

/-! ## Changes that are quiet -/

theorem isQuiet_supplyChanges {s : State} {name : ChannelName} {change : Change}
    (h : change ∈ s.supplyChanges name) : change.IsQuiet := by
  rw [supplyChanges] at h
  cases hfind : s.registry.find? name with
  | none => simp [hfind] at h
  | some c =>
    rw [hfind] at h
    rcases List.mem_cons.1 h with rfl | h
    · trivial
    · obtain ⟨r, -, rfl⟩ := List.mem_map.1 h
      trivial

theorem isQuiet_advertiseAllChanges {names : List ChannelName} {s : State} {change : Change}
    (h : change ∈ advertiseAllChanges names s) : change.IsQuiet := by
  induction names generalizing s with
  | nil => simp [advertiseAllChanges] at h
  | cons name names ih =>
    rcases List.mem_append.1 h with h | h
    · rcases List.mem_append.1 h with h | h
      · exact isQuiet_supplyChanges h
      · split at h
        · rw [List.mem_singleton.1 h]
          exact fun _ => rfl
        · simp at h
    · exact ih h

theorem isQuiet_manifestChanges {s : State} {change : Change} (h : change ∈ s.manifestChanges) :
    change.IsQuiet := by
  rcases List.mem_append.1 h with h | h
  · exact isQuiet_advertiseAllChanges h
  · rw [List.mem_singleton.1 h]
    exact fun _ => rfl

theorem isQuiet_gatherersChanges {channel : ChannelName} {index : Nat}
    {gatherers : List Attached} {s : State} {change : Change}
    (h : change ∈ gatherersChanges channel index gatherers s) : change.IsQuiet := by
  induction gatherers generalizing index s with
  | nil => simp [gatherersChanges] at h
  | cons a gatherers ih =>
    rcases List.mem_append.1 h with h | h
    · rcases List.mem_append.1 h with h | h
      · rcases List.mem_cons.1 h with rfl | h
        · trivial
        · rcases mem_actChanges h with ⟨r, rfl⟩ | ⟨g, rfl⟩ <;> trivial
      · rw [List.mem_singleton.1 h]
        exact fun _ => rfl
    · exact ih h

/-! ## Accounts of gathers -/

/-- How gatherers of a channel end, the first of them as number `index`, each of them run in the
state that the one before has left. -/
def gathererEndings (channel : ChannelName) : Nat → List Attached → State → List GatherEnd
  | _, [], _ => []
  | index, a :: rest, s =>
    (runActs a.gatherer a.acts ⟨channel, []⟩ (s.startRun channel index)).1 ::
      gathererEndings channel (index + 1) rest (runGatherer channel index a s).2

/-- How the gatherers end that a channel has now. -/
def channelEndings (s : State) (channel : ChannelName) : List (ChannelName × GatherEnd) :=
  let gatherers := ((s.registry.find? channel).map Channel.gatherers).getD []
  (gathererEndings channel 0 gatherers s).map (channel, ·)

/-- How the gatherers of several channels end, each channel in the state after the one before. -/
def channelsEndings : List ChannelName → Harvest → State → List (ChannelName × GatherEnd)
  | [], _, _ => []
  | channel :: rest, h, s =>
    s.channelEndings channel ++
      channelsEndings rest (gatherChannel channel h s).1 (gatherChannel channel h s).2

/-- A gatherer yields nothing if it does not come to the end of its acts. -/
theorem isNone_runGatherer (channel : ChannelName) (index : Nat) (a : Attached) (s : State) :
    (runGatherer channel index a s).1.isNone =
      !(runActs a.gatherer a.acts ⟨channel, []⟩ (s.startRun channel index)).1.isDone := by
  rw [runGatherer]
  generalize runActs a.gatherer a.acts _ _ = outcome
  obtain ⟨ending, sink, s'⟩ := outcome
  cases ending <;> rfl

theorem failures_runGatherers (channel : ChannelName) (index : Nat) (gatherers : List Attached)
    (h : Harvest) (s : State) :
    (runGatherers channel index gatherers h s).1.failures =
      h.failures + (gathererEndings channel index gatherers s).countP (!·.isDone) := by
  induction gatherers generalizing index h s with
  | nil => rfl
  | cons a gatherers ih =>
    have hnone := isNone_runGatherer channel index a s
    have hstep : (runGatherers channel index (a :: gatherers) h s).1 =
        (runGatherers channel (index + 1) gatherers (h.add (runGatherer channel index a s).1)
          (runGatherer channel index a s).2).1 := rfl
    rw [hstep, ih, gathererEndings, List.countP_cons, ← hnone]
    cases (runGatherer channel index a s).1 with
    | some payloads => rfl
    | none =>
      simp only [Harvest.add, Option.isNone_none, if_true]
      omega

/-- The failures of a channel are counted at once, and not at all if there is none. -/
theorem accounts_failures (name : String) (channel : ChannelName) (endings : List GatherEnd)
    (s : State) :
    let failures := endings.countP (!·.isDone)
    Accounts (.ofBehaviours name [] (endings.map (channel, ·))) s
      (s.replay
        (if failures = 0 then [] else [.note (·.count (.gatherFailures channel) failures)])) := by
  intro failures
  have htotal : ∀ t, (History.ofBehaviours name [] (endings.map (channel, ·))).total t =
      if t = .gatherFailures channel then failures else 0 := by
    intro t
    cases t with
    | gatherFailures c =>
      simp only [History.total, History.ofBehaviours, List.countP_map]
      by_cases hc : c = channel
      · simp [hc, failures, Function.comp_def]
      · simp [hc, Ne.symm hc, Function.comp_def]
    | conflicts => rfl
    | registered => rfl
    | validations side accepted => rfl
    | rejections side channel => rfl
    | durations side => rfl
    | payloads => rfl
  by_cases hfailures : failures = 0
  · refine ⟨fun t _ => ?_, ?_, fun _ => ?_⟩ <;> rw [if_pos hfailures]
    · simp [htotal t, hfailures, replay]
    · rfl
    · rfl
  · refine ⟨fun t _ => ?_, ?_, fun _ => ?_⟩ <;> rw [if_neg hfailures]
    · rw [htotal t]
      exact Metrics.value_add _ _ _ _
    · exact Metrics.value_add _ _ _ _
    · rfl

theorem accounts_gatherChannel (name : String) (channel : ChannelName) (h : Harvest) (s : State) :
    Accounts (.ofBehaviours name (s.attempts (gatherChannelChanges channel h s))
      (s.channelEndings channel)) s (gatherChannel channel h s).2 := by
  rw [← replay_gatherChannelChanges, gatherChannelChanges, channelEndings, gatherChannel]
  dsimp only
  generalize ((s.registry.find? channel).map Channel.gatherers).getD [] = gatherers
  have hfailures : (runGatherers channel 0 gatherers h s).1.failures - h.failures =
      (gathererEndings channel 0 gatherers s).countP (!·.isDone) := by
    rw [failures_runGatherers, Nat.add_sub_cancel_left]
  have hgatherers := s.accounts_replay name (gatherersChanges channel 0 gatherers s)
    fun _ => isQuiet_gatherersChanges
  have hcount := accounts_failures name channel (gathererEndings channel 0 gatherers s)
    (s.replay (gatherersChanges channel 0 gatherers s))
  have hattempts : ∀ (s : State) (failures : Nat), s.attempts (if failures = 0 then [] else
      [.note (·.count (.gatherFailures channel) failures)]) = [] := by
    intro s failures
    split <;> rfl
  rw [hfailures, replay_append, attempts_append, hattempts]
  exact History.ofBehaviours_append name _ [] [] _ ▸ hgatherers.append hcount

theorem accounts_gatherChannels (name : String) (channels : List ChannelName) (h : Harvest)
    (s : State) :
    Accounts (.ofBehaviours name (s.attempts (gatherChannelsChanges channels h s))
      (channelsEndings channels h s)) s (gatherChannels channels h s).2 := by
  induction channels generalizing h s with
  | nil => exact .of_eq rfl rfl
  | cons channel channels ih =>
    have hfirst := s.accounts_gatherChannel name channel h
    have hrest := ih (gatherChannel channel h s).1 (gatherChannel channel h s).2
    rw [gatherChannelsChanges, attempts_append, replay_gatherChannelChanges, channelsEndings,
      History.ofBehaviours_append]
    exact hfirst.append hrest

/-- The payloads of a gather are counted at its end. -/
theorem accounts_payloads (h : Harvest) (s : State) :
    Accounts { History.empty with harvests := [h.payloads] } s
      { s with
        journal := (s.journal.log [.gathered h.payloads.length h.failures]).count .payloads
          h.payloads.length } where
  counter t _ := by
    refine (Metrics.value_add _ _ _ _).trans ?_
    cases t with
    | payloads => simp [History.total, Journal.log]
    | _ => rfl
  gauge := Metrics.value_add _ _ _ _
  size_eq _ := rfl

end State

/-! ## Accounts of validations -/

namespace Report

theorem value_count_rejections {names : List ChannelName} (hnodup : names.Nodup) (side : Side)
    (j : Journal) (t : Series) :
    (names.foldl (fun j name => j.count (.rejections side name) 1) j).metrics.value t =
      j.metrics.value t + if t ∈ names.map (.rejections side) then 1 else 0 := by
  induction names generalizing j with
  | nil => rfl
  | cons name names ih =>
    obtain ⟨hnew, hrest⟩ := List.nodup_cons.1 hnodup
    rw [List.foldl_cons, ih hrest, Journal.count, Metrics.value_add, List.map_cons]
    by_cases ht : t = .rejections side name
    · simp [ht, hnew]
    · simp [ht]

/-- A report is counted once in each series that is about it. -/
theorem value_countIn {r : Report} (hnodup : r.rejected.Nodup) (j : Journal) (t : Series) :
    (r.countIn j).metrics.value t =
      j.metrics.value t + { History.empty with reports := [r] : History }.total t := by
  have hcount : (r.countIn j).metrics.value t = j.metrics.value t
      + (if t = .validations r.side r.isAccepted then 1 else 0)
      + (if t ∈ r.rejected.map (.rejections r.side) then 1 else 0)
      + if t = .durations r.side then 1 else 0 := by
    rw [countIn, Journal.count, Metrics.value_add, value_count_rejections hnodup, Journal.count,
      Metrics.value_add]
  rw [hcount]
  cases t <;> simp only [History.total, History.empty, List.countP_singleton] <;> grind

end Report

namespace State

/-! ## Accounts of operations -/

/-- How the gatherers end that an operation runs. -/
def endings (s : State) : Operation → List (ChannelName × GatherEnd)
  | .gather direction =>
    if direction = .loginToClient then channelsEndings s.registry.names ⟨[], 0⟩ s else []
  | _ => []

/-- The report that an operation returns, if it is a validation. -/
def reports (s : State) : Operation → List Report
  | .validate m side => [(s.validate m side).1]
  | _ => []

/-- The payloads that an operation returns, if it is a gather. -/
def harvests (s : State) : Operation → List (List LoginPayload)
  | .gather direction => [(s.gather direction).1]
  | _ => []

/-- What an operation on the registry called `name` leads to. The attempts are those that are made
by its changes. -/
def history (s : State) (name : String) (operation : Operation) : History where
  attempts := (s.attempts (s.changes operation)).map (name, ·)
  reports := s.reports operation
  endings := s.endings operation
  harvests := s.harvests operation

theorem accounts_validate (name : String) (s : State) (m : Manifest) (side : Side) :
    Accounts (s.history name (.validate m side)) s (s.validate m side).2 := by
  have hnodup := ChannelName.nodup_of_pairwise_lt (s.registry.pairwise_rejected m side)
  have hvalue : ∀ t, (s.validate m side).2.journal.metrics.value t =
      s.journal.metrics.value t + (s.history name (.validate m side)).total t := by
    intro t
    rw [journal_validate, Report.value_countIn hnodup, history, reports, fst_validate]
    rfl
  exact ⟨fun t _ => hvalue t, hvalue .registered, fun _ => rfl⟩

theorem accounts_gather (name : String) (s : State) (direction : Direction) :
    Accounts (s.history name (.gather direction)) s (s.gather direction).2 := by
  by_cases hdirection : direction = .loginToClient
  · subst hdirection
    let names := s.registry.names
    have hchannels := s.accounts_gatherChannels name names ⟨[], 0⟩
    have hpayloads := accounts_payloads (gatherChannels names ⟨[], 0⟩ s).1
      (gatherChannels names ⟨[], 0⟩ s).2
    have hhistory : s.history name (.gather .loginToClient) =
        .ofBehaviours name (s.attempts (gatherChannelsChanges names ⟨[], 0⟩ s))
          (channelsEndings names ⟨[], 0⟩ s) ++
        { History.empty with harvests := [(gatherChannels names ⟨[], 0⟩ s).1.payloads] } := by
      rw [history, changes, gatherChanges, if_pos rfl, attempts_append, endings, if_pos rfl,
        harvests, gather, if_pos rfl, History.append_def]
      simp [History.ofBehaviours, History.empty, attempts, attemptsOf, reports, names]
    rw [hhistory]
    exact hchannels.append hpayloads
  · have hskipped : s.gather direction =
        ([], { s with journal := s.journal.log [.gatherSkipped direction] }) := if_neg hdirection
    have hhistory : s.history name (.gather direction) =
        { History.empty with harvests := [[]] } := by
      rw [history, changes, gatherChanges, if_neg hdirection, endings, if_neg hdirection,
        harvests, hskipped]
      rfl
    rw [hhistory, hskipped]
    refine ⟨fun t _ => ?_, rfl, fun _ => rfl⟩
    cases t <;> rfl

theorem accounts_perform (name : String) (s : State) (operation : Operation) :
    Accounts (s.history name operation) s (s.perform operation) := by
  have hquiet : (∀ change ∈ s.changes operation, change.IsQuiet) →
      Accounts (.ofBehaviours name (s.attempts (s.changes operation)) []) s
        (s.perform operation) := by
    intro h
    rw [← replay_changes]
    exact s.accounts_replay name _ h
  cases operation with
  | register r => exact s.accounts_register name r
  | build b =>
    refine hquiet fun change hchange => ?_
    rw [changes] at hchange
    split at hchange
    · rw [List.mem_singleton.1 hchange]
      trivial
    · simp at hchange
  | attach channel g =>
    refine hquiet fun change hchange => ?_
    rw [List.mem_singleton.1 hchange]
    trivial
  | supply channel => exact hquiet fun _ => isQuiet_supplyChanges
  | test channel side version =>
    have htest : (s.test channel side version).2.journal.metrics = s.journal.metrics ∧
        (s.test channel side version).2.registry = s.registry := by
      rw [test]
      split <;> exact ⟨rfl, rfl⟩
    exact .of_eq htest.1 (congrArg Registry.size htest.2)
  | manifest => exact hquiet fun _ => isQuiet_manifestChanges
  | frame sender => exact hquiet fun _ => isQuiet_manifestChanges
  | validate m side => exact s.accounts_validate name m side
  | gather direction => exact s.accounts_gather name direction

/-- What one registry accepts, it accepts under its own name. -/
theorem lastRegistry_history (s : State) (name : String) (operation : Operation) :
    (s.history name operation).lastRegistry = none ∨
      (s.history name operation).lastRegistry = some name := by
  rw [History.lastRegistry]
  cases hlast : ((s.history name operation).attempts.filter fun (_, a) => a.succeeded).getLast? with
  | none => exact .inl rfl
  | some last =>
    obtain ⟨a, -, rfl⟩ := List.mem_map.1 (List.mem_filter.1 (List.mem_of_getLast? hlast)).1
    exact .inr rfl

end State

/-! ## Accounts of runs -/

namespace Session

/-- The size of the registry called `name`. -/
def size (s : Session) (name : String) : Nat :=
  (s.state name).registry.size

theorem state_withState_self (s : Session) (name : String) (state : State) :
    (s.withState name state).state name = state := by
  rw [Session.state, withState, List.lookup_cons_self]
  rfl

theorem size_withState_of_ne (s : Session) (state : State) {name other : String}
    (h : other ≠ name) : (s.withState name state).size other = s.size other := by
  have hlookup : (s.withState name state).registries.lookup other =
      s.registries.lookup other := by
    rw [withState, List.lookup_cons, beq_false_of_ne h]
    dsimp only
    induction s.registries with
    | nil => rfl
    | cons p rest ih =>
      by_cases hp : p.1 = name
      · have hne : (other == p.1) = false := beq_false_of_ne (hp ▸ h)
        rw [List.filter_cons_of_neg (by simpa using hp), ih, List.lookup_cons, hne]
      · rw [List.filter_cons_of_pos (by simpa using hp), List.lookup_cons, List.lookup_cons, ih]
  rw [size, size, Session.state, Session.state, hlookup]

/-- What a run leads to, each operation in the session that the one before has left. -/
def history : Session → List (String × Operation) → History
  | _, [] => .empty
  | s, (name, operation) :: rest =>
    (s.state name).history name operation ++ (s.perform name operation).history rest

theorem accounts_perform (s : Session) (name : String) (operation : Operation) :
    ((s.state name).history name operation).Accounts s.journal.metrics
      (s.perform name operation).journal.metrics s.size (s.perform name operation).size := by
  have hstate := (s.state name).accounts_perform name operation
  have hself : (s.perform name operation).size name =
      ((s.state name).perform operation).registry.size := by
    rw [size, perform, state_withState_self]
  refine ⟨hstate.counter, hstate.gauge.trans ?_, fun hnone => funext fun other => ?_⟩
  · rcases State.lastRegistry_history (s.state name) name operation with hlast | hlast
    · rw [hlast]
      rfl
    · rw [hlast, Option.map_some, Option.map_some, hself]
      rfl
  · by_cases hother : other = name
    · rw [hother, hself]
      exact congrFun (hstate.size_eq hnone) name
    · exact s.size_withState_of_ne _ hother

theorem accounts_run (s : Session) (operations : List (String × Operation)) :
    (s.history operations).Accounts s.journal.metrics (s.run operations).journal.metrics s.size
      (s.run operations).size := by
  induction operations generalizing s with
  | nil => exact .empty _ _
  | cons named operations ih =>
    obtain ⟨name, operation⟩ := named
    exact (s.accounts_perform name operation).append (ih (s.perform name operation))

end Session

/-- The metrics account for what has happened. After a run of operations on any number of
registries the counter of conflicts is the number of attempts to register that found their name
taken, those of builders and of behaviours included; the gauge is the size of the registry that most
recently accepted a registration; validations are counted by side and outcome, and in the series of
a channel if it is among the rejected ones; the payloads are all those that gathers returned; and
failures of a channel's gatherers are the runs of them that failed or panicked. -/
theorem metrics_of_history (operations : List (String × Operation)) :
    let s := Session.empty.run operations
    let h := Session.empty.history operations
    let value := s.journal.metrics.value
    value .conflicts = (h.attempts.countP fun (_, a) => a.conflicted) ∧
    value .registered =
      (match (h.attempts.filter fun (_, a) => a.succeeded).getLast? with
      | some (name, _) => (s.state name).registry.size
      | none => 0) ∧
    (∀ side accepted, value (.validations side accepted) =
      h.reports.countP fun r => r.side = side ∧ r.isAccepted = accepted) ∧
    (∀ side channel, value (.rejections side channel) =
      h.reports.countP fun r => r.side = side ∧ channel ∈ r.rejected) ∧
    value .payloads = h.harvests.flatten.length ∧
    ∀ channel, value (.gatherFailures channel) =
      h.endings.countP fun (c, ending) => c = channel ∧ ending.isDone = false := by
  intro s h value
  have haccounts := Session.empty.accounts_run operations
  have hcounter : ∀ t, t ≠ .registered → value t = h.total t := fun t ht =>
    (haccounts.counter t ht).trans (Nat.zero_add _)
  refine ⟨hcounter .conflicts nofun, haccounts.gauge.trans ?_, fun side accepted => ?_,
    fun side channel => ?_, hcounter .payloads nofun, fun channel => ?_⟩
  · rw [History.lastRegistry]
    cases (h.attempts.filter fun (_, a) => a.succeeded).getLast? <;> rfl
  · simp [hcounter (.validations side accepted) nofun, History.total]
  · simp [hcounter (.rejections side channel) nofun, History.total]
  · simp [hcounter (.gatherFailures channel) nofun, History.total]

/-- A gatherer whose registration finds its own name taken, and that panics then; the next time it
delivers a payload. -/
example :
    let core : ChannelName := ⟨"netreg", "core", by decide, by decide, by decide, by decide⟩
    let gatherer : Gatherer := ⟨fun
      | 0 => [.register (.accepting core "2"), .panic]
      | _ => [.push fun sink => ⟨sink.channel, [], "x"⟩]⟩
    let r : Registration := { Registration.accepting core "1" with gatherers := [gatherer] }
    let m := (Session.empty.run [("a", .register r), ("a", .gather .loginToClient),
      ("a", .gather .loginToClient)]).journal.metrics
    m.value .conflicts = 1 ∧ m.value .registered = 1 ∧ m.value (.gatherFailures core) = 1 ∧
      m.value .payloads = 1 := by
  decide

end ChannelHandshake
