import ActionServer.Action.Loading
import ActionServer.Proofs.Action.Construction
import Mathlib.Data.List.Induction

/-!
# Invocations queue for the load

Of the turns in a schedule only the first one that ends the load of an action has a part in what its
invocations get; the turns of other actions, and the order in which invocations come and look, have
none. `Steady` is the invariant that ties load states, tasks and invocations to these first turns.
-/

namespace ActionServer

/-- How a turn ends the load of an action, if it does. -/
def Turn.outcome? (name : String) : Turn → Option LoadOutcome
  | send n result => if n = name then some (.ofResult result) else none
  | leave n => if n = name then some .died else none
  | arrive _ _ | resume _ | run _ => none

/-- How the load of an action has ended in a schedule: by the first turn that ends it. -/
def loadOf (name : String) (schedule : List Turn) : Option LoadOutcome :=
  schedule.findSome? (Turn.outcome? name)

/-- What a load decides for every invocation: the executable to run, or why there is none. -/
def LoadOutcome.verdict : LoadOutcome → Except LoadError Executable
  | ready executable => .ok executable
  | refused cause => .error cause
  | died => .error loadEnded

theorem loadOf_append (name : String) (schedule more : List Turn) :
    loadOf name (schedule ++ more) = (loadOf name schedule).or (loadOf name more) :=
  List.findSome?_append

theorem loadOf_concat (name : String) (schedule : List Turn) (turn : Turn) :
    loadOf name (schedule ++ [turn]) = (loadOf name schedule).or (turn.outcome? name) := by
  rw [loadOf_append]
  cases ends : turn.outcome? name <;> simp [loadOf, ends]

/-- A turn that does not end a load, or comes too late to do so, has no part in it. -/
theorem loadOf_concat_of_idle {name : String} {schedule : List Turn} {turn : Turn}
    (idle : loadOf name schedule = none → turn.outcome? name = none) :
    loadOf name (schedule ++ [turn]) = loadOf name schedule := by
  rw [loadOf_concat]
  cases loaded : loadOf name schedule with
  | none => rw [idle loaded, Option.or_none]
  | some o => rw [Option.some_or]

/-- What has been decided stays decided. -/
theorem loadOf_append_of_some {name : String} {schedule : List Turn} {o : LoadOutcome}
    (loaded : loadOf name schedule = some o) (more : List Turn) :
    loadOf name (schedule ++ more) = some o := by
  rw [loadOf_append, loaded, Option.some_or]

/-- The load state that a schedule leaves. -/
def LoadState.afterLoad (name : String) (schedule : List Turn) : LoadState :=
  ((loadOf name schedule).map ofOutcome).getD pending

theorem LoadState.afterLoad_congr {name : String} {schedule other : List Turn}
    (same : loadOf name schedule = loadOf name other) :
    afterLoad name schedule = afterLoad name other := by
  rw [afterLoad, same, ← afterLoad]

/-! ### Waiting -/

/-- Waiting for the executable gives what the action says, as soon as its load is over. -/
theorem Action.awaitExecutable_eq (watch : Watch) (a : Action) (task : LoadTask) :
    a.awaitExecutable watch task =
      if a.state.isSettled = false ∧ task ≠ .gone then none else some a.executable := by
  cases state : a.state with
  | pending =>
    have unsettled : LoadState.pending.isSettled = false := rfl
    by_cases there : task = .gone
    · subst there
      simp [awaitExecutable, executable, state, unsettled, watch.closes unsettled]
    · have present : (task != .gone) = true := by simpa using there
      simp [awaitExecutable, state, present, there, unsettled, watch.blocks unsettled]
  | ready e =>
    have settled : (LoadState.ready e).isSettled = true := rfl
    simp [awaitExecutable, executable, state, settled, watch.yields _ settled]
  | failed cause =>
    have settled : (LoadState.failed cause).isSettled = true := rfl
    simp [awaitExecutable, executable, state, settled, watch.yields _ settled]

/-! ### The registry while its loads end -/

namespace Registry

theorem setState_withStates (g : Registry) (state : Action → LoadState) (name : String)
    (other : LoadState) :
    (g.withStates state).setState name other =
      g.withStates fun a => if a.name = name then other else state a := by
  simp only [setState, withStates, List.map_map]
  congr 2
  funext a
  simp only [Function.comp_apply]
  split <;> rfl

/-- The states of a registry that has not begun to load. -/
theorem withStates_pending {g : Registry} (fresh : ∀ a ∈ g.actions, a.state = .pending) :
    g.withStates (fun _ => .pending) = g := by
  have same : g.actions.map (fun a => { a with state := LoadState.pending }) = g.actions := by
    refine (List.map_congr_left fun a member => ?_).trans (List.map_id _)
    rw [id_eq, ← fresh a member]
  rw [withStates, same]

end Registry

namespace Dispatcher

/-- A dispatcher whose loads have ended as in a schedule. -/
def afterLoads (d : Dispatcher) (schedule : List Turn) : Dispatcher :=
  { d with registry := d.registry.withStates fun a => .afterLoad a.name schedule }

theorem afterLoads_congr (d : Dispatcher) {schedule other : List Turn}
    (same : ∀ name, loadOf name schedule = loadOf name other) :
    d.afterLoads schedule = d.afterLoads other := by
  simp only [afterLoads, LoadState.afterLoad_congr (same _)]

theorem get?_afterLoads (d : Dispatcher) (schedule : List Turn) (name : String) :
    (d.afterLoads schedule).registry.get? name =
      (d.registry.get? name).map fun a => { a with state := .afterLoad name schedule } := by
  rw [afterLoads, Registry.get?_withStates]
  cases found : d.registry.get? name with
  | none => rfl
  | some a =>
    obtain rfl : a.name = name := by simpa using List.find?_some found
    rfl

/-- Who is admitted has nothing to do with the loads. -/
theorem entry_afterLoads (d : Dispatcher) (schedule : List Turn) (name : String)
    (r : ActionRequest) : (d.afterLoads schedule).entry name r = d.entry name r := by
  simp only [entry, get?_afterLoads]
  cases d.registry.get? name <;> rfl

/-- Nor has what an executable does. -/
theorem execute_afterLoads (d : Dispatcher) (schedule : List Turn) (a : Action)
    (executable : Executable) (r : ActionRequest) (w : World) :
    (d.afterLoads schedule).execute a executable r w = d.execute a executable r w :=
  rfl

end Dispatcher

namespace Traffic

section

variable (watch : Watch) (d : Dispatcher) (w : World) (schedule : List Turn)

/-- What can have become of an invocation, from the first turn of the schedule to the last. Once it
is admitted, all that it can get follows from the load of its action, and what it runs it has run in
a turn of its own. -/
inductive Served (number : Nat) (name : String) (r : ActionRequest) : Stage → Prop
  | taken : Served number name r (d.entry name r)
  | granted {o : LoadOutcome} {executable : Executable} (admitted : d.entry name r = .waiting)
      (loaded : loadOf name schedule = some o) (ready : o.verdict = .ok executable) :
      Served number name r (.granted executable)
  | refused {o : LoadOutcome} {cause : LoadError} (admitted : d.entry name r = .waiting)
      (loaded : loadOf name schedule = some o) (failed : o.verdict = .error cause) :
      Served number name r (.ended (.error (.load name cause)))
  | ran {o : LoadOutcome} {executable : Executable} {a : Action} {before later : List Turn}
      (admitted : d.entry name r = .waiting) (loaded : loadOf name schedule = some o)
      (ready : o.verdict = .ok executable) (turn : schedule = before ++ .run number :: later)
      (about : ((start d w).after watch before).granted? number = some (a, r, executable)) :
      Served number name r
        (.ended (d.execute a executable r ((start d w).after watch before).world).1)

/-- What holds of a dispatcher at work after a schedule. -/
structure Steady (now : Traffic) : Prop where
  dispatcher : now.dispatcher = d.afterLoads schedule
  loading : ∀ name, now.task name = .loading ↔ loadOf name schedule = none
  gone : ∀ name, loadOf name schedule = some .died → now.task name = .gone
  served : ∀ number v, now.visits[number]? = some v →
    Served watch d w schedule number v.name v.request v.stage

end

variable {watch : Watch} {d : Dispatcher} {w : World} {schedule : List Turn}

/-- A longer schedule takes nothing back. -/
theorem Served.mono {number : Nat} {name : String} {r : ActionRequest} {stage : Stage}
    (now : Served watch d w schedule number name r stage) (more : List Turn) :
    Served watch d w (schedule ++ more) number name r stage := by
  cases now with
  | taken => exact .taken
  | granted admitted loaded ready => exact .granted admitted (loadOf_append_of_some loaded more) ready
  | refused admitted loaded failed => exact .refused admitted (loadOf_append_of_some loaded more) failed
  | @ran _ _ _ before later admitted loaded ready turn about =>
    have longer : schedule ++ more = before ++ .run number :: (later ++ more) := by
      rw [turn, List.append_assoc, List.cons_append]
    exact .ran admitted (loadOf_append_of_some loaded more) ready longer about

/-- Whoever waits has been admitted. -/
theorem Served.of_waiting {number : Nat} {name : String} {r : ActionRequest}
    {stage : Stage} (now : Served watch d w schedule number name r stage)
    (waits : stage = .waiting) : d.entry name r = .waiting := by
  cases now with
  | taken => exact waits
  | granted | refused | ran => cases waits

/-- Whoever has got an executable has got the one that the load has given. -/
theorem Served.of_granted {number : Nat} {name : String} {r : ActionRequest}
    {stage : Stage} {executable : Executable}
    (now : Served watch d w schedule number name r stage) (got : stage = .granted executable) :
    d.entry name r = .waiting ∧
      ∃ o, loadOf name schedule = some o ∧ o.verdict = .ok executable := by
  cases now with
  | taken =>
    rw [Dispatcher.entry] at got
    split at got
    · cases got
    · split at got <;> cases got
  | granted admitted loaded ready =>
    cases got
    exact ⟨admitted, _, loaded, ready⟩
  | refused | ran => cases got

theorem granted?_eq_some {t : Traffic} {number : Nat} {a : Action} {r : ActionRequest}
    {executable : Executable} (about : t.granted? number = some (a, r, executable)) :
    ∃ name, t.visits[number]? = some ⟨name, r, .granted executable⟩ ∧
      t.dispatcher.registry.get? name = some a := by
  simp only [granted?] at about
  split at about
  · rename_i name request e found
    obtain ⟨b, known, same⟩ := Option.map_eq_some_iff.mp about
    cases same
    exact ⟨name, found, known⟩
  · cases about

namespace Steady

variable {now : Traffic}

/-- An invocation that waits is told what the load of its action decides, once it is over. -/
theorem awaitExecutable (steady : Steady watch d w schedule now) {name : String} {a : Action}
    (found : now.dispatcher.registry.get? name = some a) :
    a.awaitExecutable watch (now.task name) = (loadOf name schedule).map LoadOutcome.verdict := by
  rw [steady.dispatcher, Dispatcher.get?_afterLoads] at found
  obtain ⟨b, -, rfl⟩ := Option.map_eq_some_iff.mp found
  rw [Action.awaitExecutable_eq]
  cases loaded : loadOf name schedule with
  | none =>
    have task := (steady.loading name).mpr loaded
    simp [LoadState.afterLoad, loaded, LoadState.isSettled, task]
  | some o =>
    cases o with
    | ready | refused =>
      simp [LoadState.afterLoad, loaded, LoadState.ofOutcome, LoadState.isSettled, Action.executable,
        LoadOutcome.verdict]
    | died =>
      simp [LoadState.afterLoad, loaded, LoadState.ofOutcome, Action.executable, LoadOutcome.verdict,
        steady.gone name loaded]

/-- A turn that ends no load leaves registry and tasks as they are. -/
private theorem idle {next : Traffic} {turn : Turn} (steady : Steady watch d w schedule now)
    (same : ∀ name, loadOf name (schedule ++ [turn]) = loadOf name schedule)
    (dispatcher : next.dispatcher = now.dispatcher) (task : next.task = now.task)
    (served : ∀ number v, next.visits[number]? = some v →
      Served watch d w (schedule ++ [turn]) number v.name v.request v.stage) :
    Steady watch d w (schedule ++ [turn]) next where
  dispatcher := by rw [dispatcher, steady.dispatcher, d.afterLoads_congr same]
  loading name := by rw [task, same, steady.loading]
  gone name died := by
    rw [task]
    exact steady.gone name (same name ▸ died)
  served := served

/-- A turn of one invocation leaves the others where they are. -/
private theorem served_modify (steady : Steady watch d w schedule now) {turn : Turn} {number : Nat}
    {change : Visit → Visit}
    (own : ∀ v, now.visits[number]? = some v →
      Served watch d w (schedule ++ [turn]) number v.name v.request v.stage →
      Served watch d w (schedule ++ [turn]) number (change v).name (change v).request
        (change v).stage)
    {i : Nat} {v : Visit} (found : (now.visits.modify number change)[i]? = some v) :
    Served watch d w (schedule ++ [turn]) i v.name v.request v.stage := by
  rw [List.getElem?_modify] at found
  obtain ⟨u, there, rfl⟩ := Option.map_eq_some_iff.mp found
  have kept := (steady.served i u there).mono [turn]
  by_cases turned : number = i
  · subst turned
    rw [if_pos rfl]
    exact own u there kept
  · rw [if_neg turned]
    exact kept

private theorem send (steady : Steady watch d w schedule now) (name : String)
    (result : Except LoadError Executable) :
    Steady watch d w (schedule ++ [.send name result]) (now.step watch (.send name result)) := by
  have kept : ∀ number v, now.visits[number]? = some v →
      Served watch d w (schedule ++ [.send name result]) number v.name v.request v.stage :=
    fun number v found => (steady.served number v found).mono _
  have others : ∀ n, n ≠ name → (Turn.send name result).outcome? n = none := fun n other =>
    if_neg (Ne.symm other)
  by_cases loading : now.task name = .loading
  · -- This turn is the first to end the load: the registry, the task and `loadOf` change together.
    have first := (steady.loading name).mp loading
    have own : loadOf name (schedule ++ [.send name result]) = some (.ofResult result) := by
      rw [loadOf_concat, first, Option.none_or, Turn.outcome?, if_pos rfl]
    simp only [Traffic.step, if_pos loading]
    refine ⟨?_, fun n => ?_, fun n died => ?_, kept⟩
    · simp only [steady.dispatcher, Dispatcher.afterLoads, Registry.setState_withStates]
      congr 2
      funext a
      split
      · rename_i same
        rw [same, LoadState.afterLoad, own]
        rfl
      · rename_i other
        exact .symm (LoadState.afterLoad_congr (loadOf_concat_of_idle fun _ => others a.name other))
    · dsimp only
      split
      · rename_i same
        simp [same, own]
      · rename_i other
        rw [loadOf_concat_of_idle fun _ => others n other, steady.loading]
    · dsimp only
      split
      · rename_i same
        rw [same, own] at died
        cases result <;> cases died
      · rename_i other
        rw [loadOf_concat_of_idle fun _ => others n other] at died
        exact steady.gone n died
  · -- The task has sent before, or it has gone.
    simp only [Traffic.step, if_neg loading]
    refine steady.idle (fun n => loadOf_concat_of_idle fun none => others n ?_) rfl rfl kept
    rintro rfl
    exact loading ((steady.loading n).mpr none)

private theorem leave (steady : Steady watch d w schedule now) (name : String) :
    Steady watch d w (schedule ++ [.leave name]) (now.step watch (.leave name)) := by
  have others : ∀ n, n ≠ name → loadOf n (schedule ++ [.leave name]) = loadOf n schedule :=
    fun n other => loadOf_concat_of_idle fun _ => if_neg (Ne.symm other)
  have own : loadOf name (schedule ++ [.leave name]) = (loadOf name schedule).or (some .died) := by
    rw [loadOf_concat, Turn.outcome?, if_pos rfl]
  refine ⟨?_, fun n => ?_, fun n died => ?_, fun number v found =>
    (steady.served number v found).mono _⟩
  · -- A task that dies leaves the load state as it is: `pending` stands for both.
    simp only [Traffic.step, steady.dispatcher, Dispatcher.afterLoads]
    congr 2
    funext a
    by_cases same : a.name = name
    · rw [same, LoadState.afterLoad, LoadState.afterLoad, own]
      cases loadOf name schedule <;> rfl
    · exact .symm (LoadState.afterLoad_congr (others a.name same))
  · simp only [Traffic.step]
    split
    · rename_i same
      rw [same, own]
      cases loadOf name schedule <;> simp
    · rename_i other
      rw [others n other, steady.loading]
  · simp only [Traffic.step]
    split
    · rfl
    · rename_i other
      exact steady.gone n (others n other ▸ died)

private theorem arrive (steady : Steady watch d w schedule now) (name : String)
    (r : ActionRequest) :
    Steady watch d w (schedule ++ [.arrive name r]) (now.step watch (.arrive name r)) := by
  refine steady.idle (fun n => loadOf_concat_of_idle fun _ => rfl) rfl rfl fun number v found => ?_
  simp only [Traffic.step] at found
  rcases Nat.lt_or_ge number now.visits.length with old | new
  · rw [List.getElem?_append_left old] at found
    exact (steady.served number v found).mono _
  · rw [List.getElem?_append_right new] at found
    obtain rfl := List.mem_singleton.mp (List.mem_of_getElem? found)
    rw [steady.dispatcher, Dispatcher.entry_afterLoads]
    exact .taken

private theorem resume (steady : Steady watch d w schedule now) (number : Nat) :
    Steady watch d w (schedule ++ [.resume number]) (now.step watch (.resume number)) := by
  have same : ∀ name, loadOf name (schedule ++ [.resume number]) = loadOf name schedule :=
    fun name => loadOf_concat_of_idle fun _ => rfl
  refine steady.idle same rfl rfl fun _ _ => steady.served_modify fun u _ kept => ?_
  simp only [Traffic.resume]
  split
  · rename_i waits
    have admitted := kept.of_waiting waits
    split
    · exact kept
    · rename_i a known
      rw [steady.awaitExecutable known]
      split
      · exact kept
      · rename_i told
        obtain ⟨o, loaded, ready⟩ := Option.map_eq_some_iff.mp told
        exact .granted admitted ((same _).trans loaded) ready
      · rename_i told
        obtain ⟨o, loaded, failed⟩ := Option.map_eq_some_iff.mp told
        exact .refused admitted ((same _).trans loaded) failed
  · exact kept

private theorem run (steady : Steady watch d w schedule now)
    (reached : now = (start d w).after watch schedule) (number : Nat) :
    Steady watch d w (schedule ++ [.run number]) (now.step watch (.run number)) := by
  have same : ∀ name, loadOf name (schedule ++ [.run number]) = loadOf name schedule :=
    fun name => loadOf_concat_of_idle fun _ => rfl
  simp only [Traffic.step]
  split
  · exact steady.idle same rfl rfl fun i v found => (steady.served i v found).mono _
  · rename_i a r executable about
    refine steady.idle same rfl rfl fun _ _ => steady.served_modify fun u there kept => ?_
    obtain ⟨name, place, -⟩ := granted?_eq_some about
    obtain rfl := Option.some.inj (there.symm.trans place)
    obtain ⟨admitted, o, loaded, ready⟩ := kept.of_granted rfl
    -- The turn is remembered with the schedule before it, which is where the world comes from.
    rw [reached] at about
    rw [steady.dispatcher, Dispatcher.execute_afterLoads, reached]
    exact .ran admitted loaded ready rfl about

/-- The step: any turn keeps the invariant. -/
theorem step (steady : Steady watch d w schedule now)
    (reached : now = (start d w).after watch schedule) (turn : Turn) :
    Steady watch d w (schedule ++ [turn]) (now.step watch turn) := by
  cases turn with
  | send name result => exact steady.send name result
  | leave name => exact steady.leave name
  | arrive name r => exact steady.arrive name r
  | resume number => exact steady.resume number
  | run number => exact steady.run reached number

end Steady

theorem after_concat (watch : Watch) (t : Traffic) (schedule : List Turn) (turn : Turn) :
    t.after watch (schedule ++ [turn]) = (t.after watch schedule).step watch turn :=
  List.foldl_append

/-- The run: so it is after every schedule. The induction takes the last turn away, since `loadOf`
and `Served` look back from the end. -/
theorem steady_after (watch : Watch) (w : World)
    (fresh : ∀ a ∈ d.registry.actions, a.state = .pending) (schedule : List Turn) :
    Steady watch d w schedule ((start d w).after watch schedule) := by
  induction schedule using List.reverseRecOn with
  | nil =>
    have unloaded : d.afterLoads [] = d := by
      have pending : d.registry.withStates (fun a => .afterLoad a.name []) = d.registry :=
        Registry.withStates_pending fresh
      rw [Dispatcher.afterLoads, pending]
    exact ⟨unloaded.symm, fun _ => ⟨fun _ => rfl, fun _ => rfl⟩, nofun, nofun⟩
  | append_singleton schedule turn ih =>
    rw [after_concat]
    exact ih.step rfl turn

/-! ### What follows at every point of a schedule -/

namespace Steady

variable {now : Traffic}

end Steady

private theorem modify_concat {α : Type} (l : List α) (x : α) (f : α → α) :
    (l ++ [x]).modify l.length f = l ++ [f x] := by
  rw [List.modify_eq_take_drop, List.take_left, List.drop_left]
  rfl

/-- Where every load has ended as a loader ends it, the registry is the settled one. -/
theorem dispatcher_after_settled {loader : Loader}
    (fresh : ∀ a ∈ d.registry.actions, a.state = .pending)
    (loaded : ∀ a ∈ d.registry.actions, loadOf a.name schedule = some (loader.load a.scriptPath)) :
    ((start d w).after watch schedule).dispatcher =
      { d with registry := d.registry.settle loader } := by
  have states : d.registry.actions.map (fun a => { a with state := .afterLoad a.name schedule }) =
      d.registry.actions.map fun a => { a with state := .ofOutcome (loader.load a.scriptPath) } :=
    List.map_congr_left fun a member => by
      rw [LoadState.afterLoad, loaded a member, Option.map_some, Option.getD_some]
  rw [(steady_after watch w fresh schedule).dispatcher, Dispatcher.afterLoads, Registry.withStates,
    states]
  rfl

/-- An invocation that nobody comes between, after its load, is answered as the dispatcher says. -/
theorem after_arrive_resume_run {t : Traffic} {name : String} (r : ActionRequest)
    (settled : ∀ a, t.dispatcher.registry.get? name = some a →
      a.state.isSettled = true ∨ t.task name = .gone) :
    let done := t.after watch [.arrive name r, .resume t.visits.length, .run t.visits.length]
    done.visits = t.visits ++ [⟨name, r, .ended (t.dispatcher.invoke name r t.world).1⟩] ∧
      done.world = (t.dispatcher.invoke name r t.world).2 := by
  simp only [after, List.foldl_cons, List.foldl_nil]
  cases known : t.dispatcher.registry.get? name with
  | none => simp [step, Dispatcher.entry, Dispatcher.invoke, known, modify_concat, resume, granted?]
  | some a =>
    cases barred : a.internal && !r.internal with
    | true =>
      simp [step, Dispatcher.entry, Dispatcher.invoke, known, barred, modify_concat, resume, granted?]
    | false =>
      have told : a.awaitExecutable watch (t.task name) = some a.executable := by
        rw [Action.awaitExecutable_eq, if_neg]
        rintro ⟨unsettled, there⟩
        exact (settled a known).elim (by simp [unsettled]) there
      cases answer : a.executable <;>
        simp [step, Dispatcher.entry, Dispatcher.invoke, known, barred, modify_concat, resume, told,
          answer, granted?]

/-! ### Every invocation -/

end Traffic

end ActionServer
