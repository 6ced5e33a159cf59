import ArkClaw.Autostart.AutostartRuns
import ArkClaw.Presentation.RuntimeShutdown

/-!
# The running thread

While nobody requests a shutdown and no exception ends it, the thread accepts what is submitted and executes it in
order. For a command of the autostart setting it publishes one snapshot of the service, or none if the command's record
fails.
-/

namespace ArkClaw.Presentation.Runtime

open ArkClaw.Library ArkClaw.Autostart

def RuntimeThreadCommand.isAutostart (c : RuntimeThreadCommand) : Bool :=
  c.type = .requestAutostart || c.type = .setAutostart

/-- A relay that is not about the autostart setting. -/
def Signal.Plain : Signal → Prop
  | .runtimeEvent _ | .snapshot _ | .providerSettings _ _ => True
  | _ => False

theorem Signal.Plain.result {signal : Signal} (h : signal.Plain) : signal.result = none := by
  cases signal <;> first | rfl | exact h.elim

/-- The published snapshot, if there is one. -/
def publication (c : RuntimeThreadCommand) (shown : Option AutostartSnapshot) : List Signal :=
  shown.toList.map fun snapshot => .autostartState c.commandId (.autostart snapshot)

namespace RuntimeThread

variable {t u : RuntimeThread} {c : RuntimeThreadCommand} {a : Answer}

/-- The commands accepted and not executed yet. -/
def waiting (t : RuntimeThread) : List RuntimeThreadCommand := t.stage.command.toList ++ t.queue

/-- The thread executes what it has accepted, and accepts more. -/
structure Running (t : RuntimeThread) : Prop where
  loop : t.hasLoop = true
  ready : t.ready = true
  accepting : t.acceptingSubmissions = true
  closing : t.closing = false
  stage : t.stage = .waiting ∨ ∃ c, t.stage = .executing c false
  waiting : ∀ c ∈ t.waiting, c.type ≠ .shutdown

theorem Running.of_same (h : t.Running) (hloop : u.hasLoop = t.hasLoop) (hready : u.ready = t.ready)
    (haccepting : u.acceptingSubmissions = t.acceptingSubmissions) (hclosing : u.closing = t.closing)
    (hstage : u.stage = .waiting ∨ ∃ c, u.stage = .executing c false) (hwaiting : u.waiting ⊆ t.waiting) :
    u.Running :=
  ⟨hloop.trans h.loop, hready.trans h.ready, haccepting.trans h.accepting, hclosing.trans h.closing, hstage,
    fun c hc => h.waiting c (hwaiting hc)⟩

/-- A running thread accepts what is submitted. -/
theorem Running.submit (h : t.Running) (c : RuntimeThreadCommand) :
    t.submit c = (true, { t with queue := t.queue ++ [c], accepted := t.accepted ++ [c] }) := by
  unfold RuntimeThread.submit
  simp [h.loop, h.ready, h.accepting, h.closing]

theorem Running.submitted (h : t.Running) (htype : c.type ≠ .shutdown) :
    (t.submit c).2.Running ∧ (t.submit c).2.waiting = t.waiting ++ [c] := by
  rw [h.submit]
  have hwaiting : RuntimeThread.waiting { t with queue := t.queue ++ [c], accepted := t.accepted ++ [c] } = t.waiting ++ [c] :=
    (List.append_assoc _ _ _).symm
  refine ⟨⟨h.loop, h.ready, h.accepting, h.closing, h.stage, fun d hd => ?_⟩, hwaiting⟩
  rw [hwaiting] at hd
  rcases List.mem_append.mp hd with hold | hnew
  · exact h.waiting d hold
  · rw [List.mem_singleton.mp hnew]
    exact htype

/-- What a command of a running thread comes to: what it publishes, and the service after it. -/
structure Serves (service : AutostartService) (c : RuntimeThreadCommand) (h : Handling)
    (shown : Option AutostartSnapshot) (after : AutostartService) : Prop where
  silent : shown = none → after = service ∧ (c.type = .setAutostart → h.records .runtimeCommandAccepted = false)
  shows : ∀ snapshot, shown = some snapshot → c.isAutostart = true ∧
    ((c.type = .setAutostart → service.Recorded h.io) → snapshot = after.snapshot)

/-- The thread relays what the command reports, and publishes a snapshot or none. -/
def Executes (t : RuntimeThread) (c : RuntimeThreadCommand) (h : Handling) : Prop :=
  ∃ relayed shown after result, (∀ signal ∈ relayed, signal.Plain) ∧ Serves t.autostartService c h shown after ∧
    t.executeCommandSafely c h
      = ({ t with signals := t.signals ++ (relayed ++ publication c shown), autostartService := after }, .ok result)

section

variable {h : Handling}

theorem executes_nothing {ended : Except HandlerError RuntimeCommandResult}
    (hrefused : c.type = .setAutostart → h.records .runtimeCommandAccepted = false)
    (hended : ∃ result, safely ended = .ok result) (heq : t.executeCommand c h = (t, ended)) : Executes t c h := by
  obtain ⟨result, hresult⟩ := hended
  refine ⟨[], none, t.autostartService, result, fun _ hmem => (by cases hmem), ⟨fun _ => ⟨rfl, hrefused⟩, nofun⟩, ?_⟩
  unfold executeCommandSafely
  rw [heq]
  simp [publication, hresult]

/-- The call of the controller or of the settings does not end the thread. -/
theorem safely_call (hescapes : ∀ raised, h.call ≠ .error (.escapes raised)) : ∃ result, safely h.call = .ok result := by
  cases hcall : h.call with
  | ok result => exact ⟨result, rfl⟩
  | error e =>
    cases e with
    | escapes raised => exact absurd hcall (hescapes raised)
    | _ => exact ⟨_, rfl⟩

theorem executes_settings (hescapes : ∀ raised, h.call ≠ .error (.escapes raised)) (hother : c.type ≠ .setAutostart)
    (heq : t.executeCommand c h = t.publishProviderSettings c h) : Executes t c h := by
  unfold publishProviderSettings at heq
  split at heq
  next e he => exact executes_nothing (fun hset => absurd hset hother) (he ▸ safely_call hescapes) heq
  next =>
    refine ⟨[.providerSettings c.commandId .providerSettings], none, t.autostartService, .ok, ?_,
      ⟨fun _ => ⟨rfl, fun hset => absurd hset hother⟩, nofun⟩, ?_⟩
    · intro signal hmem
      rw [List.mem_singleton.mp hmem]
      trivial
    · unfold executeCommandSafely
      rw [heq]
      rfl

/-- A snapshot is published, whether that is recorded or not. -/
theorem executes_publishing {after : AutostartService} {snapshot : AutostartSnapshot} {result : RuntimeCommandResult}
    (hautostart : c.isAutostart = true)
    (hshows : (c.type = .setAutostart → t.autostartService.Recorded h.io) → snapshot = after.snapshot)
    (heq : t.executeCommand c h = { t with autostartService := after }.publishAutostart c snapshot result h) :
    Executes t c h := by
  have hserves : Serves t.autostartService c h (some snapshot) after :=
    ⟨nofun, fun _ hsome => Option.some.inj hsome ▸ ⟨hautostart, hshows⟩⟩
  unfold publishAutostart at heq
  obtain ⟨given, hgiven⟩ : ∃ given, safely (if h.records .snapshotPublished then .ok result else .error .journal)
      = .ok given := by split <;> exact ⟨_, rfl⟩
  refine ⟨[], some snapshot, after, given, fun _ hmem => (by cases hmem), hserves, ?_⟩
  unfold executeCommandSafely
  rw [heq]
  dsimp only
  rw [hgiven]
  rfl

theorem executeCommand_executes (t : RuntimeThread) (htype : c.type ≠ .shutdown)
    (hescapes : ∀ raised, h.call ≠ .error (.escapes raised)) : Executes t c h := by
  have hcalled : c.type ≠ .setAutostart → t.executeCommand c h = (t, h.call) → Executes t c h :=
    fun hother heq => executes_nothing (fun hset => absurd hset hother) (safely_call hescapes) heq
  have hfixed : ∀ result, c.type ≠ .setAutostart → t.executeCommand c h = (t, .ok result) → Executes t c h :=
    fun result hother heq => executes_nothing (fun hset => absurd hset hother) ⟨result, rfl⟩ heq
  have hrefused : h.records .runtimeCommandAccepted = false → t.executeCommand c h = (t, .error .journal) →
      Executes t c h := fun hrecords heq => executes_nothing (fun _ => hrecords) ⟨_, rfl⟩ heq
  cases hcase : c.type with
  | shutdown => exact absurd hcase htype
  | activateProfile =>
    have hother : c.type ≠ .setAutostart := by simp [hcase]
    obtain ⟨ended, hended, heq⟩ :
        ∃ ended, (∃ result, safely ended = .ok result) ∧ t.executeCommand c h = (t, ended) := by
      unfold executeCommand
      rw [hcase]
      dsimp only
      split
      next => exact ⟨_, ⟨_, rfl⟩, rfl⟩
      next =>
        split
        next => exact ⟨_, ⟨_, rfl⟩, rfl⟩
        next => exact ⟨_, safely_call hescapes, rfl⟩
    exact executes_nothing (fun hset => absurd hset hother) hended heq
  | sendMessage => exact hcalled (by simp [hcase]) (by simp [executeCommand, hcase])
  | cancelActiveTurn => exact hcalled (by simp [hcase]) (by simp [executeCommand, hcase])
  | requestSnapshot => exact hfixed _ (by simp [hcase]) (by simp [executeCommand, hcase]; rfl)
  | requestAutostart =>
    have hautostart : c.isAutostart = true := by simp [RuntimeThreadCommand.isAutostart, hcase]
    cases hrecords : h.records .runtimeCommandAccepted with
    | true =>
      have heq : t.executeCommand c h = { t with autostartService := t.autostartService.query h.io }.publishAutostart c
          (t.autostartService.query h.io).snapshot .ok h := by
        simp [executeCommand, hcase, requestAutostart, hrecords]
      exact executes_publishing hautostart (fun _ => rfl) heq
    | false => exact hrefused hrecords (by simp [executeCommand, hcase, requestAutostart, hrecords])
  | setAutostart =>
    have hautostart : c.isAutostart = true := by simp [RuntimeThreadCommand.isAutostart, hcase]
    cases hrecords : h.records .runtimeCommandAccepted with
    | true =>
      have heq : t.executeCommand c h
          = { t with autostartService := (t.autostartService.setEnabled c.enabled h.io).2 }.publishAutostart c
            (t.autostartService.setEnabled c.enabled h.io).1.snapshot
            (if (t.autostartService.setEnabled c.enabled h.io).1.success then .ok
              else .failure (t.autostartService.setEnabled c.enabled h.io).1.safeCode
                (t.autostartService.setEnabled c.enabled h.io).1.safeMessage) h := by
        simp [executeCommand, hcase, setAutostart, hrecords]
      exact executes_publishing hautostart
        (fun hrecorded => AutostartService.setEnabled_shows (hrecorded hcase) c.enabled) heq
    | false => exact hrefused hrecords (by simp [executeCommand, hcase, setAutostart, hrecords])
  | _ => exact executes_settings hescapes (by simp [hcase]) (by simp [executeCommand, hcase])

end

/-- One step of a running thread: it goes on, or executes a command and reports its result. -/
inductive Works (t : RuntimeThread) (a : Answer) (u : RuntimeThread) : Prop where
  | idle (relayed : List Signal) (hplain : ∀ signal ∈ relayed, signal.Plain) (hwaiting : u.waiting = t.waiting)
      (hservice : u.autostartService = t.autostartService) (hsignals : u.signals = t.signals ++ relayed)
  | executed (c : RuntimeThreadCommand) (relayed : List Signal) (shown : Option AutostartSnapshot) (success : Bool)
      (safeCode safeMessage : String) (hplain : ∀ signal ∈ relayed, signal.Plain) (hstage : t.stage = .executing c false)
      (hwaiting : t.waiting = c :: u.waiting) (hserves : Serves t.autostartService c a.handling shown u.autostartService)
      (hsignals : u.signals = t.signals ++ (relayed ++ (publication c shown ++
        [.snapshot a.snapshot, .commandResult c.commandId success safeCode safeMessage])))

/-- What stays as it is while the thread runs. -/
def SameGates (t u : RuntimeThread) : Prop :=
  u.hasLoop = t.hasLoop ∧ u.ready = t.ready ∧ u.acceptingSubmissions = t.acceptingSubmissions ∧ u.closing = t.closing

theorem take_works (hstage : t.stage = .waiting) : Works t a t.take ∧ SameGates t t.take ∧
    (t.take.stage = .waiting ∨ ∃ c, t.take.stage = .executing c false) := by
  unfold RuntimeThread.take
  split
  next => exact ⟨.idle [] (fun _ hmem => (by cases hmem)) rfl rfl (by simp), ⟨rfl, rfl, rfl, rfl⟩, .inl hstage⟩
  next c rest hqueue =>
    refine ⟨.idle [] (fun _ hmem => (by cases hmem)) ?_ rfl (by simp), ⟨rfl, rfl, rfl, rfl⟩, .inr ⟨c, rfl⟩⟩
    unfold waiting
    rw [hqueue, hstage]
    rfl

theorem execute_works (hstage : t.stage = .executing c false) (htype : c.type ≠ .shutdown) (hraises : a.raises = none)
    (hescapes : ∀ raised, a.handling.call ≠ .error (.escapes raised)) :
    Works t a (t.execute c false a) ∧ SameGates t (t.execute c false a) ∧ (t.execute c false a).stage = .waiting := by
  obtain ⟨relayed, shown, after, result, hplain, hserves, heq⟩ := executeCommand_executes t htype hescapes
  have hexecute : t.execute c false a
      = { t with
          signals := t.signals ++ (relayed ++ publication c shown) ++ [.snapshot a.snapshot] ++
            [.commandResult c.commandId result.success result.safeCode result.safeMessage]
          autostartService := after
          activeCommand := none
          stage := .waiting } := by
    unfold execute
    rw [heq]
    dsimp only
    unfold conclude
    rw [hraises]
    dsimp only
    unfold settle
    rw [if_neg Bool.false_ne_true, if_neg htype]
    rfl
  rw [hexecute]
  refine ⟨.executed c relayed shown result.success result.safeCode result.safeMessage hplain hstage ?_ hserves ?_,
    ⟨rfl, rfl, rfl, rfl⟩, rfl⟩
  · unfold waiting
    rw [hstage]
    rfl
  · simp [List.append_assoc]

theorem Works.waiting_subset (h : Works t a u) : u.waiting ⊆ t.waiting := by
  cases h with
  | idle _ _ hwaiting _ _ => exact hwaiting ▸ List.Subset.refl _
  | executed c _ _ _ _ _ _ _ hwaiting _ _ => exact hwaiting ▸ List.subset_cons_self _ _

/-- The events of the runtime before a step are relayed first. -/
theorem Works.after {events : List Signal} (hevents : ∀ signal ∈ events, signal.Plain)
    (h : Works { t with signals := t.signals ++ events } a u) : Works t a u := by
  have hplain : ∀ relayed : List Signal, (∀ signal ∈ relayed, signal.Plain) →
      ∀ signal ∈ events ++ relayed, signal.Plain := fun relayed hrelayed signal hmem =>
    (List.mem_append.mp hmem).elim (hevents signal) (hrelayed signal)
  cases h with
  | idle relayed hrelayed hwaiting hservice hsignals =>
    exact .idle (events ++ relayed) (hplain relayed hrelayed) hwaiting hservice
      (hsignals.trans (List.append_assoc _ _ _))
  | executed c relayed shown success safeCode safeMessage hrelayed hstage hwaiting hserves hsignals =>
    refine .executed c (events ++ relayed) shown success safeCode safeMessage (hplain relayed hrelayed) hstage hwaiting
      hserves ?_
    rw [hsignals, List.append_assoc, List.append_assoc]

theorem Running.work (h : t.Running) (hraises : a.raises = none)
    (hescapes : ∀ raised, a.handling.call ≠ .error (.escapes raised)) : (t.work a).Running ∧ Works t a (t.work a) := by
  let events := a.events.flatMap fun observed => [Signal.runtimeEvent (some observed.1), .snapshot observed.2]
  have hevents : ∀ signal ∈ events, signal.Plain := by
    intro signal hmem
    obtain ⟨_, _, hmem⟩ := List.mem_flatMap.mp hmem
    rcases List.mem_cons.mp hmem with rfl | hmem
    · trivial
    · rw [List.mem_singleton.mp hmem]
      trivial
  let v := { t with signals := t.signals ++ events }
  have hworks : Works v a (v.advance a) ∧ SameGates v (v.advance a) ∧
      ((v.advance a).stage = .waiting ∨ ∃ c, (v.advance a).stage = .executing c false) := by
    rcases h.stage with hstage | ⟨c, hstage⟩
    · have htake : v.advance a = v.take := by
        unfold RuntimeThread.advance
        rw [show v.stage = .waiting from hstage, hraises]
      rw [htake]
      exact take_works hstage
    · have hexecute : v.advance a = v.execute c false a := by
        unfold RuntimeThread.advance
        rw [show v.stage = .executing c false from hstage]
      have htype : c.type ≠ .shutdown := by
        refine h.waiting c ?_
        unfold RuntimeThread.waiting
        rw [hstage]
        exact List.mem_cons_self
      rw [hexecute]
      obtain ⟨hexecuted, hgates, hafter⟩ := execute_works (t := v) hstage htype hraises hescapes
      exact ⟨hexecuted, hgates, .inl hafter⟩
  have hobserve : t.work a = v.advance a := congrArg (RuntimeThread.advance · a) (if_pos h.loop)
  rw [hobserve]
  obtain ⟨hworks, ⟨hloop, hready, haccepting, hclosing⟩, hstage⟩ := hworks
  exact ⟨h.of_same hloop hready haccepting hclosing hstage hworks.waiting_subset, hworks.after hevents⟩

end RuntimeThread

end ArkClaw.Presentation.Runtime
