import ArkClaw.Presentation.RuntimeThreadLaws

/-!
# The runtime thread over whole runs

`Shut`: a shutdown that is pending is the last command there is. It needs that shutdowns are requested and not
submitted. With it a run that ends in a successful shutdown leaves no command without its result.
-/

namespace ArkClaw.Presentation.Runtime

open ArkClaw.Library
open ArkClaw.Autostart (AutostartService)

namespace RuntimeThread

variable (t : RuntimeThread)

/-! ## A shutdown that is pending -/

/-- Nothing comes after the shutdown that is pending. -/
def Sealed : Prop := t.queue = [] ∧ t.startupShutdown = none ∧ t.shutdownInFlight = true ∧ t.closing = true

/-- What is known of a pending shutdown at each stage. -/
def SealedAt : Stage → Prop
  | .executing command startup => command.type = .shutdown ∨ startup = true → t.Sealed
  | .retrying => t.Sealed
  | .leaving outcome | .stopping outcome _ | .finalizing outcome | .reporting outcome =>
    outcome.success = true → t.Sealed ∧ t.executed = t.accepted ∧ t.executedIds = t.answers ++ outcome.commandId.toList
  | .returning | .finished => ∀ outcome ∈ t.outcomes, outcome.success = true → t.answers = t.acceptedIds
  | _ => True

/-- A shutdown that is pending is the last command there is. -/
structure Pends : Prop where
  startup : t.startupShutdown ≠ none → t.shutdownInFlight = true
  pending : ∀ command ∈ t.queue, command.type = .shutdown → t.shutdownInFlight = true ∧ t.closing = true
  last : ∀ command ∈ t.queue.dropLast, command.type ≠ .shutdown

structure Shut : Prop extends t.Pends where
  sealed : t.SealedAt t.stage

variable {t} {u : RuntimeThread}

/-- Where nothing is sealed, nothing is known. -/
theorem sealedAt_of_open {stage : Stage} (h : t.SealedAt stage) (hopen : ¬t.Sealed) (hover : ¬stage.Over)
    (u : RuntimeThread) : u.SealedAt stage := by
  cases stage with
  | executing c startup => exact fun hshutdown => absurd (h hshutdown) hopen
  | retrying => exact absurd h hopen
  | leaving outcome => exact fun hsuccess => absurd (h hsuccess).1 hopen
  | stopping outcome hasLoop => exact fun hsuccess => absurd (h hsuccess).1 hopen
  | finalizing outcome => exact absurd trivial hover
  | reporting outcome => exact absurd trivial hover
  | returning => exact absurd trivial hover
  | finished => exact absurd trivial hover
  | _ => trivial

theorem Shut.submit (h : t.Shut) (ho : t.Ordered) {c : RuntimeThreadCommand} (htype : c.type ≠ .shutdown) :
    (t.submit c).2.Shut := by
  rcases submit_cases t c with heq | ⟨_, hclosing, heq⟩
  · rw [heq]
    exact h
  · rw [heq]
    have hopen : ¬t.Sealed := fun hsealed => by
      have := hsealed.2.2.2
      simp_all
    have hover : ¬t.stage.Over := fun hover => by
      have := (ho.ended hover).1
      simp_all
    refine ⟨⟨h.startup, ?_, ?_⟩, sealedAt_of_open h.sealed hopen hover _⟩
    · intro d hd hshutdown
      rcases List.mem_append.mp hd with hold | hnew
      · exact h.pending d hold hshutdown
      · rw [List.mem_singleton.mp hnew] at hshutdown
        exact absurd hshutdown htype
    · show ∀ d ∈ (t.queue ++ [c]).dropLast, d.type ≠ .shutdown
      rw [List.dropLast_concat]
      intro d hd hshutdown
      have := (h.pending d hd hshutdown).2
      simp_all

theorem Shut.requestShutdown (h : t.Shut) (ho : t.Ordered) (c : RuntimeThreadCommand) :
    (t.requestShutdown c).2.Shut := by
  rcases requestShutdown_cases t c with heq | ⟨_, hflight, haccepted⟩
  · rw [heq]
    exact h
  · have hopen : ¬t.Sealed := fun hsealed => by
      have := hsealed.2.2.1
      simp_all
    have hover : ¬t.stage.Over := fun hover => by
      have := (ho.ended hover).2
      simp_all
    have hqueue : ∀ d ∈ t.queue, d.type ≠ .shutdown := fun d hd hshutdown => by
      have := (h.pending d hd hshutdown).1
      simp_all
    rcases haccepted with ⟨_, _, heq⟩ | ⟨_, heq⟩
    · rw [heq]
      exact ⟨⟨fun _ => rfl, fun _ _ _ => ⟨rfl, rfl⟩, h.last⟩, sealedAt_of_open h.sealed hopen hover _⟩
    · rw [heq]
      refine ⟨⟨fun _ => rfl, fun _ _ _ => ⟨rfl, rfl⟩, ?_⟩, sealedAt_of_open h.sealed hopen hover _⟩
      show ∀ d ∈ (t.queue ++ [c]).dropLast, d.type ≠ .shutdown
      rw [List.dropLast_concat]
      exact hqueue

theorem Pends.of_agrees (h : t.Pends) (hu : Agrees t u) : u.Pends where
  startup := by
    rw [hu.startupShutdown, hu.shutdownInFlight]
    exact h.startup
  pending := by
    rw [hu.queue, hu.shutdownInFlight, hu.closing]
    exact h.pending
  last := by
    rw [hu.queue]
    exact h.last

/-- Nothing changes for a shutdown that is pending. -/
theorem Pends.goes (h : t.Pends) (hstartup : u.startupShutdown = t.startupShutdown) (hqueue : u.queue = t.queue)
    (hflight : u.shutdownInFlight = t.shutdownInFlight) (hclosing : u.closing = t.closing)
    (hsealed : u.SealedAt u.stage) : u.Shut where
  startup := by
    rw [hstartup, hflight]
    exact h.startup
  pending := by
    rw [hqueue, hflight, hclosing]
    exact h.pending
  last := by
    rw [hqueue]
    exact h.last
  sealed := hsealed

/-- Nothing is pending, or no more is accepted. -/
theorem Shut.closes (hstartup : u.startupShutdown ≠ none → u.shutdownInFlight = true)
    (hpending : u.queue = [] ∨ u.shutdownInFlight = true ∧ u.closing = true)
    (hlast : ∀ c ∈ u.queue.dropLast, c.type ≠ .shutdown) (hsealed : u.SealedAt u.stage) : u.Shut where
  startup := hstartup
  pending c hc _ := by
    rcases hpending with hnone | hclosed
    · rw [hnone] at hc
      cases hc
    · exact hclosed
  last := hlast
  sealed := hsealed

theorem Shut.boundary (h : t.Pends) (raised : Raised) (hasLoop : Bool) :
    (t.recoverFinalBoundary raised hasLoop).Shut := by
  refine h.goes rfl rfl rfl rfl fun hsuccess => ?_
  exfalso
  revert hsuccess
  show ThreadExitOutcome.success (if raised = .cancelled then _ else _) = true → False
  split
  next =>
    rw [(cancelledExitOutcome_failure t).1]
    exact Bool.false_ne_true
  next => exact Bool.false_ne_true

theorem Shut.escape (h : t.Pends) (raised : Raised) {exitOutcome : ThreadExitOutcome}
    (hfailure : exitOutcome.success = false) (hid : exitOutcome.commandId = none) :
    (t.escape raised exitOutcome).Shut := by
  obtain ⟨outcome, houtcome, _, heq⟩ := escape_cases t raised exitOutcome hfailure hid
  rw [heq]
  exact h.goes rfl rfl rfl rfl fun hsuccess => absurd hsuccess (by rw [houtcome]; exact Bool.false_ne_true)

theorem Shut.enter (h : t.Shut) (ho : t.Ordered) (hstage : t.stage = .bootstrapping) : t.enter.Shut := by
  have hqueue : t.queue = [] := ho.bare (ho.early (by rw [hstage]; trivial))
  refine .closes (fun hsome => absurd rfl hsome) (.inl hqueue) ?_ ?_
  · show ∀ c ∈ t.queue.dropLast, c.type ≠ .shutdown
    simp [hqueue]
  · rcases enter_stage t with ⟨-, hentered⟩ | ⟨c, hstartup, hentered⟩
    · rw [hentered]
      trivial
    · have hsome : t.startupShutdown ≠ none := by simp [hstartup]
      rw [hentered]
      exact fun _ => ⟨hqueue, rfl, h.startup hsome, (ho.startup hsome).2⟩

theorem Shut.take (h : t.Shut) (ho : t.Ordered) (hstage : t.stage = .waiting) : t.take.Shut := by
  have hnone := ho.started (ho.works (by rw [hstage]; trivial))
  unfold RuntimeThread.take
  split
  next => exact h
  next c rest hqueue =>
    have hmem : ∀ d ∈ c :: rest, d.type = .shutdown → t.shutdownInFlight = true ∧ t.closing = true := by
      rw [← hqueue]
      exact h.pending
    refine ⟨⟨h.startup, fun d hd => hmem d (List.mem_cons_of_mem c hd), ?_⟩, ?_⟩
    · intro d hd
      refine h.last d ?_
      rw [hqueue]
      cases rest with
      | nil => cases hd
      | cons e rest => exact List.mem_cons_of_mem c hd
    · rintro (hshutdown | hstartup)
      · obtain ⟨hflight, hclosing⟩ := hmem c List.mem_cons_self hshutdown
        refine ⟨?_, hnone, hflight, hclosing⟩
        cases rest with
        | nil => rfl
        | cons e rest =>
          refine absurd hshutdown (h.last c ?_)
          rw [hqueue]
          exact List.mem_cons_self
      · cases hstartup

/-- The only outcomes of a run that are successes are those of a shutdown that left nothing unanswered. -/
theorem Shut.settle (h : t.Pends) {c : RuntimeThreadCommand} {startup : Bool} (result : RuntimeCommandResult)
    (hsealed : c.type = .shutdown ∨ startup = true → t.Sealed) (hall : t.Sealed → t.executed = t.accepted)
    (hexecuted : t.executedIds = t.answers ++ [c.commandId]) : (t.settle c startup result).Shut := by
  unfold RuntimeThread.settle
  split
  next hstartup =>
    have hthis := hsealed (.inr hstartup)
    split
    next => exact h.goes rfl rfl rfl rfl fun _ => ⟨hthis, hall hthis, hexecuted⟩
    next => exact h.goes rfl rfl rfl rfl hthis
  next =>
    split
    next hshutdown =>
      have hthis := hsealed (.inl hshutdown)
      split
      next => exact h.goes rfl rfl rfl rfl fun _ => ⟨hthis, hall hthis, hexecuted⟩
      next => exact h.goes rfl rfl rfl rfl hthis
    next => exact h.goes rfl rfl rfl rfl trivial

theorem Shut.execute (h : t.Shut) (ho : t.Ordered) (hanswered : t.Answered) {c : RuntimeThreadCommand} {startup : Bool}
    (hstage : t.stage = .executing c startup) (a : Answer) : (t.execute c startup a).Shut := by
  have hsealed := h.sealed
  unfold Answered at hanswered
  rw [hstage] at hsealed hanswered
  have hloop : t.hasLoop = true := ho.works (by rw [hstage]; trivial)
  obtain ⟨u, hu, ⟨outcome, hfailure, _, heq⟩ | ⟨result, heq⟩⟩ := execute_ends c startup a hanswered.2.2
  · rw [heq]
    exact h.toPends.goes hu.startupShutdown hu.queue hu.shutdownInFlight hu.closing fun hsuccess =>
      absurd hsuccess (by rw [hfailure]; exact Bool.false_ne_true)
  · rw [heq]
    have hushut : u.Sealed ↔ t.Sealed := by
      unfold Sealed
      rw [hu.queue, hu.startupShutdown, hu.shutdownInFlight, hu.closing]
    refine Shut.settle (h.toPends.of_agrees hu.toAgrees) result (fun hshutdown => hushut.mpr (hsealed hshutdown)) ?_ ?_
    · intro hthis
      obtain ⟨hqueue, hnone, _⟩ := hushut.mp hthis
      rw [hu.executed, hu.accepted, ← ho.whole (.inl hloop), held, hqueue, hnone]
      simp
    · rw [hu.answers, ← hanswered.1]
      unfold executedIds
      rw [hu.executed]

theorem Shut.advance (h : t.Shut) (ho : t.Ordered) (hanswered : t.Answered) (a : Answer) : (t.advance a).Shut := by
  have hp := h.toPends
  have hsealed := h.sealed
  have howes := hanswered
  unfold Answered at howes
  unfold RuntimeThread.advance
  split
  next => exact h
  next => exact h
  next hstage =>
    split
    next => exact hp.goes rfl rfl rfl rfl trivial
    next => exact .boundary hp _ _
  next hstage =>
    split
    next => exact hp.goes rfl rfl rfl rfl trivial
    next => exact .boundary hp _ _
  next hstage =>
    split
    next => exact h.enter ho hstage
    next => exact .escape hp _ rfl rfl
  next hstage =>
    split
    next => exact hp.goes rfl rfl rfl rfl trivial
    next => exact .escape hp _ rfl rfl
  next hstage =>
    split
    next => exact h.take ho hstage
    next => exact .escape hp _ rfl rfl
  next c startup hstage => exact h.execute ho hanswered hstage a
  next hstage =>
    rw [hstage] at hsealed
    obtain ⟨hqueue, hnone, _⟩ := hsealed
    refine .closes (fun hsome => absurd hnone hsome) (.inl hqueue) ?_ trivial
    show ∀ c ∈ t.queue.dropLast, c.type ≠ .shutdown
    simp [hqueue]
  next outcome hstage =>
    rw [hstage] at hsealed
    exact .closes (fun _ => rfl) (.inr ⟨rfl, rfl⟩) h.last fun hsuccess =>
      ⟨⟨(hsealed hsuccess).1.1, (hsealed hsuccess).1.2.1, rfl, rfl⟩, (hsealed hsuccess).2⟩
  next outcome hasLoop hstage =>
    rw [hstage] at hsealed
    have hkept : outcome.success = true → t.stopAccepting.Sealed ∧ t.executed = t.accepted ∧
        t.executedIds = t.answers ++ outcome.commandId.toList := fun hsuccess =>
      ⟨⟨(hsealed hsuccess).1.1, (hsealed hsuccess).1.2.1, rfl, rfl⟩, (hsealed hsuccess).2⟩
    cases hasLoop <;> exact .closes (fun _ => rfl) (.inr ⟨rfl, rfl⟩) h.last hkept
  next outcome hstage =>
    rw [hstage] at hsealed
    obtain ⟨hclosing, hflight⟩ := ho.ended (by rw [hstage]; trivial)
    refine .closes (fun hsome => absurd rfl hsome) (.inl rfl) (fun c hc => by cases hc) fun hsuccess => ?_
    have hid : (afterCleanup outcome a.cleanupFailure).commandId = outcome.commandId ∧ outcome.success = true := by
      unfold afterCleanup at hsuccess ⊢
      split at hsuccess
      next => exact ⟨rfl, hsuccess⟩
      next =>
        split at hsuccess
        next => cases hsuccess
        next hfailed => exact absurd hsuccess hfailed
    rw [hid.1]
    exact ⟨⟨rfl, rfl, hflight, hclosing⟩, (hsealed hid.2).2⟩
  next outcome hstage =>
    rw [hstage] at hsealed howes
    refine hp.goes rfl rfl rfl rfl fun o ho' hsuccess => ?_
    have houtcome : o = outcome := by
      change o ∈ (t.emit (.shutdownOutcome outcome)).outcomes at ho'
      rw [outcomes_emit, howes.2] at ho'
      simpa [Signal.outcome] using ho'
    rw [houtcome] at hsuccess
    obtain ⟨_, hall, hexecuted⟩ := hsealed hsuccess
    show (t.emit (.shutdownOutcome outcome)).answers = t.accepted.map RuntimeThreadCommand.commandId
    rw [answers_emit, ← hall]
    exact hexecuted.symm
  next hstage =>
    rw [hstage] at hsealed
    refine hp.goes rfl rfl rfl rfl fun o ho' hsuccess => ?_
    change o ∈ (t.emit .finished).outcomes at ho'
    rw [outcomes_emit] at ho'
    show (t.emit .finished).answers = t.acceptedIds
    rw [answers_emit]
    simpa [Signal.answer] using hsealed o (by simpa [Signal.outcome] using ho') hsuccess

/-! ## The events of the runtime -/

theorem observe_silent (t : RuntimeThread) (events : List (RuntimeEvent × Payload)) : Silent t (t.observe events) ∧
    (t.observe events).stage = t.stage ∧ (t.observe events).activeCommand = t.activeCommand := by
  unfold observe
  split
  next =>
    refine ⟨⟨⟨rfl, rfl, rfl, rfl, rfl, rfl, rfl, rfl⟩, _, rfl, fun signal hmem => ?_⟩, rfl, rfl⟩
    obtain ⟨pair, _, hpair⟩ := List.mem_flatMap.mp hmem
    rcases List.mem_cons.mp hpair with rfl | hlast
    · trivial
    · rw [List.mem_singleton.mp hlast]
      trivial
  next => exact ⟨Silent.refl t, rfl, rfl⟩

theorem Ordered.observe (h : t.Ordered) (events : List (RuntimeEvent × Payload)) : (t.observe events).Ordered := by
  obtain ⟨hsilent, hstage, _⟩ := observe_silent t events
  refine h.of_agrees hsilent.toAgrees ?_ ?_ ?_ <;> rw [hstage]
  · exact h.works
  · exact id
  · exact id

theorem Answered.observe (h : t.Answered) (events : List (RuntimeEvent × Payload)) : (t.observe events).Answered := by
  obtain ⟨hsilent, hstage, hactive⟩ := observe_silent t events
  unfold Answered Owes executedIds at h ⊢
  rw [hstage, hsilent.executed, hsilent.answers, hsilent.outcomes, hactive]
  exact h

theorem Shut.observe (h : t.Shut) (events : List (RuntimeEvent × Payload)) : (t.observe events).Shut := by
  obtain ⟨hsilent, hstage, _⟩ := observe_silent t events
  refine ⟨h.toPends.of_agrees hsilent.toAgrees, ?_⟩
  have hsealed := h.sealed
  unfold SealedAt Sealed executedIds acceptedIds at hsealed ⊢
  rw [hstage, hsilent.executed, hsilent.answers, hsilent.outcomes, hsilent.queue, hsilent.startupShutdown,
    hsilent.shutdownInFlight, hsilent.closing, hsilent.accepted]
  exact hsealed

theorem work_bars (ho : t.Ordered) (hanswered : t.Answered) (a : Answer) : Bars t (t.work a) := by
  have hobserved := (observe_silent t a.events).1.toAgrees.bars
  have hadvanced := advance_bars (ho.observe a.events) (hanswered.observe a.events) a
  exact ⟨hadvanced.accepted.trans hobserved.accepted, hadvanced.closing ∘ hobserved.closing,
    hadvanced.gated ∘ hobserved.gated⟩

/-! ## Runs -/

/-- A thread that has not been started. -/
def fresh (service : AutostartService) : RuntimeThread := { autostartService := service }

structure Sound (t : RuntimeThread) : Prop where
  ordered : t.Ordered
  answered : t.Answered
  gated : t.Gated

theorem fresh_sound (service : AutostartService) : (fresh service).Sound where
  ordered := .of_whole rfl (fun hsome => absurd rfl hsome) (fun _ => rfl) (fun hworks => hworks.elim) (fun _ => rfl)
    fun hover => hover.elim
  answered := ⟨rfl, rfl, rfl, rfl⟩
  gated := ⟨fun hflight => (by cases hflight), fun hloop => (by cases hloop)⟩

theorem Gated.submit (h : t.Gated) (c : RuntimeThreadCommand) : (t.submit c).2.Gated := by
  rcases submit_cases t c with heq | ⟨_, _, heq⟩ <;> rw [heq]
  · exact h
  · exact ⟨h.flight, h.loop⟩

theorem Gated.requestShutdown (h : t.Gated) (c : RuntimeThreadCommand) : (t.requestShutdown c).2.Gated := by
  rcases requestShutdown_cases t c with heq | ⟨_, _, ⟨_, _, heq⟩ | ⟨_, heq⟩⟩ <;> rw [heq]
  · exact h
  · exact ⟨fun _ => rfl, fun _ => .inr rfl⟩
  · exact ⟨fun _ => rfl, fun _ => .inr rfl⟩

theorem Sound.start (h : t.Sound) : t.start.Sound := by
  unfold RuntimeThread.start
  split
  next hidle =>
    have hearly : t.stage.Early := by rw [hidle]; trivial
    have howes := h.answered
    unfold Answered at howes
    rw [hidle] at howes
    refine ⟨?_, howes, ⟨h.gated.flight, h.gated.loop⟩⟩
    exact h.ordered.of_agrees ⟨rfl, rfl, rfl, rfl, rfl, rfl, rfl, rfl⟩ False.elim (fun _ => hearly) False.elim
  next => exact h

theorem Sound.step (h : t.Sound) (e : Event) : (t.step e).Sound := by
  cases e with
  | start => exact h.start
  | submit c => exact ⟨h.ordered.submit c, h.answered.submit c, h.gated.submit c⟩
  | requestShutdown c => exact ⟨h.ordered.requestShutdown c, h.answered.requestShutdown c, h.gated.requestShutdown c⟩
  | work a =>
    exact ⟨(h.ordered.observe a.events).advance (h.answered.observe a.events) a, (h.answered.observe a.events).advance a,
      (work_bars h.ordered h.answered a).gated h.gated⟩

theorem Shut.start (h : t.Shut) : t.start.Shut := by
  unfold RuntimeThread.start
  split
  next => exact h.toPends.goes rfl rfl rfl rfl trivial
  next => exact h

/-- A submitted command is no shutdown. -/
def Event.Submits : Event → Prop
  | .submit c => c.type ≠ .shutdown
  | _ => True

theorem Shut.step (h : t.Shut) (hs : t.Sound) {e : Event} (he : e.Submits) : (t.step e).Shut := by
  cases e with
  | start => exact h.start
  | submit c => exact h.submit hs.ordered he
  | requestShutdown c => exact h.requestShutdown hs.ordered c
  | work a =>
    exact (h.observe a.events).advance (hs.ordered.observe a.events) (hs.answered.observe a.events) a

/-- However it is answered, a request of a shutdown leaves the thread closing. -/
theorem closing_requestShutdown (h : t.Gated) {c : RuntimeThreadCommand} (htype : c.type = .shutdown) :
    (t.requestShutdown c).2.closing = true := by
  unfold RuntimeThread.requestShutdown
  rw [if_neg (not_not.mpr htype)]
  cases hflight : t.shutdownInFlight with
  | true => exact h.flight hflight
  | false =>
    cases hloop : t.hasLoop with
    | false => cases hclosing : t.closing <;> simp [hclosing]
    | true =>
      cases hready : t.ready with
      | false => simpa [hready] using h.loop hloop
      | true => rfl

/-- Once the thread is closing, only shutdowns are accepted. -/
theorem step_closing (hs : t.Sound) (hclosing : t.closing = true) (e : Event) : (t.step e).closing = true ∧
    ∃ new, (t.step e).accepted = t.accepted ++ new ∧ ∀ c ∈ new, c.type = .shutdown := by
  have hnothing : ∀ u : RuntimeThread, u.accepted = t.accepted →
      ∃ new, u.accepted = t.accepted ++ new ∧ ∀ c ∈ new, c.type = .shutdown :=
    fun u hu => ⟨[], by simp [hu], fun c hc => by cases hc⟩
  cases e with
  | start =>
    show t.start.closing = true ∧ _
    unfold RuntimeThread.start RuntimeThread.step RuntimeThread.start
    split <;> exact ⟨hclosing, hnothing _ rfl⟩
  | submit c =>
    rcases submit_cases t c with heq | ⟨_, hopen, _⟩
    · simp only [RuntimeThread.step, heq]
      exact ⟨hclosing, hnothing t rfl⟩
    · rw [hclosing] at hopen
      cases hopen
  | requestShutdown c =>
    rcases requestShutdown_cases t c with heq | ⟨htype, _, ⟨_, hopen, _⟩ | ⟨_, heq⟩⟩
    · simp only [RuntimeThread.step, heq]
      exact ⟨hclosing, hnothing t rfl⟩
    · rw [hclosing] at hopen
      cases hopen
    · simp only [RuntimeThread.step, heq]
      refine ⟨trivial, [c], rfl, fun d hd => ?_⟩
      rw [List.mem_singleton.mp hd]
      exact htype
  | work a =>
    have hbars := work_bars hs.ordered hs.answered a
    exact ⟨hbars.closing hclosing, hnothing _ hbars.accepted⟩

theorem run_closing (es : List Event) : ∀ {t : RuntimeThread}, t.Sound → t.closing = true →
    ∃ new, (run step t es).accepted = t.accepted ++ new ∧ ∀ c ∈ new, c.type = .shutdown := by
  induction es with
  | nil => exact fun _ _ => ⟨[], by simp, fun c hc => by cases hc⟩
  | cons e es ih =>
    intro t hs hclosing
    obtain ⟨hclosing', new, hnew, htypes⟩ := step_closing hs hclosing e
    obtain ⟨later, hlater, htypes'⟩ := ih (hs.step e) hclosing'
    refine ⟨new ++ later, ?_, fun c hc => ?_⟩
    · rw [run_cons, hlater, hnew, List.append_assoc]
    · rcases List.mem_append.mp hc with hfirst | hsecond
      · exact htypes c hfirst
      · exact htypes' c hsecond

theorem sound_of_run (service : AutostartService) (es : List Event) : (run step (fresh service) es).Sound :=
  run_invariant (fun _ e hs => hs.step e) (fresh service) es (fresh_sound service)

/-- Of the results: every one is of a command that was executed, and these are the first that were accepted. -/
theorem Sound.answers_prefix (h : t.Sound) : t.answers <+: t.executedIds := by
  have howes := h.answered
  unfold Answered at howes
  cases hstage : t.stage with
  | publishing | waiting | retrying =>
    rw [hstage] at howes
    exact howes.1 ▸ List.prefix_rfl
  | executing c startup =>
    rw [hstage] at howes
    exact howes.1 ▸ List.prefix_append _ _
  | idle | opening | attaching | bootstrapping =>
    rw [hstage] at howes
    exact howes.2.1 ▸ List.nil_prefix
  | leaving _ | stopping _ _ | finalizing _ | reporting _ =>
    rw [hstage] at howes
    exact (List.prefix_append _ _).trans howes.1
  | returning | finished =>
    rw [hstage] at howes
    exact howes.1

/-- One outcome at most, and one in the end. -/
theorem Sound.one_outcome (h : t.Sound) : t.outcomes.length ≤ 1 ∧ (t.stage = .finished → t.outcomes.length = 1) := by
  have howes := h.answered
  unfold Answered Owes at howes
  cases hstage : t.stage with
  | idle | opening | attaching | bootstrapping | publishing | waiting | executing _ _ | retrying | leaving _
  | stopping _ _ | finalizing _ | reporting _ =>
    rw [hstage] at howes
    simp [howes]
  | returning | finished =>
    rw [hstage] at howes
    simp [howes.2]

/-- Submitting no shutdown, a run that ends in a successful one has answered every accepted command. -/
theorem run_shut (service : AutostartService) (es : List Event) (hes : ∀ e ∈ es, e.Submits) :
    (run step (fresh service) es).Shut := by
  have hfresh : (fresh service).Shut :=
    ⟨⟨fun hsome => absurd rfl hsome, fun c hc => (by cases hc), fun c hc => (by cases hc)⟩, trivial⟩
  have hrun : ∀ (es : List Event) (t : RuntimeThread), t.Sound → t.Shut → (∀ e ∈ es, e.Submits) →
      (run step t es).Shut := by
    intro es
    induction es with
    | nil => exact fun _ _ h _ => h
    | cons e es ih =>
      intro t hs h hes
      exact ih _ (hs.step e) (h.step hs (hes e List.mem_cons_self)) fun d hd => hes d (List.mem_cons_of_mem e hd)
  exact hrun es _ (fresh_sound service) hfresh hes

/-- Every accepted command is executed at most once and in the order of acceptance, and has at most one result; after
a shutdown was requested only shutdowns are accepted, to try again; the thread reports one outcome; and when that is a
success, every accepted command has its result, as long as a shutdown is requested and not submitted. -/
theorem run_accounted (service : AutostartService) (es : List Event) :
    (run step (fresh service) es).executed <+: (run step (fresh service) es).accepted ∧
    (run step (fresh service) es).answers <+: (run step (fresh service) es).executedIds ∧
    (∀ before c after, es = before ++ .requestShutdown c :: after → c.type = .shutdown →
      ∃ new, (run step (fresh service) es).accepted
          = (run step (fresh service) (before ++ [.requestShutdown c])).accepted ++ new ∧
        ∀ d ∈ new, d.type = .shutdown) ∧
    (run step (fresh service) es).outcomes.length ≤ 1 ∧
    ((run step (fresh service) es).stage = .finished → (run step (fresh service) es).outcomes.length = 1) ∧
    ((∀ c, .submit c ∈ es → c.type ≠ .shutdown) →
      ∀ outcome ∈ (run step (fresh service) es).outcomes, outcome.success = true →
        (run step (fresh service) es).answers = (run step (fresh service) es).acceptedIds) := by
  have hs := sound_of_run service es
  refine ⟨?_, hs.answers_prefix, ?_, hs.one_outcome.1, hs.one_outcome.2, ?_⟩
  · refine List.IsPrefix.trans ?_ hs.ordered.order
    rw [held, List.append_assoc]
    exact List.prefix_append _ _
  · intro before c after hes htype
    have hbefore := sound_of_run service before
    have hclosing := closing_requestShutdown hbefore.gated htype
    have hsplit : es = (before ++ [.requestShutdown c]) ++ after := by rw [hes]; simp
    have hrun : run step (fresh service) (before ++ [.requestShutdown c])
        = ((run step (fresh service) before).requestShutdown c).2 := by
      rw [run_append]
      rfl
    rw [hsplit, run_append]
    refine run_closing after (sound_of_run service _) ?_
    rw [hrun]
    exact hclosing
  · intro hsubmits outcome houtcome hsuccess
    have hes : ∀ e ∈ es, e.Submits := by
      intro e he
      cases e with
      | submit c => exact hsubmits c he
      | _ => trivial
    have hsealed := (run_shut service es hes).sealed
    have howes := hs.answered
    unfold Answered Owes at howes
    cases hstage : (run step (fresh service) es).stage with
    | returning | finished =>
      rw [hstage] at hsealed
      exact hsealed outcome houtcome hsuccess
    | _ =>
      rw [hstage] at howes
      simp [howes] at houtcome

/-- The worker's own steps until the dispatcher waits. -/
def started : List Event := .start :: List.replicate 4 (.work {})

def message : RuntimeThreadCommand := { commandId := .issued 0, type := .sendMessage }

def closingShutdown (n : Nat) : RuntimeThreadCommand := { commandId := .issued n, type := .shutdown }

theorem run_accounted_closed :
    (run step (fresh { available := false, hasJournal := false })
      (started ++ [.submit message, .requestShutdown (closingShutdown 1)] ++ List.replicate 9 (.work {}))).answers
      = [.issued 0, .issued 1] := by
  refine ((run_accounted _ _).2.2.2.2.2 ?_ (succeeded (closingShutdown 1) .ok) ?_ rfl).trans rfl
  · simp [started, message, closingShutdown]
  · decide +kernel

/-- After a shutdown that failed a second one is accepted; and a shutdown that was submitted ends the thread before a
command that was accepted after it. -/
theorem shutdown_again_or_submitted :
    ((run step (fresh { available := false, hasJournal := false })
        (started ++ [.requestShutdown (closingShutdown 1), .work {},
          .work { handling := { call := .ok (.failure "runtime_busy" "") } }, .work {}])).requestShutdown
      (closingShutdown 2)).1 = true ∧
    (let ended := run step (fresh { available := false, hasJournal := false })
        (started ++ [.submit (closingShutdown 1), .submit message] ++ List.replicate 7 (.work {}));
      ended.acceptedIds = [.issued 1, .issued 0] ∧ ended.answers = [.issued 1] ∧
        ended.outcomes = [succeeded (closingShutdown 1) .ok]) := by
  decide +kernel

end RuntimeThread

end ArkClaw.Presentation.Runtime
