import SdkEventBridge.App.Steps
import SdkEventBridge.Switcher.Register

set_option relaxedAutoImplicit false
set_option autoImplicit false

/-!
# Inputs that leave no trace

An operation that sets what is set already, and has nothing to publish, is idle. This file says
which operations are idle in which states, and from that which inputs of the application leave
both components as they are and publish nothing.

Two results follow. Requests that are rejected, do not parse or meet locked joints can be deleted
from a run without changing anything else. A request with an API id that its bridge does not
track leaves no trace, unless the narrowing to 32 bits turns its id into a tracked one.

## Main definitions

* `CmdVelPublisher.Idle`, `MotionSwitcherBridge.Idle`, `App.Idle` — when nothing changes.
* `App.Untouched` — an input changes neither component and publishes nothing.
* `App.NoTrace` — the requests that are rejected, unreadable or gated.
* `UnknownId`, `WrapsToTracked` — API ids that are not tracked, and those of them that the
  narrowing makes tracked.

## Main results

* `App.untouched_iff` — an input leaves no trace iff it is idle.
* `App.noTrace_deleted` — deleting rejected, unreadable and gated requests.
* `App.unknown_id_untouched_iff` — requests with unknown ids.
-/

namespace SdkEventBridge

open PlanarNorm Resumption Run

/-! ## Idle operations of the velocity publisher -/

namespace CmdVelPublisher

section Idle

variable {K : Type} (s : CmdVelPublisher K)

/-- A walk mode that is enabled is in effect already; one that is disabled is not in effect. -/
def IdleWalkMode (mode : WalkMode) (enabled : Bool) : Prop :=
  if enabled then s.walkMode = mode ∧ s.jointsLocked = false else s.walkMode ≠ mode

/-- What the call sets is set already, and the call publishes nothing. -/
def Idle (now : Time) : CmdVelOp → Prop
  | .setContinuousMoveMode enabled =>
    s.continuousMoveMode = enabled ∧ (enabled = false → s.lastMoveTime = now)
  | .setSpeedLevel level =>
    s.speedLevel = level ∧ (s.motionProfile = .sport ∨ s.isActivelyMoving = false)
  | .setMotionModeName name => s.motionProfile = motionProfileFromModeName name
  | .unlockJoints => s.jointsLocked = false
  | .setGait gait => gait ≠ 0 ∧ (1 ≤ gait ∧ gait ≤ 4 → s.jointsLocked = false)
  | .setVisionWalk enabled => s.IdleWalkMode .visionWalk enabled
  | .setFreeWalk => s.walkMode = .freeWalk ∧ s.jointsLocked = false
  | .setClassicWalk enabled => s.IdleWalkMode .classicWalk enabled
  | .setFastWalk enabled => s.IdleWalkMode .fastWalk enabled
  | .handleMove _ => s.jointsLocked = true
  | .tick => s.tickExpires now = false
  | .resetToDefaults | .lockJoints | .handleStop => False

variable [Field K] [LinearOrder K] [HasHypot K]

omit [LinearOrder K] [HasHypot K] in
/-- `SetWalkMode` leaves everything as it is exactly on an idle request. -/
theorem setWalkMode_eq_self_iff (mode : WalkMode) (enabled : Bool) :
    s.setWalkMode mode enabled = (s, []) ↔ s.IdleWalkMode mode enabled := by
  cases enabled with
  | true =>
    rw [setWalkMode, if_pos rfl, IdleWalkMode, if_pos rfl]
    obtain ⟨⟩ := s
    simp [unlockJoints, and_comm, eq_comm]
  | false =>
    simp only [setWalkMode, IdleWalkMode, Bool.false_eq_true, if_false]
    split_ifs with h
    · simp [lockJoints, h]
    · simp [h]

/-- Re-limiting does nothing iff there is no active move. -/
theorem relimit_eq_iff (s' : CmdVelPublisher K) :
    s'.relimit = (s, []) ↔ s' = s ∧ s'.isActivelyMoving = false := by
  unfold relimit isActivelyMoving
  cases s'.jointsLocked <;> cases s'.hasActiveMove <;> simp

/-- **Idle operations.** A call leaves the publisher as it is and publishes nothing iff it is
idle.

**Proof sketch.** Case analysis on the operation. An operation that publishes is not idle; the
others write fields, and write nothing new exactly if the fields have these values already. For a
speed level the cap needs no comparison of its own, being the one of profile and level. -/
theorem apply_eq_self_iff (hcap : s.maxLinearSpeed = capOf s.motionProfile s.speedLevel)
    (sdk : UnitreeSdk K) (now : Time) (op : CmdVelOp) :
    s.apply sdk now op = (s, []) ↔ s.Idle now op := by
  cases op with
  | setContinuousMoveMode enabled =>
    obtain ⟨⟩ := s
    cases enabled <;> simp [apply, setContinuousMoveMode, Idle, eq_comm]
  | setSpeedLevel level =>
    rw [apply, setSpeedLevel_eq, Idle]
    split_ifs with hsport
    · refine ⟨fun h => ⟨(congrArg (fun r => r.1.speedLevel) h).symm, Or.inl hsport⟩, ?_⟩
      rintro ⟨rfl, -⟩
      rfl
    · -- The cap is the one of the level already.
      rw [relimit_eq_iff]
      refine and_congr ⟨fun h => ?_, fun h => ?_⟩ ?_
      · exact (congrArg speedLevel h).symm
      · rw [← h, ← hcap]
      · simp [isActivelyMoving, hsport]
  | setMotionModeName name =>
    rw [apply, setMotionModeName_eq, Idle]
    split_ifs with hprofile
    · exact iff_of_true rfl hprofile
    · rw [relimit_eq_iff]
      exact iff_of_false (fun h => hprofile (congrArg motionProfile h.1).symm) hprofile
  | unlockJoints =>
    obtain ⟨⟩ := s
    simp [apply, unlockJoints, Idle, eq_comm]
  | setGait gait =>
    rw [apply, setGait, Idle]
    split_ifs with hzero hgait
    · simp [lockJoints, hzero]
    · obtain ⟨⟩ := s
      simp [unlockJoints, hzero, hgait, eq_comm]
    · simp [hzero, hgait]
  | setVisionWalk enabled => exact s.setWalkMode_eq_self_iff _ _
  | setFreeWalk =>
    obtain ⟨⟩ := s
    simp [apply, setFreeWalk, unlockJoints, Idle, eq_comm, and_comm]
  | setClassicWalk enabled => exact s.setWalkMode_eq_self_iff _ _
  | setFastWalk enabled => exact s.setWalkMode_eq_self_iff _ _
  | handleMove p =>
    cases hlocked : s.jointsLocked <;> simp [apply, handleMove, acceptMove, Idle, hlocked]
  | tick =>
    rw [apply, tick_eq, Idle]
    cases s.tickExpires now <;> simp
  | resetToDefaults => simp [apply, resetToDefaults, Idle]
  | lockJoints => simp [apply, lockJoints, Idle]
  | handleStop => simp [apply, handleStop, Idle]

/-- A mode name, if there is one, is idle iff it stands for the profile in effect. -/
theorem applyIfSome_setMotionModeName_eq_self_iff
    (hcap : s.maxLinearSpeed = capOf s.motionProfile s.speedLevel) (sdk : UnitreeSdk K)
    (now : Time) (modeName : Option String) :
    s.applyIfSome sdk now (modeName.map .setMotionModeName) = (s, []) ↔
      ∀ name, modeName = some name → s.motionProfile = motionProfileFromModeName name := by
  cases modeName with
  | none => simp
  | some name =>
    have hidle : s.apply sdk now (.setMotionModeName name) = (s, []) ↔
        s.motionProfile = motionProfileFromModeName name :=
      apply_eq_self_iff s hcap sdk now (.setMotionModeName name)
    simpa using hidle

end Idle

end CmdVelPublisher

/-! ## Idle inputs of the application -/

namespace MotionSwitcherBridge

/-- Storing a name and a form changes nothing iff they are stored already. -/
theorem store_eq_self_iff (s : MotionSwitcherBridge)
    (newName newForm : String) :
    ({ s with modeName := newName, form := newForm } : MotionSwitcherBridge) = s ↔
      s.modeName = newName ∧ s.form = newForm := by
  constructor
  · intro h
    exact ⟨(congrArg modeName h).symm, (congrArg form h).symm⟩
  · rintro ⟨rfl, rfl⟩
    rfl

/-- The same for a record, whose form counts only if it is not empty. -/
theorem storeRecord_eq_self_iff (s : MotionSwitcherBridge) (m : JsonizeModeName) :
    ({ s with modeName := m.name, form := if m.form.isEmpty then s.form else m.form } :
        MotionSwitcherBridge) = s ↔
      s.modeName = m.name ∧ (m.form = "" ∨ s.form = m.form) := by
  rw [store_eq_self_iff]
  by_cases hform : m.form = "" <;> simp [hform]

end MotionSwitcherBridge

namespace App

section Idle

variable {K : Type} (sdk : UnitreeSdk K) (app : App K)

/-- A motion switcher request that is rejected, reads, or stores what is stored already. -/
def IdleSwitcherRequest (request : Request) : Prop :=
  let s := app.motionSwitcherBridge
  let profile := app.cmdVelPublisher.motionProfile
  match sdk.switcherApi? request.apiId32 with
  | some .selectMode =>
    s.robotPosture = .standDown →
      ∀ m, sdk.fromJsonModeName request.parameter = some m → m.name ≠ "" →
        (s.modeName = m.name ∧ (m.form = "" ∨ s.form = m.form)) ∧
        ∀ name, parseStringParameter sdk request.parameter "name" = some name →
          profile = CmdVelPublisher.motionProfileFromModeName name
  | some .releaseMode => s.robotPosture = .standDown → s.modeName = "" ∧ profile = .ai
  | some .setSilent =>
    ∀ d, sdk.fromJsonSilent request.parameter = some d → s.silent = d.silent
  | some .checkMode | some .getSilent | none => True

/-- A sport request that nobody handles, or that asks for an idle operation. -/
def IdleSportRequest (now : Time) (request : Request) : Prop :=
  match sportCommand sdk request with
  | .lockAnd _ _ | .balanceStand | .stopMove => False
  | .move parameterJson => app.cmdVelPublisher.Idle now (.handleMove parameterJson)
  | .setting op => app.cmdVelPublisher.Idle now op
  | .ignored => True

variable [Field K] [LinearOrder K] [HasHypot K]

/-- The input asks for what is there already. -/
def Idle (x : Timed AppInput) : Prop :=
  match x.op with
  | .sportRequest request => IdleSportRequest sdk app x.now request
  | .switcherRequest request => IdleSwitcherRequest sdk app request
  | .reset => False
  | .loop =>
    app.cmdVelPublisher.Idle x.now .tick ∧
      app.loopPosture x.now = app.motionSwitcherBridge.robotPosture

/-- The input leaves both components as they are and publishes nothing. -/
structure Untouched (x : Timed AppInput) : Prop where
  cmdVelPublisher : (App.step sdk app x).1.cmdVelPublisher = app.cmdVelPublisher
  motionSwitcherBridge : (App.step sdk app x).1.motionSwitcherBridge = app.motionSwitcherBridge
  twists_eq : twists (App.step sdk app x).2 = []
  commands_eq : commands (App.step sdk app x).2 = []

variable {sdk app} {x : Timed AppInput}

/-- An input leaves no trace iff its effect has none. -/
theorem untouched_iff_effect :
    Untouched sdk app x ↔
      app.cmdVelPublisher.applyIfSome sdk x.now (app.effect sdk x).velOp =
          (app.cmdVelPublisher, []) ∧
        (app.effect sdk x).fsmCommand = none ∧
        (app.effect sdk x).motionSwitcherBridge = app.motionSwitcherBridge := by
  have hcommands : commands (App.step sdk app x).2 = [] ↔
      (app.effect sdk x).fsmCommand = none := by
    rw [step_commands]
    cases (app.effect sdk x).fsmCommand <;> simp
  constructor
  · rintro ⟨hvel, hbridge, htwists, hnone⟩
    rw [step_cmdVelPublisher] at hvel
    rw [step_twists] at htwists
    rw [step_motionSwitcherBridge] at hbridge
    exact ⟨Prod.ext hvel htwists, hcommands.mp hnone, hbridge⟩
  · rintro ⟨hvel, hfsm, hbridge⟩
    refine ⟨?_, ?_, ?_, hcommands.mpr hfsm⟩
    · rw [step_cmdVelPublisher, hvel]
    · rw [step_motionSwitcherBridge, hbridge]
    · rw [step_twists, hvel]

/-- Where there is no trace, only the response is put out. -/
theorem Untouched.step_eq (h : Untouched sdk app x) :
    App.step sdk app x = (app, (app.effect sdk x).response.toList) := by
  obtain ⟨hvel, hfsm, hbridge⟩ := untouched_iff_effect.mp h
  rw [App.step_eq, afterEffect, emitted, hvel, hfsm, hbridge]
  rfl

variable (hcap : app.cmdVelPublisher.maxLinearSpeed =
  CmdVelPublisher.capOf app.cmdVelPublisher.motionProfile app.cmdVelPublisher.speedLevel)

include hcap

/-- A sport request leaves no trace iff it is idle. -/
theorem untouched_sportRequest_iff (now : Time) (request : Request) :
    Untouched sdk app ⟨now, .sportRequest request⟩ ↔ IdleSportRequest sdk app now request := by
  rw [untouched_iff_effect, IdleSportRequest]
  cases hcmd : sportCommand sdk request with
  | lockAnd posture fsm => simp [effect, hcmd, SportCommand.fsmCommand]
  | balanceStand => simp [effect, hcmd, SportCommand.fsmCommand]
  | stopMove =>
    simp [effect, hcmd, SportCommand.velOp, CmdVelPublisher.apply, CmdVelPublisher.handleStop]
  | move p =>
    show _ ↔ app.cmdVelPublisher.jointsLocked = true
    cases hlocked : app.cmdVelPublisher.jointsLocked <;>
      simp [effect, hcmd, SportCommand.velOp, SportCommand.fsmCommand, SportCommand.posture,
        CmdVelPublisher.apply, CmdVelPublisher.handleMove, CmdVelPublisher.acceptMove, hlocked]
  | setting op =>
    show _ ↔ app.cmdVelPublisher.Idle now op
    rw [← CmdVelPublisher.apply_eq_self_iff _ hcap sdk now]
    simp [effect, hcmd, SportCommand.velOp, SportCommand.fsmCommand, SportCommand.posture]
  | ignored =>
    simp [effect, hcmd, SportCommand.velOp, SportCommand.fsmCommand, SportCommand.posture]

/-- A motion switcher request leaves no trace iff it is idle.

**Proof sketch.** Case analysis on the api id. The two reading requests and a foreign id touch
nothing. A rejected mode change touches nothing; a granted one stores name and form and sets the
profile, which must all be there already. SET_SILENT stores its flag. -/
theorem untouched_switcherRequest_iff (now : Time) (request : Request) :
    Untouched sdk app ⟨now, .switcherRequest request⟩ ↔ IdleSwitcherRequest sdk app request := by
  have hprofile :=
    CmdVelPublisher.applyIfSome_setMotionModeName_eq_self_iff app.cmdVelPublisher hcap sdk now
  rw [untouched_iff_effect, IdleSwitcherRequest]
  simp only [effect, switcherOp, true_and]
  obtain ⟨vel, ctl, s⟩ := app
  dsimp only at hprofile ⊢
  cases hapi : sdk.switcherApi? request.apiId32 with
  | none => simp [buildInterceptResponseData_of_none sdk hapi]
  | some api =>
    have hid : request.apiId32 = sdk.switcherApiId api :=
      (sdk.switcherApi?_eq_some_iff.mp hapi).symm
    rw [hid, buildInterceptResponseData_switcherApiId]
    cases api with
    | checkMode | getSilent => simp
    | selectMode =>
      rcases selectMode_cases sdk s request with
        ⟨hup, h⟩ | ⟨-, hempty, h⟩ | ⟨hdown, m, hparse, hname, h⟩
      · simp [h, hup, sdk.errBusy_ne_zero, sportStatusSuccess]
      · simp only [h, sportStatusSuccess, sdk.errApiParameter_ne_zero, if_false]
        exact iff_of_true ⟨rfl, trivial⟩ fun _ m hm hne => absurd (hempty m hm) hne
      · have hstore := s.storeRecord_eq_self_iff m
        simp only [h, if_true, hprofile, hstore, imp_iff_right hdown]
        constructor
        · rintro ⟨hop, hfields⟩ m' hm' -
          obtain rfl : m = m' := Option.some.inj (hparse.symm.trans hm')
          exact ⟨hfields, hop⟩
        · intro hidle
          obtain ⟨hfields, hop⟩ := hidle m hparse hname
          exact ⟨hop, hfields⟩
    | releaseMode =>
      rcases releaseMode_cases sdk s with ⟨hup, h⟩ | ⟨hdown, h⟩
      · simp [h, hup, sdk.errBusy_ne_zero, sportStatusSuccess]
      · have hname := s.store_eq_self_iff "" s.form
        have hprofile_ai := hprofile (some "ai")
        simp only [Option.map_some, Option.some.injEq, forall_eq'] at hprofile_ai
        simp only [h, if_true, imp_iff_right hdown, hname, and_true, hprofile_ai]
        exact and_comm
    | setSilent =>
      simp only [MotionSwitcherBridge.setSilent]
      cases hparse : sdk.fromJsonSilent request.parameter with
      | none => simp
      | some d =>
        obtain ⟨⟩ := s
        simp [eq_comm]

/-- **Inputs without a trace** are the idle ones.

**Proof sketch.** Case analysis on the input. A reset publishes zero, so it is never idle; an
iteration of the loop is idle if its `Tick` is and it would write the posture that is there. -/
theorem untouched_iff : Untouched sdk app x ↔ Idle sdk app x := by
  obtain ⟨now, op⟩ := x
  cases op with
  | sportRequest request => exact untouched_sportRequest_iff hcap now request
  | switcherRequest request => exact untouched_switcherRequest_iff hcap now request
  | reset =>
    rw [untouched_iff_effect]
    simp [effect, Idle, CmdVelPublisher.apply, CmdVelPublisher.resetToDefaults]
  | loop =>
    rw [untouched_iff_effect, Idle, ← CmdVelPublisher.apply_eq_self_iff _ hcap sdk now]
    have hposture : ({ app.motionSwitcherBridge with robotPosture := app.loopPosture now } :
        MotionSwitcherBridge) = app.motionSwitcherBridge ↔
        app.loopPosture now = app.motionSwitcherBridge.robotPosture := by
      constructor
      · exact congrArg MotionSwitcherBridge.robotPosture
      · intro h
        rw [h]
    simp [effect, hposture]

end Idle

/-! ## Rejected, unreadable and gated requests -/

section NoTrace

variable {K : Type} [Field K] [LinearOrder K] [HasHypot K] (sdk : UnitreeSdk K) (app : App K)

/-- The input is a request that is not tracked or only reads, that is answered with an error,
that meets locked joints, whose parameter does not parse, or whose gait is out of range. -/
def NoTrace (x : Timed AppInput) : Prop :=
  match x.op with
  | .switcherRequest request =>
    switcherStatuses (App.step sdk app x).2 ≠ [0] ∨
    sdk.switcherApi? request.apiId32 ∈ [none, some .checkMode, some .getSilent]
  | .sportRequest request =>
    let api := sdk.sportApi? request.apiId32
    api = none ∨
    (api = some .move ∧ app.cmdVelPublisher.isJointsLocked = true) ∨
    (api ∈ [some .speedLevel, some .switchGait] ∧
      parseIntParameter sdk request.parameter = none) ∨
    (api ∈ [some .switchMoveMode, some .visionWalk, some .classicWalkGo2, some .classicWalkB2,
      some .fastWalk] ∧ parseBoolParameter sdk request.parameter = none) ∨
    (api = some .switchGait ∧
      ∃ gait, parseIntParameter sdk request.parameter = some gait ∧ ¬(0 ≤ gait ∧ gait ≤ 4))
  | .reset | .loop => False

variable {sdk app}

/-- A motion switcher request that is answered with an error or only reads is idle.

**Proof sketch.** A request that only reads is idle by definition. For each of the three others the
status lemma says when the answer is no error; an answer with an error violates that condition, and
then the request is idle for want of it. -/
theorem idleSwitcherRequest_of_noTrace {now : Time} {request : Request}
    (h : NoTrace sdk app ⟨now, .switcherRequest request⟩) :
    IdleSwitcherRequest sdk app request := by
  have hstatus : (switcherResponse sdk app.motionSwitcherBridge request).statusCode ≠ 0 ∨
      sdk.switcherApi? request.apiId32 ∈ [none, some .checkMode, some .getSilent] := by
    refine h.imp_left fun hne hzero => hne ?_
    rw [step_switcherStatuses]
    exact congrArg (fun status => [status]) hzero
  unfold IdleSwitcherRequest
  cases hapi : sdk.switcherApi? request.apiId32 with
  | none => trivial
  | some api =>
    have hid : request.apiId32 = sdk.switcherApiId api :=
      (sdk.switcherApi?_eq_some_iff.mp hapi).symm
    cases api with
    | checkMode | getSilent => trivial
    | selectMode =>
      have hne := hstatus.resolve_right (by simp [hapi])
      rw [Ne, MotionSwitcherBridge.status_selectMode_eq_zero_iff sdk _ hid] at hne
      exact fun hdown m hm hname => absurd ⟨hdown, m, hm, hname⟩ hne
    | releaseMode =>
      have hne := hstatus.resolve_right (by simp [hapi])
      rw [Ne, MotionSwitcherBridge.status_releaseMode_eq_zero_iff sdk _ hid] at hne
      exact fun hdown => absurd hdown hne
    | setSilent =>
      have hne := hstatus.resolve_right (by simp [hapi])
      rw [Ne, MotionSwitcherBridge.status_setSilent_eq_zero_iff sdk _ hid] at hne
      exact fun d hd => absurd (by simp [hd]) hne

/-- A sport request that is not tracked, is gated, does not parse or is out of range is idle. -/
theorem idleSportRequest_of_noTrace {now : Time} {request : Request}
    (h : NoTrace sdk app ⟨now, .sportRequest request⟩) :
    IdleSportRequest sdk app now request := by
  unfold IdleSportRequest sportCommand
  rcases h with hnone | ⟨hmove, hlocked⟩ | ⟨hapi, hparse⟩ | ⟨hapi, hparse⟩ |
    ⟨hapi, gait, hparse, hrange⟩
  · rw [hnone]
    trivial
  · rw [hmove]
    exact hlocked
  · simp only [List.mem_cons, List.not_mem_nil, or_false] at hapi
    rcases hapi with hapi | hapi <;> simp [hapi, hparse, SportCommand.ofParsed]
  · simp only [List.mem_cons, List.not_mem_nil, or_false] at hapi
    rcases hapi with hapi | hapi | hapi | hapi | hapi <;>
      simp [hapi, hparse, SportCommand.ofParsed]
  · rw [hapi, hparse]
    refine ⟨?_, fun hgait => absurd ⟨Int32.le_trans (by decide) hgait.1, hgait.2⟩ hrange⟩
    rintro rfl
    exact hrange (by decide)

/-- Such requests are idle. -/
theorem NoTrace.idle {x : Timed AppInput} (h : NoTrace sdk app x) : Idle sdk app x := by
  obtain ⟨now, op⟩ := x
  cases op with
  | sportRequest request => exact idleSportRequest_of_noTrace h
  | switcherRequest request => exact idleSwitcherRequest_of_noTrace h
  | reset => exact absurd h id
  | loop => exact absurd h id

end NoTrace

section Deletion

variable (sdk : UnitreeSdk ℝ) {marked : List (Timed AppInput × Bool)}

/-- Along a run whose marked inputs are rejected, unreadable or gated, they leave no trace. -/
theorem untouched_along (hmarked : ∀ pre x post, marked = pre ++ (x, true) :: post →
    NoTrace sdk (stateAfter sdk (pre.map Prod.fst)) x) :
    Along (fun app x => next (App.step sdk) app x.1)
      (fun app x => x.2 = true → Untouched sdk app x.1) App.init marked := by
  rw [along_iff_forall_split]
  rintro pre ⟨x, mark⟩ post hsplit rfl
  have hrun : run (fun app x => next (App.step sdk) app x.1) App.init pre =
      stateAfter sdk (pre.map Prod.fst) := by
    simp [stateAfter, run, List.foldl_map]
  rw [hrun]
  exact (untouched_iff (consistent_after sdk _).cap_eq).mpr (hmarked pre x post hsplit).idle

/-- Deleting them does not change the final state. -/
theorem stateAfter_kept (hmarked : ∀ pre x post, marked = pre ++ (x, true) :: post →
    NoTrace sdk (stateAfter sdk (pre.map Prod.fst)) x) :
    stateAfter sdk (kept marked) = stateAfter sdk (marked.map Prod.fst) := by
  refine run_kept (next (App.step sdk)) ?_
  refine along_of_invariant _ (Q := fun _ => True) (fun _ _ _ _ => trivial) ?_ trivial
    (untouched_along sdk hmarked)
  intro app x _ hx hmark
  rw [next, (hx hmark).step_eq]

/-- Deleting them changes nothing for an observer of messages. -/
theorem trace_kept {α : Type} (f : Output ℝ → Option α)
    (hf : ∀ app x, Untouched sdk app x → (App.step sdk app x).2.filterMap f = [])
    (hmarked : ∀ pre x post, marked = pre ++ (x, true) :: post →
      NoTrace sdk (stateAfter sdk (pre.map Prod.fst)) x) :
    (App.after sdk (kept marked)).trace.filterMap f =
      (App.after sdk (marked.map Prod.fst)).trace.filterMap f := by
  refine recorded_kept_filterMap (App.step sdk) f ?_
  refine along_of_invariant _ (Q := fun _ => True) (fun _ _ _ _ => trivial) ?_ trivial
    (untouched_along sdk hmarked)
  intro app x _ hx hmark
  refine ⟨?_, hf app x.1 (hx hmark)⟩
  rw [next, (hx hmark).step_eq]

end Deletion

/-- **Deletion.** Requests that are rejected, unreadable or gated in a run can be deleted from it:
what is published, the final state, and what every other input puts out stay the same.

**Proof sketch.** Every marked request is idle in the state it finds, so deleting it changes neither
that state nor what is published, and `trace_kept` and `stateAfter_kept` carry this over the whole
run. A kept input therefore finds the same state in both runs. -/
theorem noTrace_deleted (sdk : UnitreeSdk ℝ) (marked : List (Timed AppInput × Bool))
    (hmarked : ∀ pre x post, marked = pre ++ (x, true) :: post →
      NoTrace sdk (stateAfter sdk (pre.map Prod.fst)) x) :
    twists (App.after sdk (kept marked)).trace =
        twists (App.after sdk (marked.map Prod.fst)).trace ∧
      commands (App.after sdk (kept marked)).trace =
        commands (App.after sdk (marked.map Prod.fst)).trace ∧
      stateAfter sdk (kept marked) = stateAfter sdk (marked.map Prod.fst) ∧
      ∀ pre x post, marked = pre ++ (x, false) :: post →
        (App.step sdk (stateAfter sdk (kept pre)) x).2 =
          (App.step sdk (stateAfter sdk (pre.map Prod.fst)) x).2 := by
  refine ⟨?_, ?_, stateAfter_kept sdk hmarked, fun pre x post hsplit => ?_⟩
  · exact trace_kept sdk Output.twist? (fun _ _ h => h.twists_eq) hmarked
  · exact trace_kept sdk Output.command? (fun _ _ h => h.commands_eq) hmarked
  · have hpre : stateAfter sdk (kept pre) = stateAfter sdk (pre.map Prod.fst) := by
      refine stateAfter_kept sdk fun a y b hsplit' => ?_
      refine hmarked a y (b ++ (x, false) :: post) ?_
      rw [hsplit, hsplit', List.append_assoc]
      rfl
    rw [hpre]

/-- An error, and a gait that does not parse, deleted from a run. -/
theorem noTrace_deleted_busy_gait :
    let stand : Timed AppInput := ⟨0, .sportRequest (sampleRequest 1002 "")⟩
    let release : Timed AppInput := ⟨1, .switcherRequest (sampleRequest 1003 "")⟩
    let gait : Timed AppInput := ⟨2, .sportRequest (sampleRequest 1011 "")⟩
    stateAfter (sampleSdk ℝ) [stand] = stateAfter (sampleSdk ℝ) [stand, release, gait] := by
  intro stand release gait
  refine (noTrace_deleted (sampleSdk ℝ) [(stand, false), (release, true), (gait, true)] ?_).2.2.1
  have hbusy : switcherStatuses
      (App.step (sampleSdk ℝ) (stateAfter (sampleSdk ℝ) [stand]) release).2 = [7002] := rfl
  intro pre x post hsplit
  match pre with
  | [] => simp at hsplit
  | [_] =>
    obtain ⟨rfl, rfl, -⟩ : _ ∧ release = x ∧ _ := by simpa using hsplit
    refine Or.inl ?_
    rw [List.map_singleton, hbusy]
    decide
  | [_, _] =>
    obtain ⟨-, -, rfl, -⟩ : _ ∧ _ ∧ gait = x ∧ _ := by simpa using hsplit
    exact Or.inr (Or.inr (Or.inl ⟨by simp; decide, rfl⟩))
  | _ :: _ :: _ :: _ => simp at hsplit

/-! ## Unknown API ids -/

section UnknownId

variable {K : Type} (sdk : UnitreeSdk K)

/-- The input is a request whose 64-bit API id is none of those its bridge tracks. -/
def UnknownId (input : AppInput) : Prop :=
  match input with
  | .sportRequest request => ∀ api, request.identity.apiId ≠ (sdk.sportApiId api).toInt64
  | .switcherRequest request => ∀ api, request.identity.apiId ≠ (sdk.switcherApiId api).toInt64
  | .reset | .loop => False

/-- The API id of the request differs from a tracked one by a multiple of `2 ^ 32`. -/
def WrapsToTracked (input : AppInput) : Prop :=
  match input with
  | .sportRequest request =>
    ∃ api, ∃ k : ℤ, request.identity.apiId.toInt = (sdk.sportApiId api).toInt + k * 2 ^ 32
  | .switcherRequest request =>
    ∃ api, ∃ k : ℤ, request.identity.apiId.toInt = (sdk.switcherApiId api).toInt + k * 2 ^ 32
  | .reset | .loop => False

/-- Narrowing to 32 bits forgets multiples of `2 ^ 32`. -/
theorem toInt32_eq_iff (a : Int64) (b : Int32) :
    a.toInt32 = b ↔ ∃ k : ℤ, a.toInt = b.toInt + k * 2 ^ 32 := by
  have hlow := Int32.le_toInt b
  have hhigh := Int32.toInt_lt b
  rw [← Int32.toInt_inj, Int64.toInt_toInt32]
  constructor
  · intro h
    have hdiv := Int.bdiv_add_bmod a.toInt (2 ^ 32)
    exact ⟨a.toInt.bdiv (2 ^ 32), by omega⟩
  · rintro ⟨k, hk⟩
    have hwrap : (b.toInt + k * 2 ^ 32).bmod (2 ^ 32) = b.toInt.bmod (2 ^ 32) :=
      Int.add_mul_bmod_self_right _ _ _
    rw [hk, hwrap]
    exact Int.bmod_eq_of_le (by omega) (by omega)

/-- A request whose id does not wrap to a tracked one is idle in every state.

**Proof sketch.** Narrowed to 32 bits the id is that of a tracked api exactly if it wraps to one. If
it does not, the lookup finds nothing, and such a request is idle. -/
theorem idle_of_not_wraps {input : AppInput} (hid : UnknownId sdk input)
    (hwraps : ¬ WrapsToTracked sdk input) [Field K] [LinearOrder K] [HasHypot K] (app : App K)
    (now : Time) : Idle sdk app ⟨now, input⟩ := by
  cases input with
  | sportRequest request =>
    have hapi : sdk.sportApi? request.apiId32 = none := by
      rw [Option.eq_none_iff_forall_ne_some]
      intro api hsome
      rw [sdk.sportApi?_eq_some_iff, eq_comm, Request.apiId32, toInt32_eq_iff] at hsome
      exact hwraps ⟨api, hsome⟩
    simp [Idle, IdleSportRequest, sportCommand, hapi]
  | switcherRequest request =>
    have hapi : sdk.switcherApi? request.apiId32 = none := by
      rw [Option.eq_none_iff_forall_ne_some]
      intro api hsome
      rw [sdk.switcherApi?_eq_some_iff, eq_comm, Request.apiId32, toInt32_eq_iff] at hsome
      exact hwraps ⟨api, hsome⟩
    simp [Idle, IdleSwitcherRequest, hapi]
  | reset => exact absurd hid id
  | loop => exact absurd hid id

end UnknownId

/-- **Unknown ids.** In every reachable state a request with an unknown 64-bit API id leaves no
trace iff, should narrowing turn its id into a tracked one, it asks for what is there already.

**Proof sketch.** The cap of a reachable state is the one of profile and level, so `untouched_iff`
makes leaving no trace the same as being idle. An unknown id that does not wrap to a tracked one is
idle in any state, so only those that wrap are left. -/
theorem unknown_id_untouched_iff (sdk : UnitreeSdk ℝ) (h : List (Timed AppInput)) (now : Time)
    (input : AppInput) :
    (UnknownId sdk input → Untouched sdk (stateAfter sdk h) ⟨now, input⟩) ↔
      (UnknownId sdk input → WrapsToTracked sdk input →
        Idle sdk (stateAfter sdk h) ⟨now, input⟩) := by
  refine imp_congr_right fun hid => ?_
  rw [untouched_iff (consistent_after sdk h).cap_eq]
  refine ⟨fun hidle _ => hidle, fun hidle => ?_⟩
  by_cases hwraps : WrapsToTracked sdk input
  · exact hidle hwraps
  · exact idle_of_not_wraps sdk hid hwraps _ now

/-- An unknown id that is STANDDOWN's plus `2 ^ 32` sends the robot down. -/
theorem unknown_id_stands_down :
    let input : AppInput := .sportRequest (sampleRequest 4294968301 "")
    UnknownId (sampleSdk ℝ) input ∧
      ¬ Untouched (sampleSdk ℝ) (stateAfter (sampleSdk ℝ) []) ⟨0, input⟩ := by
  intro input
  refine ⟨fun api => by cases api <;> decide, fun huntouched => ?_⟩
  have hcommands : commands (App.step (sampleSdk ℝ) (stateAfter (sampleSdk ℝ) [])
      ⟨0, input⟩).2 = [10002] := rfl
  have hnone := huntouched.commands_eq
  rw [hcommands] at hnone
  exact absurd hnone (by decide)

end App

end SdkEventBridge
