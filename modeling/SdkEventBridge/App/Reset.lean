import SdkEventBridge.App.Interleaving

set_option relaxedAutoImplicit false
set_option autoImplicit false

/-!
# A reset during a sport request

The `/reset` callback and a sport handler each update the velocity publisher and the motion
switcher in two separate calls, on different threads. This file compares every interleaving of
the two with the two orders in which one runs after the other. A handler that makes its calls
whatever it reads leaves an outcome that depends only on which of them come after the first and
after the second call of the reset; MOVE, which reads the lock in the middle, does so as well
unless it has read the lock before the reset begins.

## Main definitions

* `Observed`, `App.observe` — lock, active move, walk mode and posture.
* `resetDuring` — a sport request and a reset, interleaved.
* `Torn` — the interleavings that leave one object reset and the other not.
* `outcome` — what a list of calls leaves behind, given where the reset falls.

## Main results

* `observe_run_reset` — the outcome of an interleaving.
* `observe_reset_after_sport`, `observe_sport_after_reset` — those of the two serial orders.
* `reset_serialisable_iff` — when an interleaving has the outcome of a serial order.
-/

namespace SdkEventBridge

open PlanarNorm Resumption Run

/-- Lock state, active-move flag, walk mode and posture. -/
structure Observed where
  jointsLocked : Bool
  hasActiveMove : Bool
  walkMode : WalkMode
  robotPosture : RobotPosture
  deriving DecidableEq, Repr

/-- The calls of a command that finds the joints locked whenever it looks. -/
def SportCommand.calls : SportCommand → List Call
  | .lockAnd posture fsm =>
    [.cmdVel .lockJoints, .setRobotPosture posture, .publishCommand fsm.toInt32]
  | .balanceStand =>
    [.cmdVel .unlockJoints, .setRobotPosture .standUp,
      .publishCommand FsmCommand.getUpLocomotion.toInt32]
  | .stopMove => [.cmdVel .handleStop, .setRobotPosture .standUp]
  | .move parameterJson => [.cmdVel (.handleMove parameterJson), .isJointsLocked]
  | .setting op => [.cmdVel op]
  | .ignored => []

/-- What a reset leaves behind. -/
def Observed.defaults : Observed where
  jointsLocked := true
  hasActiveMove := false
  walkMode := .none
  robotPosture := .standDown

namespace App

/-- What is compared, read off the application. -/
def observe {K : Type} (app : App K) : Observed where
  jointsLocked := app.cmdVelPublisher.jointsLocked
  hasActiveMove := app.cmdVelPublisher.hasActiveMove
  walkMode := app.cmdVelPublisher.walkMode
  robotPosture := app.motionSwitcherBridge.robotPosture

/-- The two calls of a reset, with the handler's steps between them and after the second. -/
def resetSteps (between after : List Time) (e₁ e₂ : Time) : List (Label Thread AppInput Time) :=
  .advance .reset e₁ :: (between.map (.advance .sport) ++
    .advance .reset e₂ :: after.map (.advance .sport))

/-- A sport request and a reset: the handler makes steps before the reset's first call, between
its two calls, and after the second, at the clock readings given. -/
def resetDuring (request : Request) (before between after : List Time) (e₁ e₂ : Time) :
    List (Label Thread AppInput Time) :=
  [.start (.sportRequest request), .start .reset] ++
    (before.map (.advance .sport) ++ resetSteps between after e₁ e₂)

/-- The interleavings that leave one object reset and the other not. `before` and `between` count
the handler's calls before the reset's first call and between its two calls. BALANCESTAND is torn
between its two updates; MOVE is torn if it has read the lock as open and sets the posture after
the whole reset. -/
def Torn {K : Type} [Field K] [LinearOrder K] (sdk : UnitreeSdk K) (app : App K)
    (request : Request) (before between : ℕ) : Prop :=
  match sportCommand sdk request with
  | .balanceStand => (before = 0 ∧ 2 ≤ between) ∨ (before = 1 ∧ between = 0)
  | .move parameterJson =>
    app.cmdVelPublisher.jointsLocked = false ∧
      (parseMoveParameter sdk parameterJson).hasMotion = true ∧ before = 2 ∧ between = 0
  | .lockAnd _ _ | .stopMove | .setting _ | .ignored => False

/-! ## Outcomes -/

/-- What the calls leave behind if `before` of them come before the first call of the reset and
`between` before its second. -/
def outcome (is : List Call) (before between : ℕ) : Observed :=
  let settings := (is.drop before).foldl Settings.call .init
  { jointsLocked := settings.jointsLocked
    hasActiveMove := false
    walkMode := settings.walkMode
    robotPosture := (is.drop (before + between)).foldl RobotPosture.call .standDown }

/-- Calls that follow the write of a StandDown change neither settings nor posture, however many. -/
theorem foldl_call_of_afterDown {is : List Call} (his : ∀ i ∈ is, AfterDown i) (t : Settings)
    (posture : RobotPosture) :
    is.foldl Settings.call t = t ∧ is.foldl RobotPosture.call posture = posture := by
  induction is with
  | nil => exact ⟨rfl, rfl⟩
  | cons i is ih =>
    have hi := (his i (by simp)).call_eq t posture
    rw [List.foldl_cons, List.foldl_cons, hi.1, hi.2]
    exact ih fun j hj => his j (by simp [hj])

/-- The calls of the response leave nothing behind. -/
theorem outcome_append {is js : List Call} (hjs : ∀ i ∈ js, AfterDown i) (before between : ℕ) :
    outcome (is ++ js) before between = outcome is before between := by
  have hdrop : ∀ k, ∀ i ∈ js.drop k, AfterDown i := fun k i hi => hjs i (List.mem_of_mem_drop hi)
  simp only [outcome, List.drop_append, List.foldl_append,
    fun k t => (foldl_call_of_afterDown (hdrop k) t .standDown).1,
    fun k posture => (foldl_call_of_afterDown (hdrop k) .init posture).2]

/-- Later calls of the reset find fewer calls after them. -/
theorem outcome_drop (is : List Call) (k before between : ℕ) :
    outcome (is.drop k) before between = outcome is (k + before) between := by
  simp only [outcome, List.drop_drop, Nat.add_assoc]

section Commands

variable {K : Type} [Field K] [LinearOrder K]

/-- What a command does to the settings that a reset leaves behind: only its first call touches
them. -/
theorem foldl_settings_calls (cmd : SportCommand) (k : ℕ) :
    (cmd.calls.drop k).foldl Settings.call .init =
      if k = 0 then Settings.init.applyIfSome cmd.velOp else .init := by
  match k with
  | 0 => cases cmd <;> rfl
  | 1 => cases cmd <;> rfl
  | 2 => cases cmd <;> rfl
  | k + 3 =>
    rw [if_neg (by omega)]
    cases cmd <;> simp [SportCommand.calls]

/-- What a command does to the posture that a reset leaves behind: only its second call touches
it. -/
theorem foldl_posture_calls (sdk : UnitreeSdk K) (cmd : SportCommand) (k : ℕ) :
    (cmd.calls.drop k).foldl RobotPosture.call .standDown =
      if k ≤ 1 then cmd.posture sdk true .standDown else .standDown := by
  match k with
  | 0 => cases cmd <;> rfl
  | 1 => cases cmd <;> rfl
  | 2 => cases cmd <;> rfl
  | k + 3 =>
    rw [if_neg (by omega)]
    cases cmd <;> simp [SportCommand.calls]

/-- The outcome of each command. -/
theorem outcome_calls (sdk : UnitreeSdk K) (cmd : SportCommand) (before between : ℕ) :
    outcome cmd.calls before between =
      { jointsLocked :=
          (if before = 0 then Settings.init.applyIfSome cmd.velOp else .init).jointsLocked
        hasActiveMove := false
        walkMode := (if before = 0 then Settings.init.applyIfSome cmd.velOp else .init).walkMode
        robotPosture :=
          if before + between ≤ 1 then cmd.posture sdk true .standDown else .standDown } := by
  simp only [outcome, foldl_settings_calls, foldl_posture_calls sdk]

/-- Of a command other than BALANCESTAND at most one of the two updates differs from what a reset
leaves behind, and where the reset falls decides about that one alone.

**Proof sketch.** Such a command changes, with locked joints, the settings or the posture but not
both in a way that differs from the defaults. If the posture stays, only the settings see the order;
if the settings stay, only the posture does. Either way the outcome is the defaults or that of the
command made after the reset. -/
theorem outcome_serialisable (sdk : UnitreeSdk K) {cmd : SportCommand}
    (hcmd : cmd ≠ .balanceStand) (before between : ℕ) :
    outcome cmd.calls before between = .defaults ∨
      outcome cmd.calls before between = outcome cmd.calls 0 0 := by
  have hone : ((Settings.init.applyIfSome cmd.velOp).jointsLocked = true ∧
      (Settings.init.applyIfSome cmd.velOp).walkMode = .none) ∨
      cmd.posture sdk true .standDown = .standDown := by
    cases cmd with
    | balanceStand => exact absurd rfl hcmd
    | setting op => exact Or.inr rfl
    | _ => exact Or.inl ⟨rfl, rfl⟩
  have hinit : Settings.init.jointsLocked = true ∧ Settings.init.walkMode = .none := ⟨rfl, rfl⟩
  rw [outcome_calls sdk, outcome_calls sdk]
  rcases hone with hsettings | hposture
  · -- The settings look the same in every order.
    by_cases hbefore : before + between ≤ 1
    · refine Or.inr ?_
      split_ifs <;> simp_all
    · refine Or.inl ?_
      split_ifs <;> simp_all [Observed.defaults]
  · -- The posture is the same in every order.
    by_cases hbefore : before = 0
    · refine Or.inr ?_
      simp [hbefore, hposture]
    · refine Or.inl ?_
      simp [hbefore, hposture, hinit, Observed.defaults]

/-- Where the reset falls in a handler that makes its calls whatever it reads: only BALANCESTAND
is torn, if its two updates fall between the reset's two calls or the other way round. -/
theorem outcome_calls_iff (sdk : UnitreeSdk K) (cmd : SportCommand) (before between : ℕ) :
    outcome cmd.calls before between = .defaults ∨
      outcome cmd.calls before between = outcome cmd.calls 0 0 ↔
    ¬ (cmd = .balanceStand ∧ ((before = 0 ∧ 2 ≤ between) ∨ (before = 1 ∧ between = 0))) := by
  by_cases hcmd : cmd = .balanceStand
  · rw [hcmd, outcome_calls sdk, outcome_calls sdk]
    simp only [SportCommand.velOp, SportCommand.posture, Settings.applyIfSome_some, Settings.apply,
      Settings.init, Observed.defaults]
    split_ifs <;> simp <;> omega
  · exact iff_of_true (outcome_serialisable sdk hcmd before between) fun h => hcmd h.1

/-- The write of Walking at the end of a MOVE is torn if it comes after the whole reset. -/
theorem outcome_walking (motion : Bool) (before between : ℕ) :
    outcome (if motion then [.setRobotPosture .walking] else []) before between = .defaults ↔
      ¬ (motion = true ∧ before = 0 ∧ between = 0) := by
  cases motion with
  | false => simp [outcome, Observed.defaults, Settings.init]
  | true =>
    cases before with
    | zero =>
      cases between with
      | zero => simp [outcome, Observed.defaults, RobotPosture.call]
      | succ between => simp [outcome, Observed.defaults, Settings.call, Settings.init]
    | succ before =>
      have hsum : before + 1 + between = before + between + 1 := by omega
      simp [outcome, Observed.defaults, Settings.init, hsum]

end Commands

section Handler

variable {K : Type} [Field K] [LinearOrder K] [HasHypot K] (sdk : UnitreeSdk K)

/-- If the command is a MOVE then the joints are locked. -/
def FindsLocked (cmd : SportCommand) (app : App K) : Prop :=
  ∀ p, cmd = .move p → app.cmdVelPublisher.jointsLocked = true

/-- The calls of the response. -/
def respondCalls (request : Request) : List Call :=
  (if SdkEventBridgeClass.requiresPostureActionDelay sdk request.apiId32 then [.sleepFor]
    else []) ++ [.sendSportResponse (sportResponse sdk request)]

omit [Field K] [LinearOrder K] [HasHypot K] in
/-- The calls of the response may follow the write of a StandDown. -/
theorem afterDown_of_mem_respondCalls {request : Request} {i : Call}
    (h : i ∈ respondCalls sdk request) : AfterDown i := by
  unfold respondCalls at h
  split_ifs at h
  · rcases List.mem_pair.mp h with rfl | rfl
    · exact Or.inr (Or.inl rfl)
    · exact Or.inr (Or.inr ⟨_, rfl⟩)
  · rw [List.mem_singleton.mp h]
    exact Or.inr (Or.inr ⟨_, rfl⟩)

omit [Field K] [LinearOrder K] [HasHypot K] in
/-- The end of a request makes the calls of the response. -/
theorem follows_respond (I : App K → Prop) (request : Request) :
    (respond sdk request).Follows I (respondCalls sdk request) := by
  unfold respond respondCalls
  refine Prog.Follows.seq ?_ (.one _)
  split_ifs
  · exact .one _
  · rfl

omit [HasHypot K] in
/-- A report that finds the joints locked only reads the lock. -/
theorem follows_updatePostureFromMove (p : String) :
    (updatePostureFromMove sdk p).Follows (FindsLocked (.move p)) [.isJointsLocked] := by
  refine ⟨_, rfl, fun app happ => ?_⟩
  have hlocked : app.cmdVelPublisher.isJointsLocked = true := happ p rfl
  simp [hlocked]

omit [HasHypot K] in
/-- A sport request that finds the joints locked makes the calls of its command and then those of
the response. -/
theorem follows_sportRequest (request : Request) :
    (program sdk (.sportRequest request)).Follows (FindsLocked (sportCommand sdk request))
      ((sportCommand sdk request).calls ++ respondCalls sdk request) := by
  rw [program_sportRequest]
  refine Prog.Follows.seq ?_ (follows_respond sdk _ request)
  cases sportCommand sdk request with
  | move p => exact ⟨_, rfl, fun _ _ => follows_updatePostureFromMove sdk p⟩
  | _ => simp [SportCommand.calls, Prog.one]

/-! ## Interleavings -/

variable {sdk}

/-- A handler that follows the calls `is` to their end has made all of them. -/
theorem run_to_end {I : App K → Prop} {is : List Call} {c : AppPool K} {after : List Time}
    (hI : ∀ e s, ∀ i ∈ is, I s → I (App.call sdk e s i).1) (hc : I c.state)
    (hsport : (c.prog .sport).Follows I is)
    (hdone : (run (appSystem sdk).step c (after.map (.advance .sport))).prog .sport = .done) :
    let app := (run (appSystem sdk).step c (after.map (.advance .sport))).state
    I app ∧
      app.cmdVelPublisher.settings = is.foldl Settings.call c.state.cmdVelPublisher.settings ∧
      app.motionSwitcherBridge.robotPosture =
        is.foldl RobotPosture.call c.state.motionSwitcherBridge.robotPosture := by
  obtain ⟨hend, hfollows, -⟩ := System.run_follows (S := appSystem sdk) hI hc hsport after
  have hsettings := System.abs_run_follows (S := appSystem sdk)
    (fun app : App K => app.cmdVelPublisher.settings) Settings.call
    (fun e app i => call_settings sdk e app i) hI hc hsport after
  have hposture := System.abs_run_follows (S := appSystem sdk)
    (fun app : App K => app.motionSwitcherBridge.robotPosture) RobotPosture.call
    (fun e app i => call_robotPosture sdk e app i) hI hc hsport after
  rw [hdone, Prog.follows_done, List.drop_eq_nil_iff] at hfollows
  rw [List.take_of_length_le hfollows] at hsettings hposture
  exact ⟨hend, hsettings, hposture⟩

omit [Field K] [LinearOrder K] [HasHypot K] in
/-- A state whose settings and posture are those of the calls since the reset is the outcome. -/
theorem observe_eq_outcome {app : App K} {is : List Call} {between : ℕ}
    (hsettings : app.cmdVelPublisher.settings = is.foldl Settings.call .init)
    (hinactive : app.cmdVelPublisher.hasActiveMove = false)
    (hposture : app.motionSwitcherBridge.robotPosture =
      (is.drop between).foldl RobotPosture.call .standDown) :
    observe app = outcome is 0 between := by
  have hlock : app.cmdVelPublisher.jointsLocked = app.cmdVelPublisher.settings.jointsLocked := rfl
  have hwalk : app.cmdVelPublisher.walkMode = app.cmdVelPublisher.settings.walkMode := rfl
  simp only [observe, outcome, hlock, hwalk, hsettings, hposture, hinactive, List.drop_zero,
    Nat.zero_add]

/-- **The outcome of an interleaving**, from the first call of the reset on. The handler makes
the calls `is` in states that satisfy `I`, which hold from that call on.

**Proof sketch.** The first call of the reset makes the settings the defaults, and the handler's
calls up to the second call act on these. The second call sets the posture to StandDown, and the
calls left act on both. So the settings see all of `is`, and the posture only what comes after the
second call. -/
theorem observe_run_reset {I : App K → Prop} {is : List Call} {c : AppPool K} {e₁ e₂ : Time}
    {between after : List Time}
    (hI : ∀ e s, ∀ i ∈ .resetMotionSwitcher :: is, I s → I (App.call sdk e s i).1)
    (hinactive : ∀ s, I s → s.cmdVelPublisher.hasActiveMove = false)
    (hfirst : I (App.call sdk e₁ c.state (.cmdVel .resetToDefaults)).1)
    (hsport : (c.prog .sport).Follows I is) (hreset : c.prog .reset = resetCallback)
    (hdone : (run (appSystem sdk).step c (resetSteps between after e₁ e₂)).prog .sport = .done) :
    observe (run (appSystem sdk).step c (resetSteps between after e₁ e₂)).state =
      outcome is 0 between.length := by
  rw [resetSteps, run_cons, run_append, run_cons] at hdone ⊢
  -- The first call of the reset.
  set c₁ := (appSystem sdk).step c (.advance .reset e₁) with hc₁
  rw [System.step_advance_of_call hreset] at hc₁
  have hsettings₁ : c₁.state.cmdVelPublisher.settings = .init := by
    rw [hc₁]
    exact call_settings sdk e₁ c.state (.cmdVel .resetToDefaults)
  have hsport₁ : (c₁.prog .sport).Follows I is := by simpa [hc₁] using hsport
  have hreset₁ : c₁.prog .reset = .one .resetMotionSwitcher := by simp [hc₁]
  -- The handler's calls before the second.
  have hI₁ : I c₁.state := hc₁ ▸ hfirst
  have hcalls : ∀ e s, ∀ i ∈ is, I s → I (App.call sdk e s i).1 :=
    fun e s i hi => hI e s i (List.mem_cons_of_mem _ hi)
  obtain ⟨hI₂, hsport₂, hothers₂⟩ :=
    System.run_follows (S := appSystem sdk) hcalls hI₁ hsport₁ between
  have hsettings₂ := System.abs_run_follows (S := appSystem sdk)
    (fun app : App K => app.cmdVelPublisher.settings) Settings.call
    (fun e app i => call_settings sdk e app i) hcalls hI₁ hsport₁ between
  set c₂ := run (appSystem sdk).step c₁ (between.map (.advance .sport)) with hc₂
  -- The second call of the reset.
  set c₃ := (appSystem sdk).step c₂ (.advance .reset e₂) with hc₃
  rw [System.step_advance_of_call ((hothers₂ .reset (by decide)).trans hreset₁)] at hc₃
  have hI₃ : I c₃.state := hc₃ ▸ hI e₂ c₂.state .resetMotionSwitcher (by simp) hI₂
  have hsport₃ : (c₃.prog .sport).Follows I (is.drop between.length) := by
    simpa [hc₃] using hsport₂
  have hsettings₃ : c₃.state.cmdVelPublisher.settings =
      (is.take between.length).foldl Settings.call .init := by
    rw [hc₃, ← hsettings₁, ← hsettings₂]
    rfl
  have hposture₃ : c₃.state.motionSwitcherBridge.robotPosture = .standDown := by
    rw [hc₃]
    rfl
  -- The handler's calls after it, which are all that are left.
  obtain ⟨hend, hsettings, hposture⟩ :=
    run_to_end (fun e s i hi => hcalls e s i (List.mem_of_mem_drop hi)) hI₃ hsport₃ hdone
  rw [hsettings₃, ← List.foldl_append, List.take_append_drop] at hsettings
  rw [hposture₃] at hposture
  exact observe_eq_outcome hsettings (hinactive _ hend) hposture

omit [Field K] [LinearOrder K] [HasHypot K] in
/-- Only MOVE calls `HandleMove`. -/
theorem eq_move_of_mem {request : Request} {p : String}
    (h : .cmdVel (.handleMove p) ∈ (sportCommand sdk request).calls ++ respondCalls sdk request) :
    sportCommand sdk request = .move p := by
  rcases List.mem_append.mp h with h | h
  · cases hcmd : sportCommand sdk request with
    | setting op =>
      rw [hcmd] at h
      obtain rfl : op = .handleMove p := by simpa [SportCommand.calls, eq_comm] using h
      exact absurd (decodedFrom_of_eq hcmd) id
    | move q =>
      rw [hcmd] at h
      obtain rfl : p = q := by simpa [SportCommand.calls] using h
      rfl
    | _ =>
      rw [hcmd] at h
      simp [SportCommand.calls] at h
  · exact absurd rfl ((afterDown_of_mem_respondCalls sdk h).keepsDown.1 p)

/-- The handler's own calls keep `FindsLocked`. -/
theorem findsLocked_call {request : Request} {app : App K} {i : Call} (e : Time)
    (hi : i ∈ (sportCommand sdk request).calls ++ respondCalls sdk request)
    (h : FindsLocked (sportCommand sdk request) app) :
    FindsLocked (sportCommand sdk request) (App.call sdk e app i).1 := by
  intro p hmove
  rw [hmove] at hi
  have hsame : app.cmdVelPublisher.settings.call i = app.cmdVelPublisher.settings := by
    rcases List.mem_append.mp hi with hi | hi
    · rcases List.mem_pair.mp hi with rfl | rfl <;> rfl
    · exact ((afterDown_of_mem_respondCalls sdk hi).call_eq _ .standDown).1
  exact (congrArg Settings.jointsLocked ((call_settings sdk e app i).trans hsame)).trans
    (h p hmove)

/-- Once the reset has made its first call, no call of the handler begins a move. -/
theorem findsLocked_inactive_call {request : Request} {app : App K} {i : Call} (e : Time)
    (hi : i ∈ .resetMotionSwitcher ::
      ((sportCommand sdk request).calls ++ respondCalls sdk request))
    (h : FindsLocked (sportCommand sdk request) app ∧
      app.cmdVelPublisher.hasActiveMove = false) :
    FindsLocked (sportCommand sdk request) (App.call sdk e app i).1 ∧
      (App.call sdk e app i).1.cmdVelPublisher.hasActiveMove = false := by
  rcases List.mem_cons.mp hi with rfl | hi
  · exact h
  · refine ⟨findsLocked_call e hi h.1, call_inactive sdk e h.2 fun p hp => ?_⟩
    subst hp
    exact h.1 p (eq_move_of_mem hi)

/-- The outcome if the handler, from some point before the first call of the reset, makes the
rest of its calls as with locked joints.

**Proof sketch.** After the first call of the reset the joints are locked and no move is active, and
the handler's calls keep that, so it makes the same calls as with locked joints to the end.
`observe_run_reset` gives the outcome, to which the calls of the response add nothing. -/
theorem observe_of_follows {request : Request} {c : AppPool K} {e₁ e₂ : Time}
    {between after : List Time} {before : ℕ}
    (hsport : (c.prog .sport).Follows (FindsLocked (sportCommand sdk request))
      (((sportCommand sdk request).calls ++ respondCalls sdk request).drop before))
    (hreset : c.prog .reset = resetCallback)
    (hdone : (run (appSystem sdk).step c (resetSteps between after e₁ e₂)).prog .sport = .done) :
    observe (run (appSystem sdk).step c (resetSteps between after e₁ e₂)).state =
      outcome (sportCommand sdk request).calls before between.length := by
  have hfirst : (App.call sdk e₁ c.state (.cmdVel .resetToDefaults)).1.cmdVelPublisher.jointsLocked
      = true ∧ (App.call sdk e₁ c.state
        (.cmdVel .resetToDefaults)).1.cmdVelPublisher.hasActiveMove = false := by
    simp [App.call, CmdVelPublisher.apply, CmdVelPublisher.resetToDefaults]
  have hend := observe_run_reset
    (I := fun app => FindsLocked (sportCommand sdk request) app ∧
      app.cmdVelPublisher.hasActiveMove = false)
    (fun e s i hi => findsLocked_inactive_call e
      (List.cons_subset_cons _ (List.drop_subset _ _) hi))
    (fun s hs => hs.2) ⟨fun _ _ => hfirst.1, hfirst.2⟩ (hsport.mono fun s hs => hs.1) hreset hdone
  rw [hend, outcome_drop, Nat.add_zero,
    outcome_append fun i => afterDown_of_mem_respondCalls sdk]

variable (sdk)

/-- The request and the reset have begun, and neither has made a call. -/
def started (app : App K) (request : Request) : AppPool K where
  state := app
  trace := []
  prog := Function.update (Function.update (fun _ => .done) .sport
    (program sdk (.sportRequest request))) .reset resetCallback

/-- The steps before the reset come first, from the moment at which both have begun. -/
theorem run_resetDuring (app : App K) (request : Request) (before between after : List Time)
    (e₁ e₂ : Time) :
    run (appSystem sdk).step (Pool.idle app) (resetDuring request before between after e₁ e₂) =
      run (appSystem sdk).step (run (appSystem sdk).step (started sdk app request)
        (before.map (.advance .sport))) (resetSteps between after e₁ e₂) := by
  rw [resetDuring, run_append, run_append]
  rfl

variable {sdk} {app : App K} {request : Request} {before between after : List Time}
  {e₁ e₂ : Time}

/-- The outcome if the command is not a MOVE or the joints are locked. -/
theorem observe_of_findsLocked (h : FindsLocked (sportCommand sdk request) app)
    (hdone : (run (appSystem sdk).step (Pool.idle app)
      (resetDuring request before between after e₁ e₂)).prog .sport = .done) :
    observe (run (appSystem sdk).step (Pool.idle app)
      (resetDuring request before between after e₁ e₂)).state =
      outcome (sportCommand sdk request).calls before.length between.length := by
  rw [run_resetDuring] at hdone ⊢
  obtain ⟨-, hsport, hothers⟩ := System.run_follows (S := appSystem sdk) (t := .sport)
    (c := started sdk app request) (fun e s i hi => findsLocked_call e hi) h
    (follows_sportRequest sdk request) before
  exact observe_of_follows hsport (hothers .reset (by decide)) hdone

omit [HasHypot K] in
/-- A MOVE that has begun handles the velocity first, and then reports it. -/
theorem started_prog_of_move {p : String} (hmove : sportCommand sdk request = .move p) :
    (started sdk app request).prog .sport =
      .call (.cmdVel (.handleMove p)) fun _ =>
        (updatePostureFromMove sdk p).seq (respond sdk request) := by
  have hprogram := program_sportRequest sdk request
  rw [hmove, actions_move, Prog.call_seq] at hprogram
  exact hprogram

/-- The outcome of a MOVE of which at most one call comes before the reset. -/
theorem observe_of_length_le_one {p : String} (hmove : sportCommand sdk request = .move p)
    (hbefore : before.length ≤ 1)
    (hdone : (run (appSystem sdk).step (Pool.idle app)
      (resetDuring request before between after e₁ e₂)).prog .sport = .done) :
    observe (run (appSystem sdk).step (Pool.idle app)
      (resetDuring request before between after e₁ e₂)).state =
      outcome (sportCommand sdk request).calls before.length between.length := by
  rw [run_resetDuring] at hdone ⊢
  match before with
  | [] => exact observe_of_follows (follows_sportRequest sdk request) rfl hdone
  | [a] =>
    rw [List.map_singleton, run_cons, run_nil,
      System.step_advance_of_call (started_prog_of_move hmove)] at hdone ⊢
    refine observe_of_follows ?_ rfl hdone
    rw [hmove]
    exact (follows_updatePostureFromMove sdk p).seq (follows_respond sdk _ request)

/-- The outcome of a MOVE that has read the lock as open before the reset begins.

**Proof sketch.** The two calls made so far are `HandleMove` and the lock test, which finds the
joints unlocked. What is left are the write of Walking, if the MOVE has motion, and the response;
the handler makes these calls whatever it reads, and `observe_run_reset` gives the outcome. -/
theorem observe_of_unlocked {p : String} (hmove : sportCommand sdk request = .move p)
    (hunlocked : app.cmdVelPublisher.jointsLocked = false) {a b : Time}
    (hdone : (run (appSystem sdk).step (Pool.idle app)
      (resetDuring request (a :: b :: before) between after e₁ e₂)).prog .sport = .done) :
    observe (run (appSystem sdk).step (Pool.idle app)
      (resetDuring request (a :: b :: before) between after e₁ e₂)).state =
      outcome (if (parseMoveParameter sdk p).hasMotion then [.setRobotPosture .walking] else [])
        before.length between.length := by
  set walk : List Call :=
    if (parseMoveParameter sdk p).hasMotion then [.setRobotPosture .walking] else [] with hwalk
  rw [run_resetDuring, List.map_cons, List.map_cons, run_cons, run_cons] at hdone ⊢
  -- `HandleMove` leaves the joints unlocked, and `IsJointsLocked` finds them so.
  set c₁ := (appSystem sdk).step (started sdk app request) (.advance .sport a) with hc₁
  rw [System.step_advance_of_call (started_prog_of_move hmove)] at hc₁
  have hunlocked₁ : c₁.state.cmdVelPublisher.isJointsLocked = false := by
    rw [hc₁]
    exact (CmdVelPublisher.handleMove_jointsLocked _ sdk a p).trans hunlocked
  have hprog₁ : c₁.prog .sport =
      (updatePostureFromMove sdk p).seq (respond sdk request) := by simp [hc₁]
  set c₂ := (appSystem sdk).step c₁ (.advance .sport b) with hc₂
  rw [System.step_advance_of_call hprog₁] at hc₂
  have hsport₂ : (c₂.prog .sport).Follows (fun _ => True)
      (walk ++ respondCalls sdk request) := by
    have hnext : c₂.prog .sport = (if (parseMoveParameter sdk p).hasMotion then
        Prog.one (.setRobotPosture .walking) else .done).seq (respond sdk request) := by
      simp [hc₂, hunlocked₁]
    rw [hnext]
    refine Prog.Follows.seq ?_ (follows_respond sdk _ request)
    rw [hwalk]
    split_ifs
    · exact .one _
    · rfl
  have hreset₂ : c₂.prog .reset = resetCallback := by
    simp [hc₂, hc₁, started]
  -- From here on the handler makes its calls whatever it reads.
  obtain ⟨-, hsport, hothers⟩ :=
    System.run_follows (S := appSystem sdk) (fun _ _ _ _ h => h) trivial hsport₂ before
  have hcalls : ∀ i ∈ .resetMotionSwitcher :: (walk ++ respondCalls sdk request).drop before.length,
      ∀ q, i ≠ .cmdVel (.handleMove q) := by
    rintro i hi q rfl
    rcases List.mem_append.mp (List.mem_of_mem_drop ((List.mem_cons.mp hi).resolve_left (by simp)))
      with hmem | hmem
    · rw [hwalk] at hmem
      split_ifs at hmem <;> simp at hmem
    · exact absurd rfl ((afterDown_of_mem_respondCalls sdk hmem).keepsDown.1 q)
  have hend := observe_run_reset (I := fun app => app.cmdVelPublisher.hasActiveMove = false)
    (fun e s i hi hs => call_inactive sdk e hs fun q hq => absurd hq (hcalls i hi q))
    (fun s hs => hs)
    (by simp [App.call, CmdVelPublisher.apply, CmdVelPublisher.resetToDefaults])
    (hsport.mono fun _ _ => trivial) ((hothers .reset (by decide)).trans hreset₂) hdone
  rw [hend, outcome_drop, Nat.add_zero,
    outcome_append fun i => afterDown_of_mem_respondCalls sdk]

/-! ## The serial orders -/

/-- The outcome of the request followed by the reset. -/
theorem observe_reset_after_sport (t₁ t₂ : Time) :
    observe (App.step sdk (App.step sdk app ⟨t₁, .sportRequest request⟩).1 ⟨t₂, .reset⟩).1 =
      .defaults := by
  simp [observe, Observed.defaults, effect, CmdVelPublisher.apply, CmdVelPublisher.resetToDefaults,
    MotionSwitcherBridge.resetToDefaults]

/-- The outcome of the reset followed by the request.

**Proof sketch.** After the reset the settings are the defaults, no move is active and the posture
is StandDown. The request acts on these as its list of calls does, and with locked joints no move
becomes active. -/
theorem observe_sport_after_reset (t₁ t₂ : Time) :
    observe (App.step sdk (App.step sdk app ⟨t₁, .reset⟩).1 ⟨t₂, .sportRequest request⟩).1 =
      outcome (sportCommand sdk request).calls 0 0 := by
  set app' := (App.step sdk app ⟨t₁, .reset⟩).1 with happ'
  have hsettings' : app'.cmdVelPublisher.settings = .init := by
    rw [happ', step_settings]
    rfl
  have hinactive' : app'.cmdVelPublisher.hasActiveMove = false := by
    simp [happ', effect, CmdVelPublisher.apply, CmdVelPublisher.resetToDefaults]
  have hposture' : app'.motionSwitcherBridge.robotPosture = .standDown := by
    rw [happ', step_motionSwitcherBridge]
    rfl
  have hlocked' : app'.cmdVelPublisher.jointsLocked = true :=
    congrArg Settings.jointsLocked hsettings'
  set app'' := (App.step sdk app' ⟨t₂, .sportRequest request⟩).1 with happ''
  have hsettings : app''.cmdVelPublisher.settings =
      (sportCommand sdk request).calls.foldl Settings.call .init := by
    rw [happ'', step_settings, hsettings']
    exact (foldl_settings_calls _ 0).symm
  have hposture : app''.motionSwitcherBridge.robotPosture =
      (sportCommand sdk request).calls.foldl RobotPosture.call .standDown := by
    rw [happ'', step_motionSwitcherBridge]
    simp only [effect, hlocked', hposture']
    exact (foldl_posture_calls sdk _ 0).symm
  have hinactive : app''.cmdVelPublisher.hasActiveMove = false := by
    rw [happ'', step_cmdVelPublisher]
    exact CmdVelPublisher.applyIfSome_inactive _ sdk t₂ hinactive' fun _ _ => hlocked'
  exact observe_eq_outcome hsettings hinactive hposture

omit [HasHypot K] in
/-- With locked joints only BALANCESTAND can be torn. -/
theorem torn_of_findsLocked {m n : ℕ} (h : FindsLocked (sportCommand sdk request) app) :
    Torn sdk app request m n ↔ sportCommand sdk request = .balanceStand ∧
      ((m = 0 ∧ 2 ≤ n) ∨ (m = 1 ∧ n = 0)) := by
  unfold Torn
  cases hcmd : sportCommand sdk request with
  | move p => simp [h p hcmd]
  | _ => simp

omit [HasHypot K] in
/-- With unlocked joints a MOVE is torn if it has motion and the whole reset runs between its two
reads of the lock. -/
theorem torn_of_unlocked {m n : ℕ} {p : String} (hmove : sportCommand sdk request = .move p)
    (hunlocked : app.cmdVelPublisher.jointsLocked = false) :
    Torn sdk app request m n ↔
      (parseMoveParameter sdk p).hasMotion = true ∧ m = 2 ∧ n = 0 := by
  simp [Torn, hmove, hunlocked]

end Handler

/-- **Resets during sport requests.** Whatever the state in which request and reset begin and
however their calls interleave, lock, active move, walk mode and posture end as in one of the two
serial orders if and only if the interleaving is not torn.

**Proof sketch.** The outcome of each of the two serial orders is computed: the defaults, and that
of the command after the reset. If the handler makes its calls as with locked joints,
`observe_of_findsLocked` gives the outcome of the interleaving, and comparing it with the two is
arithmetic on the two positions. A MOVE with unlocked joints is split by how many of its calls
precede the reset: with none or one it finds the joints locked after all, and with two or more only
the write of Walking is left. -/
theorem reset_serialisable_iff (sdk : UnitreeSdk ℝ) (app : App ℝ) (request : Request)
    (before between after : List Time) (e₁ e₂ t₁ t₂ : Time)
    (hdone : (run (appSystem sdk).step (Pool.idle app)
      (resetDuring request before between after e₁ e₂)).prog .sport = .done) :
    let final := (run (appSystem sdk).step (Pool.idle app)
      (resetDuring request before between after e₁ e₂)).state
    observe final = observe
        (App.step sdk (App.step sdk app ⟨t₁, .sportRequest request⟩).1 ⟨t₂, .reset⟩).1 ∨
      observe final = observe
        (App.step sdk (App.step sdk app ⟨t₁, .reset⟩).1 ⟨t₂, .sportRequest request⟩).1 ↔
    ¬ Torn sdk app request before.length between.length := by
  intro final
  rw [observe_reset_after_sport, observe_sport_after_reset]
  by_cases hfinds : FindsLocked (sportCommand sdk request) app
  · have hfinal : observe final =
        outcome (sportCommand sdk request).calls before.length between.length :=
      observe_of_findsLocked hfinds hdone
    rw [hfinal, outcome_calls_iff sdk, torn_of_findsLocked hfinds]
  · -- A MOVE with unlocked joints.
    obtain ⟨p, hmove, hunlocked⟩ : ∃ p, sportCommand sdk request = .move p ∧
        app.cmdVelPublisher.jointsLocked = false := by
      simpa [FindsLocked] using hfinds
    rw [torn_of_unlocked hmove hunlocked]
    rcases before with _ | ⟨a, _ | ⟨b, rest⟩⟩
    · have hfinal : observe final = outcome (sportCommand sdk request).calls 0 between.length :=
        observe_of_length_le_one hmove (by simp) hdone
      rw [hfinal, outcome_calls_iff sdk, hmove]
      simp
    · have hfinal : observe final = outcome (sportCommand sdk request).calls 1 between.length :=
        observe_of_length_le_one hmove (by simp) hdone
      rw [hfinal, outcome_calls_iff sdk, hmove]
      simp
    · have hfinal : observe final = outcome (if (parseMoveParameter sdk p).hasMotion then
          [.setRobotPosture .walking] else []) rest.length between.length :=
        observe_of_unlocked hmove hunlocked hdone
      have hserial : outcome (sportCommand sdk request).calls 0 0 = .defaults := by
        rw [hmove]
        rfl
      rw [hfinal, hserial, or_self, outcome_walking]
      simp

/-- A reset that begins after the lock of a STANDDOWN and ends after its posture. -/
theorem reset_serialisable_standDown :
    let sdk := sampleSdk ℝ
    let request := sampleRequest 1005 ""
    let final := (run (appSystem sdk).step (Pool.idle App.init)
      (resetDuring request [0] [0] [0, 0, 0] 0 0)).state
    observe final = observe
        (App.step sdk (App.step sdk App.init ⟨0, .sportRequest request⟩).1 ⟨0, .reset⟩).1 ∨
      observe final = observe
        (App.step sdk (App.step sdk App.init ⟨0, .reset⟩).1 ⟨0, .sportRequest request⟩).1 :=
  (reset_serialisable_iff (sampleSdk ℝ) App.init (sampleRequest 1005 "") [0] [0] [0, 0, 0] 0 0 0 0
    rfl).mpr id

/-- After BALANCESTAND, a MOVE reads the lock as open, the whole reset runs, and then the MOVE
sets the posture: the joints are locked and the posture is Walking. In both serial orders the
posture is StandDown. -/
theorem walking_after_reset :
    let sdk := sampleSdk ℝ
    let app := stateAfter sdk [⟨0, .sportRequest (sampleRequest 1002 "")⟩]
    let request := sampleRequest 1008 "\x7b\"x\":1\x7d"
    let c := run (appSystem sdk).step (Pool.idle app) (resetDuring request [0, 0] [] [0, 0] 0 0)
    c.prog .sport = .done ∧
      observe c.state = { Observed.defaults with robotPosture := .walking } ∧
      observe (App.step sdk (App.step sdk app ⟨0, .sportRequest request⟩).1 ⟨0, .reset⟩).1 =
        .defaults ∧
      observe (App.step sdk (App.step sdk app ⟨0, .reset⟩).1 ⟨0, .sportRequest request⟩).1 =
        .defaults := by
  intro sdk app request c
  have hcommand : sportCommand sdk request = .move "\x7b\"x\":1\x7d" := rfl
  have hunlocked : app.cmdVelPublisher.jointsLocked = false := rfl
  have hreset : program sdk .reset = resetCallback := rfl
  have hdone : (run (appSystem sdk).step (Pool.idle app)
      (resetDuring request [0, 0] [] [0, 0] 0 0)).prog .sport = .done := by
    simp [resetDuring, resetSteps, System.step, appSystem, Pool.idle, sdk, request,
      program_sampleMove, hreset, resetCallback, updatePostureFromMove, hunlocked,
      hasMotion_sampleMove, Prog.one, App.call,
      CmdVelPublisher.apply, CmdVelPublisher.isJointsLocked]
  have hc : c = run (appSystem sdk).step (Pool.idle app)
      (resetDuring request [0, 0] [] [0, 0] 0 0) := rfl
  rw [hc]
  refine ⟨hdone, ?_, observe_reset_after_sport 0 0, ?_⟩
  · have hfinal := observe_of_unlocked hcommand hunlocked hdone
    rw [hfinal, hasMotion_sampleMove]
    rfl
  · rw [observe_sport_after_reset, hcommand]
    rfl

end App

end SdkEventBridge
