import SdkEventBridge.CmdVel.Interleaving
import SdkEventBridge.CmdVel.Provenance
import SdkEventBridge.CmdVel.PublicApi
import SdkEventBridge.App.Protocol

set_option relaxedAutoImplicit false
set_option autoImplicit false

/-!
# The calls on the velocity publisher, under every interleaving

Four threads call the one velocity publisher. In every interleaving it goes through a run of its
own, and this file says which: the calls of each thread are those its jobs ask for, in order, each
once. What is known about histories of calls then holds in every interleaving, and the sources of
a velocity are requests that were really received.

## Main definitions

* `cmdVelHistory` — the calls on the velocity publisher, in the order they were made.
* `opsOn` — the operations of a history that belong to a thread.
* `AppInput.cmdVelOp?`, `grantedOps` — the operations that inputs and granted mode changes ask for.

## Main results

* `cmdVelPublisher_linearisable` — the run of the velocity publisher.
* `no_invented_motion` — every nonzero `Twist` comes from requests of the sport client.
-/

namespace SdkEventBridge

open PlanarNorm Resumption Run

open CmdVelPublisher (callThread)

/-! ## Whose calls they are -/

/-- The operations of a history that are made on thread `t`, in order. -/
def opsOn (t : Thread) (h : List (Timed CmdVelOp)) : List CmdVelOp :=
  (h.map Timed.op).filter fun op => decide (callThread op = t)

/-- The operation of the velocity publisher an input asks for. What a motion switcher request asks
for depends on the state it is answered in. -/
def AppInput.cmdVelOp? {K : Type} (sdk : UnitreeSdk K) : AppInput → Option CmdVelOp
  | .sportRequest request => (sportCommand sdk request).velOp
  | .switcherRequest _ => none
  | .reset => some .resetToDefaults
  | .loop => some .tick

namespace Call

/-- The operation of the velocity publisher, with the clock reading of the call. -/
def cmdVelOp? (now : Time) : Call → Option (Timed CmdVelOp)
  | .cmdVel op => some ⟨now, op⟩
  | .isJointsLocked | .isActivelyMoving | .setRobotPosture _ | .getRobotPosture
  | .resetMotionSwitcher | .buildInterceptResponseData _ _ | .publishCommand _ | .sleepFor
  | .sendSportResponse _ | .writeSwitcherResponse _ => none

/-- The operation of the velocity publisher, if it is one of thread `t`. -/
def opOn (t : Thread) : Call → List CmdVelOp
  | .cmdVel op => if callThread op = t then [op] else []
  | .isJointsLocked | .isActivelyMoving | .setRobotPosture _ | .getRobotPosture
  | .resetMotionSwitcher | .buildInterceptResponseData _ _ | .publishCommand _ | .sleepFor
  | .sendSportResponse _ | .writeSwitcherResponse _ => []

/-- The operation that answering a motion switcher request leads to. -/
def grantedOp {K : Type} (sdk : UnitreeSdk K) (app : App K) : Call → List CmdVelOp
  | .buildInterceptResponseData _ request =>
    (switcherOp sdk app.motionSwitcherBridge request).toList
  | .cmdVel _ | .isJointsLocked | .isActivelyMoving | .setRobotPosture _ | .getRobotPosture
  | .resetMotionSwitcher | .publishCommand _ | .sleepFor | .sendSportResponse _
  | .writeSwitcherResponse _ => []

/-- A call on the velocity publisher is made on the thread of its operation. -/
def OnThread (t : Thread) (i : Call) : Prop := ∀ op, i = .cmdVel op → callThread op = t

/-- A call of another thread makes no operation of this one. -/
theorem OnThread.opOn_eq_nil {t u : Thread} {i : Call} (h : i.OnThread u) (hne : u ≠ t) :
    i.opOn t = [] := by
  cases i with
  | cmdVel op => simp [opOn, h op rfl, hne]
  | _ => rfl

end Call

/-- The operations the granted mode changes of a history ask for, in order. -/
def grantedOps {K : Type} (sdk : UnitreeSdk K) (h : List SwitcherInput) : List CmdVelOp :=
  (recorded (fun (s : MotionSwitcherBridge) x =>
    ((s.step sdk x).1, (x.request?.bind (switcherOp sdk s)).toList)) .init h).trace

namespace App

section Logs

variable {K : Type} [Field K] [LinearOrder K] [HasHypot K] (sdk : UnitreeSdk K)
  (ls : List (Label Thread AppInput Time))

/-- The operations of the velocity publisher, in the order of the calls. -/
def cmdVelHistory : List (Timed CmdVelOp) :=
  (appLog sdk ls).filterMap (Event.seen fun e i => i.cmdVelOp? e)

/-- The inputs whose handling began on thread `t`, in order. -/
def startedOn (t : Thread) : List AppInput :=
  (appLog sdk ls).filterMap fun ev =>
    ev.job?.bind fun input => if (appSystem sdk).thread input = t then some input else none

end Logs

/-! ## What the programs ask for -/

section Programs

variable {K : Type} [Field K] [LinearOrder K] (sdk : UnitreeSdk K)

omit [Field K] [LinearOrder K] in
/-- A sport command asks for operations of the sport thread only. -/
theorem callThread_of_velOp {request : Request} {op : CmdVelOp}
    (h : (sportCommand sdk request).velOp = some op) : callThread op = .sport := by
  cases hcmd : sportCommand sdk request with
  | lockAnd posture fsm => rw [hcmd] at h; obtain rfl := Option.some.inj h; rfl
  | balanceStand => rw [hcmd] at h; obtain rfl := Option.some.inj h; rfl
  | stopMove => rw [hcmd] at h; obtain rfl := Option.some.inj h; rfl
  | move p => rw [hcmd] at h; obtain rfl := Option.some.inj h; rfl
  | setting op' =>
    rw [hcmd] at h
    obtain rfl := Option.some.inj h
    have hfrom : SettingOf sdk request op' := decodedFrom_of_eq hcmd
    cases op' with
    | setMotionModeName name => exact absurd hfrom id
    | resetToDefaults => exact absurd hfrom id
    | tick => exact absurd hfrom id
    | _ => rfl
  | ignored => rw [hcmd] at h; exact absurd h (by simp [SportCommand.velOp])

/-- The actions of a command make its one operation.

**Proof sketch.** The program of a command begins with its one operation, and what follows makes
none. -/
theorem settles_actions_velOp (request : Request) :
    ((sportCommand sdk request).actions sdk).Settles (Call.opOn .sport) (fun _ _ => [])
      (sportCommand sdk request).velOp.toList := by
  have hop : ∀ {op : CmdVelOp} {p : AppProg K}, (sportCommand sdk request).velOp = some op →
      p.Calls (fun i => i.opOn .sport = []) →
      (Prog.call (.cmdVel op) fun _ => p).Settles (Call.opOn .sport) (fun _ _ => []) [op] := by
    intro op p hvel hp
    have hone : (Call.cmdVel op).opOn .sport = [op] := by
      simp [Call.opOn, callThread_of_velOp sdk hvel]
    have hrest : p.Settles (Call.opOn .sport) (fun _ _ => []) [] :=
      Prog.settles_nil (hp.mono fun _ hi => ⟨hi, fun _ => rfl⟩)
    have hcall : (Prog.call (.cmdVel op) fun _ => p).Settles (Call.opOn .sport) (fun _ _ => [])
        ((Call.cmdVel op).opOn .sport ++ []) := Prog.Settles.call (fun _ => rfl) fun _ => hrest
    rwa [hone] at hcall
  cases hcmd : sportCommand sdk request with
  | lockAnd posture fsm => exact hop (by rw [hcmd]; rfl) (by simp [Call.opOn])
  | balanceStand => exact hop (by rw [hcmd]; rfl) (by simp [Call.opOn])
  | stopMove => exact hop (by rw [hcmd]; rfl) (by simp [Call.opOn])
  | move p => exact hop (by rw [hcmd]; rfl) (calls_updatePostureFromMove sdk p rfl rfl)
  | setting op => exact hop (by rw [hcmd]; rfl) trivial
  | ignored => exact rfl

/-- **An input** makes the operation it asks for, once.

**Proof sketch.** The actions of a sport command make its one operation and the response none. The
reset and the loop make theirs in their first call, and what follows makes none. -/
theorem settles_cmdVelOp [HasHypot K] {input : AppInput} {t : Thread}
    (ht : (appSystem sdk).thread input = t) (hne : t ≠ .switcher) :
    (program sdk input).Settles (Call.opOn t) (fun _ _ => [])
      (input.cmdVelOp? sdk).toList := by
  subst ht
  cases input with
  | sportRequest request =>
    rw [program_sportRequest]
    have hsend : (respond sdk request : AppProg K).Settles (Call.opOn .sport) (fun _ _ => []) [] :=
      Prog.settles_nil (calls_respond sdk request ⟨rfl, fun _ => rfl⟩ ⟨rfl, fun _ => rfl⟩)
    have hno : ∀ p : AppProg K, p.Calls fun _ => App K → ([] : List CmdVelOp) = [] := by
      intro p
      induction p with
      | done => trivial
      | call i next ih => exact ⟨fun _ => rfl, ih⟩
    have hseq := (settles_actions_velOp sdk request).seq hsend (hno _)
    rwa [List.append_nil] at hseq
  | switcherRequest request => exact absurd rfl hne
  | reset =>
    exact ⟨[], rfl, fun _ => ⟨[], rfl, fun _ => rfl⟩⟩
  | loop =>
    exact ⟨[], rfl, fun _ => Prog.settles_nil
      (calls_loopReadMotion ⟨rfl, fun _ => rfl⟩ ⟨rfl, fun _ => rfl⟩ fun _ => ⟨rfl, fun _ => rfl⟩)⟩

omit [Field K] [LinearOrder K] in
/-- The end of a motion switcher request makes its one operation. -/
theorem settles_callIfSome_opOn (op : Option CmdVelOp) (response : Response) :
    ((callIfSome op).seq (.one (.writeSwitcherResponse response)) : AppProg K).Settles
      (Call.opOn .switcher) (Call.grantedOp sdk)
      (op.toList.filter fun op => decide (callThread op = .switcher)) := by
  have hwrite : (Prog.one (.writeSwitcherResponse response) : AppProg K).Settles
      (Call.opOn .switcher) (Call.grantedOp sdk) [] := Prog.Settles.one fun _ => rfl
  cases op with
  | none => exact hwrite
  | some op =>
    refine ⟨[], ?_, fun _ => hwrite⟩
    by_cases h : callThread op = .switcher <;> simp [Call.opOn, h]

/-- A motion switcher request makes the operation it is granted. -/
theorem settles_grantedOp (request : Request) :
    (program sdk (.switcherRequest request)).Settles (Call.opOn .switcher)
      (Call.grantedOp sdk) [] := by
  rw [program_switcherRequest]
  refine ⟨[], rfl, fun app => ?_⟩
  have hend := settles_callIfSome_opOn sdk (switcherOp sdk app.motionSwitcherBridge request)
    (switcherResponse sdk app.motionSwitcherBridge request)
  have hown : ∀ op, op ∈ (switcherOp sdk app.motionSwitcherBridge request).toList →
      decide (callThread op = .switcher) = true := by
    intro op hop
    obtain ⟨name, rfl⟩ := eq_setMotionModeName_of_switcherOp (Option.mem_toList.mp hop)
    rfl
  rwa [List.filter_eq_self.mpr hown] at hend

/-- Every input calls the velocity publisher with operations of its own thread only.

**Proof sketch.** Case analysis on the input, along the calls of its program: a sport command asks
for an operation of the sport thread, a mode change for one of the motion switcher thread, and the
reset and the loop for their own. -/
theorem calls_onThread [HasHypot K] (input : AppInput) :
    (program sdk input).Calls (Call.OnThread ((appSystem sdk).thread input)) := by
  cases input with
  | sportRequest request =>
    rw [program_sportRequest]
    refine Prog.Calls.seq ?_ (calls_respond sdk request (by simp [Call.OnThread])
      (by simp [Call.OnThread]))
    have hop : ∀ op, (sportCommand sdk request).velOp = some op →
        (Call.cmdVel op).OnThread .sport := by
      intro op hvel op' heq
      rw [← Call.cmdVel.inj heq]
      exact callThread_of_velOp sdk hvel
    cases hcmd : sportCommand sdk request with
    | lockAnd posture fsm => exact ⟨hop _ (by rw [hcmd]; rfl), by simp [Call.OnThread]⟩
    | balanceStand => exact ⟨hop _ (by rw [hcmd]; rfl), by simp [Call.OnThread]⟩
    | stopMove => exact ⟨hop _ (by rw [hcmd]; rfl), by simp [Call.OnThread]⟩
    | move p =>
      exact ⟨hop _ (by rw [hcmd]; rfl), fun _ => calls_updatePostureFromMove sdk p
        (by simp [Call.OnThread]) (by simp [Call.OnThread])⟩
    | setting op => exact ⟨hop _ (by rw [hcmd]; rfl), fun _ => trivial⟩
    | ignored => trivial
  | switcherRequest request =>
    exact calls_program_switcherRequest sdk request (by simp [Call.OnThread])
      (by simp [Call.OnThread, callThread, appSystem]) (by simp [Call.OnThread])
  | reset =>
    have hreset : (resetCallback : AppProg K).Calls (Call.OnThread .reset) := by
      simp [resetCallback, Call.OnThread, callThread]
    exact hreset
  | loop =>
    exact calls_loopIteration (by simp [Call.OnThread, callThread, appSystem])
      (by simp [Call.OnThread]) (by simp [Call.OnThread]) (by simp [Call.OnThread])

end Programs

/-! ## The run of the publisher -/

section Runs

variable {K : Type} [Field K] [LinearOrder K] [HasHypot K] (sdk : UnitreeSdk K)
  (ls : List (Label Thread AppInput Time))

/-- The velocity publisher is an object of the application.

**Proof sketch.** Case analysis on the call: one that is an operation does to the publisher what the
operation does, and publishes its messages; any other leaves it alone. -/
theorem isObject_cmdVelPublisher :
    (appSystem sdk).IsObject (fun _ => True) App.cmdVelPublisher (fun e i => i.cmdVelOp? e)
      (CmdVelPublisher.timedApply sdk)
      (fun e app i => (App.call sdk e app i).2.filterMap Output.twist?) where
  unseen := by
    intro e app i _ hview
    cases i with
    | cmdVel op => simp [Call.cmdVelOp?] at hview
    | _ => exact ⟨rfl, rfl⟩
  seen := by
    intro e app i x _ hview
    cases i with
    | cmdVel op =>
      obtain rfl := Option.some.inj hview
      exact ⟨rfl, twists_map_twist _⟩
    | _ => simp [Call.cmdVelOp?] at hview

/-- The velocity publisher goes through a run of its own, from an initialised channel. -/
theorem recorded_cmdVelHistory :
    recorded (CmdVelPublisher.timedApply sdk) CmdVelPublisher.init.initChannel
        (cmdVelHistory sdk ls) =
      ⟨(interleaved sdk ls).state.cmdVelPublisher, twists (interleaved sdk ls).trace⟩ := by
  have hcalls : ∀ p : AppProg K, p.Calls fun _ => True := by
    intro p
    induction p with
    | done => trivial
    | call i next ih => exact ⟨trivial, ih⟩
  have hrun := (isObject_cmdVelPublisher sdk).recorded_log (c := Pool.idle App.init)
    (fun _ => hcalls _) (fun _ => trivial) ls
  have htrace := System.trace_eq_log (S := appSystem sdk) (c := Pool.idle App.init)
    Output.twist? ls
  rw [show (Pool.idle App.init : AppPool K).trace.filterMap Output.twist? = [] from rfl,
    List.nil_append] at htrace
  refine hrun.trans ?_
  congr 1
  exact htrace.symm

/-- The run of the publisher, the channel apart. -/
theorem cmdVelPublisher_eq_stateAfter :
    (interleaved sdk ls).state.cmdVelPublisher =
        { CmdVelPublisher.stateAfter sdk (cmdVelHistory sdk ls) with channelInitialized := true } ∧
      twists (interleaved sdk ls).trace =
        (CmdVelPublisher.after sdk (cmdVelHistory sdk ls)).trace := by
  have hrun := recorded_cmdVelHistory sdk ls
  rw [CmdVelPublisher.recorded_initChannel] at hrun
  refine ⟨?_, (congrArg Recorded.trace hrun).symm⟩
  rw [← CmdVelPublisher.initChannel_eq]
  exact (congrArg Recorded.state hrun).symm

/-- The clock readings of the calls come from the scheduler, in order. -/
theorem now_cmdVelHistory_sublist :
    ((cmdVelHistory sdk ls).map Timed.now).Sublist (ls.filterMap Label.reading) := by
  have htime : ∀ (e : Time) (i : Call) (x : Timed CmdVelOp), i.cmdVelOp? e = some x →
      x.now = e := by
    intro e i x hview
    cases i with
    | cmdVel op => rw [← Option.some.inj hview]
    | _ => simp [Call.cmdVelOp?] at hview
  exact System.seen_log_sublist htime ls

/-- The operations of a thread, read off the log. -/
theorem opsOn_cmdVelHistory (t : Thread) :
    opsOn t (cmdVelHistory sdk ls) =
      (appLog sdk ls).flatMap (Event.shown fun _ _ i => i.opOn t) := by
  have hop : (fun (e : Time) (_ : App K) (i : Call) => ((i.cmdVelOp? e).bind fun x =>
      if callThread x.op = t then some x.op else none).toList) = fun _ _ i => i.opOn t := by
    funext e app i
    cases i with
    | cmdVel op => by_cases h : callThread op = t <;> simp [Call.cmdVelOp?, Call.opOn, h]
    | _ => rfl
  have hfilter : ∀ h : List (Timed CmdVelOp), opsOn t h =
      h.filterMap fun x => if callThread x.op = t then some x.op else none := by
    intro h
    rw [opsOn, ← List.filterMap_eq_filter, List.filterMap_map]
    refine List.filterMap_congr fun x _ => ?_
    by_cases hx : callThread x.op = t <;> simp [Option.guard, hx]
  rw [hfilter, cmdVelHistory, Event.filterMap_filterMap_seen, hop]

/-- Only the threads' own jobs make their operations. -/
theorem calls_opOn_of_ne {t : Thread} {input : AppInput}
    (hne : (appSystem sdk).thread input ≠ t) :
    ((appSystem sdk).program input).Calls fun i => i.opOn t = [] :=
  (calls_onThread sdk input).mono fun _ hi => hi.opOn_eq_nil hne

/-- The operations of a thread other than the motion switcher's are those its jobs ask for.

**Proof sketch.** Each job owes its one operation from the start and pays it by the call; no other
thread makes an operation of this one. `System.balance` says that what was made and what is due are
what the jobs ask for, and what is due belongs to the latest job. -/
theorem opsOn_eq_started {t : Thread} (hne : t ≠ .switcher) :
    ∃ due, opsOn t (cmdVelHistory sdk ls) ++ due =
        (startedOn sdk ls t).filterMap (AppInput.cmdVelOp? sdk) ∧ due.length ≤ 1 ∧
      ((interleaved sdk ls).prog t = .done → due = []) := by
  have hthread : ∀ input, (appSystem sdk).thread input = t ↔
      (if (appSystem sdk).thread input = t then some input else none).isSome = true := by
    intro input
    by_cases h : (appSystem sdk).thread input = t <;> simp [h]
  have howed : ∀ input job, (if (appSystem sdk).thread input = t then some input else none) =
      some job → (input.cmdVelOp? sdk).toList = (job.cmdVelOp? sdk).toList := by
    intro input job h
    split_ifs at h with ht
    rw [Option.some.inj h]
  obtain ⟨due, hsettles, hbalance, hlatest⟩ :=
    System.balance (S := appSystem sdk) (c := Pool.idle App.init)
      (fun input ht => settles_cmdVelOp sdk ht hne) rfl ls
  rw [System.payments_eq_shown (c := Pool.idle App.init) (fun _ => calls_opOn_of_ne sdk)
      (fun _ _ => trivial),
    System.flatMap_charge_of_jobs hthread howed] at hbalance
  rw [System.account_of_jobs hthread howed] at hlatest
  refine ⟨due, ?_, ?_, fun hidle => ?_⟩
  · rw [opsOn_cmdVelHistory, List.filterMap_eq_flatMap_toList]
    exact hbalance
  · refine hlatest.length_le.trans ?_
    cases latest (fun ev => ev.job?.bind fun input =>
      if (appSystem sdk).thread input = t then some input else none)
      ((appSystem sdk).log (Pool.idle App.init) ls) with
    | none => simp
    | some job => cases job.cmdVelOp? sdk <;> simp
  · have hdone : ((interleaved sdk ls).prog t).Settles (Call.opOn t) (fun _ _ => []) due := hsettles
    rwa [hidle, Prog.settles_done] at hdone

/-- The operations granted mode changes ask for, read off the log. -/
theorem grantedOps_switcherHistory :
    grantedOps sdk (switcherHistory sdk ls) =
      (appLog sdk ls).flatMap (Event.shown fun _ app i => Call.grantedOp sdk app i) := by
  have hobject : (appSystem sdk).IsObject Call.AsksOwnId App.motionSwitcherBridge
      (fun _ i => i.switcherInput?)
      (fun s x => ((s.step sdk x).1, (x.request?.bind (switcherOp sdk s)).toList))
      (fun _ app i => Call.grantedOp sdk app i) := by
    refine ⟨fun e app i hi hview => ?_, fun e app i x hi hview => ?_⟩
    · refine ⟨((isObject_motionSwitcherBridge sdk).unseen e app i hi hview).1, ?_⟩
      cases i with
      | buildInterceptResponseData apiId request => simp [Call.switcherInput?] at hview
      | _ => rfl
    · refine ⟨((isObject_motionSwitcherBridge sdk).seen e app i x hi hview).1, ?_⟩
      cases i with
      | setRobotPosture posture => obtain rfl := Option.some.inj hview; rfl
      | resetMotionSwitcher => obtain rfl := Option.some.inj hview; rfl
      | buildInterceptResponseData apiId request => obtain rfl := Option.some.inj hview; rfl
      | _ => simp [Call.switcherInput?] at hview
  have hrun := hobject.recorded_log (c := Pool.idle App.init) (asksOwnId_program sdk)
    (fun _ => trivial) ls
  exact congrArg Recorded.trace hrun

/-- The operations of the motion switcher thread are those it has granted.

**Proof sketch.** A mode change that is granted charges the thread with its operation, and the next
call pays it. `System.balance` keeps the account; what is due is read off the three forms the rest
of the handler can have. -/
theorem opsOn_eq_granted :
    ∃ due, opsOn .switcher (cmdVelHistory sdk ls) ++ due =
        grantedOps sdk (switcherHistory sdk ls) ∧ due.length ≤ 1 ∧
      ((interleaved sdk ls).prog .switcher = .done → due = []) := by
  have hjob : ∀ input, (appSystem sdk).thread input = .switcher →
      ((appSystem sdk).program input).Settles (Call.opOn .switcher) (Call.grantedOp sdk) [] := by
    intro input ht
    cases input with
    | switcherRequest request => exact settles_grantedOp sdk request
    | _ => simp [appSystem] at ht
  have hothers : ∀ input, (appSystem sdk).thread input ≠ .switcher →
      ((appSystem sdk).program input).Calls fun i =>
        ∀ app : App K, Call.grantedOp sdk app i = [] := by
    intro input hne
    refine (calls_not_switcher sdk hne).mono fun i hi app => ?_
    cases i with
    | buildInterceptResponseData apiId request => exact absurd hi.1 (by simp [Call.answeredRequest])
    | _ => rfl
  obtain ⟨due, hsettles, hbalance, -⟩ := System.balance (c := Pool.idle App.init) hjob rfl ls
  rw [System.payments_eq_shown (c := Pool.idle App.init) (fun _ => calls_opOn_of_ne sdk)
      (fun _ _ => trivial),
    System.charges_eq_shown (c := Pool.idle App.init) (fun _ => rfl) hothers
      (fun _ _ => trivial)] at hbalance
  have hrest := switcherRest_interleaved sdk ls
  refine ⟨due, ?_, ?_, fun hidle => ?_⟩
  · rw [opsOn_cmdVelHistory, grantedOps_switcherHistory]
    exact hbalance
  · have : Nonempty (App K) := ⟨(interleaved sdk ls).state⟩
    have hdue : ((interleaved sdk ls).prog .switcher).Settles (Call.opOn .switcher)
        (Call.grantedOp sdk) due := hsettles
    rcases hrest with hdone | ⟨request, hprog⟩ | ⟨op, response, hprog⟩
    · rw [hdone] at hdue
      rw [show due = [] from hdue]
      exact Nat.zero_le 1
    · rw [hprog] at hdue
      rw [hdue.unique (settles_grantedOp sdk request)]
      exact Nat.zero_le 1
    · rw [hprog] at hdue
      rw [hdue.unique (settles_callIfSome_opOn sdk op response)]
      refine (List.length_filter_le _ _).trans ?_
      cases op <;> simp
  · have hdone : ((interleaved sdk ls).prog .switcher).Settles (Call.opOn .switcher)
        (Call.grantedOp sdk) due := hsettles
    rwa [hidle, Prog.settles_done] at hdone

end Runs

/-- A MOVE reaches the publisher with the parameter of its request. -/
theorem eq_move_of_velOp {K : Type} (sdk : UnitreeSdk K) {request : Request} {p : String}
    (h : (sportCommand sdk request).velOp = some (.handleMove p)) :
    sdk.sportApi? request.apiId32 = some .move ∧ p = request.parameter := by
  cases hcmd : sportCommand sdk request with
  | move p' =>
    rw [hcmd] at h
    obtain rfl : p' = p := CmdVelOp.handleMove.inj (Option.some.inj h)
    exact decodedFrom_of_eq hcmd
  | setting op =>
    rw [hcmd] at h
    obtain rfl : op = .handleMove p := Option.some.inj h
    exact absurd (decodedFrom_of_eq hcmd) id
  | lockAnd posture fsm => rw [hcmd] at h; exact absurd h (by simp [SportCommand.velOp])
  | balanceStand => rw [hcmd] at h; exact absurd h (by simp [SportCommand.velOp])
  | stopMove => rw [hcmd] at h; exact absurd h (by simp [SportCommand.velOp])
  | ignored => rw [hcmd] at h; exact absurd h (by simp [SportCommand.velOp])

/-- Two calls of the sport thread come from two sport requests, in the same order.

**Proof sketch.** By `opsOn_eq_started` the operations of the sport thread are, in order, those of
the sport requests started on it, so two of them come from two requests in the same order. -/
theorem exists_requests_of_ops {K : Type} [Field K] [LinearOrder K] [HasHypot K]
    (sdk : UnitreeSdk K) (ls : List (Label Thread AppInput Time)) {a b : CmdVelOp}
    (h : [a, b].Sublist (opsOn .sport (cmdVelHistory sdk ls))) :
    ∃ r r' : Request, [r, r'].Sublist (sportRequests sdk ls) ∧
      (sportCommand sdk r).velOp = some a ∧ (sportCommand sdk r').velOp = some b := by
  obtain ⟨due, hops, -, -⟩ := opsOn_eq_started sdk ls (by decide : Thread.sport ≠ .switcher)
  have hsub := h.trans (hops ▸ List.sublist_append_left _ due)
  have hstarted : startedOn sdk ls .sport = (sportRequests sdk ls).map .sportRequest := by
    rw [startedOn, sportRequests, List.map_filterMap]
    refine List.filterMap_congr fun ev _ => ?_
    cases hjob : ev.job? with
    | none => rfl
    | some input => cases input <;> simp [appSystem, AppInput.sportRequest?]
  rw [hstarted, List.filterMap_map] at hsub
  obtain ⟨requests, hrequests, heq⟩ := List.sublist_filterMap_iff.mp hsub
  obtain ⟨pre, r, rest, rfl, -, hr, hrest⟩ := List.filterMap_eq_cons_iff.mp heq.symm
  obtain ⟨mid, r', post, rfl, -, hr', -⟩ := List.filterMap_eq_cons_iff.mp hrest
  have hpair : [r, r'].Sublist (r :: (mid ++ r' :: post)) :=
    ((List.singleton_sublist.mpr (by simp)).cons_cons r)
  exact ⟨r, r', (hpair.trans (List.sublist_append_right _ _)).trans hrequests, hr, hr'⟩

/-- **The velocity publisher is linearisable**, each call on it being one atomic step. In every
interleaving of the calls its state, up to the channel that `main` initialises, and all it published
are those of its own sequential run on the calls in the order they were made, at clock readings
taken from the scheduler in order. In that run the calls of the sport, reset and main threads are
those their jobs ask for, in order and each once, and those of the motion switcher thread are those
of the mode changes it granted; at most one call of each thread is still to come, and none of a
thread that is idle.

**Proof sketch.** The publisher is an object of the application, so its state and messages are those
of its own run on the calls made. Which calls these are, thread by thread, is `opsOn_eq_granted` for
the motion switcher thread and `opsOn_eq_started` for the others. -/
theorem cmdVelPublisher_linearisable {K : Type} [Field K] [LinearOrder K] [HasHypot K]
    (sdk : UnitreeSdk K) (ls : List (Label Thread AppInput Time)) :
    let c := interleaved sdk ls
    let h := cmdVelHistory sdk ls
    (c.state.cmdVelPublisher =
        { CmdVelPublisher.stateAfter sdk h with channelInitialized := true } ∧
      twists c.trace = (CmdVelPublisher.after sdk h).trace ∧
      (h.map Timed.now).Sublist (ls.filterMap Label.reading)) ∧
    ∀ t, ∃ due, opsOn t h ++ due =
        (if t = .switcher then grantedOps sdk (switcherHistory sdk ls)
          else (startedOn sdk ls t).filterMap (AppInput.cmdVelOp? sdk)) ∧
      due.length ≤ 1 ∧ (c.prog t = .done → due = []) := by
  intro c h
  obtain ⟨hstate, htrace⟩ := cmdVelPublisher_eq_stateAfter sdk ls
  refine ⟨⟨hstate, htrace, now_cmdVelHistory_sublist sdk ls⟩, fun t => ?_⟩
  by_cases ht : t = .switcher
  · subst ht
    rw [if_pos rfl]
    exact opsOn_eq_granted sdk ls
  · rw [if_neg ht]
    exact opsOn_eq_started sdk ls ht

/-- **No invented motion.** In every interleaving of the calls, each of them one atomic step, a
nonzero `Twist` is the velocity of a MOVE request that was received, its linear part scaled by a
factor in `(0, 1]` to a magnitude of at most 6, and before that request one was received that
unlocks the joints.

**Proof sketch.** The messages are those of the publisher's own run, in which a nonzero one has a
source by `sourced_of_mem_trace`: a call that unlocked the joints and a later MOVE. Both are calls
of the sport thread, so they come from two sport requests, in the same order. -/
theorem no_invented_motion (sdk : UnitreeSdk ℝ) (ls : List (Label Thread AppInput Time)) :
    ∀ t ∈ twists (interleaved sdk ls).trace, t = 0 ∨
      ∃ unlock move : Request, [unlock, move].Sublist (sportRequests sdk ls) ∧
        (∃ op, (sportCommand sdk unlock).velOp = some op ∧ op.unlocks = true) ∧
        sdk.sportApi? move.apiId32 = some .move ∧
        ∃ k : ℝ, 0 < k ∧ k ≤ 1 ∧ ∃ v, v = (parseMoveParameter sdk move.parameter).scaled k ∧
          v.speed ≤ 6 ∧ t = Twist.ofVelocity v := by
  intro t ht
  by_cases hzero : t = 0
  · exact Or.inl hzero
  refine Or.inr ?_
  rw [(cmdVelPublisher_eq_stateAfter sdk ls).2] at ht
  obtain ⟨v, ⟨u, x, p, k, hsub, hunlocks, hmove, hpos, hle, hscaled⟩, hspeed, hv⟩ :=
    CmdVelPublisher.sourced_of_mem_trace ht hzero
  have hops : [u.op, x.op].Sublist (opsOn .sport (cmdVelHistory sdk ls)) := by
    have hu : callThread u.op = .sport := by
      cases hop : u.op <;> simp_all [CmdVelOp.unlocks, callThread]
    have hx : callThread x.op = .sport := by rw [hmove]; rfl
    have hfilter := (hsub.map Timed.op).filter fun op => decide (callThread op = .sport)
    rw [opsOn]
    simpa [hu, hx] using hfilter
  obtain ⟨unlock, move, hrequests, hunlock, hvel⟩ := exists_requests_of_ops sdk ls hops
  obtain ⟨hapi, rfl⟩ := eq_move_of_velOp sdk (hmove ▸ hvel)
  refine ⟨unlock, move, hrequests, ⟨u.op, hunlock, hunlocks⟩, hapi, k, hpos, hle, v, hscaled,
    ?_, hv⟩
  calc v.speed ≤ CmdVelPublisher.sportMaxLinearSpeed := hspeed
    _ = 6 := by norm_num [CmdVelPublisher.sportMaxLinearSpeed]

/-- The `Twist` of a MOVE after a BALANCESTAND. -/
theorem no_invented_motion_move :
    let ls : List (Label Thread AppInput Time) :=
      [.start (.sportRequest (sampleRequest 1002 ""))] ++ List.replicate 4 (.advance .sport 0) ++
        [.start (.sportRequest (sampleRequest 1008 "\x7b\"x\":1\x7d")), .advance .sport 0]
    let velocity := parseMoveParameter (sampleSdk ℝ) "\x7b\"x\":1\x7d"
    let t := Twist.ofVelocity (velocity.limit CmdVelPublisher.aiLowMaxLinearSpeed)
    t = 0 ∨
      ∃ unlock move : Request, [unlock, move].Sublist (sportRequests (sampleSdk ℝ) ls) ∧
        (∃ op, (sportCommand (sampleSdk ℝ) unlock).velOp = some op ∧ op.unlocks = true) ∧
        (sampleSdk ℝ).sportApi? move.apiId32 = some .move ∧
        ∃ k : ℝ, 0 < k ∧ k ≤ 1 ∧
          ∃ v, v = (parseMoveParameter (sampleSdk ℝ) move.parameter).scaled k ∧
            v.speed ≤ 6 ∧ t = Twist.ofVelocity v := by
  intro ls velocity t
  refine no_invented_motion (sampleSdk ℝ) ls t ?_
  simp [ls, t, velocity, interleaved, System.step, appSystem, program_sampleBalanceStand,
    program_sampleMove, Prog.one, Pool.idle, App.init, App.call, CmdVelPublisher.init,
    CmdVelPublisher.apply, CmdVelPublisher.unlockJoints, CmdVelPublisher.handleMove,
    CmdVelPublisher.acceptMove, CmdVelPublisher.applySpeedLimit_eq, CmdCtlPublisher.publishCommand,
    List.replicate, twists, Output.twist?]

end App

end SdkEventBridge
