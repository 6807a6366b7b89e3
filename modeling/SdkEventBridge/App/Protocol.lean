import SdkEventBridge.Library.Ledger
import SdkEventBridge.App.CommandOrder
import SdkEventBridge.App.Interleaving
import SdkEventBridge.App.Switcher
import SdkEventBridge.App.Restart

set_option relaxedAutoImplicit false
set_option autoImplicit false

/-!
# The two request protocols, under every interleaving

The requests of the sport server, the motion switcher, the `/reset` callback and the main loop run
on threads of their own. This file says what no interleaving of their calls can disturb. A sport
request leads to its FSM command and then to its response, whatever the other threads do; a
motion switcher request leads to one response, the answer of the sequential register at the moment
of its one call on it.

## Main definitions

* `sportMessages`, `messagesFor` — what the sport thread emits, and what a request leads to.
* `appLog`, `sportRequests`, `switcherRequests` — what happened in a run, and the requests that
  were started in it.
* `switcherHistory` — the calls on the motion switcher, in the order they were made.

## Main results

* `sport_requests_answered` — commands and responses of the sport thread, in order.
* `switcher_linearisable` — the motion switcher in an interleaved run.
-/

namespace SdkEventBridge

open PlanarNorm Resumption Run

/-- What happens in an interleaved run of the application. -/
abbrev AppEvent (K : Type) := Event Thread AppInput Time (App K) Call

/-! ## What can be observed -/

/-- What the sport thread emits: an FSM command on `/cmd_ctl`, or the response to a request. -/
inductive SportMessage where
  | command (command : Int32)
  | response (response : Response)
  deriving DecidableEq

section Observed

variable {K : Type}

/-- The message of the sport thread, if the output is one. -/
def Output.sportMessage? : Output K → Option SportMessage
  | .command c => some (.command c)
  | .sportResponse r => some (.response r)
  | .twist _ | .switcherResponse _ => none

/-- The messages of the sport thread in a trace, oldest first. -/
def sportMessages (outputs : List (Output K)) : List SportMessage :=
  outputs.filterMap Output.sportMessage?

/-- What a sport request leads to: the command of the `/cmd_ctl` table, if there is one, and then
a response that repeats the identity of the request. -/
def messagesFor (sdk : UnitreeSdk K) (request : Request) : List SportMessage :=
  (((sdk.sportApi? request.apiId32).bind cmdCtlTable).toList.map .command) ++
    [.response (sportResponse sdk request)]

namespace AppInput

/-- The sport request, if the input is one. -/
def sportRequest? : AppInput → Option Request
  | .sportRequest request => some request
  | .switcherRequest _ | .reset | .loop => none

/-- The motion switcher request, if the input is one. -/
def switcherRequest? : AppInput → Option Request
  | .switcherRequest request => some request
  | .sportRequest _ | .reset | .loop => none

end AppInput

/-- The request, if the input of the motion switcher is one. -/
def SwitcherInput.request? : SwitcherInput → Option Request
  | .request r => some r
  | .setRobotPosture _ | .resetToDefaults => none

namespace Call

/-- What a call is to the motion switcher. -/
def switcherInput? : Call → Option SwitcherInput
  | .setRobotPosture posture => some (.setRobotPosture posture)
  | .resetMotionSwitcher => some .resetToDefaults
  | .buildInterceptResponseData _ request => some (.request request)
  | .cmdVel _ | .isJointsLocked | .isActivelyMoving | .getRobotPosture | .publishCommand _
  | .sleepFor | .sendSportResponse _ | .writeSwitcherResponse _ => none

/-- The motion switcher is asked about the id in the request itself. -/
def AsksOwnId : Call → Prop
  | .buildInterceptResponseData apiId request => apiId = request.apiId32
  | .cmdVel _ | .isJointsLocked | .isActivelyMoving | .setRobotPosture _ | .getRobotPosture
  | .resetMotionSwitcher | .publishCommand _ | .sleepFor | .sendSportResponse _
  | .writeSwitcherResponse _ => True

/-- What a call emits on behalf of the sport thread. -/
def sportMessage : Call → List SportMessage
  | .publishCommand command => [.command command]
  | .sendSportResponse response => [.response response]
  | .cmdVel _ | .isJointsLocked | .isActivelyMoving | .setRobotPosture _ | .getRobotPosture
  | .resetMotionSwitcher | .buildInterceptResponseData _ _ | .sleepFor
  | .writeSwitcherResponse _ => []

/-- The response a call writes on behalf of the motion switcher. -/
def switcherAnswer : Call → List Response
  | .writeSwitcherResponse response => [response]
  | .cmdVel _ | .isJointsLocked | .isActivelyMoving | .setRobotPosture _ | .getRobotPosture
  | .resetMotionSwitcher | .buildInterceptResponseData _ _ | .publishCommand _ | .sleepFor
  | .sendSportResponse _ => []

/-- The answer the motion switcher gives to a call, which is to be written later. -/
def switcherDebt {K : Type} (sdk : UnitreeSdk K) (app : App K) : Call → List Response
  | .buildInterceptResponseData _ request =>
    [switcherResponse sdk app.motionSwitcherBridge request]
  | .cmdVel _ | .isJointsLocked | .isActivelyMoving | .setRobotPosture _ | .getRobotPosture
  | .resetMotionSwitcher | .publishCommand _ | .sleepFor | .sendSportResponse _
  | .writeSwitcherResponse _ => []

/-- The request a call has answered by the motion switcher. -/
def answeredRequest : Call → List Request
  | .buildInterceptResponseData _ request => [request]
  | .cmdVel _ | .isJointsLocked | .isActivelyMoving | .setRobotPosture _ | .getRobotPosture
  | .resetMotionSwitcher | .publishCommand _ | .sleepFor | .sendSportResponse _
  | .writeSwitcherResponse _ => []

end Call

end Observed

namespace App

section Logs

variable {K : Type} [Field K] [LinearOrder K] [HasHypot K] (sdk : UnitreeSdk K)
  (ls : List (Label Thread AppInput Time))

/-- What happens in the run `ls` from the start of `main`. -/
def appLog : List (AppEvent K) := (appSystem sdk).log (Pool.idle App.init) ls

/-- The sport requests whose handling began, in order. -/
def sportRequests : List Request :=
  (appLog sdk ls).filterMap fun ev => ev.job?.bind AppInput.sportRequest?

/-- The motion switcher requests whose handling began, in order. -/
def switcherRequests : List Request :=
  (appLog sdk ls).filterMap fun ev => ev.job?.bind AppInput.switcherRequest?

/-- The inputs of the motion switcher, in the order of the calls. -/
def switcherHistory : List SwitcherInput :=
  (appLog sdk ls).filterMap (Event.seen fun _ i => i.switcherInput?)

end Logs

/-! ## The sport thread -/

section Sport

variable {K : Type} [Field K] [LinearOrder K] (sdk : UnitreeSdk K)

/-- The actions of a command emit its FSM command and nothing else. -/
theorem settles_actions (cmd : SportCommand) :
    (cmd.actions sdk).Settles Call.sportMessage (fun _ _ => [])
      (cmd.fsmCommand.toList.map fun fsm => .command fsm.toInt32) := by
  have hquiet : ∀ {p : AppProg K}, p.Calls (fun i => i.sportMessage = []) →
      p.Settles Call.sportMessage (fun _ _ => []) [] := fun hp =>
    Prog.settles_nil (hp.mono fun _ hi => ⟨hi, fun _ => rfl⟩)
  have hpublish : ∀ command : Int32,
      (Prog.one (.publishCommand command) : AppProg K).Settles Call.sportMessage (fun _ _ => [])
        [.command command] := fun command => Prog.Settles.one fun _ => rfl
  cases cmd with
  | lockAnd posture fsm =>
    exact Prog.Settles.call (fun _ => rfl) fun _ =>
      Prog.Settles.call (fun _ => rfl) fun _ => hpublish fsm.toInt32
  | balanceStand =>
    exact Prog.Settles.call (fun _ => rfl) fun _ =>
      Prog.Settles.call (fun _ => rfl) fun _ => hpublish FsmCommand.getUpLocomotion.toInt32
  | stopMove => exact hquiet (by simp [Call.sportMessage])
  | move p => exact hquiet ⟨rfl, fun _ => calls_updatePostureFromMove sdk p rfl rfl⟩
  | setting op => exact hquiet (by simp [Call.sportMessage])
  | ignored => exact hquiet trivial

/-- **A sport request** emits the command of the table and then its response.

**Proof sketch.** The program is the actions followed by the response. The actions emit the command
of the table and nothing else by `settles_actions`, the response is one message, and `Settles.seq`
puts them together. -/
theorem settles_sportRequest (request : Request) :
    (program sdk (.sportRequest request)).Settles Call.sportMessage (fun _ _ => [])
      (messagesFor sdk request) := by
  have hno : ∀ p : AppProg K, p.Calls fun _ => App K → ([] : List SportMessage) = [] := by
    intro p
    induction p with
    | done => trivial
    | call i next ih => exact ⟨fun _ => rfl, ih⟩
  have hsend : (respond sdk request).Settles Call.sportMessage (fun _ _ => [])
      [.response (sportResponse sdk request)] := by
    have hone : (Prog.one (.sendSportResponse (sportResponse sdk request)) : AppProg K).Settles
        Call.sportMessage (fun _ _ => []) [.response (sportResponse sdk request)] :=
      Prog.Settles.one fun _ => rfl
    unfold respond
    split_ifs
    · exact Prog.Settles.call (fun _ => rfl) fun _ => hone
    · exact hone
  have htable : ((sdk.sportApi? request.apiId32).bind cmdCtlTable) =
      (sportCommand sdk request).fsmCommand.map FsmCommand.toInt32 :=
    expectedCommand_sportRequest sdk 0 request
  have hcommand : ((sdk.sportApi? request.apiId32).bind cmdCtlTable).toList.map
      SportMessage.command =
        (sportCommand sdk request).fsmCommand.toList.map fun fsm => .command fsm.toInt32 := by
    rw [htable]
    cases (sportCommand sdk request).fsmCommand <;> rfl
  rw [program_sportRequest, messagesFor, hcommand]
  exact (settles_actions sdk _).seq hsend (hno _)

/-- An input that is a sport request emits what the request leads to. -/
theorem settles_messagesFor (input : AppInput) (request : Request)
    (hinput : input.sportRequest? = some request) :
    (program sdk input).Settles Call.sportMessage (fun _ _ => []) (messagesFor sdk request) := by
  cases input with
  | sportRequest request' =>
    obtain rfl : request' = request := Option.some.inj hinput
    exact settles_sportRequest sdk request'
  | _ => simp [AppInput.sportRequest?] at hinput

/-- What an input owes on the sport thread. -/
def owedMessages (input : AppInput) : List SportMessage :=
  (input.sportRequest?.map (messagesFor sdk)).getD []

variable [HasHypot K]

/-- The jobs of the sport thread emit what they owe. -/
theorem settles_owedMessages (input : AppInput) (hthread : (appSystem sdk).thread input = .sport) :
    ((appSystem sdk).program input).Settles Call.sportMessage (fun _ _ => [])
      (owedMessages sdk input) := by
  cases input with
  | sportRequest request => exact settles_sportRequest sdk request
  | _ => simp [appSystem] at hthread

/-- The inputs of the sport thread are the sport requests. -/
theorem thread_sport_iff (input : AppInput) :
    (appSystem sdk).thread input = .sport ↔ input.sportRequest?.isSome = true := by
  cases input <;> simp [appSystem, AppInput.sportRequest?]

/-- A call emits on the sport topics what it emits on behalf of the sport thread. -/
theorem call_sportMessages (e : Time) (app : App K) (i : Call) :
    (App.call sdk e app i).2.filterMap Output.sportMessage? = i.sportMessage := by
  cases i with
  | cmdVel op =>
    simp [App.call, Call.sportMessage, List.filterMap_map, Function.comp_def,
      Output.sportMessage?]
  | publishCommand command => rfl
  | _ => rfl

/-- Only the sport thread emits sport messages. -/
theorem calls_not_sport {input : AppInput} (h : (appSystem sdk).thread input ≠ .sport) :
    (program sdk input).Calls fun i => i.sportMessage = [] := by
  cases input with
  | sportRequest request => exact absurd rfl h
  | switcherRequest request =>
    exact calls_program_switcherRequest sdk request rfl (fun _ => rfl) fun _ => rfl
  | reset => simp [program, resetCallback, Call.sportMessage]
  | loop => exact calls_loopIteration rfl rfl rfl fun _ => rfl

end Sport

/-- **Sport requests are answered once, in order, under every interleaving.** The commands on
`/cmd_ctl` and the sport responses are, in one sequence, what the started requests lead to, request
after request; all that is missing belongs to the latest request, and nothing is missing once its
handling has ended.

**Proof sketch.** By `settles_sportRequest` each sport handler owes its messages and no other thread
emits any, so `System.emitted_by_jobs` gives the balance of the whole interleaving, with what is
missing a suffix of what the latest request owes. -/
theorem sport_requests_answered {K : Type} [Field K] [LinearOrder K] [HasHypot K]
    (sdk : UnitreeSdk K) (ls : List (Label Thread AppInput Time)) :
    let c := interleaved sdk ls
    ∃ due, sportMessages c.trace ++ due = (sportRequests sdk ls).flatMap (messagesFor sdk) ∧
      due <:+ ((sportRequests sdk ls).getLast?.map (messagesFor sdk)).getD [] ∧
      (c.prog .sport = .done → due = []) := by
  exact System.emitted_by_jobs (S := appSystem sdk) (thread_sport_iff sdk)
    (settles_messagesFor sdk) (fun _ => calls_not_sport sdk) (call_sportMessages sdk) ls

/-! ## The shared objects -/

section Objects

variable {K : Type} [Field K] [LinearOrder K] [HasHypot K] (sdk : UnitreeSdk K)

omit [HasHypot K] in
/-- The handlers ask the motion switcher about the id in the request. -/
theorem asksOwnId_program (input : AppInput) : (program sdk input).Calls Call.AsksOwnId := by
  cases input with
  | sportRequest request =>
    rw [program_sportRequest]
    refine Prog.Calls.seq ?_ (calls_respond sdk request trivial trivial)
    cases sportCommand sdk request with
    | move p => exact ⟨trivial, fun _ => calls_updatePostureFromMove sdk p trivial trivial⟩
    | _ => simp [Call.AsksOwnId]
  | switcherRequest request =>
    exact calls_program_switcherRequest sdk request rfl (fun _ => trivial) fun _ => trivial
  | reset => simp [program, resetCallback, Call.AsksOwnId]
  | loop => exact calls_loopIteration trivial trivial trivial fun _ => trivial

/-- The motion switcher is an object of the application.

**Proof sketch.** Case analysis on the call: three calls are inputs of the motion switcher and do
what its step function does on them; every other call leaves the object alone and shows none of its
answers. -/
theorem isObject_motionSwitcherBridge :
    (appSystem sdk).IsObject Call.AsksOwnId App.motionSwitcherBridge
      (fun _ i => i.switcherInput?) (MotionSwitcherBridge.step sdk)
      (fun _ app i =>
        (i.switcherInput?.map fun x => (app.motionSwitcherBridge.step sdk x).2).getD []) where
  unseen := by
    intro e app i _ hview
    refine ⟨?_, by simp [hview]⟩
    cases i with
    | setRobotPosture posture => simp [Call.switcherInput?] at hview
    | resetMotionSwitcher => simp [Call.switcherInput?] at hview
    | buildInterceptResponseData apiId request => simp [Call.switcherInput?] at hview
    | _ => rfl
  seen := by
    intro e app i x hi hview
    refine ⟨?_, by simp [hview]⟩
    cases i with
    | setRobotPosture posture =>
      obtain rfl := Option.some.inj hview
      rfl
    | resetMotionSwitcher =>
      obtain rfl := Option.some.inj hview
      rfl
    | buildInterceptResponseData apiId request =>
      obtain rfl := Option.some.inj hview
      obtain rfl : apiId = request.apiId32 := hi
      rfl
    | _ => simp [Call.switcherInput?] at hview

omit [Field K] [LinearOrder K] [HasHypot K] in
/-- The motion switcher answers a call with what is to be written for it. -/
theorem step_response_eq_debt (app : App K) (i : Call) :
    (((i.switcherInput?.map fun x => (app.motionSwitcherBridge.step sdk x).2).getD []).filterMap
      Answered.response) = Call.switcherDebt sdk app i := by
  cases i <;> rfl

omit [HasHypot K] in
/-- A motion switcher request makes one call on the switcher, which answers it. -/
theorem settles_answeredRequest (request : Request) :
    (program sdk (.switcherRequest request)).Settles Call.answeredRequest (fun _ _ => [])
      [request] := by
  rw [program_switcherRequest]
  refine ⟨[], rfl, fun app => Prog.settles_nil (Prog.Calls.seq ?_ ?_)⟩
  · cases switcherOp sdk app.motionSwitcherBridge request <;>
      simp [callIfSome, Call.answeredRequest]
  · simp [Call.answeredRequest]

omit [Field K] [LinearOrder K] [HasHypot K] in
/-- The end of a motion switcher request writes its response. -/
theorem settles_callIfSome (op : Option CmdVelOp) (response : Response) :
    ((callIfSome op).seq (.one (.writeSwitcherResponse response)) : AppProg K).Settles
      Call.switcherAnswer (Call.switcherDebt sdk)
      (Call.writeSwitcherResponse response).switcherAnswer := by
  have hcalls : (callIfSome op : AppProg K).Calls
      fun i => i.switcherAnswer = [] ∧ ∀ app : App K, Call.switcherDebt sdk app i = [] := by
    cases op <;> simp [callIfSome, Call.switcherAnswer, Call.switcherDebt]
  exact (Prog.settles_nil hcalls).seq (Prog.Settles.one fun _ => rfl) (hcalls.mono fun _ hi => hi.2)

omit [HasHypot K] in
/-- The answer is written at the end. -/
theorem settles_switcherAnswer (request : Request) :
    (program sdk (.switcherRequest request)).Settles Call.switcherAnswer
      (Call.switcherDebt sdk) [] := by
  rw [program_switcherRequest]
  exact ⟨[], rfl, fun app => settles_callIfSome sdk _ _⟩

/-- What the motion switcher thread can have left to do: nothing, a whole request, or the end of
one. -/
def SwitcherRest (p : AppProg K) : Prop :=
  p = .done ∨ (∃ request, p = program sdk (.switcherRequest request)) ∨
    ∃ op response, p = (callIfSome op).seq (.one (.writeSwitcherResponse response))

omit [HasHypot K] in
/-- A motion switcher request begins with its whole program. -/
theorem switcherRest_program {input : AppInput} (h : input.switcherRequest?.isSome = true) :
    SwitcherRest sdk (program sdk input) := by
  cases input with
  | switcherRequest request => exact Or.inr (Or.inl ⟨request, rfl⟩)
  | _ => simp [AppInput.switcherRequest?] at h

omit [HasHypot K] in
/-- What is left after a call is the end of a request, or nothing. -/
theorem SwitcherRest.next {i : Call} {next : App K → AppProg K}
    (h : SwitcherRest sdk (.call i next)) (app : App K) : SwitcherRest sdk (next app) := by
  rcases h with h | ⟨request, h⟩ | ⟨op, response, h⟩
  · cases h
  · rw [program_switcherRequest] at h
    obtain ⟨rfl, rfl⟩ := Prog.call.inj h
    exact Or.inr (Or.inr ⟨_, _, rfl⟩)
  · cases op with
    | none =>
      obtain ⟨rfl, rfl⟩ := Prog.call.inj h
      exact Or.inl rfl
    | some op =>
      obtain ⟨rfl, rfl⟩ := Prog.call.inj h
      exact Or.inr (Or.inr ⟨none, response, rfl⟩)

omit [HasHypot K] in
/-- At most one answer is still to be written. -/
theorem SwitcherRest.length_le {p : AppProg K} (h : SwitcherRest sdk p) (app : App K)
    {due : List Response}
    (hdue : p.Settles Call.switcherAnswer (Call.switcherDebt sdk) due) : due.length ≤ 1 := by
  have : Nonempty (App K) := ⟨app⟩
  rcases h with rfl | ⟨request, rfl⟩ | ⟨op, response, rfl⟩
  · have hnil : due = [] := hdue
    simp [hnil]
  · have hnil := hdue.unique (settles_switcherAnswer sdk request)
    simp [hnil]
  · have hone := hdue.unique (settles_callIfSome sdk op response)
    simp [hone, Call.switcherAnswer]

/-- Only the motion switcher thread asks the motion switcher or writes its responses. -/
theorem calls_not_switcher {input : AppInput} (h : (appSystem sdk).thread input ≠ .switcher) :
    (program sdk input).Calls fun i => i.answeredRequest = [] ∧ i.switcherAnswer = [] ∧
      ∀ app : App K, Call.switcherDebt sdk app i = [] := by
  cases input with
  | sportRequest request =>
    rw [program_sportRequest]
    refine Prog.Calls.seq ?_ (calls_respond sdk request ⟨rfl, rfl, fun _ => rfl⟩
      ⟨rfl, rfl, fun _ => rfl⟩)
    cases sportCommand sdk request with
    | move p =>
      exact ⟨⟨rfl, rfl, fun _ => rfl⟩, fun _ => calls_updatePostureFromMove sdk p
        ⟨rfl, rfl, fun _ => rfl⟩ ⟨rfl, rfl, fun _ => rfl⟩⟩
    | _ => simp [Call.answeredRequest, Call.switcherAnswer, Call.switcherDebt]
  | switcherRequest request => exact absurd rfl h
  | reset =>
    simp [program, resetCallback, Call.answeredRequest, Call.switcherAnswer, Call.switcherDebt]
  | loop =>
    exact calls_loopIteration ⟨rfl, rfl, fun _ => rfl⟩ ⟨rfl, rfl, fun _ => rfl⟩
      ⟨rfl, rfl, fun _ => rfl⟩ fun _ => ⟨rfl, rfl, fun _ => rfl⟩

/-- A call emits on the response topic what it emits on behalf of the motion switcher thread. -/
theorem call_switcherAnswer (e : Time) (app : App K) (i : Call) :
    (App.call sdk e app i).2.filterMap Output.switcherResponse? = i.switcherAnswer := by
  cases i with
  | cmdVel op =>
    simp [App.call, Call.switcherAnswer, List.filterMap_map, Function.comp_def,
      Output.switcherResponse?]
  | _ => rfl

/-- The inputs of the motion switcher thread are the motion switcher requests. -/
theorem thread_switcher_iff (input : AppInput) :
    (appSystem sdk).thread input = .switcher ↔ input.switcherRequest?.isSome = true := by
  cases input <;> simp [appSystem, AppInput.switcherRequest?]

/-- At every moment the motion switcher thread has one of these programs left to do. -/
theorem switcherRest_interleaved (ls : List (Label Thread AppInput Time)) :
    SwitcherRest sdk ((interleaved sdk ls).prog .switcher) :=
  System.run_threads (S := appSystem sdk) (c := Pool.idle App.init)
    (R := fun t p => t = .switcher → SwitcherRest sdk p)
    (fun input hthread => switcherRest_program sdk ((thread_switcher_iff sdk input).mp hthread))
    (fun _ _ _ app h ht => (h ht).next sdk app) (fun _ _ => Or.inl rfl) ls .switcher rfl

end Objects

section Linearisable

variable {K : Type} [Field K] [LinearOrder K] [HasHypot K] (sdk : UnitreeSdk K)
  (ls : List (Label Thread AppInput Time))

/-- The motion switcher is in the state of its own run. -/
theorem recorded_switcherHistory :
    recorded (MotionSwitcherBridge.step sdk) MotionSwitcherBridge.init (switcherHistory sdk ls) =
      ⟨(interleaved sdk ls).state.motionSwitcherBridge,
        (appLog sdk ls).flatMap (Event.shown fun _ app i =>
          (i.switcherInput?.map fun x => (app.motionSwitcherBridge.step sdk x).2).getD [])⟩ :=
  (isObject_motionSwitcherBridge sdk).recorded_log (c := Pool.idle App.init)
    (asksOwnId_program sdk) (fun _ => trivial) ls

/-- What the motion switcher has answered so far. -/
theorem answered_switcherHistory :
    (MotionSwitcherBridge.answered sdk (switcherHistory sdk ls)).filterMap Answered.response =
      (appLog sdk ls).flatMap (Event.shown fun _ app i => Call.switcherDebt sdk app i) := by
  have hdebt : (fun (_ : Time) app i => (((i.switcherInput?.map fun x =>
      (app.motionSwitcherBridge.step sdk x).2).getD []).filterMap Answered.response)) =
      fun _ app i => Call.switcherDebt sdk app i := by
    funext e app i
    exact step_response_eq_debt sdk app i
  rw [MotionSwitcherBridge.answered, recorded_switcherHistory, Event.filterMap_flatMap_shown,
    hdebt]

/-- The requests the motion switcher has answered so far. -/
theorem requests_switcherHistory :
    (switcherHistory sdk ls).filterMap SwitcherInput.request? =
      (appLog sdk ls).flatMap (Event.shown fun _ _ i => i.answeredRequest) := by
  have hrequest : (fun (_ : Time) (_ : App K) (i : Call) =>
      (i.switcherInput?.bind SwitcherInput.request?).toList) = fun _ _ i => i.answeredRequest := by
    funext e app i
    cases i <;> rfl
  rw [switcherHistory, Event.filterMap_filterMap_seen, hrequest]

end Linearisable

/-- **The motion switcher is linearisable**, each call on it being one atomic step. In every
interleaving of the calls it is in the state of its own sequential run on the calls made so far,
one for each request, in order. The responses written are the answers of that run; at most the
latest answer is not written yet, and at most the latest request not answered yet, and neither once
its handling has ended.

**Proof sketch.** The state is that of the object's own run by `IsObject`. For the requests, each is
charged when its handler starts and paid by the call that answers it. For the responses, each is
charged by that call and paid when it is written. `System.balance` keeps both accounts, and what is
due on either is one entry at most. -/
theorem switcher_linearisable {K : Type} [Field K] [LinearOrder K] [HasHypot K]
    (sdk : UnitreeSdk K) (ls : List (Label Thread AppInput Time)) :
    let c := interleaved sdk ls
    let h := switcherHistory sdk ls
    c.state.motionSwitcherBridge = MotionSwitcherBridge.stateAfter sdk h ∧
    (∃ unanswered, h.filterMap SwitcherInput.request? ++ unanswered = switcherRequests sdk ls ∧
      unanswered.length ≤ 1 ∧ (c.prog .switcher = .done → unanswered = [])) ∧
    ∃ unsent, c.trace.filterMap Output.switcherResponse? ++ unsent =
        (MotionSwitcherBridge.answered sdk h).filterMap Answered.response ∧
      unsent.length ≤ 1 ∧ (c.prog .switcher = .done → unsent = []) := by
  intro c h
  have hcallsPay : ∀ input, (appSystem sdk).thread input ≠ .switcher →
      ((appSystem sdk).program input).Calls fun i => i.answeredRequest = [] :=
    fun _ hne => (calls_not_switcher sdk hne).mono fun _ hi => hi.1
  have hcallsAnswer : ∀ input, (appSystem sdk).thread input ≠ .switcher →
      ((appSystem sdk).program input).Calls fun i => i.switcherAnswer = [] :=
    fun _ hne => (calls_not_switcher sdk hne).mono fun _ hi => hi.2.1
  have hcallsDebt : ∀ input, (appSystem sdk).thread input ≠ .switcher →
      ((appSystem sdk).program input).Calls fun i =>
        ∀ app : App K, Call.switcherDebt sdk app i = [] :=
    fun _ hne => (calls_not_switcher sdk hne).mono fun _ hi => hi.2.2
  refine ⟨?_, ?_, ?_⟩
  · have hstate := congrArg Recorded.state (recorded_switcherHistory sdk ls)
    rw [recorded_state] at hstate
    exact hstate.symm
  · -- The account of the requests: a request is charged when it starts and paid by its call.
    have howed : ∀ (input : AppInput) request, input.switcherRequest? = some request →
        input.switcherRequest?.toList = [request] := by
      intro input request hinput
      simp [hinput]
    have hjob : ∀ input, (appSystem sdk).thread input = .switcher →
        ((appSystem sdk).program input).Settles Call.answeredRequest (fun _ _ => [])
          input.switcherRequest?.toList := by
      intro input hthread
      cases input with
      | switcherRequest request => exact settles_answeredRequest sdk request
      | _ => simp [appSystem] at hthread
    obtain ⟨due, hsettles, hbalance, hlatest⟩ :=
      System.balance (c := Pool.idle App.init) hjob rfl ls
    rw [System.payments_eq_shown (c := Pool.idle App.init) hcallsPay (fun _ _ => trivial),
      System.flatMap_charge_of_jobs (thread_switcher_iff sdk) howed] at hbalance
    rw [System.account_of_jobs (thread_switcher_iff sdk) howed] at hlatest
    refine ⟨due, ?_, ?_, fun hidle => ?_⟩
    · rw [requests_switcherHistory]
      refine hbalance.trans ?_
      rw [switcherRequests, appLog]
      exact List.flatMap_singleton' _
    · refine hlatest.length_le.trans ?_
      cases latest (fun ev => ev.job?.bind AppInput.switcherRequest?)
        ((appSystem sdk).log (Pool.idle App.init) ls) <;> simp
    · have hdone : (c.prog .switcher).Settles Call.answeredRequest (fun _ _ => []) due := hsettles
      rwa [hidle, Prog.settles_done] at hdone
  · -- The account of the responses: a response is charged by the call and paid when it is written.
    have hjob : ∀ input, (appSystem sdk).thread input = .switcher →
        ((appSystem sdk).program input).Settles Call.switcherAnswer (Call.switcherDebt sdk) [] := by
      intro input hthread
      cases input with
      | switcherRequest request => exact settles_switcherAnswer sdk request
      | _ => simp [appSystem] at hthread
    obtain ⟨due, hsettles, hbalance, -⟩ :=
      System.balance (c := Pool.idle App.init) hjob rfl ls
    have htrace : c.trace.filterMap Output.switcherResponse? = _ :=
      System.trace_eq_payments (S := appSystem sdk) (c := Pool.idle App.init) hcallsAnswer
        (fun _ _ => trivial) (call_switcherAnswer sdk) ls
    rw [System.charges_eq_shown (c := Pool.idle App.init) (fun _ => rfl) hcallsDebt
      (fun _ _ => trivial)] at hbalance
    have hrest := switcherRest_interleaved sdk ls
    refine ⟨due, ?_, hrest.length_le sdk c.state hsettles, fun hidle => ?_⟩
    · rw [answered_switcherHistory, htrace]
      exact hbalance
    · have hdone : (c.prog .switcher).Settles Call.switcherAnswer (Call.switcherDebt sdk) due :=
        hsettles
      rwa [hidle, Prog.settles_done] at hdone

end App

end SdkEventBridge
