import SdkEventBridge.App.Commands

set_option relaxedAutoImplicit false
set_option autoImplicit false

/-!
# The motion switcher as a register

What CHECK_MODE and GET_SILENT return is to be what earlier requests stored. Which requests stored
something shows in their answers: a SELECT_MODE, a RELEASE_MODE or a SET_SILENT counts iff it was
answered with status 0. This file states the register on the *answered* history, apart from the
fields of the class, and proves that the class implements it.

## Main definitions

* `SwitcherInput`, `Answered` — what reaches the motion switcher, and the same with its answer.
* `MotionSwitcherBridge.step`, `stateAfter`, `answered` — a run from construction.
* `nameEvent`, `formEvent`, `silentEvent` — what an answered input stores.
* `storedName`, `storedForm`, `storedSilent` — the register, read off the answered history.

## Main results

* `MotionSwitcherBridge.status_*_eq_zero_iff` — which requests are answered with status 0.
* `MotionSwitcherBridge.fields_after` — the fields are the register.
* `MotionSwitcherBridge.switcher_is_register` — what the two reading requests return.
-/

namespace SdkEventBridge

open Run

/-- What reaches the motion switcher: a request, a posture set by a handler, or a reset. -/
inductive SwitcherInput where
  | request (request : Request)
  | setRobotPosture (posture : RobotPosture)
  | resetToDefaults
  deriving DecidableEq

/-- An input, with the response written to it if it was a request. -/
structure Answered where
  input : SwitcherInput
  response : Option Response
  deriving DecidableEq

namespace Answered

/-- A request that was answered with status 0. -/
def granted (x : Answered) : Bool := (x.response.map Response.statusCode) == some 0

/-- A reset of the switcher. -/
def isReset (x : Answered) : Bool := x.input == .resetToDefaults

end Answered

/-! ## The register -/

section Register

variable {K : Type} (sdk : UnitreeSdk K) (l : List Answered)

/-- The record a granted SELECT_MODE carries. -/
def selected (x : Answered) : Option JsonizeModeName :=
  match x.input with
  | .request request =>
    if request.apiId32 = sdk.switcherApiId .selectMode ∧ x.granted = true then
      sdk.fromJsonModeName request.parameter
    else none
  | _ => none

/-- The mode name an input stores: that of a granted SELECT_MODE, none with a granted
RELEASE_MODE, and with a reset the one `ResetToDefaults` sets. -/
def nameEvent (x : Answered) : Option String :=
  match x.input with
  | .request request =>
    if request.apiId32 = sdk.switcherApiId .releaseMode ∧ x.granted = true then some ""
    else (selected sdk x).map JsonizeModeName.name
  | .resetToDefaults => some MotionSwitcherBridge.init.resetToDefaults.modeName
  | .setRobotPosture _ => none

/-- The form an input stores: that of a granted SELECT_MODE, if it is not empty. -/
def formEvent (x : Answered) : Option String :=
  ((selected sdk x).map JsonizeModeName.form).filter fun form => !form.isEmpty

/-- The flag a granted SET_SILENT stores. -/
def silentEvent (x : Answered) : Option Bool :=
  match x.input with
  | .request request =>
    if request.apiId32 = sdk.switcherApiId .setSilent ∧ x.granted = true then
      (sdk.fromJsonSilent request.parameter).map JsonizeSilent.silent
    else none
  | _ => none

/-- The name stored last. -/
def storedName : String := (latest (nameEvent sdk) l).getD ""

/-- The form stored last since the last reset. -/
def storedForm : String := (latest (formEvent sdk) (sinceLast Answered.isReset l)).getD "0"

/-- The flag stored last since the last reset. -/
def storedSilent : Bool :=
  (latest (silentEvent sdk) (sinceLast Answered.isReset l)).getD false

/-- The register of the name after one more input. -/
@[simp] theorem storedName_concat (x : Answered) :
    storedName sdk (l ++ [x]) = (nameEvent sdk x).getD (storedName sdk l) := by
  rw [storedName, latest_concat, storedName]
  cases nameEvent sdk x <;> rfl

/-- The register of the form after one more input. -/
@[simp] theorem storedForm_concat (x : Answered) :
    storedForm sdk (l ++ [x]) =
      if x.isReset then "0" else (formEvent sdk x).getD (storedForm sdk l) :=
  getD_latest_sinceLast_concat _ _ _ _ _

/-- The register of the silent flag after one more input. -/
@[simp] theorem storedSilent_concat (x : Answered) :
    storedSilent sdk (l ++ [x]) =
      if x.isReset then false else (silentEvent sdk x).getD (storedSilent sdk l) :=
  getD_latest_sinceLast_concat _ _ _ _ _

end Register

namespace MotionSwitcherBridge

/-! ## Runs -/

section Runs

variable {K : Type} (sdk : UnitreeSdk K)

/-- Handle one input; what is emitted is the input with its answer. -/
def step (s : MotionSwitcherBridge) (x : SwitcherInput) : MotionSwitcherBridge × List Answered :=
  match x with
  | .request request =>
    ((s.buildInterceptResponseData sdk request.apiId32 request).1,
      [{ input := x, response := some (switcherResponse sdk s request) }])
  | .setRobotPosture posture => (s.setRobotPosture posture, [{ input := x, response := none }])
  | .resetToDefaults => (s.resetToDefaults, [{ input := x, response := none }])

/-- The motion switcher after a run from construction. -/
def stateAfter (h : List SwitcherInput) : MotionSwitcherBridge := run (next (step sdk)) init h

/-- The inputs of a run from construction with their answers. -/
def answered (h : List SwitcherInput) : List Answered := (recorded (step sdk) init h).trace

/-- The last input acts on the state the others led to. -/
@[simp] theorem stateAfter_concat (h : List SwitcherInput) (x : SwitcherInput) :
    stateAfter sdk (h ++ [x]) = (step sdk (stateAfter sdk h) x).1 := run_concat _ _ _ _

/-- The last input is added with its answer. -/
@[simp] theorem answered_concat (h : List SwitcherInput) (x : SwitcherInput) :
    answered sdk (h ++ [x]) = answered sdk h ++ (step sdk (stateAfter sdk h) x).2 :=
  recorded_concat_trace _ _ _ _

end Runs

/-! ## Answers -/

section Answers

variable {K : Type} (sdk : UnitreeSdk K) (s : MotionSwitcherBridge) {request : Request}

/-- The answer to a request with a tracked id. -/
theorem switcherResponse_eq {api : SwitcherApi}
    (hid : request.apiId32 = sdk.switcherApiId api) :
    switcherResponse sdk s request =
      let (_, statusCode, data) :=
        s.buildInterceptResponseData sdk (sdk.switcherApiId api) request
      buildInterceptResponse request statusCode data := by
  rw [switcherResponse, hid]

/-- SELECT_MODE is granted in StandDown to a parameter with a name. -/
theorem status_selectMode_eq_zero_iff (hid : request.apiId32 = sdk.switcherApiId .selectMode) :
    (switcherResponse sdk s request).statusCode = 0 ↔ s.getRobotPosture = .standDown ∧
      ∃ m, sdk.fromJsonModeName request.parameter = some m ∧ m.name ≠ "" := by
  rw [switcherResponse_eq sdk s hid, buildInterceptResponseData_switcherApiId]
  rcases selectMode_cases sdk s request with
    ⟨hup, h⟩ | ⟨-, hempty, h⟩ | ⟨hdown, m, hparse, hname, h⟩ <;>
    simp only [h, buildInterceptResponse, getRobotPosture]
  · exact iff_of_false sdk.errBusy_ne_zero fun hgrant => hup hgrant.1
  · refine iff_of_false sdk.errApiParameter_ne_zero ?_
    rintro ⟨-, m, hparse, hname⟩
    exact hname (hempty m hparse)
  · exact iff_of_true rfl ⟨hdown, m, hparse, hname⟩

/-- RELEASE_MODE is granted in StandDown. -/
theorem status_releaseMode_eq_zero_iff
    (hid : request.apiId32 = sdk.switcherApiId .releaseMode) :
    (switcherResponse sdk s request).statusCode = 0 ↔ s.getRobotPosture = .standDown := by
  rw [switcherResponse_eq sdk s hid, buildInterceptResponseData_switcherApiId]
  rcases releaseMode_cases sdk s with ⟨hup, h⟩ | ⟨hdown, h⟩ <;>
    simp only [h, buildInterceptResponse, getRobotPosture]
  · exact iff_of_false sdk.errBusy_ne_zero hup
  · exact iff_of_true rfl hdown

/-- SET_SILENT is granted to a parameter that decodes. -/
theorem status_setSilent_eq_zero_iff (hid : request.apiId32 = sdk.switcherApiId .setSilent) :
    (switcherResponse sdk s request).statusCode = 0 ↔
      (sdk.fromJsonSilent request.parameter).isSome = true := by
  rw [switcherResponse_eq sdk s hid, buildInterceptResponseData_switcherApiId]
  cases hparse : sdk.fromJsonSilent request.parameter with
  | none =>
    simp only [setSilent, hparse, buildInterceptResponse]
    exact iff_of_false sdk.errApiParameter_ne_zero (by decide)
  | some d =>
    simp only [setSilent, hparse, buildInterceptResponse]
    exact iff_of_true rfl rfl

/-- CHECK_MODE returns form and name. -/
theorem data_checkMode (hid : request.apiId32 = sdk.switcherApiId .checkMode) :
    (switcherResponse sdk s request).data =
      sdk.toJsonModeName { form := s.form, name := s.modeName } := by
  rw [switcherResponse_eq sdk s hid, buildInterceptResponseData_switcherApiId]
  rfl

/-- GET_SILENT returns the flag. -/
theorem data_getSilent (hid : request.apiId32 = sdk.switcherApiId .getSilent) :
    (switcherResponse sdk s request).data = sdk.toJsonSilent { silent := s.silent } := by
  rw [switcherResponse_eq sdk s hid, buildInterceptResponseData_switcherApiId]
  rfl

end Answers

/-! ## The fields are the register -/

section Fields

variable {K : Type} (sdk : UnitreeSdk K)

/-- The fields `s'` are the fields `s` with what the answered input stores. -/
structure Stores (s : MotionSwitcherBridge) (a : Answered) (s' : MotionSwitcherBridge) : Prop where
  modeName : s'.modeName = (nameEvent sdk a).getD s.modeName
  form : s'.form = if a.isReset then "0" else (formEvent sdk a).getD s.form
  silent : s'.silent = if a.isReset then false else (silentEvent sdk a).getD s.silent

section NotStoring

variable (s : MotionSwitcherBridge) {request : Request} {a : Answered}

/-- A request that is not granted stores nothing. -/
theorem stores_of_not_granted (hinput : a.input = .request request) (hno : a.granted = false) :
    Stores sdk s a s := by
  constructor <;>
    simp [nameEvent, formEvent, silentEvent, selected, hinput, hno, Answered.isReset]

/-- Neither does a request with the id of none of the three writing requests. -/
theorem stores_of_not_writing (hinput : a.input = .request request)
    (hselect : request.apiId32 ≠ sdk.switcherApiId .selectMode)
    (hrelease : request.apiId32 ≠ sdk.switcherApiId .releaseMode)
    (hsilent : request.apiId32 ≠ sdk.switcherApiId .setSilent) : Stores sdk s a s := by
  constructor <;>
    simp [nameEvent, formEvent, silentEvent, selected, hinput, hselect, hrelease, hsilent,
      Answered.isReset]

end NotStoring

/-- A request stores what its answer says.

**Proof sketch.** CHECK_MODE, GET_SILENT and foreign ids write nothing. For the three others the
status lemmas say when the answer is granted, and `selectMode_cases`, `releaseMode_cases` and the
parse of SET_SILENT give the new fields. A request that is not granted leaves all three fields
alone, and a granted one stores what the events read off its parameter. -/
theorem stores_request (s : MotionSwitcherBridge) (request : Request) :
    Stores sdk s { input := .request request, response := some (switcherResponse sdk s request) }
      (s.buildInterceptResponseData sdk request.apiId32 request).1 := by
  set a : Answered :=
    { input := .request request, response := some (switcherResponse sdk s request) } with ha
  have hinput : a.input = .request request := rfl
  have hgranted : a.granted = true ↔ (switcherResponse sdk s request).statusCode = 0 := by
    simp [ha, Answered.granted]
  have hreset : a.isReset = false := by simp [ha, Answered.isReset]
  have hinj := sdk.switcherApiId_injective
  cases hapi : sdk.switcherApi? request.apiId32 with
  | none =>
    have hne : ∀ api, request.apiId32 ≠ sdk.switcherApiId api := by
      intro api hid
      rw [hid, sdk.switcherApi?_switcherApiId] at hapi
      exact absurd hapi (by simp)
    rw [buildInterceptResponseData_of_none sdk hapi]
    exact stores_of_not_writing sdk s hinput (hne _) (hne _) (hne _)
  | some api =>
    have hid : request.apiId32 = sdk.switcherApiId api :=
      (sdk.switcherApi?_eq_some_iff.mp hapi).symm
    rw [hid, buildInterceptResponseData_switcherApiId]
    cases api with
    | checkMode | getSilent =>
      refine stores_of_not_writing sdk s hinput ?_ ?_ ?_ <;> simp [hid, hinj.eq_iff]
    | selectMode =>
      have hstatus := hgranted.trans (status_selectMode_eq_zero_iff sdk s hid)
      rcases selectMode_cases sdk s request with
        ⟨hup, h⟩ | ⟨-, hempty, h⟩ | ⟨hdown, m, hparse, hname, h⟩
      · have hno := mt hstatus.mp fun hgrant => hup hgrant.1
        rw [h]
        exact stores_of_not_granted sdk s hinput (by simpa using hno)
      · have hno := mt hstatus.mp fun ⟨_, m, hparse, hname⟩ => hname (hempty m hparse)
        rw [h]
        exact stores_of_not_granted sdk s hinput (by simpa using hno)
      · have hyes := hstatus.mpr ⟨hdown, m, hparse, hname⟩
        rw [h]
        constructor
        · simp [nameEvent, selected, hinput, hid, hinj.eq_iff, hyes, hparse]
        · cases hform : m.form.isEmpty <;>
            simp [formEvent, selected, hinput, hid, hreset, hyes, hparse, hform, Option.filter]
        · simp [silentEvent, hinput, hid, hinj.eq_iff, hreset]
    | releaseMode =>
      have hstatus := hgranted.trans (status_releaseMode_eq_zero_iff sdk s hid)
      rcases releaseMode_cases sdk s with ⟨hup, h⟩ | ⟨hdown, h⟩
      · have hno := mt hstatus.mp hup
        rw [h]
        exact stores_of_not_granted sdk s hinput (by simpa using hno)
      · have hyes := hstatus.mpr hdown
        rw [h]
        constructor <;>
          simp [nameEvent, formEvent, silentEvent, selected, hinput, hid, hinj.eq_iff, hreset,
            hyes]
    | setSilent =>
      have hstatus := hgranted.trans (status_setSilent_eq_zero_iff sdk s hid)
      cases hparse : sdk.fromJsonSilent request.parameter with
      | none =>
        have hno := mt hstatus.mp (by simp [hparse])
        simp only [setSilent, hparse]
        exact stores_of_not_granted sdk s hinput (by simpa using hno)
      | some d =>
        have hyes := hstatus.mpr (by simp [hparse])
        simp only [setSilent, hparse]
        constructor <;>
          simp [nameEvent, formEvent, silentEvent, selected, hinput, hid, hinj.eq_iff, hreset,
            hyes, hparse]

/-- Every input stores what its answer says. -/
theorem stores_step (s : MotionSwitcherBridge) (x : SwitcherInput) :
    ∃ a, (step sdk s x).2 = [a] ∧ Stores sdk s a (step sdk s x).1 := by
  cases x with
  | request request => exact ⟨_, rfl, stores_request sdk s request⟩
  | setRobotPosture posture =>
    refine ⟨_, rfl, ?_⟩
    constructor <;>
      simp [step, nameEvent, formEvent, silentEvent, selected, Answered.isReset]
  | resetToDefaults =>
    refine ⟨_, rfl, ?_⟩
    constructor
    · simp [step, nameEvent, MotionSwitcherBridge.resetToDefaults]
    · simp [step, Answered.isReset, MotionSwitcherBridge.resetToDefaults]
    · simp [step, Answered.isReset, MotionSwitcherBridge.resetToDefaults]

/-- **The fields are the register** of the answered history.

**Proof sketch.** Induction on the history from its end: `stores_step` says what the last input
stores in each field, and the stored values of the history are those of its start and this one. -/
theorem fields_after (h : List SwitcherInput) :
    (stateAfter sdk h).modeName = storedName sdk (answered sdk h) ∧
      (stateAfter sdk h).form = storedForm sdk (answered sdk h) ∧
      (stateAfter sdk h).silent = storedSilent sdk (answered sdk h) := by
  induction h using List.reverseRecOn with
  | nil => exact ⟨rfl, rfl, rfl⟩
  | append_singleton h x ih =>
    obtain ⟨hname, hform, hsilent⟩ := ih
    obtain ⟨a, hout, hstores⟩ := stores_step sdk (stateAfter sdk h) x
    rw [stateAfter_concat, answered_concat, hout, storedName_concat, storedForm_concat,
      storedSilent_concat, ← hname, ← hform, ← hsilent]
    exact ⟨hstores.modeName, hstores.form, hstores.silent⟩

end Fields

/-- **The motion switcher is a register.** If the SDK's JSON functions round-trip its two
records, then after every run CHECK_MODE and GET_SILENT return what the granted requests stored,
and the three writing requests are granted exactly in the posture and with the parameter they
need.

**Proof sketch.** By `fields_after` the three fields hold what the answered inputs so far stored.
CHECK_MODE and GET_SILENT print the fields, and the parser reads them back by the two round-trip
assumptions. The three equivalences are the status lemmas. -/
theorem switcher_is_register {K : Type} (sdk : UnitreeSdk K)
    (hmode : ∀ m, sdk.fromJsonModeName (sdk.toJsonModeName m) = some m)
    (hsilent : ∀ d, sdk.fromJsonSilent (sdk.toJsonSilent d) = some d)
    (h : List SwitcherInput) (request : Request) :
    ∃ response,
      answered sdk (h ++ [.request request]) =
        answered sdk h ++ [{ input := .request request, response := some response }] ∧
      (request.apiId32 = sdk.switcherApiId .checkMode →
        sdk.fromJsonModeName response.data =
          some { form := storedForm sdk (answered sdk h)
                 name := storedName sdk (answered sdk h) }) ∧
      (request.apiId32 = sdk.switcherApiId .getSilent →
        sdk.fromJsonSilent response.data =
          some { silent := storedSilent sdk (answered sdk h) }) ∧
      (request.apiId32 = sdk.switcherApiId .selectMode →
        (response.statusCode = 0 ↔ (stateAfter sdk h).getRobotPosture = .standDown ∧
          ∃ m, sdk.fromJsonModeName request.parameter = some m ∧ m.name ≠ "")) ∧
      (request.apiId32 = sdk.switcherApiId .releaseMode →
        (response.statusCode = 0 ↔ (stateAfter sdk h).getRobotPosture = .standDown)) ∧
      (request.apiId32 = sdk.switcherApiId .setSilent →
        (response.statusCode = 0 ↔ (sdk.fromJsonSilent request.parameter).isSome = true)) := by
  obtain ⟨hname, hform, hflag⟩ := fields_after sdk h
  refine ⟨switcherResponse sdk (stateAfter sdk h) request, answered_concat sdk h _, ?_, ?_, ?_,
    ?_, ?_⟩
  · intro hid
    rw [data_checkMode sdk _ hid, hmode, hform, hname]
  · intro hid
    rw [data_getSilent sdk _ hid, hsilent, hflag]
  · exact status_selectMode_eq_zero_iff sdk _
  · exact status_releaseMode_eq_zero_iff sdk _
  · exact status_setSilent_eq_zero_iff sdk _

/-- A CHECK_MODE after a granted SELECT_MODE. -/
theorem switcher_is_register_selected :
    let sdk := sampleRoundTripSdk ℚ
    let h : List SwitcherInput := [.request (sampleRequest 1002 "\x7b\"name\":\"normal\"\x7d")]
    ∃ response,
      answered sdk (h ++ [.request (sampleRequest 1001 "")]) =
        answered sdk h ++
          [{ input := .request (sampleRequest 1001 ""), response := some response }] ∧
      sdk.fromJsonModeName response.data =
        some { form := storedForm sdk (answered sdk h)
               name := storedName sdk (answered sdk h) } := by
  intro sdk h
  obtain ⟨response, hanswer, hcheck, -⟩ := switcher_is_register sdk sampleRoundTripSdk_modeName
    sampleRoundTripSdk_silent h (sampleRequest 1001 "")
  exact ⟨response, hanswer, hcheck rfl⟩

end MotionSwitcherBridge

end SdkEventBridge
