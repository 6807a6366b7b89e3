import Mathlib.Logic.Function.Basic
import Mathlib.Algebra.Ring.Int.Defs
import Mathlib.Data.Sum.Basic
import Mathlib.Data.List.Basic

set_option relaxedAutoImplicit false
set_option autoImplicit false

/-!
# The Unitree SDK as a parameter

The bridge is linked against the Unitree SDK, which is not part of the repository. This file
holds what the code uses of it: the API ids and error codes of its headers, the request and
response messages, and its JSON functions. They are the fields of `UnitreeSdk`, over which the
whole model is parameterised; the laws among the fields are those the code relies on.

`K` is the number type that stands for `double`; the results about velocities take `K = ℝ`.

## Main definitions

* `SportApi`, `SwitcherApi`, `InternalApi` — the case labels of the code's `switch` statements.
* `UnitreeSdk` — the SDK; a function that throws returns `none`.
* `UnitreeSdk.sportApi?`, `UnitreeSdk.switcherApi?`, `UnitreeSdk.internalApi?` — a `switch` on
  an API id.
* `Request`, `Response` — the messages of the request/response topics.
* `sampleSdk`, `sampleSdkWith`, `sampleRoundTripSdk` — concrete SDKs that know a few parameter
  texts.
-/

namespace SdkEventBridge

/-- A reading of `std::chrono::steady_clock`, in nanoseconds. -/
abbrev Time := Int

/-- Something that happens at a clock reading. -/
structure Timed (α : Type) where
  now : Time
  op : α
  deriving DecidableEq, Repr

/-- The sport API ids that `IsTrackedSportApi` lists. Two of them exist twice, in the Go2 and in
the B2 header. -/
inductive SportApi where
  | damp | move | balanceStand | stopMove | standUp | standDown | recoveryStand
  | freeWalkGo2 | freeWalkB2 | classicWalkGo2 | classicWalkB2 | visionWalk | fastWalk
  | switchMoveMode | speedLevel | switchGait
  deriving DecidableEq, Repr

/-- The motion switcher API ids that `IsTrackedApi` lists. -/
inductive SwitcherApi where
  | checkMode | selectMode | releaseMode | setSilent | getSilent
  deriving DecidableEq, Repr

/-- The internal API ids both servers answer. -/
inductive InternalApi where
  | apiVersion | noop | leaseApply | leaseRenewal
  deriving DecidableEq, Repr

/-- Every sport API. -/
def SportApi.all : List SportApi :=
  [.damp, .move, .balanceStand, .stopMove, .standUp, .standDown, .recoveryStand,
    .freeWalkGo2, .freeWalkB2, .classicWalkGo2, .classicWalkB2, .visionWalk, .fastWalk,
    .switchMoveMode, .speedLevel, .switchGait]

/-- Every motion switcher API. -/
def SwitcherApi.all : List SwitcherApi :=
  [.checkMode, .selectMode, .releaseMode, .setSilent, .getSilent]

/-- Every internal API. -/
def InternalApi.all : List InternalApi := [.apiVersion, .noop, .leaseApply, .leaseRenewal]

/-- No sport API is left out. -/
theorem SportApi.mem_all (a : SportApi) : a ∈ SportApi.all := by cases a <;> decide

/-- No motion switcher API is left out. -/
theorem SwitcherApi.mem_all (a : SwitcherApi) : a ∈ SwitcherApi.all := by cases a <;> decide

/-- No internal API is left out. -/
theorem InternalApi.mem_all (a : InternalApi) : a ∈ InternalApi.all := by cases a <;> decide

/-- `unitree::robot::b2::JsonizeModeName`. -/
structure JsonizeModeName where
  form : String
  name : String
  deriving DecidableEq, Repr

/-- `unitree::robot::b2::JsonizeSilent`. -/
structure JsonizeSilent where
  silent : Bool
  deriving DecidableEq, Repr

/-- `RequestIdentity`. -/
structure RequestIdentity where
  id : Int64
  apiId : Int64
  deriving DecidableEq

/-- `Request`, as far as the bridges read it. -/
structure Request where
  identity : RequestIdentity
  parameter : String
  deriving DecidableEq

/-- `Response`, as far as the bridges write it. -/
structure Response where
  identity : RequestIdentity
  statusCode : Int32
  data : String
  deriving DecidableEq

/-- `static_cast<int32_t>(request.header().identity().api_id())`. -/
def Request.apiId32 (request : Request) : Int32 := request.identity.apiId.toInt32

/-- What the code uses of the SDK. A JSON function that throws `std::exception` returns
`none`. -/
structure UnitreeSdk (K : Type) where
  /-- The API ids. Labels of one `switch` are distinct, or it would not compile. -/
  sportApiId : SportApi → Int32
  sportApiId_injective : Function.Injective sportApiId
  switcherApiId : SwitcherApi → Int32
  internalApiId : InternalApi → Int32
  switcherLabel_injective : Function.Injective (Sum.elim internalApiId switcherApiId)
  sportApiVersion : String
  switcherApiVersion : String
  /-- `UT_SWITCH_ERR_BUSY` and `UT_ROBOT_ERR_SERVER_API_PARAMETER`, two different errors. -/
  errBusy : Int32
  errApiParameter : Int32
  errBusy_ne_zero : errBusy ≠ 0
  errApiParameter_ne_zero : errApiParameter ≠ 0
  errBusy_ne_errApiParameter : errBusy ≠ errApiParameter
  /-- A parsed JSON value. -/
  Any : Type
  fromJsonString : String → Option Any
  isJsonMap : Any → Bool
  /-- `find` on the `JsonMap` inside a value. -/
  find : Any → String → Option Any
  /-- `FromJson` at the four types the code reads; on `none` the target is left as it was. -/
  fromJsonDouble : Any → Option K
  fromJsonInt : Any → Option Int32
  fromJsonBool : Any → Option Bool
  fromJsonText : Any → Option String
  /-- `FromJsonString` into and `ToJsonString` from the two motion switcher records. -/
  fromJsonModeName : String → Option JsonizeModeName
  toJsonModeName : JsonizeModeName → String
  fromJsonSilent : String → Option JsonizeSilent
  toJsonSilent : JsonizeSilent → String

/-- The case `switch (apiId)` takes among labels with the given ids, or `none` for `default`. -/
def switchCase {α : Type} (labelId : α → Int32) (labels : List α) (apiId : Int32) : Option α :=
  labels.find? fun a => labelId a == apiId

/-- If the labels are distinct and all there, a `switch` takes the branch of a label exactly on its
id. -/
theorem switchCase_eq_some_iff {α : Type} {labelId : α → Int32} {labels : List α}
    (hinj : Function.Injective labelId) (hmem : ∀ a, a ∈ labels) {apiId : Int32} {a : α} :
    switchCase labelId labels apiId = some a ↔ labelId a = apiId := by
  constructor
  · intro h
    simpa using List.find?_some h
  · rintro rfl
    cases h : switchCase labelId labels (labelId a) with
    | none =>
      have hne := List.find?_eq_none.mp h a (hmem a)
      simp at hne
    | some b =>
      have hid := List.find?_some h
      exact congrArg some (hinj (by simpa using hid))

namespace UnitreeSdk

variable {K : Type} (sdk : UnitreeSdk K)

/-! ## Switching on an API id -/

/-- The case of a `switch` over sport API ids. -/
def sportApi? (apiId : Int32) : Option SportApi :=
  switchCase sdk.sportApiId SportApi.all apiId

/-- The case of a `switch` over motion switcher API ids. -/
def switcherApi? (apiId : Int32) : Option SwitcherApi :=
  switchCase sdk.switcherApiId SwitcherApi.all apiId

/-- The case of a `switch` over internal API ids. -/
def internalApi? (apiId : Int32) : Option InternalApi :=
  switchCase sdk.internalApiId InternalApi.all apiId

/-- The motion switcher ids are distinct. -/
theorem switcherApiId_injective : Function.Injective sdk.switcherApiId := fun _ _ h =>
  Sum.inr_injective (sdk.switcherLabel_injective (by simpa using h))

/-- No internal id is one of the motion switcher. -/
theorem internalApiId_ne_switcherApiId (a : InternalApi) (b : SwitcherApi) :
    sdk.internalApiId a ≠ sdk.switcherApiId b := by
  intro h
  have hlabel : Sum.elim sdk.internalApiId sdk.switcherApiId (.inl a) =
      Sum.elim sdk.internalApiId sdk.switcherApiId (.inr b) := h
  exact Sum.inl_ne_inr (sdk.switcherLabel_injective hlabel)

/-- An id belongs to the sport API whose id it is. -/
theorem sportApi?_eq_some_iff {apiId : Int32} {a : SportApi} :
    sdk.sportApi? apiId = some a ↔ sdk.sportApiId a = apiId :=
  switchCase_eq_some_iff sdk.sportApiId_injective SportApi.mem_all

/-- An id belongs to the motion switcher API whose id it is. -/
theorem switcherApi?_eq_some_iff {apiId : Int32} {a : SwitcherApi} :
    sdk.switcherApi? apiId = some a ↔ sdk.switcherApiId a = apiId :=
  switchCase_eq_some_iff sdk.switcherApiId_injective SwitcherApi.mem_all

/-- The id of a sport API belongs to it. -/
@[simp] theorem sportApi?_sportApiId (a : SportApi) :
    sdk.sportApi? (sdk.sportApiId a) = some a := sdk.sportApi?_eq_some_iff.mpr rfl

/-- The id of a motion switcher API belongs to it. -/
@[simp] theorem switcherApi?_switcherApiId (a : SwitcherApi) :
    sdk.switcherApi? (sdk.switcherApiId a) = some a := sdk.switcherApi?_eq_some_iff.mpr rfl

/-- No internal id is also a motion switcher id. -/
@[simp] theorem internalApi?_switcherApiId (a : SwitcherApi) :
    sdk.internalApi? (sdk.switcherApiId a) = none :=
  List.find?_eq_none.mpr fun b _ => by simpa using sdk.internalApiId_ne_switcherApiId b a

end UnitreeSdk

/-! ## A sample SDK -/

/-- The JSON values of the sample parameters. -/
inductive SampleJson where
  | number (n : Int32)
  | bool (b : Bool)
  | text (t : String)
  | map (entries : List (String × SampleJson))

/-- The parameter texts the sample SDK parses; it throws on every other text. -/
def sampleTexts : List (String × SampleJson) :=
  [("\x7b\"x\":0\x7d", .map [("x", .number 0)]),
    ("\x7b\"x\":1\x7d", .map [("x", .number 1)]),
    ("\x7b\"data\":1\x7d", .map [("data", .number 1)]),
    ("\x7b\"data\":true\x7d", .map [("data", .bool true)]),
    ("\x7b\"data\":false\x7d", .map [("data", .bool false)]),
    ("\x7b\"name\":\"normal\"\x7d", .map [("name", .text "normal")])]

/-- The B2 and Go2 ids, as far as they matter distinct. -/
def sampleSportApiId : SportApi → Int32
  | .damp => 1001
  | .balanceStand => 1002
  | .stopMove => 1003
  | .standUp => 1004
  | .standDown => 1005
  | .recoveryStand => 1006
  | .move => 1008
  | .switchGait => 1011
  | .speedLevel => 1015
  | .switchMoveMode => 1038
  | .freeWalkB2 => 1045
  | .classicWalkB2 => 1049
  | .fastWalk => 1050
  | .visionWalk => 1101
  | .freeWalkGo2 => 2045
  | .classicWalkGo2 => 2049

/-- The motion switcher ids. -/
def sampleSwitcherApiId : SwitcherApi → Int32
  | .checkMode => 1001
  | .selectMode => 1002
  | .releaseMode => 1003
  | .setSilent => 1004
  | .getSilent => 1005

/-- The internal ids. -/
def sampleInternalApiId : InternalApi → Int32
  | .apiVersion => 1
  | .noop => 2
  | .leaseApply => 101
  | .leaseRenewal => 102

/-- A concrete SDK, for evaluating the model on the sample parameters. -/
def sampleSdk (K : Type) [IntCast K] : UnitreeSdk K where
  sportApiId := sampleSportApiId
  sportApiId_injective := by
    intro a b h
    revert h
    cases a <;> cases b <;> decide
  switcherApiId := sampleSwitcherApiId
  internalApiId := sampleInternalApiId
  switcherLabel_injective := by
    rintro (a | a) (b | b) h <;> revert h <;> cases a <;> cases b <;> decide
  sportApiVersion := "1.0.0.1"
  switcherApiVersion := "1.0.0.1"
  errBusy := 7002
  errApiParameter := 3204
  errBusy_ne_zero := by decide
  errApiParameter_ne_zero := by decide
  errBusy_ne_errApiParameter := by decide
  Any := SampleJson
  fromJsonString := fun text => sampleTexts.lookup text
  isJsonMap
    | .map _ => true
    | _ => false
  find
    | .map entries, key => entries.lookup key
    | _, _ => none
  fromJsonDouble
    | .number n => some (n.toInt : K)
    | _ => none
  fromJsonInt
    | .number n => some n
    | _ => none
  fromJsonBool
    | .bool b => some b
    | _ => none
  fromJsonText
    | .text t => some t
    | _ => none
  fromJsonModeName := fun text =>
    match sampleTexts.lookup text with
    | some (.map [("name", .text name)]) => some { form := "", name := name }
    | _ => none
  toJsonModeName := fun m =>
    "\x7b\"form\":\"" ++ m.form ++ "\",\"name\":\"" ++ m.name ++ "\"\x7d"
  fromJsonSilent := fun text =>
    if text = "\x7b\"silent\":true\x7d" then some { silent := true } else none
  toJsonSilent := fun d => "\x7b\"silent\":" ++ (if d.silent then "true" else "false") ++ "\x7d"

/-- The sample SDK with one more parameter text. -/
def sampleSdkWith (K : Type) [IntCast K] (text : String) (json : SampleJson) : UnitreeSdk K :=
  { sampleSdk K with
    fromJsonString := fun t => if t = text then some json else (sampleSdk K).fromJsonString t }

/-! ### A sample with records that survive a round trip

`sampleSdk` writes a record without quoting its strings, so that not every text it writes can be
read back. This one quotes them. -/

/-- The quotation mark. -/
def quoteChar : Char := Char.ofNat 34

/-- The backslash. -/
def backslashChar : Char := Char.ofNat 92

/-- The characters of a string, with a backslash before each quote and each backslash. -/
def escapeChars : List Char → List Char
  | [] => []
  | c :: cs =>
    if c = quoteChar ∨ c = backslashChar then backslashChar :: c :: escapeChars cs
    else c :: escapeChars cs

/-- The characters up to the closing quote, and the rest of the text. -/
def unescapeChars : List Char → Option (List Char × List Char)
  | [] => none
  | c :: cs =>
    if c = quoteChar then some ([], cs)
    else if c = backslashChar then
      match cs with
      | [] => none
      | d :: ds => (unescapeChars ds).map fun r => (d :: r.1, r.2)
    else (unescapeChars cs).map fun r => (c :: r.1, r.2)

/-- What was escaped is read back up to the closing quote. -/
theorem unescapeChars_escapeChars (cs rest : List Char) :
    unescapeChars (escapeChars cs ++ quoteChar :: rest) = some (cs, rest) := by
  have hne : backslashChar ≠ quoteChar := by decide
  induction cs with
  | nil =>
    rw [escapeChars, List.nil_append, unescapeChars.eq_def]
    simp
  | cons c cs ih =>
    rw [escapeChars]
    split_ifs with h
    · rw [List.cons_append, List.cons_append, unescapeChars.eq_def]
      simp [ih, hne]
    · obtain ⟨hquote, hbackslash⟩ := not_or.mp h
      rw [List.cons_append, unescapeChars.eq_def]
      simp [hquote, hbackslash, ih]

/-- What comes before the form in a written record. -/
def formKey : List Char := "\x7b\"form\":\"".toList

/-- What comes between the form and the name in a written record. -/
def nameKey : List Char := ",\"name\":\"".toList

/-- A form and a name as a JSON text with quoted strings. -/
def writeModeName (m : JsonizeModeName) : String :=
  String.ofList (formKey ++ (escapeChars m.form.toList ++ quoteChar ::
    (nameKey ++ (escapeChars m.name.toList ++ [quoteChar, Char.ofNat 125]))))

/-- The form and the name of a text that was written so. -/
def readModeName (text : String) : Option JsonizeModeName :=
  (text.toList.dropPrefix? formKey).bind fun rest =>
  (unescapeChars rest).bind fun form =>
  (form.2.dropPrefix? nameKey).bind fun rest =>
  (unescapeChars rest).map fun name =>
    { form := String.ofList form.1, name := String.ofList name.1 }

/-- A written record is read back as it was. -/
theorem readModeName_writeModeName (m : JsonizeModeName) :
    readModeName (writeModeName m) = some m := by
  have hdrop : ∀ p cs : List Char, (p ++ cs).dropPrefix? p = some cs := fun p cs =>
    List.dropPrefix?_append_of_beq cs (beq_self_eq_true p)
  simp only [readModeName, writeModeName, String.toList_ofList, hdrop, Option.bind_some,
    unescapeChars_escapeChars, Option.map_some, String.ofList_toList]

/-- The sample SDK with records that survive a round trip. -/
def sampleRoundTripSdk (K : Type) [IntCast K] : UnitreeSdk K :=
  { sampleSdk K with
    fromJsonModeName := fun text =>
      (readModeName text).or ((sampleSdk K).fromJsonModeName text)
    toJsonModeName := writeModeName
    fromJsonSilent := fun text =>
      if text = "\x7b\"silent\":true\x7d" then some { silent := true }
      else if text = "\x7b\"silent\":false\x7d" then some { silent := false } else none }

/-- The mode name records of the sample survive a round trip. -/
theorem sampleRoundTripSdk_modeName {K : Type} [IntCast K] (m : JsonizeModeName) :
    (sampleRoundTripSdk K).fromJsonModeName ((sampleRoundTripSdk K).toJsonModeName m) =
      some m := by
  simp [sampleRoundTripSdk, readModeName_writeModeName]

/-- The silent records of the sample survive a round trip. -/
theorem sampleRoundTripSdk_silent {K : Type} [IntCast K] (d : JsonizeSilent) :
    (sampleRoundTripSdk K).fromJsonSilent ((sampleRoundTripSdk K).toJsonSilent d) = some d := by
  obtain ⟨_ | _⟩ := d <;> rfl

/-- A request with a given API id and parameter. -/
def sampleRequest (apiId : Int64) (parameter : String) : Request :=
  { identity := { id := 0, apiId := apiId }, parameter := parameter }

end SdkEventBridge
